import TiffStrip.Proofs.File.History
import TiffStrip.Proofs.Layout.Rows

namespace TiffStrip

open ScanlineSource

def PixelKind.form : PixelKind → RowForm
  | blackIsZero | whiteIsZero | grayAlpha _ .contiguous => .graySamples
  | grayAlpha _ .separate => .grayPlanes
  | rgb .contiguous | rgba .contiguous => .rgbPixels
  | rgb .separate | rgba .separate => .rgbPlanes

namespace StoredImage

variable {image : StoredImage} {index? : Option Nat} {count : Nat}

theorem rowForm?_info : (image.info index? count).rowForm? = some image.kind.form := by
  unfold info ImageInfo.rowForm?
  cases image.kind with
  | blackIsZero | whiteIsZero => rfl
  | rgb planar | rgba planar => cases planar <;> rfl
  | grayAlpha white planar => cases white <;> cases planar <;> rfl

theorem expansion_form (kind : PixelKind) : kind.form.expansion = 1 := by
  cases kind with
  | blackIsZero | whiteIsZero => rfl
  | rgb planar | grayAlpha _ planar | rgba planar => cases planar <;> rfl

theorem planes_form : image.kind.form.planes (image.info index? count) = image.kind.planes := by
  unfold info RowForm.planes
  cases image.kind with
  | blackIsZero | whiteIsZero => rfl
  | rgb planar | grayAlpha _ planar | rgba planar => cases planar <;> rfl

theorem inputLength_form :
    image.kind.form.inputLength (image.info index? count) = image.rowLength := by
  have hbytes : ceilDiv (image.width * 8) 8 = image.width := by
    unfold ceilDiv
    omega
  unfold info rowLength RowForm.inputLength ImageInfo.bytesPerRow
  cases image.kind with
  | blackIsZero | whiteIsZero => exact congrArg (· * 1) hbytes
  | grayAlpha _ planar =>
    cases planar with
    | contiguous => exact congrArg (· * 2) hbytes
    | separate => exact hbytes.trans (Nat.mul_one _).symm
  | rgb planar | rgba planar =>
    cases planar with
    | contiguous => rfl
    | separate => exact (Nat.mul_one _).symm

theorem rasterLength_info (h : image.pixels.length < Address.limit) :
    (image.info index? count).rasterLength = .ok image.pixels.length := by
  have hlength := image.length_pixels_eq
  have hplane : image.rowLength * image.height * image.kind.planes = image.pixels.length := by
    rw [hlength]
    ac_rfl
  have hfits : image.rowLength * image.height < Address.limit :=
    Nat.lt_of_le_of_lt (Nat.le_mul_of_pos_right _ image.kind.planes_pos) (hplane ▸ h)
  have hrow : image.rowLength < Address.limit :=
    Nat.lt_of_le_of_lt (Nat.le_mul_of_pos_right _ image.height_pos) hfits
  have hform : image.kind.form.rasterLength? (image.info index? count) =
      some image.pixels.length := by
    simp only [RowForm.rasterLength?, inputLength_form, planes_form, expansion_form, Nat.mul_one,
      Option.bind_eq_bind, Option.bind_eq_some_iff, Address.mul?_eq_some]
    exact ⟨_, ⟨rfl, hrow⟩, _, ⟨rfl, hfits⟩, hplane, h⟩
  unfold ImageInfo.rasterLength ImageInfo.rowForm
  rw [rowForm?_info]
  simp only [bind, Except.bind, hform]
  rfl

/-- The outcome of a decode that lays down all pixels. -/
def outcome (image : StoredImage) (index? : Option Nat) (count : Nat) : Outcome where
  info := image.info index? count
  status := .complete
  written := image.pixels.length

/-- The plan for a stored image. -/
def plan (image : StoredImage) (count : Nat) : Plan where
  info := image.info none count
  form := image.kind.form
  colormap? := none
  scanlineSize := image.rowLength

theorem lines_plan : (image.plan count).lines = image.kind.planes * image.height :=
  congrArg (· * image.height) planes_form

theorem inputLength_plan : (image.plan count).inputLength = image.rowLength :=
  inputLength_form

theorem bufferLength_plan : (image.plan count).bufferLength = image.rowLength := by
  rw [Plan.bufferLength, inputLength_plan]
  exact Nat.max_self _

namespace Shown

variable {encoding : Encoding} {start next : Nat} {file : File}

/-- What shows a stored image is what is left of a file when it is bare. -/
theorem of_bare (h : image.Shown encoding start next file) {used : File} (hused : used.Genuine)
    (hbare : used.bare = file.bare) : image.Shown encoding start next used where
  genuine := hused
  header := (congrArg Header.encoding (File.header_eq hbare)).trans h.header
  directory := (File.directory_eq hbare).trans h.directory
  placed := ⟨h.placed.fits, h.placed.next_lt,
    h.placed.holds.of_rewound (congrArg File.stream hbare)⟩
  size_lt := by
    have hsize : used.stream.size = file.stream.size :=
      show used.bare.stream.size = file.bare.stream.size by rw [hbare]
    rw [hsize]
    exact h.size_lt

/-- The pixels are all in the file. -/
theorem length_pixels_le (h : image.Shown encoding start next file) :
    image.pixels.length ≤ file.stream.size := by
  have hinside := h.placed.strips.le_size
  rw [flatten_strips] at hinside
  omega

theorem answer_readPlan (h : image.Shown encoding start next file) :
    answer (Plan.read none image.pixels.length) file =
      .ok (image.plan file.directories.length) := by
  have hinfo : Steady File.bare (ImageInfo.read none) := fun b => (File.inspects_bare b).readInfo
  have hform : (image.info none file.directories.length).rowForm = .ok image.kind.form := by
    rw [ImageInfo.rowForm, rowForm?_info]
  have hlength : (image.info none file.directories.length).rasterLength = _ :=
    rasterLength_info (Nat.lt_of_le_of_lt h.length_pixels_le h.size_lt)
  have hmap : (Plan.readColormap (image.info none file.directories.length) :
      EStateM DecodeError File _) = pure none := by
    apply if_pos
    change image.kind.photometric ≠ .palette
    cases image.kind with
    | blackIsZero | whiteIsZero | rgb _ | rgba _ => exact fun h => nomatch h
    | grayAlpha white _ => cases white <;> exact fun h => nomatch h
  rw [Plan.read_eq]
  refine hinfo.answer_next (h.answer_readSelected none) (fun f hf => ?_) rfl
  unfold Plan.ofInfo
  rw [hmap, hform, hlength]
  change answer (if image.pixels.length < image.pixels.length then _ else _) f = _
  have hsize : answer (scanlineSize : EStateM FormatError File Nat) f = .ok image.rowLength :=
    (File.visible_scanlineSize.answer_eq hf).trans h.answer_scanlineSize
  rw [if_neg (Nat.lt_irrefl _), answer_bind, answer_request hsize]
  rfl

/-- What shows a stored image goes on showing it while scanlines are read, and the buffer always has
room for a row. -/
theorem scan (h : image.Shown encoding start next file) {lines : Nat}
    (scan : (image.plan count).Scan file lines) {line : Nat} (hline : line ≤ lines) :
    image.Shown encoding start next (scan.source line) ∧
      (scan.buffer line).length = image.rowLength := by
  have hkept := scan.keeps (File.reads_bare file.bare) ⟨rfl, h.genuine⟩ hline
  refine ⟨h.of_bare hkept.2 hkept.1, ?_⟩
  rw [scan.even_of_keeps line hline, bufferLength_plan]

/-- The raster of a whole scan is the pixels. -/
theorem raster_eq_pixels (h : image.Shown encoding start next file)
    (whole : (image.plan count).Scan file (image.plan count).lines) :
    whole.raster = image.pixels := by
  have hrow : ∀ line ∈ List.range (image.plan count).lines,
      (image.plan count).expand ((whole.buffer (line + 1)).take (image.plan count).inputLength) =
        image.row (line / image.height) (line % image.height) := by
    intro line hline
    have hlt : line < image.kind.planes * image.height := lines_plan ▸ List.mem_range.mp hline
    have hplane : line / image.height < image.kind.planes :=
      Nat.div_lt_of_lt_mul (Nat.mul_comm _ _ ▸ hlt)
    have hrow : line % image.height < image.height := Nat.mod_lt _ image.height_pos
    obtain ⟨hshown, hbuffer⟩ := h.scan whole (Nat.le_of_lt (List.mem_range.mp hline))
    have hread := answer_of_ok (whole.read line (List.mem_range.mp hline))
    have hanswer := hshown.answer_readScanline hplane hrow (Nat.le_of_eq hbuffer.symm)
    have hnext : whole.buffer (line + 1) = overwrite (image.row (line / image.height)
        (line % image.height)) (whole.buffer line) :=
      Except.ok.inj (hread.symm.trans hanswer)
    rw [inputLength_plan, hnext, ← length_row hplane hrow, take_overwrite]
    rfl
  calc whole.raster
    _ = (List.range (image.plan count).lines).flatMap fun line =>
          image.row (line / image.height) (line % image.height) :=
        congrArg List.flatten (List.map_congr_left hrow)
    _ = image.pixels := by rw [lines_plan, flatMap_row]

theorem decodeInto_pixels (h : image.Shown encoding start next file) {raster : Array UInt8}
    (hraster : raster.size = image.pixels.length) :
    (decodeInto none raster file).result =
        .ok (image.outcome none file.directories.length) ∧
      (decodeInto none raster file).raster = image.pixels.toArray := by
  have hplan := answer_eq_ok.mp (hraster ▸ h.answer_readPlan)
  have hplanned := (File.reads_bare file.bare).keeps_readPlan none raster.size ⟨rfl, h.genuine⟩
  have hshown := h.of_bare hplanned.2 hplanned.1
  obtain ⟨whole, hresult, hbytes, _⟩ | ⟨row, sample, cause, stopped, _⟩ :=
    decodeInto_planned hplan
  · rw [hshown.raster_eq_pixels whole] at hresult hbytes
    refine ⟨hresult, ?_⟩
    rw [← Array.toList_inj, hbytes]
    exact overwrite_of_length_eq (hraster.symm.trans Array.length_toList.symm)
  · have hsample : sample < image.kind.planes := planes_form ▸ stopped.sample_lt
    obtain ⟨hstill, hbuffer⟩ := hshown.scan stopped.scan (Nat.le_refl _)
    have hread := hstill.answer_readScanline hsample stopped.row_lt (Nat.le_of_eq hbuffer.symm)
    cases (answer_of_error stopped.fails).symm.trans hread

/-- What is left of a decode once a stored image has been described. -/
theorem answer_decodeDescribed (h : image.Shown encoding start next file)
    (hmax : file.stream.size ≤ maxRaster) :
    answer (decodeDescribed index? (image.info index? count)) file =
      .ok (image.outcome index? file.directories.length, image.pixels.toArray) := by
  have hinside := h.length_pixels_le
  have hlength : (image.info index? count).rasterLength = _ :=
    rasterLength_info (Nat.lt_of_le_of_lt hinside h.size_lt)
  have hcheck : checkSize (image.info index? count) image.pixels.length (dataSize? file) =
      .ok () := by
    change checkSize _ _ (some file.stream.size) = _
    unfold checkSize
    rw [rowForm?_info]
    simp only [Option.map_some, Option.getD_some, expansion_form, Nat.div_one]
    rw [if_neg (Nat.not_lt.mpr hinside)]
    exact if_neg (Nat.not_lt.mpr (Nat.le_trans hinside hmax))
  obtain ⟨hresult, hraster⟩ := h.decodeInto_pixels (Array.size_replicate (v := (0 : UInt8)))
  apply answer_of_ok (t := (decodeInto none (Array.replicate image.pixels.length 0) file).source)
  unfold decodeDescribed
  rw [ofExcept_bind hlength, get_bind]
  apply (ofExcept_bind hcheck _ _).trans
  simp only [hresult, hraster]
  rfl

/-- A stored image is decoded when it can be selected and is shown then. -/
theorem answer_decodeImage {used : File} {index : Nat}
    (hselect : answer (File.select index) used = .ok ())
    (h : image.Shown encoding start next (after (File.select index) used))
    (hmax : (after (File.select index) used).stream.size ≤ maxRaster) :
    answer (decodeImage (some index)) used =
      .ok (image.outcome (some index) used.directories.length, image.pixels.toArray) := by
  have hinfo := h.answer_readSelected (some index)
  have hkept := (File.reads_bare _).keeps_readInfo (some index) (s := used) ⟨rfl, h.genuine⟩
  have hdescribed := h.of_bare hkept.2 hkept.1
  have hsize : (after (ImageInfo.read (some index)) used).stream.size =
      (after (File.select index) used).stream.size :=
    congrArg (·.stream.size) hkept.1
  have hcount : (after (ImageInfo.read (some index)) used).directories.length =
      used.directories.length :=
    congrArg List.length ((File.directories_eq (File.reopened_eq hkept.1)).trans
      (File.directories_eq (File.reopened_after_select index used)))
  have hread : answer (ImageInfo.read (some index)) used =
      answer (ImageInfo.readSelected (some index)) (after (File.select index) used) := by
    change answer (EStateM.adaptExcept _ (File.select index) >>= fun _ => _) used = _
    rw [answer_bind, answer_adaptExcept, after_adaptExcept, hselect]
    rfl
  rw [decodeImage_eq, answer_bind, hread, hinfo, ← hcount]
  exact hdescribed.answer_decodeDescribed (hsize ▸ hmax)

end Shown

end StoredImage

namespace StoredFile

open File

variable {encoding : Encoding} {images : List StoredImage}

/-- A file with the contents of a stored file shows the image that it is turned to. -/
theorem exists_shown (hfits : Fits encoding images) {file : File} (hgenuine : file.Genuine)
    (hheader : file.header = header encoding)
    (hdirectories : file.directories = directories encoding encoding.format.headerSize images)
    (hcontents : file.stream.contents.toList = bytes encoding images)
    (hsize : file.stream.size < Address.limit) {image : StoredImage}
    (himage : images[file.current]? = some image) :
    ∃ start next, image.Shown encoding start next file := by
  obtain ⟨start, next, hdirectory, hplaced⟩ := exists_placed hfits (holds_body hcontents) himage
  rw [← hdirectories, List.getElem?_eq_getElem file.current_lt] at hdirectory
  exact ⟨start, next, hgenuine, by rw [hheader]; rfl, Option.some.inj hdirectory, hplaced, hsize⟩

/-- A stored file opens, and whatever else is asked of it before, a decode of an image lays down its
pixels. -/
theorem exists_decoded (name : String) (hne : images ≠ []) (hmax : images.length ≤ maxDirectories)
    (hfits : Fits encoding images) (hlength : (bytes encoding images).length ≤ maxRaster) :
    ∃ file, ofBytes name (bytes encoding images).toArray = .ok file ∧
      file.directories.length = images.length ∧
      ∀ history index image, images[index]? = some image →
        answer (decodeImage (some index)) (afterAll history file) =
          .ok (image.outcome (some index) images.length, image.pixels.toArray) := by
  have hlimit : (bytes encoding images).length < Address.limit :=
    Nat.lt_of_le_of_lt hlength (by decide)
  obtain ⟨file, hopen, hheader, hdirectories, hcontents⟩ :=
    exists_opened name hne hmax hfits hlimit
  have hcount : file.directories.length = images.length := by
    rw [hdirectories, length_directories]
  refine ⟨file, hopen, hcount, fun history index image himage => ?_⟩
  have hfile := genuine_of_ofStream hopen
  have hselected := genuine_after_select index (genuine_afterAll hfile history)
  have hreopened : (after (select index) (afterAll history file)).reopened = file.reopened :=
    (reopened_after_select index _).trans (reopened_afterAll hfile history)
  have hindex : index < (afterAll history file).directories.length := by
    rw [directories_afterAll hfile history, hcount]
    exact (List.getElem?_eq_some_iff.mp himage).1
  have hanswer := (answer_select index (afterAll history file)).trans (if_pos hindex)
  have hcurrent := (current_after_select index (afterAll history file)).trans (if_pos hindex)
  have hstream : (after (select index) (afterAll history file)).stream.contents =
      file.stream.contents := congrArg (·.stream.contents) hreopened
  have hsize : (after (select index) (afterAll history file)).stream.size =
      (bytes encoding images).length := by
    rw [← hcontents, ← hstream, Array.length_toList]
    rfl
  obtain ⟨start, next, hshown⟩ := exists_shown hfits hselected
    ((congrArg File.header hreopened).trans hheader)
    ((directories_eq hreopened).trans hdirectories) (hstream ▸ hcontents) (hsize ▸ hlimit)
    (hcurrent ▸ himage)
  have hdecoded := hshown.answer_decodeImage hanswer (hsize ▸ hlength)
  rwa [directories_afterAll hfile history, hcount] at hdecoded

/-- **Stored files are read back.** Whatever the byte order and the format, and however the rows are
cut into strips, a file of one to a hundred stored images opens and has an entry for each of them.
Whatever else is asked of the file before, each image is decoded completely, to the pixels that were
stored for it. No byte string in memory is longer than the longest raster. -/
theorem decodeImage_of_stored (name : String) (hne : images ≠ [])
    (hmax : images.length ≤ maxDirectories) (hfits : Fits encoding images)
    (hlength : (bytes encoding images).length ≤ maxRaster) :
    ∃ file, ofBytes name (bytes encoding images).toArray = .ok file ∧
      ScanlineSource.imageCount file = images.length ∧
      ∀ history index image, images[index]? = some image →
        ∃ outcome, answer (decodeImage (some index)) (afterAll history file) =
          .ok (outcome, image.pixels.toArray) ∧ outcome.status = .complete := by
  obtain ⟨file, hopen, hcount, hdecode⟩ := exists_decoded name hne hmax hfits hlength
  exact ⟨file, hopen, hcount, fun history index image himage =>
    ⟨_, hdecode history index image himage, rfl⟩⟩

/-- The planes of four colors come back, though a request that failed came before. -/
theorem decodeImage_of_grayAndColors :
    grayAndColors ≠ [] ∧ grayAndColors.length ≤ maxDirectories ∧
      Fits ⟨.big, .big⟩ grayAndColors ∧ (bytes ⟨.big, .big⟩ grayAndColors).length ≤ maxRaster ∧
      ∃ file, ofBytes "planes" (bytes ⟨.big, .big⟩ grayAndColors).toArray = .ok file ∧
        ScanlineSource.imageCount file = 2 ∧
        ∃ outcome, answer (decodeImage (some 1)) (afterAll [.select 7] file) =
          .ok (outcome, #[255, 0, 0, 9, 0, 255, 0, 8, 0, 0, 255, 7]) ∧
          outcome.status = .complete := by
  have hfits : Fits ⟨.big, .big⟩ grayAndColors := by
    unfold Fits
    decide +kernel
  have hlength : (bytes ⟨.big, .big⟩ grayAndColors).length ≤ maxRaster := by decide +kernel
  have hne : grayAndColors ≠ [] := List.cons_ne_nil _ _
  obtain ⟨file, hopen, hcount, hdecode⟩ :=
    decodeImage_of_stored "planes" hne (by decide) hfits hlength
  exact ⟨hne, by decide, hfits, hlength, file, hopen, hcount, hdecode [.select 7] 1 _ rfl⟩

end StoredFile

end TiffStrip
