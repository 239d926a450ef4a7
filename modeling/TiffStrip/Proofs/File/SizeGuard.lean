import Mathlib.Algebra.Order.BigOperators.Group.Finset
import Mathlib.Order.Interval.Finset.Nat
import TiffStrip.Proofs.Decode.Whole
import TiffStrip.Proofs.File.Described
import TiffStrip.Proofs.File.Lines

/-!
# The size guard

A whole image is refused if more would be taken from its scanlines than its file holds. What is taken
of a scanline is one thing, the bytes that it is read from are another: scanlines may share their
bytes, and a scanline may hold more than is taken of it.
-/

namespace TiffStrip

namespace RowForm

/-- Bytes of a scanline for each byte that is taken of it, rounded up. -/
def bytesPerInput (form : RowForm) (info : ImageInfo) : Nat :=
  match form with
  | .graySamples | .grayPlanes => 1
  | .paletteColors =>
    ceilDiv (samplesPerScanline info.planar info.samplesPerPixel * info.bitsPerSample) 8
  | .rgbPixels | .rgbPlanes => ceilDiv info.bitsPerSample 8

/-- A scanline holds at most so many bytes for each that is taken of it. -/
theorem scanlineSize_le {info : ImageInfo} {form : RowForm} (h : info.rowForm? = some form) :
    info.scanlineSize ≤ form.inputLength info * form.bytesPerInput info := by
  have hrow := le_ceilDiv_mul (info.width * info.bitsPerSample) (show 0 < 8 by decide)
  have hsample := le_ceilDiv_mul info.bitsPerSample (show 0 < 8 by decide)
  have hpixel := le_ceilDiv_mul
    (samplesPerScanline info.planar info.samplesPerPixel * info.bitsPerSample)
    (show 0 < 8 by decide)
  unfold ImageInfo.rowForm? of? at h
  rw [ImageInfo.scanlineSize, scanlineBytes, ceilDiv_le_iff (by decide)]
  split at h <;> cases h
  -- Gray samples are packed, so what is padded is each row taken by itself, not the scanline.
  case h_1.refl hplanar | h_2.refl hplanar =>
    have hrows := Nat.mul_le_mul_left info.samplesPerPixel hrow
    simp only [inputLength, bytesPerInput, hplanar, samplesPerScanline, ImageInfo.bytesPerRow]
    calc info.width * info.samplesPerPixel * info.bitsPerSample
        = info.samplesPerPixel * (info.width * info.bitsPerSample) := by ac_rfl
      _ ≤ info.samplesPerPixel * (ceilDiv (info.width * info.bitsPerSample) 8 * 8) := hrows
      _ = ceilDiv (info.width * info.bitsPerSample) 8 * info.samplesPerPixel * 1 * 8 := by
        rw [Nat.mul_one]
        ac_rfl
  case h_3.refl hplanar | h_4.refl hplanar =>
    simp only [inputLength, bytesPerInput, hplanar, samplesPerScanline, ImageInfo.bytesPerRow,
      Nat.mul_one]
    exact hrow
  -- One byte is taken of a pixel with a palette, or of a color sample, of however many bits.
  case h_5.refl =>
    simp only [inputLength, bytesPerInput]
    rw [Nat.mul_assoc, Nat.mul_assoc]
    exact Nat.mul_le_mul_left _ hpixel
  case h_6.refl hplanar =>
    simp only [inputLength, bytesPerInput, hplanar, samplesPerScanline]
    rw [Nat.mul_assoc _ _ 8]
    exact Nat.mul_le_mul_left _ hsample
  case h_7.refl hplanar =>
    simp only [inputLength, bytesPerInput, hplanar, samplesPerScanline, Nat.mul_one]
    rw [Nat.mul_assoc _ _ 8]
    exact Nat.mul_le_mul_left _ hsample

end RowForm

namespace StripTable

/-- The offsets of the bytes of a scanline, none if it is not located. -/
def span (table : StripTable) (line : Nat × Nat) : Finset Nat :=
  match table.locate line.2 line.1 with
  | .error _ => ∅
  | .ok offset => Finset.Ico offset (offset + table.scanlineSize)

/-- The rows of so many planes. -/
def linesOf (planes height : Nat) : Finset (Nat × Nat) :=
  Finset.range planes ×ˢ Finset.range height

/-- No two scanlines share a byte. -/
def Apart (table : StripTable) (planes height : Nat) : Prop :=
  ∀ line ∈ linesOf planes height, ∀ other ∈ linesOf planes height,
    line ≠ other → Disjoint (table.span line) (table.span other)

instance (table : StripTable) (planes height : Nat) : Decidable (table.Apart planes height) :=
  Finset.decidableDforallFinset

end StripTable

namespace File

open StripTable (linesOf)

theorem size_eq {f g : File} (h : f.reopened = g.reopened) : f.stream.size = g.stream.size :=
  show f.reopened.stream.size = g.reopened.stream.size by rw [h]

/-- A scanline that is read is in the file, all of it. -/
theorem span_of_readScanline {row sample : Nat} {buffer buffer' : List UInt8} {file : File}
    (hfile : file.Genuine) (h : answer (readScanline row sample buffer) file = .ok buffer') :
    ∃ table, answer loadStrips file = .ok table ∧
      table.span (sample, row) ⊆ Finset.range file.stream.size ∧
      (table.span (sample, row)).card = table.scanlineSize := by
  rw [answer_readScanline row sample buffer hfile] at h
  obtain ⟨table, htable, h⟩ := except_bind_eq_ok.mp h
  obtain ⟨offset, hoffset, h⟩ := except_bind_eq_ok.mp h
  obtain ⟨_, h⟩ := unless_eq_ok.mp h
  obtain ⟨bytes, hbytes, h⟩ := except_bind_eq_ok.mp h
  have hinside := (answer_readRange_eq_ok.mp hbytes).1.2
  have hspan : table.span (sample, row) = Finset.Ico offset (offset + table.scanlineSize) := by
    rw [StripTable.span, hoffset]
  refine ⟨table, htable, ?_⟩
  rw [hspan]
  constructor
  · intro byte hbyte
    rw [Finset.mem_Ico] at hbyte
    exact Finset.mem_range.mpr (Nat.lt_of_lt_of_le hbyte.2 hinside)
  · rw [Nat.card_Ico, Nat.add_sub_cancel_left]

/-- Every scanline of a whole scan is in the file. -/
theorem span_of_scan {plan : Plan} {file : File} (hfile : file.Genuine)
    (whole : plan.Scan file plan.lines) {sample row : Nat}
    (hsample : sample < plan.form.planes plan.info) (hrow : row < plan.info.height) :
    ∃ table, answer loadStrips file = .ok table ∧
      table.span (sample, row) ⊆ Finset.range file.stream.size ∧
      (table.span (sample, row)).card = table.scanlineSize := by
  have hline := Plan.line_lt hsample hrow
  obtain ⟨hbare, hgenuine⟩ :=
    whole.keeps (reads_bare file.bare) ⟨rfl, hfile⟩ (Nat.le_of_lt hline)
  have hanswer := answer_of_ok (whole.read _ hline)
  rw [Plan.rowOf_line sample hrow, Plan.sampleOf_line sample hrow] at hanswer
  have hspan := span_of_readScanline hgenuine hanswer
  rwa [visible_loadStrips.answer_eq hbare, size_eq (reopened_eq hbare)] at hspan

/-- Scanlines that all have been read and share no byte have room in the file side by side. -/
theorem lines_fit {plan : Plan} {file : File} (hfile : file.Genuine)
    (whole : plan.Scan file plan.lines)
    (hapart : ∀ table, answer loadStrips file = .ok table →
      table.Apart (plan.form.planes plan.info) plan.info.height) :
    plan.lines * file.lineSize ≤ file.stream.size := by
  cases htable : answer loadStrips file with
  | error error =>
    rcases Nat.eq_zero_or_pos plan.lines with hnone | hlines
    · rw [hnone, Nat.zero_mul]
      exact Nat.zero_le _
    · obtain ⟨sample, row, hrow, hsample, _⟩ := Plan.exists_line hlines
      obtain ⟨table, hfound, _⟩ := span_of_scan hfile whole hsample hrow
      rw [htable] at hfound
      cases hfound
  | ok table =>
    have hread : ∀ line ∈ linesOf (plan.form.planes plan.info) plan.info.height,
        table.span line ⊆ Finset.range file.stream.size ∧
          (table.span line).card = table.scanlineSize := by
      rintro ⟨sample, row⟩ hline
      rw [linesOf, Finset.mem_product, Finset.mem_range, Finset.mem_range] at hline
      obtain ⟨found, hfound, hspan⟩ := span_of_scan hfile whole hline.1 hline.2
      obtain rfl := Except.ok.inj (htable.symm.trans hfound)
      exact hspan
    -- The spans are disjoint parts of the file, so their sizes add up to no more than its size.
    have hunion := Finset.card_le_card
      (Finset.biUnion_subset.mpr fun line hline => (hread line hline).1)
    rw [Finset.card_biUnion (hapart table htable),
      Finset.sum_congr rfl fun line hline => (hread line hline).2, Finset.sum_const, linesOf,
      Finset.card_product, Finset.card_range, Finset.card_range, Finset.card_range] at hunion
    rw [lineSize_of_ok (builds_of_loadStrips htable).scanlineSize]
    exact hunion

theorem describesAgain {file : File} (hfile : file.Genuine) (index? : Option Nat) :
    DescribesAgain index? file := by
  intro info described hinfo
  obtain ⟨hbare, hgenuine⟩ : described.bare = (turnedTo index? file).bare ∧ described.Genuine := by
    rw [← after_of_ok hinfo]
    exact kept_after_readInfo hfile index?
  have hopened := (reopened_eq hbare).trans (reopened_turnedTo file index?)
  have hagain := answer_eq_ok.mp (described_of_readInfo hinfo)
  have hkept := simulates_self_iff.mp ((reads_bare described.bare).readSelected index?) described
    ⟨rfl, hgenuine⟩
  have htwins : Twins described.reopened described (after (ImageInfo.readSelected index?) described) :=
    ⟨rfl, reopened_eq hkept.1, (current_eq hkept.1).symm, hgenuine, hkept.2⟩
  exact ⟨congrArg some (size_eq hopened), _, _, (serves_twins _).toReads, hagain, htwins⟩

/-- A whole image is decoded as into a raster of zeros, unless more would be taken from its
scanlines than the file holds, or its raster is too long. -/
theorem answer_decodeImage {index? : Option Nat} {info : ImageInfo} {file described : File}
    (hfile : file.Genuine) (hinfo : ImageInfo.read index? file = .ok info described)
    {form : RowForm} (hform : info.rowForm? = some form) {required : Nat}
    (hlength : info.rasterLength = .ok required) :
    let held := file.stream.size
    let decoded := decodeInto index? (Array.replicate required 0) file
    answer (decodeImage index?) file =
      if held < info.taken form then
        .error (.unsupported (.dataMissing info.width info.height (info.taken form) held))
      else if maxRaster < required then .error (.unsupported (.tooLarge info.width info.height))
      else decoded.result.map (·, decoded.raster) := by
  have hanswer := (describesAgain hfile index?).answer_decodeImage (answer_of_ok hinfo) hlength
  have hsize : ScanlineSource.dataSize? file = some file.stream.size := rfl
  dsimp only at hanswer ⊢
  rw [hanswer, hsize, checkSize_some hform hlength]
  split
  · rfl
  · split <;> rfl

theorem lineSize_of_readPlan {index? : Option Nat} {room : Nat} {plan : Plan}
    {file planned : File} (h : Plan.read index? room file = .ok plan planned) :
    planned.lineSize = plan.scanlineSize := by
  obtain ⟨_, mapped, _, _, _, _, _, _, hsize⟩ := Plan.read_ok h
  have hbare := visible_scanlineSize.bare_after mapped
  have hleft : after scanlineSize mapped = planned := after_of_ok hsize
  rw [hleft] at hbare
  rw [lineSize_eq hbare]
  exact lineSize_of_ok (answer_of_ok hsize)

/-- What is taken of scanlines that hold it and share no byte is no more than the file. -/
theorem taken_le_of_apart {index? : Option Nat} {raster : Array UInt8} {file : File}
    (hfile : file.Genuine) {outcome : Outcome}
    (hok : (decodeInto index? raster file).result = .ok outcome)
    (hcomplete : outcome.status = .complete) {form : RowForm}
    (hform : outcome.info.rowForm? = some form)
    (hheld : form.inputLength outcome.info ≤ outcome.info.scanlineSize)
    (hapart : ∀ table, answer loadStrips (turnedTo index? file) = .ok table →
      table.Apart (form.planes outcome.info) outcome.info.height) :
    outcome.info.taken form ≤ file.stream.size := by
  obtain ⟨plan, planned, count, scan, hplan, hyields⟩ := scan_of_decoded hok
  have hcount : count = plan.lines := hyields.complete.mp hcomplete
  subst hcount
  obtain ⟨hbare, hgenuine⟩ : planned.bare = (turnedTo index? file).bare ∧ planned.Genuine := by
    rw [← after_of_ok hplan]
    exact (reads_bare _).keeps_readPlan index? raster.size ⟨rfl, genuine_turnedTo hfile index?⟩
  rw [hyields.info] at hform hheld hapart ⊢
  obtain rfl : plan.form = form := Option.some.inj ((Plan.rowForm_of_read hplan).symm.trans hform)
  rw [← visible_loadStrips.answer_eq hbare] at hapart
  have hfit := lines_fit hgenuine scan hapart
  rw [lineSize_of_readPlan hplan, scanlineSize_of_readPlan hplan,
    size_eq ((reopened_eq hbare).trans (reopened_turnedTo file index?))] at hfit
  exact Nat.le_trans (Nat.mul_le_mul_left plan.lines hheld) hfit

/-- **Only its size keeps what can be decoded from being decoded as a whole.** If an image is decoded
completely into a raster that is as long as it needs, a decode of the whole image is complete with
the same bytes, as long as no more is taken from the scanlines than the file holds. That is so for
scanlines that hold what is taken of them and share no byte. If scanlines that hold it would have to
share bytes to have room in the file, the image is refused. -/
theorem decodeImage_of_complete {stream : Stream} {opened : File}
    (hopen : ofStream stream = .ok opened) (history : List Request) {index? : Option Nat}
    {raster : Array UInt8} {outcome : Outcome}
    (hok : (decodeInto index? raster (afterAll history opened)).result = .ok outcome)
    (hcomplete : outcome.status = .complete)
    (hlength : outcome.info.rasterLength = .ok raster.size) (hmemory : raster.size ≤ maxRaster) :
    let file := afterAll history opened
    let info := outcome.info
    let held := file.stream.size
    ∃ form, info.rowForm? = some form ∧
      (info.taken form ≤ held →
        answer (decodeImage index?) file = .ok (outcome, (decodeInto index? raster file).raster)) ∧
      (form.inputLength info ≤ info.scanlineSize →
        (∀ table, answer loadStrips (turnedTo index? file) = .ok table →
          table.Apart (form.planes info) info.height) → info.taken form ≤ held) ∧
      (form.inputLength info ≤ info.scanlineSize → held < info.taken form →
        answer (decodeImage index?) file = .error (.unsupported
          (.dataMissing info.width info.height (info.taken form) held))) := by
  intro file info held
  have hgenuine : file.Genuine := genuine_afterAll (genuine_of_ofStream hopen) history
  have hwritten := rasterLength_of_complete hok hcomplete
  obtain ⟨plan, planned, count, scan, hplan, hyields⟩ := scan_of_decoded hok
  obtain ⟨described, _, _, hinfo, _, hform, _⟩ := Plan.read_ok hplan
  have hundamaged : info = plan.info := by
    have hsound := ImageInfo.undamaged_of_read hinfo
    simp only [info, hyields.info, hcomplete, ne_eq, not_true_eq_false, decide_false, ← hsound]
  rw [← hundamaged] at hinfo hform
  have hanswer := answer_decodeImage hgenuine hinfo hform hlength
  have hsame : decodeInto index? (Array.replicate raster.size 0) file = decodeInto index? raster file :=
    decodeInto_filled Array.size_replicate hok (Except.ok.inj (hwritten.symm.trans hlength))
  dsimp only at hanswer
  rw [hsame, hok] at hanswer
  refine ⟨plan.form, hform, fun hfits => ?_, ?_, fun _ hmissing => ?_⟩
  · rw [hanswer, if_neg (Nat.not_lt.mpr hfits), if_neg (Nat.not_lt.mpr hmemory)]
    rfl
  · exact taken_le_of_apart hgenuine hok hcomplete hform
  · rw [hanswer, if_pos hmissing]

/-- Two rows of a file that has been used before. -/
theorem decodeImage_of_complete_twoRows :
    ∃ opened, ofStream (Stream.ofBytes StoredFile.twoRows.toArray) = .ok opened ∧
      let file := afterAll [.select 7, .readScanline 1 0 [0, 0]] opened
      let decoded := decodeInto none (Array.replicate 4 99) file
      ∃ outcome, decoded.result = .ok outcome ∧ outcome.status = .complete ∧
        outcome.info.rowForm? = some .graySamples ∧
        (∃ table, answer loadStrips file = .ok table ∧ table.Apart 1 2) ∧
        answer (decodeImage none) file = .ok (outcome, decoded.raster) := by
  have hruns : ((ofStream (Stream.ofBytes StoredFile.twoRows.toArray)).toOption.bind fun opened =>
      let file := afterAll [.select 7, .readScanline 1 0 [0, 0]] opened
      (decodeInto none (Array.replicate 4 99) file).result.toOption.map fun outcome =>
        let info := outcome.info
        ((outcome.status, info.rasterLength.toOption, info.rowForm?),
          (RowForm.graySamples.inputLength info, info.scanlineSize),
          (RowForm.graySamples.planes info, info.height),
          (answer loadStrips file).toOption.map fun table => decide (table.Apart 1 2))) =
        some ((.complete, some 4, some .graySamples), (2, 2), (1, 2), some true) := by
    decide +kernel
  obtain ⟨opened, hopens, hruns⟩ := Option.bind_eq_some_iff.mp hruns
  obtain ⟨outcome, hdecodes, hruns⟩ := Option.map_eq_some_iff.mp hruns
  simp only [Prod.mk.injEq] at hruns
  obtain ⟨⟨hcomplete, hlength, hgray⟩, ⟨hinput, hscanline⟩, ⟨hplanes, hheight⟩, hruns⟩ := hruns
  obtain ⟨table, hloads, hruns⟩ := Option.map_eq_some_iff.mp hruns
  have hopen := except_toOption_eq_some.mp hopens
  have hok := except_toOption_eq_some.mp hdecodes
  have hload := except_toOption_eq_some.mp hloads
  have hapart := of_decide_eq_true hruns
  obtain ⟨form, hform, hsame, hfits, _⟩ := decodeImage_of_complete hopen _ hok hcomplete
    (by rw [Array.size_replicate]; exact except_toOption_eq_some.mp hlength) (by decide)
  obtain rfl : RowForm.graySamples = form := Option.some.inj (hgray.symm.trans hform)
  have htaken := hfits (Nat.le_of_eq (hinput.trans hscanline.symm)) fun found hfound => by
    obtain rfl := Except.ok.inj (hload.symm.trans hfound)
    rwa [hplanes, hheight]
  exact ⟨opened, hopen, outcome, hok, hcomplete, hgray, ⟨table, hload, hapart⟩, hsame htaken⟩

/-- Four rows that are stored as one. -/
def sharedRows : List UInt8 :=
  StoredFile.ofFields
    [ ⟨.imageWidth, .short, [30]⟩, ⟨.imageLength, .short, [4]⟩, ⟨.bitsPerSample, .short, [8]⟩,
      ⟨.photometricInterpretation, .short, [1]⟩, ⟨.stripOffsets, .byte, [86, 86, 86, 86]⟩,
      ⟨.rowsPerStrip, .short, [1]⟩ ]
    ((List.range 30).map Nat.toUInt8)

/-- Rows that share their bytes can be decoded, but not as a whole image. -/
theorem sharedRows_refused :
    ∃ file outcome, ofStream (Stream.ofBytes sharedRows.toArray) = .ok file ∧
      (decodeInto (some 0) (Array.replicate 120 0) file).result = .ok outcome ∧
      outcome.status = .complete ∧ outcome.info.rasterLength = .ok 120 ∧
      answer (decodeImage (some 0)) file =
        .error (.unsupported (.dataMissing 30 4 120 116)) := by
  have hruns : ((ofStream (Stream.ofBytes sharedRows.toArray)).toOption.bind fun file =>
      (decodeInto (some 0) (Array.replicate 120 0) file).result.toOption.map fun outcome =>
        (outcome.status, outcome.info.rasterLength.toOption,
          match answer (decodeImage (some 0)) file with
          | .ok _ => none
          | .error refusal => some refusal)) =
        some (.complete, some 120, some (.unsupported (.dataMissing 30 4 120 116))) := by
    decide +kernel
  obtain ⟨file, hopens, hruns⟩ := Option.bind_eq_some_iff.mp hruns
  obtain ⟨outcome, hdecodes, hruns⟩ := Option.map_eq_some_iff.mp hruns
  simp only [Prod.mk.injEq] at hruns
  obtain ⟨hcomplete, hlength, hrefused⟩ := hruns
  refine ⟨file, outcome, except_toOption_eq_some.mp hopens, except_toOption_eq_some.mp hdecodes,
    hcomplete, except_toOption_eq_some.mp hlength, ?_⟩
  cases hanswer : answer (decodeImage (some 0)) file with
  | ok _ =>
    rw [hanswer] at hrefused
    cases hrefused
  | error refusal =>
    rw [hanswer] at hrefused
    cases hrefused
    rfl

theorem size_of_readInfo {index? : Option Nat} {info : ImageInfo} {file described : File}
    (h : ImageInfo.read index? file = .ok info described) :
    described.stream.size = file.stream.size :=
  size_eq ((reopened_eq (bare_of_readInfo h)).trans (reopened_turnedTo file index?))

theorem planImage_ok {index? : Option Nat} {file planned : File} {required : Nat} {plan : Plan}
    (h : planImage index? file = .ok (required, plan) planned) :
    plan.lines * plan.inputLength ≤ file.stream.size ∧
      plan.info.rowForm? = some plan.form ∧ plan.scanlineSize = plan.info.scanlineSize := by
  obtain ⟨info, described, hinfo, hlength, hcheck, hplan⟩ := planned_of_planImage h
  have hform := Plan.rowForm_of_read hplan
  have hreindexed : plan.info = info.reindexed none := by
    obtain ⟨again, _, _, hnone, _⟩ := Plan.read_ok hplan
    have hanswer : answer (ImageInfo.readSelected none) _ = .ok plan.info := answer_of_ok hnone
    rw [ImageInfo.readSelected_reindexed none index?, answer_map, described_of_readInfo hinfo]
      at hanswer
    exact (Except.ok.inj hanswer).symm
  have hkept : info.rowForm? = some plan.form := by
    rw [hreindexed] at hform
    exact hform
  have htaken : info.taken plan.form = plan.lines * plan.inputLength := by
    rw [Plan.lines, Plan.inputLength, hreindexed]
    rfl
  change checkSize info _ (some _) = _ at hcheck
  rw [checkSize_some hkept hlength, size_of_readInfo hinfo, htaken] at hcheck
  refine ⟨?_, hform, scanlineSize_of_readPlan hplan⟩
  by_contra hexceeds
  rw [if_pos (Nat.not_le.mp hexceeds)] at hcheck
  cases hcheck

/-- **How long the working buffer of a whole image is.** The guard counts what is taken of the
scanlines. It keeps the buffer within the size of the file just when a scanline is no longer than the
file and, for an image without scanlines, what would be taken of one is no longer either. While there
are scanlines, the buffer exceeds the file by no more than the bytes that a scanline holds for each
that is taken of it. -/
theorem bufferLength_of_planImage {index? : Option Nat} {file planned : File} {required : Nat}
    {plan : Plan} (h : planImage index? file = .ok (required, plan) planned) :
    let held := file.stream.size
    decodeImage index? file = plan.draw index? required planned ∧
      plan.info.taken plan.form ≤ held ∧ plan.scanlineSize = plan.info.scanlineSize ∧
      (plan.bufferLength ≤ held ↔
        plan.info.scanlineSize ≤ held ∧ (plan.lines = 0 → plan.inputLength ≤ held)) ∧
      (0 < plan.lines → plan.bufferLength ≤ held * max 1 (plan.form.bytesPerInput plan.info)) := by
  intro held
  obtain ⟨htaken, hform, hsize⟩ := planImage_ok h
  have hinput : 0 < plan.lines → plan.inputLength ≤ held := fun hlines =>
    Nat.le_trans (Nat.le_mul_of_pos_left _ hlines) htaken
  refine ⟨?_, htaken, hsize, ?_, fun hlines => ?_⟩
  · rw [decodeImage_eq_planImage]
    simp only [bind, EStateM.bind, h]
  · rw [Plan.bufferLength, hsize, Nat.max_le]
    refine and_congr_right fun _ => ⟨fun h _ => h, fun h => ?_⟩
    rcases Nat.eq_zero_or_pos plan.lines with hnone | hlines
    · exact h hnone
    · exact hinput hlines
  · rw [Plan.bufferLength, hsize, Nat.max_le]
    constructor
    · calc plan.info.scanlineSize
          ≤ plan.inputLength * plan.form.bytesPerInput plan.info := RowForm.scanlineSize_le hform
        _ ≤ held * max 1 (plan.form.bytesPerInput plan.info) :=
          Nat.mul_le_mul (hinput hlines) (Nat.le_max_right _ _)
    · calc plan.inputLength
          ≤ held := hinput hlines
        _ ≤ held * max 1 (plan.form.bytesPerInput plan.info) :=
          Nat.le_mul_of_pos_right _ (Nat.le_max_left _ _)

/-- Two rows, and a buffer that is no longer than one of them. -/
theorem bufferLength_of_planImage_twoRows :
    ∃ file required plan planned, ofStream (Stream.ofBytes StoredFile.twoRows.toArray) = .ok file ∧
      planImage none file = .ok (required, plan) planned ∧ 0 < plan.lines ∧
      plan.info.scanlineSize = 2 ∧ plan.bufferLength ≤ file.stream.size := by
  have hruns : ((ofStream (Stream.ofBytes StoredFile.twoRows.toArray)).toOption.bind fun file =>
      (answer (planImage none) file).toOption.map fun planned =>
        decide (0 < planned.2.lines ∧ planned.2.info.scanlineSize = 2 ∧ 2 ≤ file.stream.size)) =
        some true := by
    decide +kernel
  obtain ⟨file, hopens, hruns⟩ := Option.bind_eq_some_iff.mp hruns
  obtain ⟨⟨required, plan⟩, hplans, hruns⟩ := Option.map_eq_some_iff.mp hruns
  obtain ⟨hlines, hscanline, hroom⟩ := of_decide_eq_true hruns
  have hplan := answer_eq_ok.mp (except_toOption_eq_some.mp hplans)
  obtain ⟨_, _, _, hbuffer, _⟩ := bufferLength_of_planImage hplan
  refine ⟨file, required, plan, _, except_toOption_eq_some.mp hopens, hplan, hlines, hscanline,
    hbuffer.mpr ⟨?_, fun hnone => ?_⟩⟩
  · rwa [hscanline]
  · exact absurd hnone (Nat.pos_iff_ne_zero.mp hlines)

/-- A row of deep colors, stored at the beginning of the file. -/
def deepRow : List UInt8 :=
  StoredFile.ofFields
    [ ⟨.imageWidth, .short, [32]⟩, ⟨.imageLength, .short, [1]⟩, ⟨.bitsPerSample, .short, [16]⟩,
      ⟨.photometricInterpretation, .short, [2]⟩, ⟨.stripOffsets, .short, [8]⟩,
      ⟨.samplesPerPixel, .short, [3]⟩, ⟨.rowsPerStrip, .short, [1]⟩ ]
    []

/-- A wide image without rows. -/
def noRows : List UInt8 :=
  StoredFile.ofFields
    [ ⟨.imageWidth, .long, [1000000]⟩, ⟨.imageLength, .short, [0]⟩, ⟨.bitsPerSample, .short, [8]⟩,
      ⟨.photometricInterpretation, .short, [1]⟩ ]
    []

/-- What a file has, and the working buffer of its first image. -/
def roomOf (bytes : List UInt8) : Option (Nat × Nat) := do
  let file ← (ofStream (Stream.ofBytes bytes.toArray)).toOption
  let (_, plan) ← (answer (planImage (some 0)) file).toOption
  return (file.stream.size, plan.bufferLength)

/-- Working buffers that are longer than the file: for samples of two bytes, and for an image without
rows. -/
theorem buffers_exceed_files :
    roomOf deepRow = some (98, 192) ∧ roomOf noRows = some (62, 1000000) := by
  decide +kernel

end File

end TiffStrip
