import TiffStrip.Proofs.Decode.Zeroed
import TiffStrip.Proofs.Picture.Drawn

/-!
# Pictures of decoded images

How long a raster is and how many samples its picture has are told by different tables: the one counts
bytes of rows and planes and what becomes of them, the other pixels and channels. For images that have
a color type both come to the same, so nothing of a decoded raster is missing, and nothing is left over.
-/

namespace TiffStrip

theorem ImageInfo.bytesPerRow_of_bytes {info : ImageInfo} (h : info.bitsPerSample = 8) :
    info.bytesPerRow = info.width := by
  unfold bytesPerRow ceilDiv
  rw [h]
  omega

namespace ImageInfo

variable {info : ImageInfo} {color : ColorType} (hcolor : info.colorType = .ok color)

include hcolor

theorem laid_eq_samples :
    ∃ form, info.rowForm? = some form ∧ 0 < form.planes info ∧
      form.planes info * info.height * (form.inputLength info * form.expansion) =
        info.width * info.height * color.channels := by
  obtain ⟨form, hform, hkind⟩ := form_of_colorType hcolor
  refine ⟨form, hform, ?_⟩
  obtain ⟨rfl, rfl⟩ | ⟨hdirect, hbytes, hsamples⟩ := hkind
  · -- However many bits an index has, a byte of each pixel is drawn.
    constructor
    · exact Nat.one_pos
    · change 1 * info.height * (info.width * 3) = info.width * info.height * 3
      rw [Nat.one_mul, ← Nat.mul_assoc, Nat.mul_comm info.height]
  · have hrow := bytesPerRow_of_bytes hbytes
    cases form with
    | paletteColors => exact absurd rfl hdirect
    | graySamples | rgbPixels =>
      simp only [RowForm.planes, RowForm.isPlanar, Bool.false_eq_true, if_false,
        RowForm.inputLength, RowForm.expansion, hrow, hsamples, Nat.one_mul, Nat.mul_one]
      exact ⟨Nat.one_pos, by ac_rfl⟩
    | grayPlanes | rgbPlanes =>
      simp only [RowForm.planes, RowForm.isPlanar, if_true, RowForm.inputLength, RowForm.expansion,
        hrow, hsamples, Nat.mul_one]
      exact ⟨color.channels_pos, by ac_rfl⟩

/-- A raster is as long as the picture has samples. -/
theorem rasterLength_eq_samples {length : Nat} (hlength : info.rasterLength = .ok length) :
    length = info.width * info.height * color.channels := by
  obtain ⟨form, hform, _, hlaid⟩ := laid_eq_samples hcolor
  exact (rasterLength_eq hform hlength).trans hlaid

/-- A raster has a length if so many samples can be addressed. -/
theorem rasterLength_of_addressable (hheight : 0 < info.height)
    (hsamples : info.width * info.height * color.channels < Address.limit) :
    info.rasterLength = .ok (info.width * info.height * color.channels) := by
  obtain ⟨form, hform, hplanes, hlaid⟩ := laid_eq_samples hcolor
  have hplane : form.inputLength info * form.expansion * info.height * form.planes info =
      info.width * info.height * color.channels := by
    rw [← hlaid]
    ac_rfl
  rw [← hplane] at hsamples
  have hrows := Nat.lt_of_le_of_lt (Nat.le_mul_of_pos_right _ hplanes) hsamples
  have hline := Nat.lt_of_le_of_lt (Nat.le_mul_of_pos_right _ hheight) hrows
  have hlength : form.rasterLength? info = some (info.width * info.height * color.channels) := by
    simp only [RowForm.rasterLength?, Option.bind_eq_bind, Option.bind_eq_some_iff,
      Address.mul?_eq_some]
    exact ⟨_, ⟨rfl, hline⟩, _, ⟨rfl, hrows⟩, hplane, hplane ▸ hsamples⟩
  unfold rasterLength rowForm
  rw [hform]
  dsimp only [bind, Except.bind]
  rw [hlength]
  rfl

end ImageInfo

namespace ImageInfo

variable {info : ImageInfo}

/-- Every byte of a raster is a sample of a pixel. -/
theorem exists_rasterIndex (info : ImageInfo) {pixels channels i : Nat}
    (h : i < pixels * channels) :
    ∃ pixel < pixels, ∃ channel < channels, info.rasterIndex pixels channels pixel channel = i := by
  unfold rasterIndex
  by_cases hplanar : info.isPlanar = true
  · simp only [hplanar, if_true]
    rw [Nat.mul_comm] at h
    obtain ⟨channel, hchannel, pixel, hpixel, rfl⟩ := exists_sampleIndex h
    exact ⟨pixel, hpixel, channel, hchannel, rfl⟩
  · simp only [hplanar, Bool.false_eq_true, if_false]
    obtain ⟨pixel, hpixel, channel, hchannel, rfl⟩ := exists_sampleIndex h
    exact ⟨pixel, hpixel, channel, hchannel, rfl⟩

/-- What a picture shows tells the sample. -/
theorem shown_inj {channel : Nat} {sample other : UInt8}
    (h : info.shown channel sample = info.shown channel other) : sample = other := by
  unfold shown at h
  by_cases hwhite : info.photometric = .minIsWhite ∧ channel = 0
  · rw [if_pos hwhite, if_pos hwhite] at h
    exact (UInt8.sub_right_inj 255).mp h
  · rwa [if_neg hwhite, if_neg hwhite] at h

end ImageInfo

namespace Picture

variable {info : ImageInfo} {pixels channels : Nat} {raster other : Array UInt8}

/-- Every byte of a raster goes into the picture, so rasters are told apart by what is drawn of
them. -/
theorem draw_inj (hpixels : 0 < pixels) (hchannels : 0 < channels)
    (hraster : raster.size = pixels * channels) (hother : other.size = pixels * channels)
    (h : draw info pixels channels raster = draw info pixels channels other) : raster = other := by
  have hshows := shows_draw info hraster hpixels hchannels
  have hagain := shows_draw info hother hpixels hchannels
  rw [h] at hshows
  refine Array.ext (hraster.trans hother.symm) fun i hi hi' => ?_
  obtain ⟨pixel, hpixel, channel, hchannel, rfl⟩ := info.exists_rasterIndex (hraster ▸ hi)
  have hsame := (hshows.sample pixel hpixel channel hchannel).symm.trans
    (hagain.sample pixel hpixel channel hchannel)
  rw [Array.getElem?_eq_getElem hi, Array.getElem?_eq_getElem hi', Option.map_some, Option.map_some,
    Option.some.injEq] at hsame
  exact ImageInfo.shown_inj hsame

theorem ofRaster_ne_short {color : ColorType} (hcolor : info.colorType = .ok color)
    (hlong : info.width * info.height * color.channels ≤ raster.size) (held expected : Nat) :
    ofRaster info raster ≠ .error (.shortRaster held expected) := by
  rw [ofRaster_of_colorType hcolor]
  dsimp only
  rw [if_neg (Nat.not_lt.mpr hlong)]
  by_cases hwidth : info.width = 0
  · rw [if_pos hwidth]
    nofun
  by_cases hheight : info.height = 0
  · rw [if_neg hwidth, if_pos hheight]
    nofun
  · rw [if_neg hwidth, if_neg hheight]
    nofun

end Picture

section

variable {σ : Type} [ScanlineSource σ] {index? : Option Nat} {s : σ} {outcome : Outcome}
  {raster : Array UInt8}

/-- The image that is decoded is the one that has been described. -/
theorem rasterLength_of_result {info : ImageInfo}
    (hinfo : answer (ImageInfo.read index?) s = .ok info)
    (hok : (decodeInto index? raster s).result = .ok outcome) :
    outcome.info.rasterLength = info.rasterLength := by
  obtain ⟨plan, planned, count, scan, hplan, hyields⟩ := scan_of_decoded hok
  obtain ⟨described, _, _, hread, _⟩ := Plan.read_ok hplan
  obtain rfl : info = plan.info := Except.ok.inj (hinfo.symm.trans (answer_of_ok hread))
  rw [hyields.info]
  rfl

variable [KeepsBuffers σ]

/-- A decode never changes the length of a raster. -/
theorem size_decodeInto (hok : (decodeInto index? raster s).result = .ok outcome) :
    (decodeInto index? raster s).raster.size = raster.size := by
  obtain ⟨plan, planned, count, scan, hplan, hyields⟩ := scan_of_decoded hok
  obtain ⟨_, hroom⟩ := Plan.rasterLength_of_read hplan
  have hlength := Plan.Scan.length_raster (Plan.coherent_of_read hplan) scan.even_of_keeps
  have hfits : scan.raster.length ≤ raster.toList.length :=
    calc
      scan.raster.length = count * (plan.inputLength * plan.form.expansion) := hlength
      _ ≤ plan.lines * (plan.inputLength * plan.form.expansion) :=
        Nat.mul_le_mul_right _ hyields.ends.le
      _ ≤ raster.size := hroom
  rw [← Array.length_toList, hyields.raster, length_overwrite hfits, Array.length_toList]

/-- A whole image is decoded into a raster of just the length it needs, completely or not. -/
theorem rasterLength_of_decoded (hagain : DescribesAgain index? s)
    (h : answer (decodeImage index?) s = .ok (outcome, raster)) :
    outcome.info.rasterLength = .ok raster.size := by
  have hdecoded := answer_eq_ok.mp h
  rw [decodeImage_eq] at hdecoded
  obtain ⟨info, described, hinfo, hdescribed⟩ := bind_eq_ok hdecoded
  rw [decodeDescribed_eq] at hdescribed
  obtain ⟨required, _, hmeasured, _⟩ := bind_eq_ok hdescribed
  obtain ⟨hlength, rfl⟩ := ofExcept_eq_ok hmeasured
  have hinfo := answer_of_ok hinfo
  have hanswer := hagain.answer_decodeImage hinfo hlength
  rw [h] at hanswer
  obtain ⟨_, _, hresult⟩ := except_bind_eq_ok.mp hanswer.symm
  obtain ⟨_, hok, hpair⟩ := except_map_eq_ok.mp hresult
  obtain ⟨rfl, rfl⟩ := Prod.mk.inj hpair
  rw [rasterLength_of_result hinfo hok, size_decodeInto hok, Array.size_replicate]
  exact hlength

end

/-- The picture of an image takes all of the raster that the image is decoded into: it has as many
samples as the raster has bytes, so the raster is never too short, and each byte can be told from the
picture. -/
def FillsPicture {σ : Type} [ScanlineSource σ] (index? : Option Nat) (s : σ) : Prop :=
  ∀ outcome raster color, answer (decodeImage index?) s = .ok (outcome, raster) →
    outcome.info.colorType = .ok color →
    let info := outcome.info
    raster.size = info.width * info.height * color.channels ∧
      (∀ held expected, Picture.ofRaster info raster ≠ .error (.shortRaster held expected)) ∧
      (0 < info.width → 0 < info.height → ∃ picture, Picture.ofRaster info raster = .ok picture ∧
        picture.samples.size = raster.size ∧
        ∀ other : Array UInt8, other.size = raster.size →
          Picture.ofRaster info other = .ok picture → other = raster)

theorem fillsPicture {σ : Type} [ScanlineSource σ] [KeepsBuffers σ] {index? : Option Nat} {s : σ}
    (hagain : DescribesAgain index? s) : FillsPicture index? s := by
  intro outcome raster color hdecoded hcolor info
  have hsize := ImageInfo.rasterLength_eq_samples hcolor (rasterLength_of_decoded hagain hdecoded)
  refine ⟨hsize, Picture.ofRaster_ne_short hcolor (Nat.le_of_eq hsize.symm),
    fun hwidth hheight => ?_⟩
  have hpixels : 0 < info.width * info.height := Nat.mul_pos hwidth hheight
  have hshows := Picture.shows_draw info hsize hpixels color.channels_pos
  refine ⟨_, Picture.ofRaster_whole hcolor hwidth hheight hsize, hshows.size.trans hsize.symm, ?_⟩
  intro other hother hsame
  have hlength := hother.trans hsize
  rw [Picture.ofRaster_whole hcolor hwidth hheight hlength, Except.ok.injEq,
    Picture.mk.injEq] at hsame
  exact Picture.draw_inj hpixels color.channels_pos hlength hsize hsame.2.2.2

/-- **The raster of an image and its picture have one length.** Whatever the width, the height, the bits
and the samples of an image, if it has a color type and its raster has a length, this is the number of
the picture's samples; and if it has rows and so many samples can be addressed, its raster has a length.
So the picture of an image that has been decoded, completely or not, is never refused for a raster that
is too short, and no byte of the raster is left out of it. That goes for every file, whatever it has
been asked before, and for every literal source. -/
theorem decoded_fills_picture :
    (∀ (info : ImageInfo) (color : ColorType), info.colorType = .ok color →
      let samples := info.width * info.height * color.channels
      (∀ length, info.rasterLength = .ok length → length = samples) ∧
        (0 < info.height → samples < Address.limit → info.rasterLength = .ok samples)) ∧
    (∀ stream opened, File.ofStream stream = .ok opened → ∀ history index?,
      FillsPicture index? (afterAll history opened)) ∧
    ∀ (source : LiteralSource) index?, FillsPicture index? source := by
  refine ⟨?_, ?_, ?_⟩
  · intro info color hcolor samples
    constructor
    · intro length hlength
      exact ImageInfo.rasterLength_eq_samples hcolor hlength
    · intro hheight hsamples
      exact ImageInfo.rasterLength_of_addressable hcolor hheight hsamples
  · intro stream opened hopen history index?
    have hgenuine := File.genuine_afterAll (File.genuine_of_ofStream hopen) history
    exact fillsPicture (File.describesAgain hgenuine index?)
  · intro source index?
    exact fillsPicture (source.describesAgain index?)

/-- Two planes of two rows, the last of which is missing. -/
def missingLine : LiteralSource where
  images := [{
    fields := [(.imageWidth, .unsigned [2]), (.imageLength, .unsigned [2]),
      (.bitsPerSample, .unsigned [8]), (.photometricInterpretation, .unsigned [0]),
      (.samplesPerPixel, .unsigned [2]), (.planarConfiguration, .unsigned [2])]
    planes := [[[1, 2], [3, 4]], [[5, 6]]]
    scanlineSize := 2 }]

/-- A decode that is aborted, and one of a file that has been used before. -/
theorem decoded_fills_picture_samples :
    (∃ outcome raster picture, answer (decodeImage none) missingLine = .ok (outcome, raster) ∧
      outcome.status ≠ .complete ∧ raster.size = 2 * 2 * 2 ∧
      Picture.ofRaster outcome.info raster = .ok picture ∧ picture.samples.size = raster.size) ∧
    ∃ opened, File.ofStream (Stream.ofBytes StoredFile.twoRows.toArray) = .ok opened ∧
      ∃ outcome raster, answer (decodeImage (some 0)) (afterAll [.select 7] opened) =
        .ok (outcome, raster) ∧ raster.size = 2 * 2 * 1 := by
  obtain ⟨_, hfiles, hliterals⟩ := decoded_fills_picture
  constructor
  · have hruns : (answer (decodeImage none) missingLine).toOption.map (fun (outcome, _) =>
        (decide (outcome.status = .complete), outcome.info.colorType.toOption, outcome.info.width,
          outcome.info.height)) = some (false, some .grayAlpha, 2, 2) := by
      decide +kernel
    obtain ⟨⟨outcome, raster⟩, hdecoded, hruns⟩ := Option.map_eq_some_iff.mp hruns
    simp only [Prod.mk.injEq, decide_eq_false_iff_not] at hruns
    obtain ⟨haborted, hcolor, hwidth, hheight⟩ := hruns
    have hdecoded := except_toOption_eq_some.mp hdecoded
    obtain ⟨hsize, _, hpicture⟩ := hliterals missingLine none outcome raster .grayAlpha hdecoded
      (except_toOption_eq_some.mp hcolor)
    rw [hwidth, hheight] at hsize hpicture
    obtain ⟨picture, hdrawn, hsamples, _⟩ := hpicture Nat.two_pos Nat.two_pos
    exact ⟨outcome, raster, picture, hdecoded, haborted, hsize, hdrawn, hsamples⟩
  · have hruns : ((File.ofStream (Stream.ofBytes StoredFile.twoRows.toArray)).toOption.bind
        fun opened => (answer (decodeImage (some 0)) (afterAll [.select 7] opened)).toOption.map
          fun (outcome, _) => (outcome.info.colorType.toOption, outcome.info.width,
            outcome.info.height)) = some (some .gray, 2, 2) := by
      decide +kernel
    obtain ⟨opened, hopens, hruns⟩ := Option.bind_eq_some_iff.mp hruns
    obtain ⟨⟨outcome, raster⟩, hdecoded, hruns⟩ := Option.map_eq_some_iff.mp hruns
    simp only [Prod.mk.injEq] at hruns
    obtain ⟨hcolor, hwidth, hheight⟩ := hruns
    have hopen := except_toOption_eq_some.mp hopens
    have hdecoded := except_toOption_eq_some.mp hdecoded
    obtain ⟨hsize, _⟩ := hfiles _ opened hopen [.select 7] (some 0) outcome raster .gray hdecoded
      (except_toOption_eq_some.mp hcolor)
    rw [hwidth, hheight] at hsize
    exact ⟨opened, hopen, outcome, raster, hdecoded, hsize⟩

end TiffStrip
