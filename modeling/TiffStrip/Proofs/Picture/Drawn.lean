import TiffStrip.Image.Picture
import TiffStrip.Proofs.Simulation

/-!
# Pictures of rasters

A picture is drawn in loops: each plane puts its samples in their places, where they stay while the
others are placed, and then the first sample of each pixel is inverted if zero is white. No round of a
loop changes what another one has changed, so each sample of the picture is a sample of the raster,
told by its pixel and its channel.
-/

namespace TiffStrip

/-- A loop over the numbers below a bound, by its last round. -/
theorem foldl_range_succ {α : Type} (f : α → Nat → α) (a : α) (n : Nat) :
    (List.range (n + 1)).foldl f a = f ((List.range n).foldl f a) n := by
  rw [List.range_succ, List.foldl_append]
  rfl

section

variable {α : Type} {f : Array α → Nat → Array α}

/-- A loop that changes one element in each round, and none in two rounds, changes an element as its
round does. -/
theorem getElem?_foldl_range (place : Nat → Nat) (change : Nat → α → α) (xs : Array α) (n : Nat)
    (hstep : ∀ xs round i,
      (f xs round)[i]? = if place round = i then xs[i]?.map (change round) else xs[i]?)
    (hplace : ∀ a b, place a = place b → a = b) :
    (∀ round < n,
      ((List.range n).foldl f xs)[place round]? = xs[place round]?.map (change round)) ∧
    ∀ i, (∀ round < n, place round ≠ i) → ((List.range n).foldl f xs)[i]? = xs[i]? := by
  induction n with
  | zero => exact ⟨nofun, fun _ _ => rfl⟩
  | succ n ih =>
    obtain ⟨hchanged, hkept⟩ := ih
    rw [foldl_range_succ]
    constructor
    · intro round hround
      rw [hstep]
      by_cases hlast : round = n
      · subst hlast
        have hearlier : ∀ other < round, place other ≠ place round := by
          intro other hother h
          exact Nat.ne_of_lt hother (hplace _ _ h)
        rw [if_pos rfl, hkept _ hearlier]
      · have hother : place n ≠ place round := fun h => hlast (hplace _ _ h).symm
        rw [if_neg hother, hchanged round (by omega)]
    · intro i hi
      have hearlier : ∀ round < n, place round ≠ i := by
        intro round hround
        exact hi round (Nat.lt_succ_of_lt hround)
      rw [hstep, if_neg (hi n (Nat.lt_succ_self n)), hkept i hearlier]

theorem size_foldl_range (xs : Array α) (n : Nat)
    (hstep : ∀ xs round, (f xs round).size = xs.size) :
    ((List.range n).foldl f xs).size = xs.size := by
  induction n with
  | zero => rfl
  | succ n ih => rw [foldl_range_succ, hstep, ih]

end

/-- Arrays that agree as far as one of them is long enough have the same front. -/
theorem extract_eq_of_agree {α : Type} {xs ys : Array α} {n : Nat} (hn : n ≤ xs.size)
    (hsame : ∀ i < n, ys[i]? = xs[i]?) : n ≤ ys.size ∧ ys.extract 0 n = xs.extract 0 n := by
  have hfill : n ≤ ys.size := by
    apply Nat.not_lt.mp
    intro hshort
    have hend := hsame ys.size hshort
    rw [Array.getElem?_eq_none (Nat.le_refl _),
      Array.getElem?_eq_getElem (Nat.lt_of_lt_of_le hshort hn)] at hend
    cases hend
  constructor
  · exact hfill
  · apply Array.ext_getElem?
    intro i
    simp only [Array.getElem?_extract, Nat.min_eq_left hn, Nat.min_eq_left hfill, Nat.sub_zero,
      Nat.zero_add]
    by_cases hi : i < n
    · simp only [hi, if_true, hsame i hi]
    · simp only [hi, if_false]

section

variable {pixels channels pixel channel : Nat}

/-- Samples of different pixels or channels have different indices. -/
theorem sampleIndex_inj {other c : Nat} (hchannel : channel < channels) (hc : c < channels) :
    pixel * channels + channel = other * channels + c ↔ pixel = other ∧ channel = c := by
  constructor
  · intro h
    have hpos := Nat.zero_lt_of_lt hchannel
    have hdiv := congrArg (· / channels) h
    have hmod := congrArg (· % channels) h
    simp only [Nat.mul_comm _ channels, Nat.mul_add_div hpos, Nat.div_eq_of_lt hchannel,
      Nat.div_eq_of_lt hc, Nat.add_zero, Nat.mul_add_mod, Nat.mod_eq_of_lt hchannel,
      Nat.mod_eq_of_lt hc] at hdiv hmod
    exact ⟨hdiv, hmod⟩
  · rintro ⟨rfl, rfl⟩
    rfl

theorem sampleIndex_lt (hpixel : pixel < pixels) (hchannel : channel < channels) :
    pixel * channels + channel < pixels * channels :=
  calc
    pixel * channels + channel < pixel * channels + channels := Nat.add_lt_add_left hchannel _
    _ = (pixel + 1) * channels := (Nat.succ_mul _ _).symm
    _ ≤ pixels * channels := Nat.mul_le_mul_right channels hpixel

/-- Every index is that of a sample. -/
theorem exists_sampleIndex {index : Nat} (h : index < pixels * channels) :
    ∃ pixel < pixels, ∃ channel < channels, index = pixel * channels + channel := by
  have hpos : 0 < channels := Nat.pos_of_ne_zero fun hzero => by simp [hzero] at h
  exact ⟨index / channels, Nat.div_lt_of_lt_mul (Nat.mul_comm _ _ ▸ h), index % channels,
    Nat.mod_lt _ hpos, (Nat.div_add_mod' index channels).symm⟩

end

theorem ColorType.channels_pos (color : ColorType) : 0 < color.channels := by
  cases color <;> exact Nat.succ_pos _

namespace ImageInfo

/-- An image has a color type if its rows have a form and they either are drawn from a palette or hold
as many samples of a byte as the colors of a pixel. -/
theorem form_of_colorType {info : ImageInfo} {color : ColorType} (h : info.colorType = .ok color) :
    ∃ form, info.rowForm? = some form ∧
      (form = .paletteColors ∧ color = .rgb ∨
        form ≠ .paletteColors ∧ info.bitsPerSample = 8 ∧
          info.samplesPerPixel = color.channels) := by
  unfold colorType at h
  cases hform : info.rowForm? with
  | none =>
    rw [hform] at h
    cases h
  | some form =>
    rw [hform] at h
    obtain ⟨hdepth, h⟩ := unless_eq_ok.mp h
    refine ⟨form, rfl, ?_⟩
    by_cases hpalette : form = .paletteColors
    · subst hpalette
      cases h
      exact .inl ⟨rfl, rfl⟩
    · refine .inr ⟨hpalette, Decidable.not_not.mp fun hbits => hdepth ⟨hpalette, hbits⟩, ?_⟩
      dsimp only at h
      generalize info.samplesPerPixel = samples at h ⊢
      split at h
      case h_1 => exact absurd rfl hpalette
      case h_10 => cases h
      all_goals
        cases h
        rfl

theorem isPlanar_eq {info : ImageInfo} {form : RowForm} (h : info.rowForm? = some form) :
    info.isPlanar = form.isPlanar := by
  rw [isPlanar, h]
  rfl

/-- Where in the raster a sample of a pixel is. -/
def rasterIndex (info : ImageInfo) (pixels channels pixel channel : Nat) : Nat :=
  if info.isPlanar then channel * pixels + pixel else pixel * channels + channel

/-- A sample of the raster as the picture shows it. -/
def shown (info : ImageInfo) (channel : Nat) (sample : UInt8) : UInt8 :=
  if info.photometric = .minIsWhite ∧ channel = 0 then 255 - sample else sample

theorem shown_of_white {info : ImageInfo} (h : info.photometric = .minIsWhite) (channel : Nat) :
    info.shown channel = fun sample => if channel = 0 then 255 - sample else sample := by
  funext sample
  simp only [shown, h, true_and]

theorem shown_of_black {info : ImageInfo} (h : info.photometric ≠ .minIsWhite) (channel : Nat) :
    info.shown channel = id := by
  funext sample
  simp only [shown, h, false_and, if_false, id]

theorem rasterIndex_lt (info : ImageInfo) {pixels channels pixel channel : Nat}
    (hpixel : pixel < pixels) (hchannel : channel < channels) :
    info.rasterIndex pixels channels pixel channel < pixels * channels := by
  unfold rasterIndex
  by_cases hplanar : info.isPlanar = true
  · rw [if_pos hplanar, Nat.mul_comm pixels]
    exact sampleIndex_lt hchannel hpixel
  · rw [if_neg hplanar]
    exact sampleIndex_lt hpixel hchannel

end ImageInfo

namespace Picture

variable {pixels channels channel : Nat} {plane planes samples raster : Array UInt8}

theorem getElem?_set_eq {xs : Array UInt8} {i j : Nat} {value : UInt8} :
    (xs.set! i value)[j]? = if i = j then xs[j]?.map fun _ => value else xs[j]? := by
  rw [Array.set!_eq_setIfInBounds, Array.getElem?_setIfInBounds]
  by_cases h : i = j
  · subst h
    rw [if_pos rfl, if_pos rfl]
    by_cases hinside : i < xs.size
    · rw [if_pos hinside, Array.getElem?_eq_getElem hinside, Option.map_some]
    · rw [if_neg hinside, Array.getElem?_eq_none (Nat.not_lt.mp hinside), Option.map_none]
  · rw [if_neg h, if_neg h]

/-- Samples of pixels, one pixel after the other, each told by its pixel and its channel. -/
structure Shows (samples : Array UInt8) (pixels channels : Nat)
    (sample : (pixel channel : Nat) → Option UInt8) : Prop where
  size : samples.size = pixels * channels
  sample : ∀ pixel < pixels, ∀ channel < channels,
    samples[pixel * channels + channel]? = sample pixel channel

namespace Shows

variable {sample other : (pixel channel : Nat) → Option UInt8}
  (h : Shows samples pixels channels sample)

include h

theorem congr
    (hsame : ∀ pixel < pixels, ∀ channel < channels, sample pixel channel = other pixel channel) :
    Shows samples pixels channels other where
  size := h.size
  sample pixel hpixel channel hchannel :=
    (h.sample pixel hpixel channel hchannel).trans (hsame pixel hpixel channel hchannel)

/-- What is shown tells the samples. -/
theorem unique {again : Array UInt8} (hagain : Shows again pixels channels sample) :
    samples = again := by
  apply Array.ext_getElem?
  intro index
  by_cases hindex : index < pixels * channels
  · obtain ⟨pixel, hpixel, channel, hchannel, rfl⟩ := exists_sampleIndex hindex
    rw [h.sample pixel hpixel channel hchannel, hagain.sample pixel hpixel channel hchannel]
  · have hend := Nat.not_lt.mp hindex
    rw [Array.getElem?_eq_none (h.size ▸ hend), Array.getElem?_eq_none (hagain.size ▸ hend)]

/-- A plane sets its channel and leaves the others as they are. -/
theorem placePlane (hplane : plane.size = pixels) (hchannel : channel < channels) :
    Shows (placePlane channels channel plane samples) pixels channels fun pixel c =>
      if c = channel then plane[pixel]? else sample pixel c where
  size := (size_foldl_range _ _ fun _ _ => by
    rw [Array.set!_eq_setIfInBounds, Array.size_setIfInBounds]).trans h.size
  sample pixel hpixel c hc := by
    obtain ⟨hplaced, hkept⟩ := getElem?_foldl_range (fun pixel => pixel * channels + channel)
      (fun pixel _ => plane.getD pixel 0) samples plane.size (fun _ _ _ => getElem?_set_eq)
      fun _ _ h => ((sampleIndex_inj hchannel hchannel).mp h).1
    by_cases hsame : c = channel
    · subst hsame
      have hinside : pixel < plane.size := hplane ▸ hpixel
      have hthere : pixel * channels + c < samples.size := h.size ▸ sampleIndex_lt hpixel hc
      rw [if_pos rfl]
      apply (hplaced pixel hinside).trans
      rw [Array.getElem?_eq_getElem hthere, Option.map_some, Array.getD_eq_getD_getElem?,
        Array.getElem?_eq_getElem hinside, Option.getD_some]
    · rw [if_neg hsame, ← h.sample pixel hpixel c hc]
      apply hkept
      intro round _ h
      exact hsame ((sampleIndex_inj hchannel hc).mp h).2.symm

/-- The first sample of each pixel is inverted, and no other is. -/
theorem invertGray (hchannels : 0 < channels) :
    Shows (invertGray channels samples) pixels channels fun pixel channel =>
      (sample pixel channel).map fun v => if channel = 0 then 255 - v else v where
  size := (size_foldl_range _ _ fun _ _ => Array.size_modify).trans h.size
  sample pixel hpixel channel hchannel := by
    obtain ⟨hinverted, hkept⟩ := getElem?_foldl_range (fun pixel => pixel * channels)
      (fun _ v => 255 - v) samples (samples.size / channels) (fun _ _ _ => Array.getElem?_modify)
      fun _ _ h => Nat.eq_of_mul_eq_mul_right hchannels h
    have hcount : samples.size / channels = pixels := by rw [h.size, Nat.mul_div_cancel _ hchannels]
    rw [← h.sample pixel hpixel channel hchannel]
    by_cases hfirst : channel = 0
    · simp only [hfirst, if_true, Nat.add_zero]
      exact hinverted pixel (hcount.symm ▸ hpixel)
    · simp only [hfirst, if_false, Option.map_id_fun', id]
      apply hkept
      intro round _ h
      exact hfirst ((sampleIndex_inj hchannels hchannel).mp h).2.symm

end Shows

section

variable (hplanes : planes.size = pixels * channels)

include hplanes

/-- A plane is what lies between the planes before it and those behind it. -/
theorem plane_spec (hchannel : channel < channels) :
    (planes.extract (channel * pixels) ((channel + 1) * pixels)).size = pixels ∧
      ∀ pixel < pixels, (planes.extract (channel * pixels) ((channel + 1) * pixels))[pixel]? =
        planes[channel * pixels + pixel]? := by
  have hinside : (channel + 1) * pixels ≤ planes.size := by
    rw [hplanes, Nat.mul_comm pixels]
    exact Nat.mul_le_mul_right pixels hchannel
  have hlength : min ((channel + 1) * pixels) planes.size - channel * pixels = pixels := by
    rw [Nat.min_eq_left hinside, Nat.succ_mul, Nat.add_sub_cancel_left]
  constructor
  · rw [Array.size_extract, hlength]
  · intro pixel hpixel
    rw [Array.getElem?_extract, hlength, if_pos hpixel]

/-- Some of the planes have been placed, and there are zeros in the places of the others. -/
theorem shows_placed {count : Nat} (hcount : count ≤ channels) :
    Shows
      ((List.range count).foldl (fun samples channel =>
        placePlane channels channel (planes.extract (channel * pixels) ((channel + 1) * pixels))
          samples) (Array.replicate (pixels * channels) 0))
      pixels channels fun pixel c => if c < count then planes[c * pixels + pixel]? else some 0 := by
  induction count with
  | zero =>
    constructor
    case size => exact Array.size_replicate
    case sample =>
      intro pixel hpixel c hc
      rw [if_neg (Nat.not_lt_zero c)]
      exact Array.getElem?_replicate.trans (if_pos (sampleIndex_lt hpixel hc))
  | succ count ih =>
    obtain ⟨hlength, hplane⟩ := plane_spec hplanes hcount
    have hplaced := (ih (Nat.le_of_succ_le hcount)).placePlane hlength hcount
    rw [foldl_range_succ]
    apply hplaced.congr
    intro pixel hpixel c hc
    rw [hplane pixel hpixel]
    by_cases hlast : c = count
    · rw [if_pos hlast, if_pos (by omega), hlast]
    · rw [if_neg hlast]
      by_cases hbefore : c < count
      · rw [if_pos hbefore, if_pos (by omega)]
      · rw [if_neg hbefore, if_neg (by omega)]

/-- Planes become the channels of pixels. -/
theorem shows_interleave (hpixels : 0 < pixels) :
    Shows (interleave pixels channels planes) pixels channels fun pixel channel =>
      planes[channel * pixels + pixel]? := by
  have hcount : planes.size / pixels = channels := by
    rw [hplanes, Nat.mul_div_cancel_left channels hpixels]
  unfold interleave
  rw [hcount]
  exact (shows_placed hplanes (Nat.le_refl channels)).congr fun _ _ _ hc => if_pos hc

end

section

variable (info : ImageInfo) (hsize : raster.size = pixels * channels) (hpixels : 0 < pixels)
  (hchannels : 0 < channels)

include hsize hpixels hchannels

/-- Planes are brought into the order of pixels, unless there is just one, which is so already. -/
theorem shows_arranged :
    Shows (if info.isPlanar ∧ 1 < channels then interleave pixels channels raster else raster)
      pixels channels fun pixel channel =>
        raster[info.rasterIndex pixels channels pixel channel]? := by
  unfold ImageInfo.rasterIndex
  by_cases hplanar : info.isPlanar = true
  · simp only [hplanar, true_and, if_true]
    by_cases hmany : 1 < channels
    · rw [if_pos hmany]
      exact shows_interleave hsize hpixels
    · obtain rfl : channels = 1 := by omega
      rw [if_neg hmany]
      constructor
      case size => exact hsize
      case sample =>
        intro pixel _ channel hchannel
        simp only [Nat.lt_one_iff.mp hchannel, Nat.mul_one, Nat.zero_mul, Nat.add_zero, Nat.zero_add]
  · simp only [hplanar, false_and, Bool.false_eq_true, if_false]
    exact ⟨hsize, fun _ _ _ _ => rfl⟩

/-- Each sample of the picture is one of the raster, as the picture shows it. -/
theorem shows_draw :
    Shows (draw info pixels channels raster) pixels channels fun pixel channel =>
      raster[info.rasterIndex pixels channels pixel channel]?.map (info.shown channel) := by
  have harranged := shows_arranged info hsize hpixels hchannels
  unfold draw
  by_cases hwhite : info.photometric = .minIsWhite
  · simp only [hwhite, if_true, ImageInfo.shown_of_white hwhite]
    exact harranged.invertGray hchannels
  · simp only [hwhite, if_false, ImageInfo.shown_of_black hwhite, Option.map_id]
    exact harranged

end

/-- What is drawn of a raster, or why nothing is, once the color type is known. -/
theorem ofRaster_of_colorType {info : ImageInfo} {color : ColorType}
    (hcolor : info.colorType = .ok color) (raster : Array UInt8) :
    ofRaster info raster =
      let pixels := info.width * info.height
      let expected := pixels * color.channels
      if raster.size < expected then .error (.shortRaster raster.size expected)
      else if info.width = 0 then .error .zeroWidth
      else if info.height = 0 then .error .zeroHeight
      else .ok {
        width := info.width
        height := info.height
        color
        samples := draw info pixels color.channels (raster.extract 0 expected) } := by
  unfold ofRaster
  rw [hcolor]
  dsimp only [bind, Except.bind]
  by_cases hshort : raster.size < info.width * info.height * color.channels
  · rw [if_pos hshort, if_pos hshort]
    rfl
  rw [if_neg hshort, if_neg hshort]
  by_cases hwidth : info.width = 0
  · rw [if_pos hwidth, if_pos hwidth]
    rfl
  rw [if_neg hwidth, if_neg hwidth]
  by_cases hheight : info.height = 0
  · rw [if_pos hheight, if_pos hheight]
    rfl
  rw [if_neg hheight, if_neg hheight]
  rfl

section

variable {info : ImageInfo} {color : ColorType} (hcolor : info.colorType = .ok color)
  (hwidth : 0 < info.width) (hheight : 0 < info.height)

include hcolor

/-- A raster that is too short for its picture is refused. -/
theorem ofRaster_short (hshort : raster.size < info.width * info.height * color.channels) :
    ofRaster info raster =
      .error (.shortRaster raster.size (info.width * info.height * color.channels)) := by
  rw [ofRaster_of_colorType hcolor]
  exact if_pos hshort

include hwidth hheight

theorem ofRaster_long (hlong : info.width * info.height * color.channels ≤ raster.size) :
    ofRaster info raster = .ok {
      width := info.width
      height := info.height
      color
      samples := draw info (info.width * info.height) color.channels
        (raster.extract 0 (info.width * info.height * color.channels)) } := by
  rw [ofRaster_of_colorType hcolor]
  dsimp only
  rw [if_neg (Nat.not_lt.mpr hlong), if_neg (Nat.ne_of_gt hwidth), if_neg (Nat.ne_of_gt hheight)]

/-- All of a raster of just the right length is drawn. -/
theorem ofRaster_whole (hsize : raster.size = info.width * info.height * color.channels) :
    ofRaster info raster = .ok {
      width := info.width
      height := info.height
      color
      samples := draw info (info.width * info.height) color.channels raster } := by
  rw [ofRaster_long hcolor hwidth hheight (Nat.le_of_eq hsize.symm), ← hsize, Array.extract_size]

/-- **A picture shows its raster.** Let an image have a color type and be neither of no width nor of no
height. A raster that has fewer bytes than the picture has samples is refused, with both numbers. Any
other raster gives a picture of the width, the height and the color type of the image. Its sample for a
pixel and a channel is that of the raster, which holds the pixels one after the other, or the planes if
the form of the rows says so; only where zero is white, the first sample of a pixel is inverted. What
the raster holds behind these bytes does not matter. -/
theorem ofRaster_draws (raster : Array UInt8) :
    let pixels := info.width * info.height
    let expected := pixels * color.channels
    (raster.size < expected → ofRaster info raster = .error (.shortRaster raster.size expected)) ∧
    (expected ≤ raster.size → ∃ picture form,
      ofRaster info raster = .ok picture ∧ info.rowForm? = some form ∧
      picture.width = info.width ∧ picture.height = info.height ∧ picture.color = color ∧
      picture.samples.size = expected ∧
      (∀ y < info.height, ∀ x < info.width, ∀ c < color.channels,
        let pixel := y * info.width + x
        ∃ v, raster[if form.isPlanar then c * pixels + pixel else pixel * color.channels + c]? =
            some v ∧
          picture.samples[pixel * color.channels + c]? =
            some (if info.photometric = .minIsWhite ∧ c = 0 then 255 - v else v)) ∧
      ∀ other : Array UInt8, (∀ i < expected, other[i]? = raster[i]?) →
        ofRaster info other = .ok picture) := by
  intro pixels expected
  refine ⟨ofRaster_short hcolor, fun hlong => ?_⟩
  obtain ⟨form, hform, _⟩ := ImageInfo.form_of_colorType hcolor
  have hpixels : 0 < pixels := Nat.mul_pos hwidth hheight
  have hfront : (raster.extract 0 expected).size = expected := by
    rw [Array.size_extract, Nat.min_eq_left hlong, Nat.sub_zero]
  have hshows := shows_draw info hfront hpixels color.channels_pos
  refine ⟨_, form, ofRaster_long hcolor hwidth hheight hlong, hform, rfl, rfl, rfl, hshows.size,
    ?_, ?_⟩
  · intro y hy x hx c hc pixel
    have hpixel : pixel < pixels := by
      rw [show pixels = info.height * info.width from Nat.mul_comm _ _]
      exact sampleIndex_lt hy hx
    have hindex := info.rasterIndex_lt hpixel hc
    have hinside : info.rasterIndex pixels color.channels pixel c < raster.size :=
      Nat.lt_of_lt_of_le hindex hlong
    refine ⟨raster[info.rasterIndex pixels color.channels pixel c], ?_, ?_⟩
    · rw [← ImageInfo.isPlanar_eq hform]
      exact Array.getElem?_eq_getElem hinside
    · refine (hshows.sample pixel hpixel c hc).trans ?_
      rw [Array.getElem?_extract, Nat.min_eq_left hlong, Nat.sub_zero, if_pos hindex, Nat.zero_add,
        Array.getElem?_eq_getElem hinside, Option.map_some, ImageInfo.shown]
  · intro other hsame
    obtain ⟨hfill, hextract⟩ := extract_eq_of_agree hlong hsame
    rw [ofRaster_long hcolor hwidth hheight hfill, hextract]

end

/-- Two pixels in gray whose zero is white, stored with their alpha in a plane of its own. -/
def twoPixels : ImageInfo where
  index? := none
  subfileType := 0
  width := 2
  height := 1
  bitsPerSample := 8
  samplesPerPixel := 2
  planar := .separate
  photometric := .minIsWhite
  compression := 1
  imageCount := 1
  description? := none
  damaged := false

/-- The second pixel, whose gray is inverted and whose alpha is not. -/
theorem ofRaster_draws_twoPixels :
    twoPixels.colorType = .ok .grayAlpha ∧
      ofRaster twoPixels #[10, 20, 30] = .error (.shortRaster 3 4) ∧
      ∃ picture, ofRaster twoPixels #[10, 20, 30, 40, 50] = .ok picture ∧
        picture.samples[2]? = some 235 ∧ picture.samples[3]? = some 40 ∧
        ofRaster twoPixels #[10, 20, 30, 40] = .ok picture := by
  have hcolor : twoPixels.colorType = .ok .grayAlpha := rfl
  obtain ⟨hshort, _⟩ := ofRaster_draws hcolor (by decide) (by decide) #[10, 20, 30]
  obtain ⟨_, hlong⟩ := ofRaster_draws hcolor (by decide) (by decide) #[10, 20, 30, 40, 50]
  obtain ⟨picture, form, hpicture, hform, _, _, _, _, hsamples, hsame⟩ := hlong (by decide)
  obtain rfl : RowForm.grayPlanes = form := Option.some.inj hform
  obtain ⟨gray, hgray, hinverted⟩ := hsamples 0 (by decide) 1 (by decide) 0 (by decide)
  obtain ⟨alpha, halpha, hkept⟩ := hsamples 0 (by decide) 1 (by decide) 1 (by decide)
  obtain rfl : 20 = gray := Option.some.inj hgray
  obtain rfl : 40 = alpha := Option.some.inj halpha
  exact ⟨hcolor, hshort (by decide), picture, hpicture, hinverted, hkept,
    hsame #[10, 20, 30, 40] (by decide)⟩

end Picture

end TiffStrip
