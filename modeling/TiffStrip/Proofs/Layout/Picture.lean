import TiffStrip.Proofs.Layout.RoundTrip
import TiffStrip.Proofs.Picture.Drawn

namespace TiffStrip

inductive OriginalKind where
  | grayAlpha (whiteIsZero : Bool)
  | rgb
  | rgba
  deriving DecidableEq, Repr

namespace OriginalKind

def color : OriginalKind → ColorType
  | grayAlpha _ => .grayAlpha
  | rgb => .rgb
  | rgba => .rgba

/-- Pixels of the kind, stored in the given order. -/
def stored (planar : Planar) : OriginalKind → PixelKind
  | grayAlpha white => .grayAlpha white planar
  | rgb => .rgb planar
  | rgba => .rgba planar

theorem planar_stored (planar : Planar) (kind : OriginalKind) :
    (kind.stored planar).planar = planar := by
  cases kind <;> rfl

theorem samples_stored (planar : Planar) (kind : OriginalKind) :
    (kind.stored planar).samples = kind.color.channels := by
  cases kind <;> rfl

end OriginalKind

structure Original where
  kind : OriginalKind
  width : Nat
  height : Nat
  sample : (pixel channel : Nat) → UInt8
  width_pos : 0 < width
  height_pos : 0 < height

structure StripChoice where
  rowsPerStrip : Nat
  wide : Bool
  rowsPerStrip_pos : 0 < rowsPerStrip

/-- The entries of a table, row after row. -/
def byRows (rows columns : Nat) (entry : (row column : Nat) → UInt8) : List UInt8 :=
  (List.range rows).flatMap fun row => (List.range columns).map (entry row)

namespace Original

variable (original : Original)

def pixels : Nat :=
  original.width * original.height

def channels : Nat :=
  original.kind.color.channels

/-- The samples in the order in which they are stored. -/
def samples : Planar → List UInt8
  | .contiguous => byRows original.pixels original.channels original.sample
  | .separate => byRows original.channels original.pixels fun channel pixel =>
      original.sample pixel channel

theorem length_samples (planar : Planar) :
    (original.samples planar).length = original.pixels * original.channels := by
  cases planar with
  | contiguous => exact length_flatMap_map _ _ _
  | separate => exact (length_flatMap_map _ _ _).trans (Nat.mul_comm _ _)

/-- The picture as a stored image. -/
def stored (planar : Planar) (choice : StripChoice) : StoredImage where
  kind := original.kind.stored planar
  width := original.width
  height := original.height
  rowsPerStrip := choice.rowsPerStrip
  wide := choice.wide
  pixels := original.samples planar
  width_pos := original.width_pos
  height_pos := original.height_pos
  rowsPerStrip_pos := choice.rowsPerStrip_pos
  length_pixels := by
    rw [length_samples, PixelKind.planes, OriginalKind.planar_stored, OriginalKind.samples_stored,
      pixels, channels]
    cases planar with
    | contiguous =>
      rw [Nat.one_mul, Nat.mul_left_comm, ← Nat.mul_assoc]
      rfl
    | separate =>
      rw [Nat.mul_comm, Nat.mul_comm original.width, samplesPerScanline, Nat.mul_one]

/-- A sample as the picture shows it: gray whose zero is white is inverted, alpha is not. -/
def shown (pixel channel : Nat) : UInt8 :=
  let sample := original.sample pixel channel
  if original.kind = .grayAlpha true ∧ channel = 0 then 255 - sample else sample

/-- The picture itself, pixel after pixel. -/
def picture : Picture where
  width := original.width
  height := original.height
  color := original.kind.color
  samples := (byRows original.pixels original.channels original.shown).toArray

variable {original} {planar : Planar} {choice : StripChoice} {index? : Option Nat} {count : Nat}

/-- The sample at an index of the picture is where the order of the raster puts it. -/
theorem getElem?_samples {pixel channel : Nat} (hpixel : pixel < original.pixels)
    (hchannel : channel < original.channels) :
    (original.samples planar)[if planar = .separate then channel * original.pixels + pixel
        else pixel * original.channels + channel]? = some (original.sample pixel channel) := by
  cases planar with
  | contiguous => exact getElem?_flatMap_map _ hpixel hchannel
  | separate =>
    exact getElem?_flatMap_map (fun channel pixel => original.sample pixel channel) hchannel hpixel

section

variable {image : StoredImage} {kind : OriginalKind} (hkind : image.kind = kind.stored planar)

include hkind

theorem colorType_info : (image.info index? count).colorType = .ok kind.color := by
  unfold ImageInfo.colorType
  rw [StoredImage.rowForm?_info]
  unfold StoredImage.info
  rw [hkind]
  cases kind <;> cases planar <;> rfl

theorem isPlanar_info : (image.info index? count).isPlanar = decide (planar = .separate) := by
  unfold ImageInfo.isPlanar
  rw [StoredImage.rowForm?_info, hkind]
  cases kind <;> cases planar <;> rfl

theorem photometric_info :
    (image.info index? count).photometric = .minIsWhite ↔ kind = .grayAlpha true := by
  unfold StoredImage.info
  rw [hkind]
  cases kind with
  | grayAlpha white => cases white <;> simp [OriginalKind.stored, PixelKind.photometric]
  | rgb | rgba => simp [OriginalKind.stored, PixelKind.photometric]

end

/-- Whichever way the samples are stored, the picture shows each of them as the original does. -/
theorem shown_samples {pixel channel : Nat} (hpixel : pixel < original.pixels)
    (hchannel : channel < original.channels) :
    let info := (original.stored planar choice).info index? count
    (original.samples planar)[info.rasterIndex original.pixels original.channels pixel channel]?.map
        (info.shown channel) = some (original.shown pixel channel) := by
  intro info
  have hplace : info.rasterIndex original.pixels original.channels pixel channel =
      if planar = .separate then channel * original.pixels + pixel
      else pixel * original.channels + channel := by
    rw [ImageInfo.rasterIndex, show info.isPlanar = _ from isPlanar_info rfl]
    simp only [decide_eq_true_eq]
  have hwhite : info.photometric = .minIsWhite ↔ original.kind = .grayAlpha true :=
    photometric_info rfl
  rw [hplace, getElem?_samples hpixel hchannel, Option.map_some, ImageInfo.shown, shown]
  simp only [hwhite]

theorem ofRaster_samples :
    Picture.ofRaster ((original.stored planar choice).info index? count)
      (original.samples planar).toArray = .ok original.picture := by
  generalize hraster : (original.samples planar).toArray = raster
  have hsize : raster.size = original.pixels * original.channels := by
    rw [← hraster, List.size_toArray, length_samples]
  have hpixels : 0 < original.pixels := Nat.mul_pos original.width_pos original.height_pos
  have hdrawn : Picture.Shows
      (Picture.draw ((original.stored planar choice).info index? count) original.pixels
        original.channels raster)
      original.pixels original.channels
      fun pixel channel => some (original.shown pixel channel) := by
    refine (Picture.shows_draw _ hsize hpixels original.kind.color.channels_pos).congr ?_
    intro pixel hpixel channel hchannel
    rw [← hraster, List.getElem?_toArray, shown_samples hpixel hchannel]
  have hpicture : Picture.Shows original.picture.samples original.pixels original.channels
      fun pixel channel => some (original.shown pixel channel) := by
    refine ⟨length_flatMap_map _ _ _, fun pixel hpixel channel hchannel => ?_⟩
    exact List.getElem?_toArray.trans (getElem?_flatMap_map original.shown hpixel hchannel)
  have hcolor : ((original.stored planar choice).info index? count).colorType =
      .ok original.kind.color := colorType_info rfl
  exact (Picture.ofRaster_whole hcolor original.width_pos original.height_pos hsize).trans
    (congrArg (fun samples => Except.ok { original.picture with samples }) (hdrawn.unique hpicture))

end Original

namespace StoredFile

open File

/-- Images that can be stored in one file, with a given image at an index. No byte string in memory
is longer than the longest raster. -/
structure Contains (encoding : Encoding) (images : List StoredImage) (index : Nat)
    (image : StoredImage) : Prop where
  image : images[index]? = some image
  count : images.length ≤ maxDirectories
  fits : Fits encoding images
  length : (bytes encoding images).length ≤ maxRaster

variable {encoding encoding' : Encoding} {images images' : List StoredImage} {index index' : Nat}

/-- A stored picture is decoded to its samples, and they give the picture back. -/
theorem picture_of_stored {original : Original} {planar : Planar} {choice : StripChoice}
    (h : Contains encoding images index (original.stored planar choice)) (name : String) :
    ∃ file outcome, ofBytes name (bytes encoding images).toArray = .ok file ∧
      answer (decodeImage (some index)) file =
        .ok (outcome, (original.samples planar).toArray) ∧
      outcome.status = .complete ∧
      Picture.ofRaster outcome.info (original.samples planar).toArray = .ok original.picture := by
  have hne : images ≠ [] := by
    rintro rfl
    cases h.image
  obtain ⟨file, hopen, _, hdecode⟩ := exists_decoded name hne h.count h.fits h.length
  exact ⟨file, _, hopen, hdecode [] index _ h.image, rfl, Original.ofRaster_samples⟩

/-- **A picture does not depend on its order.** A picture in gray with alpha, in colors, or in
colors with alpha is stored twice, pixel after pixel in one file and plane after plane in another.
Whatever the byte order and the format of the files, whatever else is in them, and however the rows
are cut into strips, both images are decoded completely, to rasters of one length, and both rasters
give the picture that was stored. -/
theorem picture_of_either_order {original : Original} {choice choice' : StripChoice}
    (h : Contains encoding images index (original.stored .contiguous choice))
    (h' : Contains encoding' images' index' (original.stored .separate choice'))
    (name name' : String) :
    ∃ file file' outcome outcome' raster raster',
      ofBytes name (bytes encoding images).toArray = .ok file ∧
      ofBytes name' (bytes encoding' images').toArray = .ok file' ∧
      answer (decodeImage (some index)) file = .ok (outcome, raster) ∧
      answer (decodeImage (some index')) file' = .ok (outcome', raster') ∧
      outcome.status = .complete ∧ outcome'.status = .complete ∧ raster.size = raster'.size ∧
      Picture.ofRaster outcome.info raster = .ok original.picture ∧
      Picture.ofRaster outcome'.info raster' = .ok original.picture := by
  obtain ⟨file, outcome, hopen, hdecode, hcomplete, hpicture⟩ := picture_of_stored h name
  obtain ⟨file', outcome', hopen', hdecode', hcomplete', hpicture'⟩ := picture_of_stored h' name'
  have hsize : (original.samples .contiguous).toArray.size =
      (original.samples .separate).toArray.size := by
    rw [List.size_toArray, List.size_toArray, Original.length_samples, Original.length_samples]
  exact ⟨file, file', outcome, outcome', _, _, hopen, hopen', hdecode, hdecode', hcomplete,
    hcomplete', hsize, hpicture, hpicture'⟩

end StoredFile

/-- Three by two pixels, gray whose zero is white, half of them transparent. -/
def Original.halfClear : Original where
  kind := .grayAlpha true
  width := 3
  height := 2
  sample pixel channel :=
    if channel = 0 then UInt8.ofNat (40 * pixel) else if pixel < 3 then 0 else 255
  width_pos := Nat.zero_lt_succ (nat_lit 2)
  height_pos := Nat.two_pos

theorem StoredFile.picture_of_halfClear :
    let strips : StripChoice := ⟨1, false, by decide⟩
    let oneStrip : StripChoice := ⟨5, true, by decide⟩
    let pixels := [Original.halfClear.stored .contiguous strips]
    let planes := [Original.halfClear.stored .separate oneStrip]
    ∃ file file' outcome outcome' raster raster',
      File.ofBytes "pixels" (bytes ⟨.little, .classic⟩ pixels).toArray = .ok file ∧
      File.ofBytes "planes" (bytes ⟨.big, .big⟩ planes).toArray = .ok file' ∧
      answer (decodeImage (some 0)) file = .ok (outcome, raster) ∧
      answer (decodeImage (some 0)) file' = .ok (outcome', raster') ∧
      outcome.status = .complete ∧ outcome'.status = .complete ∧ raster.size = raster'.size ∧
      Picture.ofRaster outcome.info raster = .ok Original.halfClear.picture ∧
      Picture.ofRaster outcome'.info raster' = .ok Original.halfClear.picture ∧
      Original.halfClear.picture.samples =
        #[255, 0, 215, 0, 175, 0, 135, 255, 95, 255, 55, 255] := by
  intro strips oneStrip pixels planes
  have hpixels :
      Contains ⟨.little, .classic⟩ pixels 0 (Original.halfClear.stored .contiguous strips) := by
    refine ⟨rfl, by decide, ?_, ?_⟩
    · unfold Fits
      decide +kernel
    · decide +kernel
  have hplanes : Contains ⟨.big, .big⟩ planes 0 (Original.halfClear.stored .separate oneStrip) := by
    refine ⟨rfl, by decide, ?_, ?_⟩
    · unfold Fits
      decide +kernel
    · decide +kernel
  have hsamples : Original.halfClear.picture.samples =
      #[255, 0, 215, 0, 175, 0, 135, 255, 95, 255, 55, 255] := by
    decide +kernel
  obtain ⟨file, file', outcome, outcome', raster, raster', hopen, hopen', hdecode, hdecode',
    hcomplete, hcomplete', hsize, hpicture, hpicture'⟩ :=
    picture_of_either_order hpixels hplanes "pixels" "planes"
  exact ⟨file, file', outcome, outcome', raster, raster', hopen, hopen', hdecode, hdecode',
    hcomplete, hcomplete', hsize, hpicture, hpicture', hsamples⟩

end TiffStrip
