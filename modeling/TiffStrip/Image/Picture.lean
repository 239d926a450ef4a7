import TiffStrip.Image.RowForm

namespace TiffStrip

inductive ColorType where
  | gray
  | grayAlpha
  | rgb
  | rgba
  deriving DecidableEq, Repr

def ColorType.channels : ColorType → Nat
  | .gray => 1
  | .grayAlpha => 2
  | .rgb => 3
  | .rgba => 4

structure Picture where
  width : Nat
  height : Nat
  color : ColorType
  /-- The samples of each pixel, pixel after pixel and row after row. -/
  samples : Array UInt8
  deriving DecidableEq, Repr

namespace ImageInfo

/-- The samples of a pixel of the image's picture. -/
def colorType (info : ImageInfo) : Except PictureError ColorType := do
  let some form := info.rowForm? | throw (.noRaster info.photometric)
  if form ≠ .paletteColors ∧ info.bitsPerSample ≠ 8 then
    throw (.sampleDepth info.bitsPerSample)
  match form, info.samplesPerPixel with
  | .paletteColors, _ => return .rgb
  | .graySamples, 1 | .grayPlanes, 1 => return .gray
  | .graySamples, 2 | .grayPlanes, 2 => return .grayAlpha
  | .rgbPixels, 3 | .rgbPlanes, 3 => return .rgb
  | .rgbPixels, 4 | .rgbPlanes, 4 => return .rgba
  | _, samples => throw (.sampleCount samples info.photometric)

/-- Whether the raster holds one plane after the other. -/
def isPlanar (info : ImageInfo) : Bool :=
  info.rowForm?.any RowForm.isPlanar

end ImageInfo

namespace Picture

/-- Puts the samples of a plane into a channel of the pixels, in their order. -/
def placePlane (channels channel : Nat) (plane samples : Array UInt8) : Array UInt8 :=
  (List.range plane.size).foldl
    (fun samples pixel => samples.set! (pixel * channels + channel) (plane.getD pixel 0)) samples

/-- Planes of so many pixels, one after the other, as the channels of these pixels. -/
def interleave (pixels channels : Nat) (planes : Array UInt8) : Array UInt8 :=
  (List.range (planes.size / pixels)).foldl
    (fun samples channel =>
      let plane := planes.extract (channel * pixels) ((channel + 1) * pixels)
      placePlane channels channel plane samples)
    (Array.replicate (pixels * channels) 0)

def invertGray (channels : Nat) (samples : Array UInt8) : Array UInt8 :=
  (List.range (samples.size / channels)).foldl
    (fun samples pixel => samples.modify (pixel * channels) (255 - ·)) samples

/-- The samples of the picture of a raster. -/
def draw (info : ImageInfo) (pixels channels : Nat) (raster : Array UInt8) : Array UInt8 :=
  let samples := if info.isPlanar ∧ 1 < channels then interleave pixels channels raster else raster
  if info.photometric = .minIsWhite then invertGray channels samples else samples

/-- Whether planes without pixels are to be interleaved. There is no telling them apart, and the
program panics. -/
def panics (info : ImageInfo) : Bool :=
  match info.colorType with
  | .ok color => info.isPlanar && 1 < color.channels && info.width * info.height = 0
  | .error _ => false

/-- The picture of a raster; bytes past its end are ignored. Where the program `panics` there is no
picture either, but also no error that it could report. -/
def ofRaster (info : ImageInfo) (raster : Array UInt8) : Except PictureError Picture := do
  let color ← info.colorType
  let pixels := info.width * info.height
  let expected := pixels * color.channels
  if raster.size < expected then throw (.shortRaster raster.size expected)
  if info.width = 0 then throw .zeroWidth
  if info.height = 0 then throw .zeroHeight
  return {
    width := info.width
    height := info.height
    color
    samples := draw info pixels color.channels (raster.extract 0 expected) }

end Picture

end TiffStrip
