import TiffStrip.Image.Info
import TiffStrip.StripTable

namespace TiffStrip

namespace ImageInfo

/-- Bytes of one sample's row. -/
def bytesPerRow (info : ImageInfo) : Nat :=
  ceilDiv (info.width * info.bitsPerSample) 8

/-- Bytes of all rows of all samples, capped at the top of memory. -/
def rasterSize (info : ImageInfo) : Nat :=
  Address.mulCapped (Address.mulCapped info.bytesPerRow info.height) info.samplesPerPixel

/-- The largest value of a sample, capped at 64 bits. -/
def maxSample (info : ImageInfo) : Nat :=
  if info.bitsPerSample < 64 then (1 <<< info.bitsPerSample) - 1 else Address.top

end ImageInfo

/-- What is taken from each scanline of an image. -/
inductive RowForm where
  /-- All gray samples of a row. -/
  | graySamples
  /-- One gray sample of a row; there is a plane for each. -/
  | grayPlanes
  /-- An index for each pixel, drawn in the color that it stands for. -/
  | paletteColors
  /-- All color samples of a row. -/
  | rgbPixels
  /-- One color sample of a row; there is a plane for each. -/
  | rgbPlanes
  deriving DecidableEq, Repr

namespace RowForm

/-- The form of an image's rows, if there is one for its arrangement. -/
def of? : Photometric → Planar → Option RowForm
  | .minIsBlack, .contiguous | .minIsWhite, .contiguous => some .graySamples
  | .minIsBlack, .separate | .minIsWhite, .separate => some .grayPlanes
  | .palette, _ => some .paletteColors
  | .rgb, .contiguous => some .rgbPixels
  | .rgb, .separate => some .rgbPlanes
  | _, _ => none

/-- Whether the raster holds one plane after the other. -/
def isPlanar : RowForm → Bool
  | .grayPlanes | .rgbPlanes => true
  | .graySamples | .paletteColors | .rgbPixels => false

def planes (form : RowForm) (info : ImageInfo) : Nat :=
  if form.isPlanar then info.samplesPerPixel else 1

/-- Bytes taken from each scanline. -/
def inputLength (form : RowForm) (info : ImageInfo) : Nat :=
  match form with
  | .graySamples => info.bytesPerRow * info.samplesPerPixel
  | .grayPlanes => info.bytesPerRow
  | .paletteColors => info.width
  | .rgbPixels => info.width * info.samplesPerPixel
  | .rgbPlanes => info.width

/-- Bytes of raster for each byte taken. -/
def expansion : RowForm → Nat
  | .paletteColors => 3
  | _ => 1

/-- The length of the raster, if so many bytes can be addressed. -/
def rasterLength? (form : RowForm) (info : ImageInfo) : Option Nat := do
  let line ← Address.mul? (form.inputLength info) form.expansion
  let plane ← Address.mul? line info.height
  Address.mul? plane (form.planes info)

end RowForm

namespace ImageInfo

def rowForm? (info : ImageInfo) : Option RowForm :=
  RowForm.of? info.photometric info.planar

/-- The form of the image's rows, or why it has none. -/
def rowForm (info : ImageInfo) : Except DecodeError RowForm :=
  match info.rowForm? with
  | some form => .ok form
  | none => .error (.unsupported (.arrangement info.photometric info.planar))

/-- The length of the image's raster. -/
def rasterLength (info : ImageInfo) : Except DecodeError Nat := do
  let form ← info.rowForm
  match form.rasterLength? info with
  | some length => return length
  | none => throw (.unsupported (.tooLarge info.width info.height))

end ImageInfo

end TiffStrip
