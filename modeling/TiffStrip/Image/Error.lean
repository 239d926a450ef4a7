import TiffStrip.Error
import TiffStrip.Photometric

namespace TiffStrip

inductive Unsupported where
  /-- The interpretation is missing and the number of samples does not suggest one. -/
  | noPhotometric (samples : Nat)
  | paletteDepth (bits : Nat)
  /-- There is no rule for the interpretation in this arrangement. -/
  | arrangement (photometric : Photometric) (planar : Planar)
  /-- The raster cannot be held in memory. -/
  | tooLarge (width height : Nat)
  /-- The file is shorter than the image data would be. -/
  | dataMissing (width height needed held : Nat)
  deriving DecidableEq, Repr

inductive DecodeError where
  | format (error : FormatError)
  | selection (index : Nat) (error : FormatError)
  | unsupported (cause : Unsupported)
  | missingColormap (source : String)
  | bufferTooSmall (required actual : Nat)
  deriving DecidableEq, Repr

inductive PictureError where
  | noRaster (photometric : Photometric)
  | sampleDepth (bits : Nat)
  | sampleCount (samples : Nat) (photometric : Photometric)
  | shortRaster (held expected : Nat)
  | zeroWidth
  | zeroHeight
  deriving DecidableEq, Repr

def Unsupported.message : Unsupported → String
  | .noPhotometric samples =>
    s!"no PhotometricInterpretation tag and {samples} samples per pixel"
  | .paletteDepth bits => s!"{bits}-bit palette images"
  | .arrangement photometric planar =>
    s!"cannot read photometric {photometric.code} (" ++ planar.name ++ " planar configuration)"
  | .tooLarge width height => s!"{width}x{height} raster does not fit in memory"
  | .dataMissing width height needed held =>
    s!"{width}x{height} raster needs {needed} bytes of image data, file holds {held}"

def DecodeError.message : DecodeError → String
  | .format error => "TIFF error: " ++ error.message
  | .selection index error => s!"Cannot select image {index}: " ++ error.message
  | .unsupported cause => "Unsupported format: " ++ cause.message
  | .missingColormap source => "Missing required \"Colormap\" tag in " ++ source
  | .bufferTooSmall required actual =>
    s!"Output buffer too small: need {required} bytes, got {actual}"

def PictureError.message : PictureError → String
  | .noRaster photometric =>
    "Cannot encode raster: photometric " ++ photometric.name ++ " has no decoded form"
  | .sampleDepth bits => s!"Cannot encode raster: {bits}-bit samples"
  | .sampleCount samples photometric =>
    s!"Cannot encode raster: {samples} " ++ photometric.name ++ " samples per pixel"
  | .shortRaster held expected =>
    s!"Encode error: raster holds {held} bytes, expected {expected}"
  | .zeroWidth => "Encode error: Zero width not allowed"
  | .zeroHeight => "Encode error: Zero height not allowed"

end TiffStrip
