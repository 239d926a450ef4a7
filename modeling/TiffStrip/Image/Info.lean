import TiffStrip.Image.Error
import TiffStrip.Source
import TiffStrip.Text.Json

/-!
# Image information

What the tags of an image say about it. Width, height, compression and subfile type read as zero
where they are absent; the other numbers have defaults in the format. An absent interpretation is
inferred from the samples of a pixel: one is gray, three or four are colors.
-/

namespace TiffStrip

structure ImageInfo where
  /-- The index it was asked for by, nothing for the selected image. -/
  index? : Option Nat
  subfileType : Nat
  width : Nat
  height : Nat
  bitsPerSample : Nat
  samplesPerPixel : Nat
  planar : Planar
  photometric : Photometric
  compression : Nat
  /-- How many images the source has. -/
  imageCount : Nat
  description? : Option String
  /-- Whether a decode of the image stopped early. -/
  damaged : Bool
  deriving DecidableEq, Repr

/-- A request to a source. If it fails, so does what needs it. -/
def request {σ α : Type} (act : EStateM FormatError σ α) : EStateM DecodeError σ α :=
  act.adaptExcept .format

/-- The interpretation that a number of samples suggests. -/
def Photometric.ofSamples? : Nat → Option Photometric
  | 1 => some .minIsBlack
  | 3 | 4 => some .rgb
  | _ => none

namespace ImageInfo

open FieldSource ScanlineSource

variable {σ : Type} [ScanlineSource σ]

/-- The interpretation of the selected image. -/
def readPhotometric (samples : Nat) : EStateM DecodeError σ Photometric := do
  match ← request (fieldAs? .photometricInterpretation FieldValue.first16?) with
  | some code => return Photometric.ofCode code
  | none =>
    match Photometric.ofSamples? samples with
    | some photometric => return photometric
    | none => throw (.unsupported (.noPhotometric samples))

/-- The description of the selected image. -/
def readSelected (index? : Option Nat) : EStateM DecodeError σ ImageInfo := do
  let width := (← request (fieldAs? .imageWidth FieldValue.first32?)).getD 0
  let height := (← request (fieldAs? .imageLength FieldValue.first32?)).getD 0
  let compression := (← request (fieldAs? .compression FieldValue.first16?)).getD 0
  let subfileType := (← request (fieldAs? .subfileType FieldValue.first32?)).getD 0
  let bitsPerSample ← request (defaulted16 .bitsPerSample)
  let samplesPerPixel ← request (defaulted16 .samplesPerPixel)
  let planar ← request FieldSource.planar
  let photometric ← readPhotometric samplesPerPixel
  let description? ← request (fieldAs? .imageDescription FieldValue.text?)
  return { index?, subfileType, width, height, bitsPerSample, samplesPerPixel, planar
           photometric, compression, imageCount := ScanlineSource.imageCount (← get), description?
           damaged := false }

/-- Selects an image and describes it; without an index the selected image is described. -/
def read (index? : Option Nat) : EStateM DecodeError σ ImageInfo := do
  if let some index := index? then
    EStateM.adaptExcept (DecodeError.selection index) (select index)
  readSelected index?

end ImageInfo

open Text in
def Photometric.json : Photometric → Json
  | .minIsWhite => .text "min-is-white"
  | .minIsBlack => .text "min-is-black"
  | .rgb => .text "rgb"
  | .palette => .text "palette"
  | .transparencyMask => .text "transparency-mask"
  | .separated => .text "separated"
  | .yCbCr => .text "y-cb-cr"
  | .cieLab => .text "cie-lab"
  | .other code => .object [("other", .number code)]

open Text in
def Planar.json : Planar → Json
  | .contiguous => .text "contiguous"
  | .separate => .text "separate"

open Text in
def ImageInfo.json (info : ImageInfo) : Json :=
  let head : List (String × Json) := [
    ("image_index", (info.index?.map Json.number).getD .null),
    ("subfile_type", .number info.subfileType),
    ("width", .number info.width),
    ("height", .number info.height),
    ("bits_per_sample", .number info.bitsPerSample),
    ("samples_per_pixel", .number info.samplesPerPixel),
    ("planar_config", info.planar.json),
    ("photometric", info.photometric.json),
    ("compression", .number info.compression),
    ("num_images", .number info.imageCount)]
  let description := info.description?.toList.map fun text => ("description", Json.text text)
  .object (head ++ description ++ [("error", .bool info.damaged)])

end TiffStrip
