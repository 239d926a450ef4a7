import TiffStrip.Error
import TiffStrip.Photometric

/-!
# Scanline sources

What decoding asks of an open file: to select one of its images, to tell what a tag of that image
holds, and to hand out the image's scanlines. A request that fails may still have moved the source
on, so every request answers together with the source afterwards.
-/

namespace TiffStrip

/-- Something that knows the tags of a selected image. -/
class FieldSource (σ : Type) where
  /-- The value of a tag, nothing where the tag is absent. -/
  field (tag : Tag) : EStateM FormatError σ (Option FieldValue)

/-- Something whose images can be read scanline by scanline. -/
class ScanlineSource (σ : Type) extends FieldSource σ where
  /-- The name of the source in messages. -/
  name (source : σ) : String
  imageCount (source : σ) : Nat
  /-- The index of the selected image. -/
  current (source : σ) : Nat
  /-- How many bytes are behind the source, where that is known. Uncompressed image data is never
  more. -/
  dataSize? (source : σ) : Option Nat
  select (index : Nat) : EStateM FormatError σ Unit
  /-- Bytes of one scanline of the selected image. -/
  scanlineSize : EStateM FormatError σ Nat
  /-- The buffer with a scanline laid over its front. -/
  readScanline (row sample : Nat) (buffer : List UInt8) : EStateM FormatError σ (List UInt8)

namespace FieldSource

variable {σ : Type} [FieldSource σ]

/-- The value of a tag, or what the format prescribes where the tag is absent. -/
def fieldOrDefault (tag : Tag) : EStateM FormatError σ FieldValue := do
  match ← field tag with
  | some value => return value
  | none =>
    match tag.default? with
    | some value => return value
    | none => throw (.missingTag tag)

/-- A view of a value that has to succeed. -/
def view {α : Type} (tag : Tag) (read? : FieldValue → Option α) (value : FieldValue) :
    EStateM FormatError σ α :=
  match read? value with
  | some a => return a
  | none => throw (.unexpected tag value)

def required32 (tag : Tag) : EStateM FormatError σ Nat := do
  match ← field tag with
  | some value => view tag FieldValue.first32? value
  | none => throw (.missingTag tag)

/-- A view of the value of a tag, nothing where the tag is absent. -/
def fieldAs? {α : Type} (tag : Tag) (read? : FieldValue → Option α) :
    EStateM FormatError σ (Option α) := do
  match ← field tag with
  | some value => return some (← view tag read? value)
  | none => return none

def defaulted16 (tag : Tag) : EStateM FormatError σ Nat := do
  view tag FieldValue.first16? (← fieldOrDefault tag)

def planar : EStateM FormatError σ Planar := do
  let code ← defaulted16 .planarConfiguration
  match Planar.ofCode? code with
  | some planar => return planar
  | none => throw (.invalidValue (.tag .planarConfiguration) (.unknown code))

end FieldSource

end TiffStrip
