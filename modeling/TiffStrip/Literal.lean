import TiffStrip.Bytes.Chunk
import TiffStrip.Source

namespace TiffStrip

structure LiteralImage where
  fields : List (Tag × FieldValue)
  /-- The scanlines of each plane. -/
  planes : List (List (List UInt8))
  /-- Bytes of one scanline, as the image states them. -/
  scanlineSize : Nat
  deriving Repr

structure LiteralSource where
  images : List LiteralImage
  current : Nat := 0
  dataSize? : Option Nat := none
  name : String := "literal"
  deriving Repr

namespace LiteralSource

/-- The selected image; a source without images has an empty one. -/
def image (source : LiteralSource) : LiteralImage :=
  source.images[source.current]?.getD { fields := [], planes := [], scanlineSize := 0 }

def field (tag : Tag) : EStateM FormatError LiteralSource (Option FieldValue) := do
  return (← get).image.fields.lookup tag

def select (index : Nat) : EStateM FormatError LiteralSource Unit := do
  let count := (← get).images.length
  if index < count then modify fun source => { source with current := index }
  else throw (.directoryOutOfRange index count)

/-- The buffer with a scanline laid over its front. -/
def readScanline (row sample : Nat) (buffer : List UInt8) :
    EStateM FormatError LiteralSource (List UInt8) := do
  let planes := (← get).image.planes
  match planes[sample]?.bind (·[row]?) with
  | none => throw (.scanlineOutOfRange row sample 0 planes.length)
  | some line =>
    if buffer.length < line.length then
      throw (.scanlineBufferTooSmall line.length buffer.length)
    return overwrite line buffer

instance : ScanlineSource LiteralSource where
  field := field
  name := name
  imageCount source := source.images.length
  current := current
  dataSize? := dataSize?
  select := select
  scanlineSize := return (← get).image.scanlineSize
  readScanline := readScanline

end LiteralSource

end TiffStrip
