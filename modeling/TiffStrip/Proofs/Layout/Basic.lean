import TiffStrip.Directory
import TiffStrip.Entry.Value
import TiffStrip.Photometric
import TiffStrip.StripTable
import TiffStrip.Tag

/-!
# Stored files

How a file is laid out that holds given images: the header, then for each image its directory, the
values that do not fit their entries, and its strips. All images have samples of eight bits.
-/

namespace TiffStrip

/-- The offsets of pieces that lie one behind the other. -/
def offsetsFrom : (start : Nat) → List (List UInt8) → List Nat
  | _, [] => []
  | start, piece :: rest => start :: offsetsFrom (start + piece.length) rest

structure StoredField where
  tag : Tag
  type : FieldType
  values : List Nat
  deriving DecidableEq, Repr

namespace StoredField

def bytes (order : ByteOrder) (field : StoredField) : List UInt8 :=
  order.encodeArray field.type.size field.values

def size (field : StoredField) : Nat :=
  field.type.size * field.values.length

/-- The values if they are stored outside of the entry, nothing if they are stored in it. -/
def outside (encoding : Encoding) (field : StoredField) : List UInt8 :=
  if field.size ≤ encoding.format.offsetSize then [] else field.bytes encoding.order

/-- The entry of a field. Values that do not fill it up are followed by zeros, values that do not fit
it are at an offset. -/
def entry (encoding : Encoding) (offset : Nat) (field : StoredField) : Entry :=
  let size := encoding.format.offsetSize
  { tag := field.tag.code
    typeCode := field.type.code
    count := field.values.length
    field :=
      if field.size ≤ size then
        field.bytes encoding.order ++ List.replicate (size - field.size) 0
      else encoding.order.encode size offset }

/-- The entries of fields. The values outside of the entries lie one behind the other. -/
def entries (encoding : Encoding) : (offset : Nat) → List StoredField → List Entry
  | _, [] => []
  | offset, field :: rest =>
    field.entry encoding offset :: entries encoding (offset + (field.outside encoding).length) rest

/-- Whether every value fits the type of the field. -/
def Fits (field : StoredField) : Prop :=
  ∀ value ∈ field.values, value < wordLimit field.type.size

instance (field : StoredField) : Decidable field.Fits :=
  inferInstanceAs (Decidable (∀ value ∈ field.values, value < wordLimit field.type.size))

end StoredField

inductive PixelKind where
  | blackIsZero
  | whiteIsZero
  | rgb (planar : Planar)
  /-- Gray with alpha. -/
  | grayAlpha (whiteIsZero : Bool) (planar : Planar)
  | rgba (planar : Planar)
  deriving DecidableEq, Repr

namespace PixelKind

def photometric : PixelKind → Photometric
  | blackIsZero | grayAlpha false _ => .minIsBlack
  | whiteIsZero | grayAlpha true _ => .minIsWhite
  | rgb _ | rgba _ => .rgb

def planar : PixelKind → Planar
  | blackIsZero | whiteIsZero => .contiguous
  | rgb planar | grayAlpha _ planar | rgba planar => planar

def samples : PixelKind → Nat
  | blackIsZero | whiteIsZero => 1
  | rgb _ => 3
  | grayAlpha _ _ => 2
  | rgba _ => 4

def planes (kind : PixelKind) : Nat :=
  match kind.planar with
  | .contiguous => 1
  | .separate => kind.samples

end PixelKind

/-- An image as it is to be stored, with its pixels row after row, plane after plane. -/
structure StoredImage where
  kind : PixelKind
  width : Nat
  height : Nat
  /-- Rows of a strip. There may be more of them than the image has. -/
  rowsPerStrip : Nat
  /-- Whether width, height and rows of a strip are stored as numbers of four bytes, not of two. -/
  wide : Bool
  pixels : List UInt8
  width_pos : 0 < width
  height_pos : 0 < height
  rowsPerStrip_pos : 0 < rowsPerStrip
  length_pixels :
    pixels.length = kind.planes * (height * (width * samplesPerScanline kind.planar kind.samples))
  deriving Repr

namespace StoredImage

/-- Bytes of a row of one plane. -/
def rowLength (image : StoredImage) : Nat :=
  image.width * samplesPerScanline image.kind.planar image.kind.samples

def stripsPerPlane (image : StoredImage) : Nat :=
  ceilDiv image.height image.rowsPerStrip

/-- The rows of a plane. -/
def plane (image : StoredImage) (plane : Nat) : List UInt8 :=
  (image.pixels.drop (plane * (image.height * image.rowLength))).take
    (image.height * image.rowLength)

/-- A strip of a plane. The last may have fewer rows than the others. -/
def strip (image : StoredImage) (plane index : Nat) : List UInt8 :=
  ((image.plane plane).drop (index * (image.rowsPerStrip * image.rowLength))).take
    (image.rowsPerStrip * image.rowLength)

def strips (image : StoredImage) : List (List UInt8) :=
  (List.range image.kind.planes).flatMap fun plane =>
    (List.range image.stripsPerPlane).map (image.strip plane)

/-- The fields of an image, in the order of their tags. -/
def fields (image : StoredImage) (format : Format) (offsets : List Nat) : List StoredField :=
  let number := if image.wide then FieldType.long else .short
  let offset := if format = .big then FieldType.long8 else .long
  [ ⟨.imageWidth, number, [image.width]⟩,
    ⟨.imageLength, number, [image.height]⟩,
    ⟨.bitsPerSample, .short, List.replicate image.kind.samples 8⟩,
    ⟨.photometricInterpretation, .short, [image.kind.photometric.code]⟩,
    ⟨.stripOffsets, offset, offsets⟩,
    ⟨.samplesPerPixel, .short, [image.kind.samples]⟩,
    ⟨.rowsPerStrip, number, [image.rowsPerStrip]⟩,
    ⟨.stripByteCounts, .long, image.strips.map List.length⟩ ] ++
  match image.kind.planar with
  | .contiguous => []
  | .separate => [⟨.planarConfiguration, .short, [2]⟩]

section

variable (image : StoredImage) (encoding : Encoding) (start : Nat)

/-- Where the values outside of the entries begin if the directory is at `start`. -/
def outsideStart : Nat :=
  let entries := (image.fields encoding.format []).length * encoding.format.entrySize
  start + (encoding.format.countSize + entries + encoding.format.offsetSize)

/-- Where the strips begin. An offset takes the same room whatever it is. -/
def stripsStart : Nat :=
  let fields := image.fields encoding.format (List.replicate image.strips.length 0)
  image.outsideStart encoding start + (fields.flatMap (·.outside encoding)).length

/-- The fields with the offsets of the strips filled in. -/
def placedFields : List StoredField :=
  image.fields encoding.format (offsetsFrom (image.stripsStart encoding start) image.strips)

def stop : Nat :=
  image.stripsStart encoding start + image.strips.flatten.length

/-- Where the next directory is, if there is one: at an even offset. -/
def nextStart : Nat :=
  image.stop encoding start + image.stop encoding start % 2

def directory (next : Nat) : Directory :=
  { entries := StoredField.entries encoding (image.outsideStart encoding start)
      (image.placedFields encoding start)
    next }

def bytes (next : Nat) : List UInt8 :=
  (image.directory encoding start next).serialize encoding
    ++ (image.placedFields encoding start).flatMap (·.outside encoding)
    ++ image.strips.flatten
    ++ List.replicate (image.stop encoding start % 2) 0

end

end StoredImage

namespace StoredFile

variable (encoding : Encoding)

/-- The directories of images that are stored from an offset on. -/
def directories : (start : Nat) → List StoredImage → List Directory
  | _, [] => []
  | start, image :: rest =>
    let next := image.nextStart encoding start
    image.directory encoding start (if rest.isEmpty then 0 else next) :: directories next rest

/-- The bytes of images that are stored from an offset on. -/
def body : (start : Nat) → List StoredImage → List UInt8
  | _, [] => []
  | start, image :: rest =>
    let next := image.nextStart encoding start
    image.bytes encoding start (if rest.isEmpty then 0 else next) ++ body next rest

def fields : (start : Nat) → List StoredImage → List StoredField
  | _, [] => []
  | start, image :: rest =>
    image.placedFields encoding start ++ fields (image.nextStart encoding start) rest

/-- The bytes of a file. Its images begin right behind the header. -/
def bytes (images : List StoredImage) : List UInt8 :=
  let start := encoding.format.headerSize
  Header.serialize { encoding, firstDirectory := start } ++ body encoding start images

/-- Whether every value of every field fits its type, the offsets of the strips included. -/
def Fits (images : List StoredImage) : Prop :=
  ∀ field ∈ fields encoding encoding.format.headerSize images, field.Fits

/-- A file of one directory, right behind its header, and image data behind that. Every value fits
its entry. -/
def ofFields (fields : List StoredField) (data : List UInt8) : List UInt8 :=
  let encoding : Encoding := ⟨.little, .classic⟩
  let directory : Directory := { entries := StoredField.entries encoding 0 fields, next := 0 }
  Header.serialize { encoding, firstDirectory := encoding.format.headerSize } ++
    directory.serialize encoding ++ data

/-- Two gray rows of two pixels, each a strip of its own. -/
def twoRows : List UInt8 :=
  ofFields
    [ ⟨.imageWidth, .short, [2]⟩, ⟨.imageLength, .short, [2]⟩, ⟨.bitsPerSample, .short, [8]⟩,
      ⟨.photometricInterpretation, .short, [1]⟩, ⟨.stripOffsets, .byte, [86, 88]⟩,
      ⟨.rowsPerStrip, .short, [1]⟩ ]
    [1, 2, 3, 4]

/-- Two images: five gray rows in strips of two, and the three planes of four colors in strips that
have more rows than the image. -/
def grayAndColors : List StoredImage :=
  [ { kind := .whiteIsZero, width := 3, height := 5, rowsPerStrip := 2, wide := true
      pixels := [0, 7, 14, 21, 28, 35, 42, 49, 56, 63, 70, 77, 84, 91, 98]
      width_pos := by decide, height_pos := by decide, rowsPerStrip_pos := by decide
      length_pixels := rfl },
    { kind := .rgb .separate, width := 2, height := 2, rowsPerStrip := 9, wide := false
      pixels := [255, 0, 0, 9, 0, 255, 0, 8, 0, 0, 255, 7]
      width_pos := by decide, height_pos := by decide, rowsPerStrip_pos := by decide
      length_pixels := rfl } ]

end StoredFile

end TiffStrip
