import TiffStrip.Directory
import TiffStrip.Entry.Value
import TiffStrip.Source
import TiffStrip.StripTable

/-!
# Open files

A file is opened by reading its header and following the chain of its directories. It then serves
the scanlines of uncompressed images in strips. The strip table of the selected image is built when
the first scanline is asked for, and kept.
-/

namespace TiffStrip

/-- A failed stream operation is a failed file operation. -/
instance : MonadLift (EStateM StreamError Stream) (EStateM FormatError Stream) :=
  ⟨fun act => act.adaptExcept .stream⟩

structure File where
  stream : Stream
  header : Header
  directories : List Directory
  /-- The index of the selected directory. -/
  current : Nat
  current_lt : current < directories.length
  /-- The strip table of the selected image, once it has been built. -/
  strips? : Option StripTable

namespace File

/-- The longest chain of directories that is followed. -/
def maxDirectories : Nat := 100

def readDirectory (encoding : Encoding) (offset : Nat) :
    EStateM FormatError Stream Directory := do
  let countBytes ← Stream.readExactAt offset encoding.format.countSize
  let some size := Directory.size? encoding.format (encoding.readCount countBytes)
    | throw (.invalidDirectoryOffset offset)
  let bytes ← Stream.readExactAt offset size
  MonadExcept.ofExcept (Directory.parse encoding bytes)

/-- Follows the chain from an offset, up to a zero offset, an offset already visited, or so many
directories. -/
def readDirectories (encoding : Encoding) :
    (remaining : Nat) → (visited : List Nat) → (offset : Nat) →
    EStateM FormatError Stream (List Directory)
  | 0, _, _ => return []
  | remaining + 1, visited, offset => do
    if offset = 0 ∨ offset ∈ visited then return []
    let directory ← readDirectory encoding offset
    let rest ← readDirectories encoding remaining (offset :: visited) directory.next
    return directory :: rest

def readStructure : EStateM FormatError Stream (Header × List Directory) := do
  let size := (← get).size
  let bytes ← Stream.readExactAt 0 (min size Format.big.headerSize)
  let header ← MonadExcept.ofExcept (Header.parse bytes size)
  let directories ←
    readDirectories header.encoding maxDirectories [] header.firstDirectory
  return (header, directories)

/-- Opens a stream as a file; its first image is selected. -/
def ofStream (stream : Stream) : Except FormatError File :=
  match readStructure stream with
  | .error error _ => .error error
  | .ok (_, []) _ => .error .noDirectories
  | .ok (header, first :: rest) stream =>
    .ok { stream, header, directories := first :: rest, current := 0, current_lt := by simp
          strips? := none }

/-- Opens bytes in memory as a file of the given name. -/
def ofBytes (name : String) (contents : Array UInt8) : Except FormatError File :=
  ofStream { Stream.ofBytes contents with name }

/-- The directory of the selected image. -/
def directory (file : File) : Directory :=
  file.directories.get ⟨file.current, file.current_lt⟩

/-- Something done on the stream of a file. -/
def onStream {α : Type} (act : EStateM FormatError Stream α) : EStateM FormatError File α :=
  fun file =>
    match act file.stream with
    | .ok a stream => .ok a { file with stream }
    | .error error stream => .error error { file with stream }

/-- The value of a tag of the selected image. -/
def field (tag : Tag) : EStateM FormatError File (Option FieldValue) := do
  let file ← get
  match file.directory.find? tag with
  | none => return none
  | some entry => return some (← onStream (entry.readValue file.header.encoding))

instance : FieldSource File := ⟨field⟩

def select (index : Nat) : EStateM FormatError File Unit := fun file =>
  if h : index < file.directories.length then
    if index = file.current then .ok () file
    else .ok () { file with current := index, current_lt := h, strips? := none }
  else .error (.directoryOutOfRange index file.directories.length) file

open FieldSource

/-- Bytes of one scanline of the selected image. -/
def scanlineSize : EStateM FormatError File Nat := do
  let width ← required32 .imageWidth
  let bits ← defaulted16 .bitsPerSample
  let samples ← defaulted16 .samplesPerPixel
  return scanlineBytes width bits samples (← planar)

/-- Rows to a strip, from one to all of the rows. -/
def rowsPerStrip (height : Nat) (value : FieldValue) : Nat :=
  let stated := (value.numbers?.bind List.head?).getD 0xFFFFFFFF
  max 1 (min stated height)

/-- Builds the strip table of the selected image. -/
def loadStrips : EStateM FormatError File StripTable := do
  let compression ← defaulted16 .compression
  if !(Compression.ofCode? compression).any Compression.isReadable then
    throw (.unsupportedCompression compression)
  if (← get).directory.isTiled then throw .tiled
  let height ← required32 .imageLength
  let samples ← defaulted16 .samplesPerPixel
  let planar ← FieldSource.planar
  let scanlineSize ← scanlineSize
  let rowsPerStrip := rowsPerStrip height (← fieldOrDefault .rowsPerStrip)
  let offsets ←
    match ← fieldAs? .stripOffsets FieldValue.numbers? with
    | some offsets => pure offsets.toArray
    | none => throw (.missingTag .stripOffsets)
  let table : StripTable :=
    { height, samples, planar, rowsPerStrip, scanlineSize, offsets, byteCounts? := none }
  let expected := table.stripsPerPlane * table.planes
  if offsets.size < expected then
    throw (.invalidValue (.tag .stripOffsets) (.tooFewStrips expected offsets.size))
  let byteCounts? := (← field .stripByteCounts).bind FieldValue.numbers?
  return { table with byteCounts? := byteCounts?.map List.toArray }

def strips : EStateM FormatError File StripTable := do
  match (← get).strips? with
  | some table => return table
  | none =>
    let table ← loadStrips
    modify fun file => { file with strips? := some table }
    return table

/-- The bytes of a range, straight from the buffer where the stream shows it. -/
def readRange (offset length : Nat) : EStateM FormatError File (List UInt8) := do
  let stream := (← get).stream
  match stream.map? with
  | some contents =>
    if offset + length ≤ contents.size then
      return (contents.extract offset (offset + length)).toList
    else throw (.stream (.rangeOutOfBounds offset length contents.size))
  | none => onStream (Stream.readExactAt offset length)

/-- The buffer with a scanline of the selected image laid over its front. -/
def readScanline (row sample : Nat) (buffer : List UInt8) :
    EStateM FormatError File (List UInt8) := do
  let table ← strips
  let offset ← MonadExcept.ofExcept (table.locate row sample)
  if buffer.length < table.scanlineSize then
    throw (.scanlineBufferTooSmall table.scanlineSize buffer.length)
  return overwrite (← readRange offset table.scanlineSize) buffer

instance : ScanlineSource File where
  name file := file.stream.name
  imageCount file := file.directories.length
  current file := file.current
  dataSize? file := some file.stream.size
  select := select
  scanlineSize := scanlineSize
  readScanline := readScanline

end File

end TiffStrip
