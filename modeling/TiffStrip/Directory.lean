import TiffStrip.Bytes.Chunk
import TiffStrip.Entry.Basic

namespace TiffStrip

structure Directory where
  entries : List Entry
  /-- The offset of the next directory, zero for none. -/
  next : Nat
  deriving DecidableEq, Repr

namespace Directory

/-- Bytes of a directory with so many entries, if they can be addressed. -/
def size? (format : Format) (count : Nat) : Option Nat := do
  Address.add? (← Address.mul? count format.entrySize) (format.countSize + format.offsetSize)

def parse (encoding : Encoding) (bytes : List UInt8) : Except FormatError Directory := do
  let format := encoding.format
  if bytes.length < format.countSize then
    throw (.fileTooSmall format.countSize bytes.length)
  let count := encoding.readCount bytes
  let some required := size? format count
    | throw (.invalidValue .directory (.entryCountOverflow count))
  if bytes.length < required then throw (.fileTooSmall required bytes.length)
  let body := bytes.drop format.countSize
  return {
    entries := (chunks format.entrySize count body).map (Entry.parse encoding)
    next := encoding.readOffset (body.drop (count * format.entrySize)) }

/-- The bytes of a directory. -/
def serialize (encoding : Encoding) (directory : Directory) : List UInt8 :=
  encoding.order.encode encoding.format.countSize directory.entries.length
    ++ directory.entries.flatMap (Entry.serialize encoding)
    ++ encoding.order.encode encoding.format.offsetSize directory.next

/-- The first entry of a tag. -/
def find? (directory : Directory) (tag : Tag) : Option Entry :=
  directory.entries.find? (·.tag = tag.code)

def isTiled (directory : Directory) : Bool :=
  (directory.find? .tileWidth).isSome && (directory.find? .tileOffsets).isSome

def isStripped (directory : Directory) : Bool :=
  (directory.find? .stripOffsets).isSome

end Directory

end TiffStrip
