import TiffStrip.Bytes.Order
import TiffStrip.Error

/-!
# File header

The first bytes of a file: its byte order, its format and where its first directory is.

A classic header is `II` or `MM`, then, in the byte order these announce, the number 42 and an
offset of four bytes. A big header has 43 in place of 42, then the offset size 8, two reserved
bytes and an offset of eight bytes.
-/

namespace TiffStrip

structure Encoding where
  order : ByteOrder
  format : Format
  deriving DecidableEq, Repr

structure Header where
  encoding : Encoding
  /-- Where the first directory is. -/
  firstDirectory : Nat
  deriving DecidableEq, Repr

namespace Encoding

/-- The number in the first bytes, as wide as an offset. -/
def readOffset (encoding : Encoding) (bytes : List UInt8) : Nat :=
  encoding.order.read encoding.format.offsetSize bytes

/-- The number in the first bytes, as wide as an entry count. -/
def readCount (encoding : Encoding) (bytes : List UInt8) : Nat :=
  encoding.order.read encoding.format.countSize bytes

end Encoding

/-- The number that announces a byte order; its two bytes are the same, so it needs no order. -/
def ByteOrder.magic : ByteOrder → Nat
  | .little => 0x4949
  | .big => 0x4D4D

def ByteOrder.ofMagic? : Nat → Option ByteOrder
  | 0x4949 => some .little
  | 0x4D4D => some .big
  | _ => none

namespace Format

/-- The version number of the format. -/
def version : Format → Nat
  | .classic => 42
  | .big => 43

/-- The format with a version number. -/
def ofVersion? : Nat → Option Format
  | 42 => some .classic
  | 43 => some .big
  | _ => none

def headerSize : Format → Nat
  | .classic => 8
  | .big => 16

end Format

namespace Header

/-- Where the first directory is, once byte order and format are known. -/
def parseOffset (encoding : Encoding) (bytes : List UInt8) : Except FormatError Nat :=
  match encoding.format with
  | .classic => .ok (encoding.order.read 4 (bytes.drop 4))
  | .big =>
    let offsetSize := encoding.order.read 2 (bytes.drop 4)
    if bytes.length < Format.big.headerSize then
      .error (.fileTooSmall Format.big.headerSize bytes.length)
    else if offsetSize ≠ 8 then .error (.invalidOffsetSize offsetSize)
    else .ok (encoding.order.read 8 (bytes.drop 8))

/-- Reads the header at the front of a file of the given size. -/
def parse (bytes : List UInt8) (fileSize : Nat) : Except FormatError Header := do
  if bytes.length < Format.classic.headerSize then
    throw (.fileTooSmall Format.classic.headerSize bytes.length)
  let magic := ByteOrder.little.read 2 bytes
  let some order := ByteOrder.ofMagic? magic | throw (.invalidMagic magic)
  let version := order.read 2 (bytes.drop 2)
  let some format := Format.ofVersion? version | throw (.invalidVersion version)
  let encoding := { order, format }
  let firstDirectory ← parseOffset encoding bytes
  if fileSize ≤ firstDirectory then throw (.invalidDirectoryOffset firstDirectory)
  return { encoding, firstDirectory }

def serialize (header : Header) : List UInt8 :=
  let order := header.encoding.order
  order.encode 2 order.magic ++ order.encode 2 header.encoding.format.version ++
    match header.encoding.format with
    | .classic => order.encode 4 header.firstDirectory
    | .big => order.encode 2 8 ++ order.encode 2 0 ++ order.encode 8 header.firstDirectory

end Header

end TiffStrip
