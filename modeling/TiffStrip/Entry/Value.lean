import TiffStrip.Entry.Basic
import TiffStrip.Stream.Basic
import TiffStrip.Text.Utf8

/-!
# Reading values

The values of an entry, from the entry itself or from the stream behind it. Values out of line
are fetched with one read, however many there are.
-/

namespace TiffStrip

/-- The numbers of `width` bytes each, at most `count` of them. -/
def ByteOrder.decodeArray (order : ByteOrder) (width count : Nat) (bytes : List UInt8) :
    List Nat :=
  (chunks width count bytes).map order.decode

def ByteOrder.encodeArray (order : ByteOrder) (width : Nat) (values : List Nat) : List UInt8 :=
  values.flatMap (order.encode width)

/-- The numbers in bytes of a type, none if values of that type are not numbers. -/
def FieldType.decodeNumbers (type : FieldType) (order : ByteOrder) (count : Nat)
    (bytes : List UInt8) : List Nat :=
  if type.isInteger then order.decodeArray type.size count bytes else []

namespace Entry

def readBytes (encoding : Encoding) (entry : Entry) :
    EStateM FormatError Stream (List UInt8) := do
  let some size := entry.byteSize? | throw (.unknownFieldType entry.typeCode)
  if entry.isInline encoding.format then
    return entry.field.take size
  else
    (Stream.readExactAt (entry.offset encoding.order) size).adaptExcept .stream

def readNumbers (encoding : Encoding) (entry : Entry) :
    EStateM FormatError Stream (List Nat) := do
  let some type := entry.type? | throw (.unknownFieldType entry.typeCode)
  if !type.isInteger then throw (.invalidValue .entry (.notNumbers type))
  if entry.count = 0 then return []
  match entry.inlineNumber? encoding with
  | some n => return [n]
  | none => return type.decodeNumbers encoding.order entry.count (← entry.readBytes encoding)

/-- The text of an entry of text, up to the first zero byte. -/
def readText (encoding : Encoding) (entry : Entry) : EStateM FormatError Stream String := do
  let some type := entry.type? | throw (.unknownFieldType entry.typeCode)
  if type ≠ .ascii then throw (.invalidValue .entry (.notText type))
  let bytes ← entry.readBytes encoding
  return Text.decodeUtf8 (bytes.takeWhile (· ≠ 0))

def readValue (encoding : Encoding) (entry : Entry) :
    EStateM FormatError Stream FieldValue := do
  let some type := entry.type? | throw (.unknownFieldType entry.typeCode)
  match type with
  | .ascii => return .ascii (← entry.readText encoding)
  | .undefined => return .undefined (← entry.readBytes encoding)
  | _ => return .unsigned (← entry.readNumbers encoding)

end Entry

end TiffStrip
