import TiffStrip.Header

namespace TiffStrip

structure Entry where
  /-- The number of the tag, known or not. -/
  tag : Nat
  /-- The number of the type, known or not. -/
  typeCode : Nat
  /-- How many values there are. -/
  count : Nat
  /-- The values, or the offset of the values. -/
  field : List UInt8
  deriving DecidableEq, Repr

namespace Entry

/-- The type of the values, if they can be read. -/
def type? (entry : Entry) : Option FieldType :=
  FieldType.ofCode? entry.typeCode

/-- Bytes of all the values, if their type is known and so many bytes can be addressed. -/
def byteSize? (entry : Entry) : Option Nat := do
  (← entry.type?).totalSize? entry.count

/-- Whether the values are in the entry itself. -/
def isInline (entry : Entry) (format : Format) : Bool :=
  match entry.type? with
  | some type => type.fitsInline entry.count format
  | none => false

/-- The field as an offset. -/
def offset (entry : Entry) (order : ByteOrder) : Nat :=
  if entry.field.length = 8 then order.read 8 entry.field else order.read 4 entry.field

/-- The number in the field, if the entry holds just one. -/
def inlineNumber? (entry : Entry) (encoding : Encoding) : Option Nat :=
  if entry.isInline encoding.format ∧ entry.count = 1 then
    match entry.type? with
    | some type => if type.isInteger then some (encoding.order.read type.size entry.field) else none
    | none => none
  else none

def parse (encoding : Encoding) (bytes : List UInt8) : Entry :=
  let order := encoding.order
  let size := encoding.format.offsetSize
  { tag := order.read 2 bytes
    typeCode := order.read 2 (bytes.drop 2)
    count := encoding.readOffset (bytes.drop 4)
    field := (bytes.drop (4 + size)).take size }

def serialize (encoding : Encoding) (entry : Entry) : List UInt8 :=
  let order := encoding.order
  order.encode 2 entry.tag ++ order.encode 2 entry.typeCode
    ++ order.encode encoding.format.offsetSize entry.count ++ entry.field

end Entry

end TiffStrip
