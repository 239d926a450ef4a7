import TiffStrip.Text.Quoted

namespace TiffStrip

inductive FieldValue where
  /-- Numbers of any width. -/
  | unsigned (values : List Nat)
  /-- Text without the zero byte that ends it. -/
  | ascii (text : String)
  /-- Bytes of no stated meaning. -/
  | undefined (bytes : List UInt8)
  deriving DecidableEq, Repr

namespace FieldValue

def numbers? : FieldValue → Option (List Nat)
  | unsigned values => some values
  | _ => none

/-- The first number, if it is below the bound. -/
def firstBelow? (bound : Nat) (value : FieldValue) : Option Nat := do
  let first ← (← value.numbers?).head?
  if first < bound then some first else none

def first32? (value : FieldValue) : Option Nat :=
  value.firstBelow? 0x100000000

def first16? (value : FieldValue) : Option Nat :=
  value.firstBelow? 0x10000

/-- All numbers, if every one of them fits 16 bits. -/
def words? (value : FieldValue) : Option (List UInt16) := do
  let values ← value.numbers?
  if values.all (· < 0x10000) then some (values.map UInt16.ofNat) else none

def text? : FieldValue → Option String
  | ascii text => some text
  | _ => none

/-- The value as messages print it. -/
def describe : FieldValue → String
  | unsigned values => "Unsigned([" ++ ", ".intercalate (values.map toString) ++ "])"
  | ascii text => "Ascii(" ++ Text.quote text ++ ")"
  | undefined bytes => "Undefined(" ++ Text.quoteBytes bytes ++ ")"

end FieldValue

end TiffStrip
