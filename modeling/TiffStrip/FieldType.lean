import TiffStrip.Bytes.Address

namespace TiffStrip

/-- Classic files have 32-bit offsets and counts, big files 64-bit ones. -/
inductive Format where
  | classic
  | big
  deriving DecidableEq, Repr

namespace Format

/-- Bytes of an offset, and of the value field of an entry. -/
def offsetSize : Format → Nat
  | .classic => 4
  | .big => 8

def countSize : Format → Nat
  | .classic => 2
  | .big => 8

/-- Bytes of a directory entry: tag, type, count and value field. -/
def entrySize : Format → Nat
  | .classic => 12
  | .big => 20

theorem entrySize_eq (format : Format) : format.entrySize = 4 + 2 * format.offsetSize := by
  cases format <;> rfl

end Format

inductive FieldType where
  /-- Unsigned numbers of one byte. -/
  | byte
  /-- Text, ended by a zero byte. -/
  | ascii
  /-- Unsigned numbers of two bytes. -/
  | short
  /-- Unsigned numbers of four bytes. -/
  | long
  /-- Bytes of no stated meaning. -/
  | undefined
  /-- Unsigned numbers of eight bytes. -/
  | long8
  deriving DecidableEq, Repr

namespace FieldType

/-- Bytes of one value. -/
def size : FieldType → Nat
  | .byte | .ascii | .undefined => 1
  | .short => 2
  | .long => 4
  | .long8 => 8

def code : FieldType → Nat
  | .byte => 1
  | .ascii => 2
  | .short => 3
  | .long => 4
  | .undefined => 7
  | .long8 => 16

/-- The type that a number stands for, if its values can be read. -/
def ofCode? : Nat → Option FieldType
  | 1 => some .byte
  | 2 => some .ascii
  | 3 => some .short
  | 4 => some .long
  | 7 => some .undefined
  | 16 => some .long8
  | _ => none

def name : FieldType → String
  | .byte => "Byte"
  | .ascii => "Ascii"
  | .short => "Short"
  | .long => "Long"
  | .undefined => "Undefined"
  | .long8 => "Long8"

/-- Whether values of the type are numbers. -/
def isInteger : FieldType → Bool
  | .byte | .short | .long | .long8 => true
  | .ascii | .undefined => false

/-- Bytes of `count` values, if that can be addressed. -/
def totalSize? (type : FieldType) (count : Nat) : Option Nat :=
  Address.mul? type.size count

def fitsInline (type : FieldType) (count : Nat) (format : Format) : Bool :=
  match type.totalSize? count with
  | some total => total ≤ format.offsetSize
  | none => false

theorem ofCode?_code (type : FieldType) : ofCode? type.code = some type := by
  cases type <;> rfl

theorem ofCode?_eq_some {code : Nat} {type : FieldType} :
    ofCode? code = some type ↔ code = type.code := by
  constructor
  · intro h
    unfold ofCode? at h
    split at h <;> cases h <;> rfl
  · rintro rfl
    exact ofCode?_code type

theorem size_pos (type : FieldType) : 0 < type.size := by
  cases type <;> decide

theorem fitsInline_iff (type : FieldType) (count : Nat) (format : Format) :
    type.fitsInline count format = true ↔ type.size * count ≤ format.offsetSize := by
  have hlimit : format.offsetSize < Address.limit := by cases format <;> decide
  unfold fitsInline totalSize? Address.mul?
  by_cases h : type.size * count < Address.limit
  · simp [h]
  · simp only [h, if_false, Bool.false_eq_true, false_iff]
    omega

end FieldType

end TiffStrip
