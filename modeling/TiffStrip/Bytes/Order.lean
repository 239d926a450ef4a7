namespace TiffStrip

/-- How many numbers fit so many bytes. -/
def wordLimit : (width : Nat) → Nat
  | 0 => 1
  | width + 1 => 256 * wordLimit width

/-- The number spelled by bytes, least significant byte first. -/
def littleEndian : List UInt8 → Nat
  | [] => 0
  | b :: rest => b.toNat + 256 * littleEndian rest

/-- The `width` low bytes of a number, least significant byte first. -/
def littleEndianBytes : (width : Nat) → Nat → List UInt8
  | 0, _ => []
  | width + 1, n => UInt8.ofNat (n % 256) :: littleEndianBytes width (n / 256)

theorem length_littleEndianBytes (width n : Nat) : (littleEndianBytes width n).length = width := by
  induction width generalizing n with
  | zero => rfl
  | succ width ih => simp [littleEndianBytes, ih]

theorem littleEndian_littleEndianBytes (width n : Nat) :
    littleEndian (littleEndianBytes width n) = n % wordLimit width := by
  induction width generalizing n with
  | zero => simp [littleEndianBytes, littleEndian, wordLimit, Nat.mod_one]
  | succ width ih =>
    have hbyte : (UInt8.ofNat (n % 256)).toNat = n % 256 := by
      simp
    rw [littleEndianBytes, littleEndian, ih, hbyte, wordLimit, Nat.mod_mul]

theorem littleEndian_lt (bytes : List UInt8) : littleEndian bytes < wordLimit bytes.length := by
  induction bytes with
  | nil => simp [littleEndian, wordLimit]
  | cons b rest ih =>
    have hb := b.toNat_lt
    simp only [littleEndian, List.length_cons, wordLimit]
    omega

inductive ByteOrder where
  /-- Least significant byte first, announced by `II`. -/
  | little
  /-- Most significant byte first, announced by `MM`. -/
  | big
  deriving DecidableEq, Repr

namespace ByteOrder

def decode : ByteOrder → List UInt8 → Nat
  | .little, bytes => littleEndian bytes
  | .big, bytes => littleEndian bytes.reverse

def encode : ByteOrder → (width : Nat) → Nat → List UInt8
  | .little, width, n => littleEndianBytes width n
  | .big, width, n => (littleEndianBytes width n).reverse

def read (order : ByteOrder) (width : Nat) (bytes : List UInt8) : Nat :=
  order.decode (bytes.take width)

def name : ByteOrder → String
  | .little => "LittleEndian"
  | .big => "BigEndian"

@[simp] theorem length_encode (order : ByteOrder) (width n : Nat) :
    (order.encode width n).length = width := by
  cases order <;> simp [encode, length_littleEndianBytes]

theorem decode_encode (order : ByteOrder) (width n : Nat) :
    order.decode (order.encode width n) = n % wordLimit width := by
  cases order <;> simp [encode, decode, littleEndian_littleEndianBytes]

theorem decode_lt (order : ByteOrder) (bytes : List UInt8) :
    order.decode bytes < wordLimit bytes.length := by
  cases order with
  | little => exact littleEndian_lt bytes
  | big => simpa [decode] using littleEndian_lt bytes.reverse

/-- A field at the front is read back whatever follows it. -/
theorem read_encode_append (order : ByteOrder) {width n : Nat} (h : n < wordLimit width)
    (rest : List UInt8) : order.read width (order.encode width n ++ rest) = n := by
  rw [read, List.take_append_of_le_length (by simp), List.take_of_length_le (by simp),
    decode_encode, Nat.mod_eq_of_lt h]

end ByteOrder

end TiffStrip
