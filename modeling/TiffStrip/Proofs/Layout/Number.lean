import TiffStrip.Bytes.Order

namespace TiffStrip

theorem wordLimit_mono {small large : Nat} (h : small ≤ large) :
    wordLimit small ≤ wordLimit large := by
  induction h with
  | refl => exact Nat.le_refl _
  | @step large _ ih =>
    rw [wordLimit]
    omega

theorem littleEndianBytes_littleEndian (bytes : List UInt8) :
    littleEndianBytes bytes.length (littleEndian bytes) = bytes := by
  induction bytes with
  | nil => rfl
  | cons b rest ih =>
    have hb : b.toNat < 256 := b.toNat_lt
    have hlow : (b.toNat + 256 * littleEndian rest) % 256 = b.toNat := by omega
    have hhigh : (b.toNat + 256 * littleEndian rest) / 256 = littleEndian rest := by omega
    rw [List.length_cons, littleEndian, littleEndianBytes, hlow, hhigh, ih, UInt8.ofNat_toNat]

namespace ByteOrder

theorem drop_encode_append (order : ByteOrder) (width n k : Nat) (rest : List UInt8) :
    (order.encode width n ++ rest).drop (width + k) = rest.drop k := by
  rw [← List.drop_drop, List.drop_left' (order.length_encode width n)]

theorem encode_decode (order : ByteOrder) (bytes : List UInt8) :
    order.encode bytes.length (order.decode bytes) = bytes := by
  cases order with
  | little => exact littleEndianBytes_littleEndian bytes
  | big =>
    have hback := littleEndianBytes_littleEndian bytes.reverse
    rw [List.length_reverse] at hback
    rw [encode, decode, hback, List.reverse_reverse]

theorem read_lt (order : ByteOrder) (width : Nat) (bytes : List UInt8) :
    order.read width bytes < wordLimit width := by
  have hlength : (bytes.take width).length ≤ width := List.length_take_le _ _
  exact Nat.lt_of_lt_of_le (order.decode_lt _) (wordLimit_mono hlength)

theorem encode_read (order : ByteOrder) {width : Nat} {bytes : List UInt8}
    (h : width ≤ bytes.length) : order.encode width (order.read width bytes) = bytes.take width := by
  have hback := order.encode_decode (bytes.take width)
  rwa [List.length_take, Nat.min_eq_left h] at hback

/-- A number that was read from somewhere in the bytes, and what is behind it there. -/
theorem encode_append_drop (order : ByteOrder) {start width n : Nat} {bytes : List UInt8}
    (hlength : start + width ≤ bytes.length) (h : order.read width (bytes.drop start) = n) :
    order.encode width n ++ bytes.drop (start + width) = bytes.drop start := by
  have hroom : width ≤ (bytes.drop start).length := by
    simp only [List.length_drop]
    omega
  rw [← h, order.encode_read hroom, ← List.drop_drop, List.take_append_drop]

end ByteOrder

end TiffStrip
