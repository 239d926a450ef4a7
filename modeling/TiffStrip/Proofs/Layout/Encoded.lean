import TiffStrip.Proofs.Entry.Basic
import TiffStrip.Proofs.Stream.Range

namespace TiffStrip

theorem ByteOrder.decodeArray_encodeArray (order : ByteOrder) {width : Nat} {values : List Nat}
    (h : ∀ value ∈ values, value < wordLimit width) (rest : List UInt8) :
    order.decodeArray width values.length (order.encodeArray width values ++ rest) = values := by
  rw [decodeArray, encodeArray, chunks_flatMap fun value _ => order.length_encode width value,
    List.map_map]
  refine (List.map_congr_left fun value hvalue => ?_).trans (List.map_id _)
  exact (order.decode_encode width value).trans (Nat.mod_eq_of_lt (h value hvalue))

theorem ByteOrder.length_encodeArray (order : ByteOrder) (width : Nat) (values : List Nat) :
    (order.encodeArray width values).length = width * values.length := by
  rw [encodeArray, length_flatMap_of_length fun value _ => order.length_encode width value,
    Nat.mul_comm]

namespace Entry

/-- The values of an entry are of a type and take these bytes. The bytes are in front in the field if
they are not longer than that, and otherwise the field is the offset where they are. -/
structure Carries (entry : Entry) (encoding : Encoding) (s : Stream) (type : FieldType)
    (bytes : List UInt8) : Prop where
  typeCode : entry.typeCode = type.code
  length : bytes.length = type.size * entry.count
  place :
    if bytes.length ≤ encoding.format.offsetSize then bytes <+: entry.field
    else ∃ offset < wordLimit encoding.format.offsetSize,
      entry.field = encoding.order.encode encoding.format.offsetSize offset ∧ s.Holds offset bytes

namespace Carries

variable {entry : Entry} {encoding : Encoding} {s : Stream} {type : FieldType} {bytes : List UInt8}

/-- Values in the entry, whatever fills up its field. -/
theorem of_inline (htype : entry.typeCode = type.code) (hlength : bytes.length = type.size * entry.count)
    (hfits : bytes.length ≤ encoding.format.offsetSize) (hfield : bytes <+: entry.field) :
    entry.Carries encoding s type bytes where
  typeCode := htype
  length := hlength
  place := by
    rw [if_pos hfits]
    exact hfield

/-- Values behind the entry, which has their offset. -/
theorem of_offset {offset : Nat} (htype : entry.typeCode = type.code)
    (hlength : bytes.length = type.size * entry.count)
    (hlong : encoding.format.offsetSize < bytes.length)
    (hoffset : offset < wordLimit encoding.format.offsetSize)
    (hfield : entry.field = encoding.order.encode encoding.format.offsetSize offset)
    (hholds : s.Holds offset bytes) : entry.Carries encoding s type bytes where
  typeCode := htype
  length := hlength
  place := by
    rw [if_neg (Nat.not_le.mpr hlong)]
    exact ⟨offset, hoffset, hfield, hholds⟩

theorem type?_eq (h : entry.Carries encoding s type bytes) : entry.type? = some type := by
  rw [type?, h.typeCode, FieldType.ofCode?_code]

theorem byteSize?_eq (h : entry.Carries encoding s type bytes) (hsize : bytes.length < Address.limit) :
    entry.byteSize? = some bytes.length :=
  (byteSize?_iff_of_type? h.type?_eq).mpr ⟨h.length.symm, hsize⟩

theorem offset_eq {offset : Nat} (hoffset : offset < wordLimit encoding.format.offsetSize)
    (hfield : entry.field = encoding.order.encode encoding.format.offsetSize offset) :
    entry.offset encoding.order = offset := by
  have hback := ByteOrder.read_encode_append encoding.order hoffset []
  rw [List.append_nil] at hback
  simp only [Entry.offset, hfield, ByteOrder.length_encode]
  cases hformat : encoding.format with
  | classic => simpa [hformat, Format.offsetSize] using hback
  | big => simpa [hformat, Format.offsetSize] using hback

theorem answer_readBytes (h : entry.Carries encoding s type bytes) (hsize : s.size < Address.limit) :
    answer (entry.readBytes encoding) s = .ok bytes := by
  have hplace := h.place
  by_cases hinline : bytes.length ≤ encoding.format.offsetSize
  · rw [if_pos hinline] at hplace
    have haddress := Nat.lt_of_le_of_lt hinline (offsetSize_lt _)
    rw [readBytes_eq (h.byteSize?_eq haddress), if_pos hinline, answer_pure,
      ← List.prefix_iff_eq_take.mp hplace]
  · rw [if_neg hinline] at hplace
    obtain ⟨offset, hoffset, hfield, hholds⟩ := hplace
    have hinside := hholds.le_size
    have hread := hholds.answer_readExactAt hsize (Nat.le_refl _)
    rw [List.take_length] at hread
    rw [readBytes_eq (h.byteSize?_eq (by omega)), if_neg hinline, answer_adaptExcept,
      offset_eq hoffset hfield, hread]
    rfl

section

variable {values : List Nat}
  (h : entry.Carries encoding s type (encoding.order.encodeArray type.size values))
  (hinteger : type.isInteger = true) (hfits : ∀ value ∈ values, value < wordLimit type.size)

include h

theorem count_eq : entry.count = values.length := by
  have hlength := h.length
  rw [ByteOrder.length_encodeArray] at hlength
  exact (Nat.eq_of_mul_eq_mul_left type.size_pos hlength).symm

include hfits

theorem inlineNumber?_eq {value : Nat} (hinline : entry.inlineNumber? encoding = some value) :
    values = [value] := by
  obtain ⟨found, htype, _, hone, hsize, rfl⟩ := inlineNumber?_eq_some.mp hinline
  obtain rfl : type = found := Option.some.inj (h.type?_eq.symm.trans htype)
  obtain ⟨only, rfl⟩ := List.length_eq_one_iff.mp (h.count_eq ▸ hone)
  have hplace := h.place
  rw [if_pos (by rwa [h.length, hone, Nat.mul_one])] at hplace
  obtain ⟨padding, hfield⟩ := hplace
  have hback := ByteOrder.read_encode_append encoding.order (hfits only List.mem_cons_self) padding
  rw [ByteOrder.encodeArray, List.flatMap_cons, List.flatMap_nil, List.append_nil] at hfield
  rw [← hfield, hback]

include hinteger

/-- Numbers are read back, a single one from the entry as well as many from where they are stored. -/
theorem answer_readNumbers (hsize : s.size < Address.limit) :
    answer (entry.readNumbers encoding) s = .ok values := by
  have hbytes := h.answer_readBytes hsize
  have hback := encoding.order.decodeArray_encodeArray hfits []
  rw [List.append_nil] at hback
  unfold readNumbers
  rw [h.type?_eq]
  simp only [hinteger, Bool.not_true, Bool.false_eq_true, if_false]
  by_cases hempty : entry.count = 0
  · rw [if_pos hempty, List.eq_nil_of_length_eq_zero (h.count_eq.symm.trans hempty)]
    rfl
  · rw [if_neg hempty]
    cases hinline : entry.inlineNumber? encoding with
    | some value =>
      rw [h.inlineNumber?_eq hfits hinline]
      rfl
    | none =>
      dsimp only
      rw [answer_bind, hbytes]
      change Except.ok (type.decodeNumbers encoding.order entry.count _) = _
      rw [FieldType.decodeNumbers, if_pos hinteger, h.count_eq, hback]

theorem answer_readValue_numbers (hsize : s.size < Address.limit) :
    answer (entry.readValue encoding) s = .ok (.unsigned values) := by
  rw [answer_readValue_eq, h.type?_eq, h.answer_readNumbers hinteger hfits hsize]
  cases type with
  | ascii | undefined => cases hinteger
  | byte | short | long | long8 => rfl

end

theorem answer_readValue_text (h : entry.Carries encoding s .ascii bytes)
    (hsize : s.size < Address.limit) :
    answer (entry.readValue encoding) s =
      .ok (.ascii (Text.decodeUtf8 (bytes.takeWhile (· ≠ 0)))) := by
  rw [answer_readValue_eq, h.type?_eq, answer_readText_eq h.type?_eq, h.answer_readBytes hsize]
  rfl

end Carries

end Entry

end TiffStrip
