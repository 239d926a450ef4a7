import TiffStrip.Entry.Value
import TiffStrip.Proofs.Simulation

namespace TiffStrip.Entry

variable {entry : Entry} {encoding : Encoding} {format : Format} {type : FieldType} {size : Nat}

theorem type?_isSome_iff :
    entry.type?.isSome = true ↔ entry.typeCode ∈ [1, 2, 3, 4, 7, 16] := by
  have hknown : ∀ code ∈ [1, 2, 3, 4, 7, 16], (FieldType.ofCode? code).isSome = true := by
    decide
  constructor
  · intro htype
    obtain ⟨type, htype⟩ := Option.isSome_iff_exists.mp htype
    rw [type?, FieldType.ofCode?_eq_some] at htype
    rw [htype]
    cases type <;> decide
  · exact hknown entry.typeCode

theorem byteSize?_iff_of_type? (htype : entry.type? = some type) :
    entry.byteSize? = some size ↔ type.size * entry.count = size ∧ size < Address.limit := by
  rw [byteSize?, htype]
  exact Address.mul?_eq_some

theorem byteSize?_eq_some :
    entry.byteSize? = some size ↔
      ∃ type, entry.type? = some type ∧ type.size * entry.count = size ∧ size < Address.limit := by
  simp only [byteSize?, FieldType.totalSize?, Option.bind_eq_bind, Option.bind_eq_some_iff,
    Address.mul?_eq_some]

theorem isInline_iff :
    entry.isInline format = true ↔
      ∃ type, entry.type? = some type ∧ type.size * entry.count ≤ format.offsetSize := by
  rw [isInline]
  cases entry.type? with
  | none => simp
  | some type => simp [FieldType.fitsInline_iff]

theorem offsetSize_lt (format : Format) : format.offsetSize < Address.limit := by
  cases format <;> decide

theorem isInline_iff_byteSize? :
    entry.isInline format = true ↔
      ∃ size, entry.byteSize? = some size ∧ size ≤ format.offsetSize := by
  have haddress := offsetSize_lt format
  rw [isInline_iff]
  constructor
  · rintro ⟨type, htype, hfits⟩
    exact ⟨_, byteSize?_eq_some.mpr ⟨type, htype, rfl, by omega⟩, hfits⟩
  · rintro ⟨size, hsize, hfits⟩
    obtain ⟨type, htype, rfl, _⟩ := byteSize?_eq_some.mp hsize
    exact ⟨type, htype, hfits⟩

theorem isInline_iff_of_byteSize? (hsize : entry.byteSize? = some size) :
    entry.isInline format = true ↔ size ≤ format.offsetSize := by
  rw [isInline_iff_byteSize?, hsize]
  simp only [Option.some.injEq, exists_eq_left']

/-- The bytes of the values are read from the field if they have room there, and else at the offset
that the field is. -/
theorem readBytes_eq (hsize : entry.byteSize? = some size) :
    entry.readBytes encoding =
      if size ≤ encoding.format.offsetSize then pure (entry.field.take size)
      else (Stream.readExactAt (entry.offset encoding.order) size).adaptExcept .stream := by
  unfold readBytes
  simp only [hsize, isInline_iff_of_byteSize? hsize]

theorem readBytes_of_none (hsize : entry.byteSize? = none) :
    entry.readBytes encoding = throw (.unknownFieldType entry.typeCode) := by
  unfold readBytes
  rw [hsize]

theorem inlineNumber?_eq_some {value : Nat} :
    entry.inlineNumber? encoding = some value ↔
      ∃ type, entry.type? = some type ∧ type.isInteger = true ∧ entry.count = 1 ∧
        type.size ≤ encoding.format.offsetSize ∧
        encoding.order.read type.size entry.field = value := by
  unfold inlineNumber?
  constructor
  · intro h
    split at h
    case isFalse => cases h
    rename_i hinline
    obtain ⟨hinline, hone⟩ := hinline
    obtain ⟨type, htype, hfits⟩ := isInline_iff.mp hinline
    rw [hone, Nat.mul_one] at hfits
    simp only [htype] at h
    by_cases hinteger : type.isInteger = true
    · rw [if_pos hinteger] at h
      exact ⟨type, htype, hinteger, hone, hfits, Option.some.inj h⟩
    · rw [if_neg hinteger] at h
      cases h
  · rintro ⟨type, htype, hinteger, hone, hfits, rfl⟩
    have hinline : entry.isInline encoding.format = true :=
      isInline_iff.mpr ⟨type, htype, by rwa [hone, Nat.mul_one]⟩
    rw [if_pos ⟨hinline, hone⟩, htype]
    exact if_pos hinteger

section

variable {s : Stream}

theorem answer_readText_eq (htype : entry.type? = some .ascii) :
    answer (entry.readText encoding) s =
      (answer (entry.readBytes encoding) s).map fun bytes =>
        Text.decodeUtf8 (bytes.takeWhile (· ≠ 0)) := by
  unfold readText
  rw [htype]
  exact answer_map _ _ _

/-- The value of an entry is what its type makes of text, of bytes or of numbers. -/
theorem answer_readValue_eq :
    answer (entry.readValue encoding) s =
      match entry.type? with
      | none => .error (.unknownFieldType entry.typeCode)
      | some .ascii => (answer (entry.readText encoding) s).map .ascii
      | some .undefined => (answer (entry.readBytes encoding) s).map .undefined
      | some _ => (answer (entry.readNumbers encoding) s).map .unsigned := by
  unfold readValue
  cases entry.type? with
  | none => rfl
  | some type => cases type <;> exact answer_map _ _ _

end

end TiffStrip.Entry
