import TiffStrip.Proofs.Layout.Basic
import TiffStrip.Proofs.Layout.Directory
import TiffStrip.Proofs.Layout.Encoded

namespace TiffStrip

namespace StoredField

structure Sound (encoding : Encoding) (field : StoredField) : Prop where
  isInteger : field.type.isInteger = true
  fits : field.Fits
  count : field.values.length < wordLimit encoding.format.offsetSize

variable {encoding : Encoding} {field : StoredField} {offset : Nat}

theorem length_bytes (order : ByteOrder) (field : StoredField) :
    (field.bytes order).length = field.size :=
  order.length_encodeArray field.type.size field.values

theorem length_field (encoding : Encoding) (offset : Nat) (field : StoredField) :
    (field.entry encoding offset).field.length = encoding.format.offsetSize := by
  unfold entry
  by_cases h : field.size ≤ encoding.format.offsetSize
  · simp only [if_pos h, List.length_append, length_bytes, List.length_replicate]
    omega
  · simp only [if_neg h, ByteOrder.length_encode]

theorem entry_sound (h : field.Sound encoding) : (field.entry encoding offset).Sound encoding where
  tag := by
    change field.tag.code < wordLimit 2
    cases field.tag <;> decide
  typeCode := by
    change field.type.code < wordLimit 2
    cases field.type <;> decide
  count := h.count
  field := length_field encoding offset field

variable {s : Stream}

theorem carries (hoffset : offset < wordLimit encoding.format.offsetSize)
    (hholds : s.Holds offset (field.outside encoding)) :
    (field.entry encoding offset).Carries encoding s field.type (field.bytes encoding.order) := by
  have hlength := length_bytes encoding.order field
  by_cases h : field.size ≤ encoding.format.offsetSize
  · exact .of_inline rfl hlength (hlength ▸ h) ⟨_, (if_pos h).symm⟩
  · rw [outside, if_neg h] at hholds
    exact .of_offset rfl hlength (hlength ▸ Nat.lt_of_not_le h) hoffset (if_neg h) hholds

theorem answer_readValue (hfield : field.Sound encoding)
    (hoffset : offset < wordLimit encoding.format.offsetSize)
    (hholds : s.Holds offset (field.outside encoding)) (hsize : s.size < Address.limit) :
    answer ((field.entry encoding offset).readValue encoding) s =
      .ok (.unsigned field.values) :=
  (carries hoffset hholds).answer_readValue_numbers hfield.isInteger hfield.fits hsize

def find? (fields : List StoredField) (tag : Tag) : Option StoredField :=
  fields.find? (·.tag = tag)

theorem code_inj {tag other : Tag} (h : tag.code = other.code) : tag = other :=
  Option.some.inj ((Tag.ofCode?_code tag).symm.trans (h ▸ Tag.ofCode?_code other))

/-- There is an entry for each field, and it gives the values of the field back. -/
theorem find?_entries {fields : List StoredField} (hfields : ∀ field ∈ fields, field.Sound encoding)
    (hholds : s.Holds offset (fields.flatMap (·.outside encoding)))
    (hoffset : offset + (fields.flatMap (·.outside encoding)).length <
      wordLimit encoding.format.offsetSize)
    (hsize : s.size < Address.limit) (tag : Tag) :
    match find? fields tag with
    | none => (entries encoding offset fields).find? (·.tag = tag.code) = none
    | some field => ∃ entry, (entries encoding offset fields).find? (·.tag = tag.code) = some entry ∧
        answer (entry.readValue encoding) s = .ok (.unsigned field.values) := by
  induction fields generalizing offset with
  | nil => rfl
  | cons first rest ih =>
    rw [List.flatMap_cons] at hholds hoffset
    rw [List.length_append] at hoffset
    have hrest := ih (fun field hfield => hfields field (List.mem_cons_of_mem _ hfield))
      hholds.right (by omega)
    by_cases htag : first.tag = tag
    · have hcode : (first.entry encoding offset).tag = tag.code := congrArg Tag.code htag
      simp only [find?, entries, List.find?_cons_of_pos, htag, hcode, decide_true]
      exact ⟨_, rfl, answer_readValue (hfields first List.mem_cons_self) (by omega) hholds.left
        hsize⟩
    · have hcode : (first.entry encoding offset).tag ≠ tag.code := fun heq => htag (code_inj heq)
      simpa only [find?, entries, List.find?_cons_of_neg, htag, hcode, decide_false,
        Bool.false_eq_true, not_false_eq_true] using hrest

end StoredField

end TiffStrip
