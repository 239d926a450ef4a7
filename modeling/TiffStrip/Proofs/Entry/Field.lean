import TiffStrip.Proofs.Entry.Basic
import TiffStrip.Proofs.Layout.Canonical

/-!
# Reads of a value field

The field of an entry has four or eight bytes. What is read of it is an offset of that width, or
values that have been found to fit it. So if all reads were refused that leave the field, none would
be.
-/

namespace TiffStrip

/-- The number in the first `width` bytes, refused where there are fewer. -/
def ByteOrder.readWithin (refusal : FormatError) (order : ByteOrder) (width : Nat)
    (bytes : List UInt8) : Except FormatError Nat :=
  if bytes.length < width then .error refusal else .ok (order.read width bytes)

theorem ByteOrder.readWithin_eq {refusal : FormatError} {order : ByteOrder} {width : Nat}
    {bytes : List UInt8} (h : width ≤ bytes.length) :
    order.readWithin refusal width bytes = .ok (order.read width bytes) :=
  if_neg (Nat.not_lt.mpr h)

namespace Entry

section

variable (refusal : FormatError)

/-- The field as an offset, refused where the field is too short for it. -/
def offsetWithin (entry : Entry) (order : ByteOrder) : Except FormatError Nat :=
  if entry.field.length = 8 then order.readWithin refusal 8 entry.field
  else order.readWithin refusal 4 entry.field

/-- The number in the field, if the entry holds just one, refused where the field is too short for
it. -/
def inlineNumberWithin (entry : Entry) (encoding : Encoding) : Except FormatError (Option Nat) :=
  if entry.isInline encoding.format ∧ entry.count = 1 then
    match entry.type? with
    | some type =>
      if type.isInteger then
        (encoding.order.readWithin refusal type.size entry.field).map some
      else .ok none
    | none => .ok none
  else .ok none

/-- The bytes of the values, refused where the field is too short for them or for their offset. -/
def readBytesWithin (encoding : Encoding) (entry : Entry) :
    EStateM FormatError Stream (List UInt8) := do
  let some size := entry.byteSize? | throw (.unknownFieldType entry.typeCode)
  if entry.isInline encoding.format then
    if entry.field.length < size then throw refusal
    return entry.field.take size
  else
    let offset ← MonadExcept.ofExcept (entry.offsetWithin refusal encoding.order)
    (Stream.readExactAt offset size).adaptExcept .stream

end

theorem sound_of_parse {encoding : Encoding} {bytes : List UInt8} {directory : Directory}
    {entry : Entry} (h : Directory.parse encoding bytes = .ok directory)
    (hentry : entry ∈ directory.entries) : entry.Sound encoding :=
  (Directory.serialize_of_parse h).1.entries entry hentry

section

variable {entry : Entry} {encoding : Encoding} (hsound : entry.Sound encoding)

include hsound

theorem offsetWithin_eq (refusal : FormatError) :
    entry.offsetWithin refusal encoding.order = .ok (entry.offset encoding.order) := by
  have hfield := hsound.field
  unfold offsetWithin offset
  by_cases height : entry.field.length = 8
  · rw [if_pos height, if_pos height]
    exact ByteOrder.readWithin_eq (Nat.le_of_eq height.symm)
  · rw [if_neg height, if_neg height]
    apply ByteOrder.readWithin_eq
    cases hformat : encoding.format <;> rw [hformat, Format.offsetSize] at hfield <;> omega

/-- A single number in a field is inside of it. -/
theorem inlineNumberWithin_eq (refusal : FormatError) :
    entry.inlineNumberWithin refusal encoding = .ok (entry.inlineNumber? encoding) := by
  unfold inlineNumberWithin inlineNumber?
  split
  case isFalse => rfl
  rename_i hinline
  obtain ⟨type, htype, hfits⟩ := isInline_iff.mp hinline.1
  rw [hinline.2, Nat.mul_one, ← hsound.field] at hfits
  simp only [htype]
  split
  · rw [ByteOrder.readWithin_eq hfits]
    rfl
  · rfl

/-- Neither the values in a field nor their offset leave the field. -/
theorem readBytesWithin_eq (refusal : FormatError) :
    entry.readBytesWithin refusal encoding = entry.readBytes encoding := by
  unfold readBytesWithin
  cases hsize : entry.byteSize? with
  | none => rw [readBytes_of_none hsize]
  | some size =>
    rw [readBytes_eq hsize]
    simp only [isInline_iff_of_byteSize? hsize]
    by_cases hfits : size ≤ encoding.format.offsetSize
    · have hinside : ¬entry.field.length < size := by
        rw [hsound.field]
        exact Nat.not_lt.mpr hfits
      rw [if_pos hfits, if_pos hfits, if_neg hinside]
    · rw [if_neg hfits, if_neg hfits, offsetWithin_eq hsound]
      rfl

theorem readBytes_of_inlineNumber? {value : Nat} (h : entry.inlineNumber? encoding = some value) :
    ∃ type, entry.type? = some type ∧ ∀ s, ∃ data, entry.readBytes encoding s = .ok data s ∧
      type.decodeNumbers encoding.order entry.count data = [value] := by
  obtain ⟨type, htype, hinteger, hone, hfits, rfl⟩ := inlineNumber?_eq_some.mp h
  have hsize : entry.byteSize? = some type.size :=
    (byteSize?_iff_of_type? htype).mpr
      ⟨by rw [hone, Nat.mul_one], Nat.lt_of_le_of_lt hfits (offsetSize_lt _)⟩
  have hrecord : (entry.field.take type.size).length = type.size := by
    rw [List.length_take, hsound.field]
    omega
  have hcut : chunks type.size 1 (entry.field.take type.size) = [entry.field.take type.size] := by
    have happend := @chunks_append _ 0 _ hrecord []
    rwa [List.append_nil, chunks_zero] at happend
  refine ⟨type, htype, fun s => ⟨entry.field.take type.size, ?_, ?_⟩⟩
  · rw [readBytes_eq hsize, if_pos hfits]
    rfl
  · rw [FieldType.decodeNumbers, if_pos hinteger, ByteOrder.decodeArray, hone, hcut]
    rfl

end

/-- **No entry that has been read is read outside its field.** The field of such an entry is as wide as
an offset, and it holds the values just if they are of a type and take no more than that. So neither
its offset, nor a single number in it, nor the bytes of values in it could be refused for leaving the
field; a number of eight bytes is never taken out of a field of four. A single number in the field is
all that the bytes of its values hold. -/
theorem field_reads_within {encoding : Encoding} {bytes : List UInt8} {directory : Directory}
    (h : Directory.parse encoding bytes = .ok directory) {entry : Entry}
    (hentry : entry ∈ directory.entries) :
    entry.field.length = encoding.format.offsetSize ∧
    (entry.isInline encoding.format = true ↔
      ∃ size, entry.byteSize? = some size ∧ size ≤ encoding.format.offsetSize) ∧
    (∀ refusal,
      entry.offsetWithin refusal encoding.order = .ok (entry.offset encoding.order) ∧
      entry.inlineNumberWithin refusal encoding = .ok (entry.inlineNumber? encoding) ∧
      entry.readBytesWithin refusal encoding = entry.readBytes encoding) ∧
    (encoding.format = .classic → entry.type? = some .long8 →
      entry.inlineNumber? encoding = none) ∧
    ∀ value, entry.inlineNumber? encoding = some value →
      ∃ type, entry.type? = some type ∧ ∀ s, ∃ data, entry.readBytes encoding s = .ok data s ∧
        type.decodeNumbers encoding.order entry.count data = [value] := by
  have hsound := sound_of_parse h hentry
  refine ⟨hsound.field, isInline_iff_byteSize?, fun refusal => ?_, fun hclassic hlong8 => ?_,
    fun value hvalue => readBytes_of_inlineNumber? hsound hvalue⟩
  · exact ⟨offsetWithin_eq hsound refusal, inlineNumberWithin_eq hsound refusal,
      readBytesWithin_eq hsound refusal⟩
  · rw [Option.eq_none_iff_forall_ne_some]
    intro value hvalue
    obtain ⟨type, htype, _, _, hfits, _⟩ := inlineNumber?_eq_some.mp hvalue
    rw [hlong8] at htype
    cases htype
    rw [hclassic] at hfits
    exact absurd hfits (by decide)

/-- A number of two bytes, and what fills up its field. -/
def paddedNumber : Entry :=
  { tag := 256, typeCode := 3, count := 1, field := [2, 1, 9, 9] }

theorem field_reads_within_paddedNumber :
    let encoding : Encoding := ⟨.little, .classic⟩
    let directory : Directory := { entries := [paddedNumber], next := 0 }
    Directory.parse encoding (directory.serialize encoding) = .ok directory ∧
      paddedNumber ∈ directory.entries ∧ paddedNumber.isInline .classic = true ∧
      paddedNumber.inlineNumber? encoding = some 258 ∧
      ∃ type, paddedNumber.type? = some type ∧ ∀ s, ∃ data,
        paddedNumber.readBytes encoding s = .ok data s ∧
          type.decodeNumbers .little 1 data = [258] := by
  have hparse : Directory.parse ⟨.little, .classic⟩ (Directory.serialize ⟨.little, .classic⟩
      { entries := [paddedNumber], next := 0 }) = .ok { entries := [paddedNumber], next := 0 } :=
    except_toOption_eq_some.mp (by decide +kernel)
  have hnumber : paddedNumber.inlineNumber? ⟨.little, .classic⟩ = some 258 := by decide
  obtain ⟨_, _, _, _, hsingle⟩ := field_reads_within hparse List.mem_cons_self
  exact ⟨hparse, List.mem_cons_self, by decide, hnumber, hsingle 258 hnumber⟩

end Entry

end TiffStrip
