import TiffStrip.Proofs.Entry.Numbers
import TiffStrip.Proofs.File.Directory

/-!
# Refused entries

The values of an entry are not delivered if they are of no type that can be read, if they take more
bytes than can be addressed, or if these bytes are not in the stream. The first two are reported
alike.
-/

namespace TiffStrip.Entry

/-- The values are of a type, and take more bytes than can be addressed. -/
def Oversized (entry : Entry) : Prop :=
  ∃ type, entry.type? = some type ∧ Address.limit ≤ type.size * entry.count

variable {entry : Entry} {encoding : Encoding} {s : Stream} {type : FieldType} {size : Nat}
  {error : FormatError}

theorem oversized_iff (htype : entry.type? = some type) :
    entry.Oversized ↔ Address.limit ≤ type.size * entry.count := by
  simp only [Oversized, htype, Option.some.injEq, exists_eq_left']

theorem byteSize?_eq_none : entry.byteSize? = none ↔ entry.type? = none ∨ entry.Oversized := by
  cases htype : entry.type? with
  | none => simp [byteSize?, htype]
  | some type =>
    rw [oversized_iff htype, byteSize?, htype]
    change Address.mul? type.size entry.count = none ↔ _
    unfold Address.mul?
    by_cases h : type.size * entry.count < Address.limit
    · simp [h]
    · simp [h, Nat.not_lt.mp h]

/-- What keeps the values of an entry from being delivered, and how that is reported. -/
inductive Undelivered (entry : Entry) (encoding : Encoding) (s : Stream) : FormatError → Prop where
  /-- There is no such type. -/
  | unknown (h : entry.type? = none) :
    Undelivered entry encoding s (.unknownFieldType entry.typeCode)
  /-- So many values of a type cannot be addressed. -/
  | oversized (h : entry.Oversized) :
    Undelivered entry encoding s (.unknownFieldType entry.typeCode)
  /-- The values are neither in the entry nor in the stream. -/
  | outside {size : Nat} (hsize : entry.byteSize? = some size)
      (hbehind : encoding.format.offsetSize < size)
      (h : ¬s.Spans (entry.offset encoding.order) size) :
    Undelivered entry encoding s
      (.stream (.rangeOutOfBounds (entry.offset encoding.order) size s.size))

/-- Values without a size are reported as values of an unknown type. -/
theorem undelivered_of_none (hsize : entry.byteSize? = none) :
    entry.Undelivered encoding s error ↔ error = .unknownFieldType entry.typeCode := by
  constructor
  · intro h
    cases h with
    | unknown | oversized => rfl
    | outside hfound =>
      rw [hsize] at hfound
      cases hfound
  · rintro rfl
    exact (byteSize?_eq_none.mp hsize).elim .unknown .oversized

/-- Values of some size are not delivered only if they are behind the entry and not in the stream. -/
theorem undelivered_of_byteSize? (hsize : entry.byteSize? = some size) :
    entry.Undelivered encoding s error ↔
      encoding.format.offsetSize < size ∧ ¬s.Spans (entry.offset encoding.order) size ∧
        error = .stream (.rangeOutOfBounds (entry.offset encoding.order) size s.size) := by
  have hsome : ¬(entry.type? = none ∨ entry.Oversized) := by
    rw [← byteSize?_eq_none, hsize]
    exact Option.some_ne_none size
  constructor
  · intro h
    cases h with
    | unknown hnone => exact absurd (.inl hnone) hsome
    | oversized hlarge => exact absurd (.inr hlarge) hsome
    | outside hfound hbehind hnot =>
      obtain rfl := Option.some.inj (hsize.symm.trans hfound)
      exact ⟨hbehind, hnot, rfl⟩
  · rintro ⟨hbehind, hnot, rfl⟩
    exact .outside hsize hbehind hnot

/-- The bytes of the values are read unless something keeps them from being delivered. -/
theorem answer_readBytes_eq_error :
    answer (entry.readBytes encoding) s = .error error ↔ entry.Undelivered encoding s error := by
  cases hsize : entry.byteSize? with
  | none =>
    rw [readBytes_of_none hsize, answer_throw, undelivered_of_none hsize, Except.error.injEq,
      eq_comm]
  | some size =>
    rw [readBytes_eq hsize, undelivered_of_byteSize? hsize]
    by_cases hfits : size ≤ encoding.format.offsetSize
    · rw [if_pos hfits, answer_pure]
      exact ⟨nofun, fun h => absurd hfits (Nat.not_le.mpr h.1)⟩
    · rw [if_neg hfits]
      change answer (Stream.readExactAt _ _ : EStateM FormatError Stream _) s = _ ↔ _
      rw [File.answer_read_eq]
      by_cases hspans : s.Spans (entry.offset encoding.order) size
      · rw [if_pos hspans]
        exact ⟨nofun, fun h => absurd hspans h.2.1⟩
      · rw [if_neg hspans, Except.error.injEq, eq_comm]
        exact ⟨fun h => ⟨Nat.not_le.mp hfits, hspans, h⟩, fun h => h.2.2⟩

inductive Refused (wanted : FieldType → Prop) (fault : FieldType → ValueFault) (entry : Entry)
    (encoding : Encoding) (s : Stream) : FormatError → Prop where
  /-- The values are of another type. -/
  | unwanted {type : FieldType} (htype : entry.type? = some type) (h : ¬wanted type) :
    Refused wanted fault entry encoding s (.invalidValue .entry (fault type))
  | undelivered {error : FormatError} (hwanted : ∀ type, entry.type? = some type → wanted type)
      (h : entry.Undelivered encoding s error) :
    Refused wanted fault entry encoding s error

section

variable {wanted : FieldType → Prop} {fault : FieldType → ValueFault}

theorem refused_of_none (htype : entry.type? = none) :
    entry.Refused wanted fault encoding s error ↔ error = .unknownFieldType entry.typeCode := by
  have hunknown : entry.Undelivered encoding s error ↔ error = .unknownFieldType entry.typeCode :=
    undelivered_of_none (byteSize?_eq_none.mpr (.inl htype))
  rw [← hunknown]
  constructor
  · intro h
    cases h with
    | unwanted hfound => simp [htype] at hfound
    | undelivered _ h => exact h
  · exact .undelivered (by simp [htype])

theorem refused_of_unwanted (htype : entry.type? = some type) (h : ¬wanted type) :
    entry.Refused wanted fault encoding s error ↔ error = .invalidValue .entry (fault type) := by
  constructor
  · intro hrefused
    cases hrefused with
    | unwanted hfound =>
      obtain rfl := Option.some.inj (htype.symm.trans hfound)
      rfl
    | undelivered hwanted => exact absurd (hwanted type htype) h
  · rintro rfl
    exact .unwanted htype h

theorem refused_of_wanted (htype : entry.type? = some type) (h : wanted type) :
    entry.Refused wanted fault encoding s error ↔ entry.Undelivered encoding s error := by
  constructor
  · intro hrefused
    cases hrefused with
    | unwanted hfound hnot =>
      obtain rfl := Option.some.inj (htype.symm.trans hfound)
      exact absurd h hnot
    | undelivered _ h => exact h
  · refine .undelivered fun found hfound => ?_
    obtain rfl := Option.some.inj (htype.symm.trans hfound)
    exact h

end

theorem answer_readText_eq_error :
    answer (entry.readText encoding) s = .error error ↔
      entry.Refused (· = .ascii) .notText encoding s error := by
  cases htype : entry.type? with
  | none =>
    unfold readText
    rw [refused_of_none htype, htype, answer_throw, Except.error.injEq, eq_comm]
  | some type =>
    by_cases hascii : type = .ascii
    · rw [refused_of_wanted htype hascii, answer_readText_eq (hascii ▸ htype), except_map_eq_error,
        answer_readBytes_eq_error]
    · have hrefused : answer (entry.readText encoding) s =
          .error (.invalidValue .entry (.notText type)) := by
        unfold readText
        rw [htype]
        dsimp only
        rw [if_pos hascii]
        rfl
      rw [refused_of_unwanted htype hascii, hrefused, Except.error.injEq, eq_comm]

section

variable (hsound : entry.Sound encoding)

include hsound

theorem answer_readNumbers_eq_error :
    answer (entry.readNumbers encoding) s = .error error ↔
      entry.Refused (·.isInteger) .notNumbers encoding s error := by
  cases htype : entry.type? with
  | none =>
    unfold readNumbers
    rw [refused_of_none htype, htype, answer_throw, Except.error.injEq, eq_comm]
  | some type =>
    by_cases hinteger : type.isInteger = true
    · rw [refused_of_wanted htype hinteger, answer_readNumbers_eq hsound htype hinteger,
        except_map_eq_error, answer_readBytes_eq_error]
    · have hrefused : answer (entry.readNumbers encoding) s =
          .error (.invalidValue .entry (.notNumbers type)) := by
        unfold readNumbers
        rw [htype]
        dsimp only
        rw [if_pos (by simpa using hinteger)]
        rfl
      rw [refused_of_unwanted htype hinteger, hrefused, Except.error.injEq, eq_comm]

/-- The value of an entry is read unless something keeps its values from being delivered. -/
theorem answer_readValue_eq_error :
    answer (entry.readValue encoding) s = .error error ↔ entry.Undelivered encoding s error := by
  rw [answer_readValue_eq]
  cases htype : entry.type? with
  | none =>
    rw [undelivered_of_none (byteSize?_eq_none.mpr (.inl htype)), Except.error.injEq, eq_comm]
  | some type =>
    cases type with
    | ascii =>
      rw [except_map_eq_error, answer_readText_eq htype, except_map_eq_error,
        answer_readBytes_eq_error]
    | undefined => rw [except_map_eq_error, answer_readBytes_eq_error]
    | byte | short | long | long8 =>
      rw [except_map_eq_error, answer_readNumbers_eq hsound htype rfl, except_map_eq_error,
        answer_readBytes_eq_error]

/-- Only values of more than one byte, in a big file, can be too many. -/
theorem big_of_oversized (h : entry.Oversized) :
    encoding.format = .big ∧
      ∃ type, entry.type? = some type ∧ type.isInteger = true ∧ 1 < type.size := by
  obtain ⟨type, htype, hlarge⟩ := h
  have hcount := hsound.count
  cases hformat : encoding.format with
  | classic =>
    rw [hformat] at hcount
    have hwidth : type.size ≤ 8 := by cases type <;> decide
    have hsmall := Nat.mul_le_mul hwidth (Nat.le_of_lt hcount)
    exact absurd (Nat.le_trans hlarge hsmall) (by decide)
  | big =>
    rw [hformat] at hcount
    refine ⟨rfl, type, htype, ?_⟩
    cases type with
    | byte | ascii | undefined =>
      rw [FieldType.size, Nat.one_mul] at hlarge
      exact absurd (Nat.lt_of_le_of_lt hlarge hcount) (by decide)
    | short | long | long8 => decide

end

theorem undelivered_unknown_iff {code : Nat} :
    entry.Undelivered encoding s (.unknownFieldType code) ↔
      code = entry.typeCode ∧ (entry.type? = none ∨ entry.Oversized) := by
  constructor
  · intro h
    cases h with
    | unknown h => exact ⟨rfl, .inl h⟩
    | oversized h => exact ⟨rfl, .inr h⟩
  · rintro ⟨rfl, h⟩
    exact h.elim .unknown .oversized

section

variable {wanted : FieldType → Prop} {fault : FieldType → ValueFault}

theorem refused_unknown_iff {code : Nat} :
    entry.Refused wanted fault encoding s (.unknownFieldType code) ↔
      (∀ type, entry.type? = some type → wanted type) ∧
        entry.Undelivered encoding s (.unknownFieldType code) := by
  constructor
  · intro h
    cases h with
    | undelivered hwanted h => exact ⟨hwanted, h⟩
  · rintro ⟨hwanted, h⟩
    exact .undelivered hwanted h

/-- A fault of a value, or a failed read of the stream. -/
def ValueOrStream (error : FormatError) : Prop :=
  (∃ fault, error = .invalidValue .entry fault) ∨ ∃ cause, error = .stream cause

theorem Undelivered.valueOrStream (h : entry.Undelivered encoding s error)
    (hsize : entry.byteSize? ≠ none) : ValueOrStream error := by
  cases h with
  | unknown h => exact absurd (byteSize?_eq_none.mpr (.inl h)) hsize
  | oversized h => exact absurd (byteSize?_eq_none.mpr (.inr h)) hsize
  | outside => exact .inr ⟨_, rfl⟩

theorem Refused.valueOrStream (h : entry.Refused wanted fault encoding s error)
    (hsize : entry.byteSize? ≠ none) : ValueOrStream error := by
  cases h with
  | unwanted => exact .inl ⟨_, rfl⟩
  | undelivered _ h => exact h.valueOrStream hsize

end

/-- **A type is reported as unknown if it is, or if its values are too many.** The type of an entry
that has been read is reported as unknown, whether its value, the bytes or numbers are asked for, just
if it has none of the numbers of the types, or if its values take more bytes than can be addressed.
Text is never too long for that; only numbers of more than one byte in a big file can be too many.
Everything else that keeps the values of a known type from being delivered is a fault of the value or
of the stream. -/
theorem reported_unknown_iff {bytes : List UInt8} {directory : Directory}
    (h : Directory.parse encoding bytes = .ok directory) (hentry : entry ∈ directory.entries)
    (s : Stream) :
    let known := entry.typeCode ∈ [1, 2, 3, 4, 7, 16]
    (∀ code,
      let unknown : FormatError := .unknownFieldType code
      let unsized := code = entry.typeCode ∧ (¬known ∨ entry.Oversized)
      (answer (entry.readValue encoding) s = .error unknown ↔ unsized) ∧
      (answer (entry.readBytes encoding) s = .error unknown ↔ unsized) ∧
      (answer (entry.readNumbers encoding) s = .error unknown ↔ unsized) ∧
      (answer (entry.readText encoding) s = .error unknown ↔ code = entry.typeCode ∧ ¬known)) ∧
    (entry.Oversized → encoding.format = .big ∧
      ∃ type, entry.type? = some type ∧ type.isInteger = true ∧ 1 < type.size) ∧
    (known → ¬entry.Oversized → ∀ error,
      answer (entry.readValue encoding) s = .error error ∨
        answer (entry.readBytes encoding) s = .error error ∨
        answer (entry.readNumbers encoding) s = .error error ∨
        answer (entry.readText encoding) s = .error error →
      ValueOrStream error) := by
  intro known
  have hsound := sound_of_parse h hentry
  have hknown : entry.type? = none ↔ ¬known := by
    rw [show known ↔ _ from type?_isSome_iff.symm, Bool.not_eq_true, Option.isSome_eq_false_iff,
      Option.isNone_iff_eq_none]
  refine ⟨fun code => ⟨?_, ?_, ?_, ?_⟩, big_of_oversized hsound,
    fun htype hsmall error herror => ?_⟩
  · rw [answer_readValue_eq_error hsound, undelivered_unknown_iff, hknown]
  · rw [answer_readBytes_eq_error, undelivered_unknown_iff, hknown]
  · -- What is too large is of numbers.
    rw [answer_readNumbers_eq_error hsound, refused_unknown_iff, undelivered_unknown_iff, hknown,
      and_iff_right_iff_imp]
    rintro ⟨_, hnone | hlarge⟩ type htype
    · rw [hknown.mpr hnone] at htype
      cases htype
    · obtain ⟨_, found, hfound, hinteger, _⟩ := big_of_oversized hsound hlarge
      obtain rfl := Option.some.inj (htype.symm.trans hfound)
      exact hinteger
  · -- What is too large is not text.
    rw [answer_readText_eq_error, refused_unknown_iff, undelivered_unknown_iff, hknown]
    constructor
    · rintro ⟨hascii, hcode, hnone | hlarge⟩
      · exact ⟨hcode, hnone⟩
      · obtain ⟨_, type, htype, hinteger, _⟩ := big_of_oversized hsound hlarge
        rw [hascii type htype] at hinteger
        cases hinteger
    · rintro ⟨hcode, hnone⟩
      refine ⟨fun type htype => ?_, hcode, .inl hnone⟩
      rw [hknown.mpr hnone] at htype
      cases htype
  · have hsize : entry.byteSize? ≠ none := by
      rw [ne_eq, byteSize?_eq_none, hknown, not_or, Decidable.not_not]
      exact ⟨htype, hsmall⟩
    rw [answer_readValue_eq_error hsound, answer_readBytes_eq_error,
      answer_readNumbers_eq_error hsound, answer_readText_eq_error] at herror
    obtain herror | herror | herror | herror := herror
    · exact herror.valueOrStream hsize
    · exact herror.valueOrStream hsize
    · exact herror.valueOrStream hsize
    · exact herror.valueOrStream hsize

/-- Numbers of two bytes, half as many as there are addresses. -/
def tooManyNumbers : Entry :=
  { tag := 256, typeCode := 3, count := 0x8000000000000000, field := List.replicate 8 0 }

/-- A number of a type that nobody knows. -/
def unknownNumber : Entry :=
  { tag := 257, typeCode := 5, count := 1, field := List.replicate 8 0 }

/-- Two numbers far behind the end of any file. -/
def farNumbers : Entry :=
  { tag := 258, typeCode := 16, count := 2, field := List.replicate 8 255 }

theorem reported_unknown_iff_samples :
    let encoding : Encoding := ⟨.little, .big⟩
    let directory : Directory :=
      { entries := [tooManyNumbers, unknownNumber, farNumbers], next := 0 }
    let s : Stream := .ofBytes (directory.serialize encoding).toArray
    Directory.parse encoding s.contents.toList = .ok directory ∧
      answer (tooManyNumbers.readValue encoding) s = .error (.unknownFieldType 3) ∧
      answer (unknownNumber.readText encoding) s = .error (.unknownFieldType 5) ∧
      ∃ error, answer (farNumbers.readValue encoding) s = .error error ∧ ValueOrStream error := by
  intro encoding directory s
  have hparse : Directory.parse encoding s.contents.toList = .ok directory :=
    except_toOption_eq_some.mp (by decide +kernel)
  have hfirst : tooManyNumbers ∈ directory.entries := by decide
  have hsecond : unknownNumber ∈ directory.entries := by decide
  have hthird : farNumbers ∈ directory.entries := by decide
  obtain ⟨hmany, _⟩ := reported_unknown_iff hparse hfirst s
  obtain ⟨hunknown, _⟩ := reported_unknown_iff hparse hsecond s
  obtain ⟨_, _, hother⟩ := reported_unknown_iff hparse hthird s
  have hfar : refusal? (answer (farNumbers.readValue encoding) s) =
      some (.stream (.rangeOutOfBounds 0xFFFFFFFFFFFFFFFF 16 76)) := by
    decide +kernel
  have hrefused := refusal?_eq_some.mp hfar
  refine ⟨hparse, ((hmany 3).1).mpr ⟨rfl, .inr ⟨.short, by decide, by decide⟩⟩,
    ((hunknown 5).2.2.2).mpr ⟨rfl, by decide⟩, _, hrefused, ?_⟩
  refine hother (by decide) ?_ _ (.inl hrefused)
  rintro ⟨type, htype, hlarge⟩
  obtain rfl : FieldType.long8 = type := Option.some.inj htype
  exact absurd hlarge (by decide)

/-- Numbers of a known type are reported as being of an unknown one. -/
theorem knownType_reported_unknown :
    let encoding : Encoding := ⟨.little, .big⟩
    let directory : Directory := { entries := [tooManyNumbers], next := 0 }
    let s : Stream := .ofBytes (directory.serialize encoding).toArray
    Directory.parse encoding s.contents.toList = .ok directory ∧
      tooManyNumbers ∈ directory.entries ∧
      tooManyNumbers.typeCode ∈ [1, 2, 3, 4, 7, 16] ∧
      answer (tooManyNumbers.readValue encoding) s =
        .error (.unknownFieldType tooManyNumbers.typeCode) := by
  refine ⟨except_toOption_eq_some.mp ?_, ?_, ?_, refusal?_eq_some.mp ?_⟩
  · decide +kernel
  · decide
  · decide
  · decide +kernel

end TiffStrip.Entry
