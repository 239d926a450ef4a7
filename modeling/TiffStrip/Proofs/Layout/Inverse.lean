import TiffStrip.Proofs.Entry.Basic
import TiffStrip.Proofs.Layout.Canonical

namespace TiffStrip.Directory

variable {encoding : Encoding} {bytes : List UInt8} {directory : Directory}

/-- A directory is the front of the bytes that it was read from, as long as the number of its entries
asks for. -/
theorem serialize_eq_take (h : parse encoding bytes = .ok directory) :
    ∃ size, size? encoding.format directory.entries.length = some size ∧ size ≤ bytes.length ∧
      directory.serialize encoding = bytes.take size := by
  obtain ⟨size, hsize, hroom⟩ := size_of_parse h
  obtain ⟨hsound, hcount, hprefix⟩ := serialize_of_parse h
  have hlength : (directory.serialize encoding).length = size := by
    rw [length_serialize hsound, hcount, ← (size?_eq_some.mp hsize).1]
    omega
  rw [List.prefix_iff_eq_take, hlength] at hprefix
  rw [hcount]
  exact ⟨size, hsize, hroom, hprefix⟩

/-- Bytes hold a directory just if they are as many as its number of entries asks for. -/
theorem exists_parse_iff : (∃ directory, parse encoding bytes = .ok directory) ↔
    ∃ size, size? encoding.format (encoding.readCount bytes) = some size ∧ size ≤ bytes.length :=
  ⟨fun ⟨_, h⟩ => size_of_parse h, fun ⟨_, hsize, hroom⟩ => exists_parse hsize hroom⟩

theorem countSize_le_of_size? {format : Format} {count size : Nat}
    (h : size? format count = some size) : format.countSize ≤ size := by
  have hsize := (size?_eq_some.mp h).1
  omega

/-- Bytes are refused for being too few for the number of entries, or for as many entries as they say
there are, or because so many entries cannot be addressed. -/
theorem exists_refusal_iff : (∃ error, parse encoding bytes = .error error) ↔
    bytes.length < encoding.format.countSize ∨
      size? encoding.format (encoding.readCount bytes) = none ∨
      ∃ size, size? encoding.format (encoding.readCount bytes) = some size ∧
        bytes.length < size := by
  have hrefused : (∃ error, parse encoding bytes = .error error) ↔
      ¬∃ directory, parse encoding bytes = .ok directory := by
    cases parse encoding bytes <;> simp
  rw [hrefused, exists_parse_iff]
  cases hsize : size? encoding.format (encoding.readCount bytes) with
  | none => simp
  | some size =>
    have hcount := countSize_le_of_size? hsize
    simp only [Option.some.injEq, exists_eq_left', reduceCtorEq, false_or]
    omega

/-- More entries than can be addressed are refused. -/
theorem parse_of_overflow (hcount : encoding.format.countSize ≤ bytes.length)
    (h : size? encoding.format (encoding.readCount bytes) = none) :
    parse encoding bytes =
      .error (.invalidValue .directory (.entryCountOverflow (encoding.readCount bytes))) := by
  unfold parse
  rw [if_neg (Nat.not_lt.mpr hcount)]
  simp only [h]
  rfl

/-- What is written is read back, as long as it can be addressed. -/
theorem parse_serialize_append (h : directory.Sound encoding) (rest : List UInt8) :
    parse encoding (directory.serialize encoding ++ rest) =
      if (directory.serialize encoding).length < Address.limit then .ok directory
      else .error (.invalidValue .directory (.entryCountOverflow directory.entries.length)) := by
  by_cases haddress : (directory.serialize encoding).length < Address.limit
  · rw [if_pos haddress]
    exact parse_serialize h haddress rest
  · have hlength := length_serialize h
    have hoverflow : size? encoding.format directory.entries.length = none := by
      rw [size?_eq, if_neg (by omega)]
    rw [if_neg haddress, parse_of_overflow (by rw [List.length_append]; omega)]
    · rw [readCount_serialize h]
    · rwa [readCount_serialize h]

/-- **Reading and writing a directory are inverse.** A directory that has been written is read back with
all its entries, whatever follows it, unless it is too long to be addressed. Each of its entries has a
type just if its number is that of one, and holds its values itself just if they fit its field. A
directory that has been read is written as the very bytes that it was read from. Bytes are refused only
for being too few, or if as many entries as they say there are cannot be addressed. -/
theorem parse_inverts_serialize (encoding : Encoding) :
    (∀ directory rest, directory.Sound encoding →
      parse encoding (directory.serialize encoding ++ rest) =
        if (directory.serialize encoding).length < Address.limit then .ok directory
        else .error (.invalidValue .directory (.entryCountOverflow directory.entries.length))) ∧
    (∀ entry : Entry,
      (∀ type, entry.type? = some type ↔ entry.typeCode = type.code) ∧
      (entry.type?.isSome = true ↔ entry.typeCode ∈ [1, 2, 3, 4, 7, 16]) ∧
      (entry.isInline encoding.format = true ↔
        ∃ type, entry.type? = some type ∧
          type.size * entry.count ≤ encoding.format.offsetSize)) ∧
    (∀ bytes directory, parse encoding bytes = .ok directory →
      directory.Sound encoding ∧
      ∃ size, size? encoding.format directory.entries.length = some size ∧ size ≤ bytes.length ∧
        directory.serialize encoding = bytes.take size) ∧
    ∀ bytes, (∃ error, parse encoding bytes = .error error) ↔
      bytes.length < encoding.format.countSize ∨
        size? encoding.format (encoding.readCount bytes) = none ∨
        ∃ size, size? encoding.format (encoding.readCount bytes) = some size ∧
          bytes.length < size := by
  refine ⟨fun directory rest hsound => parse_serialize_append hsound rest, fun entry => ?_,
    fun bytes directory h => ?_, fun bytes => exists_refusal_iff⟩
  · exact ⟨fun type => FieldType.ofCode?_eq_some, Entry.type?_isSome_iff, Entry.isInline_iff⟩
  · exact ⟨(serialize_of_parse h).1, serialize_eq_take h⟩

/-- An entry of two numbers in its field, and one of a type that cannot be read. -/
def twoEntries : Directory where
  entries := [
    { tag := 258, typeCode := 3, count := 2, field := [0, 8, 0, 16] },
    { tag := 282, typeCode := 5, count := 4294967295, field := [0, 0, 1, 0] }]
  next := 64

/-- Two entries, followed by something else. -/
theorem parse_inverts_serialize_twoEntries :
    let encoding : Encoding := ⟨.big, .classic⟩
    twoEntries.Sound encoding ∧
      parse encoding (twoEntries.serialize encoding ++ [7, 7]) = .ok twoEntries ∧
      ∃ size, size? .classic 2 = some size ∧
        twoEntries.serialize encoding =
          (twoEntries.serialize encoding ++ [7, 7]).take size := by
  have hsound : twoEntries.Sound ⟨.big, .classic⟩ :=
    ⟨by decide, by decide, by decide⟩
  obtain ⟨hread, _, hwritten, _⟩ := parse_inverts_serialize ⟨.big, .classic⟩
  have hparse := hread twoEntries [7, 7] hsound
  rw [if_pos (by decide)] at hparse
  obtain ⟨_, size, hsize, _, hfront⟩ := hwritten _ _ hparse
  exact ⟨hsound, hparse, size, hsize, hfront⟩

end TiffStrip.Directory
