import TiffStrip.Proofs.File.Opening
import TiffStrip.Proofs.Layout.Canonical

namespace TiffStrip

namespace Stream

/-- Whether a range can be addressed and lies inside the stream. -/
def Spans (s : Stream) (offset length : Nat) : Prop :=
  offset + length < Address.limit ∧ offset + length ≤ s.size

instance (s : Stream) (offset length : Nat) : Decidable (s.Spans offset length) :=
  inferInstanceAs (Decidable (_ ∧ _))

theorem Spans.le {s : Stream} {offset length shorter : Nat} (h : s.Spans offset length)
    (hle : shorter ≤ length) : s.Spans offset shorter := by
  unfold Spans at h ⊢
  omega

end Stream

namespace File

variable {encoding : Encoding} {s : Stream} {offset : Nat}

theorem answer_read_eq (s : Stream) (offset length : Nat) :
    answer (Stream.readExactAt offset length : EStateM FormatError Stream _) s =
      if s.Spans offset length then .ok (s.slice offset length)
      else .error (.stream (.rangeOutOfBounds offset length s.size)) := by
  change answer (EStateM.adaptExcept FormatError.stream (Stream.readExactAt offset length)) s = _
  rw [answer_adaptExcept, Stream.answer_readExactAt]
  by_cases h : s.Spans offset length
  · rw [if_pos h, if_pos (show _ ∧ _ from h)]
    rfl
  · rw [if_neg h, if_neg (show ¬(_ ∧ _) from h)]
    rfl

/-- How many entries a directory at an offset says it has. -/
def entryCount (encoding : Encoding) (s : Stream) (offset : Nat) : Nat :=
  encoding.readCount (s.slice offset encoding.format.countSize)

/-- Bytes that a directory at an offset takes, from the number of its entries. -/
def directorySize (encoding : Encoding) (s : Stream) (offset : Nat) : Nat :=
  entryCount encoding s offset * encoding.format.entrySize +
    (encoding.format.countSize + encoding.format.offsetSize)

theorem countSize_le_directorySize :
    encoding.format.countSize ≤ directorySize encoding s offset := by
  unfold directorySize
  omega

theorem size?_entryCount :
    Directory.size? encoding.format (entryCount encoding s offset) =
      if directorySize encoding s offset < Address.limit then
        some (directorySize encoding s offset)
      else none :=
  Directory.size?_eq _ _

theorem readCount_slice {length : Nat} (h : encoding.format.countSize ≤ length) :
    encoding.readCount (s.slice offset length) = entryCount encoding s offset := by
  rw [entryCount, Encoding.readCount, Encoding.readCount, ByteOrder.read, ByteOrder.read,
    s.take_slice offset h, s.take_slice offset (Nat.le_refl _)]

/-- Nothing is wrong with the bytes of a directory that are inside the stream. -/
theorem exists_parse_of_spans (h : s.Spans offset (directorySize encoding s offset)) :
    ∃ directory, Directory.parse encoding (s.slice offset (directorySize encoding s offset)) =
      .ok directory := by
  have hsize : Directory.size? encoding.format
      (encoding.readCount (s.slice offset (directorySize encoding s offset))) =
        some (directorySize encoding s offset) := by
    rw [readCount_slice countSize_le_directorySize, size?_entryCount,
      if_pos (Nat.lt_of_le_of_lt (Nat.le_add_left _ offset) h.1)]
  exact Directory.exists_parse hsize (Nat.le_of_eq (s.length_slice h.2).symm)

/-- The bytes that are read for a directory, as many as its number of entries asks for, are always a
directory. -/
theorem exists_parse_of_read {countBytes bytes : List UInt8} {size : Nat}
    (hcount : answer (Stream.readExactAt offset encoding.format.countSize) s = .ok countBytes)
    (hsize : Directory.size? encoding.format (encoding.readCount countBytes) = some size)
    (hbytes : answer (Stream.readExactAt offset size) s = .ok bytes) :
    ∃ directory, Directory.parse encoding bytes = .ok directory := by
  rw [Stream.answer_readExactAt] at hcount hbytes
  split at hcount
  case isFalse => cases hcount
  split at hbytes
  case isFalse => cases hbytes
  rename_i hspans
  cases hcount
  cases hbytes
  obtain ⟨rfl, _⟩ := Directory.size?_eq_some.mp hsize
  exact exists_parse_of_spans hspans

theorem answer_readDirectory_eq (encoding : Encoding) (s : Stream) (offset : Nat) :
    answer (readDirectory encoding offset) s =
      if s.Spans offset encoding.format.countSize then
        if directorySize encoding s offset < Address.limit then
          if s.Spans offset (directorySize encoding s offset) then
            Directory.parse encoding (s.slice offset (directorySize encoding s offset))
          else .error (.stream (.rangeOutOfBounds offset (directorySize encoding s offset) s.size))
        else .error (.invalidDirectoryOffset offset)
      else .error (.stream (.rangeOutOfBounds offset encoding.format.countSize s.size)) := by
  unfold readDirectory
  rw [answer_bind, answer_read_eq]
  by_cases hcount : s.Spans offset encoding.format.countSize
  · rw [if_pos hcount, if_pos hcount]
    simp only [Except.bind]
    rw [show encoding.readCount (s.slice offset encoding.format.countSize) =
      entryCount encoding s offset from rfl, size?_entryCount]
    by_cases hlimit : directorySize encoding s offset < Address.limit
    · rw [if_pos hlimit, if_pos hlimit]
      dsimp only
      rw [answer_bind, (steady_read _ _).answer_eq ((steady_read _ _).view_after s), answer_read_eq]
      split
      · simp only [Except.bind, answer_ofExcept]
      · rfl
    · rw [if_neg hlimit, if_neg hlimit]
      rfl
  · rw [if_neg hcount, if_neg hcount]
    rfl

theorem answer_readDirectory_eq_ok {directory : Directory} :
    answer (readDirectory encoding offset) s = .ok directory ↔
      directory.Sound encoding ∧ s.Holds offset (directory.serialize encoding) ∧
        offset + (directory.serialize encoding).length < Address.limit := by
  rw [answer_readDirectory_eq]
  constructor
  · intro h
    split at h
    case isFalse => cases h
    split at h
    case isFalse => cases h
    split at h
    case isFalse => cases h
    rename_i hspans
    obtain ⟨hsound, _, hprefix⟩ := Directory.serialize_of_parse h
    have hlength := hprefix.length_le
    rw [s.length_slice hspans.2] at hlength
    exact ⟨hsound, Stream.holds_of_prefix hspans.2 hprefix,
      Nat.lt_of_le_of_lt (Nat.add_le_add_left hlength offset) hspans.1⟩
  · rintro ⟨hsound, hholds, hlimit⟩
    have hlength := Directory.length_serialize hsound
    have hinside := hholds.le_size
    have hslice {length : Nat} (hle : length ≤ (directory.serialize encoding).length) :
        s.slice offset length = (directory.serialize encoding).take length := by
      have hfront : s.slice (offset + 0) length = _ := hholds.slice (by omega)
      rwa [Nat.add_zero, List.drop_zero] at hfront
    have hcount : entryCount encoding s offset = directory.entries.length := by
      have hback := Directory.readCount_serialize hsound []
      rw [List.append_nil] at hback
      rw [entryCount, hslice (by omega), ← hback, Encoding.readCount, Encoding.readCount,
        ByteOrder.read, ByteOrder.read, List.take_take, Nat.min_self]
    have hsize : directorySize encoding s offset = (directory.serialize encoding).length := by
      rw [directorySize, hcount, hlength]
      omega
    have hspans : s.Spans offset (directorySize encoding s offset) := by
      rw [hsize]
      exact ⟨hlimit, hinside⟩
    rw [if_pos (hspans.le countSize_le_directorySize), if_pos (by omega), if_pos hspans, hsize,
      hslice (Nat.le_refl _), List.take_length]
    have hback := Directory.parse_serialize hsound (by omega) []
    rwa [List.append_nil] at hback

inductive DirectoryFault (encoding : Encoding) (s : Stream) (offset : Nat) : FormatError → Prop where
  /-- The number of entries is not in the stream. -/
  | countOutside (h : ¬s.Spans offset encoding.format.countSize) :
    DirectoryFault encoding s offset
      (.stream (.rangeOutOfBounds offset encoding.format.countSize s.size))
  /-- So many entries cannot be addressed. -/
  | tooManyEntries (hcount : s.Spans offset encoding.format.countSize)
      (h : Address.limit ≤ directorySize encoding s offset) :
    DirectoryFault encoding s offset (.invalidDirectoryOffset offset)
  /-- So many entries are not in the stream. -/
  | bodyOutside (hcount : s.Spans offset encoding.format.countSize)
      (hlimit : directorySize encoding s offset < Address.limit)
      (h : ¬s.Spans offset (directorySize encoding s offset)) :
    DirectoryFault encoding s offset
      (.stream (.rangeOutOfBounds offset (directorySize encoding s offset) s.size))

/-- A directory is read unless it is at fault. -/
theorem answer_readDirectory_eq_error {error : FormatError} :
    answer (readDirectory encoding offset) s = .error error ↔
      DirectoryFault encoding s offset error := by
  rw [answer_readDirectory_eq]
  constructor
  · intro h
    by_cases hcount : s.Spans offset encoding.format.countSize
    · rw [if_pos hcount] at h
      by_cases hlimit : directorySize encoding s offset < Address.limit
      · rw [if_pos hlimit] at h
        by_cases hbody : s.Spans offset (directorySize encoding s offset)
        · obtain ⟨directory, hdirectory⟩ := exists_parse_of_spans hbody
          rw [if_pos hbody, hdirectory] at h
          cases h
        · rw [if_neg hbody] at h
          cases h
          exact .bodyOutside hcount hlimit hbody
      · rw [if_neg hlimit] at h
        cases h
        exact .tooManyEntries hcount (Nat.not_lt.mp hlimit)
    · rw [if_neg hcount] at h
      cases h
      exact .countOutside hcount
  · intro h
    cases h with
    | countOutside h => rw [if_neg h]
    | tooManyEntries hcount h => rw [if_pos hcount, if_neg (Nat.not_lt.mpr h)]
    | bodyOutside hcount hlimit h => rw [if_pos hcount, if_pos hlimit, if_neg h]

end File

end TiffStrip
