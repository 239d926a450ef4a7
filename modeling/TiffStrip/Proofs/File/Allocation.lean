import TiffStrip.Proofs.File.Directory

/-!
# Buffers for directories

The number of entries of a directory is whatever the file says, so the bytes of a directory may be
far more than the file has. They are read into a buffer only after their range has been found inside
the file.
-/

namespace TiffStrip

/-- A way to read exactly so many bytes at an offset. -/
abbrev Reader := (offset length : Nat) → EStateM StreamError Stream (List UInt8)

namespace Stream

/-- Reads exactly `length` bytes at an offset into a buffer of that length, where a buffer that would
be longer than `room` is refused. -/
def readExactWithin (room : Nat) (refusal : StreamError) : Reader := fun offset length => do
  let size := (← get).size
  let outside := StreamError.rangeOutOfBounds offset length size
  match Address.add? offset length with
  | some stop => if size < stop then throw outside
  | none => throw outside
  let _ ← seek (.start offset)
  if room < length then throw refusal
  let bytes ← take length
  if bytes.length < length then throw outside
  return bytes

/-- With room for all of the stream, a range is read or refused as it is with room for anything. -/
theorem readExactWithin_eq {s : Stream} {room : Nat} (hroom : s.size ≤ room)
    (refusal : StreamError) (offset length : Nat) :
    readExactWithin room refusal offset length s = readExactAt offset length s := by
  unfold readExactWithin
  by_cases hlength : room < length
  · have houtside : ¬(offset + length < Address.limit ∧ offset + length ≤ s.size) := by omega
    rw [readExactAt_eq, if_neg houtside, get_bind]
    cases hadd : Address.add? offset length with
    | none => rfl
    | some stop =>
      obtain ⟨rfl, _⟩ := Address.add?_eq_some.mp hadd
      dsimp only
      rw [if_pos (by omega)]
      rfl
  · simp only [if_neg hlength]
    rfl

/-- Reads into buffers of limited length, on streams that are not longer. -/
theorem simulates_readExactWithin (room : Nat) (refusal : StreamError) (offset length : Nat) :
    Simulates (fun s t : Stream => s = t ∧ s.size ≤ room) (readExactWithin room refusal offset length)
      (readExactAt offset length) := by
  rintro s _ ⟨rfl, hroom⟩
  have hread := readExactWithin_eq hroom refusal offset length
  have hcontents := contents_eq (rewound_after_readExactAt s offset length)
  refine ⟨by rw [answer, answer, hread], by rw [after, after, hread], ?_⟩
  rw [after, hread, ← after, size, hcontents]
  exact hroom

end Stream

namespace File

variable {encoding : Encoding}

def readDirectoryWith (read : Reader) (encoding : Encoding) (offset : Nat) :
    EStateM FormatError Stream Directory := do
  let countBytes ← read offset encoding.format.countSize
  let some size := Directory.size? encoding.format (encoding.readCount countBytes)
    | throw (.invalidDirectoryOffset offset)
  let bytes ← read offset size
  MonadExcept.ofExcept (Directory.parse encoding bytes)

/-- Follows the chain from an offset, as `readDirectories` does, in a given way to read. -/
def readDirectoriesWith (read : Reader) (encoding : Encoding) :
    (remaining : Nat) → (visited : List Nat) → (offset : Nat) →
    EStateM FormatError Stream (List Directory)
  | 0, _, _ => return []
  | remaining + 1, visited, offset => do
    if offset = 0 ∨ offset ∈ visited then return []
    let directory ← readDirectoryWith read encoding offset
    let rest ← readDirectoriesWith read encoding remaining (offset :: visited) directory.next
    return directory :: rest

def readStructureWith (read : Reader) : EStateM FormatError Stream (Header × List Directory) := do
  let size := (← get).size
  let bytes ← read 0 (min size Format.big.headerSize)
  let header ← MonadExcept.ofExcept (Header.parse bytes size)
  let directories ←
    readDirectoriesWith read header.encoding maxDirectories [] header.firstDirectory
  return (header, directories)

theorem readDirectoriesWith_readExactAt (remaining : Nat) (visited : List Nat) (offset : Nat) :
    readDirectoriesWith Stream.readExactAt encoding remaining visited offset =
      readDirectories encoding remaining visited offset := by
  induction remaining generalizing visited offset with
  | zero => rfl
  | succ remaining ih =>
    rw [readDirectoriesWith, readDirectories]
    simp only [ih]
    rfl

theorem readStructureWith_readExactAt : readStructureWith Stream.readExactAt = readStructure := by
  unfold readStructureWith readStructure
  simp only [readDirectoriesWith_readExactAt]

section

variable {R : Stream → Stream → Prop} {read other : Reader}
  (h : ∀ offset length, Simulates R (read offset length) (other offset length))

include h

theorem simulates_readDirectoryWith (offset : Nat) :
    Simulates R (readDirectoryWith read encoding offset)
      (readDirectoryWith other encoding offset) := by
  apply simulates_bind (simulates_adaptExcept _ (h _ _))
  intro bytes
  cases Directory.size? encoding.format (encoding.readCount bytes) with
  | none => exact simulates_throw _
  | some size =>
    exact simulates_bind (simulates_adaptExcept _ (h _ _)) fun bytes => simulates_ofExcept _

theorem simulates_readDirectoriesWith (remaining : Nat) (visited : List Nat) (offset : Nat) :
    Simulates R (readDirectoriesWith read encoding remaining visited offset)
      (readDirectoriesWith other encoding remaining visited offset) := by
  induction remaining generalizing visited offset with
  | zero => exact simulates_pure []
  | succ remaining ih =>
    apply simulates_ite (simulates_pure [])
    apply simulates_bind (simulates_readDirectoryWith h _)
    intro directory
    exact simulates_bind (ih _ _) fun rest => simulates_pure _

/-- Two ways to read find the same in a stream if they read the same. -/
theorem simulates_readStructureWith (hsize : ∀ s t, R s t → s.size = t.size) :
    Simulates R (readStructureWith read) (readStructureWith other) := by
  apply simulates_get
  intro s t hst
  rw [hsize s t hst]
  apply simulates_bind (simulates_adaptExcept _ (h _ _))
  intro bytes
  apply simulates_bind (simulates_ofExcept _)
  intro header
  exact simulates_bind (simulates_readDirectoriesWith h _ _ _) fun directories => simulates_pure _

end

/-- Opening a stream takes no buffer that is longer than the stream: all longer ones may be refused,
for whatever reason, and nothing changes. -/
theorem answer_readStructureWith_within (s : Stream) (refusal : StreamError) :
    answer (readStructureWith (Stream.readExactWithin s.size refusal)) s =
      answer readStructure s := by
  have hsame := simulates_readStructureWith (Stream.simulates_readExactWithin s.size refusal)
    fun _ _ hst => congrArg Stream.size hst.1
  rw [(hsame s s ⟨rfl, Nat.le_refl _⟩).1, readStructureWith_readExactAt]

/-- The entries of a directory are not longer than the bytes they were read from. -/
theorem entrySize_mul_length_le {bytes : List UInt8} {directory : Directory}
    (h : Directory.parse encoding bytes = .ok directory) :
    directory.entries.length * encoding.format.entrySize ≤ bytes.length := by
  obtain ⟨hsound, _, hprefix⟩ := Directory.serialize_of_parse h
  have hlength := hprefix.length_le
  rw [Directory.length_serialize hsound] at hlength
  omega

end File

end TiffStrip
