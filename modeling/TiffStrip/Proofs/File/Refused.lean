import TiffStrip.Proofs.File.Allocation
import TiffStrip.Proofs.File.Walk

namespace TiffStrip

/-- The first failure in a range of numbers is the one that is reported. -/
theorem mapM_range_eq_error {β ε : Type} {f : Nat → Except ε β} {count : Nat} {error : ε} :
    (List.range count).mapM f = .error error ↔
      ∃ index < count, f index = .error error ∧ ∀ earlier < index, ∃ b, f earlier = .ok b := by
  rw [mapM_eq_error]
  constructor
  · rintro ⟨index, a, hindex, ha, hbefore⟩
    obtain ⟨hless, rfl⟩ := List.getElem?_eq_some_iff.mp hindex
    rw [List.length_range] at hless
    rw [List.getElem_range] at ha
    exact ⟨index, hless, ha, fun earlier hearlier =>
      hbefore earlier earlier hearlier (List.getElem?_range (Nat.lt_trans hearlier hless))⟩
  · rintro ⟨index, hless, ha, hbefore⟩
    refine ⟨index, index, List.getElem?_range hless, ha, fun earlier b hearlier hb => ?_⟩
    rw [List.getElem?_range (Nat.lt_trans hearlier hless)] at hb
    obtain rfl := Option.some.inj hb
    exact hbefore earlier hearlier

theorem Header.parse_ne_noDirectories (bytes : List UInt8) (size : Nat) :
    Header.parse bytes size ≠ .error .noDirectories := by
  unfold Header.parse
  split
  · nofun
  · dsimp only
    cases ByteOrder.ofMagic? (ByteOrder.little.read 2 bytes) with
    | none => nofun
    | some order =>
      dsimp only
      cases Format.ofVersion? (order.read 2 (bytes.drop 2)) with
      | none => nofun
      | some format =>
        dsimp only
        cases hfirst : parseOffset ⟨order, format⟩ bytes with
        | error error =>
          rintro ⟨⟩
          unfold parseOffset at hfirst
          cases format with
          | classic => cases hfirst
          | big =>
            dsimp only at hfirst
            split at hfirst
            · cases hfirst
            · split at hfirst <;> cases hfirst
        | ok first =>
          change (if size ≤ first then _ else _) ≠ _
          split <;> nofun

namespace File

variable {encoding : Encoding} {s : Stream} {offset : Nat}

/-- A directory is at fault unless as many bytes as it says are in the stream. -/
theorem exists_fault_iff :
    (∃ error, DirectoryFault encoding s offset error) ↔
      ¬s.Spans offset (directorySize encoding s offset) := by
  constructor
  · rintro ⟨_, hfault⟩ hbody
    cases hfault with
    | countOutside h => exact h (hbody.le countSize_le_directorySize)
    | tooManyEntries _ h => exact absurd hbody.1 (by omega)
    | bodyOutside _ _ h => exact h hbody
  · intro hbody
    by_cases hcount : s.Spans offset encoding.format.countSize
    · by_cases hlimit : directorySize encoding s offset < Address.limit
      · exact ⟨_, .bodyOutside hcount hlimit hbody⟩
      · exact ⟨_, .tooManyEntries hcount (Nat.not_lt.mp hlimit)⟩
    · exact ⟨_, .countOutside hcount⟩

theorem exists_readDirectory_iff :
    (∃ directory, answer (readDirectory encoding offset) s = .ok directory) ↔
      s.Spans offset (directorySize encoding s offset) := by
  rw [← not_iff_not, ← exists_fault_iff]
  simp only [← answer_readDirectory_eq_error]
  cases answer (readDirectory encoding offset) s <;> simp

inductive Refused (s : Stream) : FormatError → Prop where
  /-- The bytes at the front are not a header. -/
  | header {error : FormatError}
      (h : Header.parse (s.slice 0 (min s.size Format.big.headerSize)) s.size = .error error) :
    Refused s error
  /-- The header is that of a file without directories. -/
  | noDirectories {header : Header}
      (hheader : Header.parse (s.slice 0 (min s.size Format.big.headerSize)) s.size = .ok header)
      (h : header.firstDirectory = 0) :
    Refused s .noDirectories
  /-- A directory of the chain is at fault, and all those before it are inside the stream. -/
  | directory {header : Header} {error : FormatError} {index : Nat}
      (hheader : Header.parse (s.slice 0 (min s.size Format.big.headerSize)) s.size = .ok header)
      (hwalk : ∀ position ≤ index, ¬Stops header s position)
      (hbefore : ∀ earlier < index, s.Spans (chain header s earlier)
        (directorySize header.encoding s (chain header s earlier)))
      (h : DirectoryFault header.encoding s (chain header s index) error) :
    Refused s error

/-- A position comes before the first that a walk stops at if the walk does not stop up to it. -/
theorem lt_iff_of_isLeast {header : Header} {count index : Nat}
    (h : IsLeast {position | Stops header s position} count) :
    index < count ↔ ∀ position ≤ index, ¬Stops header s position := by
  constructor
  · intro hless position hle hstops
    have := h.2 hstops
    omega
  · intro hwalk
    by_contra hle
    exact hwalk count (by omega) h.1

/-- Why the directories of a stream cannot be read. -/
theorem answer_readDirectories_eq_error {header : Header} {error : FormatError} :
    answer (readDirectories header.encoding maxDirectories [] header.firstDirectory) s =
        .error error ↔
      ∃ index, (∀ position ≤ index, ¬Stops header s position) ∧
        (∀ earlier < index, s.Spans (chain header s earlier)
          (directorySize header.encoding s (chain header s earlier))) ∧
        DirectoryFault header.encoding s (chain header s index) error := by
  obtain ⟨count, hleast⟩ := exists_end header.encoding s maxDirectories header.firstDirectory []
  rw [answer_readDirectories_eq hleast, mapM_range_eq_error]
  simp only [ends_iff_stops] at hleast
  simp only [lt_iff_of_isLeast hleast, answer_readDirectory_eq_error, exists_readDirectory_iff]
  refine exists_congr fun index => and_congr_right fun _ => ?_
  exact and_comm

theorem answer_readDirectories_eq_nil {header : Header} :
    answer (readDirectories header.encoding maxDirectories [] header.firstDirectory) s = .ok [] ↔
      header.firstDirectory = 0 := by
  constructor
  · intro h
    obtain ⟨count, hleast⟩ := exists_end header.encoding s maxDirectories header.firstDirectory []
    rw [answer_readDirectories_eq hleast, mapM_eq_ok] at h
    obtain rfl : count = 0 := by simpa using congrArg List.length h
    obtain hend | hend | hend | ⟨earlier, hless, _⟩ := hleast.1
    · cases hend
    · exact hend
    · cases hend
    · exact absurd hless (Nat.not_lt_zero earlier)
  · intro h
    rw [maxDirectories, readDirectories, if_pos (.inl h)]
    rfl

theorem ofStream_eq_error_iff_refused {error : FormatError} :
    ofStream s = .error error ↔ Refused s error := by
  rw [ofStream_eq_error, answer_readStructure_eq, answer_readHeader]
  constructor
  · intro h
    cases hparse : Header.parse (s.slice 0 (min s.size Format.big.headerSize)) s.size with
    | error fault =>
      rw [hparse] at h
      obtain h | ⟨⟨_, h⟩, _⟩ := h
      · cases h
        exact .header hparse
      · cases h
    | ok header =>
      rw [hparse] at h
      change (answer (readDirectories _ _ _ _) s >>= fun directories => _) = _ ∨
        (∃ _, (answer (readDirectories _ _ _ _) s >>= fun directories => _) = _) ∧ _ at h
      cases hwalk : answer
          (readDirectories header.encoding maxDirectories [] header.firstDirectory) s with
      | error fault =>
        rw [hwalk] at h
        obtain h | ⟨⟨_, h⟩, _⟩ := h
        · cases h
          obtain ⟨index, hbefore, hinside, hfault⟩ := answer_readDirectories_eq_error.mp hwalk
          exact .directory hparse hbefore hinside hfault
        · cases h
      | ok directories =>
        rw [hwalk] at h
        obtain h | ⟨⟨_, h⟩, rfl⟩ := h
        · cases h
        · cases h
          exact .noDirectories hparse (answer_readDirectories_eq_nil.mp hwalk)
  · intro h
    cases h with
    | header h =>
      rw [h]
      exact .inl rfl
    | @noDirectories header hheader h =>
      have hwalk := (answer_readDirectories_eq_nil (s := s)).mpr h
      rw [hheader]
      refine .inr ⟨⟨header, ?_⟩, rfl⟩
      change (answer (readDirectories _ _ _ _) s >>= fun directories => _) = _
      rw [hwalk]
      rfl
    | @directory header _ index hheader hbefore hinside h =>
      have hwalk := answer_readDirectories_eq_error.mpr ⟨index, hbefore, hinside, h⟩
      rw [hheader]
      refine .inl ?_
      change (answer (readDirectories _ _ _ _) s >>= fun directories => _) = _
      rw [hwalk]
      rfl

/-- **Why a stream does not open.** The errors are those of the header; that there are no
directories, just where a header has the first offset zero; and, for the first directory of the chain
that cannot be read, that its number of entries is too large to be addressed, or that this number or
all its entries are not inside the stream. Bytes that were read for a directory are never refused as
one. They are no more than the stream has, and nor are their entries; opening never takes a buffer of
bytes that is longer than the stream, so that all of these may be refused. What is bounded is the bytes
read and the number of entries: the list of parsed entries takes more memory than their bytes. -/
theorem open_refused_iff (stream : Stream) :
    (∀ error, ofStream stream = .error error ↔ Refused stream error) ∧
      (ofStream stream = .error .noDirectories ↔
        ∃ header, Header.parse (stream.slice 0 (min stream.size Format.big.headerSize))
          stream.size = .ok header ∧ header.firstDirectory = 0) ∧
      (∀ (encoding : Encoding) (offset size : Nat) (countBytes bytes : List UInt8),
        answer (Stream.readExactAt offset encoding.format.countSize) stream = .ok countBytes →
        Directory.size? encoding.format (encoding.readCount countBytes) = some size →
        answer (Stream.readExactAt offset size) stream = .ok bytes →
        ∃ directory, Directory.parse encoding bytes = .ok directory ∧
          directory.entries.length * encoding.format.entrySize ≤ bytes.length ∧
          bytes.length ≤ stream.size) ∧
      readStructureWith Stream.readExactAt = readStructure ∧
      ∀ refusal, answer (readStructureWith (Stream.readExactWithin stream.size refusal)) stream =
        answer readStructure stream := by
  refine ⟨fun error => ofStream_eq_error_iff_refused, ?_, ?_, readStructureWith_readExactAt,
    answer_readStructureWith_within stream⟩
  · rw [ofStream_eq_error_iff_refused]
    constructor
    · intro h
      cases h with
      | header h => exact absurd h (Header.parse_ne_noDirectories _ _)
      | noDirectories hheader h => exact ⟨_, hheader, h⟩
      | directory _ _ _ h => cases h
    · rintro ⟨header, hheader, h⟩
      exact .noDirectories hheader h
  · intro encoding offset size countBytes bytes hcount hsize hbytes
    obtain ⟨directory, hdirectory⟩ := exists_parse_of_read hcount hsize hbytes
    refine ⟨directory, hdirectory, entrySize_mul_length_le hdirectory, ?_⟩
    rw [Stream.answer_readExactAt] at hbytes
    split at hbytes
    case isFalse => cases hbytes
    rename_i hspans
    cases hbytes
    rw [stream.length_slice hspans.2]
    omega

end File

end TiffStrip
