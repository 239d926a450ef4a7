import Mathlib.Order.Nat
import TiffStrip.Proofs.File.Chain
import TiffStrip.Proofs.File.Directory

/-!
# The walk along the chain

A chain of directories may come back to itself, lead out of the file or go on without an end. The
walk along it stops before it reads a directory for the second time, and after a hundred of them.
-/

namespace TiffStrip

section

variable {α β ε : Type} {f : α → Except ε β} {l : List α}

theorem mapM_congr {g : α → Except ε β} (h : ∀ a ∈ l, f a = g a) : l.mapM f = l.mapM g := by
  induction l with
  | nil => rfl
  | cons a l ih =>
    rw [List.mapM_cons, List.mapM_cons, h a List.mem_cons_self,
      ih fun b hb => h b (List.mem_cons_of_mem a hb)]

theorem mapM_eq_ok {results : List β} : l.mapM f = .ok results ↔ l.map f = results.map .ok := by
  induction l generalizing results with
  | nil => cases results <;> simp [pure, Except.pure]
  | cons a l ih =>
    rw [List.mapM_cons, List.map_cons]
    constructor
    · intro h
      obtain ⟨b, hb, h⟩ := except_bind_eq_ok.mp h
      obtain ⟨rest, hrest, h⟩ := except_bind_eq_ok.mp h
      cases h
      rw [List.map_cons, hb, ih.mp hrest]
    · intro h
      cases results with
      | nil => cases h
      | cons b rest =>
        obtain ⟨hb, hrest⟩ := List.cons.inj h
        exact except_bind_eq_ok.mpr ⟨b, hb, except_bind_eq_ok.mpr ⟨rest, ih.mpr hrest, rfl⟩⟩

/-- The first failure in a list is the one that is reported. -/
theorem mapM_eq_error {error : ε} :
    l.mapM f = .error error ↔
      ∃ (index : Nat) (a : α), l[index]? = some a ∧ f a = .error error ∧
        ∀ (earlier : Nat) (b : α), earlier < index → l[earlier]? = some b → ∃ c, f b = .ok c := by
  induction l with
  | nil => simp [pure, Except.pure]
  | cons a l ih =>
    rw [List.mapM_cons]
    cases ha : f a with
    | error first =>
      constructor
      · rintro ⟨⟩
        exact ⟨0, a, rfl, ha, fun _ _ h => absurd h (Nat.not_lt_zero _)⟩
      · rintro ⟨index, b, hindex, hb, hbefore⟩
        cases index with
        | zero =>
          obtain rfl : a = b := Option.some.inj hindex
          rw [ha] at hb
          cases hb
          rfl
        | succ index =>
          obtain ⟨c, hc⟩ := hbefore 0 a (Nat.succ_pos _) rfl
          rw [ha] at hc
          cases hc
    | ok first =>
      have htail : (do let rest ← l.mapM f; return first :: rest : Except ε (List β)) =
          .error error ↔ l.mapM f = .error error := by
        cases l.mapM f with
        | error _ => exact Iff.rfl
        | ok _ => exact ⟨nofun, nofun⟩
      refine htail.trans (ih.trans ⟨?_, ?_⟩)
      · rintro ⟨index, b, hindex, hb, hbefore⟩
        refine ⟨index + 1, b, hindex, hb, fun earlier c hless hearlier => ?_⟩
        cases earlier with
        | zero =>
          obtain rfl : a = c := Option.some.inj hearlier
          exact ⟨first, ha⟩
        | succ earlier => exact hbefore earlier c (Nat.lt_of_succ_lt_succ hless) hearlier
      · rintro ⟨index, b, hindex, hb, hbefore⟩
        cases index with
        | zero =>
          obtain rfl : a = b := Option.some.inj hindex
          rw [ha] at hb
          cases hb
        | succ index =>
          exact ⟨index, b, hindex, hb, fun earlier c hless hearlier =>
            hbefore (earlier + 1) c (Nat.succ_lt_succ hless) hearlier⟩

end

namespace File

variable {encoding : Encoding} {header : Header} {s t : Stream}

/-- Whether a walk that starts at an offset is over before it reads the directory at a position: no
more directories may be read, or the offset there is zero, was visited before the walk, or is that of
an earlier position. -/
def Ends (encoding : Encoding) (s : Stream) (remaining : Nat) (visited : List Nat)
    (first position : Nat) : Prop :=
  position = remaining ∨ chainFrom encoding s first position = 0 ∨
    chainFrom encoding s first position ∈ visited ∨
    ∃ earlier < position, chainFrom encoding s first earlier = chainFrom encoding s first position

/-- Behind its first directory a walk ends where it does from its second. -/
theorem ends_next {remaining first position : Nat} {visited : List Nat} :
    Ends encoding s remaining (first :: visited) (nextOffset encoding s first) position ↔
      Ends encoding s (remaining + 1) visited first (position + 1) := by
  simp only [Ends, chainFrom_next, List.mem_cons, Nat.exists_lt_succ_left, Nat.add_right_cancel_iff]
  rw [show chainFrom encoding s first 0 = first from rfl, eq_comm (a := first), or_assoc]
  exact or_congr_right (or_congr_right or_left_comm)

/-- A walk reads one directory after the other, up to its end. -/
theorem answer_readDirectories_eq {remaining first count : Nat} {visited : List Nat}
    (h : IsLeast {position | Ends encoding s remaining visited first position} count) :
    answer (readDirectories encoding remaining visited first) s =
      (List.range count).mapM fun index =>
        answer (readDirectory encoding (chainFrom encoding s first index)) s := by
  induction remaining generalizing visited first count with
  | zero =>
    obtain rfl : count = 0 := Nat.le_zero.mp (h.2 (.inl rfl))
    rfl
  | succ remaining ih =>
    by_cases hstop : first = 0 ∨ first ∈ visited
    · obtain rfl : count = 0 :=
        Nat.le_zero.mp (h.2 (.inr (hstop.imp_right .inl)))
      rw [readDirectories, if_pos hstop]
      rfl
    · rw [answer_readDirectories_succ remaining hstop]
      cases count with
      | zero =>
        obtain hend | hend | hend | ⟨earlier, hless, _⟩ := h.1
        · cases hend
        · exact absurd (.inl hend) hstop
        · exact absurd (.inr hend) hstop
        · exact absurd hless (Nat.not_lt_zero earlier)
      | succ count =>
        have hrest : IsLeast {position | Ends encoding s remaining (first :: visited)
            (nextOffset encoding s first) position} count :=
          ⟨ends_next.mpr h.1, fun position hends =>
            Nat.le_of_succ_le_succ (h.2 (ends_next.mp hends))⟩
        rw [List.range_succ_eq_map, List.mapM_cons, List.mapM_map]
        change _ = (answer (readDirectory encoding first) s >>= _)
        cases hfirst : answer (readDirectory encoding first) s with
        | error _ => rfl
        | ok directory =>
          have hnext : nextOffset encoding s first = directory.next := by
            rw [nextOffset, hfirst]
          have hwalk := ih hrest
          rw [hnext] at hwalk
          change (answer _ s >>= _) = _
          rw [hwalk]
          simp only [← hnext, chainFrom_next]
          rfl

theorem exists_end (encoding : Encoding) (s : Stream) (remaining first : Nat)
    (visited : List Nat) :
    ∃ count, IsLeast {position | Ends encoding s remaining visited first position} count := by
  classical
  exact ⟨_, Nat.isLeast_find ⟨remaining, .inl rfl⟩⟩

/-- A chain passes through the same offsets in two streams with the same directories there. -/
theorem chainFrom_congr {first count : Nat}
    (h : ∀ index < count,
      answer (readDirectory encoding (chainFrom encoding s first index)) t =
        answer (readDirectory encoding (chainFrom encoding s first index)) s) :
    ∀ index ≤ count, chainFrom encoding t first index = chainFrom encoding s first index := by
  intro index hle
  induction index with
  | zero => rfl
  | succ index ih =>
    rw [chainFrom, ih (Nat.le_of_succ_le hle), nextOffset, h index hle]
    rfl

/-- Up to its end, a walk sees nothing but the directories it reads. -/
theorem answer_readDirectories_congr {remaining first count : Nat} {visited : List Nat}
    (hleast : IsLeast {position | Ends encoding s remaining visited first position} count)
    (h : ∀ index < count,
      answer (readDirectory encoding (chainFrom encoding s first index)) t =
        answer (readDirectory encoding (chainFrom encoding s first index)) s) :
    answer (readDirectories encoding remaining visited first) t =
      answer (readDirectories encoding remaining visited first) s := by
  have hchain := chainFrom_congr h
  have hends {position : Nat} (hle : position ≤ count) :
      Ends encoding t remaining visited first position ↔
        Ends encoding s remaining visited first position := by
    unfold Ends
    rw [hchain position hle]
    refine or_congr_right (or_congr_right (or_congr_right (exists_congr fun earlier => ?_)))
    refine and_congr_right fun hless => ?_
    rw [hchain earlier (Nat.le_trans (Nat.le_of_lt hless) hle)]
  have hleast' : IsLeast {position | Ends encoding t remaining visited first position} count := by
    refine ⟨(hends (Nat.le_refl count)).mpr hleast.1, fun position hend => ?_⟩
    by_contra hless
    have hle := Nat.le_of_not_le hless
    exact hless (hleast.2 ((hends hle).mp hend))
  rw [answer_readDirectories_eq hleast, answer_readDirectories_eq hleast']
  refine mapM_congr fun index hindex => ?_
  have hless := List.mem_range.mp hindex
  rw [hchain index (Nat.le_of_lt hless), h index hless]

/-- Whether the chain of a stream is over at a position: its offset there is zero, or that of an
earlier position, or it has as many directories before as are followed. -/
def Stops (header : Header) (s : Stream) (position : Nat) : Prop :=
  chain header s position = 0 ∨
    (∃ earlier < position, chain header s earlier = chain header s position) ∨
    position = maxDirectories

theorem ends_iff_stops {position : Nat} :
    Ends header.encoding s maxDirectories [] header.firstDirectory position ↔
      Stops header s position := by
  simp only [Ends, Stops, chain, List.not_mem_nil, false_or]
  rw [or_comm, or_assoc]

/-- The directories that a file is opened with are those of the chain up to where it stops. -/
theorem chain_of_open {file : File} (hopen : ofStream s = .ok file) :
    IsLeast {position | Stops file.header s position} file.directories.length ∧
      answer (readDirectories file.header.encoding maxDirectories [] file.header.firstDirectory) s =
        .ok file.directories := by
  have hread := (ofStream_eq_ok.mp hopen).1
  rw [answer_readStructure_eq] at hread
  obtain ⟨header, -, hread⟩ := except_bind_eq_ok.mp hread
  obtain ⟨directories, hdirectories, hread⟩ := except_bind_eq_ok.mp hread
  obtain ⟨rfl, rfl⟩ := Prod.mk.inj (Except.ok.inj hread)
  obtain ⟨count, hleast⟩ :=
    exists_end file.header.encoding s maxDirectories file.header.firstDirectory []
  refine ⟨?_, hdirectories⟩
  have hwalk := mapM_eq_ok.mp ((answer_readDirectories_eq hleast).symm.trans hdirectories)
  have hlength := congrArg List.length hwalk
  rw [List.length_map, List.length_map, List.length_range] at hlength
  simpa only [ends_iff_stops, hlength] using hleast

/-- **The directories of an open file are its chain.** The header of a file that opens is the one at
the front of its stream. From the first offset on, each of its directories is stored in the stream
where the one before it says, as far as to the first position where the offset is zero, or has come
up before, or a hundred directories have been read. That is at least one directory, and no two of
them have the same offset. What the stream has besides does not matter: any other stream with the
same header, and with the same directories in the same places, opens with just these. -/
theorem directories_of_chain {stream : Stream} {file : File} (hopen : ofStream stream = .ok file) :
    answer readHeader stream = .ok file.header ∧
      IsLeast {position | 1 ≤ position ∧ Stops file.header stream position}
        file.directories.length ∧
      1 ≤ file.directories.length ∧ file.directories.length ≤ maxDirectories ∧
      (∀ earlier later, earlier < later → later < file.directories.length →
        chain file.header stream earlier ≠ chain file.header stream later) ∧
      (∀ index directory, file.directories[index]? = some directory →
        directory.Sound file.header.encoding ∧
        stream.Holds (chain file.header stream index)
          (directory.serialize file.header.encoding) ∧
        chain file.header stream (index + 1) = directory.next) ∧
      ∀ other : Stream, answer readHeader other = .ok file.header →
        (∀ index directory, file.directories[index]? = some directory →
          other.Holds (chain file.header stream index)
            (directory.serialize file.header.encoding)) →
        ∃ opened, ofStream other = .ok opened ∧ opened.header = file.header ∧
          opened.directories = file.directories := by
  obtain ⟨hheader, hchain⟩ := header_and_chain hopen
  obtain ⟨hstops, hread⟩ := chain_of_open hopen
  have hpos : 1 ≤ file.directories.length := Nat.zero_lt_of_lt file.current_lt
  refine ⟨hheader, ⟨⟨hpos, hstops.1⟩, fun position h => hstops.2 h.2⟩, hpos,
    hstops.2 (.inr (.inr rfl)), ?_, ?_, ?_⟩
  · intro earlier later hless hlater hsame
    have hle := hstops.2 (.inr (.inl ⟨earlier, hless, hsame⟩))
    omega
  · intro index directory hindex
    have hdirectory := hchain index directory hindex
    obtain ⟨hsound, hholds, _⟩ := answer_readDirectory_eq_ok.mp hdirectory
    refine ⟨hsound, hholds, ?_⟩
    change nextOffset _ _ (chain file.header stream index) = _
    rw [nextOffset, hdirectory]
  · intro other hother hstored
    have hsame : ∀ index < file.directories.length,
        answer (readDirectory file.header.encoding (chain file.header stream index)) other =
          answer (readDirectory file.header.encoding (chain file.header stream index)) stream := by
      intro index hless
      have hindex := List.getElem?_eq_getElem hless
      have hdirectory := hchain index _ hindex
      obtain ⟨hsound, _, hlimit⟩ := answer_readDirectory_eq_ok.mp hdirectory
      rw [hdirectory]
      exact answer_readDirectory_eq_ok.mpr ⟨hsound, hstored index _ hindex, hlimit⟩
    have hleast : IsLeast {position | Ends file.header.encoding stream maxDirectories []
        file.header.firstDirectory position} file.directories.length := by
      simpa only [ends_iff_stops] using hstops
    have hdirectories := answer_readDirectories_congr hleast hsame
    have hstructure : answer readStructure other = .ok (file.header, file.directories) := by
      rw [answer_readStructure_eq, hother]
      change (answer (readDirectories _ _ _ _) other >>= _) = _
      rw [hdirectories, hread]
      rfl
    obtain ⟨_, _, hcurrent, hstrips⟩ := ofStream_eq_ok.mp hopen
    exact ⟨{ file with stream := after readStructure other },
      ofStream_eq_ok.mpr ⟨hstructure, rfl, hcurrent, hstrips⟩, rfl, rfl⟩

/-- Three empty directories, of which the last leads back to the second, and more bytes. -/
def loopingChain : Stream × Array UInt8 :=
  (Stream.ofBytes #[73, 73, 42, 0, 8, 0, 0, 0,
    0, 0, 14, 0, 0, 0,
    0, 0, 20, 0, 0, 0,
    0, 0, 14, 0, 0, 0], #[0, 0, 8, 0, 0, 0])

theorem directories_of_chain_loopingChain :
    ∃ file opened, ofStream loopingChain.1 = .ok file ∧
      file.directories = [⟨[], 14⟩, ⟨[], 20⟩, ⟨[], 14⟩] ∧
      IsLeast {position | 1 ≤ position ∧ Stops file.header loopingChain.1 position} 3 ∧
      ofStream (Stream.ofBytes (loopingChain.1.contents ++ loopingChain.2)) = .ok opened ∧
      opened.directories = file.directories := by
  have hopens : (ofStream loopingChain.1).toOption.any (fun file =>
      file.header = ⟨⟨.little, .classic⟩, 8⟩ ∧
        file.directories = [⟨[], 14⟩, ⟨[], 20⟩, ⟨[], 14⟩]) = true := by
    decide +kernel
  obtain ⟨file, hfile, hread⟩ := (Option.any_eq_true _ _).mp hopens
  have hopen := except_toOption_eq_some.mp hfile
  obtain ⟨hheader, hthree⟩ := of_decide_eq_true hread
  obtain ⟨_, hleast, _, _, _, hstored, hothers⟩ := directories_of_chain hopen
  rw [hthree] at hleast
  have hfront : answer readHeader
      (Stream.ofBytes (loopingChain.1.contents ++ loopingChain.2)) = .ok file.header := by
    rw [hheader]
    decide +kernel
  obtain ⟨opened, hopened, _, hsame⟩ := hothers _ hfront fun index directory hindex => by
    obtain ⟨front, rest, hcontents, hat⟩ := (hstored index directory hindex).2.1
    refine ⟨front, rest ++ loopingChain.2.toList, ?_, hat⟩
    rw [Stream.ofBytes, Array.toList_append, hcontents, List.append_assoc, List.append_assoc]
  exact ⟨file, opened, hopen, hthree, hleast, hopened, hsame⟩

end File

end TiffStrip
