import TiffStrip.Proofs.File.Continued
import TiffStrip.Proofs.File.Lines

namespace TiffStrip.File

/-- The offset that the directory at an offset has for the next one; zero if no directory can be read
there. -/
def nextOffset (encoding : Encoding) (s : Stream) (offset : Nat) : Nat :=
  match answer (readDirectory encoding offset) s with
  | .ok directory => directory.next
  | .error _ => 0

/-- The offsets of a chain, from the first on. -/
def chainFrom (encoding : Encoding) (s : Stream) (first : Nat) : Nat → Nat
  | 0 => first
  | index + 1 => nextOffset encoding s (chainFrom encoding s first index)

/-- The offset of a directory in the chain of a stream, as its header begins it. -/
def chain (header : Header) (s : Stream) : Nat → Nat :=
  chainFrom header.encoding s header.firstDirectory

variable {encoding : Encoding} {s : Stream}

/-- A chain goes on from its second directory as it would if it began there. -/
theorem chainFrom_next (first index : Nat) :
    chainFrom encoding s (nextOffset encoding s first) index =
      chainFrom encoding s first (index + 1) := by
  induction index with
  | zero => rfl
  | succ index ih => rw [chainFrom, ih, ← chainFrom]

/-- The directories that are read are the first of the chain. -/
theorem answer_readDirectory_of_readDirectories {remaining offset : Nat} {visited : List Nat}
    {directories : List Directory}
    (h : answer (readDirectories encoding remaining visited offset) s = .ok directories)
    {index : Nat} {directory : Directory} (hindex : directories[index]? = some directory) :
    answer (readDirectory encoding (chainFrom encoding s offset index)) s = .ok directory := by
  induction remaining generalizing visited offset directories index with
  | zero =>
    cases h
    cases hindex
  | succ remaining ih =>
    by_cases hstop : offset = 0 ∨ offset ∈ visited
    · rw [readDirectories, if_pos hstop] at h
      cases h
      cases hindex
    · rw [answer_readDirectories_succ remaining hstop s] at h
      obtain ⟨first, hfirst, h⟩ := except_bind_eq_ok.mp h
      obtain ⟨rest, hrest, h⟩ := except_bind_eq_ok.mp h
      cases h
      cases index with
      | zero =>
        obtain rfl : first = directory := Option.some.inj hindex
        exact hfirst
      | succ index =>
        have hnext : nextOffset encoding s offset = first.next := by
          rw [nextOffset, hfirst]
        rw [← chainFrom_next, hnext]
        exact ih hrest hindex

/-- What is known of a file that opens: its header is the one that its stream begins with, and its
directories are the first of the chain. -/
theorem header_and_chain {file : File} (hopen : ofStream s = .ok file) :
    answer readHeader s = .ok file.header ∧
      ∀ index directory, file.directories[index]? = some directory →
        answer (readDirectory file.header.encoding (chain file.header s index)) s = .ok directory := by
  have hread := (ofStream_eq_ok.mp hopen).1
  rw [answer_readStructure_eq] at hread
  obtain ⟨header, hheader, hread⟩ := except_bind_eq_ok.mp hread
  obtain ⟨directories, hdirectories, hread⟩ := except_bind_eq_ok.mp hread
  obtain ⟨rfl, rfl⟩ := Prod.mk.inj (Except.ok.inj hread)
  exact ⟨hheader, fun index directory hindex =>
    answer_readDirectory_of_readDirectories hdirectories hindex⟩

end TiffStrip.File
