import TiffStrip.Program.Command
import TiffStrip.Proofs.Program.Path
import TiffStrip.Proofs.Simulation

/-!
# Whole files

What a run relies on of a file system: that files are read and written as a whole. Where paths lead is
up to the file system. Links, and paths from the root or through other directories, may lead to one
file; what is said of a run is said of the file and not of the path.
-/

namespace TiffStrip

/-- What there is to see of the files of a system in its states. -/
structure FileView (σ Place : Type) where
  /-- The place that a path leads to, where there is a file or can be one. -/
  place? (s : σ) (path : String) : Option Place
  /-- What the file at a place holds. -/
  held? (s : σ) (place : Place) : Option (Array UInt8)

variable {σ Place : Type}

namespace FileView

variable (view : FileView σ Place)

/-- No file is created, removed or changed, and all paths lead where they did. -/
structure Unchanged (s t : σ) : Prop where
  place?_eq : view.place? t = view.place? s
  held?_eq : view.held? t = view.held? s

/-- One place holds a file of certain bytes. All other files are as before, and all paths lead where
they did. -/
structure Replaced (s t : σ) (place : Place) (bytes : Array UInt8) : Prop where
  place?_eq : view.place? t = view.place? s
  held?_eq : view.held? t place = some bytes
  others : ∀ other ≠ place, view.held? t other = view.held? s other

/-- Slashes and dots that lead nowhere make no difference to where a path leads, though there may be
too many of them for it to lead anywhere. -/
def IgnoresDots : Prop :=
  ∀ s a b p q, Path.Respelled a b → view.place? s a = some p → view.place? s b = some q → p = q

theorem Unchanged.refl (s : σ) : view.Unchanged s s :=
  ⟨rfl, rfl⟩

end FileView

namespace FileSystem

/-- A file system that reads and writes files as a whole. -/
structure Whole (system : FileSystem (StateM σ)) (png : Picture → Array UInt8)
    (view : FileView σ Place) : Prop where
  size_keeps : ∀ s path, ((system.size path).run s).2 = s
  read_keeps : ∀ s path, ((system.read path).run s).2 = s
  /-- What is read of a file is all that it holds. -/
  read_all : ∀ s path bytes, ((system.read path).run s).1 = .ok bytes →
    ∃ place, view.place? s path = some place ∧ view.held? s place = some bytes
  /-- The size of a file that can be read is how much is read. -/
  size_all : ∀ s path bytes, ((system.read path).run s).1 = .ok bytes →
    ((system.size path).run s).1 = .ok bytes.size
  /-- A file that is written holds what it is to hold. -/
  write_all : ∀ s path content, ((system.write path content).run s).1 = .ok () →
    ∃ place, view.place? s path = some place ∧
      view.Replaced s ((system.write path content).run s).2 place (content.bytes png)
  /-- A write that fails changes nothing. -/
  write_none : ∀ s path content error, ((system.write path content).run s).1 = .error error →
    view.Unchanged s ((system.write path content).run s).2

/-- A path leads to a file of at most so many bytes, and they can be opened. -/
def Opens (system : FileSystem (StateM σ)) (s : σ) (path : String) (limit : Nat) (file : File) :
    Prop :=
  ∃ bytes, ((system.read path).run s).1 = .ok bytes ∧ bytes.size ≤ limit ∧
    File.ofBytes (Path.displayName path) bytes = .ok file

def input (system : FileSystem (StateM σ)) (s : σ) (path : String) (limit : Nat) :
    Except Stop (Array UInt8) :=
  ((readInput system path limit).run s).1

end FileSystem

theorem run_bind {α β : Type} {act : StateM σ α} {next : α → StateM σ β} {s t : σ} {a : α}
    (h : act.run s = (a, t)) : (act >>= next).run s = (next a).run t := by
  rw [StateT.run_bind, h]
  rfl

namespace FileSystem.Whole

variable {system : FileSystem (StateM σ)} {png : Picture → Array UInt8} {view : FileView σ Place}
  (h : system.Whole png view)

include h

theorem run_size (s : σ) (path : String) :
    (system.size path).run s = (((system.size path).run s).1, s) :=
  Prod.ext rfl (h.size_keeps s path)

theorem run_read (s : σ) (path : String) :
    (system.read path).run s = (((system.read path).run s).1, s) :=
  Prod.ext rfl (h.read_keeps s path)

/-- To read an input changes nothing. -/
theorem run_readInput (s : σ) (path : String) (limit : Nat) :
    (readInput system path limit).run s = (system.input s path limit, s) := by
  refine Prod.ext rfl ?_
  unfold readInput
  rw [run_bind (h.run_size s path)]
  cases ((system.size path).run s).1 with
  | error error => rfl
  | ok size =>
    dsimp only
    by_cases hlimit : limit < size
    · rw [if_pos hlimit]
      rfl
    · rw [if_neg hlimit, run_bind (h.run_read s path)]
      cases ((system.read path).run s).1 <;> rfl

/-- An input is read just when its file can be and is not too large. -/
theorem input_eq_ok {s : σ} {path : String} {limit : Nat} {bytes : Array UInt8} :
    system.input s path limit = .ok bytes ↔
      ((system.read path).run s).1 = .ok bytes ∧ bytes.size ≤ limit := by
  unfold FileSystem.input readInput
  rw [run_bind (h.run_size s path)]
  cases hread : ((system.read path).run s).1 with
  | error error =>
    constructor
    · intro hinput
      cases hsize : ((system.size path).run s).1 with
      | error failure =>
        rw [hsize] at hinput
        cases hinput
      | ok size =>
        rw [hsize] at hinput
        dsimp only at hinput
        by_cases hlimit : limit < size
        · rw [if_pos hlimit] at hinput
          cases hinput
        · rw [if_neg hlimit, run_bind (h.run_read s path), hread] at hinput
          cases hinput
    · rintro ⟨⟨⟩, _⟩
  | ok contents =>
    rw [h.size_all s path contents hread]
    dsimp only
    by_cases hlimit : limit < contents.size
    · rw [if_pos hlimit]
      constructor
      · rintro ⟨⟩
      · rintro ⟨⟨⟩, hsize⟩
        omega
    · rw [if_neg hlimit, run_bind (h.run_read s path), hread]
      constructor
      · rintro ⟨⟩
        exact ⟨rfl, Nat.le_of_not_lt hlimit⟩
      · rintro ⟨⟨⟩, _⟩
        rfl

end FileSystem.Whole

end TiffStrip
