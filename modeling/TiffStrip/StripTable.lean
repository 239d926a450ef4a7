import TiffStrip.Error
import TiffStrip.Photometric

namespace TiffStrip

/-- The quotient, rounded up. -/
def ceilDiv (a b : Nat) : Nat :=
  (a + b - 1) / b

theorem ceilDiv_le_iff {a b c : Nat} (hb : 0 < b) : ceilDiv a b ≤ c ↔ a ≤ c * b := by
  rw [ceilDiv, Nat.div_le_iff_le_mul_add_pred hb, Nat.mul_comm b c]
  omega

theorem le_ceilDiv_mul (a : Nat) {b : Nat} (hb : 0 < b) : a ≤ ceilDiv a b * b :=
  (ceilDiv_le_iff hb).mp (Nat.le_refl _)

/-- How many samples of a pixel one scanline holds. -/
def samplesPerScanline : Planar → (samples : Nat) → Nat
  | .contiguous, samples => samples
  | .separate, _ => 1

/-- Bytes of one scanline; its last byte may be partly used. -/
def scanlineBytes (width bits samples : Nat) (planar : Planar) : Nat :=
  ceilDiv (width * samplesPerScanline planar samples * bits) 8

structure StripTable where
  height : Nat
  samples : Nat
  planar : Planar
  /-- At least one. -/
  rowsPerStrip : Nat
  scanlineSize : Nat
  /-- The offset of each strip. -/
  offsets : Array Nat
  /-- The size of each strip, where the file states it. -/
  byteCounts? : Option (Array Nat)
  deriving DecidableEq, Repr

namespace StripTable

def stripsPerPlane (table : StripTable) : Nat :=
  ceilDiv table.height table.rowsPerStrip

/-- Planes with strips of their own. -/
def planes (table : StripTable) : Nat :=
  match table.planar with
  | .contiguous => 1
  | .separate => table.samples

def planeOf (table : StripTable) (sample : Nat) : Nat :=
  match table.planar with
  | .contiguous => 0
  | .separate => sample

/-- The strip that holds a row of a sample. -/
def stripOf (table : StripTable) (row sample : Nat) : Nat :=
  table.planeOf sample * table.stripsPerPlane + row / table.rowsPerStrip

/-- Bytes of a strip before a row. -/
def bytesBefore (table : StripTable) (row : Nat) : Nat :=
  row % table.rowsPerStrip * table.scanlineSize

/-- Whether the image has a row of a sample. -/
def contains (table : StripTable) (row sample : Nat) : Bool :=
  row < table.height && (table.planar = .contiguous || sample < table.samples)

def byteCount? (table : StripTable) (strip : Nat) : Option Nat := do
  (← table.byteCounts?)[strip]?

/-- The offset of a scanline. The bytes before its row are counted exactly here; a program that counts
them in 64 bits goes wrong for the rows of a header that claims strips of 2^64 bytes and more. -/
def locate (table : StripTable) (row sample : Nat) : Except FormatError Nat := do
  if !table.contains row sample then
    throw (.scanlineOutOfRange row sample table.height table.samples)
  let strip := table.stripOf row sample
  let before := table.bytesBefore row
  let some start := table.offsets[strip]?
    | throw (.invalidValue (.tag .stripOffsets) (.noStrip strip))
  if let some held := table.byteCount? strip then
    let needed := before + table.scanlineSize
    if held < needed then
      throw (.invalidValue (.tag .stripByteCounts) (.shortStrip strip held row needed))
  match Address.add? start before with
  | some offset => return offset
  | none => throw (.invalidValue (.tag .stripOffsets) (.stripOverflow strip))

theorem offset_eq_ok {start before offset : Nat} {error : FormatError} :
    (match Address.add? start before with
      | some offset => pure offset
      | none => throw error : Except FormatError Nat) = .ok offset ↔
      start + before = offset ∧ offset < Address.limit := by
  rw [← Address.add?_eq_some]
  cases Address.add? start before <;> simp [throw, throwThe, MonadExceptOf.throw, pure, Except.pure]

theorem locate_eq_ok {table : StripTable} {row sample offset : Nat} :
    table.locate row sample = .ok offset ↔
      table.contains row sample = true ∧ ∃ start,
        table.offsets[table.stripOf row sample]? = some start ∧
        (∀ held, table.byteCount? (table.stripOf row sample) = some held →
          table.bytesBefore row + table.scanlineSize ≤ held) ∧
        start + table.bytesBefore row = offset ∧ offset < Address.limit := by
  unfold locate
  cases hcontains : table.contains row sample with
  | false => simp [throw, throwThe, MonadExceptOf.throw, bind, Except.bind]
  | true =>
    simp only [Bool.not_true, Bool.false_eq_true, if_false, true_and]
    cases hoffset : table.offsets[table.stripOf row sample]? with
    | none => simp [throw, throwThe, MonadExceptOf.throw]
    | some start =>
      simp only [Option.some.injEq, exists_eq_left']
      cases hheld : table.byteCount? (table.stripOf row sample) with
      | none =>
        simp only [reduceCtorEq, false_implies, implies_true, true_and]
        exact offset_eq_ok
      | some held =>
        simp only [Option.some.injEq, forall_eq']
        by_cases hshort : held < table.bytesBefore row + table.scanlineSize
        · rw [if_pos hshort]
          simp [throw, throwThe, MonadExceptOf.throw, bind, Except.bind]
          omega
        · rw [if_neg hshort]
          simp only [Nat.not_lt.mp hshort, true_and]
          exact offset_eq_ok

end StripTable

end TiffStrip
