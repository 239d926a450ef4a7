import TiffStrip.Proofs.Decode.Scan

namespace TiffStrip

open ScanlineSource FieldSource

/-- A source and the scanlines it has been asked for, the sample and the row of each. -/
structure Watched (σ : Type) where
  source : σ
  asked : List (Nat × Nat)

namespace Watched

variable {ε σ α : Type}

/-- Something done on the source. -/
def through (act : EStateM ε σ α) : EStateM ε (Watched σ) α := fun watched =>
  match act watched.source with
  | .ok a source => .ok a { watched with source }
  | .error error source => .error error { watched with source }

@[simp] theorem answer_through (act : EStateM ε σ α) (watched : Watched σ) :
    answer (through act) watched = answer act watched.source := by
  unfold answer through
  cases act watched.source <;> rfl

@[simp] theorem after_through (act : EStateM ε σ α) (watched : Watched σ) :
    after (through act) watched = { watched with source := after act watched.source } := by
  unfold after through
  cases act watched.source <;> rfl

theorem simulates_through (act : EStateM ε σ α) :
    Simulates (fun s (watched : Watched σ) => watched.source = s) act (through act) := by
  rintro _ watched rfl
  rw [answer_through, after_through]
  exact ⟨rfl, rfl⟩

def note (row sample : Nat) (watched : Watched σ) : Watched σ :=
  { watched with asked := watched.asked ++ [(sample, row)] }

variable [ScanlineSource σ]

instance : FieldSource (Watched σ) := ⟨fun tag => through (field tag)⟩

instance : ScanlineSource (Watched σ) where
  name watched := name watched.source
  imageCount watched := imageCount watched.source
  current watched := current watched.source
  dataSize? watched := dataSize? watched.source
  select index := through (select index)
  scanlineSize := through scanlineSize
  readScanline row sample buffer := fun watched =>
    through (readScanline row sample buffer) (watched.note row sample)

/-- A watched source serves as the source itself does. -/
theorem serves_source : Serves fun (s : σ) (watched : Watched σ) => watched.source = s where
  name _ _ h := congrArg name h.symm
  imageCount _ _ h := congrArg imageCount h.symm
  dataSize _ _ h := congrArg dataSize? h.symm
  field tag := simulates_through (field tag)
  scanlineSize := simulates_through scanlineSize
  current _ _ h := congrArg current h.symm
  select index := simulates_through (select index)
  readScanline row sample buffer s watched h :=
    simulates_through (readScanline row sample buffer) s (watched.note row sample) h

/-- Whatever else a source is asked for, no scanline is. -/
theorem selects_asked (asked : List (Nat × Nat)) :
    Selects fun w w' : Watched σ => w = w' ∧ w.asked = asked := by
  have keeps {ε α : Type} (act : EStateM ε σ α) :
      Simulates (fun w w' : Watched σ => w = w' ∧ w.asked = asked) (through act) (through act) := by
    apply simulates_self_iff.mpr
    intro w hw
    rw [after_through]
    exact hw
  exact {
    name := fun _ _ h => congrArg name h.1
    imageCount := fun _ _ h => congrArg imageCount h.1
    dataSize := fun _ _ h => congrArg dataSize? h.1
    field := fun tag => keeps (field tag)
    scanlineSize := keeps scanlineSize
    current := fun _ _ h => congrArg current h.1
    select := fun index => keeps (select index) }

theorem asked_after_readScanline (row sample : Nat) (buffer : List UInt8) (watched : Watched σ) :
    (after (readScanline row sample buffer) watched).asked = watched.asked ++ [(sample, row)] := by
  change (after (through (readScanline row sample buffer)) (watched.note row sample)).asked = _
  rw [after_through]
  rfl

end Watched

namespace Plan

/-- The first scanlines of a plan, in the order of a scan: the sample and the row of each. -/
def order (plan : Plan) (count : Nat) : List (Nat × Nat) :=
  (List.range count).map fun line => (line / plan.info.height, line % plan.info.height)

theorem order_succ (plan : Plan) (count : Nat) :
    plan.order (count + 1) =
      plan.order count ++ [(count / plan.info.height, count % plan.info.height)] := by
  rw [order, List.range_succ, List.map_append, List.map_singleton, order]

variable {σ : Type} [ScanlineSource σ] {plan : Plan} {start : Watched σ}

/-- A scan asks for its scanlines in order, and for nothing else. -/
theorem Scan.asked {count : Nat} (scan : plan.Scan start count) {line : Nat} (h : line ≤ count) :
    (scan.source line).asked = start.asked ++ plan.order line := by
  induction line with
  | zero => rw [scan.source_zero, order, List.range_zero, List.map_nil, List.append_nil]
  | succ line ih =>
    have hread := Watched.asked_after_readScanline (line % plan.info.height)
      (line / plan.info.height) (scan.buffer line) (scan.source line)
    rw [after_of_ok (scan.read line h)] at hread
    rw [hread, ih (Nat.le_of_succ_le h), order_succ, List.append_assoc]

/-- A scan that stops has also asked for the scanline that could not be read. -/
theorem Stopped.asked {row sample : Nat} {cause : FormatError} {left : Watched σ}
    (stopped : plan.Stopped start row sample cause left) :
    left.asked = start.asked ++ plan.order (sample * plan.info.height + row + 1) := by
  have hread := Watched.asked_after_readScanline row sample
    (stopped.scan.buffer (sample * plan.info.height + row))
    (stopped.scan.source (sample * plan.info.height + row))
  rw [after_of_error stopped.fails] at hread
  rw [hread, stopped.scan.asked (Nat.le_refl _), order_succ, List.append_assoc,
    rowOf_line sample stopped.row_lt, sampleOf_line sample stopped.row_lt]

end Plan

end TiffStrip
