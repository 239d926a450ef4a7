import TiffStrip.Proofs.Source.Lines

/-!
# Scans

The scanlines of a plan are read one after the other into one buffer. A scan follows the buffer and
the source through the first of these reads, plane after plane and row after row, as long as none
fails.
-/

namespace TiffStrip

open ScanlineSource

/-- The raster bytes of what is taken from a scanline: the colors that a map has for its bytes, or
the bytes themselves where there is no map. -/
def drawn (map? : Option Colormap) (input : List UInt8) : List UInt8 :=
  match map? with
  | some map => input.flatMap fun index => map.rgb index.toNat
  | none => input

theorem length_flatMap_range {α : Type} {f : Nat → List α} {size count : Nat}
    (h : ∀ i < count, (f i).length = size) :
    ((List.range count).flatMap f).length = count * size := by
  rw [length_flatMap_of_length fun i hi => h i (List.mem_range.mp hi), List.length_range]

theorem block_flatMap_range {α : Type} {f : Nat → List α} {size count i : Nat}
    (h : ∀ i < count, (f i).length = size) (hi : i < count) :
    (((List.range count).flatMap f).drop (i * size)).take size = f i := by
  induction count with
  | zero => exact absurd hi (Nat.not_lt_zero i)
  | succ count ih =>
    have hbefore : ∀ i < count, (f i).length = size := fun i hi => h i (Nat.lt_succ_of_lt hi)
    have hlength := length_flatMap_range hbefore
    rw [List.range_succ, List.flatMap_append, List.flatMap_singleton]
    rcases Nat.lt_or_eq_of_le (Nat.le_of_lt_succ hi) with hlt | rfl
    · have hfits : i * size + size ≤ count * size :=
        Nat.succ_mul i size ▸ Nat.mul_le_mul_right size hlt
      rw [List.drop_append_of_le_length (by omega),
        List.take_append_of_le_length (by rw [List.length_drop]; omega)]
      exact ih hbefore hlt
    · rw [← hlength, List.drop_left, List.take_of_length_le (Nat.le_of_eq (h i hi))]

theorem length_flatMap_map {α : Type} (f : Nat → Nat → α) (outer inner : Nat) :
    ((List.range outer).flatMap fun i => (List.range inner).map (f i)).length = outer * inner := by
  apply length_flatMap_range
  intro i _
  rw [List.length_map, List.length_range]

/-- A table, written down row after row. -/
theorem getElem?_flatMap_map {α : Type} (f : Nat → Nat → α) {outer inner i j : Nat}
    (hi : i < outer) (hj : j < inner) :
    ((List.range outer).flatMap fun i => (List.range inner).map (f i))[i * inner + j]? =
      some (f i j) := by
  have hlength : ∀ i < outer, ((List.range inner).map (f i)).length = inner := by
    intro i _
    rw [List.length_map, List.length_range]
  rw [← List.getElem?_drop, ← List.getElem?_take_of_lt hj, block_flatMap_range hlength hi,
    List.getElem?_map, List.getElem?_range hj, Option.map_some]

namespace Plan

theorem expand_eq_drawn (plan : Plan) : plan.expand = drawn plan.colormap? :=
  rfl

section

variable {height row : Nat} (sample : Nat)

theorem rowOf_line (h : row < height) : (sample * height + row) % height = row :=
  Nat.mul_add_mod_of_lt h

theorem sampleOf_line (h : row < height) : (sample * height + row) / height = sample := by
  rw [Nat.mul_comm, Nat.mul_add_div (Nat.zero_lt_of_lt h), Nat.div_eq_of_lt h, Nat.add_zero]

theorem exists_line {line samples : Nat} (h : line < samples * height) :
    ∃ sample row, row < height ∧ sample < samples ∧ line = sample * height + row := by
  have hheight : 0 < height := Nat.pos_of_ne_zero fun hzero => by simp [hzero] at h
  refine ⟨line / height, line % height, Nat.mod_lt _ hheight, ?_, ?_⟩
  · exact Nat.div_lt_of_lt_mul (Nat.mul_comm _ _ ▸ h)
  · rw [Nat.mul_comm, Nat.div_add_mod]

end

theorem line_lt {samples sample row height : Nat} (hsample : sample < samples)
    (hrow : row < height) : sample * height + row < samples * height := by
  have hnext := Nat.mul_le_mul_right height hsample
  rw [Nat.succ_mul] at hnext
  omega

variable {σ : Type} [ScanlineSource σ]

/-- The first scanlines of a plan, read one after the other without a failure: the buffer and the
source before each of the reads, and after the last. A line is a row of a sample, and all rows of a
sample come before those of the next. -/
structure Scan (plan : Plan) (start : σ) (count : Nat) where
  buffer : Nat → List UInt8
  source : Nat → σ
  buffer_zero : buffer 0 = List.replicate plan.bufferLength 0
  source_zero : source 0 = start
  read : ∀ line < count,
    readScanline (line % plan.info.height) (line / plan.info.height) (buffer line) (source line) =
      .ok (buffer (line + 1)) (source (line + 1))

namespace Scan

variable {plan : Plan} {start : σ} {count : Nat}

/-- What the scanlines of a scan leave in the raster. -/
def raster (scan : plan.Scan start count) : List UInt8 :=
  (List.range count).flatMap fun line =>
    plan.expand ((scan.buffer (line + 1)).take plan.inputLength)

def none (plan : Plan) (start : σ) : plan.Scan start 0 where
  buffer _ := List.replicate plan.bufferLength 0
  source _ := start
  buffer_zero := rfl
  source_zero := rfl
  read _ hline := absurd hline (Nat.not_lt_zero _)

section

variable (scan : plan.Scan start count) {buffer : List UInt8} {source : σ}
  (h : readScanline (count % plan.info.height) (count / plan.info.height) (scan.buffer count)
    (scan.source count) = .ok buffer source)

def next : plan.Scan start (count + 1) where
  buffer line := if line ≤ count then scan.buffer line else buffer
  source line := if line ≤ count then scan.source line else source
  buffer_zero := scan.buffer_zero
  source_zero := scan.source_zero
  read line hline := by
    rcases Nat.lt_or_eq_of_le (Nat.le_of_lt_succ hline) with hlt | rfl
    · have hle : line + 1 ≤ count := hlt
      simpa only [if_pos (Nat.le_of_lt hlt), if_pos hle] using scan.read line hlt
    · simpa only [if_pos (Nat.le_refl _), if_neg (Nat.not_succ_le_self _)] using h

theorem buffer_next : (scan.next h).buffer (count + 1) = buffer :=
  if_neg (Nat.not_succ_le_self count)

theorem source_next : (scan.next h).source (count + 1) = source :=
  if_neg (Nat.not_succ_le_self count)

theorem raster_next :
    (scan.next h).raster = scan.raster ++ plan.expand (buffer.take plan.inputLength) := by
  rw [raster, List.range_succ, List.flatMap_append, List.flatMap_singleton, buffer_next, raster]
  refine congrArg (· ++ _) (congrArg List.flatten (List.map_congr_left fun line hline => ?_))
  have hle : line + 1 ≤ count := List.mem_range.mp hline
  simp only [next, if_pos hle]

end

theorem keeps {P : σ → Prop} (h : Reads fun s t : σ => s = t ∧ P s) (hstart : P start)
    (scan : plan.Scan start count) {line : Nat} (hline : line ≤ count) : P (scan.source line) := by
  induction line with
  | zero => rwa [scan.source_zero]
  | succ line ih =>
    rw [← after_of_ok (scan.read line hline)]
    exact simulates_self_iff.mp (h.readScanline _ _ _) _ (ih (Nat.le_of_succ_le hline))

/-- The buffer never changes its length. -/
def Even (scan : plan.Scan start count) : Prop :=
  ∀ line ≤ count, (scan.buffer line).length = plan.bufferLength

theorem even_of_keeps [KeepsBuffers σ] (scan : plan.Scan start count) : scan.Even := by
  intro line h
  induction line with
  | zero => rw [scan.buffer_zero, List.length_replicate]
  | succ line ih =>
    rw [KeepsBuffers.length_readScanline _ _ _ _ _ _ (scan.read line h)]
    exact ih (Nat.le_of_succ_le h)

theorem length_block (hplan : plan.Coherent) {scan : plan.Scan start count} (heven : scan.Even)
    {line : Nat} (h : line < count) :
    (plan.expand ((scan.buffer (line + 1)).take plan.inputLength)).length =
      plan.inputLength * plan.form.expansion := by
  rw [length_expand hplan, List.length_take, heven _ h, bufferLength,
    Nat.min_eq_left (Nat.le_max_right _ _)]

theorem length_raster (hplan : plan.Coherent) {scan : plan.Scan start count} (heven : scan.Even) :
    scan.raster.length = count * (plan.inputLength * plan.form.expansion) :=
  length_flatMap_range fun _ hline => length_block hplan heven hline

/-- A scanline lies behind those that were read before it. -/
theorem block_raster (hplan : plan.Coherent) {scan : plan.Scan start count} (heven : scan.Even)
    {line : Nat} (h : line < count) :
    (scan.raster.drop (line * (plan.inputLength * plan.form.expansion))).take
        (plan.inputLength * plan.form.expansion) =
      plan.expand ((scan.buffer (line + 1)).take plan.inputLength) :=
  block_flatMap_range (fun _ hline => length_block hplan heven hline) h

end Scan

/-- A scan up to the first scanline that cannot be read, the cause, and what is left of the
source. -/
structure Stopped (plan : Plan) (start : σ) (row sample : Nat) (cause : FormatError)
    (left : σ) where
  scan : plan.Scan start (sample * plan.info.height + row)
  row_lt : row < plan.info.height
  sample_lt : sample < plan.form.planes plan.info
  fails : readScanline row sample (scan.buffer (sample * plan.info.height + row))
    (scan.source (sample * plan.info.height + row)) = .error cause left

/-- Reading the rest of the scanlines goes on with a scan up to the last, or up to the first that
cannot be read. -/
theorem readLines_eq {plan : Plan} {start : σ} {count remaining : Nat}
    (scan : plan.Scan start count) (hcount : count + remaining = plan.lines)
    (raster : Array UInt8) (hraster : raster.toList = scan.raster) :
    let read := plan.readLines remaining (scan.buffer count) raster (scan.source count)
    (∃ whole : plan.Scan start plan.lines, read.2.1 = .complete ∧
      read.1.toList = whole.raster ∧ read.2.2 = whole.source plan.lines) ∨
    ∃ row sample cause, ∃ stopped : plan.Stopped start row sample cause read.2.2,
      read.2.1 = .aborted row sample cause ∧ read.1.toList = stopped.scan.raster := by
  induction remaining generalizing count raster with
  | zero =>
    obtain rfl : count = plan.lines := hcount
    exact .inl ⟨scan, rfl, hraster, rfl⟩
  | succ remaining ih =>
    have hline : plan.lines - (remaining + 1) = count := by omega
    have hstep := plan.readLines_succ remaining (scan.buffer count) raster (scan.source count)
    simp only [hline] at hstep
    rw [hstep]
    cases hread : readScanline (count % plan.info.height) (count / plan.info.height)
      (scan.buffer count) (scan.source count) with
    | ok buffer source =>
      have hnext := ih (scan.next hread) (by omega)
        (raster ++ plan.expand (buffer.take plan.inputLength))
        (by rw [Array.toList_appendList, hraster, Scan.raster_next])
      rw [Scan.buffer_next, Scan.source_next] at hnext
      rw [answer_of_ok hread, after_of_ok hread]
      exact hnext
    | error cause source =>
      have hlt : count < plan.form.planes plan.info * plan.info.height := by
        change count < plan.lines
        omega
      obtain ⟨sample, row, hrow, hsample, rfl⟩ := exists_line hlt
      rw [rowOf_line sample hrow, sampleOf_line sample hrow] at hread ⊢
      rw [answer_of_error hread, after_of_error hread]
      exact .inr ⟨row, sample, cause, ⟨scan, hrow, hsample, hread⟩, rfl, hraster⟩

/-- A plan without scanlines has no use for a buffer, so it may as well be given one. -/
theorem readRaster_eq (plan : Plan) (s : σ) :
    plan.readRaster s =
      plan.readLines plan.lines (List.replicate plan.bufferLength 0) #[] s := by
  unfold readRaster
  by_cases h : plan.lines = 0
  · simp only [h, readLines]
  · simp only [if_neg h]

end Plan

theorem toList_overlay (bytes raster : Array UInt8) :
    (bytes ++ raster.extract bytes.size raster.size).toList =
      overwrite bytes.toList raster.toList := by
  have hlength : (raster.toList.drop bytes.size).length = raster.size - bytes.size := by
    rw [List.length_drop, Array.length_toList]
  rw [Array.toList_append, Array.toList_extract, List.extract_eq_take_drop, overwrite,
    Array.length_toList, List.take_of_length_le (Nat.le_of_eq hlength)]

variable {σ : Type} [ScanlineSource σ]

theorem decodeInto_eq_error {index? : Option Nat} {raster : Array UInt8} {s : σ}
    {error : DecodeError} :
    (decodeInto index? raster s).result = .error error ↔
      answer (Plan.read index? raster.size) s = .error error := by
  rw [decodeInto_eq]
  cases answer (Plan.read index? raster.size) s with
  | error cause => simp only [Except.error.injEq]
  | ok plan => exact iff_of_false nofun nofun

theorem decodeInto_refused {index? : Option Nat} {raster : Array UInt8} {s : σ}
    {error : DecodeError} (h : (decodeInto index? raster s).result = .error error) :
    (decodeInto index? raster s).raster = raster ∧
      (decodeInto index? raster s).source = after (Plan.read index? raster.size) s := by
  unfold decodeInto at h ⊢
  unfold after
  cases hplan : Plan.read index? raster.size s with
  | error _ _ => exact ⟨rfl, rfl⟩
  | ok plan planned =>
    simp only [hplan] at h
    cases h

theorem planned_of_decoded {index? : Option Nat} {raster : Array UInt8} {s : σ}
    {outcome : Outcome} (h : (decodeInto index? raster s).result = .ok outcome) :
    ∃ plan planned, Plan.read index? raster.size s = .ok plan planned := by
  unfold decodeInto at h
  cases hplan : Plan.read index? raster.size s with
  | ok plan planned => exact ⟨plan, planned, rfl⟩
  | error _ _ =>
    simp only [hplan] at h
    cases h

/-- A decode that has been planned scans all scanlines, or stops at one that cannot be read. What
was scanned lies over the front of the raster. -/
theorem decodeInto_planned {index? : Option Nat} {raster : Array UInt8} {plan : Plan}
    {s planned : σ} (h : Plan.read index? raster.size s = .ok plan planned) :
    let decoded := decodeInto index? raster s
    (∃ whole : plan.Scan planned plan.lines,
      decoded.result = .ok {
        info := { plan.info with damaged := false }
        status := .complete
        written := whole.raster.length } ∧
      decoded.raster.toList = overwrite whole.raster raster.toList ∧
      decoded.source = whole.source plan.lines) ∨
    ∃ row sample cause, ∃ stopped : plan.Stopped planned row sample cause decoded.source,
      decoded.result = .ok {
        info := { plan.info with damaged := true }
        status := .aborted row sample cause
        written := stopped.scan.raster.length } ∧
      decoded.raster.toList = overwrite stopped.scan.raster raster.toList := by
  have hdecoded : decodeInto index? raster s =
      .ofRead plan raster (plan.readLines plan.lines (List.replicate plan.bufferLength 0) #[]
        planned) := by
    simp only [decodeInto_eq, answer_of_ok h, after_of_ok h, Plan.readRaster_eq]
  have hread := Plan.readLines_eq (.none plan planned) (Nat.zero_add _) #[] rfl
  rw [Plan.Scan.buffer_zero, Plan.Scan.source_zero] at hread
  rw [hdecoded]
  generalize plan.readLines plan.lines _ #[] planned = outcome at hread ⊢
  obtain ⟨bytes, status, left⟩ := outcome
  obtain ⟨whole, rfl, hbytes, hleft⟩ | ⟨row, sample, cause, stopped, rfl, hbytes⟩ := hread
  · refine .inl ⟨whole, ?_, ?_, hleft⟩
    · simp only [Decoded.ofRead, ← hbytes, Array.length_toList]
      rfl
    · rw [← hbytes]
      exact toList_overlay bytes raster
  · refine .inr ⟨row, sample, cause, stopped, ?_, ?_⟩
    · simp only [Decoded.ofRead, ← hbytes, Array.length_toList]
      rfl
    · rw [← hbytes]
      exact toList_overlay bytes raster

/-- The scan cannot go on: it has read the last scanline, or the next cannot be read. -/
def Plan.Scan.Ends {plan : Plan} {start : σ} {count : Nat} (scan : plan.Scan start count) : Prop :=
  count = plan.lines ∨ count < plan.lines ∧ ∃ cause left,
    readScanline (count % plan.info.height) (count / plan.info.height) (scan.buffer count)
      (scan.source count) = .error cause left

theorem Plan.Scan.Ends.le {plan : Plan} {start : σ} {count : Nat} {scan : plan.Scan start count}
    (h : scan.Ends) : count ≤ plan.lines := by
  obtain hlast | ⟨hless, _⟩ := h
  · exact Nat.le_of_eq hlast
  · exact Nat.le_of_lt hless

structure Plan.Scan.Yields {plan : Plan} {start : σ} {count : Nat} (scan : plan.Scan start count)
    (before : Array UInt8) (outcome : Outcome) (raster : Array UInt8) : Prop where
  ends : scan.Ends
  complete : outcome.status = .complete ↔ count = plan.lines
  info : outcome.info = { plan.info with damaged := outcome.status ≠ .complete }
  written : outcome.written = scan.raster.length
  raster : raster.toList = overwrite scan.raster before.toList

theorem exists_scan {index? : Option Nat} {raster : Array UInt8} {plan : Plan} {s planned : σ}
    (h : Plan.read index? raster.size s = .ok plan planned) :
    ∃ outcome, (decodeInto index? raster s).result = .ok outcome ∧
      ∃ count, ∃ scan : plan.Scan planned count,
        scan.Yields raster outcome (decodeInto index? raster s).raster := by
  obtain ⟨whole, hresult, hraster, _⟩ | ⟨row, sample, cause, stopped, hresult, hraster⟩ :=
    decodeInto_planned h
  · exact ⟨_, hresult, plan.lines, whole, .inl rfl, by simp, rfl, rfl, hraster⟩
  · have hline := Plan.line_lt stopped.sample_lt stopped.row_lt
    refine ⟨_, hresult, _, stopped.scan,
      .inr ⟨hline, cause, (decodeInto index? raster s).source, ?_⟩, ?_, rfl, rfl, hraster⟩
    · rw [Plan.rowOf_line sample stopped.row_lt, Plan.sampleOf_line sample stopped.row_lt]
      exact stopped.fails
    · exact ⟨fun hcomplete => (nomatch hcomplete), fun hlast => absurd hlast (Nat.ne_of_lt hline)⟩

theorem scan_of_decoded {index? : Option Nat} {raster : Array UInt8} {s : σ} {outcome : Outcome}
    (h : (decodeInto index? raster s).result = .ok outcome) :
    ∃ plan planned count, ∃ scan : plan.Scan planned count,
      Plan.read index? raster.size s = .ok plan planned ∧
        scan.Yields raster outcome (decodeInto index? raster s).raster := by
  obtain ⟨plan, planned, hplan⟩ := planned_of_decoded h
  obtain ⟨_, hresult, count, scan, hyields⟩ := exists_scan hplan
  obtain rfl := Except.ok.inj (h.symm.trans hresult)
  exact ⟨plan, planned, count, scan, hplan, hyields⟩

end TiffStrip
