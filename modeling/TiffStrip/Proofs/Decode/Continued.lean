import TiffStrip.Proofs.Decode.Scan

namespace TiffStrip

open ScanlineSource

/-- A decode that has laid down what another has, and perhaps more. -/
structure GoesOn (first : Outcome) (raster : Array UInt8) (second : Outcome)
    (other : Array UInt8) : Prop where
  info : second.info = { first.info with damaged := second.info.damaged }
  written : first.written ≤ second.written
  drawn : raster.toList.take first.written <+: other.toList.take second.written
  complete : first.status = .complete → second = first ∧ other = raster

variable {σ τ : Type} [ScanlineSource σ] [ScanlineSource τ] {R : σ → τ → Prop} {strict : Prop}

namespace Plan.Scan

variable {plan : Plan} {start : σ} {start' : τ} {count count' : Nat}

/-- After every scanline that both have read, two scans have the same buffer. -/
theorem alike (hread : ∀ row sample buffer,
      Agrees strict R (readScanline row sample buffer) (readScanline row sample buffer))
    (hstart : R start start') (scan : plan.Scan start count) (other : plan.Scan start' count')
    {line : Nat} (h : line ≤ count) (h' : line ≤ count') :
    scan.buffer line = other.buffer line ∧ R (scan.source line) (other.source line) := by
  induction line with
  | zero =>
    rw [scan.buffer_zero, other.buffer_zero, scan.source_zero, other.source_zero]
    exact ⟨rfl, hstart⟩
  | succ line ih =>
    obtain ⟨hbuffer, hsource⟩ := ih (Nat.le_of_succ_le h) (Nat.le_of_succ_le h')
    have hfirst := scan.read line h
    have hsecond := other.read line h'
    rw [← hbuffer] at hsecond
    obtain ⟨hanswer, hafter⟩ := hread _ _ _ _ _ hsource (.inr ⟨_, answer_of_ok hfirst⟩)
    rw [answer_of_ok hfirst, answer_of_ok hsecond] at hanswer
    rw [after_of_ok hfirst, after_of_ok hsecond] at hafter
    exact ⟨Except.ok.inj hanswer, hafter⟩

/-- A scan that cannot go on is not shorter than one whose scanlines it reads as well. -/
theorem le_of_agrees (hread : ∀ row sample buffer,
      Agrees strict R (readScanline row sample buffer) (readScanline row sample buffer))
    (hstart : R start start') (scan : plan.Scan start count) (hcount : count ≤ plan.lines)
    (other : plan.Scan start' count') (hends : other.Ends) : count ≤ count' := by
  apply Nat.le_of_not_lt
  intro hshorter
  obtain hlast | ⟨_, cause, left, hfails⟩ := hends
  · omega
  · obtain ⟨hbuffer, hsource⟩ :=
      alike hread hstart scan other (Nat.le_of_lt hshorter) (Nat.le_refl _)
    have hfirst := scan.read count' hshorter
    rw [← hbuffer] at hfails
    have hanswer := (hread _ _ _ _ _ hsource (.inr ⟨_, answer_of_ok hfirst⟩)).1
    rw [answer_of_ok hfirst, answer_of_error hfails] at hanswer
    cases hanswer

/-- What a scan leaves in the raster, a longer one leaves in front of the rest. -/
theorem raster_append (scan : plan.Scan start count) (other : plan.Scan start' count')
    (h : count ≤ count') (hbuffer : ∀ line ≤ count, scan.buffer line = other.buffer line) :
    scan.raster <+: other.raster := by
  obtain ⟨more, rfl⟩ := Nat.exists_eq_add_of_le h
  have hsame : (List.range count).flatMap (fun line =>
        plan.expand ((scan.buffer (line + 1)).take plan.inputLength)) =
      (List.range count).flatMap fun line =>
        plan.expand ((other.buffer (line + 1)).take plan.inputLength) := by
    refine congrArg List.flatten (List.map_congr_left fun line hline => ?_)
    rw [hbuffer _ (List.mem_range.mp hline)]
  rw [raster, raster, List.range_add, List.flatMap_append, hsame]
  exact List.prefix_append _ _

end Plan.Scan

/-- A decode goes on where another of the same image ends, if their sources agree. -/
theorem goesOn_of_agrees {index? : Option Nat} {raster : Array UInt8}
    (hplan : Agrees strict R (Plan.read index? raster.size) (Plan.read index? raster.size))
    (hread : ∀ row sample buffer,
      Agrees strict R (readScanline row sample buffer) (readScanline row sample buffer))
    {s : σ} {t : τ} (hst : R s t) {first : Outcome}
    (hok : (decodeInto index? raster s).result = .ok first) :
    ∃ second, (decodeInto index? raster t).result = .ok second ∧
      GoesOn first (decodeInto index? raster s).raster second
        (decodeInto index? raster t).raster := by
  obtain ⟨plan, planned, count, scan, hfirst, hyields⟩ := scan_of_decoded hok
  obtain ⟨hanswer, hplanned⟩ := hplan s t hst (.inr ⟨_, answer_of_ok hfirst⟩)
  rw [answer_of_ok hfirst] at hanswer
  rw [after_of_ok hfirst] at hplanned
  obtain ⟨second, hresult, count', other, hothers⟩ := exists_scan (answer_eq_ok.mp hanswer.symm)
  have hle := scan.le_of_agrees hread hplanned hyields.ends.le other hothers.ends
  have hbuffer (line : Nat) (hline : line ≤ count) : scan.buffer line = other.buffer line :=
    (scan.alike hread hplanned other hline (Nat.le_trans hline hle)).1
  have hdrawn := scan.raster_append other hle hbuffer
  refine ⟨second, hresult, ?info, ?written, ?drawn, ?complete⟩
  case info => rw [hothers.info, hyields.info]
  case written =>
    rw [hyields.written, hothers.written]
    exact hdrawn.length_le
  case drawn =>
    rw [hyields.raster, hyields.written, take_overwrite, hothers.raster, hothers.written,
      take_overwrite]
    exact hdrawn
  case complete =>
    intro hcomplete
    have hall := hyields.complete.mp hcomplete
    have hback : count' ≤ count := hall ▸ hothers.ends.le
    have hstatus : second.status = first.status :=
      (hothers.complete.mpr ((Nat.le_antisymm hback hle).trans hall)).trans hcomplete.symm
    have hinfo : second.info = first.info := by rw [hothers.info, hyields.info, hstatus]
    have hsame : other.raster = scan.raster := by
      have hcovers := other.raster_append scan hback fun line hline =>
        (hbuffer line (Nat.le_trans hline hback)).symm
      exact hcovers.eq_of_length (Nat.le_antisymm hcovers.length_le hdrawn.length_le)
    constructor
    · change Outcome.mk second.info second.status second.written = first
      rw [hinfo, hstatus, hothers.written, hsame, ← hyields.written]
    · apply Array.toList_inj.mp
      rw [hothers.raster, hyields.raster, hsame]

end TiffStrip
