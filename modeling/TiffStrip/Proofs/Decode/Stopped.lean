import TiffStrip.Proofs.Literal
import TiffStrip.Proofs.Source.Watched

namespace TiffStrip

open ScanlineSource

section

variable {σ : Type} [ScanlineSource σ]

/-- What was laid down before the decode stopped: every scanline before the one that could not be
read. -/
theorem Plan.Stopped.length_raster [KeepsBuffers σ] {plan : Plan} {start left : σ}
    {row sample : Nat} {cause : FormatError} (hplan : plan.Coherent)
    (stopped : plan.Stopped start row sample cause left) :
    stopped.scan.raster.length =
      (sample * plan.info.height + row) * (plan.inputLength * plan.form.expansion) :=
  Scan.length_raster hplan stopped.scan.even_of_keeps

theorem asked_after_readPlan (index? : Option Nat) (room : Nat) (source : σ) :
    (after (Plan.read index? room) (Watched.mk source [])).asked = [] :=
  ((Watched.selects_asked []).readPlan index? room (Watched.mk source []) _ ⟨rfl, rfl⟩).2.2

/-- How many scanlines a decode asks for: all of them, or all up to the one that could not be
read. -/
def DecodeStatus.requests (plan : Plan) : DecodeStatus → Nat
  | .complete => plan.lines
  | .aborted row sample _ => sample * plan.info.height + row + 1

/-- A decode asks for its scanlines in order, and for none after one that cannot be read. -/
theorem asked_of_decoded {index? : Option Nat} {raster : Array UInt8} {source planned : σ}
    {plan : Plan} {outcome : Outcome} (hplan : Plan.read index? raster.size source = .ok plan planned)
    (h : (decodeInto index? raster (Watched.mk source [])).result = .ok outcome) :
    (decodeInto index? raster (Watched.mk source [])).source.asked =
      plan.order (outcome.status.requests plan) := by
  have hasked := asked_after_readPlan index? raster.size source
  have hsame := (Watched.serves_source.readPlan index? raster.size source
    (Watched.mk source []) rfl).1
  rw [answer_of_ok hplan] at hsame
  have hwatched := answer_eq_ok.mp hsame.symm
  obtain ⟨whole, hresult, _, hsource⟩ | ⟨row, sample, cause, stopped, hresult, _⟩ :=
    decodeInto_planned hwatched
  · rw [hresult] at h
    cases h
    rw [hsource, whole.asked (Nat.le_refl _), hasked]
    rfl
  · rw [hresult] at h
    cases h
    rw [stopped.asked, hasked]
    rfl

/-- **Refused and stopped decodes are exact.** A refused decode leaves the raster as it was and asks
for no scanline. A decode reports damage just when it stops. It stops at the first scanline that
cannot be read, for the cause of that failure; the front of the raster holds what was drawn from the
buffer after every read before, the rest is as it was. -/
theorem decodeInto_refused_or_stopped [KeepsBuffers σ] (index? : Option Nat)
    (raster : Array UInt8) (source : σ) :
    let decoded := decodeInto index? raster source
    let watched := decodeInto index? raster (Watched.mk source [])
    (watched.result = decoded.result ∧ watched.raster = decoded.raster ∧
      watched.source.source = decoded.source) ∧
    (∀ error, decoded.result = .error error →
      decoded.raster = raster ∧ watched.source.asked = []) ∧
    ∀ outcome, decoded.result = .ok outcome →
      (outcome.info.damaged = true ↔
        ∃ row sample cause, outcome.status = .aborted row sample cause) ∧
      ∀ row sample cause, outcome.status = .aborted row sample cause →
        ∃ plan planned, Plan.read index? raster.size source = .ok plan planned ∧
          outcome.info = { plan.info with damaged := true } ∧
          outcome.info.rowForm? = some plan.form ∧
          watched.source.asked = plan.order (sample * plan.info.height + row + 1) ∧
          ∃ stopped : plan.Stopped planned row sample cause decoded.source,
            outcome.written =
              (sample * plan.info.height + row) * (plan.inputLength * plan.form.expansion) ∧
            decoded.raster.size = raster.size ∧
            decoded.raster.toList.take outcome.written =
              ((List.range (sample * plan.info.height + row)).flatMap fun line =>
                drawn plan.colormap? ((stopped.scan.buffer (line + 1)).take plan.inputLength)) ∧
            decoded.raster.toList.drop outcome.written = raster.toList.drop outcome.written := by
  intro decoded watched
  have hwatched : watched.result = decoded.result ∧ watched.raster = decoded.raster ∧
      watched.source.source = decoded.source := by
    obtain ⟨hresult, hraster, hsource⟩ :=
      Watched.serves_source.decodeInto_alike index? raster source (Watched.mk source []) rfl
    exact ⟨hresult.symm, hraster.symm, hsource⟩
  refine ⟨hwatched, fun error herror => ?_, fun outcome hok => ?_⟩
  · have hrefused := decodeInto_refused (hwatched.1.trans herror)
    refine ⟨(decodeInto_refused herror).1, ?_⟩
    rw [hrefused.2]
    exact asked_after_readPlan index? raster.size source
  obtain ⟨plan, planned, hplan⟩ := planned_of_decoded hok
  have hcoherent := Plan.coherent_of_read hplan
  have hroom := (Plan.rasterLength_of_read hplan).2
  have hasked := asked_of_decoded hplan (hwatched.1.trans hok)
  obtain ⟨whole, hresult, _, _⟩ | ⟨row, sample, cause, stopped, hresult, hraster⟩ :=
    decodeInto_planned hplan
  · obtain rfl := Except.ok.inj (hok.symm.trans hresult)
    refine ⟨⟨fun hdamaged => ?_, fun ⟨_, _, _, haborted⟩ => ?_⟩, fun _ _ _ haborted => ?_⟩
    · cases hdamaged
    · cases haborted
    · cases haborted
  · obtain rfl := Except.ok.inj (hok.symm.trans hresult)
    refine ⟨⟨fun _ => ⟨row, sample, cause, rfl⟩, fun _ => rfl⟩, ?_⟩
    rintro _ _ _ ⟨rfl, rfl, rfl⟩
    have hwritten := stopped.length_raster hcoherent
    have hfits : stopped.scan.raster.length ≤ raster.toList.length := by
      have hblocks := Nat.mul_le_mul_right (plan.inputLength * plan.form.expansion)
        (Nat.le_of_lt (Plan.line_lt stopped.sample_lt stopped.row_lt))
      rw [hwritten, Array.length_toList]
      exact Nat.le_trans hblocks hroom
    refine ⟨plan, planned, hplan, rfl, Plan.rowForm_of_read hplan, hasked, stopped, hwritten, ?_,
      ?_, ?_⟩
    · rw [← Array.length_toList, hraster, length_overwrite hfits, Array.length_toList]
    · rw [hraster]
      exact take_overwrite _ _
    · rw [hraster]
      exact drop_overwrite _ _

end

/-- Three planes of two rows, one of which is missing. -/
def missingRow : LiteralSource where
  images := [{
    fields := [(.imageWidth, .unsigned [2]), (.imageLength, .unsigned [2]),
      (.bitsPerSample, .unsigned [8]), (.samplesPerPixel, .unsigned [3]),
      (.planarConfiguration, .unsigned [2])]
    planes := [[[1, 2], [3, 4]], [[5, 6]], [[7, 8], [9, 10]]]
    scanlineSize := 2 }]

theorem decodeInto_stopped_at_missingRow :
    let raster := Array.replicate 13 99
    ∃ outcome plan planned left, ∃ stopped : plan.Stopped planned 1 1
        (.scanlineOutOfRange 1 1 0 3) left,
      (decodeInto none raster missingRow).result = .ok outcome ∧
      outcome.status = .aborted 1 1 (.scanlineOutOfRange 1 1 0 3) ∧ outcome.info.damaged = true ∧
      Plan.read none 13 missingRow = .ok plan planned ∧
      (decodeInto none raster missingRow).raster.toList.take outcome.written =
        ((List.range (1 * plan.info.height + 1)).flatMap fun line =>
          drawn plan.colormap? ((stopped.scan.buffer (line + 1)).take plan.inputLength)) ∧
      (decodeInto none raster missingRow).raster.toList.drop outcome.written =
        raster.toList.drop outcome.written := by
  have hstatus : (decodeInto none (Array.replicate 13 99) missingRow).result.toOption.map
      (·.status) = some (.aborted 1 1 (.scanlineOutOfRange 1 1 0 3)) := by
    decide +kernel
  obtain ⟨outcome, houtcome, haborted⟩ := Option.map_eq_some_iff.mp hstatus
  have hok := except_toOption_eq_some.mp houtcome
  obtain ⟨_, _, hexact⟩ := decodeInto_refused_or_stopped none (Array.replicate 13 99) missingRow
  obtain ⟨hdamaged, hstopped⟩ := hexact outcome hok
  obtain ⟨plan, planned, hplan, _, _, _, stopped, _, _, htaken, hrest⟩ := hstopped 1 1 _ haborted
  exact ⟨outcome, plan, planned, _, stopped, hok, haborted, hdamaged.mpr ⟨_, _, _, haborted⟩,
    hplan, htaken, hrest⟩

end TiffStrip
