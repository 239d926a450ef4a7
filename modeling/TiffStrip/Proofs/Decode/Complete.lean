import TiffStrip.Proofs.Decode.Scan
import TiffStrip.Proofs.File.Lines
import TiffStrip.Proofs.Literal

/-!
# Complete decodes

One buffer takes up every scanline. It may be longer than a scanline, and what a scanline leaves of
it stays zero from the first read to the last, so every read has the same effect as one into a buffer
of its own.
-/

namespace TiffStrip

open ScanlineSource

namespace Plan

/-- A line padded with zeros to the length of the buffer. -/
def padded (plan : Plan) (line : List UInt8) : List UInt8 :=
  line ++ List.replicate (plan.bufferLength - plan.scanlineSize) 0

theorem length_padded {plan : Plan} {line : List UInt8} (h : line.length = plan.scanlineSize) :
    (plan.padded line).length = plan.bufferLength := by
  have hsize : plan.scanlineSize ≤ plan.bufferLength := Nat.le_max_left _ _
  rw [padded, List.length_append, List.length_replicate, h]
  omega

theorem padded_zeros (plan : Plan) :
    plan.padded (List.replicate plan.scanlineSize 0) = List.replicate plan.bufferLength 0 := by
  have hsize : plan.scanlineSize ≤ plan.bufferLength := Nat.le_max_left _ _
  rw [padded, List.replicate_append_replicate, Nat.add_sub_cancel' hsize]

theorem overwrite_padded {plan : Plan} {line previous : List UInt8}
    (h : line.length = plan.scanlineSize) (hprevious : previous.length = plan.scanlineSize) :
    overwrite line (plan.padded previous) = plan.padded line := by
  rw [overwrite, h, ← hprevious, padded, List.drop_left, padded]

/-- What is taken of a line, with zeros in place of what a short line does not have. -/
def input (plan : Plan) (line : List UInt8) : List UInt8 :=
  (line.take plan.inputLength).rightpad plan.inputLength 0

theorem take_padded {plan : Plan} {line : List UInt8} (h : line.length = plan.scanlineSize) :
    (plan.padded line).take plan.inputLength = plan.input line := by
  rw [padded, input, List.rightpad, List.take_append, List.take_replicate, List.length_take,
    bufferLength, h]
  congr 2
  omega

variable {σ : Type} [ScanlineSource σ] {Sound : σ → Prop} {size : Nat → Nat}
  {line : Nat → Nat → Nat → List UInt8}

namespace Scan

variable {plan : Plan} {start : σ} {count : Nat}

/-- Throughout a scan the source stays what it was, and the buffer is a line padded with zeros. -/
theorem padded_of_lines (h : ServesLines Sound size line) (hstart : Sound start)
    (hsize : plan.scanlineSize = size (current start)) (scan : plan.Scan start count) {n : Nat}
    (hn : n ≤ count) :
    (Sound (scan.source n) ∧ current (scan.source n) = current start) ∧
      ∃ front, front.length = plan.scanlineSize ∧ scan.buffer n = plan.padded front := by
  induction n with
  | zero =>
    rw [scan.source_zero, scan.buffer_zero, ← padded_zeros]
    exact ⟨⟨hstart, rfl⟩, _, List.length_replicate, rfl⟩
  | succ n ih =>
    obtain ⟨⟨hsound, hcurrent⟩, front, hfront, hbuffer⟩ := ih (Nat.le_of_succ_le hn)
    obtain ⟨hsource, hline, hread⟩ := h.readScanline _ _ _ _ _ _ hsound (scan.read n hn)
    rw [hcurrent, ← hsize] at hline
    rw [hcurrent] at hsource hread
    refine ⟨hsource, _, hline, ?_⟩
    rw [hread, hbuffer, overwrite_padded hline hfront]

/-- After a read the buffer is the line that was read, whatever was read before. -/
theorem buffer_succ (h : ServesLines Sound size line) (hstart : Sound start)
    (hsize : plan.scanlineSize = size (current start)) (scan : plan.Scan start count) {n : Nat}
    (hn : n < count) :
    let read := line (current start) (n / plan.info.height) (n % plan.info.height)
    read.length = plan.scanlineSize ∧ scan.buffer (n + 1) = plan.padded read := by
  obtain ⟨⟨hsound, hcurrent⟩, front, hfront, hbuffer⟩ :=
    scan.padded_of_lines h hstart hsize (Nat.le_of_lt hn)
  obtain ⟨_, hline, hread⟩ := h.readScanline _ _ _ _ _ _ hsound (scan.read n hn)
  rw [hcurrent, ← hsize] at hline
  rw [hcurrent] at hread
  refine ⟨hline, ?_⟩
  rw [hread, hbuffer, overwrite_padded hline hfront]

theorem even_of_lines (h : ServesLines Sound size line) (hstart : Sound start)
    (hsize : plan.scanlineSize = size (current start)) (scan : plan.Scan start count) :
    scan.Even := by
  intro n hn
  obtain ⟨_, front, hfront, hbuffer⟩ := scan.padded_of_lines h hstart hsize hn
  rw [hbuffer, length_padded hfront]

/-- A scanline in the raster, drawn from its line. -/
theorem block_of_lines (h : ServesLines Sound size line) (hstart : Sound start)
    (hsize : plan.scanlineSize = size (current start)) (hplan : plan.Coherent)
    (scan : plan.Scan start plan.lines) {sample row : Nat}
    (hsample : sample < plan.form.planes plan.info) (hrow : row < plan.info.height) :
    (scan.raster.drop ((sample * plan.info.height + row) *
        (plan.inputLength * plan.form.expansion))).take (plan.inputLength * plan.form.expansion) =
      drawn plan.colormap? (plan.input (line (current start) sample row)) := by
  have hn : sample * plan.info.height + row < plan.lines := line_lt hsample hrow
  obtain ⟨hline, hbuffer⟩ := scan.buffer_succ h hstart hsize hn
  rw [block_raster hplan (scan.even_of_lines h hstart hsize) hn, hbuffer, take_padded hline,
    expand_eq_drawn, rowOf_line sample hrow, sampleOf_line sample hrow]

end Scan

end Plan

variable {σ : Type} [ScanlineSource σ]

theorem block_overwrite {front buffer : List UInt8} {start length : Nat}
    (h : start + length ≤ front.length) :
    ((overwrite front buffer).drop start).take length = (front.drop start).take length := by
  rw [overwrite, List.drop_append_of_le_length (by omega), List.take_append_of_le_length]
  rw [List.length_drop]
  omega

/-- A raster over whose front lines were drawn, plane after plane and row after row. Each is drawn
from its front, and from zeros where it is too short for that. The rest is as it was before. -/
structure DrawnOver (before raster : Array UInt8) (outcome : Outcome) (form : RowForm)
    (map? : Option Colormap) (line : (sample row : Nat) → List UInt8) : Prop where
  size : raster.size = before.size
  block : ∀ sample < form.planes outcome.info, ∀ row < outcome.info.height,
    let input := form.inputLength outcome.info
    let room := input * form.expansion
    (raster.toList.drop ((sample * outcome.info.height + row) * room)).take room =
      drawn map? (((line sample row).take input).rightpad input 0)
  rest : raster.toList.drop outcome.written = before.toList.drop outcome.written

/-- **A complete decode draws every line in its place.** It lays down just as many bytes as the
raster of the image needs, and draws indices in the colors of the map that the source has for the
image. -/
theorem raster_of_complete {Sound : σ → Prop} {size : Nat → Nat}
    {line : Nat → Nat → Nat → List UInt8} (h : ServesLines Sound size line)
    {index? : Option Nat} {raster : Array UInt8} {source : σ} (hsource : Sound source)
    {outcome : Outcome} (hok : (decodeInto index? raster source).result = .ok outcome)
    (hcomplete : outcome.status = .complete) :
    let info := outcome.info
    ∃ described form map?, ImageInfo.read index? source = .ok info described ∧
      info.rowForm? = some form ∧
      (info.photometric = .palette →
        ∃ map, map? = some map ∧ answer Colormap.read described = .ok (some map)) ∧
      (info.photometric ≠ .palette → map? = none) ∧
      info.rasterLength = .ok outcome.written ∧
      DrawnOver raster (decodeInto index? raster source).raster outcome form map?
        (line (index?.getD (current source))) := by
  obtain ⟨plan, planned, hplan⟩ := planned_of_decoded hok
  obtain ⟨whole, hresult, hraster, _⟩ | ⟨row, sample, cause, stopped, hresult, _⟩ :=
    decodeInto_planned hplan
  case inr =>
    obtain rfl := Except.ok.inj (hok.symm.trans hresult)
    cases hcomplete
  obtain rfl := Except.ok.inj (hok.symm.trans hresult)
  obtain ⟨described, mapped, _, hinfo, hmap, hform, _⟩ := Plan.read_ok hplan
  obtain ⟨hpalette, hother⟩ := Plan.readColormap_ok hmap
  obtain ⟨hsound, hcurrent, hsize⟩ := h.planned hsource hplan
  obtain ⟨hlength, hroom⟩ := Plan.rasterLength_of_read hplan
  have hcoherent := Plan.coherent_of_read hplan
  rw [← hcurrent] at hsize
  have hwritten := Plan.Scan.length_raster hcoherent (whole.even_of_lines h hsound hsize)
  have hundamaged : { plan.info with damaged := false } = plan.info := by
    rw [← ImageInfo.undamaged_of_read hinfo]
  have hfits : whole.raster.length ≤ raster.toList.length := by
    rw [hwritten, Array.length_toList]
    exact hroom
  simp only [hundamaged]
  refine ⟨described, plan.form, plan.colormap?, hinfo, hform, ?_, hother, hwritten ▸ hlength, ?_⟩
  · intro hphotometric
    obtain ⟨map, hsome, hread⟩ := hpalette hphotometric
    exact ⟨map, hsome, answer_of_ok hread⟩
  constructor
  case size => rw [← Array.length_toList, hraster, length_overwrite hfits, Array.length_toList]
  case block =>
    intro sample hsample row hrow
    have hline : sample * plan.info.height + row < plan.lines := Plan.line_lt hsample hrow
    have hinside := Nat.mul_le_mul_right (plan.inputLength * plan.form.expansion) hline
    rw [Nat.succ_mul, ← hwritten] at hinside
    rw [hraster, ← hcurrent]
    apply (block_overwrite hinside).trans
    exact whole.block_of_lines h hsound hsize hcoherent hsample hrow
  case rest => rw [hraster, drop_overwrite]

/-- Two planes of two rows, with lines that are shorter than the rows. -/
def shortLines : LiteralSource where
  images := [{
    fields := [(.imageWidth, .unsigned [3]), (.imageLength, .unsigned [2]),
      (.bitsPerSample, .unsigned [8]), (.photometricInterpretation, .unsigned [1]),
      (.samplesPerPixel, .unsigned [2]), (.planarConfiguration, .unsigned [2])]
    planes := [[[1, 2], [3, 4]], [[5, 6], [7, 8]]]
    scanlineSize := 2 }]

/-- Lines that are too short, and lines of a file. -/
theorem raster_of_complete_samples :
    (LiteralSource.Even shortLines.images ∧
      ∃ outcome, (decodeInto none (Array.replicate 14 99) shortLines).result = .ok outcome ∧
        outcome.status = .complete ∧
        ∃ form map?, outcome.info.rowForm? = some form ∧
          outcome.info.rasterLength = .ok outcome.written ∧
          DrawnOver (Array.replicate 14 99)
            (decodeInto none (Array.replicate 14 99) shortLines).raster outcome form map?
            shortLines.line) ∧
    ∃ file, File.ofStream File.sample.1 = .ok file ∧
      ∃ outcome, (decodeInto (some 1) (Array.replicate 14 99) file).result = .ok outcome ∧
        outcome.status = .complete ∧
        ∃ form map?, outcome.info.rowForm? = some form ∧
          outcome.info.rasterLength = .ok outcome.written ∧
          DrawnOver (Array.replicate 14 99)
            (decodeInto (some 1) (Array.replicate 14 99) file).raster outcome form map?
            (file.turned 1).line := by
  have heven : LiteralSource.Even shortLines.images := by
    unfold LiteralSource.Even
    decide +kernel
  have hliteral : (decodeInto none (Array.replicate 14 99) shortLines).result.toOption.map
      (·.status) = some .complete := by
    decide +kernel
  have hfile : ((File.ofStream File.sample.1).toOption.bind fun file =>
      (decodeInto (some 1) (Array.replicate 14 99) file).result.toOption.map (·.status)) =
        some .complete := by
    decide +kernel
  constructor
  · obtain ⟨outcome, houtcome, hcomplete⟩ := Option.map_eq_some_iff.mp hliteral
    have hok := except_toOption_eq_some.mp houtcome
    obtain ⟨_, form, map?, _, hform, _, _, hlength, hdrawn⟩ :=
      raster_of_complete (LiteralSource.servesLines heven) rfl hok hcomplete
    exact ⟨heven, outcome, hok, hcomplete, form, map?, hform, hlength, hdrawn⟩
  · obtain ⟨file, hopen, hdecoded⟩ := Option.bind_eq_some_iff.mp hfile
    obtain ⟨outcome, houtcome, hcomplete⟩ := Option.map_eq_some_iff.mp hdecoded
    have hopen := except_toOption_eq_some.mp hopen
    have hok := except_toOption_eq_some.mp houtcome
    obtain ⟨_, form, map?, _, hform, _, _, hlength, hdrawn⟩ :=
      raster_of_complete (File.servesLines file) ⟨File.genuine_of_ofStream hopen, rfl⟩ hok hcomplete
    exact ⟨file, hopen, outcome, hok, hcomplete, form, map?, hform, hlength, hdrawn⟩

end TiffStrip
