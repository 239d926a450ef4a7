import TiffStrip.Proofs.Decode.Scan
import TiffStrip.Proofs.File.Lines

/-!
# What a file can serve

Whether an image can be served is checked when its strip table is built. A table that is kept is not
checked again, so a file serves only what it can if a table never outlives its image and a table that
cannot be built is never kept.
-/

namespace TiffStrip

theorem Compression.any_isReadable_iff {code : Nat} :
    (ofCode? code).any isReadable = true ↔ code = 1 := by
  unfold ofCode?
  split <;> simp_all [isReadable]

section

variable {σ : Type} [ScanlineSource σ]

/-- A decode whose first scanline cannot be read stops there and lays nothing down. -/
theorem decodeInto_of_first_fails {index? : Option Nat} {raster : Array UInt8} {plan : Plan}
    {s planned : σ} {cause : FormatError}
    (hplan : Plan.read index? raster.size s = .ok plan planned) (hlines : 0 < plan.lines)
    (hfails : ∀ buffer, answer (ScanlineSource.readScanline 0 0 buffer) planned = .error cause) :
    (decodeInto index? raster s).result = .ok {
        info := { plan.info with damaged := true }
        status := .aborted 0 0 cause
        written := 0 } ∧
      (decodeInto index? raster s).raster = raster := by
  have hread : ∃ left, plan.readRaster planned = (#[], .aborted 0 0 cause, left) := by
    obtain ⟨remaining, hremaining⟩ := Nat.exists_eq_add_one_of_ne_zero (Nat.ne_of_gt hlines)
    rw [Plan.readRaster_eq, hremaining, Plan.readLines_succ]
    simp only [hremaining, Nat.sub_self, Nat.zero_mod, Nat.zero_div, hfails, Prod.mk.injEq,
      true_and, exists_eq']
  obtain ⟨left, hread⟩ := hread
  rw [decodeInto_eq, answer_of_ok hplan, after_of_ok hplan]
  simp only [hread, Decoded.ofRead]
  refine ⟨rfl, ?_⟩
  apply Array.toList_inj.mp
  exact toList_overlay #[] raster

end

namespace File

open FieldSource ScanlineSource

/-- What the container can serve of the selected image, as its tags have it: the image is not
compressed and not cut into tiles, and there is an offset for each of its strips. -/
structure Servable (file : File) : Prop where
  uncompressed : answer (defaulted16 .compression) file = .ok 1
  untiled :
    ¬((file.directory.find? .tileWidth).isSome ∧ (file.directory.find? .tileOffsets).isSome)
  located : ∃ height samples planar stated offsets,
    answer (required32 .imageLength) file = .ok height ∧
    answer (defaulted16 .samplesPerPixel) file = .ok samples ∧
    answer FieldSource.planar file = .ok planar ∧
    answer (fieldOrDefault .rowsPerStrip) file = .ok stated ∧
    answer (field .stripOffsets) file = .ok (some (.unsigned offsets)) ∧
    ceilDiv height (rowsPerStrip height stated) * (if planar = .separate then samples else 1) ≤
      offsets.length

theorem answer_field_of_numbers {tag : Tag} {file : File} {values : List Nat}
    (h : answer (fieldAs? tag FieldValue.numbers?) file = .ok (some values)) :
    answer (field tag) file = .ok (some (.unsigned values)) := by
  rw [fieldAs?, answer_bind] at h
  obtain ⟨found, hfound, h⟩ := except_bind_eq_ok.mp h
  cases found with
  | none => cases h
  | some value =>
    cases value with
    | unsigned stored =>
      cases h
      exact hfound
    | ascii text => cases h
    | undefined bytes => cases h

/-- An image that has a strip table can be served. -/
theorem servable_of_loadStrips {file : File} {table : StripTable}
    (h : answer loadStrips file = .ok table) : file.Servable := by
  have hbuilds := builds_of_loadStrips h
  obtain ⟨code, hcode, hreadable⟩ := hbuilds.compression
  obtain ⟨stated, hstated, hrows⟩ := hbuilds.rowsPerStrip
  have hone : code = 1 := Compression.any_isReadable_iff.mp hreadable
  have hplanes : table.planes = if table.planar = .separate then table.samples else 1 := by
    unfold StripTable.planes
    cases table.planar <;> rfl
  have henough := hbuilds.enough
  rw [StripTable.stripsPerPlane, hrows, hplanes, ← Array.length_toList] at henough
  have huntiled := hbuilds.untiled
  rw [Directory.isTiled, ← Bool.not_eq_true, Bool.and_eq_true] at huntiled
  exact ⟨hone ▸ hcode, huntiled, table.height, table.samples, table.planar, stated,
    table.offsets.toList, hbuilds.height, hbuilds.samples, hbuilds.planar, hstated,
    answer_field_of_numbers hbuilds.offsets, henough⟩

/-- A scanline of an image without a strip table cannot be read, whichever it is. -/
theorem answer_readScanline_without_strips {file : File} (hfile : file.Genuine)
    {cause : FormatError} (h : answer loadStrips file = .error cause) (row sample : Nat)
    (buffer : List UInt8) : answer (readScanline row sample buffer) file = .error cause := by
  rw [answer_readScanline row sample buffer hfile, h]
  rfl

/-- Planning a decode does no more than to select its image. -/
theorem bare_of_readPlan {file planned : File} (hfile : file.Genuine) {index? : Option Nat}
    {room : Nat} {plan : Plan} (h : Plan.read index? room file = .ok plan planned) :
    planned.bare = (turnedTo index? file).bare ∧ planned.Genuine := by
  have hkept := (reads_bare (turnedTo index? file).bare).toInspects.keeps_readPlan index? room
    ⟨rfl, genuine_turnedTo hfile index?⟩
  rwa [after_of_ok h] at hkept

/-- A decode of an image without a strip table stops at its first scanline and leaves the raster as
it was. -/
theorem decodeInto_without_strips {file : File} (hfile : file.Genuine) {index? : Option Nat}
    {cause : FormatError} (h : answer loadStrips (turnedTo index? file) = .error cause)
    {raster : Array UInt8} {outcome : Outcome} {form : RowForm}
    (hdecoded : (decodeInto index? raster file).result = .ok outcome)
    (hform : outcome.info.rowForm? = some form)
    (hlines : 0 < form.planes outcome.info * outcome.info.height) :
    outcome.status = .aborted 0 0 cause ∧ outcome.written = 0 ∧
      (decodeInto index? raster file).raster = raster := by
  obtain ⟨plan, planned, _, _, hplan, hyields⟩ := scan_of_decoded hdecoded
  have hplanned := bare_of_readPlan hfile hplan
  have hload : answer loadStrips planned = .error cause :=
    (visible_loadStrips.answer_eq hplanned.1).trans h
  rw [hyields.info] at hform hlines
  have hsame : plan.form = form :=
    Option.some.inj ((Plan.rowForm_of_read hplan).symm.trans hform)
  have hlines : 0 < plan.lines := by
    rw [Plan.lines, hsame]
    exact hlines
  obtain ⟨hresult, hraster⟩ := decodeInto_of_first_fails hplan hlines
    fun buffer => answer_readScanline_without_strips hplanned.2 hload 0 0 buffer
  obtain rfl := Except.ok.inj (hdecoded.symm.trans hresult)
  exact ⟨rfl, rfl, hraster⟩

/-- Turning a used file to the image that another had selected gives that file back, as far as
answers go. -/
theorem bare_turnedTo {file used : File} {index? : Option Nat}
    (hopened : used.reopened = file.reopened) (hindex : index?.getD used.current = file.current) :
    (turnedTo index? used).bare = file.bare := by
  apply bare_eq ((reopened_turnedTo used index?).trans hopened)
  cases index? with
  | none => exact hindex
  | some index =>
    have hcount : used.directories.length = file.directories.length :=
      congrArg List.length (directories_eq hopened)
    obtain rfl : index = file.current := hindex
    exact (current_after_select _ used).trans (if_pos (hcount ▸ file.current_lt))

/-- **Only what the container can serve is served.** After any history, a scanline that is read is one
of an image without compression that is not cut into tiles and has an offset for each of its strips.
If the strip table of the selected image cannot be had, for whatever reason, no decode of that image
ever lays down a byte: whatever is done in between, each one that is not refused and has a scanline to
read stops at the first, for the same reason. -/
theorem serves_only_servable {stream : Stream} {file : File} (hopen : ofStream stream = .ok file)
    (history : List Request) :
    let used := afterAll history file
    (∀ row sample buffer buffer',
      answer (readScanline row sample buffer) used = .ok buffer' → used.Servable) ∧
    ∀ cause, answer strips used = .error cause →
      ∀ later index? raster outcome form,
        let retried := afterAll later used
        let decoded := decodeInto index? raster retried
        index?.getD retried.current = used.current →
        decoded.result = .ok outcome → outcome.info.rowForm? = some form →
        0 < form.planes outcome.info * outcome.info.height →
          outcome.status = .aborted 0 0 cause ∧ outcome.written = 0 ∧ decoded.raster = raster := by
  intro used
  have hused : used.Genuine := genuine_afterAll (genuine_of_ofStream hopen) history
  refine ⟨fun row sample buffer buffer' hread => ?_, fun cause hcause later index? => ?_⟩
  · rw [answer_readScanline row sample buffer hused] at hread
    obtain ⟨table, htable, _⟩ := except_bind_eq_ok.mp hread
    exact servable_of_loadStrips htable
  · intro raster outcome form retried decoded hindex hdecoded hform hlines
    have hbare := bare_turnedTo (reopened_afterAll hused later) hindex
    have hload : answer loadStrips (turnedTo index? retried) = .error cause := by
      rw [visible_loadStrips.answer_eq hbare, ← (strips_spec hused).1, hcause]
    exact decodeInto_without_strips (genuine_afterAll hused later) hload hdecoded hform hlines

/-- Two images over the same two rows: the first as they are, the second said to be compressed. -/
def readableAndCompressed : List UInt8 :=
  let encoding : Encoding := ⟨.little, .classic⟩
  let directory (scheme next : Nat) : Directory := {
    entries := StoredField.entries encoding 0
      [ ⟨.imageWidth, .short, [2]⟩, ⟨.imageLength, .short, [2]⟩, ⟨.bitsPerSample, .short, [8]⟩,
        ⟨.compression, .short, [scheme]⟩, ⟨.photometricInterpretation, .short, [1]⟩,
        ⟨.stripOffsets, .byte, [188, 190]⟩, ⟨.rowsPerStrip, .short, [1]⟩ ]
    next }
  Header.serialize { encoding, firstDirectory := 8 } ++
    ((directory 1 98).serialize encoding ++ (directory 5 0).serialize encoding) ++ [1, 2, 3, 4]

theorem serves_only_readable_of_two :
    let raster := Array.replicate 4 99
    ∃ file, ofStream (.ofBytes readableAndCompressed.toArray) = .ok file ∧
      let used := afterAll [.decodeInto (some 1) raster] file
      let retried := afterAll [.decodeInto (some 0) raster] used
      let decoded := decodeInto (some 1) raster retried
      answer strips used = .error (.unsupportedCompression 5) ∧
      answer (readScanline 0 0 [99, 99, 99]) retried = .ok [1, 2, 99] ∧ retried.Servable ∧
      decoded.result.toOption.map (fun outcome => (outcome.status, outcome.written)) =
        some (.aborted 0 0 (.unsupportedCompression 5), 0) ∧
      decoded.raster = raster := by
  intro raster
  have hopens : (ofStream (.ofBytes readableAndCompressed.toArray)).toOption.any fun file =>
      let used := afterAll [.decodeInto (some 1) raster] file
      let retried := afterAll [.decodeInto (some 0) raster] used
      used.current = 1 ∧ refusal? (answer strips used) = some (.unsupportedCompression 5) ∧
        (answer (readScanline 0 0 [99, 99, 99]) retried).toOption = some [1, 2, 99] ∧
        (decodeInto (some 1) raster retried).result.toOption.map (fun outcome =>
          (outcome.info.rowForm?, outcome.info.height)) = some (some .graySamples, 2) := by
    decide +kernel
  obtain ⟨file, hfile, hfacts⟩ := (Option.any_eq_true _ _).mp hopens
  have hopen := except_toOption_eq_some.mp hfile
  obtain ⟨hcurrent, hstrips, hread, hdecoded⟩ := of_decide_eq_true hfacts
  have hstrips := refusal?_eq_some.mp hstrips
  have hread := except_toOption_eq_some.mp hread
  obtain ⟨outcome, hresult, hform⟩ := Option.map_eq_some_iff.mp hdecoded
  obtain ⟨hform, hheight⟩ := Prod.mk.inj hform
  have hlines : 0 < RowForm.graySamples.planes outcome.info * outcome.info.height := by
    rw [hheight]
    exact Nat.zero_lt_two
  obtain ⟨_, habort⟩ := serves_only_servable hopen [.decodeInto (some 1) raster]
  obtain ⟨hserved, _⟩ := serves_only_servable hopen
    [.decodeInto (some 1) raster, .decodeInto (some 0) raster]
  obtain ⟨hstatus, hwritten, hraster⟩ := habort _ hstrips [.decodeInto (some 0) raster] (some 1)
    raster outcome .graySamples hcurrent.symm (except_toOption_eq_some.mp hresult) hform hlines
  refine ⟨file, hopen, hstrips, hread, hserved 0 0 _ _ hread, ?_, hraster⟩
  rw [hresult, Option.map_some, hstatus, hwritten]

end File

end TiffStrip
