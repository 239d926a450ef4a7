import TiffStrip.Proofs.File.Described
import TiffStrip.Proofs.File.Failing
import TiffStrip.Proofs.File.Scanline
import TiffStrip.Proofs.File.Truncated

/-!
# Decoding inside the strips

A decode goes by the description of an image, and scanlines by its strip table. Both read the same
tags, each in its own way: the description takes an absent height for zero, and the strip table does
without one. But they agree where there are both, so a decode asks for no scanline that the strips do
not have room for.
-/

namespace TiffStrip

/-- Planes that are stored apart are read as often as there are samples, or once for the first of
them, which need not exist. -/
theorem RowForm.lt_samples_of_separate {info : ImageInfo} {form : RowForm}
    (hform : info.rowForm? = some form) (hplanar : info.planar = .separate) {sample : Nat}
    (h : sample < form.planes info) : sample < info.samplesPerPixel ∨ info.samplesPerPixel = 0 := by
  unfold ImageInfo.rowForm? RowForm.of? at hform
  rw [hplanar] at hform
  unfold planes at h
  split at hform <;> cases hform
  all_goals simp only [isPlanar, if_true, Bool.false_eq_true, if_false] at h; omega

namespace StripTable

variable {table : StripTable} {row sample : Nat}

/-- A table with an offset for each of its strips finds no place for a scanline only if it is not in
the image. -/
theorem contains_of_locate_eq_error (hrows : 0 < table.rowsPerStrip)
    (henough : table.stripsPerPlane * table.planes ≤ table.offsets.size) {cause : FormatError}
    (h : table.locate row sample = .error cause) (hcause : cause.OfScanline) :
    table.contains row sample = false ∧
      cause = .scanlineOutOfRange row sample table.height table.samples := by
  unfold locate at h
  cases hcontains : table.contains row sample with
  | false =>
    rw [hcontains] at h
    cases h
    exact ⟨rfl, rfl⟩
  | true =>
    have hless := Nat.lt_of_lt_of_le (stripOf_lt hrows hcontains) henough
    simp only [hcontains, Bool.not_true, Bool.false_eq_true, if_false,
      Array.getElem?_eq_getElem hless] at h
    -- What may still fail are the stated size of the strip and the sum of the offsets.
    split at h
    · split at h
      · cases h
        exact hcause.elim
      · split at h <;> cases h
        exact hcause.elim
    · split at h <;> cases h
      exact hcause.elim

structure Suits (table : StripTable) (info : ImageInfo) : Prop where
  height : table.height = info.height
  samples : table.samples = info.samplesPerPixel
  planar : table.planar = info.planar
  scanlineSize : table.scanlineSize = info.scanlineSize

/-- A strip table has every scanline that a decode asks for, unless the image has no samples. -/
theorem Suits.samples_eq_zero {info : ImageInfo} (h : table.Suits info) {form : RowForm}
    (hform : info.rowForm? = some form) (hrow : row < info.height)
    (hsample : sample < form.planes info) (hcontains : table.contains row sample = false) :
    info.samplesPerPixel = 0 := by
  simp only [contains, h.height, h.samples, h.planar, hrow, decide_true, Bool.true_and,
    Bool.or_eq_false_iff, decide_eq_false_iff_not] at hcontains
  obtain ⟨hcontiguous, houtside⟩ := hcontains
  have hseparate : info.planar = .separate := by
    cases hp : info.planar with
    | contiguous => exact absurd hp hcontiguous
    | separate => rfl
  exact (RowForm.lt_samples_of_separate hform hseparate hsample).resolve_left houtside

end StripTable

namespace File

variable {file : File}

theorem suits_of_described {info : ImageInfo} {table : StripTable} (hinfo : file.Described info)
    (hload : answer loadStrips file = .ok table) : table.Suits info := by
  have hbuilds := builds_of_loadStrips hload
  exact {
    height := eq_of_required32 hinfo.height hbuilds.height
    samples := Except.ok.inj (hbuilds.samples.symm.trans hinfo.samples)
    planar := Except.ok.inj (hbuilds.planar.symm.trans hinfo.planar)
    scanlineSize := scanlineSize_of_described hinfo hbuilds.scanlineSize }

theorem rowsPerStrip_pos {table : StripTable} (hload : answer loadStrips file = .ok table) :
    0 < table.rowsPerStrip := by
  obtain ⟨stated, _, hrows⟩ := (builds_of_loadStrips hload).rowsPerStrip
  rw [hrows]
  exact Nat.le_max_left _ _

/-- If it is not for its image that a scanline cannot be read, the image does not have it or its buffer
is too short. -/
theorem cause_of_scanline (hfile : file.Genuine) {row sample : Nat} {buffer : List UInt8}
    {cause : FormatError} (h : answer (readScanline row sample buffer) file = .error cause)
    (hcause : cause.OfScanline) :
    ∃ table, answer loadStrips file = .ok table ∧
      (table.contains row sample = false ∧
          cause = .scanlineOutOfRange row sample table.height table.samples ∨
        buffer.length < table.scanlineSize) := by
  rw [answer_readScanline row sample buffer hfile] at h
  cases hload : answer loadStrips file with
  | error failed =>
    rw [hload] at h
    cases h
    exact absurd hcause (ofImage_loadStrips file _ hload)
  | ok table =>
    rw [hload] at h
    change (table.locate row sample >>= fun offset => _) = _ at h
    refine ⟨table, rfl, ?_⟩
    cases hlocate : table.locate row sample with
    | error failed =>
      rw [hlocate] at h
      cases h
      exact .inl (table.contains_of_locate_eq_error (rowsPerStrip_pos hload)
        (builds_of_loadStrips hload).enough hlocate hcause)
    | ok offset =>
      by_cases hroom : buffer.length < table.scanlineSize
      · exact .inr hroom
      · rw [hlocate] at h
        change (if _ then _ else _) = _ at h
        rw [if_neg hroom, answer_readRange] at h
        split at h <;> cases h
        exact hcause.elim

/-- Once a decode is planned, its file is turned to the image that the plan describes. -/
theorem described_of_readPlan {planned : File} (hfile : file.Genuine) {index? : Option Nat}
    {room : Nat} {plan : Plan} (h : Plan.read index? room file = .ok plan planned) :
    planned.Genuine ∧ planned.Described plan.info := by
  obtain ⟨hbare, hgenuine⟩ := bare_of_readPlan hfile h
  obtain ⟨described, _, _, hinfo, _⟩ := Plan.read_ok h
  have hsteady : Steady bare (ImageInfo.readSelected index?) :=
    fun b => (inspects_bare b).readSelected index?
  have hsame : planned.bare = described.bare := hbare.trans (bare_of_readInfo hinfo).symm
  have hread := described_of_readInfo hinfo
  rw [← hsteady.answer_eq hsame] at hread
  exact ⟨hgenuine, described_of_readSelected hread⟩

/-- What a scan of an image stops for, if it is not for the image: a scanline of an image that has no
samples. -/
theorem cause_of_stopped {plan : Plan} {planned left : File} {row sample : Nat}
    {cause : FormatError} (hplanned : planned.Genuine) (hinfo : planned.Described plan.info)
    (hform : plan.info.rowForm? = some plan.form)
    (hsize : plan.scanlineSize = plan.info.scanlineSize)
    (stopped : plan.Stopped planned row sample cause left) (hcause : cause.OfScanline) :
    cause = .scanlineOutOfRange row sample plan.info.height 0 ∧ plan.info.samplesPerPixel = 0 := by
  have hkept := stopped.scan.keeps (reads_bare planned.bare) ⟨rfl, hplanned⟩ (Nat.le_refl _)
  obtain ⟨table, hload, hwhy⟩ := cause_of_scanline hkept.2 (answer_of_error stopped.fails) hcause
  rw [visible_loadStrips.answer_eq hkept.1] at hload
  have hsuits := suits_of_described hinfo hload
  obtain ⟨hcontains, hcause⟩ | hshort := hwhy
  · have hzero := hsuits.samples_eq_zero hform stopped.row_lt stopped.sample_lt hcontains
    rw [hcause, hsuits.height, hsuits.samples, hzero]
    exact ⟨rfl, rfl⟩
  · -- The buffer is as long as the size of a scanline that the plan was made with.
    have hlength := stopped.scan.even_of_keeps _ (Nat.le_refl _)
    have hfits : plan.scanlineSize ≤ plan.bufferLength := Nat.le_max_left _ _
    have hline := hsuits.scanlineSize
    omega

theorem cause_of_decoded (hfile : file.Genuine) {index? : Option Nat} {raster : Array UInt8}
    {outcome : Outcome} {row sample : Nat} {cause : FormatError}
    (hdecoded : (decodeInto index? raster file).result = .ok outcome)
    (haborted : outcome.status = .aborted row sample cause) (hcause : cause.OfScanline) :
    cause = .scanlineOutOfRange row sample outcome.info.height 0 ∧
      outcome.info.samplesPerPixel = 0 := by
  obtain ⟨plan, planned, hplan⟩ := planned_of_decoded hdecoded
  obtain ⟨_, hresult, _⟩ | ⟨_, _, _, stopped, hresult, _⟩ := decodeInto_planned hplan
  · obtain rfl := Except.ok.inj (hdecoded.symm.trans hresult)
    cases haborted
  · obtain rfl := Except.ok.inj (hdecoded.symm.trans hresult)
    obtain ⟨rfl, rfl, rfl⟩ := DecodeStatus.aborted.inj haborted
    obtain ⟨hplanned, hinfo⟩ := described_of_readPlan hfile hplan
    exact cause_of_stopped hplanned hinfo (Plan.rowForm_of_read hplan)
      (scanlineSize_of_readPlan hplan) stopped hcause

/-- The strip of a scanline that a decode asks for has an offset, unless the image has no samples. -/
theorem stripOf_lt_of_suits {info : ImageInfo} {table : StripTable}
    (hload : answer loadStrips file = .ok table) (hsuits : table.Suits info) {form : RowForm}
    (hform : info.rowForm? = some form) {row sample : Nat} (hrow : row < info.height)
    (hsample : sample < form.planes info) :
    table.stripOf row sample < table.offsets.size ∨
      info.samplesPerPixel = 0 ∧
        table.locate row sample =
          .error (.scanlineOutOfRange row sample info.height info.samplesPerPixel) := by
  cases hcontains : table.contains row sample with
  | true =>
    have hstrip := StripTable.stripOf_lt (rowsPerStrip_pos hload) hcontains
    exact .inl (Nat.lt_of_lt_of_le hstrip (builds_of_loadStrips hload).enough)
  | false =>
    refine .inr ⟨hsuits.samples_eq_zero hform hrow hsample hcontains, ?_⟩
    rw [StripTable.locate, hcontains, hsuits.height, hsuits.samples]
    rfl

/-- **A decode stays inside the strips.** After any history of requests, whatever image is decoded into
whatever raster, a decode never stops because a buffer is too short for a scanline or because a strip
has no offset. It stops because the image does not have a scanline only if the image has no samples. A
strip table agrees with the description of its image on the height, the samples, their arrangement and
the size of a scanline. It has an offset for the strip of every scanline that a decode asks for; if
there are no samples, this may be refused instead. -/
theorem decode_inside_strips {stream : Stream} {opened : File} (hopen : ofStream stream = .ok opened)
    (history : List Request) (index? : Option Nat) :
    let file := afterAll history opened
    (∀ (raster : Array UInt8) (outcome : Outcome) (row sample : Nat) (cause : FormatError),
      (decodeInto index? raster file).result = .ok outcome →
      outcome.status = .aborted row sample cause →
      (∀ required actual, cause ≠ .scanlineBufferTooSmall required actual) ∧
      (∀ strip, cause ≠ .invalidValue (.tag .stripOffsets) (.noStrip strip)) ∧
      ∀ lostRow lostSample height samples,
        cause = .scanlineOutOfRange lostRow lostSample height samples →
        outcome.info.samplesPerPixel = 0) ∧
    ∀ (info : ImageInfo) (table : StripTable), answer (ImageInfo.read index?) file = .ok info →
      answer loadStrips (turnedTo index? file) = .ok table →
      table.Suits info ∧
        ∀ form, info.rowForm? = some form → ∀ row sample, row < info.height →
          sample < form.planes info →
          table.stripOf row sample < table.offsets.size ∨
            info.samplesPerPixel = 0 ∧
              table.locate row sample =
                .error (.scanlineOutOfRange row sample info.height info.samplesPerPixel) := by
  intro file
  have hfile : file.Genuine := genuine_afterAll (genuine_of_ofStream hopen) history
  refine ⟨fun raster outcome row sample cause hdecoded haborted => ?_,
    fun info table hinfo hload => ?_⟩
  · have hwhy := cause_of_decoded hfile hdecoded haborted
    refine ⟨?_, ?_, ?_⟩
    · rintro required actual rfl
      cases (hwhy trivial).1
    · rintro strip rfl
      cases (hwhy trivial).1
    · rintro lostRow lostSample height samples rfl
      exact (hwhy trivial).2
  · have hread := answer_eq_ok.mp hinfo
    have hdescribed := described_of_readSelected (described_of_readInfo hread)
    rw [← visible_loadStrips.answer_eq (bare_of_readInfo hread)] at hload
    have hsuits := suits_of_described hdescribed hload
    exact ⟨hsuits, fun form hform row sample hrow hsample =>
      stripOf_lt_of_suits hload hsuits hform hrow hsample⟩

theorem decode_inside_strips_cutSample :
    let raster := Array.replicate 14 99
    ∃ file outcome row sample cause, ofStream cutSample.1 = .ok file ∧
      (decodeInto (some 1) raster file).result = .ok outcome ∧
      outcome.status = .aborted row sample cause ∧
      (∀ required actual, cause ≠ .scanlineBufferTooSmall required actual) ∧
      (∀ strip, cause ≠ .invalidValue (.tag .stripOffsets) (.noStrip strip)) ∧
      ∃ info table, answer (ImageInfo.read (some 1)) file = .ok info ∧
        answer loadStrips (turnedTo (some 1) file) = .ok table ∧ info.samplesPerPixel = 3 ∧
        table.Suits info ∧ table.stripOf 1 2 < table.offsets.size := by
  intro raster
  have hopens : (ofStream cutSample.1).toOption.any (fun file =>
      (decodeInto (some 1) raster file).result.toOption.any (fun outcome =>
        outcome.status ≠ .complete) ∧
      (answer (ImageInfo.read (some 1)) file).toOption.any (fun info =>
        info.rowForm? = some .rgbPlanes ∧ info.height = 2 ∧ info.samplesPerPixel = 3) ∧
      (answer loadStrips (turnedTo (some 1) file)).toOption.isSome) = true := by
    decide +kernel
  obtain ⟨file, hfile, hfacts⟩ := (Option.any_eq_true _ _).mp hopens
  obtain ⟨hdecodes, hdescribes, hloads⟩ := of_decide_eq_true hfacts
  obtain ⟨outcome, houtcome, hstatus⟩ := (Option.any_eq_true _ _).mp hdecodes
  obtain ⟨info, hinfo, hshape⟩ := (Option.any_eq_true _ _).mp hdescribes
  obtain ⟨table, hload⟩ := Option.isSome_iff_exists.mp hloads
  obtain ⟨hform, hheight, hsamples⟩ := of_decide_eq_true hshape
  have hopen := except_toOption_eq_some.mp hfile
  have hdecoded := except_toOption_eq_some.mp houtcome
  have hinfo := except_toOption_eq_some.mp hinfo
  have hload := except_toOption_eq_some.mp hload
  obtain ⟨hcauses, htables⟩ := decode_inside_strips hopen [] (some 1)
  obtain ⟨hsuits, hstrips⟩ := htables info table hinfo hload
  have hplane : 2 < RowForm.rgbPlanes.planes info := by
    rw [RowForm.planes, RowForm.isPlanar, if_pos rfl, hsamples]
    decide
  have hinside := (hstrips .rgbPlanes hform 1 2 (by omega) hplane).resolve_right
    fun h => absurd h.1 (by omega)
  cases haborted : outcome.status with
  | complete => exact absurd haborted (of_decide_eq_true hstatus)
  | aborted row sample cause =>
    obtain ⟨hbuffer, hnoStrip, _⟩ := hcauses raster outcome row sample cause hdecoded haborted
    exact ⟨file, outcome, row, sample, cause, hopen, hdecoded, haborted, hbuffer, hnoStrip, info,
      table, hinfo, hload, hsamples, hsuits, hinside⟩

end File

end TiffStrip
