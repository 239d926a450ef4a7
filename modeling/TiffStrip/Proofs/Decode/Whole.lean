import TiffStrip.Proofs.Decode.Scan

/-!
# Decodes of whole images

A whole image is described twice: once to learn how long its raster has to be and whether the source
can hold its data, and once more, under no index, when it is decoded.
-/

namespace TiffStrip

open ScanlineSource

/-- The description, as if the image had been asked for by another index. -/
def ImageInfo.reindexed (info : ImageInfo) (index? : Option Nat) : ImageInfo :=
  { info with index? }

def Plan.reindexed (plan : Plan) (index? : Option Nat) : Plan :=
  { plan with info := plan.info.reindexed index? }

def Outcome.reindexed (outcome : Outcome) (index? : Option Nat) : Outcome :=
  { outcome with info := outcome.info.reindexed index? }

section

variable {σ : Type} [ScanlineSource σ]

/-- An index goes into a description as it is. -/
theorem ImageInfo.readSelected_reindexed (index? other? : Option Nat) :
    (ImageInfo.readSelected index? : EStateM DecodeError σ ImageInfo) =
      (fun info => info.reindexed index?) <$> ImageInfo.readSelected other? := by
  unfold ImageInfo.readSelected
  simp only [map_bind, map_pure]
  rfl

theorem Plan.ofInfo_reindexed (room : Nat) (info : ImageInfo) (index? : Option Nat) :
    (Plan.ofInfo room (info.reindexed index?) : EStateM DecodeError σ Plan) =
      (fun plan => plan.reindexed index?) <$> Plan.ofInfo room info := by
  unfold Plan.ofInfo
  simp only [map_bind]
  refine bind_congr fun colormap? => bind_congr fun form => bind_congr fun required => ?_
  split
  · rfl
  · simp only [map_bind]
    rfl

theorem Plan.readLines_reindexed (plan : Plan) (index? : Option Nat) (remaining : Nat)
    (buffer : List UInt8) (raster : Array UInt8) (s : σ) :
    (plan.reindexed index?).readLines remaining buffer raster s =
      plan.readLines remaining buffer raster s := by
  induction remaining generalizing buffer raster s with
  | zero => rfl
  | succ remaining ih =>
    rw [Plan.readLines_succ, Plan.readLines_succ]
    simp only [ih]
    rfl

theorem Plan.readRaster_reindexed (plan : Plan) (index? : Option Nat) (s : σ) :
    (plan.reindexed index?).readRaster s = plan.readRaster s :=
  plan.readLines_reindexed index? plan.lines _ #[] s

theorem Plan.info_of_ofInfo {room : Nat} {info : ImageInfo} {plan : Plan} {s : σ}
    (h : answer (Plan.ofInfo room info) s = .ok plan) : plan.info = info := by
  obtain ⟨colormap?, t, _, h⟩ := bind_eq_ok (answer_eq_ok.mp h)
  obtain ⟨form, u, _, h⟩ := bind_eq_ok h
  obtain ⟨required, v, _, h⟩ := bind_eq_ok h
  by_cases hroom : room < required
  · rw [if_pos hroom] at h
    cases h
  · rw [if_neg hroom] at h
    obtain ⟨size, w, _, h⟩ := bind_eq_ok h
    cases h
    rfl

theorem ImageInfo.index?_of_readSelected {index? : Option Nat} {info : ImageInfo} {s t : σ}
    (h : ImageInfo.readSelected index? s = .ok info t) : info.index? = index? := by
  have hanswer := answer_of_ok h
  rw [ImageInfo.readSelected_reindexed index? none, answer_map] at hanswer
  cases hnone : answer (ImageInfo.readSelected none) s with
  | ok found =>
    rw [hnone] at hanswer
    cases hanswer
    rfl
  | error error =>
    rw [hnone] at hanswer
    cases hanswer

/-- What is described under an index is described under none. -/
theorem ImageInfo.readInfo_none {index? : Option Nat} {info : ImageInfo} {s t : σ}
    (h : ImageInfo.readSelected index? s = .ok info t) :
    ImageInfo.read none s = .ok (info.reindexed none) t := by
  change ImageInfo.readSelected none s = _
  rw [ImageInfo.readSelected_reindexed none index?]
  simp only [Functor.map, EStateM.map, h]

/-- An image that has been described under an index can be decoded under none: if describing it
again changes nothing that reading depends on, its decode is the same but for the index. -/
theorem Reads.decodeInto_again {R : σ → σ → Prop} (h : Reads R) {index? : Option Nat}
    {info : ImageInfo} {s described again : σ}
    (hinfo : ImageInfo.read index? s = .ok info described)
    (hagain : ImageInfo.readSelected index? described = .ok info again)
    (hR : R described again) (raster : Array UInt8) :
    let unnamed := decodeInto none raster described
    let named := decodeInto index? raster s
    unnamed.result.map (fun outcome => outcome.reindexed index?) = named.result ∧
      unnamed.raster = named.raster ∧ R named.source unnamed.source := by
  have hnone := ImageInfo.readInfo_none hagain
  obtain ⟨hplan, hplanned⟩ := h.planOfInfo raster.size info described again hR
  simp only [decodeInto_eq, Plan.read_eq, answer_bind, after_bind, answer_of_ok hinfo,
    after_of_ok hinfo, answer_of_ok hnone, after_of_ok hnone, Except.bind,
    Plan.ofInfo_reindexed, answer_map, after_map, ← hplan]
  cases hfirst : answer (Plan.ofInfo raster.size info) described with
  | error error => exact ⟨rfl, rfl, hplanned⟩
  | ok plan =>
    have hindex : plan.info.index? = index? := by
      rw [Plan.info_of_ofInfo hfirst]
      exact ImageInfo.index?_of_readSelected hagain
    have hread := h.readRaster_alike plan _ _ hplanned
    simp only [Except.map, Plan.readRaster_reindexed]
    generalize plan.readRaster (after _ described) = read at hread ⊢
    generalize plan.readRaster (after _ again) = other at hread ⊢
    obtain ⟨bytes, status, source⟩ := read
    obtain ⟨bytes', status', source'⟩ := other
    obtain ⟨rfl, rfl, hsource⟩ := hread
    refine ⟨?_, rfl, hsource⟩
    subst hindex
    rfl

/-- Decodes the selected image into a raster of zeros. -/
def decodeSelected (index? : Option Nat) (required : Nat) :
    EStateM DecodeError σ (Outcome × Array UInt8) := fun source =>
  let decoded := decodeInto none (Array.replicate required 0) source
  match decoded.result with
  | .ok outcome => .ok (outcome.reindexed index?, decoded.raster) decoded.source
  | .error error => .error error decoded.source

theorem answer_decodeSelected (index? : Option Nat) (required : Nat) (s : σ) :
    answer (decodeSelected index? required) s =
      let decoded := decodeInto none (Array.replicate required 0) s
      (decoded.result.map fun outcome => outcome.reindexed index?).map (·, decoded.raster) := by
  unfold answer decodeSelected
  dsimp only
  cases (decodeInto none (Array.replicate required 0) s).result with
  | ok outcome => rfl
  | error error => rfl

theorem decodeDescribed_eq (index? : Option Nat) (info : ImageInfo) :
    (decodeDescribed index? info : EStateM DecodeError σ _) = (do
      let required ← MonadExcept.ofExcept info.rasterLength
      MonadExcept.ofExcept (checkSize info required (dataSize? (← get)))
      decodeSelected index? required) :=
  rfl

/-- A whole image is decoded as into a raster of zeros, once its size has been checked: that it is
described a second time makes no difference. -/
theorem Reads.answer_decodeImage {R : σ → σ → Prop} (h : Reads R) {index? : Option Nat}
    {info : ImageInfo} {s described again : σ}
    (hinfo : ImageInfo.read index? s = .ok info described)
    (hagain : ImageInfo.readSelected index? described = .ok info again)
    (hR : R described again) {required : Nat} (hlength : info.rasterLength = .ok required) :
    let decoded := decodeInto index? (Array.replicate required 0) s
    answer (decodeImage index?) s =
      (checkSize info required (dataSize? described)).bind fun _ =>
        decoded.result.map (·, decoded.raster) := by
  obtain ⟨hresult, hraster, _⟩ := h.decodeInto_again hinfo hagain hR (Array.replicate required 0)
  dsimp only
  rw [decodeImage_eq, answer_bind, answer_of_ok hinfo, after_of_ok hinfo]
  simp only [Except.bind]
  rw [decodeDescribed_eq, answer_bind, answer_ofExcept, after_ofExcept, hlength]
  simp only [Except.bind]
  rw [answer_get, answer_bind, answer_ofExcept, after_ofExcept]
  refine congrArg _ (funext fun _ => ?_)
  rw [answer_decodeSelected]
  dsimp only
  rw [hresult, hraster]

/-- An image that has been described can be described again, as the selected one, and that changes
nothing that reading depends on. -/
def DescribesAgain (index? : Option Nat) (s : σ) : Prop :=
  ∀ info described, ImageInfo.read index? s = .ok info described →
    dataSize? described = dataSize? s ∧
      ∃ (R : σ → σ → Prop) (again : σ), Reads R ∧
        ImageInfo.readSelected index? described = .ok info again ∧ R described again

/-- The second description says what the first one said, and leaves what the tags hold. -/
theorem DescribesAgain.readInfo_none {index? : Option Nat} {info : ImageInfo} {s described : σ}
    (h : DescribesAgain index? s) (hinfo : ImageInfo.read index? s = .ok info described) :
    answer (ImageInfo.read none) described = .ok (info.reindexed none) ∧
      ∀ tag, answer (FieldSource.field tag) (after (ImageInfo.read none) described) =
        answer (FieldSource.field tag) described := by
  obtain ⟨_, R, again, hreads, hagain, hR⟩ := h info described hinfo
  have hnone := ImageInfo.readInfo_none hagain
  refine ⟨answer_of_ok hnone, fun tag => ?_⟩
  rw [after_of_ok hnone]
  exact (hreads.field tag described again hR).1.symm

theorem DescribesAgain.answer_decodeImage {index? : Option Nat} {info : ImageInfo} {s : σ}
    (h : DescribesAgain index? s) (hinfo : answer (ImageInfo.read index?) s = .ok info)
    {required : Nat} (hlength : info.rasterLength = .ok required) :
    let decoded := decodeInto index? (Array.replicate required 0) s
    answer (decodeImage index?) s =
      (checkSize info required (dataSize? s)).bind fun _ =>
        decoded.result.map (·, decoded.raster) := by
  have hread := answer_eq_ok.mp hinfo
  obtain ⟨hsize, R, again, hreads, hagain, hR⟩ := h info _ hread
  rw [← hsize]
  exact hreads.answer_decodeImage hread hagain hR hlength

/-- A complete decode lays down just the bytes that the raster of its image needs. -/
theorem rasterLength_of_complete [KeepsBuffers σ] {index? : Option Nat} {raster : Array UInt8}
    {s : σ} {outcome : Outcome} (hok : (decodeInto index? raster s).result = .ok outcome)
    (hcomplete : outcome.status = .complete) :
    outcome.info.rasterLength = .ok outcome.written := by
  obtain ⟨plan, planned, count, scan, hplan, hyields⟩ := scan_of_decoded hok
  have hcount : count = plan.lines := hyields.complete.mp hcomplete
  subst hcount
  rw [hyields.written, Plan.Scan.length_raster (Plan.coherent_of_read hplan) scan.even_of_keeps,
    hyields.info]
  exact (Plan.rasterLength_of_read hplan).1

/-- A decode that fills the whole raster leaves nothing of what was in it. -/
theorem decodeInto_filled {index? : Option Nat} {raster other : Array UInt8} {s : σ}
    {outcome : Outcome} (hsize : other.size = raster.size)
    (hok : (decodeInto index? raster s).result = .ok outcome)
    (hfull : outcome.written = raster.size) :
    decodeInto index? other s = decodeInto index? raster s := by
  obtain ⟨plan, planned, hplan⟩ := planned_of_decoded hok
  rw [decodeInto_eq, answer_of_ok hplan, after_of_ok hplan] at hok
  rw [decodeInto_eq, decodeInto_eq, hsize, answer_of_ok hplan, after_of_ok hplan]
  dsimp only at hok ⊢
  generalize plan.readRaster planned = read at hok ⊢
  obtain ⟨bytes, status, left⟩ := read
  cases hok
  have hnone (rest : Array UInt8) (h : rest.size = raster.size) :
      rest.extract bytes.size rest.size = #[] :=
    Array.extract_empty_of_stop_le_start (Nat.le_of_eq (h.trans hfull.symm))
  rw [Decoded.ofRead, Decoded.ofRead, hnone other hsize, hnone raster rfl]

theorem Selects.planImage {τ : Type} [ScanlineSource τ] {R : σ → τ → Prop} (h : Selects R)
    (index? : Option Nat) : Simulates R (planImage index?) (planImage index?) := by
  apply simulates_bind (h.readInfo index?)
  intro info
  apply simulates_bind (simulates_ofExcept _)
  intro required
  apply simulates_get
  intro s t hst
  rw [h.dataSize s t hst]
  apply simulates_bind (simulates_ofExcept _)
  intro _
  exact simulates_bind (h.readPlan none required) fun plan => simulates_pure _

/-- What has been settled when a whole image has been planned. -/
theorem planned_of_planImage {index? : Option Nat} {required : Nat} {plan : Plan} {s planned : σ}
    (h : planImage index? s = .ok (required, plan) planned) :
    ∃ info described, ImageInfo.read index? s = .ok info described ∧
      info.rasterLength = .ok required ∧
      checkSize info required (dataSize? described) = .ok () ∧
      Plan.read none required described = .ok plan planned := by
  obtain ⟨info, described, hinfo, hmeasure⟩ := bind_eq_ok h
  obtain ⟨length, _, hofLength, hguard⟩ := bind_eq_ok hmeasure
  obtain ⟨hlength, rfl⟩ := ofExcept_eq_ok hofLength
  rw [get_bind] at hguard
  obtain ⟨_, _, hofCheck, hsettle⟩ := bind_eq_ok hguard
  obtain ⟨hcheck, rfl⟩ := ofExcept_eq_ok hofCheck
  obtain ⟨_, _, hplan, hdone⟩ := bind_eq_ok hsettle
  cases hdone
  exact ⟨info, _, hinfo, hlength, hcheck, hplan⟩

theorem planImage_eq (index? : Option Nat) :
    (planImage index? : EStateM DecodeError σ (Nat × Plan)) =
      measureImage index? >>= fun (_, required) => do
        return (required, ← Plan.read none required) := by
  unfold planImage measureImage
  simp only [bind_assoc, pure_bind]

/-- An image that is planned lacks nothing if there is memory for its raster and for the buffer. -/
theorem shortage?_eq_none {memory : Nat} {index? : Option Nat} {required : Nat} {plan : Plan}
    {s planned : σ} (h : planImage index? s = .ok (required, plan) planned) :
    shortage? memory index? s = none ↔ required ≤ memory ∧ plan.bufferLength ≤ memory := by
  have hplan := h
  rw [planImage_eq] at hplan
  obtain ⟨⟨info, length⟩, measured, hmeasure, hrest⟩ := bind_eq_ok hplan
  obtain ⟨_, _, _, hdone⟩ := bind_eq_ok hrest
  cases hdone
  simp only [shortage?, hmeasure, h]
  by_cases hraster : memory < required
  · simp [hraster, Nat.not_le.mpr hraster]
  · by_cases hbuffer : memory < plan.bufferLength
    · simp [hraster, hbuffer, Nat.not_le.mpr hbuffer]
    · simp [hraster, hbuffer, Nat.le_of_not_lt]

/-- Reads the scanlines of a plan into a raster of zeros. -/
def Plan.draw (plan : Plan) (index? : Option Nat) (required : Nat) :
    EStateM DecodeError σ (Outcome × Array UInt8) := fun source =>
  let (bytes, status, source) := plan.readRaster source
  let info := { plan.info with index?, damaged := status ≠ .complete }
  let rest := (Array.replicate required 0).extract bytes.size required
  .ok ({ info, status, written := bytes.size }, bytes ++ rest) source

theorem decodeSelected_eq (index? : Option Nat) (required : Nat) :
    (decodeSelected index? required : EStateM DecodeError σ _) =
      Plan.read none required >>= fun plan => plan.draw index? required := by
  funext s
  simp only [decodeSelected, decodeInto, Array.size_replicate, bind, EStateM.bind]
  cases Plan.read none required s with
  | ok plan planned => rfl
  | error error planned => rfl

/-- A decode of a whole image is a plan, and after it nothing but scanlines are read. -/
theorem decodeImage_eq_planImage (index? : Option Nat) :
    (decodeImage index? : EStateM DecodeError σ _) =
      planImage index? >>= fun (required, plan) => plan.draw index? required := by
  rw [decodeImage_eq, planImage]
  simp only [bind_assoc, pure_bind]
  refine bind_congr fun info => ?_
  rw [decodeDescribed_eq]
  refine bind_congr fun required => bind_congr fun source => bind_congr fun _ => ?_
  exact decodeSelected_eq index? required

end

/-- Bytes that a decode takes from the scanlines of an image, all in all. -/
def ImageInfo.taken (info : ImageInfo) (form : RowForm) : Nat :=
  form.planes info * info.height * form.inputLength info

/-- An image is refused if more would be taken from its scanlines than the source holds, or else if
its raster is too long. -/
theorem checkSize_some {info : ImageInfo} {form : RowForm} {required : Nat}
    (hform : info.rowForm? = some form) (hlength : info.rasterLength = .ok required) (held : Nat) :
    checkSize info required (some held) =
      if held < info.taken form then
        .error (.unsupported (.dataMissing info.width info.height (info.taken form) held))
      else if maxRaster < required then .error (.unsupported (.tooLarge info.width info.height))
      else .ok () := by
  have hneeded : required / form.expansion = info.taken form := by
    rw [ImageInfo.rasterLength_eq hform hlength, ← Nat.mul_assoc,
      Nat.mul_div_cancel _ form.expansion_pos, ImageInfo.taken]
  simp only [checkSize, hform, Option.map_some, Option.getD_some, hneeded]
  by_cases hdata : held < info.taken form
  · rw [if_pos hdata, if_pos hdata]
    rfl
  · rw [if_neg hdata, if_neg hdata]
    by_cases hmemory : maxRaster < required
    · rw [if_pos hmemory, if_pos hmemory]
      rfl
    · rw [if_neg hmemory, if_neg hmemory]
      rfl

/-- If the source may hold what would be taken, an image is refused only if its raster is too long. -/
theorem checkSize_of_fits {info : ImageInfo} {form : RowForm} {required : Nat} {held? : Option Nat}
    (hform : info.rowForm? = some form) (hlength : info.rasterLength = .ok required)
    (hfits : ∀ held, held? = some held → info.taken form ≤ held) :
    checkSize info required held? =
      if maxRaster < required then .error (.unsupported (.tooLarge info.width info.height))
      else .ok () := by
  cases held? with
  | none => rfl
  | some held => rw [checkSize_some hform hlength, if_neg (Nat.not_lt.mpr (hfits held rfl))]

end TiffStrip
