import TiffStrip.Proofs.Decode.Plan
import TiffStrip.Proofs.File.Hidden
import TiffStrip.Proofs.Source.Fields

namespace TiffStrip

def ImageInfo.scanlineSize (info : ImageInfo) : Nat :=
  scanlineBytes info.width info.bitsPerSample info.samplesPerPixel info.planar

theorem answer_request_eq_ok {σ α : Type} {act : EStateM FormatError σ α} {s : σ} {a : α} :
    answer (request act) s = .ok a ↔ answer act s = .ok a := by
  rw [request, answer_adaptExcept]
  cases answer act s with
  | ok found =>
    constructor
    · rintro ⟨rfl⟩
      rfl
    · rintro ⟨rfl⟩
      rfl
  | error error =>
    constructor
    · intro h
      cases h
    · intro h
      cases h

theorem FieldSource.answer_fieldAs_of_required32 {σ : Type} [FieldSource σ] {s : σ} {tag : Tag}
    {n : Nat} (h : answer (required32 tag) s = .ok n) :
    answer (fieldAs? tag FieldValue.first32?) s = .ok (some n) := by
  obtain ⟨value, hfield, hread⟩ := answer_required32_eq_ok.mp h
  exact answer_fieldAs hfield hread

namespace File

open FieldSource

theorem answer_readSelected (index? : Option Nat) (file : File) :
    answer (ImageInfo.readSelected index?) file = do
      let width? ← answer (request (fieldAs? .imageWidth FieldValue.first32?)) file
      let height? ← answer (request (fieldAs? .imageLength FieldValue.first32?)) file
      let compression? ← answer (request (fieldAs? .compression FieldValue.first16?)) file
      let subfileType? ← answer (request (fieldAs? .subfileType FieldValue.first32?)) file
      let bitsPerSample ← answer (request (defaulted16 .bitsPerSample)) file
      let samplesPerPixel ← answer (request (defaulted16 .samplesPerPixel)) file
      let planar ← answer (request FieldSource.planar) file
      let photometric ← answer (ImageInfo.readPhotometric samplesPerPixel) file
      let description? ← answer (request (fieldAs? .imageDescription FieldValue.text?)) file
      return {
        index?, width := width?.getD 0, height := height?.getD 0
        compression := compression?.getD 0, subfileType := subfileType?.getD 0, bitsPerSample
        samplesPerPixel, planar, photometric, description?
        imageCount := file.directories.length, damaged := false } := by
  have fieldAs {α : Type} (tag : Tag) (read? : FieldValue → Option α) :=
    (visible_fieldAs tag read?).steady.request
  have defaulted (tag : Tag) := (visible_defaulted16 tag).steady.request
  have photometric (samples : Nat) : Steady bare (ImageInfo.readPhotometric samples) :=
    fun b => (inspects_bare b).readPhotometric samples
  unfold ImageInfo.readSelected
  refine (fieldAs _ _).answer_bind (fun width? f hf => ?_) rfl
  refine (fieldAs _ _).answer_bind (fun height? f hf => ?_) hf
  refine (fieldAs _ _).answer_bind (fun compression? f hf => ?_) hf
  refine (fieldAs _ _).answer_bind (fun subfileType? f hf => ?_) hf
  refine (defaulted _).answer_bind (fun bits f hf => ?_) hf
  refine (defaulted _).answer_bind (fun samples f hf => ?_) hf
  refine visible_planar.steady.request.answer_bind (fun planar f hf => ?_) hf
  refine (photometric _).answer_bind (fun photometric f hf => ?_) hf
  refine (fieldAs _ _).answer_bind (fun description? f hf => ?_) hf
  rw [answer_get, ← (inspects_bare file.bare).imageCount file f ⟨rfl, hf⟩]
  rfl

theorem answer_scanlineSize (file : File) :
    answer scanlineSize file = do
      let width ← answer (required32 .imageWidth) file
      let bits ← answer (defaulted16 .bitsPerSample) file
      let samples ← answer (defaulted16 .samplesPerPixel) file
      return scanlineBytes width bits samples (← answer FieldSource.planar file) := by
  unfold scanlineSize
  refine (visible_required32 _).steady.answer_bind (fun width f hf => ?_) rfl
  refine (visible_defaulted16 _).steady.answer_bind (fun bits f hf => ?_) hf
  refine (visible_defaulted16 _).steady.answer_bind (fun samples f hf => ?_) hf
  exact visible_planar.steady.answer_bind (fun planar f hf => rfl) hf

/-- What a description says about scanlines is what the tags of its image say, absent sizes being
zero. -/
structure Described (file : File) (info : ImageInfo) : Prop where
  width : ∃ width?, answer (fieldAs? .imageWidth FieldValue.first32?) file = .ok width? ∧
    info.width = width?.getD 0
  height : ∃ height?, answer (fieldAs? .imageLength FieldValue.first32?) file = .ok height? ∧
    info.height = height?.getD 0
  bits : answer (defaulted16 .bitsPerSample) file = .ok info.bitsPerSample
  samples : answer (defaulted16 .samplesPerPixel) file = .ok info.samplesPerPixel
  planar : answer FieldSource.planar file = .ok info.planar

theorem described_of_readSelected {index? : Option Nat} {info : ImageInfo} {file : File}
    (h : answer (ImageInfo.readSelected index?) file = .ok info) : file.Described info := by
  rw [answer_readSelected] at h
  obtain ⟨width?, hwidth, h⟩ := except_bind_eq_ok.mp h
  obtain ⟨height?, hheight, h⟩ := except_bind_eq_ok.mp h
  obtain ⟨compression?, _, h⟩ := except_bind_eq_ok.mp h
  obtain ⟨subfileType?, _, h⟩ := except_bind_eq_ok.mp h
  obtain ⟨bits, hbits, h⟩ := except_bind_eq_ok.mp h
  obtain ⟨samples, hsamples, h⟩ := except_bind_eq_ok.mp h
  obtain ⟨planar, hplanar, h⟩ := except_bind_eq_ok.mp h
  obtain ⟨photometric, _, h⟩ := except_bind_eq_ok.mp h
  obtain ⟨description?, _, h⟩ := except_bind_eq_ok.mp h
  cases h
  rw [answer_request_eq_ok] at hwidth hheight hbits hsamples hplanar
  exact ⟨⟨width?, hwidth, rfl⟩, ⟨height?, hheight, rfl⟩, hbits, hsamples, hplanar⟩

theorem eq_of_required32 {file : File} {tag : Tag} {n described : Nat}
    (h : ∃ found?, answer (fieldAs? tag FieldValue.first32?) file = .ok found? ∧
      described = found?.getD 0)
    (hrequired : answer (required32 tag) file = .ok n) : n = described := by
  obtain ⟨found?, hfound, rfl⟩ := h
  rw [answer_fieldAs_of_required32 hrequired] at hfound
  cases hfound
  rfl

/-- A scanline is as long as the description of its image says. -/
theorem scanlineSize_of_described {info : ImageInfo} {file : File} {size : Nat}
    (hinfo : file.Described info) (hsize : answer scanlineSize file = .ok size) :
    size = info.scanlineSize := by
  rw [answer_scanlineSize] at hsize
  obtain ⟨width, hwidth, hsize⟩ := except_bind_eq_ok.mp hsize
  rw [hinfo.bits, hinfo.samples, hinfo.planar] at hsize
  cases hsize
  rw [eq_of_required32 hinfo.width hwidth]
  rfl

/-- Describing an image does no more than to select it. -/
theorem bare_of_readInfo {index? : Option Nat} {info : ImageInfo} {file described : File}
    (h : ImageInfo.read index? file = .ok info described) :
    described.bare = (turnedTo index? file).bare := by
  have hsteady : Steady bare (ImageInfo.readSelected index?) :=
    fun b => (inspects_bare b).readSelected index?
  cases index? with
  | none =>
    rw [← after_of_ok h]
    exact hsteady.view_after file
  | some index =>
    obtain ⟨_, turned, hselect, hread⟩ := bind_eq_ok h
    rw [turnedTo, after_of_ok (adaptExcept_eq_ok hselect), ← after_of_ok hread]
    exact hsteady.view_after turned

/-- The description that an image has been read with is the one that its file has for it now. -/
theorem described_of_readInfo {index? : Option Nat} {info : ImageInfo} {file described : File}
    (h : ImageInfo.read index? file = .ok info described) :
    answer (ImageInfo.readSelected index?) described = .ok info := by
  obtain ⟨turned, hselected⟩ := ImageInfo.readSelected_of_read h
  have hsteady : Steady bare (ImageInfo.readSelected index?) :=
    fun b => (inspects_bare b).readSelected index?
  have hbare := hsteady.view_after turned
  rw [after_of_ok hselected] at hbare
  rw [hsteady.answer_eq hbare]
  exact answer_of_ok hselected

/-- What an image is described as does not depend on which was selected before. -/
theorem answer_readInfo {f g : File} (h : f.reopened = g.reopened) (index : Nat) :
    answer (ImageInfo.read (some index) : EStateM DecodeError File ImageInfo) f =
      answer (ImageInfo.read (some index)) g := by
  have hcount : f.directories.length = g.directories.length :=
    congrArg List.length (directories_eq h)
  have hsteady : Steady bare (ImageInfo.readSelected (some index)) :=
    fun b => (inspects_bare b).readSelected (some index)
  change answer (EStateM.adaptExcept _ (select index) >>= fun _ => _) f =
    answer (EStateM.adaptExcept _ (select index) >>= fun _ => _) g
  rw [answer_bind, answer_bind, answer_adaptExcept, answer_adaptExcept, after_adaptExcept,
    after_adaptExcept, answer_select, answer_select, hcount]
  by_cases hindex : index < g.directories.length
  · have hbare : (after (select index) f).bare = (after (select index) g).bare := by
      apply bare_eq
      · rw [reopened_after_select, reopened_after_select, h]
      · rw [current_after_select, current_after_select, hcount, if_pos hindex, if_pos hindex]
    rw [if_pos hindex]
    exact hsteady.answer_eq hbare
  · rw [if_neg hindex]
    rfl

theorem scanlineSize_of_readPlan {index? : Option Nat} {room : Nat} {plan : Plan}
    {file planned : File} (h : Plan.read index? room file = .ok plan planned) :
    plan.scanlineSize = plan.info.scanlineSize := by
  obtain ⟨described, mapped, _, hinfo, hmap, _, _, _, hsize⟩ := Plan.read_ok h
  have hbare : mapped.bare = described.bare := by
    have hsteady : Steady bare (Plan.readColormap plan.info) :=
      fun b => (inspects_bare b).readColormap plan.info
    rw [← after_of_ok hmap]
    exact hsteady.view_after described
  have hsize : answer scanlineSize mapped = .ok plan.scanlineSize := answer_of_ok hsize
  rw [visible_scanlineSize.answer_eq hbare] at hsize
  exact scanlineSize_of_described
    (described_of_readSelected (described_of_readInfo hinfo)) hsize

end File

end TiffStrip
