import TiffStrip.Image.Info
import TiffStrip.Proofs.Simulation

namespace TiffStrip

theorem FieldValue.lt_of_firstBelow {bound n : Nat} {value : FieldValue}
    (h : value.firstBelow? bound = some n) : n < bound := by
  obtain ⟨numbers, _, h⟩ := Option.bind_eq_some_iff.mp h
  obtain ⟨first, _, h⟩ := Option.bind_eq_some_iff.mp h
  split at h
  · cases h
    assumption
  · cases h

theorem answer_request {σ α : Type} {act : EStateM FormatError σ α} {s : σ} {a : α}
    (h : answer act s = .ok a) : answer (request act) s = .ok a := by
  rw [request, answer_adaptExcept, h]
  rfl

theorem Steady.request {σ ν α : Type} {view : σ → ν} {act : EStateM FormatError σ α}
    (h : Steady view act) : Steady view (request act) :=
  fun v => simulates_adaptExcept _ (h v)

namespace FieldSource

variable {σ α : Type} {s : σ} {tag : Tag} {value : FieldValue}

theorem answer_view {read? : FieldValue → Option α} {a : α} (h : read? value = some a) (s : σ) :
    answer (view tag read? value) s = .ok a := by
  rw [view, h]
  rfl

theorem answer_view_eq_ok {read? : FieldValue → Option α} {a : α} :
    answer (view tag read? value) s = .ok a ↔ read? value = some a := by
  unfold view
  cases read? value with
  | none => exact iff_of_false nofun nofun
  | some found => rw [answer_pure, Except.ok.injEq, Option.some.injEq]

variable [FieldSource σ]

theorem answer_fieldOrDefault (h : answer (field tag) s = .ok (some value)) :
    answer (fieldOrDefault tag) s = .ok value := by
  rw [fieldOrDefault, answer_bind, h]
  rfl

theorem answer_fieldOrDefault_absent (h : answer (field tag) s = .ok none)
    (hdefault : tag.default? = some value) : answer (fieldOrDefault tag) s = .ok value := by
  rw [fieldOrDefault, answer_bind, h]
  simp only [Except.bind, hdefault, answer_pure]

theorem answer_fieldAs {read? : FieldValue → Option α} {a : α}
    (h : answer (field tag) s = .ok (some value)) (hread : read? value = some a) :
    answer (fieldAs? tag read?) s = .ok (some a) := by
  rw [fieldAs?, answer_bind, h]
  simp only [Except.bind]
  rw [answer_bind, answer_view hread]
  rfl

theorem answer_fieldAs_absent (read? : FieldValue → Option α) (h : answer (field tag) s = .ok none) :
    answer (fieldAs? tag read?) s = .ok none := by
  rw [fieldAs?, answer_bind, h]
  rfl

theorem answer_required32 {n : Nat} (h : answer (field tag) s = .ok (some value))
    (hread : value.first32? = some n) : answer (required32 tag) s = .ok n := by
  rw [required32, answer_bind, h]
  exact answer_view hread _

theorem answer_defaulted16 {n : Nat} (h : answer (fieldOrDefault tag) s = .ok value)
    (hread : value.first16? = some n) : answer (defaulted16 tag) s = .ok n := by
  rw [defaulted16, answer_bind, h]
  exact answer_view hread _

theorem answer_required32_eq_ok {n : Nat} :
    answer (required32 tag) s = .ok n ↔
      ∃ value, answer (field tag) s = .ok (some value) ∧ value.first32? = some n := by
  constructor
  · intro h
    rw [required32, answer_bind] at h
    obtain ⟨found?, hfound, h⟩ := except_bind_eq_ok.mp h
    cases found? with
    | none => cases h
    | some value => exact ⟨value, hfound, answer_view_eq_ok.mp h⟩
  · rintro ⟨value, hfound, hread⟩
    exact answer_required32 hfound hread

theorem exists_of_fieldAs {read? : FieldValue → Option α} {a : α}
    (h : answer (fieldAs? tag read?) s = .ok (some a)) : ∃ value, read? value = some a := by
  rw [fieldAs?, answer_bind] at h
  obtain ⟨found?, _, h⟩ := except_bind_eq_ok.mp h
  cases found? with
  | none => cases h
  | some value =>
    dsimp only at h
    rw [answer_bind] at h
    obtain ⟨found, hfound, h⟩ := except_bind_eq_ok.mp h
    cases h
    exact ⟨value, answer_view_eq_ok.mp hfound⟩

theorem exists_of_defaulted16 {n : Nat} (h : answer (defaulted16 tag) s = .ok n) :
    ∃ value : FieldValue, value.first16? = some n := by
  rw [defaulted16, answer_bind] at h
  obtain ⟨value, _, h⟩ := except_bind_eq_ok.mp h
  exact ⟨value, answer_view_eq_ok.mp h⟩

theorem lt_of_required32 {n : Nat} (h : answer (required32 tag) s = .ok n) : n < 0x100000000 := by
  obtain ⟨value, _, hread⟩ := answer_required32_eq_ok.mp h
  exact FieldValue.lt_of_firstBelow hread

theorem lt_of_fieldAs32 {n? : Option Nat}
    (h : answer (fieldAs? tag FieldValue.first32?) s = .ok n?) : n?.getD 0 < 0x100000000 := by
  cases n? with
  | none => decide
  | some n =>
    obtain ⟨value, hread⟩ := exists_of_fieldAs h
    exact FieldValue.lt_of_firstBelow hread

theorem lt_of_defaulted16 {n : Nat} (h : answer (defaulted16 tag) s = .ok n) : n < 0x10000 := by
  obtain ⟨value, hread⟩ := exists_of_defaulted16 h
  exact FieldValue.lt_of_firstBelow hread

theorem answer_planar {code : Nat} {found : Planar}
    (h : answer (defaulted16 .planarConfiguration) s = .ok code)
    (hcode : Planar.ofCode? code = some found) : answer planar s = .ok found := by
  rw [planar, answer_bind, h]
  simp only [Except.bind, hcode, answer_pure]

end FieldSource

end TiffStrip
