import TiffStrip.Proofs.Source.Simulation

namespace TiffStrip

open ScanlineSource

/-- The length of a raster, as a product that does not overflow. -/
theorem ImageInfo.rasterLength_eq {info : ImageInfo} {form : RowForm} {length : Nat}
    (hform : info.rowForm? = some form) (h : info.rasterLength = .ok length) :
    length = form.planes info * info.height * (form.inputLength info * form.expansion) := by
  unfold rasterLength rowForm at h
  rw [hform] at h
  cases hlength : form.rasterLength? info with
  | none => simp [hlength, bind, Except.bind, throw, throwThe, MonadExceptOf.throw] at h
  | some product =>
    obtain rfl : product = length := by
      simpa [hlength, bind, Except.bind, pure, Except.pure] using h
    unfold RowForm.rasterLength? at hlength
    simp only [Option.bind_eq_bind, Option.bind_eq_some_iff, Address.mul?_eq_some] at hlength
    obtain ⟨line, ⟨rfl, _⟩, plane, ⟨rfl, _⟩, rfl, _⟩ := hlength
    ac_rfl

theorem ImageInfo.rowForm_eq_ok {info : ImageInfo} {form : RowForm}
    (h : info.rowForm = .ok form) : info.rowForm? = some form := by
  unfold rowForm at h
  split at h
  · cases h
    assumption
  · cases h

theorem RowForm.expansion_pos (form : RowForm) : 0 < form.expansion := by
  cases form <;> decide

theorem RowForm.of?_eq_paletteColors {photometric : Photometric} {planar : Planar}
    {form : RowForm} (h : of? photometric planar = some form) :
    form = .paletteColors ↔ photometric = .palette := by
  unfold of? at h
  split at h <;> simp_all [eq_comm]

section

variable {σ : Type} [ScanlineSource σ]

theorem ImageInfo.readSelected_of_read {index? : Option Nat} {info : ImageInfo} {s t : σ}
    (h : ImageInfo.read index? s = .ok info t) : ∃ u, readSelected index? u = .ok info t := by
  cases index? with
  | none => exact ⟨s, h⟩
  | some index =>
    obtain ⟨_, u, _, hrest⟩ := bind_eq_ok h
    exact ⟨u, hrest⟩

theorem ImageInfo.undamaged_of_read {index? : Option Nat} {info : ImageInfo} {s t : σ}
    (h : ImageInfo.read index? s = .ok info t) : info.damaged = false := by
  obtain ⟨u, h⟩ := readSelected_of_read h
  iterate 9 obtain ⟨_, _, _, h⟩ := bind_eq_ok h
  cases h
  rfl

end

namespace Plan

/-- A plan has a color map just when its rows hold indices into one. -/
def Coherent (plan : Plan) : Prop :=
  plan.form = .paletteColors ↔ plan.colormap?.isSome

theorem length_rgb (map : Colormap) (index : Nat) : (map.rgb index).length = 3 := by
  unfold Colormap.rgb
  split <;> rfl

theorem length_expand {plan : Plan} (h : plan.Coherent) (input : List UInt8) :
    (plan.expand input).length = input.length * plan.form.expansion := by
  unfold Coherent at h
  unfold expand
  cases hmap : plan.colormap? with
  | none =>
    have hform : plan.form ≠ .paletteColors := by simp [h, hmap]
    have hone : plan.form.expansion = 1 := by
      cases hf : plan.form <;> simp_all [RowForm.expansion]
    rw [hone, Nat.mul_one]
  | some map =>
    have hform : plan.form = .paletteColors := by simp [h, hmap]
    simp only [hform, RowForm.expansion, List.length_flatMap, length_rgb, List.map_const',
      List.sum_replicate_nat]

variable {σ : Type} [ScanlineSource σ]

/-- A palette image has the color map that the source answers with, any other image has none. -/
theorem readColormap_ok {info : ImageInfo} {map? : Option Colormap} {s t : σ}
    (h : readColormap info s = .ok map? t) :
    (info.photometric = .palette → ∃ map, map? = some map ∧ Colormap.read s = .ok (some map) t) ∧
    (info.photometric ≠ .palette → map? = none) := by
  unfold readColormap at h
  by_cases hpalette : info.photometric = .palette
  · simp only [ne_eq, hpalette, not_true_eq_false, if_false] at h
    obtain ⟨found, u, hread, hrest⟩ := bind_eq_ok h
    refine ⟨fun _ => ?_, fun hne => absurd hpalette hne⟩
    cases found with
    | none => cases hrest
    | some map =>
      cases hrest
      exact ⟨map, rfl, hread⟩
  · simp only [ne_eq, hpalette, not_false_eq_true, if_true] at h
    cases h
    exact ⟨fun heq => absurd heq hpalette, fun _ => rfl⟩

/-- What is known once a plan has been made. -/
theorem read_ok {index? : Option Nat} {room : Nat} {plan : Plan} {s t : σ}
    (h : Plan.read index? room s = .ok plan t) :
    ∃ described mapped required,
      ImageInfo.read index? s = .ok plan.info described ∧
      readColormap plan.info described = .ok plan.colormap? mapped ∧
      plan.info.rowForm? = some plan.form ∧
      plan.info.rasterLength = .ok required ∧ required ≤ room ∧
      ScanlineSource.scanlineSize mapped = .ok plan.scanlineSize t := by
  obtain ⟨info, described, hinfo, hplan⟩ := bind_eq_ok h
  obtain ⟨colormap?, mapped, hmap, hsettle⟩ := bind_eq_ok hplan
  obtain ⟨form, _, hofForm, hmeasure⟩ := bind_eq_ok hsettle
  obtain ⟨hform, rfl⟩ := ofExcept_eq_ok hofForm
  obtain ⟨required, _, hofLength, hcheck⟩ := bind_eq_ok hmeasure
  obtain ⟨hrequired, rfl⟩ := ofExcept_eq_ok hofLength
  by_cases hroom : room < required
  · simp only [if_pos hroom] at hcheck
    cases hcheck
  · simp only [if_neg hroom] at hcheck
    obtain ⟨size, _, hsize, hdone⟩ := bind_eq_ok hcheck
    cases hdone
    exact ⟨described, _, required, hinfo, hmap, ImageInfo.rowForm_eq_ok hform, hrequired,
      Nat.le_of_not_lt hroom, adaptExcept_eq_ok hsize⟩

theorem coherent_of_read {index? : Option Nat} {room : Nat} {plan : Plan} {s t : σ}
    (h : Plan.read index? room s = .ok plan t) : plan.Coherent := by
  obtain ⟨described, mapped, _, _, hmap, hform, _⟩ := read_ok h
  obtain ⟨hpalette, hother⟩ := readColormap_ok hmap
  rw [Coherent, RowForm.of?_eq_paletteColors hform]
  constructor
  · intro heq
    obtain ⟨map, hmap, _⟩ := hpalette heq
    rw [hmap, Option.isSome_some]
  · intro hsome
    apply Decidable.byContradiction
    intro hne
    rw [hother hne] at hsome
    cases hsome

theorem rowForm_of_read {index? : Option Nat} {room : Nat} {plan : Plan} {s t : σ}
    (h : Plan.read index? room s = .ok plan t) : plan.info.rowForm? = some plan.form := by
  obtain ⟨_, _, _, _, _, hform, _⟩ := read_ok h
  exact hform

/-- The raster of a plan is as long as all its scanlines are when they have been expanded. -/
theorem rasterLength_of_read {index? : Option Nat} {room : Nat} {plan : Plan} {s t : σ}
    (h : Plan.read index? room s = .ok plan t) :
    plan.info.rasterLength = .ok (plan.lines * (plan.inputLength * plan.form.expansion)) ∧
      plan.lines * (plan.inputLength * plan.form.expansion) ≤ room := by
  obtain ⟨_, _, required, _, _, hform, hlength, hroom, _⟩ := read_ok h
  have heq := ImageInfo.rasterLength_eq hform hlength
  rw [lines, inputLength, ← heq]
  exact ⟨hlength, hroom⟩

end Plan

end TiffStrip
