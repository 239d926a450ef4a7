import TiffStrip.Image.Colormap

/-!
# Correcting color maps

How many bits a map uses is settled by all of its values together: a single one above 255 has every
other scaled down. So correcting a map is changing nothing, or dividing each of its values by 257.
-/

namespace TiffStrip.Colormap

def values (map : Colormap) : Array UInt16 :=
  map.red ++ map.green ++ map.blue

/-- No value of the map exceeds 255. -/
def Shallow (map : Colormap) : Prop :=
  ∀ value ∈ map.red ++ map.green ++ map.blue, value.toNat ≤ 255

section

variable {map : Colormap} {f g : UInt16 → UInt16}

@[simp] theorem values_mapValues : (map.mapValues f).values = map.values.map f := by
  simp only [values, mapValues, Array.map_append]

theorem mapValues_congr (h : ∀ value ∈ map.values, f value = g value) :
    map.mapValues f = map.mapValues g := by
  simp only [values, Array.mem_append] at h
  simp only [mapValues, mk.injEq]
  refine ⟨?_, ?_, ?_⟩
  · exact Array.map_congr_left fun value hvalue => h value (.inl (.inl hvalue))
  · exact Array.map_congr_left fun value hvalue => h value (.inl (.inr hvalue))
  · exact Array.map_congr_left fun value hvalue => h value (.inr hvalue)

theorem mapValues_eq_self (h : ∀ value ∈ map.values, f value = value) : map.mapValues f = map := by
  rw [mapValues_congr (g := id) h]
  simp only [mapValues, Array.map_id]

theorem mapValues_mapValues : (map.mapValues f).mapValues g = map.mapValues (g ∘ f) := by
  simp only [mapValues, Array.map_map]

end

theorem scale_eq_div (value : UInt16) : scale value = value / 257 :=
  UInt16.toNat_inj.mp (scale_toNat value)

theorem scale_mono {a b : UInt16} (h : a ≤ b) : scale a ≤ scale b := by
  have h : a.toNat ≤ b.toNat := h
  change (scale a).toNat ≤ (scale b).toNat
  rw [scale_toNat, scale_toNat]
  exact Nat.div_le_div_right h

theorem scale_le (value : UInt16) : (scale value).toNat ≤ 255 := by
  have hvalue := value.toNat_lt
  rw [scale_toNat]
  omega

/-- Scaling down undoes scaling up. -/
theorem scale_mul {k : UInt16} (h : k.toNat ≤ 255) : scale (257 * k) = k := by
  apply UInt16.toNat_inj.mp
  have hproduct : (257 * k).toNat = 257 * k.toNat := by
    rw [UInt16.toNat_mul]
    exact Nat.mod_eq_of_lt (by change 257 * k.toNat < 65536; omega)
  rw [scale_toNat, hproduct, Nat.mul_div_cancel_left _ (by decide)]

variable {map : Colormap}

/-- One value above 255, in whichever channel, makes a map use 16 bits. -/
theorem isDeep_iff : map.isDeep = true ↔ ∃ value ∈ map.values, 255 < value.toNat := by
  have hany : map.isDeep = map.values.any (255 < ·) := by
    simp only [isDeep, values, Array.any_append]
  rw [hany, Array.any_eq_true']
  simp only [decide_eq_true_eq]
  rfl

theorem shallow_iff : map.Shallow ↔ map.isDeep = false := by
  rw [← Bool.not_eq_true, isDeep_iff]
  simp only [not_exists, not_and, Nat.not_lt]
  rfl

instance (map : Colormap) : Decidable map.Shallow :=
  decidable_of_iff _ shallow_iff.symm

theorem correct_of_shallow (h : map.Shallow) : map.correct = (.eight, map) := by
  rw [correct, shallow_iff.mp h]
  rfl

theorem correct_of_deep (h : ∃ value ∈ map.values, 255 < value.toNat) :
    map.correct = (.sixteen, map.mapValues scale) := by
  rw [correct, isDeep_iff.mpr h]
  rfl

theorem shallow_scaled (map : Colormap) : (map.mapValues scale).Shallow := by
  change ∀ value ∈ (map.mapValues scale).values, value.toNat ≤ 255
  intro value hvalue
  rw [values_mapValues, Array.mem_map] at hvalue
  obtain ⟨stored, _, rfl⟩ := hvalue
  exact scale_le stored

/-- A map whose depth has been found and corrected uses 8 bits, whatever its values were. -/
theorem shallow_correct (map : Colormap) : map.correct.2.Shallow := by
  unfold correct
  cases hdeep : map.isDeep with
  | true => exact shallow_scaled map
  | false => exact shallow_iff.mpr hdeep

theorem depth_iff : map.correct.1 = .sixteen ↔ ∃ value ∈ map.values, 255 < value.toNat := by
  rw [← isDeep_iff, correct]
  cases map.isDeep <;> simp

/-- What a correction of the map does to a value: the same whichever channel the value is in. -/
def correction (map : Colormap) (value : UInt16) : UInt16 :=
  if map.isDeep then scale value else value

theorem correct_eq_mapValues (map : Colormap) : map.correct.2 = map.mapValues map.correction := by
  unfold correct
  cases hdeep : map.isDeep with
  | true => exact mapValues_congr fun value _ => by rw [correction, hdeep, if_pos rfl]
  | false =>
    refine (mapValues_eq_self fun value _ => ?_).symm
    rw [correction, hdeep, if_neg Bool.false_ne_true]

theorem correction_mono (map : Colormap) {a b : UInt16} (h : a ≤ b) :
    map.correction a ≤ map.correction b := by
  unfold correction
  split
  · exact scale_mono h
  · exact h

/-- A map of 8 bits that has been scaled up, unless it is all zeros, is scaled down to itself. -/
theorem correct_scaledUp {small : Colormap} (hsmall : small.Shallow)
    (hnonzero : ∃ k ∈ small.values, k ≠ 0) :
    (small.mapValues (257 * ·)).correct = (.sixteen, small) := by
  have hback : (small.mapValues (257 * ·)).mapValues scale = small := by
    rw [mapValues_mapValues]
    exact mapValues_eq_self fun k hk => scale_mul (hsmall k hk)
  obtain ⟨k, hk, hnonzero⟩ := hnonzero
  have hdeep : 255 < (257 * k).toNat := by
    -- What is scaled down to more than zero is at least 257.
    have hscaled := congrArg UInt16.toNat (scale_mul (hsmall k hk))
    have hpos : k.toNat ≠ 0 := fun hzero => hnonzero (UInt16.toNat_inj.mp hzero)
    rw [scale_toNat] at hscaled
    omega
  have hmem : 257 * k ∈ (small.mapValues (257 * ·)).values := by
    rw [values_mapValues]
    exact Array.mem_map_of_mem hk
  rw [correct_of_deep ⟨_, hmem, hdeep⟩, hback]

/-- **Correcting a map normalizes it.** A map is found to use 16 bits just if some value of some
channel exceeds 255. Then all values of all channels are divided by 257, and otherwise none is
changed. No value of a corrected map exceeds 255, so correcting it again finds 8 bits and changes
nothing. The channels keep their lengths, and of two values, in whichever channels, the one that was
not greater is not greater afterwards. A map of 8 bits, not all zeros, that has had every value
multiplied by 257 becomes that map again. -/
theorem correct_normalizes (map : Colormap) :
    let corrected := map.correct.2
    (map.correct.1 = .sixteen ↔ ∃ value ∈ map.values, 255 < value.toNat) ∧
    (map.correct.1 = .sixteen → corrected = map.mapValues fun value => value / 257) ∧
    (map.correct.1 = .eight → corrected = map) ∧
    (corrected.Shallow ∧ corrected.correct = (.eight, corrected)) ∧
    (corrected.red.size = map.red.size ∧ corrected.green.size = map.green.size ∧
      corrected.blue.size = map.blue.size) ∧
    (∀ (i j : Nat) (a b : UInt16),
      map.values[i]? = some a → map.values[j]? = some b → a ≤ b →
      ∃ a' b', corrected.values[i]? = some a' ∧ corrected.values[j]? = some b' ∧ a' ≤ b') ∧
    ∀ small : Colormap, small.Shallow → (∃ k ∈ small.values, k ≠ 0) →
      (small.mapValues fun k => 257 * k).correct = (.sixteen, small) := by
  intro corrected
  have hshallow : corrected.Shallow := shallow_correct map
  have hcorrected : corrected = map.mapValues map.correction := correct_eq_mapValues map
  refine ⟨depth_iff, fun hsixteen => ?_, fun hsame => ?_,
    ⟨hshallow, correct_of_shallow hshallow⟩, ?_, fun i j a b ha hb hab => ?_,
    fun small => correct_scaledUp⟩
  · have hscaled := correct_of_deep (depth_iff.mp hsixteen)
    have hdivided : map.mapValues scale = map.mapValues fun value => value / 257 :=
      mapValues_congr fun value _ => scale_eq_div value
    exact (congrArg Prod.snd hscaled).trans hdivided
  · have hnone : map.Shallow := by
      rw [shallow_iff, ← Bool.not_eq_true, isDeep_iff, ← depth_iff, hsame]
      nofun
    exact congrArg Prod.snd (correct_of_shallow hnone)
  · rw [hcorrected]
    simp only [mapValues, Array.size_map, and_self]
  · rw [hcorrected, values_mapValues, Array.getElem?_map, Array.getElem?_map, ha, hb]
    exact ⟨_, _, rfl, rfl, map.correction_mono hab⟩

/-- One value of 16 bits among others, and the map of 8 bits that it was made from. -/
theorem correct_normalizes_mixed :
    let map : Colormap := ⟨#[0, 255], #[256, 7], #[65535, 514], rfl, rfl⟩
    let small : Colormap := ⟨#[0], #[1], #[255], rfl, rfl⟩
    map.correct = (.sixteen, ⟨#[0, 0], #[0, 0], #[255, 2], rfl, rfl⟩) ∧
      map.correct.2.correct = (.eight, map.correct.2) ∧
      (∃ a' b', map.correct.2.values[1]? = some a' ∧ map.correct.2.values[2]? = some b' ∧ a' ≤ b') ∧
      (small.mapValues fun k => 257 * k).correct = (.sixteen, small) := by
  intro map small
  obtain ⟨hdepth, hdivided, _, ⟨_, hagain⟩, _, horder, hsmall⟩ := correct_normalizes map
  have hsixteen := hdepth.mpr ⟨65535, by decide +kernel, by decide +kernel⟩
  refine ⟨Prod.ext hsixteen ((hdivided hsixteen).trans (by decide +kernel)), hagain,
    horder 1 2 255 256 (by decide +kernel) (by decide +kernel) (by decide +kernel),
    hsmall small (by decide +kernel) ?_⟩
  exact ⟨255, by decide +kernel, by decide +kernel⟩

end TiffStrip.Colormap
