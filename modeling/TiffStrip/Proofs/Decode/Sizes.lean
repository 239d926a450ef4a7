import Mathlib.Data.Rat.Floor
import TiffStrip.Proofs.Decode.Plan
import TiffStrip.Proofs.Source.Fields

/-!
# Sizes

The sizes of an image are products of numbers that have 32 or 16 bits in its tags. Some of them always
have 64 bits, some are capped there, and for some it is checked.
-/

namespace TiffStrip

theorem ceilDiv_eq_ceil (a : Nat) {b : Nat} (hb : 0 < b) : ceilDiv a b = ⌈(a : ℚ) / b⌉₊ := by
  refine eq_of_forall_ge_iff fun c => ?_
  rw [ceilDiv_le_iff hb, Nat.ceil_le, div_le_iff₀ (Nat.cast_pos.mpr hb)]
  exact_mod_cast Iff.rfl

namespace Address

theorem lt_limit_iff {a : Nat} : a < limit ↔ a ≤ top :=
  Nat.lt_iff_le_pred (by decide)

/-- Capping a product of a capped product is capping the whole. -/
theorem mulCapped_mulCapped (a b c : Nat) : mulCapped (mulCapped a b) c = min (a * b * c) top := by
  unfold mulCapped
  rcases Nat.eq_zero_or_pos c with rfl | hc
  · rfl
  · rcases Nat.le_total (a * b) top with hab | hab
    · rw [Nat.min_eq_left hab]
    · rw [Nat.min_eq_right hab, Nat.min_eq_right (Nat.le_mul_of_pos_right top hc),
        Nat.min_eq_right (Nat.le_trans hab (Nat.le_mul_of_pos_right _ hc))]

end Address

namespace ImageInfo

structure InRange (info : ImageInfo) : Prop where
  width : info.width < 2 ^ 32
  height : info.height < 2 ^ 32
  bits : info.bitsPerSample < 2 ^ 16
  samples : info.samplesPerPixel < 2 ^ 16

instance (info : ImageInfo) : Decidable info.InRange :=
  decidable_of_iff (info.width < 2 ^ 32 ∧ info.height < 2 ^ 32 ∧ info.bitsPerSample < 2 ^ 16 ∧
    info.samplesPerPixel < 2 ^ 16)
    ⟨fun h => ⟨h.1, h.2.1, h.2.2.1, h.2.2.2⟩, fun h => ⟨h.width, h.height, h.bits, h.samples⟩⟩

/-- What is read from a source is in range. -/
theorem inRange_of_read {σ : Type} [ScanlineSource σ] {index? : Option Nat} {info : ImageInfo}
    {s t : σ} (h : ImageInfo.read index? s = .ok info t) : info.InRange := by
  obtain ⟨u, h⟩ := readSelected_of_read h
  obtain ⟨width?, _, hwidth, h⟩ := bind_eq_ok h
  obtain ⟨height?, _, hheight, h⟩ := bind_eq_ok h
  obtain ⟨compression?, _, _, h⟩ := bind_eq_ok h
  obtain ⟨subfileType?, _, _, h⟩ := bind_eq_ok h
  obtain ⟨bits, _, hbits, h⟩ := bind_eq_ok h
  obtain ⟨samples, _, hsamples, h⟩ := bind_eq_ok h
  iterate 3 obtain ⟨_, _, _, h⟩ := bind_eq_ok h
  cases h
  constructor
  · exact FieldSource.lt_of_fieldAs32 (answer_of_ok (adaptExcept_eq_ok hwidth))
  · exact FieldSource.lt_of_fieldAs32 (answer_of_ok (adaptExcept_eq_ok hheight))
  · exact FieldSource.lt_of_defaulted16 (answer_of_ok (adaptExcept_eq_ok hbits))
  · exact FieldSource.lt_of_defaulted16 (answer_of_ok (adaptExcept_eq_ok hsamples))

namespace InRange

variable {info : ImageInfo}

/-- A width times two numbers of 16 bits has 64 bits. -/
theorem mul_mul_le (h : info.InRange) {a b : Nat} (ha : a < 2 ^ 16) (hb : b < 2 ^ 16) :
    info.width * a * b ≤ Address.top :=
  calc info.width * a * b
      ≤ (2 ^ 32 - 1) * (2 ^ 16 - 1) * (2 ^ 16 - 1) :=
        Nat.mul_le_mul (Nat.mul_le_mul (Nat.le_pred_of_lt h.width) (Nat.le_pred_of_lt ha))
          (Nat.le_pred_of_lt hb)
    _ ≤ Address.top := by decide

theorem mul_le (h : info.InRange) {a : Nat} (ha : a < 2 ^ 16) : info.width * a ≤ Address.top := by
  rw [← Nat.mul_one (info.width * a)]
  exact h.mul_mul_le ha (by decide)

theorem samplesPerScanline_lt (h : info.InRange) :
    samplesPerScanline info.planar info.samplesPerPixel < 2 ^ 16 := by
  cases info.planar with
  | contiguous => exact h.samples
  | separate => exact Nat.one_lt_two_pow (by decide)

theorem planes_lt (h : info.InRange) (form : RowForm) : form.planes info < 2 ^ 16 := by
  unfold RowForm.planes
  split
  · exact h.samples
  · decide

/-- The raster bytes of what is taken of a scanline have 64 bits. -/
theorem inputLength_le (h : info.InRange) (form : RowForm) :
    form.inputLength info * form.expansion ≤ Address.top := by
  have hrow : info.bytesPerRow ≤ info.width * info.bitsPerSample :=
    (ceilDiv_le_iff (by decide)).mpr (Nat.le_mul_of_pos_right _ (by decide))
  cases form with
  | graySamples =>
    calc info.bytesPerRow * info.samplesPerPixel * 1
        ≤ info.width * info.bitsPerSample * info.samplesPerPixel * 1 :=
          Nat.mul_le_mul_right 1 (Nat.mul_le_mul_right _ hrow)
      _ = info.width * info.bitsPerSample * info.samplesPerPixel := Nat.mul_one _
      _ ≤ Address.top := h.mul_mul_le h.bits h.samples
  | grayPlanes =>
    calc info.bytesPerRow * 1
        ≤ info.width * info.bitsPerSample * 1 := Nat.mul_le_mul_right 1 hrow
      _ ≤ Address.top := h.mul_mul_le h.bits (by decide)
  | paletteColors => exact h.mul_le (a := 3) (by decide)
  | rgbPixels => exact h.mul_mul_le (b := 1) h.samples (by decide)
  | rgbPlanes => exact h.mul_le (a := 1) (by decide)

/-- The length of a raster is the product of what it is made of, if that has 64 bits. With a plane at
least no product is larger than the whole, but for what is taken of one scanline. -/
theorem rasterLength?_eq_some (h : info.InRange) {form : RowForm} (hplanes : 0 < form.planes info)
    {length : Nat} :
    form.rasterLength? info = some length ↔
      length = form.inputLength info * form.expansion * info.height * form.planes info ∧
        form.inputLength info * form.expansion * info.height * form.planes info ≤ Address.top := by
  unfold RowForm.rasterLength?
  simp only [Option.bind_eq_bind, Option.bind_eq_some_iff, Address.mul?_eq_some,
    Address.lt_limit_iff]
  constructor
  · rintro ⟨_, ⟨rfl, _⟩, _, ⟨rfl, _⟩, rfl, hlength⟩
    exact ⟨rfl, hlength⟩
  · rintro ⟨rfl, hlength⟩
    have hplane := Nat.le_trans (Nat.le_mul_of_pos_right _ hplanes) hlength
    exact ⟨_, ⟨rfl, h.inputLength_le form⟩, _, ⟨rfl, hplane⟩, rfl, hlength⟩

theorem rasterLength?_eq_none (h : info.InRange) {form : RowForm} (hplanes : 0 < form.planes info)
    (hlong : Address.top < form.inputLength info * form.expansion * info.height * form.planes info) :
    form.rasterLength? info = none := by
  cases hlength : form.rasterLength? info with
  | none => rfl
  | some length =>
    obtain ⟨rfl, hfits⟩ := (h.rasterLength?_eq_some hplanes).mp hlength
    exact absurd hfits (Nat.not_le.mpr hlong)

end InRange

theorem maxSample_eq (info : ImageInfo) :
    info.maxSample = min (2 ^ info.bitsPerSample - 1) Address.top := by
  have htop : Address.top = 2 ^ 64 - 1 := rfl
  rw [maxSample, Nat.one_shiftLeft, htop]
  split
  · rename_i hbits
    have hle : 2 ^ info.bitsPerSample ≤ 2 ^ 64 :=
      Nat.pow_le_pow_right (by decide) (Nat.le_of_lt hbits)
    exact (Nat.min_eq_left (Nat.sub_le_sub_right hle 1)).symm
  · rename_i hbits
    have hle : 2 ^ 64 ≤ 2 ^ info.bitsPerSample :=
      Nat.pow_le_pow_right (by decide) (Nat.not_lt.mp hbits)
    exact (Nat.min_eq_right (Nat.sub_le_sub_right hle 1)).symm

theorem rasterLength_of_rowForm {info : ImageInfo} {form : RowForm}
    (hform : info.rowForm? = some form) :
    info.rasterLength =
      match form.rasterLength? info with
      | some length => .ok length
      | none => .error (.unsupported (.tooLarge info.width info.height)) := by
  unfold rasterLength rowForm
  rw [hform]
  dsimp only [bind, Except.bind]
  cases form.rasterLength? info <;> rfl

/-- **Sizes are exact as far as they have 64 bits.** The bits of a scanline never have more, so its size
is the quotient by eight, rounded up. The size of all rows and the largest sample are exact or capped.
The length of a raster is the product of what it is made of, and an image has one just if that product
has 64 bits; an image whose pixels have no samples is left out. -/
theorem sizes_exact {info : ImageInfo} (h : info.InRange) :
    let n := if info.planar = .contiguous then info.samplesPerPixel else 1
    (info.width * n ≤ Address.top ∧ info.width * n * info.bitsPerSample ≤ Address.top ∧
      scanlineBytes info.width info.bitsPerSample info.samplesPerPixel info.planar =
        ⌈((info.width * n * info.bitsPerSample : ℕ) : ℚ) / 8⌉₊) ∧
    info.rasterSize =
      min (⌈((info.width * info.bitsPerSample : ℕ) : ℚ) / 8⌉₊ * info.height * info.samplesPerPixel)
        Address.top ∧
    info.maxSample = min (2 ^ info.bitsPerSample - 1) Address.top ∧
    ∀ form, info.rowForm? = some form → 1 ≤ info.samplesPerPixel →
      let product := form.inputLength info * form.expansion * info.height * form.planes info
      form.inputLength info ≤ Address.top ∧
      (∀ length, info.rasterLength = .ok length ↔ length = product ∧ product ≤ Address.top) ∧
      (Address.top < product →
        info.rasterLength = .error (.unsupported (.tooLarge info.width info.height))) := by
  intro n
  have hn : samplesPerScanline info.planar info.samplesPerPixel = n := by
    cases hplanar : info.planar <;> simp [samplesPerScanline, n, hplanar]
  have hsmall : n < 2 ^ 16 := hn ▸ h.samplesPerScanline_lt
  refine ⟨⟨h.mul_le hsmall, h.mul_mul_le hsmall h.bits, ?_⟩, ?_, info.maxSample_eq,
    fun form hform hsamples => ?_⟩
  · rw [scanlineBytes, hn, ceilDiv_eq_ceil _ (by decide)]
    norm_num
  · rw [rasterSize, Address.mulCapped_mulCapped, bytesPerRow, ceilDiv_eq_ceil _ (by decide)]
    norm_num
  · have hplanes : 0 < form.planes info := by
      unfold RowForm.planes
      split
      · exact hsamples
      · decide
    intro product
    rw [rasterLength_of_rowForm hform]
    refine ⟨Nat.le_trans (Nat.le_mul_of_pos_right _ form.expansion_pos) (h.inputLength_le form),
      fun length => ?_, fun hlong => ?_⟩
    · rw [← h.rasterLength?_eq_some hplanes]
      cases form.rasterLength? info with
      | none => exact iff_of_false nofun nofun
      | some found => rw [Except.ok.injEq, Option.some.injEq]
    · rw [h.rasterLength?_eq_none hplanes hlong]

/-- An image as wide as its tag can say, with as many samples and bits. -/
def widest (height : Nat) : ImageInfo where
  index? := none
  subfileType := 0
  width := 0xFFFFFFFF
  height
  bitsPerSample := 0xFFFF
  samplesPerPixel := 0xFFFF
  planar := .contiguous
  photometric := .minIsBlack
  compression := 1
  imageCount := 1
  description? := none
  damaged := false

/-- Eight of its rows can be addressed, nine cannot. -/
theorem sizes_exact_widest :
    (widest 8).InRange ∧ (widest 8).rasterLength = .ok 18446181123756720120 ∧
      (widest 9).InRange ∧ (widest 9).rasterLength =
        .error (.unsupported (.tooLarge 0xFFFFFFFF 9)) := by
  have hranges : (widest 8).InRange ∧ (widest 9).InRange := by decide
  obtain ⟨hfits, hnine⟩ := hranges
  obtain ⟨_, _, _, hlengths⟩ := sizes_exact hfits
  obtain ⟨_, _, _, hlong⟩ := sizes_exact hnine
  obtain ⟨_, hlength, _⟩ := hlengths .graySamples rfl (by decide)
  obtain ⟨_, _, hrefused⟩ := hlong .graySamples rfl (by decide)
  refine ⟨hfits, (hlength _).mpr (by decide +kernel), hnine, hrefused (by decide +kernel)⟩

end ImageInfo

end TiffStrip
