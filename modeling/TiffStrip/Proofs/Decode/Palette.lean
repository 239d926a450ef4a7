import TiffStrip.Proofs.Colormap.Read
import TiffStrip.Proofs.Decode.Scan
import TiffStrip.Proofs.Literal

/-!
# Palette images

A map is scaled down to 8 bits before it is used, and drawing then takes the high byte of what
should have 16. Nothing is left of the colors.
-/

namespace TiffStrip

open ScanlineSource

namespace Colormap

theorem high_byte_eq_zero {value : UInt16} (h : value.toNat ≤ 255) : (value / 256).toUInt8 = 0 := by
  have hzero : value / 256 = 0 := by
    apply UInt16.toNat_inj.mp
    rw [UInt16.toNat_div]
    exact Nat.div_eq_of_lt (Nat.lt_succ_of_le h)
  rw [hzero]
  rfl

/-- A map that uses 8 bits draws black for every index, also past its end. -/
theorem rgb_of_shallow {map : Colormap} (h : map.Shallow) (index : Nat) :
    map.rgb index = [0, 0, 0] := by
  unfold rgb
  cases hcolor : map.color? index with
  | none => rfl
  | some color =>
    obtain ⟨r, g, b⟩ := color
    simp only [color?, Option.bind_eq_bind, Option.bind_eq_some_iff, Option.pure_def,
      Option.some.injEq, Prod.mk.injEq] at hcolor
    obtain ⟨_, hr, _, hg, _, hb, rfl, rfl, rfl⟩ := hcolor
    have hred := h _ (Array.mem_append_left _ (Array.mem_append_left _ (Array.mem_of_getElem? hr)))
    have hgreen :=
      h _ (Array.mem_append_left _ (Array.mem_append_right _ (Array.mem_of_getElem? hg)))
    have hblue := h _ (Array.mem_append_right _ (Array.mem_of_getElem? hb))
    simp only [high_byte_eq_zero hred, high_byte_eq_zero hgreen, high_byte_eq_zero hblue]

variable {σ : Type} [ScanlineSource σ]

/-- The map that a source answers with has been corrected. -/
theorem shallow_of_read {map : Colormap} {s t : σ} (h : Colormap.read s = .ok (some map) t) :
    map.Shallow := by
  obtain ⟨_, _, _, stored, rfl⟩ := read_ok h
  exact shallow_correct stored

end Colormap

theorem drawn_of_shallow {map : Colormap} (h : map.Shallow) (input : List UInt8) :
    ∀ byte ∈ drawn (some map) input, byte = 0 := by
  simp only [drawn, Colormap.rgb_of_shallow h, List.mem_flatMap]
  rintro byte ⟨_, _, hbyte⟩
  simpa using hbyte

variable {σ : Type} [ScanlineSource σ]

/-- Every scanline of a palette image is drawn black. -/
theorem Plan.Scan.raster_of_palette {index? : Option Nat} {room count : Nat} {plan : Plan}
    {s planned : σ} (hplan : Plan.read index? room s = .ok plan planned)
    (hpalette : plan.info.photometric = .palette) (scan : plan.Scan planned count) :
    ∀ byte ∈ scan.raster, byte = 0 := by
  obtain ⟨_, _, _, _, hmap, _⟩ := Plan.read_ok hplan
  obtain ⟨map, hsome, hread⟩ := (Plan.readColormap_ok hmap).1 hpalette
  intro byte hbyte
  obtain ⟨line, _, hbyte⟩ := List.mem_flatMap.mp hbyte
  rw [Plan.expand_eq_drawn, hsome] at hbyte
  exact drawn_of_shallow (Colormap.shallow_of_read hread) _ byte hbyte

/-- The raster of a palette image is settled by how much of it was laid down. -/
theorem raster_of_palette {index? : Option Nat} {raster : Array UInt8} {source : σ}
    {outcome : Outcome} (hok : (decodeInto index? raster source).result = .ok outcome)
    (hpalette : outcome.info.photometric = .palette) :
    (decodeInto index? raster source).raster.toList =
      overwrite (List.replicate outcome.written 0) raster.toList := by
  obtain ⟨plan, planned, count, scan, hplan, hyields⟩ := scan_of_decoded hok
  rw [hyields.info] at hpalette
  rw [hyields.raster, hyields.written,
    ← List.eq_replicate_of_mem (scan.raster_of_palette hplan hpalette)]

/-- **Palette images are drawn black.** No map that a source answers with has a value above 255,
whatever its tag holds, and drawing divides by 256. So a decode of a palette image, complete or not,
lays down zeros: another map, other scanlines or another source leave the same raster, if as much of
it is laid down. -/
theorem palette_drawn_black {index? : Option Nat} {raster : Array UInt8} {source : σ}
    {outcome : Outcome} (hok : (decodeInto index? raster source).result = .ok outcome)
    (hpalette : outcome.info.photometric = .palette) :
    (∀ (described : σ) (map : Colormap), answer Colormap.read described = .ok (some map) →
      map.Shallow ∧ ∀ index, map.rgb index = [0, 0, 0]) ∧
    (decodeInto index? raster source).raster.toList =
      List.replicate outcome.written 0 ++ raster.toList.drop outcome.written ∧
    ∀ (τ : Type) [ScanlineSource τ] (otherIndex? : Option Nat) (other : τ) (otherOutcome : Outcome),
      (decodeInto otherIndex? raster other).result = .ok otherOutcome →
      otherOutcome.info.photometric = .palette → otherOutcome.written = outcome.written →
      (decodeInto otherIndex? raster other).raster = (decodeInto index? raster source).raster := by
  have hraster := raster_of_palette hok hpalette
  refine ⟨fun described map hread => ?_, ?_, fun _ _ _ other _ hother hphotometric hwritten => ?_⟩
  · have hshallow := Colormap.shallow_of_read (answer_eq_ok.mp hread)
    exact ⟨hshallow, Colormap.rgb_of_shallow hshallow⟩
  · rw [hraster, overwrite, List.length_replicate]
  · apply Array.toList_inj.mp
    rw [hraster, raster_of_palette hother hphotometric, hwritten]

/-- A row of two pixels above a row that is missing, in two colors. -/
def twoColors (colors : List Nat) (row : List UInt8) : LiteralSource where
  images := [{
    fields := [(.imageWidth, .unsigned [2]), (.imageLength, .unsigned [2]),
      (.bitsPerSample, .unsigned [1]), (.photometricInterpretation, .unsigned [3]),
      (.colorMap, .unsigned colors)]
    planes := [[row]]
    scanlineSize := 2 }]

theorem twoColors_drawn_black :
    let deep := twoColors [0x1234, 0xFFFF, 0x5678, 0xFFFF, 0x9ABC, 0xFFFF] [0, 1]
    let low := twoColors [1, 2, 3, 4, 5, 255] [7, 0]
    let raster := Array.replicate 13 99
    ∃ outcome, (decodeInto none raster deep).result = .ok outcome ∧ outcome.written = 6 ∧
      (decodeInto none raster deep).raster.toList =
        List.replicate 6 0 ++ raster.toList.drop 6 ∧
      (decodeInto none raster low).raster = (decodeInto none raster deep).raster := by
  intro deep low raster
  have drawn (source : LiteralSource)
      (h : (decodeInto none raster source).result.toOption.map
        (fun outcome => (outcome.info.photometric, outcome.written)) = some (.palette, 6)) :
      ∃ outcome, (decodeInto none raster source).result = .ok outcome ∧
        outcome.info.photometric = .palette ∧ outcome.written = 6 := by
    obtain ⟨outcome, houtcome, hpair⟩ := Option.map_eq_some_iff.mp h
    exact ⟨outcome, except_toOption_eq_some.mp houtcome, Prod.mk.inj hpair⟩
  obtain ⟨outcome, hok, hpalette, hwritten⟩ := drawn deep (by decide +kernel)
  obtain ⟨other, hother, hphotometric, hsame⟩ := drawn low (by decide +kernel)
  obtain ⟨_, hblack, hraster⟩ := palette_drawn_black hok hpalette
  rw [hwritten] at hblack
  exact ⟨outcome, hok, hwritten, hblack,
    hraster _ none low other hother hphotometric (hsame.trans hwritten.symm)⟩

end TiffStrip
