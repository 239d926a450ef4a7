import TiffStrip.Bytes.Chunk
import TiffStrip.Proofs.Decode.Plan

namespace TiffStrip

open ScanlineSource

variable {σ : Type} [ScanlineSource σ]

class KeepsBuffers (σ : Type) [ScanlineSource σ] : Prop where
  length_readScanline : ∀ row sample buffer (s t : σ) buffer',
    readScanline row sample buffer s = .ok buffer' t → buffer'.length = buffer.length

/-- While a source is sound, a scanline of an image is a line as long as the image says: a read that
succeeds lays it over the front of the buffer and leaves the rest alone. Neither reading nor asking
for anything else turns the source to another image. -/
structure ServesLines (Sound : σ → Prop) (size : (image : Nat) → Nat)
    (line : (image sample row : Nat) → List UInt8) : Prop where
  inspects : ∀ image, Inspects fun s t : σ => s = t ∧ Sound s ∧ current s = image
  select : ∀ index s t, Sound s → select index s = .ok () t → Sound t ∧ current t = index
  scanlineSize : ∀ s t n, Sound s → scanlineSize s = .ok n t → n = size (current s)
  readScanline : ∀ row sample buffer s t buffer', Sound s →
    readScanline row sample buffer s = .ok buffer' t →
    (Sound t ∧ current t = current s) ∧
      (line (current s) sample row).length = size (current s) ∧
      buffer' = overwrite (line (current s) sample row) buffer

namespace ServesLines

variable {Sound : σ → Prop} {size : Nat → Nat} {line : Nat → Nat → Nat → List UInt8}

/-- Describing the selected image leaves the source sound and turned to it. -/
theorem described (h : ServesLines Sound size line) {index? : Option Nat} {info : ImageInfo}
    {s t : σ} (hs : Sound s) (hinfo : ImageInfo.read index? s = .ok info t) :
    Sound t ∧ current t = index?.getD (current s) := by
  have turned : Sound (turnedTo index? s) ∧
      current (turnedTo index? s) = index?.getD (current s) := by
    cases index? with
    | none => exact ⟨hs, rfl⟩
    | some index =>
      obtain ⟨_, u, hselect, _⟩ := bind_eq_ok hinfo
      have hselect := adaptExcept_eq_ok hselect
      rw [turnedTo, after_of_ok hselect]
      exact h.select index s u hs hselect
  rw [← after_of_ok hinfo]
  exact (h.inspects _).keeps_readInfo index? turned

/-- A plan leaves the source sound and turned to its image, and knows the size of its lines. -/
theorem planned (h : ServesLines Sound size line) {index? : Option Nat} {room : Nat} {plan : Plan}
    {s t : σ} (hs : Sound s) (hplan : Plan.read index? room s = .ok plan t) :
    Sound t ∧ current t = index?.getD (current s) ∧
      plan.scanlineSize = size (index?.getD (current s)) := by
  obtain ⟨u, v, _, hinfo, hmap, _, _, _, hsize⟩ := Plan.read_ok hplan
  have hinspects := h.inspects (index?.getD (current s))
  have hu := h.described hs hinfo
  have hv : Sound v ∧ current v = index?.getD (current s) := by
    rw [← after_of_ok hmap]
    exact simulates_self_iff.mp (hinspects.readColormap plan.info) u hu
  have ht : Sound t ∧ current t = index?.getD (current s) := by
    rw [← after_of_ok hsize]
    exact simulates_self_iff.mp hinspects.scanlineSize v hv
  refine ⟨ht.1, ht.2, ?_⟩
  rw [h.scanlineSize v t _ hv.1 hsize, hv.2]

end ServesLines

end TiffStrip
