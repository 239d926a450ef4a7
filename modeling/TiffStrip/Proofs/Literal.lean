import TiffStrip.Literal
import TiffStrip.Proofs.Source.Lines

namespace TiffStrip.LiteralSource

theorem readScanline_eq (row sample : Nat) (buffer : List UInt8) (source : LiteralSource) :
    readScanline row sample buffer source =
      match source.image.planes[sample]?.bind (·[row]?) with
      | none => .error (.scanlineOutOfRange row sample 0 source.image.planes.length) source
      | some line =>
        if buffer.length < line.length then
          .error (.scanlineBufferTooSmall line.length buffer.length) source
        else .ok (overwrite line buffer) source := by
  unfold readScanline
  rw [get_bind]
  dsimp only
  cases source.image.planes[sample]?.bind (·[row]?) with
  | none => rfl
  | some line =>
    dsimp only
    by_cases hbuffer : buffer.length < line.length
    · rw [if_pos hbuffer, if_pos hbuffer]
      rfl
    · rw [if_neg hbuffer, if_neg hbuffer]
      rfl

theorem readScanline_ok {row sample : Nat} {buffer buffer' : List UInt8}
    {source left : LiteralSource} (h : readScanline row sample buffer source = .ok buffer' left) :
    left = source ∧ ∃ line, source.image.planes[sample]?.bind (·[row]?) = some line ∧
      line.length ≤ buffer.length ∧ buffer' = overwrite line buffer := by
  rw [readScanline_eq] at h
  split at h
  · cases h
  · rename_i line hline
    split at h
    · cases h
    · rename_i hbuffer
      cases h
      exact ⟨rfl, line, hline, Nat.le_of_not_lt hbuffer, rfl⟩

theorem after_readScanline (row sample : Nat) (buffer : List UInt8) (source : LiteralSource) :
    after (readScanline row sample buffer) source = source := by
  rw [after, readScanline_eq]
  cases source.image.planes[sample]?.bind (·[row]?) with
  | none => rfl
  | some line =>
    by_cases hbuffer : buffer.length < line.length
    · simp only [if_pos hbuffer]
    · simp only [if_neg hbuffer]

theorem reads_same (P : LiteralSource → Prop) :
    Reads fun source other : LiteralSource => source = other ∧ P source where
  name := fun s t h => by rw [h.1]
  imageCount := fun s t h => by rw [h.1]
  dataSize := fun s t h => by rw [h.1]
  field := fun tag => simulates_self_iff.mpr fun s hs => hs
  scanlineSize := simulates_self_iff.mpr fun s hs => hs
  readScanline := fun row sample buffer => simulates_self_iff.mpr fun s hs =>
    (after_readScanline row sample buffer s).symm ▸ hs

instance : KeepsBuffers LiteralSource where
  length_readScanline row sample buffer source left buffer' h := by
    obtain ⟨_, line, _, hbuffer, rfl⟩ := readScanline_ok h
    exact length_overwrite hbuffer

/-- Every line is as long as its image states. -/
def Even (images : List LiteralImage) : Prop :=
  ∀ image ∈ images, ∀ plane ∈ image.planes, ∀ line ∈ plane, line.length = image.scanlineSize

def line (source : LiteralSource) (sample row : Nat) : List UInt8 :=
  (source.image.planes[sample]?.bind (·[row]?)).getD []

theorem length_line {source : LiteralSource} (h : Even source.images) {sample row : Nat}
    {line : List UInt8} (hline : source.image.planes[sample]?.bind (·[row]?) = some line) :
    line.length = source.image.scanlineSize := by
  obtain ⟨plane, hplane, hrow⟩ := Option.bind_eq_some_iff.mp hline
  have hmem := List.mem_of_getElem? hrow
  have hplanes := List.mem_of_getElem? hplane
  unfold image at hplanes ⊢
  cases himage : source.images[source.current]? with
  | none => simp [himage] at hplanes
  | some image =>
    simp only [himage, Option.getD_some] at hplanes ⊢
    exact h image (List.mem_of_getElem? himage) plane hplanes line hmem

theorem servesLines {images : List LiteralImage} (h : Even images) :
    ServesLines (fun source : LiteralSource => source.images = images)
      (fun current => ({ images, current } : LiteralSource).image.scanlineSize)
      (fun current sample row => ({ images, current } : LiteralSource).line sample row) := by
  constructor
  case inspects =>
    intro image
    exact (reads_same fun s => s.images = images ∧ ScanlineSource.current s = image).toInspects
  case select =>
    intro index source left hsource hselect
    change (if index < source.images.length then _ else _ : EStateM _ _ _) source = _ at hselect
    by_cases hindex : index < source.images.length
    · rw [if_pos hindex] at hselect
      cases hselect
      exact ⟨hsource, rfl⟩
    · rw [if_neg hindex] at hselect
      cases hselect
  case scanlineSize =>
    rintro source left size rfl hsize
    cases hsize
    rfl
  case readScanline =>
    rintro row sample buffer source left buffer' rfl hread
    obtain ⟨rfl, line, hline, _, rfl⟩ := readScanline_ok hread
    have hgiven : left.line sample row = line := by rw [LiteralSource.line, hline, Option.getD_some]
    refine ⟨⟨rfl, rfl⟩, ?_, ?_⟩
    · change (left.line sample row).length = left.image.scanlineSize
      rw [hgiven]
      exact length_line h hline
    · change _ = overwrite (left.line sample row) buffer
      rw [hgiven]

end TiffStrip.LiteralSource
