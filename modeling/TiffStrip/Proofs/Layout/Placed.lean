import TiffStrip.Proofs.Layout.Fields
import TiffStrip.Proofs.Layout.Strips

namespace TiffStrip

namespace StoredField

theorem length_outside (encoding : Encoding) {field other : StoredField}
    (h : field.size = other.size) :
    (field.outside encoding).length = (other.outside encoding).length := by
  unfold outside
  rw [h]
  by_cases hinline : other.size ≤ encoding.format.offsetSize
  · rw [if_pos hinline, if_pos hinline]
  · rw [if_neg hinline, if_neg hinline, length_bytes, length_bytes, h]

theorem length_entries (encoding : Encoding) (offset : Nat) (fields : List StoredField) :
    (entries encoding offset fields).length = fields.length := by
  induction fields generalizing offset with
  | nil => rfl
  | cons field fields ih => rw [entries, List.length_cons, List.length_cons, ih]

theorem entries_sound {encoding : Encoding} {offset : Nat} {fields : List StoredField}
    (h : ∀ field ∈ fields, field.Sound encoding) :
    ∀ entry ∈ entries encoding offset fields, entry.Sound encoding := by
  induction fields generalizing offset with
  | nil =>
    intro entry hentry
    cases hentry
  | cons field fields ih =>
    intro entry hentry
    rcases List.mem_cons.mp hentry with rfl | hentry
    · exact entry_sound (h field List.mem_cons_self)
    · exact ih (fun field hfield => h field (List.mem_cons_of_mem _ hfield)) entry hentry

end StoredField

namespace StoredImage

/-- The type of the offsets of the strips: as wide as any offset. -/
theorem size_offsetType (format : Format) :
    (if format = .big then FieldType.long8 else .long).size = format.offsetSize := by
  cases format <;> rfl

section

variable (image : StoredImage) (format : Format)

theorem length_fields (offsets : List Nat) :
    (image.fields format offsets).length = (image.fields format []).length := by
  unfold fields
  cases image.kind.planar <;> rfl

theorem length_fields_lt (offsets : List Nat) :
    (image.fields format offsets).length < wordLimit 2 := by
  have hlength : (image.fields format offsets).length ≤ 9 := by
    unfold fields
    cases image.kind.planar <;> simp
  exact Nat.lt_of_le_of_lt hlength (by decide)

/-- An offset takes the same room whatever it is. -/
theorem length_outside_fields (encoding : Encoding) {offsets others : List Nat}
    (h : offsets.length = others.length) :
    ((image.fields encoding.format offsets).flatMap (·.outside encoding)).length =
      ((image.fields encoding.format others).flatMap (·.outside encoding)).length := by
  let number : FieldType := if encoding.format = .big then .long8 else .long
  have hsize : StoredField.size ⟨.stripOffsets, number, offsets⟩ =
      StoredField.size ⟨.stripOffsets, number, others⟩ := congrArg (number.size * ·) h
  have houtside := StoredField.length_outside encoding hsize
  simp only [fields, List.flatMap_append, List.flatMap_cons, List.length_append]
  rw [houtside]

theorem mem_fields_stripOffsets (offsets : List Nat) :
    ⟨.stripOffsets, if format = .big then FieldType.long8 else .long, offsets⟩ ∈
      image.fields format offsets := by
  simp [fields]

end

theorem strips_length_pos (image : StoredImage) : 0 < image.strips.length := by
  rw [length_strips]
  exact Nat.mul_pos image.kind.planes_pos
    (Nat.zero_lt_of_lt (div_lt_stripsPerPlane image.height_pos))

structure Placed (s : Stream) (encoding : Encoding) (image : StoredImage) (start next : Nat) :
    Prop where
  fits : ∀ field ∈ image.placedFields encoding start, field.Fits
  next_lt : next < wordLimit encoding.format.offsetSize
  holds : s.Holds start (image.bytes encoding start next)

variable {encoding : Encoding} {image : StoredImage} {start : Nat}

theorem start_lt_stripsStart : start < image.stripsStart encoding start := by
  have hcount : 0 < encoding.format.countSize := by cases encoding.format <;> decide
  unfold stripsStart outsideStart
  dsimp only
  omega

/-- Every strip has an offset that fits, and each has an offset of its own. -/
theorem stripsStart_lt (hfits : ∀ field ∈ image.placedFields encoding start, field.Fits) :
    image.stripsStart encoding start < wordLimit encoding.format.offsetSize ∧
      image.strips.length < wordLimit encoding.format.offsetSize := by
  have hpos := image.strips_length_pos
  have hoffsets := hfits _ (mem_fields_stripOffsets image encoding.format _)
  have hlast : image.strips.length - 1 <
      (offsetsFrom (image.stripsStart encoding start) image.strips).length := by
    rw [length_offsetsFrom]
    omega
  obtain ⟨offset, hoffset⟩ :
      ∃ offset, (offsetsFrom (image.stripsStart encoding start) image.strips)[
        image.strips.length - 1]? = some offset := ⟨_, List.getElem?_eq_getElem hlast⟩
  have hle := le_offsetsFrom (fun strip hstrip => strips_pos hstrip) hoffset
  have hlt := hoffsets offset (List.mem_of_getElem? hoffset)
  rw [size_offsetType] at hlt
  have hstart : start < image.stripsStart encoding start := start_lt_stripsStart
  constructor
  · omega
  · omega

/-- Fields hold numbers, few of them if they are not about the strips. -/
theorem mem_fields {format : Format} {offsets : List Nat} {field : StoredField}
    (h : field ∈ image.fields format offsets) :
    field.type.isInteger = true ∧
      (field.values.length ≤ 4 ∨ field.values.length = offsets.length ∨
        field.values.length = image.strips.length) := by
  have hnumber : (if image.wide then FieldType.long else .short).isInteger = true := by
    cases image.wide <;> rfl
  have hoffset : (if format = .big then FieldType.long8 else .long).isInteger = true := by
    cases format <;> rfl
  have hsamples : image.kind.samples ≤ 4 := by
    cases image.kind <;> simp [PixelKind.samples]
  have hone (value : Nat) : [value].length ≤ 4 := by simp
  simp only [fields, List.mem_append, List.mem_cons, List.not_mem_nil, or_false] at h
  rcases h with (rfl | rfl | rfl | rfl | rfl | rfl | rfl | rfl) | h
  · exact ⟨hnumber, .inl (hone _)⟩
  · exact ⟨hnumber, .inl (hone _)⟩
  · exact ⟨rfl, .inl (by rw [List.length_replicate]; exact hsamples)⟩
  · exact ⟨rfl, .inl (hone _)⟩
  · exact ⟨hoffset, .inr (.inl rfl)⟩
  · exact ⟨rfl, .inl (hone _)⟩
  · exact ⟨hnumber, .inl (hone _)⟩
  · exact ⟨rfl, .inr (.inr (List.length_map _))⟩
  · cases hplanar : image.kind.planar with
    | contiguous =>
      rw [hplanar] at h
      cases h
    | separate =>
      rw [hplanar] at h
      obtain rfl := List.mem_singleton.mp h
      exact ⟨rfl, .inl (hone _)⟩

/-- The fields of an image can be read back. -/
theorem sound_fields (hfits : ∀ field ∈ image.placedFields encoding start, field.Fits) :
    ∀ field ∈ image.placedFields encoding start, field.Sound encoding := by
  intro field hfield
  have hcount := (stripsStart_lt hfits).2
  have hfour : 4 ≤ encoding.format.offsetSize := by cases encoding.format <;> decide
  have hsmall : 4 < wordLimit encoding.format.offsetSize :=
    Nat.lt_of_lt_of_le (by decide) (wordLimit_mono hfour)
  obtain ⟨hinteger, hlength⟩ := mem_fields hfield
  rw [length_offsetsFrom] at hlength
  exact ⟨hinteger, hfits field hfield, by omega⟩

theorem outsideStart_eq (hfits : ∀ field ∈ image.placedFields encoding start, field.Fits)
    {next : Nat} (hnext : next < wordLimit encoding.format.offsetSize) :
    (image.directory encoding start next).Sound encoding ∧
      image.outsideStart encoding start =
        start + ((image.directory encoding start next).serialize encoding).length := by
  have hlength : (image.directory encoding start next).entries.length =
      (image.placedFields encoding start).length := StoredField.length_entries _ _ _
  have hsound : (image.directory encoding start next).Sound encoding := by
    refine ⟨StoredField.entries_sound (sound_fields hfits), ?_, hnext⟩
    have hwidth : 2 ≤ encoding.format.countSize := by cases encoding.format <;> decide
    rw [hlength]
    exact Nat.lt_of_lt_of_le (length_fields_lt image encoding.format _) (wordLimit_mono hwidth)
  refine ⟨hsound, ?_⟩
  rw [Directory.length_serialize hsound, hlength, placedFields, length_fields]
  rfl

theorem stripsStart_eq : image.stripsStart encoding start =
    image.outsideStart encoding start +
      ((image.placedFields encoding start).flatMap (·.outside encoding)).length := by
  have hoffsets : (List.replicate image.strips.length 0).length =
      (offsetsFrom (image.stripsStart encoding start) image.strips).length := by
    rw [length_offsetsFrom, List.length_replicate]
  have hroom := image.length_outside_fields encoding hoffsets
  exact congrArg (image.outsideStart encoding start + ·) hroom

namespace Placed

variable {s : Stream} {next : Nat}

theorem sound_directory (h : image.Placed s encoding start next) :
    (image.directory encoding start next).Sound encoding :=
  (outsideStart_eq h.fits h.next_lt).1

theorem directory (h : image.Placed s encoding start next) :
    s.Holds start ((image.directory encoding start next).serialize encoding) :=
  h.holds.left.left.left

theorem outside (h : image.Placed s encoding start next) :
    s.Holds (image.outsideStart encoding start)
      ((image.placedFields encoding start).flatMap (·.outside encoding)) := by
  rw [(outsideStart_eq h.fits h.next_lt).2]
  exact h.holds.left.left.right

theorem strips (h : image.Placed s encoding start next) :
    s.Holds (image.stripsStart encoding start) image.strips.flatten := by
  rw [stripsStart_eq, (outsideStart_eq h.fits h.next_lt).2, Nat.add_assoc, ← List.length_append]
  exact h.holds.left.right

end Placed

/-- The next image is behind this one. -/
theorem nextStart_eq (hfits : ∀ field ∈ image.placedFields encoding start, field.Fits) {next : Nat}
    (hnext : next < wordLimit encoding.format.offsetSize) :
    image.nextStart encoding start = start + (image.bytes encoding start next).length := by
  have hstop : image.stop encoding start =
      image.stripsStart encoding start + image.strips.flatten.length := rfl
  have hstrips : image.stripsStart encoding start = _ := stripsStart_eq
  have houtside := (outsideStart_eq hfits hnext).2
  simp only [nextStart, bytes, List.length_append, List.length_replicate]
  omega

end StoredImage

end TiffStrip
