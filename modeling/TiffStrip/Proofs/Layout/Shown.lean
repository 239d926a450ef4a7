import TiffStrip.Proofs.File.Lines
import TiffStrip.Proofs.Layout.Opened
import TiffStrip.Proofs.Source.Fields

namespace TiffStrip.StoredImage

open FieldSource

/-- How a stored image is described. -/
def info (image : StoredImage) (index? : Option Nat) (imageCount : Nat) : ImageInfo where
  index?
  subfileType := 0
  width := image.width
  height := image.height
  bitsPerSample := 8
  samplesPerPixel := image.kind.samples
  planar := image.kind.planar
  photometric := image.kind.photometric
  compression := 0
  imageCount
  description? := none
  damaged := false

/-- A stored image says nothing about its compression, and has no tiles and no text. -/
theorem find?_absent {image : StoredImage} {encoding : Encoding} {start : Nat} {tag : Tag}
    (h : tag ∈ [.subfileType, .compression, .imageDescription, .tileWidth]) :
    StoredField.find? (image.placedFields encoding start) tag = none := by
  simp only [List.mem_cons, List.not_mem_nil, or_false] at h
  unfold placedFields fields
  rcases h with rfl | rfl | rfl | rfl
  all_goals cases image.kind.planar <;> rfl

structure Shown (image : StoredImage) (encoding : Encoding) (start next : Nat) (file : File) :
    Prop where
  genuine : file.Genuine
  header : file.header.encoding = encoding
  directory : file.directory = image.directory encoding start next
  placed : image.Placed file.stream encoding start next
  size_lt : file.stream.size < Address.limit

namespace Shown

variable {image : StoredImage} {encoding : Encoding} {start next : Nat} {file : File}

/-- The directory has an entry for each field, and for no other tag. -/
theorem find?_directory (h : image.Shown encoding start next file) (tag : Tag) :
    match StoredField.find? (image.placedFields encoding start) tag with
    | none => file.directory.find? tag = none
    | some field => ∃ entry, file.directory.find? tag = some entry ∧
        answer (entry.readValue encoding) file.stream = .ok (.unsigned field.values) := by
  have hfits := h.placed.fits
  rw [h.directory]
  refine StoredField.find?_entries (sound_fields hfits) h.placed.outside ?_ h.size_lt tag
  rw [← stripsStart_eq]
  exact (stripsStart_lt hfits).1

theorem answer_field (h : image.Shown encoding start next file) (tag : Tag) :
    answer (field tag) file =
      .ok ((StoredField.find? (image.placedFields encoding start) tag).map fun field =>
        .unsigned field.values) := by
  have hentry := h.find?_directory tag
  cases hfield : StoredField.find? (image.placedFields encoding start) tag with
  | none =>
    simp only [hfield] at hentry
    exact File.answer_field_of_none hentry
  | some field =>
    simp only [hfield] at hentry
    obtain ⟨entry, hentry, hvalue⟩ := hentry
    rw [← h.header] at hvalue
    exact File.answer_field_of_entry hentry hvalue

theorem answer_field_some (h : image.Shown encoding start next file) (tag : Tag)
    {field : StoredField}
    (hfind : StoredField.find? (image.placedFields encoding start) tag = some field) :
    answer (FieldSource.field tag) file = .ok (some (.unsigned field.values)) := by
  rw [h.answer_field, hfind]
  rfl

theorem answer_field_none (h : image.Shown encoding start next file) (tag : Tag)
    (hfind : StoredField.find? (image.placedFields encoding start) tag = none) :
    answer (FieldSource.field tag) file = .ok none := by
  rw [h.answer_field, hfind]
  rfl

theorem not_isTiled (h : image.Shown encoding start next file) :
    file.directory.isTiled = false := by
  have hfind : StoredField.find? (image.placedFields encoding start) .tileWidth = none :=
    find?_absent (by decide)
  have hentry := h.find?_directory .tileWidth
  simp only [hfind] at hentry
  rw [Directory.isTiled, hentry]
  rfl

/-- Width, height and rows of a strip take four bytes at most. -/
theorem first32?_number (h : image.Shown encoding start next file) (tag : Tag) {n : Nat}
    (hfind : StoredField.find? (image.placedFields encoding start) tag =
      some ⟨tag, if image.wide then .long else .short, [n]⟩) :
    FieldValue.first32? (.unsigned [n]) = some n := by
  have hfits := h.placed.fits _ (List.mem_of_find?_eq_some hfind) n List.mem_cons_self
  refine if_pos (Nat.lt_of_lt_of_le hfits ?_)
  cases image.wide with
  | true => exact Nat.le_refl _
  | false => exact wordLimit_mono (show 2 ≤ 4 by decide)

theorem answer_bits (h : image.Shown encoding start next file) :
    answer (defaulted16 .bitsPerSample) file = .ok 8 := by
  apply answer_defaulted16 (answer_fieldOrDefault (h.answer_field_some _ rfl))
  cases image.kind <;> rfl

theorem answer_samples (h : image.Shown encoding start next file) :
    answer (defaulted16 .samplesPerPixel) file = .ok image.kind.samples := by
  apply answer_defaulted16 (answer_fieldOrDefault (h.answer_field_some _ rfl))
  cases image.kind <;> rfl

theorem answer_compression (h : image.Shown encoding start next file) :
    answer (defaulted16 .compression) file = .ok 1 := by
  have habsent := h.answer_field_none .compression (find?_absent (by decide))
  exact answer_defaulted16 (answer_fieldOrDefault_absent habsent rfl) rfl

theorem answer_planar (h : image.Shown encoding start next file) :
    answer planar file = .ok image.kind.planar := by
  cases hplanar : image.kind.planar with
  | contiguous =>
    have hfind : StoredField.find? (image.placedFields encoding start) .planarConfiguration =
        none := by
      unfold placedFields fields
      rw [hplanar]
      rfl
    have hdefault := answer_fieldOrDefault_absent (h.answer_field_none _ hfind) rfl
    exact FieldSource.answer_planar (answer_defaulted16 hdefault rfl) rfl
  | separate =>
    have hfind : StoredField.find? (image.placedFields encoding start) .planarConfiguration =
        some ⟨.planarConfiguration, .short, [2]⟩ := by
      unfold placedFields fields
      rw [hplanar]
      rfl
    have hvalue := answer_fieldOrDefault (h.answer_field_some _ hfind)
    exact FieldSource.answer_planar (answer_defaulted16 hvalue rfl) rfl

theorem answer_photometric (h : image.Shown encoding start next file) (samples : Nat) :
    answer (ImageInfo.readPhotometric samples) file = .ok image.kind.photometric := by
  have hcode : FieldValue.first16? (.unsigned [image.kind.photometric.code]) =
      some image.kind.photometric.code := by
    cases image.kind with
    | blackIsZero | whiteIsZero | rgb _ | rgba _ => rfl
    | grayAlpha white _ => cases white <;> rfl
  have hfield := answer_fieldAs (h.answer_field_some .photometricInterpretation rfl) hcode
  have hback : Photometric.ofCode image.kind.photometric.code = image.kind.photometric := by
    cases image.kind with
    | blackIsZero | whiteIsZero | rgb _ | rgba _ => rfl
    | grayAlpha white _ => cases white <;> rfl
  rw [ImageInfo.readPhotometric, answer_bind, answer_request hfield]
  exact congrArg Except.ok hback

theorem answer_readSelected (h : image.Shown encoding start next file) (index? : Option Nat) :
    answer (ImageInfo.readSelected index?) file =
      .ok (image.info index? file.directories.length) := by
  have absent (tag : Tag) {α : Type} (read? : FieldValue → Option α)
      (htag : tag ∈ [.subfileType, .compression, .imageDescription, .tileWidth]) :
      answer (request (fieldAs? tag read?)) file = .ok none :=
    answer_request (answer_fieldAs_absent read? (h.answer_field_none _ (find?_absent htag)))
  have hwidth := answer_fieldAs (h.answer_field_some .imageWidth rfl)
    (h.first32?_number .imageWidth rfl)
  have hheight := answer_fieldAs (h.answer_field_some .imageLength rfl)
    (h.first32?_number .imageLength rfl)
  have hphotometric : Steady File.bare (ImageInfo.readPhotometric image.kind.samples) :=
    fun b => (File.inspects_bare b).readPhotometric _
  have fieldAs {α : Type} (tag : Tag) (read? : FieldValue → Option α) :=
    (File.visible_fieldAs tag read?).steady.request
  have defaulted (tag : Tag) := (File.visible_defaulted16 tag).steady.request
  unfold ImageInfo.readSelected
  refine (fieldAs _ _).answer_next (answer_request hwidth) (fun f hf => ?_) rfl
  refine (fieldAs _ _).answer_next (answer_request hheight) (fun f hf => ?_) hf
  refine (fieldAs _ _).answer_next (absent _ _ (by decide)) (fun f hf => ?_) hf
  refine (fieldAs _ _).answer_next (absent _ _ (by decide)) (fun f hf => ?_) hf
  refine (defaulted _).answer_next (answer_request h.answer_bits) (fun f hf => ?_) hf
  refine (defaulted _).answer_next (answer_request h.answer_samples) (fun f hf => ?_) hf
  refine File.visible_planar.steady.request.answer_next (answer_request h.answer_planar)
    (fun f hf => ?_) hf
  refine hphotometric.answer_next (h.answer_photometric _) (fun f hf => ?_) hf
  refine (fieldAs _ _).answer_next (absent _ _ (by decide)) (fun f hf => ?_) hf
  rw [answer_get, ← (File.inspects_bare file.bare).imageCount file f ⟨rfl, hf⟩]
  rfl

end Shown

end TiffStrip.StoredImage
