import TiffStrip.Proofs.Layout.Shown

namespace TiffStrip

/-- A strip has no more rows than the image, which makes no difference to the rows there are. -/
theorem rows_capped {height rows row : Nat} (hrows : 0 < rows) (hrow : row < height) :
    row / max 1 (min rows height) = row / rows ∧ row % max 1 (min rows height) = row % rows ∧
      ceilDiv height (max 1 (min rows height)) = ceilDiv height rows := by
  by_cases h : rows ≤ height
  · have hcap : max 1 (min rows height) = rows := by omega
    rw [hcap]
    exact ⟨rfl, rfl, rfl⟩
  · have hcap : max 1 (min rows height) = height := by omega
    have hrow' : row < rows := by omega
    have hone : ceilDiv height height = 1 := Nat.div_eq_of_lt_le (by omega) (by omega)
    have hone' : ceilDiv height rows = 1 := Nat.div_eq_of_lt_le (by omega) (by omega)
    rw [hcap, Nat.div_eq_of_lt hrow, Nat.div_eq_of_lt hrow', Nat.mod_eq_of_lt hrow,
      Nat.mod_eq_of_lt hrow', hone, hone']
    exact ⟨rfl, rfl, rfl⟩

namespace StoredImage

open FieldSource

def table (image : StoredImage) (encoding : Encoding) (start : Nat) : StripTable where
  height := image.height
  samples := image.kind.samples
  planar := image.kind.planar
  rowsPerStrip := max 1 (min image.rowsPerStrip image.height)
  scanlineSize := image.rowLength
  offsets := (offsetsFrom (image.stripsStart encoding start) image.strips).toArray
  byteCounts? := some (image.strips.map List.length).toArray

variable {image : StoredImage} {encoding : Encoding} {start next : Nat}

theorem stripsPerPlane_table :
    (image.table encoding start).stripsPerPlane = image.stripsPerPlane :=
  (rows_capped image.rowsPerStrip_pos image.height_pos).2.2

theorem planes_table : (image.table encoding start).planes = image.kind.planes := by
  unfold table StripTable.planes PixelKind.planes
  cases image.kind.planar <;> rfl

theorem planeOf_table (encoding : Encoding) (start : Nat) {sample : Nat}
    (h : sample < image.kind.planes) :
    (image.table encoding start).planeOf sample = sample ∧
      (image.kind.planar = .contiguous ∨ sample < image.kind.samples) := by
  unfold table StripTable.planeOf
  unfold PixelKind.planes at h
  cases hplanar : image.kind.planar with
  | contiguous =>
    rw [hplanar] at h
    exact ⟨(Nat.lt_one_iff.mp h).symm, .inl rfl⟩
  | separate =>
    rw [hplanar] at h
    exact ⟨rfl, .inr h⟩

theorem locate_table {s : Stream} (h : image.Placed s encoding start next)
    (hsize : s.size < Address.limit) {sample row : Nat} (hsample : sample < image.kind.planes)
    (hrow : row < image.height) :
    ∃ offset, (image.table encoding start).locate row sample = .ok offset ∧
      offset + image.rowLength ≤ s.size ∧
      s.slice offset image.rowLength = image.row sample row := by
  obtain ⟨hdiv, hmod, _⟩ := rows_capped image.rowsPerStrip_pos hrow
  obtain ⟨hplane, hheld⟩ := planeOf_table encoding start hsample
  have hstrip := getElem?_strips hsample (div_lt_stripsPerPlane hrow)
  have hinside := le_length_strip hsample hrow
  obtain ⟨first, hfirst, hholds⟩ := h.strips.piece hstrip
  have hend := hholds.le_size
  refine ⟨first + row % image.rowsPerStrip * image.rowLength, ?_, by omega, ?_⟩
  · have hcontains : (image.table encoding start).contains row sample = true := by
      rw [StripTable.contains, Bool.and_eq_true, Bool.or_eq_true]
      exact ⟨decide_eq_true hrow, hheld.imp decide_eq_true decide_eq_true⟩
    have hof : (image.table encoding start).stripOf row sample =
        sample * image.stripsPerPlane + row / image.rowsPerStrip := by
      rw [StripTable.stripOf, hplane, stripsPerPlane_table]
      exact congrArg (sample * image.stripsPerPlane + ·) hdiv
    have hbefore : (image.table encoding start).bytesBefore row =
        row % image.rowsPerStrip * image.rowLength := congrArg (· * image.rowLength) hmod
    have hcount : (image.table encoding start).byteCount?
        (sample * image.stripsPerPlane + row / image.rowsPerStrip) =
        some (image.strip sample (row / image.rowsPerStrip)).length := by
      simp only [StripTable.byteCount?, table, Option.bind_eq_bind, Option.bind_some,
        List.getElem?_toArray, List.getElem?_map, hstrip, Option.map_some]
    rw [StripTable.locate_eq_ok, hof, hbefore]
    refine ⟨hcontains, first, ?_, ?_, rfl, by omega⟩
    · rw [table, List.getElem?_toArray, hfirst]
    · rw [hcount]
      rintro _ ⟨rfl⟩
      exact hinside
  · rw [hholds.slice hinside, row_strip hrow]

namespace Shown

variable {file : File}

theorem answer_scanlineSize (h : image.Shown encoding start next file) :
    answer File.scanlineSize file = .ok image.rowLength := by
  have hwidth := answer_required32 (h.answer_field_some .imageWidth rfl)
    (h.first32?_number .imageWidth rfl)
  have hbytes : scanlineBytes image.width 8 image.kind.samples image.kind.planar =
      image.rowLength := by
    change (_ * 8 + 7) / 8 = image.width * _
    omega
  unfold File.scanlineSize
  refine (File.visible_required32 _).steady.answer_next hwidth (fun f hf => ?_) rfl
  refine (File.visible_defaulted16 _).steady.answer_next h.answer_bits (fun f hf => ?_) hf
  refine (File.visible_defaulted16 _).steady.answer_next h.answer_samples (fun f hf => ?_) hf
  refine File.visible_planar.steady.answer_next h.answer_planar (fun f hf => ?_) hf
  exact congrArg Except.ok hbytes

theorem answer_loadStrips (h : image.Shown encoding start next file) :
    answer File.loadStrips file = .ok (image.table encoding start) := by
  have hheight := answer_required32 (h.answer_field_some .imageLength rfl)
    (h.first32?_number .imageLength rfl)
  have hrows := answer_fieldOrDefault (h.answer_field_some .rowsPerStrip rfl)
  have hoffsets : answer (fieldAs? .stripOffsets FieldValue.numbers?) file =
      .ok (some (offsetsFrom (image.stripsStart encoding start) image.strips)) :=
    answer_fieldAs (h.answer_field_some .stripOffsets rfl) rfl
  have hcounts : answer (File.field .stripByteCounts) file =
      .ok (some (.unsigned (image.strips.map List.length))) :=
    h.answer_field_some .stripByteCounts rfl
  have hcount : (offsetsFrom (image.stripsStart encoding start) image.strips).length =
      (image.table encoding start).stripsPerPlane * (image.table encoding start).planes := by
    rw [length_offsetsFrom, length_strips, stripsPerPlane_table, planes_table, Nat.mul_comm]
  rw [File.answer_loadStrips]
  simp only [h.answer_compression, h.not_isTiled, hheight, h.answer_samples, h.answer_planar,
    h.answer_scanlineSize, hrows, hoffsets, bind, Except.bind]
  apply (if_neg (Nat.not_lt.mpr (Nat.le_of_eq hcount.symm))).trans
  rw [hcounts]
  rfl

theorem answer_readScanline (h : image.Shown encoding start next file) {sample row : Nat}
    (hsample : sample < image.kind.planes) (hrow : row < image.height) {buffer : List UInt8}
    (hbuffer : image.rowLength ≤ buffer.length) :
    answer (File.readScanline row sample buffer) file =
      .ok (overwrite (image.row sample row) buffer) := by
  obtain ⟨offset, hoffset, hinside, hslice⟩ := locate_table h.placed h.size_lt hsample hrow
  have hsize := h.size_lt
  rw [File.answer_readScanline row sample buffer h.genuine, h.answer_loadStrips]
  have hread : answer (File.readRange offset (image.table encoding start).scanlineSize) file =
      .ok (image.row sample row) := by
    change answer (File.readRange offset image.rowLength) file = _
    rw [File.answer_readRange, if_pos ⟨.inr (by omega), hinside⟩, hslice]
  simp only [bind, Except.bind, hoffset]
  change (if buffer.length < image.rowLength then _ else _) = _
  rw [if_neg (Nat.not_lt.mpr hbuffer), hread]
  rfl

end Shown

end StoredImage

end TiffStrip
