import TiffStrip.Proofs.Decode.Scan
import TiffStrip.Proofs.Layout.Basic
import TiffStrip.Proofs.Stream.Range

namespace TiffStrip

theorem length_offsetsFrom (start : Nat) (pieces : List (List UInt8)) :
    (offsetsFrom start pieces).length = pieces.length := by
  induction pieces generalizing start with
  | nil => rfl
  | cons piece pieces ih => rw [offsetsFrom, List.length_cons, List.length_cons, ih]

/-- A piece is at its offset if the pieces lie one behind the other. -/
theorem Stream.Holds.piece {s : Stream} {start index : Nat} {pieces : List (List UInt8)}
    {piece : List UInt8} (h : s.Holds start pieces.flatten) (hpiece : pieces[index]? = some piece) :
    ∃ offset, (offsetsFrom start pieces)[index]? = some offset ∧ s.Holds offset piece := by
  induction pieces generalizing start index with
  | nil => cases hpiece
  | cons first pieces ih =>
    rw [List.flatten_cons] at h
    cases index with
    | zero =>
      obtain rfl : first = piece := Option.some.inj hpiece
      exact ⟨start, rfl, h.left⟩
    | succ index => exact ih h.right hpiece

/-- Pieces that are not empty take up at least one byte each. -/
theorem le_offsetsFrom {start index offset : Nat} {pieces : List (List UInt8)}
    (hpieces : ∀ piece ∈ pieces, 0 < piece.length)
    (h : (offsetsFrom start pieces)[index]? = some offset) : start + index ≤ offset := by
  induction pieces generalizing start index with
  | nil => cases h
  | cons first pieces ih =>
    cases index with
    | zero =>
      obtain rfl : start = offset := Option.some.inj h
      exact Nat.le_refl _
    | succ index =>
      have hfirst := hpieces first List.mem_cons_self
      have hrest := ih (fun piece hpiece => hpieces piece (List.mem_cons_of_mem _ hpiece)) h
      omega

theorem window_window {α : Type} {l : List α} {start length first size : Nat}
    (h : first + size ≤ length) :
    (((l.drop start).take length).drop first).take size = (l.drop (start + first)).take size := by
  rw [List.drop_take, List.take_take, List.drop_drop, Nat.min_eq_left (by omega)]

theorem flatMap_windows {α : Type} (l : List α) (size count : Nat) :
    ((List.range count).flatMap fun i => (l.drop (i * size)).take size) = l.take (count * size) := by
  induction count with
  | zero => simp
  | succ count ih =>
    rw [List.range_succ, List.flatMap_append, List.flatMap_singleton, ih, Nat.succ_mul,
      List.take_add]

theorem div_mul_add_mod_mul (n d size : Nat) : n / d * (d * size) + n % d * size = n * size := by
  rw [← Nat.mul_assoc, ← Nat.add_mul, Nat.mul_comm _ d, Nat.div_add_mod]

namespace PixelKind

theorem samples_pos (kind : PixelKind) : 0 < kind.samples := by
  cases kind <;> exact Nat.succ_pos _

theorem planes_pos (kind : PixelKind) : 0 < kind.planes := by
  unfold planes
  cases kind.planar with
  | contiguous => exact Nat.one_pos
  | separate => exact kind.samples_pos

end PixelKind

namespace StoredImage

variable (image : StoredImage)

def row (plane row : Nat) : List UInt8 :=
  (image.pixels.drop ((plane * image.height + row) * image.rowLength)).take image.rowLength

theorem rowLength_pos : 0 < image.rowLength := by
  apply Nat.mul_pos image.width_pos
  cases image.kind.planar with
  | contiguous => exact image.kind.samples_pos
  | separate => exact Nat.one_pos

theorem length_pixels_eq :
    image.pixels.length = image.kind.planes * image.height * image.rowLength := by
  rw [Nat.mul_assoc]
  exact image.length_pixels

variable {image} {plane row : Nat}

theorem length_plane (hplane : plane < image.kind.planes) :
    (image.plane plane).length = image.height * image.rowLength := by
  have hinside := Nat.mul_le_mul_right (image.height * image.rowLength) hplane
  have hpixels := image.length_pixels_eq
  rw [Nat.mul_assoc] at hpixels
  rw [Nat.succ_mul, ← hpixels] at hinside
  rw [StoredImage.plane, List.length_take, List.length_drop]
  omega

theorem length_strip (hplane : plane < image.kind.planes) (index : Nat) :
    (image.strip plane index).length =
      min (image.rowsPerStrip * image.rowLength)
        (image.height * image.rowLength - index * (image.rowsPerStrip * image.rowLength)) := by
  rw [strip, List.length_take, List.length_drop, length_plane hplane]

/-- A strip holds a row together with the rows before it. -/
theorem le_length_strip (hplane : plane < image.kind.planes) (hrow : row < image.height) :
    row % image.rowsPerStrip * image.rowLength + image.rowLength ≤
      (image.strip plane (row / image.rowsPerStrip)).length := by
  have hpos := image.rowsPerStrip_pos
  have hinside := Nat.mul_le_mul_right image.rowLength (Nat.mod_lt row hpos)
  have hbelow := Nat.mul_le_mul_right image.rowLength hrow
  have hsplit := div_mul_add_mod_mul row image.rowsPerStrip image.rowLength
  rw [Nat.succ_mul] at hinside hbelow
  rw [length_strip hplane]
  omega

/-- A row lies in its strip behind the rows before it. -/
theorem row_strip (hrow : row < image.height) :
    ((image.strip plane (row / image.rowsPerStrip)).drop
        (row % image.rowsPerStrip * image.rowLength)).take image.rowLength =
      image.row plane row := by
  have hinside := Nat.mul_le_mul_right image.rowLength
    (Nat.mod_lt row image.rowsPerStrip_pos)
  have hbelow := Nat.mul_le_mul_right image.rowLength hrow
  rw [Nat.succ_mul] at hinside hbelow
  rw [strip, window_window hinside, div_mul_add_mod_mul, StoredImage.plane, window_window hbelow,
    StoredImage.row, Nat.add_mul, Nat.mul_assoc]

theorem length_row (hplane : plane < image.kind.planes) (hrow : row < image.height) :
    (image.row plane row).length = image.rowLength := by
  have hinside := Nat.mul_le_mul_right image.rowLength (Plan.line_lt hplane hrow)
  rw [Nat.succ_mul, ← image.length_pixels_eq] at hinside
  rw [StoredImage.row, List.length_take, List.length_drop]
  omega

/-- The rows, plane after plane, are the pixels. -/
theorem flatMap_row (image : StoredImage) :
    ((List.range (image.kind.planes * image.height)).flatMap fun line =>
      image.row (line / image.height) (line % image.height)) = image.pixels := by
  have hrows : ∀ line, image.row (line / image.height) (line % image.height) =
      (image.pixels.drop (line * image.rowLength)).take image.rowLength := by
    intro line
    rw [StoredImage.row, Nat.mul_comm (line / image.height), Nat.div_add_mod]
  simp only [hrows]
  rw [flatMap_windows, ← image.length_pixels_eq, List.take_length]

/-- The strips of a plane, one behind the other. -/
theorem getElem?_strips {index : Nat} (hplane : plane < image.kind.planes)
    (hindex : index < image.stripsPerPlane) :
    image.strips[plane * image.stripsPerPlane + index]? = some (image.strip plane index) :=
  getElem?_flatMap_map image.strip hplane hindex

theorem length_strips (image : StoredImage) :
    image.strips.length = image.kind.planes * image.stripsPerPlane :=
  length_flatMap_map image.strip _ _

/-- The strip that a row is in, counted from the first of its plane. -/
theorem div_lt_stripsPerPlane (hrow : row < image.height) :
    row / image.rowsPerStrip < image.stripsPerPlane := by
  have hpos := image.rowsPerStrip_pos
  have hnext : (row + image.rowsPerStrip) / image.rowsPerStrip ≤ image.stripsPerPlane :=
    Nat.div_le_div_right (by omega)
  rwa [Nat.add_div_right row hpos] at hnext

/-- The strips have room for all rows. -/
theorem height_le_mul (image : StoredImage) :
    image.height ≤ image.stripsPerPlane * image.rowsPerStrip :=
  le_ceilDiv_mul image.height image.rowsPerStrip_pos

theorem flatMap_strip (hplane : plane < image.kind.planes) :
    (List.range image.stripsPerPlane).flatMap (image.strip plane) = image.plane plane := by
  have hrows := Nat.mul_le_mul_right image.rowLength image.height_le_mul
  rw [Nat.mul_assoc] at hrows
  unfold strip
  rw [flatMap_windows, List.take_of_length_le]
  rwa [length_plane hplane]

/-- The strips, one behind the other, are the pixels. -/
theorem flatten_strips (image : StoredImage) : image.strips.flatten = image.pixels := by
  have hplanes : image.strips.flatten =
      (List.range image.kind.planes).flatMap image.plane := by
    rw [strips, ← List.flatMap_id, List.flatMap_assoc]
    refine congrArg List.flatten (List.map_congr_left fun plane hplane => ?_)
    rw [List.flatMap_map]
    exact flatMap_strip (List.mem_range.mp hplane)
  have hpixels := image.length_pixels_eq
  rw [Nat.mul_assoc] at hpixels
  unfold plane at hplanes
  rw [hplanes, flatMap_windows, List.take_of_length_le (Nat.le_of_eq hpixels)]

/-- Every strip begins with a row of the image. -/
theorem mul_lt_height {index : Nat} (h : index < image.stripsPerPlane) :
    index * image.rowsPerStrip < image.height := by
  have hpos := image.rowsPerStrip_pos
  have hnext := (Nat.le_div_iff_mul_le hpos).mp (show index + 1 ≤ image.stripsPerPlane from h)
  rw [Nat.succ_mul] at hnext
  omega

theorem strips_pos {strip : List UInt8} (h : strip ∈ image.strips) : 0 < strip.length := by
  obtain ⟨plane, hplane, hstrip⟩ := List.mem_flatMap.mp h
  obtain ⟨index, hindex, rfl⟩ := List.mem_map.mp hstrip
  have hfirst := le_length_strip (List.mem_range.mp hplane)
    (mul_lt_height (List.mem_range.mp hindex))
  rw [Nat.mul_mod_left, Nat.zero_mul, Nat.zero_add, Nat.mul_div_cancel _ image.rowsPerStrip_pos]
    at hfirst
  exact Nat.lt_of_lt_of_le image.rowLength_pos hfirst

end StoredImage

end TiffStrip
