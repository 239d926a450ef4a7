import TiffStrip.Proofs.Colormap.Found
import TiffStrip.Proofs.Decode.Sizes
import TiffStrip.Proofs.File.InLayout

/-!
# Addresses of scanlines

Where a scanline is in its strip is a product that nothing checks. But a whole image is refused if its
file does not hold what is taken of the scanlines, and a scanline is not much longer than that.
-/

namespace TiffStrip

/-- The longest scanline for what is taken of it is that of a palette image: its samples have no more
than 16 bits, but one byte is taken of all samples of a pixel. -/
theorem RowForm.bytesPerInput_le {info : ImageInfo} (h : info.InRange) {form : RowForm}
    (hpalette : form = .paletteColors → info.bitsPerSample ≤ Colormap.maxBits) :
    form.bytesPerInput info ≤ 131070 := by
  cases form with
  | graySamples | grayPlanes => exact Nat.le_add_left 1 131069
  | paletteColors =>
    have hpixel : samplesPerScanline info.planar info.samplesPerPixel * info.bitsPerSample ≤
        65535 * 16 :=
      Nat.mul_le_mul (Nat.le_pred_of_lt h.samplesPerScanline_lt) (hpalette rfl)
    exact (ceilDiv_le_iff (by decide)).mpr (Nat.le_trans hpixel (by decide))
  | rgbPixels | rgbPlanes =>
    exact (ceilDiv_le_iff (by decide)).mpr (Nat.le_trans (Nat.le_of_lt h.bits) (by decide))

/-- The samples of a palette image that is planned are short enough for its map. -/
theorem DescribesAgain.bits_of_readPlan {σ : Type} [ScanlineSource σ] {index? : Option Nat}
    {room : Nat} {plan : Plan} {s planned : σ} (h : DescribesAgain index? s)
    (hplan : Plan.read index? room s = .ok plan planned) (hform : plan.form = .paletteColors) :
    plan.info.bitsPerSample ≤ Colormap.maxBits := by
  obtain ⟨described, mapped, _, hinfo, hmap, hrows, _⟩ := Plan.read_ok hplan
  have hpalette := (RowForm.of?_eq_paletteColors hrows).mp hform
  obtain ⟨map, _, hread⟩ := (Plan.readColormap_ok hmap).1 hpalette
  obtain ⟨info, hagain, hbits, _⟩ := Colormap.read_ok hread
  obtain rfl := Except.ok.inj ((h.readInfo_none hinfo).1.symm.trans hagain)
  exact hbits

namespace StripTable

variable {table : StripTable} {row sample : Nat}

theorem planeOf_le (sample : Nat) : table.planeOf sample ≤ sample := by
  unfold planeOf
  cases table.planar with
  | contiguous => exact Nat.zero_le _
  | separate => exact Nat.le_refl _

theorem stripsPerPlane_le (hrows : 0 < table.rowsPerStrip) :
    table.stripsPerPlane ≤ table.height :=
  (ceilDiv_le_iff hrows).mpr (Nat.le_mul_of_pos_right _ hrows)

/-- A strip ends where the image does, or before. -/
theorem bytesBefore_add_le (hrows : 0 < table.rowsPerStrip)
    (hheight : table.rowsPerStrip ≤ table.height) :
    table.bytesBefore row + table.scanlineSize ≤ table.height * table.scanlineSize :=
  calc row % table.rowsPerStrip * table.scanlineSize + table.scanlineSize
      = (row % table.rowsPerStrip + 1) * table.scanlineSize := (Nat.succ_mul _ _).symm
    _ ≤ table.height * table.scanlineSize :=
      Nat.mul_le_mul_right _ (Nat.le_trans (Nat.mod_lt row hrows) hheight)

end StripTable

namespace File

variable {file planned : File} {index? : Option Nat} {required : Nat} {plan : Plan}

/-- A strip has no more rows than its image, if that has any. -/
theorem rowsPerStrip_le {table : StripTable} (hload : answer loadStrips file = .ok table)
    (hheight : 0 < table.height) : table.rowsPerStrip ≤ table.height := by
  obtain ⟨stated, _, hrows⟩ := (builds_of_loadStrips hload).rowsPerStrip
  rw [hrows]
  exact Nat.max_le.mpr ⟨hheight, Nat.min_le_right _ _⟩

/-- Once a whole image is planned, its file is turned to the image that the plan describes. -/
theorem described_of_planImage (hfile : file.Genuine)
    (h : planImage index? file = .ok (required, plan) planned) :
    planned.bare = (turnedTo index? file).bare ∧ planned.Described plan.info ∧
      plan.info.InRange ∧
      (plan.form = .paletteColors → plan.info.bitsPerSample ≤ Colormap.maxBits) := by
  obtain ⟨info, described, hinfo, _, _, hplan⟩ := planned_of_planImage h
  obtain ⟨hbare, hgenuine⟩ : described.bare = (turnedTo index? file).bare ∧ described.Genuine := by
    rw [← after_of_ok hinfo]
    exact kept_after_readInfo hfile index?
  obtain ⟨_, _, _, hagain, _⟩ := Plan.read_ok hplan
  exact ⟨(bare_of_readPlan hgenuine hplan).1.trans hbare, (described_of_readPlan hgenuine hplan).2,
    ImageInfo.inRange_of_read hagain, (describesAgain hgenuine none).bits_of_readPlan hplan⟩

/-- All scanlines of a plane are not much longer than the file. -/
theorem guarded_of_planImage (hfile : file.Genuine)
    (h : planImage index? file = .ok (required, plan) planned)
    (hplanes : 0 < plan.form.planes plan.info) :
    plan.info.height * plan.info.scanlineSize ≤ 131070 * file.stream.size := by
  obtain ⟨htaken, hform, _⟩ := planImage_ok h
  obtain ⟨_, _, hrange, hpalette⟩ := described_of_planImage hfile h
  have hlines : plan.info.height ≤ plan.lines := Nat.le_mul_of_pos_left _ hplanes
  calc plan.info.height * plan.info.scanlineSize
      ≤ plan.lines * (plan.inputLength * plan.form.bytesPerInput plan.info) :=
        Nat.mul_le_mul hlines (RowForm.scanlineSize_le hform)
    _ = plan.lines * plan.inputLength * plan.form.bytesPerInput plan.info :=
        (Nat.mul_assoc _ _ _).symm
    _ ≤ file.stream.size * 131070 :=
        Nat.mul_le_mul htaken (RowForm.bytesPerInput_le hrange hpalette)
    _ = 131070 * file.stream.size := Nat.mul_comm _ _

/-- **The addresses of scanlines have 64 bits.** A whole image of a file of at most 2^46 bytes asks for
no scanline, after whatever history of requests, whose strip or whose place in its strip would not have
64 bits: once a scanline is asked for, the guard of the image's size has kept all scanlines of a plane
within 131070 times the size of the file. -/
theorem addresses_fit {stream : Stream} {opened : File} (hopen : ofStream stream = .ok opened)
    (hsize : stream.size ≤ 2 ^ 46) (history : List Request) (index? : Option Nat) :
    let file := afterAll history opened
    ∀ sample row, (sample, row) ∈ (after (decodeImage index?) (Watched.mk file [])).asked →
      ∀ table, answer loadStrips (turnedTo index? file) = .ok table →
        table.height * table.scanlineSize ≤ 131070 * stream.size ∧
        table.stripOf row sample < Address.limit ∧
        table.bytesBefore row < Address.limit ∧
        table.bytesBefore row + table.scanlineSize < Address.limit := by
  intro file sample row hasked table hload
  have hfile : file.Genuine := genuine_afterAll (genuine_of_ofStream hopen) history
  have hsame : file.stream.size = stream.size := size_afterAll hopen history
  obtain ⟨required, plan, planned, hplan, hsample, hrow⟩ := planned_of_asked hasked
  obtain ⟨hbare, hdescribed, hrange, _⟩ := described_of_planImage hfile hplan
  rw [← visible_loadStrips.answer_eq hbare] at hload
  have hsuits := suits_of_described hdescribed hload
  have hrows := rowsPerStrip_pos hload
  have hguard := guarded_of_planImage hfile hplan (Nat.zero_lt_of_lt hsample)
  rw [← hsuits.height, ← hsuits.scanlineSize, hsame] at hguard
  rw [← hsuits.height] at hrow
  have hbytes : table.bytesBefore row + table.scanlineSize ≤ table.height * table.scanlineSize :=
    StripTable.bytesBefore_add_le hrows (rowsPerStrip_le hload (Nat.zero_lt_of_lt hrow))
  have hend : table.bytesBefore row + table.scanlineSize < Address.limit :=
    calc table.bytesBefore row + table.scanlineSize
        ≤ 131070 * stream.size := Nat.le_trans hbytes hguard
      _ ≤ 131070 * 2 ^ 46 := Nat.mul_le_mul_left _ hsize
      _ < Address.limit := by decide
  have hstrip : table.stripOf row sample < Address.limit := by
    have hplane : table.planeOf sample < 2 ^ 16 :=
      Nat.lt_of_le_of_lt (table.planeOf_le sample) (Nat.lt_trans hsample (hrange.planes_lt _))
    have hstrips : table.stripsPerPlane ≤ 2 ^ 32 := by
      have hheight := hrange.height
      rw [← hsuits.height] at hheight
      exact Nat.le_trans (StripTable.stripsPerPlane_le hrows) (Nat.le_of_lt hheight)
    calc table.stripOf row sample
        < 2 ^ 16 * table.stripsPerPlane := StripTable.stripOf_lt_mul hrows hrow hplane
      _ ≤ 2 ^ 16 * 2 ^ 32 := Nat.mul_le_mul_left _ hstrips
      _ < Address.limit := by decide
  exact ⟨hguard, hstrip, Nat.lt_of_le_of_lt (Nat.le_add_right _ _) hend, hend⟩

/-- The second of two rows. -/
theorem addresses_fit_twoRows :
    ∃ opened table, ofStream (Stream.ofBytes StoredFile.twoRows.toArray) = .ok opened ∧
      let file := afterAll [.select 7, .readScanline 1 0 [0, 0]] opened
      (0, 1) ∈ (after (decodeImage (some 0)) (Watched.mk file [])).asked ∧
      answer loadStrips (turnedTo (some 0) file) = .ok table ∧ table.stripOf 1 0 = 1 ∧
      table.height * table.scanlineSize ≤ 131070 * StoredFile.twoRows.length ∧
      table.bytesBefore 1 + table.scanlineSize < Address.limit := by
  have hruns : ((ofStream (Stream.ofBytes StoredFile.twoRows.toArray)).toOption.bind fun opened =>
      let file := afterAll [.select 7, .readScanline 1 0 [0, 0]] opened
      (answer loadStrips (turnedTo (some 0) file)).toOption.map fun table =>
        (table.stripOf 1 0, (after (decodeImage (some 0)) (Watched.mk file [])).asked)) =
        some (1, [(0, 0), (0, 1)]) := by
    decide +kernel
  obtain ⟨opened, hopens, hruns⟩ := Option.bind_eq_some_iff.mp hruns
  obtain ⟨table, hloads, hruns⟩ := Option.map_eq_some_iff.mp hruns
  obtain ⟨hstrip, hasked⟩ := Prod.mk.inj hruns
  have hopen := except_toOption_eq_some.mp hopens
  have hload := except_toOption_eq_some.mp hloads
  have hread : (0, 1) ∈ (after (decodeImage (some 0)) (Watched.mk
      (afterAll [.select 7, .readScanline 1 0 [0, 0]] opened) [])).asked := by
    rw [hasked]
    decide
  obtain ⟨hguard, _, _, hend⟩ := addresses_fit hopen (by decide +kernel)
    [.select 7, .readScanline 1 0 [0, 0]] (some 0) 0 1 hread table hload
  exact ⟨opened, table, hopen, hread, hload, hstrip, hguard, hend⟩

end File

end TiffStrip
