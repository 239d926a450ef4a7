import TiffStrip.Proofs.File.History
import TiffStrip.Proofs.Source.Lines

namespace TiffStrip.File

open FieldSource

theorem answer_loadStrips (file : File) :
    answer loadStrips file = do
      let compression ← answer (defaulted16 .compression) file
      if !(Compression.ofCode? compression).any Compression.isReadable then
        throw (.unsupportedCompression compression)
      if file.directory.isTiled then throw .tiled
      let height ← answer (required32 .imageLength) file
      let samples ← answer (defaulted16 .samplesPerPixel) file
      let planar ← answer FieldSource.planar file
      let scanlineSize ← answer scanlineSize file
      let rowsPerStrip := rowsPerStrip height (← answer (fieldOrDefault .rowsPerStrip) file)
      let some offsets ← answer (fieldAs? .stripOffsets FieldValue.numbers?) file
        | throw (.missingTag .stripOffsets)
      let table : StripTable :=
        { height, samples, planar, rowsPerStrip, scanlineSize, offsets := offsets.toArray
          byteCounts? := none }
      let expected := table.stripsPerPlane * table.planes
      if offsets.length < expected then
        throw (.invalidValue (.tag .stripOffsets) (.tooFewStrips expected offsets.length))
      let byteCounts? := (← answer (field .stripByteCounts) file).bind FieldValue.numbers?
      return { table with byteCounts? := byteCounts?.map List.toArray } := by
  unfold loadStrips
  refine (visible_defaulted16 _).steady.answer_bind (fun compression f hf => ?_) rfl
  by_cases hreadable : (Compression.ofCode? compression).any Compression.isReadable
  · simp only [hreadable, Bool.not_true, Bool.false_eq_true, if_false]
    rw [answer_get, directory_eq hf]
    by_cases htiled : file.directory.isTiled
    · simp only [htiled, if_true]
      rfl
    · simp only [htiled, if_false, Bool.false_eq_true]
      refine (visible_required32 _).steady.answer_bind (fun height f hf => ?_) hf
      refine (visible_defaulted16 _).steady.answer_bind (fun samples f hf => ?_) hf
      refine visible_planar.steady.answer_bind (fun planar f hf => ?_) hf
      refine visible_scanlineSize.steady.answer_bind (fun size f hf => ?_) hf
      refine (visible_fieldOrDefault _).steady.answer_bind (fun rows f hf => ?_) hf
      refine (visible_fieldAs _ _).steady.answer_bind (fun offsets? f hf => ?_) hf
      cases offsets? with
      | none => rfl
      | some offsets =>
        dsimp only
        rw [TiffStrip.answer_bind, answer_pure, after_pure]
        dsimp only [Except.bind]
        rw [List.size_toArray]
        split
        · rfl
        · exact (visible_field _).steady.answer_bind (fun counts f hf => rfl) hf
  · simp only [hreadable, Bool.not_false, if_true]
    rfl

structure Builds (file : File) (table : StripTable) : Prop where
  compression : ∃ code, answer (defaulted16 .compression) file = .ok code ∧
    (Compression.ofCode? code).any Compression.isReadable = true
  untiled : file.directory.isTiled = false
  height : answer (required32 .imageLength) file = .ok table.height
  samples : answer (defaulted16 .samplesPerPixel) file = .ok table.samples
  planar : answer FieldSource.planar file = .ok table.planar
  scanlineSize : answer File.scanlineSize file = .ok table.scanlineSize
  rowsPerStrip : ∃ stated, answer (fieldOrDefault .rowsPerStrip) file = .ok stated ∧
    table.rowsPerStrip = File.rowsPerStrip table.height stated
  offsets : answer (fieldAs? .stripOffsets FieldValue.numbers?) file =
    .ok (some table.offsets.toList)
  enough : table.stripsPerPlane * table.planes ≤ table.offsets.size
  byteCounts : ∃ found, answer (field .stripByteCounts) file = .ok found ∧
    table.byteCounts? = (found.bind FieldValue.numbers?).map List.toArray

theorem builds_of_loadStrips {file : File} {table : StripTable}
    (h : answer loadStrips file = .ok table) : file.Builds table := by
  rw [answer_loadStrips] at h
  obtain ⟨compression, hcompression, h⟩ := except_bind_eq_ok.mp h
  obtain ⟨hreadable, h⟩ := unless_eq_ok.mp h
  obtain ⟨htiled, h⟩ := unless_eq_ok.mp h
  obtain ⟨height, hheight, h⟩ := except_bind_eq_ok.mp h
  obtain ⟨samples, hsamples, h⟩ := except_bind_eq_ok.mp h
  obtain ⟨planar, hplanar, h⟩ := except_bind_eq_ok.mp h
  obtain ⟨size, hsize, h⟩ := except_bind_eq_ok.mp h
  obtain ⟨stated, hstated, h⟩ := except_bind_eq_ok.mp h
  obtain ⟨offsets?, hoffsets, h⟩ := except_bind_eq_ok.mp h
  cases offsets? with
  | none => cases h
  | some offsets =>
    obtain ⟨henough, h⟩ := unless_eq_ok.mp h
    obtain ⟨found, hfound, h⟩ := except_bind_eq_ok.mp h
    cases h
    exact {
      compression := ⟨compression, hcompression, by simpa using hreadable⟩
      untiled := by simpa using htiled
      height := hheight
      samples := hsamples
      planar := hplanar
      scanlineSize := hsize
      rowsPerStrip := ⟨stated, hstated, rfl⟩
      offsets := hoffsets
      enough := Nat.not_lt.mp henough
      byteCounts := ⟨found, hfound, rfl⟩ }

/-- A range inside the file is read, and any other is refused. -/
theorem answer_readRange (offset length : Nat) (file : File) :
    answer (readRange offset length) file =
      if (file.stream.mapped ∨ offset + length < Address.limit) ∧
          offset + length ≤ file.stream.size then
        .ok (file.stream.slice offset length)
      else .error (.stream (.rangeOutOfBounds offset length file.stream.size)) := by
  unfold readRange
  rw [answer_get]
  cases hmapped : file.stream.mapped with
  | true =>
    simp only [Stream.map?, hmapped, if_true, true_or, true_and]
    change answer (if offset + length ≤ file.stream.size then _ else _) file = _
    by_cases hsize : offset + length ≤ file.stream.size
    · rw [if_pos hsize, if_pos hsize]
      rfl
    · rw [if_neg hsize, if_neg hsize]
      rfl
  | false =>
    simp only [Stream.map?, hmapped, Bool.false_eq_true, if_false, false_or]
    rw [answer_onStream]
    change answer (EStateM.adaptExcept FormatError.stream (Stream.readExactAt offset length)) _ = _
    rw [answer_adaptExcept, Stream.answer_readExactAt]
    split <;> rfl

theorem answer_readScanline (row sample : Nat) (buffer : List UInt8) {file : File}
    (h : file.Genuine) :
    answer (readScanline row sample buffer) file = do
      let table ← answer loadStrips file
      let offset ← table.locate row sample
      if buffer.length < table.scanlineSize then
        throw (.scanlineBufferTooSmall table.scanlineSize buffer.length)
      return overwrite (← answer (readRange offset table.scanlineSize) file) buffer := by
  obtain ⟨hstrips, hbare, _⟩ := strips_spec h
  unfold readScanline
  rw [answer_bind, hstrips]
  refine congrArg _ (funext fun table => ?_)
  rw [answer_bind, answer_ofExcept, after_ofExcept]
  refine congrArg _ (funext fun offset => ?_)
  by_cases hbuffer : buffer.length < table.scanlineSize
  · rw [if_pos hbuffer, if_pos hbuffer]
    rfl
  · rw [if_neg hbuffer, if_neg hbuffer, answer_bind, (visible_readRange _ _).answer_eq hbare]
    rfl

theorem answer_readRange_eq_ok {offset length : Nat} {file : File} {bytes : List UInt8} :
    answer (readRange offset length) file = .ok bytes ↔
      ((file.stream.mapped ∨ offset + length < Address.limit) ∧
        offset + length ≤ file.stream.size) ∧ bytes = file.stream.slice offset length := by
  rw [answer_readRange]
  split
  case isTrue hrange =>
    rw [Except.ok.injEq, eq_comm]
    exact (and_iff_right hrange).symm
  case isFalse hrange => exact ⟨nofun, fun h => absurd h.1 hrange⟩

theorem length_of_readRange {offset length : Nat} {file : File} {bytes : List UInt8}
    (h : answer (readRange offset length) file = .ok bytes) :
    bytes.length = length ∧ bytes = file.stream.slice offset length := by
  obtain ⟨⟨_, hinside⟩, rfl⟩ := answer_readRange_eq_ok.mp h
  exact ⟨file.stream.length_slice hinside, rfl⟩

instance : KeepsBuffers File where
  length_readScanline row sample buffer file left buffer' h := by
    obtain ⟨table, opened, _, hlocate⟩ := bind_eq_ok h
    obtain ⟨offset, located, _, hrest⟩ := bind_eq_ok hlocate
    by_cases hbuffer : buffer.length < table.scanlineSize
    · rw [if_pos hbuffer] at hrest
      cases hrest
    · rw [if_neg hbuffer] at hrest
      obtain ⟨bytes, read, hread, hdone⟩ := bind_eq_ok hrest
      cases hdone
      have hlength := (length_of_readRange (answer_of_ok hread)).1
      exact length_overwrite (by omega)

/-- The bytes that the strip table locates for a scanline, none if it locates none. -/
def line (file : File) (sample row : Nat) : List UInt8 :=
  match answer loadStrips file with
  | .error _ => []
  | .ok table =>
    match table.locate row sample with
    | .error _ => []
    | .ok offset => file.stream.slice offset table.scanlineSize

def lineSize (file : File) : Nat :=
  match answer scanlineSize file with
  | .error _ => 0
  | .ok size => size

theorem lineSize_of_ok {file : File} {size : Nat} (h : answer scanlineSize file = .ok size) :
    file.lineSize = size := by
  rw [lineSize, h]

theorem slice_eq {f g : File} (h : f.bare = g.bare) (offset length : Nat) :
    f.stream.slice offset length = g.stream.slice offset length :=
  show f.bare.stream.slice offset length = g.bare.stream.slice offset length by rw [h]

theorem line_eq {f g : File} (h : f.bare = g.bare) (sample row : Nat) :
    f.line sample row = g.line sample row := by
  unfold line
  rw [visible_loadStrips.answer_eq h]
  simp only [slice_eq h]

theorem lineSize_eq {f g : File} (h : f.bare = g.bare) : f.lineSize = g.lineSize := by
  unfold lineSize
  rw [visible_scanlineSize.answer_eq h]

theorem readScanline_ok {row sample : Nat} {buffer buffer' : List UInt8} {file : File}
    (hfile : file.Genuine) (h : answer (readScanline row sample buffer) file = .ok buffer') :
    (file.line sample row).length = file.lineSize ∧
      buffer' = overwrite (file.line sample row) buffer := by
  rw [answer_readScanline row sample buffer hfile] at h
  obtain ⟨table, htable, h⟩ := except_bind_eq_ok.mp h
  obtain ⟨offset, hoffset, h⟩ := except_bind_eq_ok.mp h
  obtain ⟨_, h⟩ := unless_eq_ok.mp h
  obtain ⟨bytes, hbytes, h⟩ := except_bind_eq_ok.mp h
  obtain ⟨hlength, hslice⟩ := length_of_readRange hbytes
  have hline : file.line sample row = bytes := by
    simp only [line, htable, hoffset, hslice]
  rw [hline, lineSize_of_ok (builds_of_loadStrips htable).scanlineSize]
  cases h
  exact ⟨hlength, rfl⟩

/-- The file as it is when one of its images has just been selected. -/
def turned (file : File) (image : Nat) : File :=
  after (select image) file

/-- A genuine file with the contents of another is that file, turned to some image. -/
theorem bare_turned {file used : File} (h : used.reopened = file.reopened) :
    used.bare = (file.turned used.current).bare := by
  have hcount : used.directories.length = file.directories.length :=
    congrArg List.length (directories_eq h)
  apply bare_eq
  · exact h.trans (reopened_after_select used.current file).symm
  · rw [turned, current_after_select, if_pos (hcount ▸ used.current_lt)]

/-- While it is genuine and has the same contents, a file serves the lines of its images. -/
theorem servesLines (file : File) :
    ServesLines (fun used : File => used.Genuine ∧ used.reopened = file.reopened)
      (fun image => (file.turned image).lineSize)
      (fun image sample row => (file.turned image).line sample row) := by
  have keeps (image : Nat) {ε α : Type} {act : EStateM ε File α} (h : Visible act) :
      Simulates (fun f g : File =>
        f = g ∧ (f.Genuine ∧ f.reopened = file.reopened) ∧ f.current = image) act act := by
    refine simulates_self_iff.mpr fun f hf => ⟨⟨genuine_after h hf.1.1, ?_⟩, ?_⟩
    · exact (reopened_eq (h.bare_after f)).trans hf.1.2
    · exact (current_eq (h.bare_after f)).trans hf.2
  constructor
  case inspects =>
    intro image
    exact {
      name := fun f g h => by rw [h.1]
      imageCount := fun f g h => by rw [h.1]
      dataSize := fun f g h => by rw [h.1]
      field := fun tag => keeps image (visible_field tag)
      scanlineSize := keeps image visible_scanlineSize }
  case select =>
    intro index used left hused hselect
    have hselect : select index used = .ok () left := hselect
    have hanswer := answer_of_ok hselect
    have hleft := after_of_ok hselect
    rw [answer_select] at hanswer
    by_cases hindex : index < used.directories.length
    · rw [← hleft]
      refine ⟨⟨genuine_after_select index hused.1, ?_⟩, ?_⟩
      · exact (reopened_after_select index used).trans hused.2
      · exact (current_after_select index used).trans (if_pos hindex)
    · rw [if_neg hindex] at hanswer
      cases hanswer
  case scanlineSize =>
    intro used left size hused hsize
    have hsize := lineSize_of_ok (answer_of_ok hsize)
    exact hsize.symm.trans (lineSize_eq (bare_turned hused.2))
  case readScanline =>
    intro row sample buffer used left buffer' hused hread
    have hbare := bare_turned hused.2
    have hline := readScanline_ok hused.1 (answer_of_ok hread)
    rw [lineSize_eq hbare, line_eq hbare] at hline
    have hkept := simulates_self_iff.mp ((reads_bare used.bare).readScanline row sample buffer)
      used ⟨rfl, hused.1⟩
    rw [after_of_ok hread] at hkept
    exact ⟨⟨⟨hkept.2, (reopened_eq hkept.1).trans hused.2⟩, current_eq hkept.1⟩, hline⟩

end TiffStrip.File
