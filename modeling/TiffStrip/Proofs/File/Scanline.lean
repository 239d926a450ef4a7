import TiffStrip.Proofs.File.Access
import TiffStrip.Proofs.File.Directory
import TiffStrip.Proofs.File.Served
import TiffStrip.Proofs.Source.Fields

namespace TiffStrip

namespace FieldSource

variable {σ : Type} [FieldSource σ] {s : σ} {tag : Tag}

theorem field_of_fieldOrDefault {value : FieldValue}
    (h : answer (fieldOrDefault tag) s = .ok value) :
    ∃ found?, answer (field tag) s = .ok found? ∧ found?.or tag.default? = some value := by
  rw [fieldOrDefault, answer_bind] at h
  obtain ⟨found?, hfound, h⟩ := except_bind_eq_ok.mp h
  refine ⟨found?, hfound, ?_⟩
  cases found? with
  | some found =>
    cases h
    rfl
  | none =>
    cases hdefault : tag.default? with
    | none =>
      simp only [hdefault] at h
      cases h
    | some prescribed =>
      simp only [hdefault] at h
      cases h
      rfl

end FieldSource

structure StripTags where
  height : Nat
  samples : Nat
  planar : Planar
  lineSize : Nat
  /-- The value of the tag for the rows of a strip. -/
  rowsPerStrip? : Option FieldValue
  /-- The offset of each strip. -/
  offsets : List Nat
  /-- The value of the tag for the size of each strip. -/
  byteCounts? : Option FieldValue

namespace StripTags

/-- Rows to a strip: the first number of its tag, from one to all of the rows; all of them where the
tag has no number. -/
def rows (tags : StripTags) : Nat :=
  let stated? := tags.rowsPerStrip?.bind fun value => value.numbers?.bind List.head?
  max 1 (min (stated?.getD tags.height) (max 1 tags.height))

/-- The strip of a scanline. Samples that are stored apart have their strips one after the other. -/
def strip (tags : StripTags) (row sample : Nat) : Nat :=
  (if tags.planar = .separate then sample else 0) * ceilDiv tags.height tags.rows + row / tags.rows

def before (tags : StripTags) (row : Nat) : Nat :=
  row % tags.rows * tags.lineSize

def offset? (tags : StripTags) (row sample : Nat) : Option Nat :=
  tags.offsets[tags.strip row sample]?.map (· + tags.before row)

/-- Whether there is such a scanline in the image. -/
def Has (tags : StripTags) (row sample : Nat) : Prop :=
  row < tags.height ∧ (tags.planar = .separate → sample < tags.samples)

/-- Whether the strip of a scanline, if its size is stated, goes to the end of the scanline. -/
def Reaches (tags : StripTags) (row sample : Nat) : Prop :=
  ∀ held, (tags.byteCounts?.bind FieldValue.numbers?).bind (·[tags.strip row sample]?) = some held →
    tags.before row + tags.lineSize ≤ held

structure ReadFrom (tags : StripTags) (file : File) : Prop where
  height : answer (FieldSource.required32 .imageLength) file = .ok tags.height
  samples : answer (FieldSource.defaulted16 .samplesPerPixel) file = .ok tags.samples
  planar : answer FieldSource.planar file = .ok tags.planar
  lineSize : answer File.scanlineSize file = .ok tags.lineSize
  rowsPerStrip : answer (File.field .rowsPerStrip) file = .ok tags.rowsPerStrip?
  offsets : answer (File.field .stripOffsets) file = .ok (some (.unsigned tags.offsets))
  byteCounts : answer (File.field .stripByteCounts) file = .ok tags.byteCounts?

def table (tags : StripTags) : StripTable where
  height := tags.height
  samples := tags.samples
  planar := tags.planar
  rowsPerStrip := tags.rows
  scanlineSize := tags.lineSize
  offsets := tags.offsets.toArray
  byteCounts? := (tags.byteCounts?.bind FieldValue.numbers?).map List.toArray

variable {tags : StripTags} {row sample : Nat}

theorem stripOf_table : tags.table.stripOf row sample = tags.strip row sample := by
  unfold StripTable.stripOf StripTable.planeOf StripTable.stripsPerPlane strip table
  cases tags.planar <;> rfl

theorem contains_table : tags.table.contains row sample = true ↔ tags.Has row sample := by
  unfold StripTable.contains Has table
  cases tags.planar <;> simp

theorem byteCount?_table :
    tags.table.byteCount? (tags.strip row sample) =
      (tags.byteCounts?.bind FieldValue.numbers?).bind (·[tags.strip row sample]?) := by
  unfold StripTable.byteCount? table
  cases tags.byteCounts?.bind FieldValue.numbers? <;> simp

/-- Where the strip table of the tags has a scanline. -/
theorem locate_table {offset : Nat} :
    tags.table.locate row sample = .ok offset ↔
      tags.Has row sample ∧ tags.Reaches row sample ∧ tags.offset? row sample = some offset ∧
        offset < Address.limit := by
  rw [StripTable.locate_eq_ok, contains_table, stripOf_table, byteCount?_table]
  have hoffset {start : Nat} : tags.table.offsets[tags.strip row sample]? = some start ↔
      tags.offsets[tags.strip row sample]? = some start := by
    rw [table, List.getElem?_toArray]
  simp only [hoffset, offset?, Option.map_eq_some_iff]
  constructor
  · rintro ⟨hhas, start, hstart, hreaches, hsum, hlimit⟩
    exact ⟨hhas, hreaches, ⟨start, hstart, hsum⟩, hlimit⟩
  · rintro ⟨hhas, hreaches, ⟨start, hstart, hsum⟩, hlimit⟩
    exact ⟨hhas, start, hstart, hreaches, hsum, hlimit⟩

end StripTags

namespace StripTable

variable {table : StripTable} {row sample : Nat}

theorem div_lt_stripsPerPlane (hrows : 0 < table.rowsPerStrip) (hrow : row < table.height) :
    row / table.rowsPerStrip < table.stripsPerPlane :=
  (Nat.div_lt_iff_lt_mul hrows).mpr (Nat.lt_of_lt_of_le hrow (le_ceilDiv_mul _ hrows))

/-- The strips of a plane come behind those of the planes before it. -/
theorem stripOf_lt_mul (hrows : 0 < table.rowsPerStrip) (hrow : row < table.height) {planes : Nat}
    (hplane : table.planeOf sample < planes) :
    table.stripOf row sample < planes * table.stripsPerPlane :=
  calc table.planeOf sample * table.stripsPerPlane + row / table.rowsPerStrip
      < table.planeOf sample * table.stripsPerPlane + table.stripsPerPlane :=
        Nat.add_lt_add_left (div_lt_stripsPerPlane hrows hrow) _
    _ = (table.planeOf sample + 1) * table.stripsPerPlane := (Nat.succ_mul _ _).symm
    _ ≤ planes * table.stripsPerPlane := Nat.mul_le_mul_right _ hplane

/-- The strips of all planes hold every scanline of the image. -/
theorem stripOf_lt (hrows : 0 < table.rowsPerStrip) (h : table.contains row sample = true) :
    table.stripOf row sample < table.stripsPerPlane * table.planes := by
  simp only [contains, Bool.and_eq_true, Bool.or_eq_true, decide_eq_true_eq] at h
  obtain ⟨hrow, hsample⟩ := h
  have hplane : table.planeOf sample < table.planes := by
    unfold planeOf planes
    cases hplanar : table.planar with
    | contiguous => exact Nat.zero_lt_one
    | separate => exact hsample.resolve_left (by rw [hplanar]; nofun)
  rw [Nat.mul_comm]
  exact stripOf_lt_mul hrows hrow hplane

/-- The samples of a pixel that are stored together are one scanline, whichever is asked for; only a
refusal says which it was. -/
theorem locate_of_contiguous (h : table.planar = .contiguous) (row sample other : Nat) :
    table.locate row other = table.locate row sample ∨
      table.locate row sample =
          .error (.scanlineOutOfRange row sample table.height table.samples) ∧
        table.locate row other =
          .error (.scanlineOutOfRange row other table.height table.samples) := by
  have hsame : table.contains row other = table.contains row sample := by
    rw [contains, contains, h]
    rfl
  have hstrip : table.stripOf row other = table.stripOf row sample := by
    rw [stripOf, stripOf, planeOf, planeOf, h]
  unfold locate
  rw [hsame, hstrip]
  cases table.contains row sample with
  | false => exact .inr ⟨rfl, rfl⟩
  | true => exact .inl rfl

end StripTable

namespace File

open FieldSource

variable {file : File}

/-- Rows to a strip, as the strip table has them, from the tag for them. -/
theorem rowsPerStrip_eq_rows (tags : StripTags) (hheight : tags.height < 0x100000000)
    {stated : FieldValue}
    (hstated : tags.rowsPerStrip?.or Tag.rowsPerStrip.default? = some stated) :
    rowsPerStrip tags.height stated = tags.rows := by
  unfold rowsPerStrip StripTags.rows
  cases hfound : tags.rowsPerStrip? with
  | none =>
    rw [hfound] at hstated
    cases hstated
    simp only [FieldValue.numbers?, Option.bind_some, Option.bind_none, List.head?_cons,
      Option.getD_some, Option.getD_none]
    omega
  | some value =>
    rw [hfound] at hstated
    cases hstated
    simp only [Option.bind_some]
    cases stated.numbers?.bind List.head? with
    | none =>
      simp only [Option.getD_none]
      omega
    | some first =>
      simp only [Option.getD_some]
      omega

/-- A strip table that a file builds is that of its tags. -/
theorem exists_tags {table : StripTable} (h : answer loadStrips file = .ok table) :
    ∃ tags : StripTags, tags.ReadFrom file ∧ tags.table = table := by
  have hbuilds := builds_of_loadStrips h
  obtain ⟨stated, hstated, hrows⟩ := hbuilds.rowsPerStrip
  obtain ⟨counts?, hcounts, hbyteCounts⟩ := hbuilds.byteCounts
  obtain ⟨found?, hfound, hdefault⟩ := field_of_fieldOrDefault hstated
  let tags : StripTags :=
    ⟨table.height, table.samples, table.planar, table.scanlineSize, found?, table.offsets.toList,
      counts?⟩
  have hsame : rowsPerStrip table.height stated = tags.rows :=
    rowsPerStrip_eq_rows tags (lt_of_required32 hbuilds.height) hdefault
  refine ⟨tags, ⟨hbuilds.height, hbuilds.samples, hbuilds.planar, hbuilds.scanlineSize, hfound,
    answer_field_of_numbers hbuilds.offsets, hcounts⟩, ?_⟩
  unfold StripTags.table
  rw [← hsame, ← hrows, ← hbyteCounts]

/-- When a scanline is read, and what is read then, by the tags of its image. -/
theorem answer_readScanline_eq_ok (hfile : file.Genuine) (hsize : file.stream.size < Address.limit)
    {tags : StripTags} (hload : answer loadStrips file = .ok tags.table) {row sample : Nat}
    {buffer read : List UInt8} :
    answer (readScanline row sample buffer) file = .ok read ↔
      tags.Has row sample ∧ tags.Reaches row sample ∧ tags.lineSize ≤ buffer.length ∧
        ∃ offset, tags.offset? row sample = some offset ∧
          offset + tags.lineSize ≤ file.stream.size ∧
          read = file.stream.slice offset tags.lineSize ++ buffer.drop tags.lineSize := by
  rw [answer_readScanline row sample buffer hfile, hload]
  change (tags.table.locate row sample >>= fun offset => _) = _ ↔ _
  rw [except_bind_eq_ok]
  simp only [StripTags.locate_table]
  constructor
  · rintro ⟨offset, ⟨hhas, hreaches, hoffset, _⟩, h⟩
    obtain ⟨hroom, h⟩ := unless_eq_ok.mp h
    obtain ⟨bytes, hbytes, h⟩ := except_bind_eq_ok.mp h
    obtain ⟨⟨_, hinside⟩, rfl⟩ := answer_readRange_eq_ok.mp hbytes
    cases h
    refine ⟨hhas, hreaches, Nat.not_lt.mp hroom, offset, hoffset, hinside, ?_⟩
    rw [overwrite, file.stream.length_slice hinside]
    rfl
  · rintro ⟨hhas, hreaches, hroom, offset, hoffset, hinside, rfl⟩
    have hbytes : answer (readRange offset tags.lineSize) file =
        .ok (file.stream.slice offset tags.lineSize) :=
      answer_readRange_eq_ok.mpr ⟨⟨.inr (Nat.lt_of_le_of_lt hinside hsize), hinside⟩, rfl⟩
    refine ⟨offset, ⟨hhas, hreaches, hoffset, by omega⟩,
      unless_eq_ok.mpr ⟨Nat.not_lt.mpr hroom, except_bind_eq_ok.mpr ⟨_, hbytes, ?_⟩⟩⟩
    rw [overwrite, file.stream.length_slice hinside]
    rfl

/-- An image with a strip table has an offset for each of its scanlines. -/
theorem exists_offset {tags : StripTags} (hload : answer loadStrips file = .ok tags.table)
    {row sample : Nat} (h : tags.Has row sample) :
    ∃ offset, tags.offset? row sample = some offset := by
  have hstrip := StripTable.stripOf_lt (Nat.le_max_left _ _) (StripTags.contains_table.mpr h)
  rw [StripTags.stripOf_table] at hstrip
  have henough := (builds_of_loadStrips hload).enough
  rw [show tags.table.offsets.size = tags.offsets.length from List.size_toArray] at henough
  have hless := Nat.lt_of_lt_of_le hstrip henough
  exact ⟨_, by rw [StripTags.offset?, List.getElem?_eq_getElem hless, Option.map_some]⟩

/-- Which of the samples that are stored together is asked for, only a refusal says. -/
theorem readScanline_of_contiguous (hfile : file.Genuine) {tags : StripTags}
    (hload : answer loadStrips file = .ok tags.table) (hplanar : tags.planar = .contiguous)
    (row sample other : Nat) (buffer : List UInt8) :
    answer (readScanline row other buffer) file = answer (readScanline row sample buffer) file ∨
      answer (readScanline row sample buffer) file =
          .error (.scanlineOutOfRange row sample tags.height tags.samples) ∧
        answer (readScanline row other buffer) file =
          .error (.scanlineOutOfRange row other tags.height tags.samples) := by
  have hcontiguous : tags.table.planar = .contiguous := hplanar
  rw [answer_readScanline row sample buffer hfile, answer_readScanline row other buffer hfile, hload]
  change (tags.table.locate row other >>= fun offset => _) =
      (tags.table.locate row sample >>= fun offset => _) ∨
    (tags.table.locate row sample >>= fun offset => _) = _ ∧
      (tags.table.locate row other >>= fun offset => _) = _
  obtain hlocate | ⟨hlocate, hother⟩ :=
    StripTable.locate_of_contiguous hcontiguous row sample other
  · rw [hlocate]
    exact .inl rfl
  · rw [hlocate, hother]
    exact .inr ⟨rfl, rfl⟩

/-- The buffer of somebody who reads a scanline into it: what is read, or what it was if nothing is
read. -/
def bufferAfter (row sample : Nat) (buffer : List UInt8) (file : File) : List UInt8 :=
  match answer (readScanline row sample buffer) file with
  | .ok read => read
  | .error _ => buffer

theorem bufferAfter_of_ok {offset length row sample : Nat} {buffer : List UInt8}
    (hinside : offset + length ≤ file.stream.size) (hroom : length ≤ buffer.length)
    (h : answer (readScanline row sample buffer) file =
      .ok (file.stream.slice offset length ++ buffer.drop length)) :
    (bufferAfter row sample buffer file).take length =
        (file.stream.contents.toList.drop offset).take length ∧
      (bufferAfter row sample buffer file).drop length = buffer.drop length ∧
      (bufferAfter row sample buffer file).length = buffer.length := by
  have hlength := file.stream.length_slice hinside
  have hafter : bufferAfter row sample buffer file =
      file.stream.slice offset length ++ buffer.drop length := by
    rw [bufferAfter, h]
  rw [hafter]
  refine ⟨?_, ?_, ?_⟩
  · rw [List.take_left' hlength, Stream.toList_slice]
  · rw [List.drop_left' hlength]
  · rw [List.length_append, hlength, List.length_drop]
    omega

/-- **A scanline is the bytes that its image's tags address.** After any history of requests, an image
without a strip table has no scanlines. One with a strip table has the tags for it, with an offset for
every scanline of the image. A scanline is read just if the image has it, if its strip is not stated
to end before it, if there is room for it in the buffer, and if the file has all of its bytes. Then the
buffer begins with these bytes, and goes on with what it had there; if nothing is read, all of it is as
before. Where the samples of a pixel are stored together, it makes no difference which of them is asked
for, but for its place in the error that says that there is no such scanline. -/
theorem readScanline_exact {stream : Stream} {opened : File} (hopen : ofStream stream = .ok opened)
    (hsize : stream.size < Address.limit) (history : List Request) :
    let file := afterAll history opened
    (∀ cause, answer loadStrips file = .error cause → ∀ row sample buffer,
      answer (readScanline row sample buffer) file = .error cause ∧
        bufferAfter row sample buffer file = buffer) ∧
    ∀ table, answer loadStrips file = .ok table → ∃ tags : StripTags, tags.ReadFrom file ∧
      ∀ row sample buffer,
        (tags.Has row sample → ∃ offset, tags.offset? row sample = some offset) ∧
        ((∃ read, answer (readScanline row sample buffer) file = .ok read) ↔
          tags.Has row sample ∧ tags.Reaches row sample ∧ tags.lineSize ≤ buffer.length ∧
            ∃ offset, tags.offset? row sample = some offset ∧
              offset + tags.lineSize ≤ stream.size) ∧
        (∀ read, answer (readScanline row sample buffer) file = .ok read →
          ∃ offset, tags.offset? row sample = some offset ∧
            (bufferAfter row sample buffer file).take tags.lineSize =
              (stream.contents.toList.drop offset).take tags.lineSize ∧
            (bufferAfter row sample buffer file).drop tags.lineSize = buffer.drop tags.lineSize ∧
            (bufferAfter row sample buffer file).length = buffer.length) ∧
        (∀ error, answer (readScanline row sample buffer) file = .error error →
          bufferAfter row sample buffer file = buffer) ∧
        (tags.planar = .contiguous → ∀ other,
          answer (readScanline row other buffer) file =
              answer (readScanline row sample buffer) file ∨
            answer (readScanline row sample buffer) file =
                .error (.scanlineOutOfRange row sample tags.height tags.samples) ∧
              answer (readScanline row other buffer) file =
                .error (.scanlineOutOfRange row other tags.height tags.samples)) := by
  intro file
  have hfile : file.Genuine := genuine_afterAll (genuine_of_ofStream hopen) history
  have hcontents : file.stream.contents = stream.contents :=
    Stream.contents_eq (stream_afterAll hopen history)
  have hsame : file.stream.size = stream.size := congrArg Array.size hcontents
  refine ⟨fun cause hcause row sample buffer => ?_, fun table hload => ?_⟩
  · have hfails := answer_readScanline_without_strips hfile hcause row sample buffer
    exact ⟨hfails, by rw [bufferAfter, hfails]⟩
  obtain ⟨tags, htags, rfl⟩ := exists_tags hload
  refine ⟨tags, htags, fun row sample buffer =>
    ⟨exists_offset hload, ?_, fun read hread => ?_, fun error herror => ?_, fun hplanar other =>
      readScanline_of_contiguous hfile hload hplanar row sample other buffer⟩⟩
  · simp only [answer_readScanline_eq_ok hfile (hsame ▸ hsize) hload, hsame]
    constructor
    · rintro ⟨_, hhas, hreaches, hroom, offset, hoffset, hinside, _⟩
      exact ⟨hhas, hreaches, hroom, offset, hoffset, hinside⟩
    · rintro ⟨hhas, hreaches, hroom, offset, hoffset, hinside⟩
      exact ⟨_, hhas, hreaches, hroom, offset, hoffset, hinside, rfl⟩
  · obtain ⟨_, _, hroom, offset, hoffset, hinside, rfl⟩ :=
      (answer_readScanline_eq_ok hfile (hsame ▸ hsize) hload).mp hread
    rw [← hcontents]
    exact ⟨offset, hoffset, bufferAfter_of_ok hinside hroom hread⟩
  · rw [bufferAfter, herror]

/-- The samples of a pixel of the two rows are stored together, and yet a row that they do not have is
refused differently for one sample and for another. -/
theorem readScanline_of_contiguous_twoRows :
    ∃ file, ofStream (Stream.ofBytes StoredFile.twoRows.toArray) = .ok file ∧
      (∃ table, answer loadStrips file = .ok table) ∧
      answer FieldSource.planar file = .ok .contiguous ∧
      answer (readScanline 5 0 [0, 0]) file = .error (.scanlineOutOfRange 5 0 2 1) ∧
      answer (readScanline 5 1 [0, 0]) file ≠ answer (readScanline 5 0 [0, 0]) file := by
  have hopens : (ofStream (Stream.ofBytes StoredFile.twoRows.toArray)).toOption.any (fun file =>
      (answer loadStrips file).toOption.isSome ∧
        (answer FieldSource.planar file).toOption = some .contiguous ∧
        refusal? (answer (readScanline 5 0 [0, 0]) file) = some (.scanlineOutOfRange 5 0 2 1) ∧
        refusal? (answer (readScanline 5 1 [0, 0]) file) = some (.scanlineOutOfRange 5 1 2 1)) =
          true := by
    decide +kernel
  obtain ⟨file, hfile, hfacts⟩ := (Option.any_eq_true _ _).mp hopens
  obtain ⟨hload, hplanar, hfirst, hsecond⟩ := of_decide_eq_true hfacts
  obtain ⟨table, hload⟩ := Option.isSome_iff_exists.mp hload
  have hfirst := refusal?_eq_some.mp hfirst
  have hsecond := refusal?_eq_some.mp hsecond
  refine ⟨file, except_toOption_eq_some.mp hfile, ⟨table, except_toOption_eq_some.mp hload⟩,
    except_toOption_eq_some.mp hplanar, hfirst, ?_⟩
  rw [hfirst, hsecond]
  nofun

/-- The third plane of the second of two images, whose strips have more rows than the image. -/
theorem readScanline_exact_sample :
    ∃ opened, ofStream sample.1 = .ok opened ∧ sample.1.size < Address.limit ∧
      let file := afterAll [.select 1, .readScanline 9 9 []] opened
      ∃ tags : StripTags, tags.ReadFrom file ∧ tags.planar = .separate ∧
        ∃ offset, tags.offset? 1 2 = some offset ∧
          (bufferAfter 1 2 [99, 99, 99] file).take tags.lineSize =
            (sample.1.contents.toList.drop offset).take tags.lineSize ∧
          (bufferAfter 1 2 [99, 99, 99] file).drop tags.lineSize =
            [99, 99, 99].drop tags.lineSize := by
  have hsize : sample.1.size < Address.limit := by decide +kernel
  have hopens : (ofStream sample.1).toOption.any (fun opened =>
      let file := afterAll [.select 1, .readScanline 9 9 []] opened
      (answer loadStrips file).toOption.isSome ∧
        (answer FieldSource.planar file).toOption = some .separate ∧
        (answer (readScanline 1 2 [99, 99, 99]) file).toOption.isSome) = true := by
    decide +kernel
  obtain ⟨opened, hopened, hfacts⟩ := (Option.any_eq_true _ _).mp hopens
  have hopen := except_toOption_eq_some.mp hopened
  obtain ⟨hload, hplanar, hread⟩ := of_decide_eq_true hfacts
  obtain ⟨table, hload⟩ := Option.isSome_iff_exists.mp hload
  obtain ⟨read, hread⟩ := Option.isSome_iff_exists.mp hread
  have hseparate := except_toOption_eq_some.mp hplanar
  obtain ⟨_, hloaded⟩ :=
    readScanline_exact hopen hsize [.select 1, .readScanline 9 9 []]
  obtain ⟨tags, htags, hlines⟩ := hloaded table (except_toOption_eq_some.mp hload)
  obtain ⟨_, _, hbytes, _⟩ := hlines 1 2 [99, 99, 99]
  obtain ⟨offset, hoffset, htake, hdrop, _⟩ := hbytes read (except_toOption_eq_some.mp hread)
  exact ⟨opened, hopen, hsize, tags, htags, Except.ok.inj (htags.planar.symm.trans hseparate),
    offset, hoffset, htake, hdrop⟩

end File

end TiffStrip
