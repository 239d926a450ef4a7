import TiffStrip.Proofs.File.Directory
import TiffStrip.Proofs.File.Hidden
import TiffStrip.Proofs.Layout.Placed

namespace TiffStrip

namespace File

variable {encoding : Encoding}

/-- A directory is read where it was stored. -/
theorem answer_readDirectory {s : Stream} {start : Nat} {directory : Directory}
    (hsound : directory.Sound encoding) (hholds : s.Holds start (directory.serialize encoding))
    (hsize : s.size < Address.limit) :
    answer (readDirectory encoding start) s = .ok directory := by
  have hinside := hholds.le_size
  exact answer_readDirectory_eq_ok.mpr ⟨hsound, hholds, Nat.lt_of_le_of_lt hinside hsize⟩

end File

namespace StoredFile

open File

variable {encoding : Encoding}

theorem next_lt {start : Nat} {rest : List StoredImage}
    (hfits : ∀ field ∈ fields encoding start rest, field.Fits) :
    (if rest.isEmpty then 0 else start) < wordLimit encoding.format.offsetSize := by
  cases rest with
  | nil => exact wordLimit_mono (Nat.zero_le encoding.format.offsetSize)
  | cons image rest =>
    have hstrips := StoredImage.stripsStart_lt fun field hfield =>
      hfits field (List.mem_append_left _ hfield)
    exact Nat.lt_trans StoredImage.start_lt_stripsStart hstrips.1

theorem placed_cons {s : Stream} {image : StoredImage} {rest : List StoredImage} {start : Nat}
    (hfits : ∀ field ∈ fields encoding start (image :: rest), field.Fits)
    (hholds : s.Holds start (body encoding start (image :: rest))) :
    let next := image.nextStart encoding start
    image.Placed s encoding start (if rest.isEmpty then 0 else next) ∧ start < next ∧
      s.Holds next (body encoding next rest) := by
  intro next
  have hfirst : ∀ field ∈ image.placedFields encoding start, field.Fits :=
    fun field hfield => hfits field (List.mem_append_left _ hfield)
  have hnext := next_lt fun field hfield => hfits field (List.mem_append_right _ hfield)
  have hrest := hholds.right
  rw [← StoredImage.nextStart_eq hfirst hnext] at hrest
  refine ⟨⟨hfirst, hnext, hholds.left⟩, ?_, hrest⟩
  have hstrips : start < image.stripsStart encoding start := StoredImage.start_lt_stripsStart
  have hstop : image.stripsStart encoding start ≤ next :=
    Nat.le_trans (Nat.le_add_right _ _) (Nat.le_add_right _ _)
  omega

theorem answer_readDirectories {s : Stream} (hsize : s.size < Address.limit)
    {images : List StoredImage} {start remaining : Nat} {visited : List Nat}
    (hremaining : images.length ≤ remaining) (hvisited : ∀ offset ∈ visited, offset < start)
    (hstart : 0 < start) (hfits : ∀ field ∈ fields encoding start images, field.Fits)
    (hholds : s.Holds start (body encoding start images)) :
    answer (readDirectories encoding remaining visited (if images.isEmpty then 0 else start)) s =
      .ok (directories encoding start images) := by
  induction images generalizing start remaining visited with
  | nil => cases remaining <;> rfl
  | cons image rest ih =>
    cases remaining with
    | zero => cases hremaining
    | succ remaining =>
      obtain ⟨hplaced, hnext, hrest⟩ := placed_cons hfits hholds
      have hdirectory := answer_readDirectory hplaced.sound_directory hplaced.directory hsize
      have hvisited' : ∀ offset ∈ start :: visited, offset < image.nextStart encoding start := by
        intro offset hoffset
        rcases List.mem_cons.mp hoffset with rfl | hoffset
        · exact hnext
        · exact Nat.lt_trans (hvisited offset hoffset) hnext
      have hothers := ih (Nat.le_of_succ_le_succ hremaining) hvisited' (Nat.lt_trans hstart hnext)
        (fun field hfield => hfits field (List.mem_append_right _ hfield)) hrest
      have hnew : ¬(start = 0 ∨ start ∈ visited) := by
        rintro (hzero | hmem)
        · omega
        · exact Nat.lt_irrefl start (hvisited start hmem)
      change answer (readDirectories encoding (remaining + 1) visited start) s = _
      rw [answer_readDirectories_succ remaining hnew, hdirectory]
      exact congrArg (· >>= fun rest => Except.ok (_ :: rest)) hothers

def header (encoding : Encoding) : Header :=
  { encoding, firstDirectory := encoding.format.headerSize }

theorem exists_front (images : List StoredImage) {length : Nat}
    (h : encoding.format.headerSize ≤ length) :
    ∃ rest, (bytes encoding images).take length = (header encoding).serialize ++ rest := by
  have hlength : (header encoding).serialize.length = encoding.format.headerSize :=
    Header.length_serialize _
  refine ⟨(body encoding encoding.format.headerSize images).take
    (length - encoding.format.headerSize), ?_⟩
  change ((header encoding).serialize ++ _).take length = _
  rw [List.take_append, hlength, List.take_of_length_le (by omega)]

/-- The images of a stored file are behind its header. -/
theorem holds_body {s : Stream} {images : List StoredImage}
    (hcontents : s.contents.toList = bytes encoding images) :
    s.Holds encoding.format.headerSize (body encoding encoding.format.headerSize images) := by
  refine ⟨(header encoding).serialize, [], ?_, Header.length_serialize _⟩
  rw [hcontents, List.append_nil]
  rfl

theorem answer_readStructure {s : Stream} {images : List StoredImage} (hne : images ≠ [])
    (hmax : images.length ≤ maxDirectories) (hfits : Fits encoding images)
    (hcontents : s.contents.toList = bytes encoding images) (hsize : s.size < Address.limit) :
    answer readStructure s =
      .ok (header encoding, directories encoding encoding.format.headerSize images) := by
  have hbody := holds_body hcontents
  have hheader : 0 < encoding.format.headerSize ∧
      encoding.format.headerSize ≤ Format.big.headerSize ∧
      encoding.format.headerSize < wordLimit encoding.format.offsetSize := by
    cases encoding.format <;> decide
  have hinside : encoding.format.headerSize < s.size := by
    cases images with
    | nil => exact absurd rfl hne
    | cons image rest =>
      obtain ⟨_, hnext, hrest⟩ := placed_cons hfits hbody
      exact Nat.lt_of_lt_of_le hnext (Nat.le_trans (Nat.le_add_right _ _) hrest.le_size)
  have hwhole : s.Holds 0 (bytes encoding images) := ⟨[], [], by simp [hcontents], rfl⟩
  have hlength : s.size = (bytes encoding images).length := by
    rw [← hcontents, Array.length_toList]
    rfl
  have hlong : encoding.format.headerSize ≤ min s.size Format.big.headerSize := by omega
  have hfront : s.slice (0 + 0) (min s.size Format.big.headerSize) =
      ((bytes encoding images).drop 0).take (min s.size Format.big.headerSize) :=
    hwhole.slice (by omega)
  rw [Nat.add_zero, List.drop_zero] at hfront
  have hparse : answer readHeader s = .ok (header encoding) := by
    obtain ⟨rest, hrest⟩ := exists_front images hlong
    rw [answer_readHeader, hfront, hrest]
    exact Header.parse_serialize hheader.2.2 hinside rest
  have hvisited : ∀ offset ∈ ([] : List Nat), offset < encoding.format.headerSize :=
    fun _ hoffset => nomatch hoffset
  have hchain := answer_readDirectories hsize hmax hvisited hheader.1 hfits hbody
  rw [if_neg (by simpa using hne)] at hchain
  rw [answer_readStructure_eq, hparse]
  exact congrArg (· >>= fun directories => Except.ok (header encoding, directories)) hchain

theorem length_directories (start : Nat) (images : List StoredImage) :
    (directories encoding start images).length = images.length := by
  induction images generalizing start with
  | nil => rfl
  | cons image rest ih => rw [directories, List.length_cons, List.length_cons, ih]

/-- Every image is stored somewhere, and has its directory at its own place in the chain. -/
theorem exists_placed {s : Stream} {images : List StoredImage} {start index : Nat}
    {image : StoredImage} (hfits : ∀ field ∈ fields encoding start images, field.Fits)
    (hholds : s.Holds start (body encoding start images)) (hindex : images[index]? = some image) :
    ∃ start' next,
      (directories encoding start images)[index]? = some (image.directory encoding start' next) ∧
        image.Placed s encoding start' next := by
  induction images generalizing start index with
  | nil => cases hindex
  | cons first rest ih =>
    obtain ⟨hplaced, _, hrest⟩ := placed_cons hfits hholds
    cases index with
    | zero =>
      obtain rfl : first = image := Option.some.inj hindex
      exact ⟨_, _, rfl, hplaced⟩
    | succ index =>
      exact ih (fun field hfield => hfits field (List.mem_append_right _ hfield)) hrest hindex

theorem exists_opened (name : String) {images : List StoredImage} (hne : images ≠ [])
    (hmax : images.length ≤ maxDirectories) (hfits : Fits encoding images)
    (hsize : (bytes encoding images).length < Address.limit) :
    ∃ file, ofBytes name (bytes encoding images).toArray = .ok file ∧
      file.header = header encoding ∧
      file.directories = directories encoding encoding.format.headerSize images ∧
      file.stream.contents.toList = bytes encoding images := by
  have hread := answer_readStructure
    (s := { Stream.ofBytes (bytes encoding images).toArray with name }) hne hmax hfits rfl hsize
  have hstream := steady_readStructure.view_after
    { Stream.ofBytes (bytes encoding images).toArray with name }
  have hok := answer_eq_ok.mp hread
  generalize after readStructure _ = stream at hok hstream
  have hcontents : stream.contents = (bytes encoding images).toArray :=
    congrArg Stream.contents hstream
  cases images with
  | nil => exact absurd rfl hne
  | cons image rest =>
    unfold ofBytes ofStream
    rw [hok]
    exact ⟨_, rfl, rfl, rfl, congrArg Array.toList hcontents⟩

end StoredFile

end TiffStrip
