import Mathlib.Data.List.Nodup
import TiffStrip.Proofs.File.Chain
import TiffStrip.Proofs.File.Described
import TiffStrip.Proofs.Layout.Encoded
import TiffStrip.Proofs.Layout.Opened

/-!
# Metadata and its encodings

What a directory says is one thing, how it says it another: the byte order and the format of the
file, the order of the entries, the width of the numbers, and whether values are in their entries or
behind them.
-/

namespace TiffStrip

inductive LogicalValue where
  | numbers (values : List Nat)
  /-- The bytes of a text, with all that follows its first zero byte. -/
  | text (bytes : List UInt8)
  deriving DecidableEq, Repr

/-- The value that a reader gets. -/
def LogicalValue.read : LogicalValue → FieldValue
  | numbers values => .unsigned values
  | text bytes => .ascii (Text.decodeUtf8 (bytes.takeWhile (· ≠ 0)))

structure LogicalField where
  tag : Tag
  value : LogicalValue
  deriving DecidableEq, Repr

namespace LogicalField

def find? (fields : List LogicalField) (tag : Tag) : Option LogicalField :=
  fields.find? (·.tag = tag)

theorem find?_of_mem {fields : List LogicalField} (hdistinct : (fields.map (·.tag)).Nodup)
    {field : LogicalField} (hfield : field ∈ fields) : find? fields field.tag = some field := by
  cases hfound : find? fields field.tag with
  | none => exact absurd (decide_eq_true rfl) (List.find?_eq_none.mp hfound field hfield)
  | some other =>
    have hother : other ∈ fields := List.mem_of_find?_eq_some hfound
    have htag : other.tag = field.tag := by simpa using List.find?_some hfound
    rw [List.inj_on_of_nodup_map hdistinct hother hfield htag]

end LogicalField

namespace Entry

/-- An entry writes a field down: its numbers in any width that they fit, its text byte by byte. -/
structure Encodes (entry : Entry) (encoding : Encoding) (s : Stream) (field : LogicalField) :
    Prop where
  tag : entry.tag = field.tag.code
  value :
    match field.value with
    | .numbers values => ∃ type : FieldType, type.isInteger = true ∧
        (∀ value ∈ values, value < wordLimit type.size) ∧
        entry.Carries encoding s type (encoding.order.encodeArray type.size values)
    | .text bytes => entry.Carries encoding s .ascii bytes

theorem Encodes.answer_readValue {entry : Entry} {encoding : Encoding} {s : Stream}
    {field : LogicalField} (h : entry.Encodes encoding s field) (hsize : s.size < Address.limit) :
    answer (entry.readValue encoding) s = .ok field.value.read := by
  have hvalue := h.value
  cases hfield : field.value with
  | numbers values =>
    rw [hfield] at hvalue
    obtain ⟨type, hinteger, hfits, hcarries⟩ := hvalue
    exact hcarries.answer_readValue_numbers hinteger hfits hsize
  | text bytes =>
    rw [hfield] at hvalue
    exact hvalue.answer_readValue_text hsize

end Entry

/-- Each of two lists that match one by one has a match for every element of the other. -/
theorem exists_mem_of_forall₂ {α β : Type} {R : α → β → Prop} {as : List α} {bs : List β}
    (h : List.Forall₂ R as bs) :
    (∀ a ∈ as, ∃ b ∈ bs, R a b) ∧ ∀ b ∈ bs, ∃ a ∈ as, R a b := by
  induction h with
  | nil => exact ⟨nofun, nofun⟩
  | cons hfirst _ ih =>
    simp only [List.forall_mem_cons, List.exists_mem_cons_iff]
    exact ⟨⟨.inl hfirst, fun a ha => .inr (ih.1 a ha)⟩,
      ⟨.inl hfirst, fun b hb => .inr (ih.2 b hb)⟩⟩

namespace Directory

/-- A directory stores fields: in any order, each in an entry, and beside these only entries of tags
that nobody knows. What such entries hold does not matter. -/
structure Stores (directory : Directory) (encoding : Encoding) (s : Stream)
    (fields : List LogicalField) : Prop where
  present : ∀ field ∈ fields, ∃ entry ∈ directory.entries, entry.Encodes encoding s field
  known : ∀ entry ∈ directory.entries,
    (∃ field ∈ fields, entry.Encodes encoding s field) ∨ Tag.ofCode? entry.tag = none

variable {directory : Directory} {encoding : Encoding} {s : Stream} {fields : List LogicalField}

/-- Fields that are written down one by one are stored, in whichever order their entries and any
others are put down. -/
theorem Stores.of_perm {known others : List Entry}
    (hknown : List.Forall₂ (fun field entry => entry.Encodes encoding s field) fields known)
    (hothers : ∀ entry ∈ others, Tag.ofCode? entry.tag = none)
    (horder : directory.entries.Perm (known ++ others)) : directory.Stores encoding s fields where
  present field hfield := by
    obtain ⟨entry, hentry, hencodes⟩ := (exists_mem_of_forall₂ hknown).1 field hfield
    exact ⟨entry, horder.mem_iff.mpr (List.mem_append_left _ hentry), hencodes⟩
  known entry hentry :=
    (List.mem_append.mp (horder.mem_iff.mp hentry)).imp ((exists_mem_of_forall₂ hknown).2 entry)
      (hothers entry)

/-- An entry of a tag writes down the field of that tag. -/
theorem Stores.encodes (h : directory.Stores encoding s fields)
    (hdistinct : (fields.map (·.tag)).Nodup) {entry : Entry} (hentry : entry ∈ directory.entries)
    {tag : Tag} (htag : entry.tag = tag.code) :
    ∃ field, LogicalField.find? fields tag = some field ∧ entry.Encodes encoding s field := by
  obtain ⟨field, hfield, hencodes⟩ | hunknown := h.known entry hentry
  · obtain rfl : field.tag = tag := StoredField.code_inj (hencodes.tag.symm.trans htag)
    exact ⟨field, LogicalField.find?_of_mem hdistinct hfield, hencodes⟩
  · rw [htag, Tag.ofCode?_code] at hunknown
    cases hunknown

/-- There is an entry for the tag of each field, and for no other tag that is known. -/
theorem Stores.find?_eq (h : directory.Stores encoding s fields)
    (hdistinct : (fields.map (·.tag)).Nodup) (tag : Tag) :
    match LogicalField.find? fields tag with
    | none => directory.find? tag = none
    | some field => ∃ entry, directory.find? tag = some entry ∧ entry.Encodes encoding s field := by
  cases hfound : directory.find? tag with
  | some entry =>
    have htag : entry.tag = tag.code := by simpa using List.find?_some hfound
    obtain ⟨field, hfield, hencodes⟩ :=
      h.encodes hdistinct (List.mem_of_find?_eq_some hfound) htag
    rw [hfield]
    exact ⟨entry, rfl, hencodes⟩
  | none =>
    cases hfield : LogicalField.find? fields tag with
    | none => rfl
    | some field =>
      obtain ⟨entry, hentry, hencodes⟩ := h.present field (List.mem_of_find?_eq_some hfield)
      have htag : field.tag = tag := by simpa using List.find?_some hfield
      have hnot := List.find?_eq_none.mp hfound entry hentry
      rw [hencodes.tag, htag] at hnot
      exact absurd (decide_eq_true rfl) hnot

end Directory

namespace File

open FieldSource

/-- The chain of a stream has, at a place, a directory that stores fields. -/
def Stored (header : Header) (s : Stream) (index : Nat) (fields : List LogicalField) : Prop :=
  ∃ directory : Directory, directory.Sound header.encoding ∧
    s.Holds (chain header s index) (directory.serialize header.encoding) ∧
    directory.Stores header.encoding s fields

theorem directories_turned (file : File) (index : Nat) :
    (file.turned index).directories = file.directories :=
  directories_eq (reopened_after_select index file)

/-- A file that is turned to one of its images has the directory of that image selected. -/
theorem directory_turned {file : File} {index : Nat} (hindex : index < file.directories.length) :
    file.directories[index]? = some (file.turned index).directory := by
  have hcurrent : (file.turned index).current = index :=
    (current_after_select index file).trans (if_pos hindex)
  have hselected : (file.turned index).directories[(file.turned index).current]? =
      some (file.turned index).directory := List.getElem?_eq_getElem _
  rwa [directories_turned, hcurrent] at hselected

section

variable {s : Stream} {file : File} {index : Nat} {fields : List LogicalField}

theorem rewound_turned (hopen : ofStream s = .ok file) (index : Nat) :
    (file.turned index).stream.rewound = s.rewound := by
  have hstream : (file.turned index).stream.rewound = file.stream.rewound :=
    congrArg File.stream (reopened_after_select index file)
  rw [hstream, (ofStream_eq_ok.mp hopen).2.1]
  exact steady_readStructure.view_after s

/-- What a file has for a tag of an image: what the directory of the image says. -/
theorem answer_field_of_stored (hopen : ofStream s = .ok file) (hsize : s.size < Address.limit)
    (hindex : index < file.directories.length) (hdistinct : (fields.map (·.tag)).Nodup)
    (hstored : Stored file.header s index fields) (tag : Tag) :
    answer (field tag) (file.turned index) =
      .ok ((LogicalField.find? fields tag).map (·.value.read)) := by
  obtain ⟨directory, hsound, hholds, hstores⟩ := hstored
  have hread := (header_and_chain hopen).2 index _ (directory_turned hindex)
  rw [answer_readDirectory hsound hholds hsize] at hread
  have hdirectory : directory = (file.turned index).directory := Except.ok.inj hread
  have hheader : (file.turned index).header = file.header :=
    show (file.turned index).reopened.header = file.reopened.header by
      rw [turned, reopened_after_select]
  have hentry := hstores.find?_eq hdistinct tag
  rw [hdirectory] at hentry
  cases hfield : LogicalField.find? fields tag with
  | none =>
    simp only [hfield] at hentry
    exact answer_field_of_none hentry
  | some found =>
    simp only [hfield] at hentry
    obtain ⟨entry, hentry, hencodes⟩ := hentry
    have hvalue := hencodes.answer_readValue hsize
    rw [← (entry.steady_readValue _).answer_eq (rewound_turned hopen index), ← hheader] at hvalue
    exact answer_field_of_entry hentry hvalue

end

/-- Describing an image is describing the file that is turned to it. -/
theorem answer_readInfo_turned {file : File} {index : Nat}
    (hindex : index < file.directories.length) :
    answer (ImageInfo.read (some index)) file =
      answer (ImageInfo.readSelected (some index)) (file.turned index) := by
  change answer (EStateM.adaptExcept _ (select index) >>= fun _ => _) file = _
  rw [answer_bind, answer_adaptExcept, after_adaptExcept, answer_select, if_pos hindex]
  rfl

/-- Files that have the same for every tag describe their images alike, if they are of one name and
have equally many images. -/
theorem describes_of_fields {first second : File}
    (hname : first.stream.name = second.stream.name)
    (hcount : first.directories.length = second.directories.length)
    (hfield : ∀ tag, answer (field tag) first = answer (field tag) second) :
    Describes True fun f g : File => f.bare = first.bare ∧ g.bare = second.bare := by
  have agrees : FieldsAgree True fun f g : File => f.bare = first.bare ∧ g.bare = second.bare := by
    rintro tag f g ⟨hf, hg⟩ _
    have hvisible := visible_field tag
    refine ⟨?_, (hvisible.bare_after f).trans hf, (hvisible.bare_after g).trans hg⟩
    exact (hvisible.answer_eq hf).trans ((hfield tag).trans (hvisible.answer_eq hg).symm)
  refine ⟨?_, ?_, agrees, agrees_scanlineSize agrees⟩
  · rintro f g ⟨hf, hg⟩
    change f.bare.stream.name = g.bare.stream.name
    rw [hf, hg]
    exact hname
  · rintro f g ⟨hf, hg⟩
    change f.bare.directories.length = g.bare.directories.length
    rw [hf, hg]
    exact hcount

/-- **Metadata does not depend on how it is encoded.** Two files of one name and with equally many
images store the same fields at the same place of their chains, each in its own byte order and
format, with its own order of the entries, widths of numbers and entries of other tags. Both have
what the fields say for every tag. They describe the image alike and have the same color map of it,
or fail to with the same error. -/
theorem metadata_of_any_encoding {s t : Stream} {first second : File}
    (hfirst : ofStream s = .ok first) (hsecond : ofStream t = .ok second)
    (hs : s.size < Address.limit) (ht : t.size < Address.limit) (hname : s.name = t.name)
    (hcount : first.directories.length = second.directories.length) {index : Nat}
    (hindex : index < first.directories.length) {fields : List LogicalField}
    (hdistinct : (fields.map (·.tag)).Nodup) (hstored : Stored first.header s index fields)
    (hstored' : Stored second.header t index fields) :
    let one := first.turned index
    let other := second.turned index
    (∀ tag, answer (field tag) one =
        .ok ((LogicalField.find? fields tag).map (·.value.read)) ∧
      answer (field tag) one = answer (field tag) other ∧
      answer (fieldOrDefault tag) one = answer (fieldOrDefault tag) other) ∧
    answer (ImageInfo.read (some index)) first = answer (ImageInfo.read (some index)) second ∧
    answer (ImageInfo.read none) one = answer (ImageInfo.read none) other ∧
    answer Colormap.read one = answer Colormap.read other := by
  intro one other
  have hone := answer_field_of_stored hfirst hs hindex hdistinct hstored
  have hother := answer_field_of_stored hsecond ht (hcount ▸ hindex) hdistinct hstored'
  have hsame (tag : Tag) : answer (field tag) one = answer (field tag) other :=
    (hone tag).trans (hother tag).symm
  have hnames : one.stream.name = other.stream.name := by
    change one.stream.rewound.name = other.stream.rewound.name
    rw [rewound_turned hfirst, rewound_turned hsecond]
    exact hname
  have hcounts : one.directories.length = other.directories.length := by
    rw [directories_turned, directories_turned]
    exact hcount
  have hdescribes := describes_of_fields hnames hcounts hsame
  have htwo : one.bare = one.bare ∧ other.bare = other.bare := ⟨rfl, rfl⟩
  refine ⟨fun tag => ⟨hone tag, hsame tag, ?_⟩, ?_, ?_, ?_⟩
  · exact (hdescribes.field.fieldOrDefault tag one other htwo (.inl trivial)).1
  · rw [answer_readInfo_turned hindex, answer_readInfo_turned (hcount ▸ hindex)]
    exact (hdescribes.readSelected _ one other htwo (.inl trivial)).1
  · exact (hdescribes.readSelected none one other htwo (.inl trivial)).1
  · exact (hdescribes.colormap one other htwo (.inl trivial)).1

/-- A stream of one directory, right behind the header, and of bytes behind that. -/
def streamOf (encoding : Encoding) (entries : List Entry) (outside : List UInt8) : Stream :=
  let header : Header := { encoding, firstDirectory := encoding.format.headerSize }
  .ofBytes (header.serialize ++ (Directory.serialize encoding { entries, next := 0 } ++
    outside)).toArray

theorem holds_streamOf (encoding : Encoding) (entries : List Entry) (outside : List UInt8) :
    (streamOf encoding entries outside).Holds encoding.format.headerSize
      (Directory.serialize encoding { entries, next := 0 } ++ outside) :=
  ⟨_, [], by rw [List.append_nil]; rfl, Header.length_serialize _⟩

theorem stored_streamOf {encoding : Encoding} {entries : List Entry} {outside : List UInt8}
    {fields : List LogicalField} (hsound : ∀ entry ∈ entries, entry.Sound encoding)
    (hcount : entries.length < wordLimit encoding.format.countSize)
    (hstores : Directory.Stores ⟨entries, 0⟩ encoding (streamOf encoding entries outside) fields) :
    Stored ⟨encoding, encoding.format.headerSize⟩ (streamOf encoding entries outside) 0 fields := by
  have hnext : 0 < wordLimit encoding.format.offsetSize := by cases encoding.format <;> decide
  exact ⟨⟨entries, 0⟩, ⟨hsound, hcount, hnext⟩, (holds_streamOf encoding entries outside).left,
    hstores⟩

/-- Fields of one number, of three and of text. -/
def sampleFields : List LogicalField :=
  [⟨.imageWidth, .numbers [3]⟩, ⟨.bitsPerSample, .numbers [8, 8, 8]⟩,
    ⟨.imageDescription, .text [104, 105, 0]⟩]

/-- The fields in little order and in the classic format: three numbers of two bytes are behind their
entry. -/
def classicStream : Stream :=
  streamOf ⟨.little, .classic⟩
    [⟨256, 3, 1, [3, 0, 0, 0]⟩, ⟨258, 3, 3, [50, 0, 0, 0]⟩, ⟨270, 2, 3, [104, 105, 0, 0]⟩]
    [8, 0, 8, 0, 8, 0]

/-- The fields in big order and in the big format, where each is in its entry, and an entry of an
unknown tag and an unknown type. -/
def bigStream : Stream :=
  streamOf ⟨.big, .big⟩
    [⟨65000, 99, 7, List.replicate 8 255⟩, ⟨270, 2, 3, [104, 105, 0, 1, 2, 3, 4, 5]⟩,
      ⟨258, 1, 3, [8, 8, 8, 0, 0, 0, 0, 0]⟩, ⟨256, 16, 1, [0, 0, 0, 0, 0, 0, 0, 3]⟩]
    []

theorem stored_classicStream : Stored ⟨⟨.little, .classic⟩, 8⟩ classicStream 0 sampleFields := by
  have hwidth : Entry.Encodes ⟨256, 3, 1, [3, 0, 0, 0]⟩ ⟨.little, .classic⟩ classicStream
      ⟨.imageWidth, .numbers [3]⟩ :=
    ⟨rfl, .short, rfl, by decide, .of_inline rfl rfl (by decide) (by decide)⟩
  have hbits : Entry.Encodes ⟨258, 3, 3, [50, 0, 0, 0]⟩ ⟨.little, .classic⟩ classicStream
      ⟨.bitsPerSample, .numbers [8, 8, 8]⟩ := by
    have hholds : classicStream.Holds 50 [8, 0, 8, 0, 8, 0] :=
      (holds_streamOf ⟨.little, .classic⟩ _ _).right
    exact ⟨rfl, .short, rfl, by decide,
      .of_offset rfl rfl (by decide) (by decide) (by decide) hholds⟩
  have htext : Entry.Encodes ⟨270, 2, 3, [104, 105, 0, 0]⟩ ⟨.little, .classic⟩ classicStream
      ⟨.imageDescription, .text [104, 105, 0]⟩ :=
    ⟨rfl, .of_inline rfl rfl (by decide) (by decide)⟩
  exact stored_streamOf (by decide) (by decide)
    (.of_perm (.cons hwidth (.cons hbits (.cons htext .nil))) (List.forall_mem_nil _)
      (by decide))

theorem stored_bigStream : Stored ⟨⟨.big, .big⟩, 16⟩ bigStream 0 sampleFields := by
  have hwidth : Entry.Encodes ⟨256, 16, 1, [0, 0, 0, 0, 0, 0, 0, 3]⟩ ⟨.big, .big⟩ bigStream
      ⟨.imageWidth, .numbers [3]⟩ :=
    ⟨rfl, .long8, rfl, by decide, .of_inline rfl rfl (by decide) (by decide)⟩
  have hbits : Entry.Encodes ⟨258, 1, 3, [8, 8, 8, 0, 0, 0, 0, 0]⟩ ⟨.big, .big⟩ bigStream
      ⟨.bitsPerSample, .numbers [8, 8, 8]⟩ :=
    ⟨rfl, .byte, rfl, by decide, .of_inline rfl rfl (by decide) (by decide)⟩
  have htext : Entry.Encodes ⟨270, 2, 3, [104, 105, 0, 1, 2, 3, 4, 5]⟩ ⟨.big, .big⟩ bigStream
      ⟨.imageDescription, .text [104, 105, 0]⟩ :=
    ⟨rfl, .of_inline rfl rfl (by decide) (by decide)⟩
  have hother : ∀ entry ∈ [Entry.mk 65000 99 7 (List.replicate 8 255)],
      Tag.ofCode? entry.tag = none := by
    decide
  exact stored_streamOf (by decide) (by decide)
    (.of_perm (.cons hwidth (.cons hbits (.cons htext .nil))) hother (by decide))

theorem metadata_of_classic_and_big : ∃ first second : File,
    ofStream classicStream = .ok first ∧ ofStream bigStream = .ok second ∧
      answer (field .bitsPerSample) (first.turned 0) = .ok (some (.unsigned [8, 8, 8])) ∧
      answer (field .imageDescription) (second.turned 0) = .ok (some (.ascii "hi")) ∧
      (∀ tag, answer (fieldOrDefault tag) (first.turned 0) =
        answer (fieldOrDefault tag) (second.turned 0)) ∧
      answer (ImageInfo.read (some 0)) first = answer (ImageInfo.read (some 0)) second ∧
      answer Colormap.read (first.turned 0) = answer Colormap.read (second.turned 0) := by
  have hclassic : (ofStream classicStream).toOption.any fun file =>
      file.header = ⟨⟨.little, .classic⟩, 8⟩ ∧ file.directories.length = 1 := by
    decide +kernel
  have hbig : (ofStream bigStream).toOption.any fun file =>
      file.header = ⟨⟨.big, .big⟩, 16⟩ ∧ file.directories.length = 1 := by
    decide +kernel
  have hsmall : classicStream.size < Address.limit ∧ bigStream.size < Address.limit := by
    decide +kernel
  obtain ⟨first, hfirst, hopened⟩ := (Option.any_eq_true _ _).mp hclassic
  obtain ⟨second, hsecond, hopened'⟩ := (Option.any_eq_true _ _).mp hbig
  obtain ⟨hheader, hcount⟩ := of_decide_eq_true hopened
  obtain ⟨hheader', hcount'⟩ := of_decide_eq_true hopened'
  have hfirst := except_toOption_eq_some.mp hfirst
  have hsecond := except_toOption_eq_some.mp hsecond
  obtain ⟨hfields, hinfo, _, hcolors⟩ := metadata_of_any_encoding hfirst hsecond hsmall.1 hsmall.2
    rfl (hcount.trans hcount'.symm) (hcount ▸ Nat.zero_lt_one) (by decide)
    (hheader ▸ stored_classicStream) (hheader' ▸ stored_bigStream)
  refine ⟨first, second, hfirst, hsecond, (hfields .bitsPerSample).1, ?_,
    fun tag => (hfields tag).2.2, hinfo, hcolors⟩
  rw [← (hfields .imageDescription).2.1, (hfields .imageDescription).1]
  decide +kernel

end File

end TiffStrip
