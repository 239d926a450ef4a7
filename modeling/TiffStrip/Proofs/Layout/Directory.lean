import TiffStrip.Directory
import TiffStrip.Proofs.Layout.Header

namespace TiffStrip

namespace Entry

structure Sound (encoding : Encoding) (entry : Entry) : Prop where
  tag : entry.tag < wordLimit 2
  typeCode : entry.typeCode < wordLimit 2
  count : entry.count < wordLimit encoding.format.offsetSize
  field : entry.field.length = encoding.format.offsetSize

instance (encoding : Encoding) (entry : Entry) : Decidable (entry.Sound encoding) :=
  decidable_of_iff (entry.tag < wordLimit 2 ∧ entry.typeCode < wordLimit 2 ∧
      entry.count < wordLimit encoding.format.offsetSize ∧
      entry.field.length = encoding.format.offsetSize)
    ⟨fun ⟨htag, htype, hcount, hfield⟩ => ⟨htag, htype, hcount, hfield⟩,
      fun ⟨htag, htype, hcount, hfield⟩ => ⟨htag, htype, hcount, hfield⟩⟩

variable {encoding : Encoding} {entry : Entry}

theorem length_serialize (h : entry.Sound encoding) :
    (entry.serialize encoding).length = encoding.format.entrySize := by
  rw [Format.entrySize_eq]
  simp only [serialize, List.length_append, ByteOrder.length_encode, h.field]
  omega

theorem parse_serialize (h : entry.Sound encoding) :
    parse encoding (entry.serialize encoding) = entry := by
  obtain ⟨tag, typeCode, count, field⟩ := entry
  obtain ⟨htag, htype, hcount, hfield⟩ := h
  have hbehind (k : Nat) : (serialize encoding ⟨tag, typeCode, count, field⟩).drop (4 + k) =
      (encoding.order.encode encoding.format.offsetSize count ++ field).drop k := by
    have hfour : 4 + k = 2 + (2 + k) := by omega
    simp only [serialize, List.append_assoc, hfour, ByteOrder.drop_encode_append]
  simp only [parse, mk.injEq]
  refine ⟨?_, ?_, ?_, ?_⟩
  · simp only [serialize, List.append_assoc]
    exact ByteOrder.read_encode_append _ htag _
  · simp only [serialize, List.append_assoc]
    rw [List.drop_left' (ByteOrder.length_encode _ _ _)]
    exact ByteOrder.read_encode_append _ htype _
  · rw [hbehind 0]
    exact ByteOrder.read_encode_append _ hcount _
  · rw [hbehind, List.drop_left' (ByteOrder.length_encode _ _ _), ← hfield, List.take_length]

theorem length_flatMap_serialize {entries : List Entry}
    (h : ∀ entry ∈ entries, entry.Sound encoding) :
    (entries.flatMap (serialize encoding)).length = entries.length * encoding.format.entrySize :=
  length_flatMap_of_length fun entry hentry => length_serialize (h entry hentry)

end Entry

namespace Directory

structure Sound (encoding : Encoding) (directory : Directory) : Prop where
  entries : ∀ entry ∈ directory.entries, entry.Sound encoding
  count : directory.entries.length < wordLimit encoding.format.countSize
  next : directory.next < wordLimit encoding.format.offsetSize

variable {encoding : Encoding} {directory : Directory}

theorem length_serialize (h : directory.Sound encoding) :
    (directory.serialize encoding).length =
      encoding.format.countSize + directory.entries.length * encoding.format.entrySize
        + encoding.format.offsetSize := by
  simp only [serialize, List.length_append, ByteOrder.length_encode,
    Entry.length_flatMap_serialize h.entries]

theorem readCount_serialize (h : directory.Sound encoding) (rest : List UInt8) :
    encoding.readCount (directory.serialize encoding ++ rest) = directory.entries.length := by
  simp only [serialize, Encoding.readCount, List.append_assoc]
  exact ByteOrder.read_encode_append _ h.count _

theorem size?_serialize (h : directory.Sound encoding)
    (hsize : (directory.serialize encoding).length < Address.limit) :
    size? encoding.format directory.entries.length = some (directory.serialize encoding).length := by
  have hlength := length_serialize h
  have hmul : Address.mul? directory.entries.length encoding.format.entrySize =
      some (directory.entries.length * encoding.format.entrySize) :=
    Address.mul?_eq_some.mpr ⟨rfl, by omega⟩
  rw [size?, hmul]
  exact Address.add?_eq_some.mpr ⟨by omega, hsize⟩

theorem parse_serialize (h : directory.Sound encoding)
    (hsize : (directory.serialize encoding).length < Address.limit) (rest : List UInt8) :
    parse encoding (directory.serialize encoding ++ rest) = .ok directory := by
  have hlength := length_serialize h
  have hbody : (directory.serialize encoding ++ rest).drop encoding.format.countSize =
      directory.entries.flatMap (Entry.serialize encoding) ++
        (encoding.order.encode encoding.format.offsetSize directory.next ++ rest) := by
    simp only [serialize, List.append_assoc]
    rw [List.drop_left' (ByteOrder.length_encode _ _ _)]
  have hentries : (directory.entries.map (Entry.serialize encoding)).map (Entry.parse encoding) =
      directory.entries := by
    rw [List.map_map]
    refine (List.map_congr_left fun entry hentry => ?_).trans (List.map_id _)
    exact Entry.parse_serialize (h.entries entry hentry)
  have hnext : encoding.readOffset (encoding.order.encode encoding.format.offsetSize
      directory.next ++ rest) = directory.next :=
    ByteOrder.read_encode_append encoding.order h.next rest
  unfold parse
  refine unless_eq_ok.mpr ⟨by rw [List.length_append]; omega, ?_⟩
  dsimp only
  rw [readCount_serialize h rest, size?_serialize h hsize]
  refine unless_eq_ok.mpr ⟨by rw [List.length_append]; omega, ?_⟩
  rw [hbody, chunks_flatMap fun entry hentry => Entry.length_serialize (h.entries entry hentry),
    hentries,
    List.drop_left' (Entry.length_flatMap_serialize h.entries), hnext]
  rfl

end Directory

end TiffStrip
