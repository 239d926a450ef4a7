import TiffStrip.Proofs.Layout.Directory

namespace TiffStrip

/-- Records that are cut off the front of enough bytes: as many as asked for, each of its width, and
no byte between them is lost. -/
theorem chunks_spec {width count : Nat} {bytes : List UInt8} (h : count * width ≤ bytes.length) :
    (chunks width count bytes).length = count ∧
      (∀ record ∈ chunks width count bytes, record.length = width) ∧
      (chunks width count bytes).flatten = bytes.take (count * width) := by
  induction count generalizing bytes with
  | zero => simp
  | succ count ih =>
    rw [Nat.succ_mul] at h
    have hrecord : (bytes.take width).length = width := by
      rw [List.length_take]
      omega
    have hrest : count * width ≤ (bytes.drop width).length := by
      rw [List.length_drop]
      omega
    have hcut : chunks width (count + 1) bytes =
        bytes.take width :: chunks width count (bytes.drop width) := by
      have hfirst : chunks width (count + 1) (bytes.take width ++ bytes.drop width) = _ :=
        chunks_append hrecord _
      rwa [List.take_append_drop] at hfirst
    obtain ⟨hlength, hwidth, hflatten⟩ := ih hrest
    rw [hcut]
    refine ⟨by rw [List.length_cons, hlength], ?_, ?_⟩
    · intro record hmem
      rcases List.mem_cons.mp hmem with rfl | hmem
      · exact hrecord
      · exact hwidth record hmem
    · rw [List.flatten_cons, hflatten, Nat.succ_mul, Nat.add_comm, List.take_add]

namespace Entry

variable {encoding : Encoding} {bytes : List UInt8}

/-- An entry is written as the bytes that it was read from. -/
theorem serialize_parse (h : bytes.length = encoding.format.entrySize) :
    (parse encoding bytes).Sound encoding ∧ (parse encoding bytes).serialize encoding = bytes := by
  rw [Format.entrySize_eq] at h
  have hfield : (parse encoding bytes).field.length = encoding.format.offsetSize := by
    simp only [parse, List.length_take, List.length_drop]
    omega
  constructor
  · exact ⟨ByteOrder.read_lt _ _ _, ByteOrder.read_lt _ _ _, ByteOrder.read_lt _ _ _, hfield⟩
  · have htail : (bytes.drop (4 + encoding.format.offsetSize)).take encoding.format.offsetSize =
        bytes.drop (4 + encoding.format.offsetSize) :=
      List.take_of_length_le (by rw [List.length_drop]; omega)
    -- Each part is taken off the front of what the parts before it have left.
    simp only [serialize, parse, Encoding.readOffset]
    rw [ByteOrder.encode_read _ (by omega), ByteOrder.encode_read _ (by rw [List.length_drop]; omega),
      ByteOrder.encode_read _ (by rw [List.length_drop]; omega), htail, ← List.take_add,
      show 2 + 2 = 4 from rfl, ← List.take_add, List.take_append_drop]

end Entry

namespace Directory

variable {encoding : Encoding} {bytes : List UInt8}

theorem size?_eq_some {format : Format} {count size : Nat} :
    size? format count = some size ↔
      count * format.entrySize + (format.countSize + format.offsetSize) = size ∧
        size < Address.limit := by
  simp only [size?, Option.bind_eq_bind, Option.bind_eq_some_iff, Address.mul?_eq_some,
    Address.add?_eq_some]
  constructor
  · rintro ⟨_, ⟨rfl, _⟩, hsize⟩
    exact hsize
  · rintro ⟨rfl, hlimit⟩
    exact ⟨_, ⟨rfl, by omega⟩, rfl, hlimit⟩

theorem size?_eq (format : Format) (count : Nat) :
    size? format count =
      if count * format.entrySize + (format.countSize + format.offsetSize) < Address.limit then
        some (count * format.entrySize + (format.countSize + format.offsetSize))
      else none := by
  by_cases h : count * format.entrySize + (format.countSize + format.offsetSize) < Address.limit
  · rw [if_pos h]
    exact size?_eq_some.mpr ⟨rfl, h⟩
  · rw [if_neg h, Option.eq_none_iff_forall_ne_some]
    intro size hsize
    obtain ⟨rfl, hlimit⟩ := size?_eq_some.mp hsize
    exact h hlimit

theorem parse_of_size {required : Nat}
    (hsize : size? encoding.format (encoding.readCount bytes) = some required)
    (hlength : required ≤ bytes.length) :
    let body := bytes.drop encoding.format.countSize
    let count := encoding.readCount bytes
    parse encoding bytes = .ok {
      entries := (chunks encoding.format.entrySize count body).map (Entry.parse encoding)
      next := encoding.readOffset (body.drop (count * encoding.format.entrySize)) } := by
  have hrequired := (size?_eq_some.mp hsize).1
  unfold parse
  refine unless_eq_ok.mpr ⟨by omega, ?_⟩
  simp only [hsize]
  exact unless_eq_ok.mpr ⟨Nat.not_lt.mpr hlength, rfl⟩

theorem exists_parse {required : Nat}
    (hsize : size? encoding.format (encoding.readCount bytes) = some required)
    (hlength : required ≤ bytes.length) : ∃ directory, parse encoding bytes = .ok directory :=
  ⟨_, parse_of_size hsize hlength⟩

/-- Bytes that hold a directory are as many as its number of entries asks for. -/
theorem size_of_parse {directory : Directory} (h : parse encoding bytes = .ok directory) :
    ∃ required, size? encoding.format (encoding.readCount bytes) = some required ∧
      required ≤ bytes.length := by
  unfold parse at h
  obtain ⟨_, h⟩ := unless_eq_ok.mp h
  dsimp only at h
  cases hsize : size? encoding.format (encoding.readCount bytes) with
  | none =>
    rw [hsize] at h
    cases h
  | some required =>
    simp only [hsize] at h
    obtain ⟨hlong, _⟩ := unless_eq_ok.mp h
    exact ⟨required, rfl, Nat.not_lt.mp hlong⟩

theorem serialize_of_parse {directory : Directory} (h : parse encoding bytes = .ok directory) :
    directory.Sound encoding ∧ directory.entries.length = encoding.readCount bytes ∧
      directory.serialize encoding <+: bytes := by
  obtain ⟨required, hsize, hlength⟩ := size_of_parse h
  have hrequired := (size?_eq_some.mp hsize).1
  rw [parse_of_size hsize hlength] at h
  generalize hcount : encoding.readCount bytes = count at *
  have hbody : count * encoding.format.entrySize ≤
      (bytes.drop encoding.format.countSize).length := by
    rw [List.length_drop]
    omega
  obtain ⟨hrecords, hwidth, hflatten⟩ := chunks_spec hbody
  cases h
  have hentries : ((chunks encoding.format.entrySize count
      (bytes.drop encoding.format.countSize)).map (Entry.parse encoding)).flatMap
        (Entry.serialize encoding) =
      (bytes.drop encoding.format.countSize).take (count * encoding.format.entrySize) := by
    rw [← hflatten, List.flatMap_map, List.flatMap_def]
    refine congrArg List.flatten ((List.map_congr_left fun record hrecord => ?_).trans
      (List.map_id _))
    exact (Entry.serialize_parse (hwidth record hrecord)).2
  refine ⟨⟨?_, ?_, ByteOrder.read_lt _ _ _⟩, by rw [List.length_map, hrecords], ?_⟩
  · intro entry hentry
    obtain ⟨record, hrecord, rfl⟩ := List.mem_map.mp hentry
    exact (Entry.serialize_parse (hwidth record hrecord)).1
  · rw [List.length_map, hrecords, ← hcount]
    exact ByteOrder.read_lt _ _ _
  · have hfront : encoding.order.encode encoding.format.countSize count =
        bytes.take encoding.format.countSize := by
      rw [← hcount]
      exact ByteOrder.encode_read _ (by omega)
    have hnext : encoding.order.encode encoding.format.offsetSize
        (encoding.readOffset ((bytes.drop encoding.format.countSize).drop
          (count * encoding.format.entrySize))) =
        ((bytes.drop encoding.format.countSize).drop
          (count * encoding.format.entrySize)).take encoding.format.offsetSize :=
      ByteOrder.encode_read _ (by simp only [List.length_drop]; omega)
    simp only [serialize, List.length_map, hrecords]
    rw [hentries, hfront, hnext, List.append_assoc, ← List.take_add, ← List.take_add]
    exact List.take_prefix _ _

end Directory

end TiffStrip
