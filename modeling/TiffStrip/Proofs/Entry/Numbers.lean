import TiffStrip.Proofs.Entry.Field
import TiffStrip.Proofs.Layout.Encoded

namespace TiffStrip

/-- Bytes hold as many numbers as there is room for, each of its width, and the numbers are written as
these bytes. -/
theorem ByteOrder.decodeArray_spec (order : ByteOrder) {width count : Nat} {bytes : List UInt8}
    (h : bytes.length = width * count) :
    (order.decodeArray width count bytes).length = count ∧
      (∀ value ∈ order.decodeArray width count bytes, value < wordLimit width) ∧
      order.encodeArray width (order.decodeArray width count bytes) = bytes := by
  rw [Nat.mul_comm] at h
  obtain ⟨hcount, hwidth, hflatten⟩ := chunks_spec (Nat.le_of_eq h.symm)
  refine ⟨by rw [decodeArray, List.length_map, hcount], fun value hvalue => ?_, ?_⟩
  · obtain ⟨record, hrecord, rfl⟩ := List.mem_map.mp hvalue
    rw [← hwidth record hrecord]
    exact order.decode_lt record
  · have hback : (chunks width count bytes).map (fun record => order.encode width (order.decode record)) =
        chunks width count bytes := by
      refine (List.map_congr_left fun record hrecord => ?_).trans (List.map_id _)
      rw [← hwidth record hrecord]
      exact order.encode_decode record
    rw [encodeArray, decodeArray, List.flatMap_map, List.flatMap_def, hback, hflatten, ← h,
      List.take_length]

namespace Entry

variable {entry : Entry} {encoding : Encoding} {s : Stream} {type : FieldType}

theorem answer_readBytes_of_none (htype : entry.type? = some type) (hnone : entry.count = 0) :
    answer (entry.readBytes encoding) s = .ok [] := by
  have hsize : entry.byteSize? = some 0 :=
    (byteSize?_iff_of_type? htype).mpr ⟨by rw [hnone, Nat.mul_zero], by decide⟩
  rw [readBytes_eq hsize, if_pos (Nat.zero_le _), List.take_zero, answer_pure]

section

variable (hsound : entry.Sound encoding)

include hsound

/-- An offset takes all of the field. -/
theorem offset_eq_read : entry.offset encoding.order = encoding.readOffset entry.field := by
  have hfield := hsound.field
  rw [offset, Encoding.readOffset]
  cases hformat : encoding.format with
  | classic =>
    rw [hformat] at hfield
    rw [if_neg (by rw [hfield]; decide)]
    rfl
  | big =>
    rw [hformat] at hfield
    have height : entry.field.length = 8 := hfield
    rw [if_pos height]
    rfl

theorem carries_of_readBytes {data : List UInt8} (htype : entry.type? = some type)
    (h : answer (entry.readBytes encoding) s = .ok data) :
    entry.Carries encoding s type data := by
  have hcode := FieldType.ofCode?_eq_some.mp htype
  have hfield := hsound.field
  cases hsize : entry.byteSize? with
  | none =>
    rw [readBytes_of_none hsize] at h
    cases h
  | some size =>
    obtain ⟨rfl, haddress⟩ := (byteSize?_iff_of_type? htype).mp hsize
    rw [readBytes_eq hsize] at h
    by_cases hfits : type.size * entry.count ≤ encoding.format.offsetSize
    · rw [if_pos hfits] at h
      cases h
      have hlength : (entry.field.take (type.size * entry.count)).length =
          type.size * entry.count := by
        rw [List.length_take]
        omega
      exact .of_inline hcode hlength (by omega) (List.take_prefix _ _)
    · rw [if_neg hfits, answer_adaptExcept, Stream.answer_readExactAt] at h
      split at h
      case isFalse => cases h
      rename_i hinside
      cases h
      have hlength := s.length_slice hinside.2
      have hwritten := ByteOrder.encode_read encoding.order (Nat.le_of_eq hfield.symm)
      rw [List.take_of_length_le (Nat.le_of_eq hfield), ← Encoding.readOffset,
        ← offset_eq_read hsound] at hwritten
      refine .of_offset hcode hlength (by omega) ?_ hwritten.symm
        (Stream.holds_of_prefix hinside.2 (List.prefix_refl _))
      rw [offset_eq_read hsound]
      exact ByteOrder.read_lt _ _ _

/-- No number, a single one and many are all read of the bytes of the values. -/
theorem answer_readNumbers_eq (htype : entry.type? = some type) (hinteger : type.isInteger = true) :
    answer (entry.readNumbers encoding) s =
      (answer (entry.readBytes encoding) s).map
        (type.decodeNumbers encoding.order entry.count) := by
  unfold readNumbers
  simp only [htype, hinteger, Bool.not_true, Bool.false_eq_true, if_false]
  by_cases hnone : entry.count = 0
  · rw [if_pos hnone, answer_readBytes_of_none htype hnone, hnone]
    simp only [Except.map, FieldType.decodeNumbers, hinteger, if_true, ByteOrder.decodeArray,
      chunks_zero, List.map_nil, answer_pure]
  · rw [if_neg hnone]
    cases hsingle : entry.inlineNumber? encoding with
    | some value =>
      obtain ⟨found, hfound, hread⟩ := readBytes_of_inlineNumber? hsound hsingle
      obtain rfl : type = found := Option.some.inj (htype.symm.trans hfound)
      obtain ⟨data, hdata, hnumbers⟩ := hread s
      rw [answer_of_ok hdata]
      exact congrArg Except.ok hnumbers.symm
    | none => exact answer_map _ _ _

end

theorem readNumbers_of_readValue {values : List Nat}
    (h : answer (entry.readValue encoding) s = .ok (.unsigned values)) :
    ∃ type, entry.type? = some type ∧ type.isInteger = true ∧
      answer (entry.readNumbers encoding) s = .ok values := by
  rw [answer_readValue_eq] at h
  cases htype : entry.type? with
  | none =>
    rw [htype] at h
    cases h
  | some type =>
    refine ⟨type, rfl, ?_⟩
    rw [htype] at h
    cases type with
    | ascii | undefined =>
      obtain ⟨_, _, hvalue⟩ := except_map_eq_ok.mp h
      cases hvalue
    | byte | short | long | long8 =>
      obtain ⟨_, hnumbers, hvalue⟩ := except_map_eq_ok.mp h
      cases hvalue
      exact ⟨rfl, hnumbers⟩

/-- The numbers that an entry is read as are as many as it states, each fits its type, and the entry
carries their bytes. -/
theorem carries_of_readValue (hsound : entry.Sound encoding) {values : List Nat}
    (h : answer (entry.readValue encoding) s = .ok (.unsigned values)) :
    ∃ type, entry.type? = some type ∧ type.isInteger = true ∧ values.length = entry.count ∧
      (∀ value ∈ values, value < wordLimit type.size) ∧
      entry.Carries encoding s type (encoding.order.encodeArray type.size values) := by
  obtain ⟨type, htype, hinteger, hnumbers⟩ := readNumbers_of_readValue h
  rw [answer_readNumbers_eq hsound htype hinteger] at hnumbers
  obtain ⟨data, hdata, rfl⟩ := except_map_eq_ok.mp hnumbers
  have hcarries := carries_of_readBytes hsound htype hdata
  obtain ⟨hcount, hfits, hwritten⟩ := encoding.order.decodeArray_spec hcarries.length
  rw [FieldType.decodeNumbers, if_pos hinteger]
  refine ⟨type, htype, hinteger, hcount, hfits, ?_⟩
  rw [hwritten]
  exact hcarries

section

variable (htype : entry.type? = some type)
  (hbehind : encoding.format.offsetSize < type.size * entry.count)
  (houtside : s.size < entry.offset encoding.order + type.size * entry.count)

include htype hbehind houtside

/-- Bytes of values that do not fit their entry and are not in the stream are not read. -/
theorem readBytes_outside : ∃ error, answer (entry.readBytes encoding) s = .error error := by
  cases hsize : entry.byteSize? with
  | none =>
    rw [readBytes_of_none hsize]
    exact ⟨_, rfl⟩
  | some size =>
    obtain ⟨rfl, _⟩ := (byteSize?_iff_of_type? htype).mp hsize
    rw [readBytes_eq hsize, if_neg (Nat.not_le.mpr hbehind), answer_adaptExcept,
      Stream.answer_readExactAt, if_neg (by omega)]
    exact ⟨_, rfl⟩

/-- So the entry is not read, neither as numbers nor as anything else. -/
theorem exists_refusal_of_outside (hsound : entry.Sound encoding) :
    ∃ error, answer (entry.readValue encoding) s = .error error := by
  obtain ⟨error, hbytes⟩ := readBytes_outside htype hbehind houtside
  refine ⟨error, ?_⟩
  rw [answer_readValue_eq, htype]
  cases type with
  | ascii =>
    rw [answer_readText_eq htype, hbytes]
    rfl
  | undefined =>
    rw [hbytes]
    rfl
  | byte | short | long | long8 =>
    rw [answer_readNumbers_eq hsound htype rfl, hbytes]
    rfl

end

/-- **Numbers are read exactly as they are stored.** Numbers that fit their type and whose bytes an
entry carries, in its field or at an offset, are read back, wherever the cursor of the stream is. The
other way round, an entry of a directory that has been read as numbers has as many of them as it
states, each fits the type, and the entry carries their bytes. If the bytes of its values fit neither
its field nor the stream, it is refused. -/
theorem numbers_read_exactly (encoding : Encoding) (s : Stream) :
    (s.size < Address.limit → ∀ (entry : Entry) (type : FieldType) (values : List Nat),
      type.isInteger = true → (∀ value ∈ values, value < wordLimit type.size) →
      entry.Carries encoding s type (encoding.order.encodeArray type.size values) →
      answer (entry.readValue encoding) s = .ok (.unsigned values)) ∧
    ∀ bytes directory, Directory.parse encoding bytes = .ok directory →
      ∀ entry ∈ directory.entries,
        (∀ values, answer (entry.readValue encoding) s = .ok (.unsigned values) →
          ∃ type, entry.type? = some type ∧ type.isInteger = true ∧
            values.length = entry.count ∧ (∀ value ∈ values, value < wordLimit type.size) ∧
            entry.Carries encoding s type (encoding.order.encodeArray type.size values)) ∧
        ∀ type, entry.type? = some type →
          encoding.format.offsetSize < type.size * entry.count →
          s.size < entry.offset encoding.order + type.size * entry.count →
          ∃ error, answer (entry.readValue encoding) s = .error error := by
  constructor
  · intro hsize entry type values hinteger hfits hcarries
    exact hcarries.answer_readValue_numbers hinteger hfits hsize
  · intro bytes directory hparse entry hentry
    have hsound := sound_of_parse hparse hentry
    exact ⟨fun values h => carries_of_readValue hsound h,
      fun type htype hbehind houtside => exists_refusal_of_outside htype hbehind houtside hsound⟩

/-- Three numbers of two bytes each, at an offset. -/
def threeNumbers (offset : UInt8) : Entry :=
  { tag := 258, typeCode := 3, count := 3, field := [offset, 0, 0, 0] }

/-- Three numbers that are in the stream, and three that are not, with the cursor among them. -/
theorem numbers_read_exactly_threeNumbers :
    let encoding : Encoding := ⟨.little, .classic⟩
    let s : Stream := { contents := #[9, 1, 0, 2, 0, 3, 1, 7], position := 4 }
    let directory : Directory := { entries := [threeNumbers 1, threeNumbers 3], next := 0 }
    (threeNumbers 1).Carries encoding s .short (encoding.order.encodeArray 2 [1, 2, 259]) ∧
      answer ((threeNumbers 1).readValue encoding) s = .ok (.unsigned [1, 2, 259]) ∧
      Directory.parse encoding (directory.serialize encoding) = .ok directory ∧
      (∃ type, (threeNumbers 1).type? = some type ∧
        (threeNumbers 1).Carries encoding s type
          (encoding.order.encodeArray type.size [1, 2, 259])) ∧
      ∃ error, answer ((threeNumbers 3).readValue encoding) s = .error error := by
  intro encoding s directory
  obtain ⟨hreads, hback⟩ := numbers_read_exactly encoding s
  have hcarries : (threeNumbers 1).Carries encoding s .short
      (encoding.order.encodeArray 2 [1, 2, 259]) := by
    have hstored : s.Holds 1 (encoding.order.encodeArray 2 [1, 2, 259]) :=
      ⟨[9], [7], by decide, rfl⟩
    exact .of_offset (by decide) (by decide) (by decide) (by decide) (by decide) hstored
  have hread := hreads (by decide) _ .short [1, 2, 259] (by decide) (by decide) hcarries
  have hparse : Directory.parse encoding (directory.serialize encoding) = .ok directory :=
    except_toOption_eq_some.mp (by decide +kernel)
  obtain ⟨hnumbers, _⟩ := hback _ _ hparse (threeNumbers 1) List.mem_cons_self
  obtain ⟨_, hrefused⟩ := hback _ _ hparse (threeNumbers 3) (by decide)
  obtain ⟨type, htype, _, _, _, hstored⟩ := hnumbers _ hread
  exact ⟨hcarries, hread, hparse, ⟨type, htype, hstored⟩,
    hrefused .short (by decide) (by decide) (by decide)⟩

end Entry

end TiffStrip
