import TiffStrip.Entry.Value
import TiffStrip.Proofs.Simulation

namespace TiffStrip

namespace Stream

/-- The stream with its cursor at the start. -/
def rewound (s : Stream) : Stream :=
  { s with position := 0 }

theorem length_slice (s : Stream) {offset length : Nat} (h : offset + length ≤ s.size) :
    (s.slice offset length).length = length := by
  simp only [slice, Array.length_toList, Array.size_extract]
  unfold size at h
  omega

theorem toList_slice (s : Stream) (offset length : Nat) :
    s.slice offset length = (s.contents.toList.drop offset).take length := by
  rw [slice, Array.toList_extract, List.extract_eq_take_drop, Nat.add_sub_cancel_left]

theorem take_slice (s : Stream) (offset : Nat) {length shorter : Nat} (h : shorter ≤ length) :
    (s.slice offset length).take shorter = s.slice offset shorter := by
  rw [toList_slice, toList_slice, List.take_take, Nat.min_eq_left h]

theorem readExactAt_eq (s : Stream) (offset length : Nat) :
    readExactAt offset length s =
      if offset + length < Address.limit ∧ offset + length ≤ s.size then
        .ok (s.slice offset length) { s with position := offset + length }
      else .error (.rangeOutOfBounds offset length s.size) s := by
  unfold readExactAt
  rw [get_bind]
  by_cases haddress : offset + length < Address.limit
  · have hadd : Address.add? offset length = some (offset + length) := if_pos haddress
    rw [hadd]
    dsimp only
    by_cases hsize : offset + length ≤ s.size
    · have hlength := s.length_slice hsize
      have htake : take length { s with position := offset } =
          .ok (s.slice offset length) { s with position := offset + length } := by
        unfold take
        dsimp only
        rw [show ({ s with position := offset } : Stream).slice offset length =
          s.slice offset length from rfl, hlength]
      have hseek : seek (.start offset) s = .ok offset { s with position := offset } := rfl
      rw [if_neg (Nat.not_lt.mpr hsize), if_pos ⟨haddress, hsize⟩]
      simp only [bind, EStateM.bind, hseek, htake, hlength, Nat.lt_irrefl, if_false]
      rfl
    · rw [if_pos (Nat.lt_of_not_le hsize), if_neg fun h => hsize h.2]
      rfl
  · have hadd : Address.add? offset length = none := if_neg haddress
    rw [hadd, if_neg fun h => haddress h.1]
    rfl

theorem answer_readExactAt (s : Stream) (offset length : Nat) :
    answer (readExactAt offset length) s =
      if offset + length < Address.limit ∧ offset + length ≤ s.size then
        .ok (s.slice offset length)
      else .error (.rangeOutOfBounds offset length s.size) := by
  rw [answer, readExactAt_eq]
  by_cases h : offset + length < Address.limit ∧ offset + length ≤ s.size
  · simp only [if_pos h]
  · simp only [if_neg h]

theorem rewound_after_readExactAt (s : Stream) (offset length : Nat) :
    (after (readExactAt offset length) s).rewound = s.rewound := by
  rw [after, readExactAt_eq]
  by_cases h : offset + length < Address.limit ∧ offset + length ≤ s.size
  · simp only [if_pos h]
    rfl
  · simp only [if_neg h]

theorem contents_eq {s t : Stream} (h : t.rewound = s.rewound) : t.contents = s.contents :=
  show t.rewound.contents = s.rewound.contents by rw [h]

theorem size_eq {s t : Stream} (h : t.contents = s.contents) : t.size = s.size :=
  congrArg Array.size h

/-- Only the contents have a part in what is read. -/
theorem answer_readExactAt_congr {s t : Stream} (h : t.contents = s.contents)
    (offset length : Nat) :
    answer (readExactAt offset length) t = answer (readExactAt offset length) s := by
  have hslice : t.slice offset length = s.slice offset length := by
    simp only [slice, h]
  rw [answer_readExactAt, answer_readExactAt, hslice, size_eq h]

/-- What a range holds does not depend on the cursor, and only the cursor moves. -/
theorem steady_readExactAt (offset length : Nat) : Steady rewound (readExactAt offset length) :=
  steady_of (fun _ _ hst => answer_readExactAt_congr (contents_eq hst) offset length)
    fun s => rewound_after_readExactAt s offset length

/-- Whether bytes lie at an offset. -/
def Holds (s : Stream) (offset : Nat) (bytes : List UInt8) : Prop :=
  ∃ front rest, s.contents.toList = front ++ (bytes ++ rest) ∧ front.length = offset

namespace Holds

variable {s : Stream} {offset : Nat} {bytes first second : List UInt8}

theorem left (h : s.Holds offset (first ++ second)) : s.Holds offset first := by
  obtain ⟨front, rest, hcontents, hfront⟩ := h
  exact ⟨front, second ++ rest, by rw [hcontents, List.append_assoc], hfront⟩

theorem right (h : s.Holds offset (first ++ second)) : s.Holds (offset + first.length) second := by
  obtain ⟨front, rest, hcontents, rfl⟩ := h
  refine ⟨front ++ first, rest, ?_, List.length_append⟩
  rw [hcontents, List.append_assoc, List.append_assoc]

theorem le_size (h : s.Holds offset bytes) : offset + bytes.length ≤ s.size := by
  obtain ⟨front, rest, hcontents, rfl⟩ := h
  have hlength := congrArg List.length hcontents
  simp only [List.length_append, Array.length_toList] at hlength
  unfold size
  omega

theorem slice (h : s.Holds offset bytes) {start length : Nat}
    (hinside : start + length ≤ bytes.length) :
    s.slice (offset + start) length = (bytes.drop start).take length := by
  obtain ⟨front, rest, hcontents, rfl⟩ := h
  rw [toList_slice, hcontents, ← List.drop_drop, List.drop_left,
    List.drop_append_of_le_length (by omega),
    List.take_append_of_le_length (by rw [List.length_drop]; omega)]

theorem answer_readExactAt (h : s.Holds offset bytes) (hsize : s.size < Address.limit)
    {length : Nat} (hlength : length ≤ bytes.length) :
    answer (readExactAt offset length) s = .ok (bytes.take length) := by
  have hinside := h.le_size
  have hslice : s.slice (offset + 0) length = (bytes.drop 0).take length :=
    h.slice (by omega)
  rw [Stream.answer_readExactAt, if_pos ⟨by omega, by omega⟩]
  exact congrArg Except.ok hslice

theorem of_rewound {t : Stream} (h : s.Holds offset bytes) (ht : t.rewound = s.rewound) :
    t.Holds offset bytes := by
  rw [Holds, contents_eq ht]
  exact h

end Holds

/-- A range that begins with bytes holds them. -/
theorem holds_of_prefix {s : Stream} {offset length : Nat} {bytes : List UInt8}
    (hinside : offset + length ≤ s.size) (h : bytes <+: s.slice offset length) :
    s.Holds offset bytes := by
  obtain ⟨rest, hrest⟩ := h
  have hsplit := List.take_append_drop offset s.contents.toList
  have hrange := List.take_append_drop length (s.contents.toList.drop offset)
  rw [← toList_slice, ← hrest, List.append_assoc] at hrange
  refine ⟨s.contents.toList.take offset, rest ++ (s.contents.toList.drop offset).drop length, ?_, ?_⟩
  · rw [hrange, hsplit]
  · rw [List.length_take, Array.length_toList]
    unfold size at hinside
    omega

end Stream

namespace Entry

section

variable {R : Stream → Stream → Prop} {strict : Prop}
  (h : ∀ offset length,
    Agrees strict R (Stream.readExactAt offset length) (Stream.readExactAt offset length))
  (encoding : Encoding) (entry : Entry)

include h

theorem agrees_readBytes :
    Agrees strict R (readBytes encoding entry) (readBytes encoding entry) := by
  unfold readBytes
  cases entry.byteSize? with
  | none => exact (simulates_throw _).agrees
  | some size => exact agrees_ite (simulates_pure _).agrees (agrees_adaptExcept _ (h _ _))

theorem agrees_readNumbers :
    Agrees strict R (readNumbers encoding entry) (readNumbers encoding entry) := by
  unfold readNumbers
  cases entry.type? with
  | none => exact (simulates_throw _).agrees
  | some type =>
    refine agrees_unless _ (agrees_ite (simulates_pure _).agrees ?_)
    cases entry.inlineNumber? encoding with
    | some n => exact (simulates_pure _).agrees
    | none => exact agrees_bind (agrees_readBytes h _ _) fun bytes => (simulates_pure _).agrees

theorem agrees_readText :
    Agrees strict R (readText encoding entry) (readText encoding entry) := by
  unfold readText
  cases entry.type? with
  | none => exact (simulates_throw _).agrees
  | some type =>
    apply agrees_unless _
    exact agrees_bind (agrees_readBytes h _ _) fun bytes => (simulates_pure _).agrees

/-- The values of an entry agree if all ranges do. -/
theorem agrees_readValue :
    Agrees strict R (readValue encoding entry) (readValue encoding entry) := by
  have numbers := agrees_bind (agrees_readNumbers h encoding entry) fun values =>
    (simulates_pure (FieldValue.unsigned values)).agrees
  unfold readValue
  cases entry.type? with
  | none => exact (simulates_throw _).agrees
  | some type =>
    cases type with
    | ascii => exact agrees_bind (agrees_readText h _ _) fun _ => (simulates_pure _).agrees
    | undefined => exact agrees_bind (agrees_readBytes h _ _) fun _ => (simulates_pure _).agrees
    | byte | short | long | long8 => exact numbers

end

/-- A value is the same wherever the cursor is. -/
theorem steady_readValue (encoding : Encoding) (entry : Entry) :
    Steady Stream.rewound (readValue encoding entry) := by
  intro b
  exact agrees_true.mp (agrees_readValue
    (fun offset length => (Stream.steady_readExactAt offset length b).agrees) encoding entry)

end Entry

end TiffStrip
