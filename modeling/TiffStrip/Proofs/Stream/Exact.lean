import TiffStrip.Proofs.Stream.Kept

/-!
# Reading exactly what is there

A stream whose buffer can be addressed reads every range that ends inside the buffer and refuses every
other one. This does not depend on the calls before: they move the cursor and lengthen the buffer, but
it can still be addressed.
-/

namespace TiffStrip

/-- Growth that makes no buffer longer than can be addressed, if it is not asked for that. -/
def Growth.Addressable (grow : Growth) : Prop :=
  ∀ buffer length, buffer.size < length → length < Address.limit →
    (grow buffer length).2.size < Address.limit

/-- Filling up with one byte reaches just as far as it is meant to. -/
theorem Growth.addressable_fill (byte : UInt8) {reach : Nat → Nat}
    (h : ∀ n, n < Address.limit → reach n < Address.limit) : (fill byte reach).Addressable := by
  intro buffer length _ hlength
  have hreach := h length hlength
  simp only [fill, Array.size_append, Array.size_extract, Array.size_replicate]
  omega

theorem Growth.addressable_zeros : zeros.Addressable :=
  addressable_fill 0 fun _ => id

namespace Stream

/-- A buffer that can be addressed, and still can when it has grown. -/
structure Addressable (s : Stream) : Prop where
  size : s.size < Address.limit
  growth : ∀ grow, s.growth? = some grow → grow.Addressable

/-- A write is refused before it asks for more than can be addressed. -/
theorem size_after_write {s : Stream} (h : s.Addressable) (bytes : List UInt8) :
    (after (write bytes) s).size < Address.limit := by
  cases hmode : s.mode with
  | read =>
    have hsame := contents_eq (rewound_of_read hmode (.write bytes))
    exact (size_eq hsame).symm ▸ h.size
  | write =>
    by_cases htop : Address.top < s.position + bytes.length
    · rw [after_of_error (write_overflowing hmode htop)]
      exact h.size
    have hstop : s.position + bytes.length < Address.limit := by
      have : Address.top < Address.limit := by decide
      omega
    obtain ⟨_, hw⟩ | ⟨_, hfits, hw⟩ | ⟨grow, _, hgrow, hshort, hcase⟩ := write_cases bytes s
    · rw [after_of_error hw]
      exact h.size
    · rw [after_of_ok hw, size_place hfits]
      exact h.size
    · let grown := s.grown grow (s.position + bytes.length)
      have hgrown : grown.size < Address.limit := h.growth grow hgrow _ _ hshort hstop
      obtain ⟨hfits, hw⟩ | hw := hcase
      · have hplaced : (grown.place bytes).size = grown.size := size_place hfits
        rw [after_of_ok hw, hplaced]
        exact hgrown
      · rw [after_of_error hw]
        exact hgrown

/-- Every call keeps the buffer within the addresses. -/
theorem Addressable.after_run {s : Stream} (h : s.Addressable) (call : Call) :
    (after call.run s).Addressable := by
  constructor
  · cases call with
    | write bytes => exact size_after_write h bytes
    | read | seek | readExactAt =>
      rw [size_eq (contents_eq (rewound_after_run ?_ s))]
      · exact h.size
      · exact fun _ => nofun
  · intro grow hgrow
    rw [(opened_after_run call s).growth] at hgrow
    exact h.growth grow hgrow

theorem addressable_afterCalls {s : Stream} (h : s.Addressable) (calls : List Call) :
    (afterCalls calls s).Addressable :=
  keeps_afterCalls (fun call _ ht => ht.after_run call) calls h

/-- Where all of the buffer can be addressed, a range is refused only if it ends behind it. -/
theorem readExactAt_of_size {s : Stream} (h : s.size < Address.limit) (offset length : Nat) :
    readExactAt offset length s =
      if offset + length ≤ s.size then
        .ok (s.slice offset length) { s with position := offset + length }
      else .error (.rangeOutOfBounds offset length s.size) s := by
  rw [readExactAt_eq]
  by_cases hinside : offset + length ≤ s.size
  · rw [if_pos hinside, if_pos ⟨by omega, hinside⟩]
  · rw [if_neg hinside, if_neg fun hboth => hinside hboth.2]

/-- A buffer filled from an offset on by a seek and a read, with something else to be done if the read
falls short. -/
def fillAt (offset : Nat) (buffer : List UInt8) (short : EStateM StreamError Stream (List UInt8)) :
    EStateM StreamError Stream (List UInt8) := do
  let _ ← seek (.start offset)
  let (count, filled) ← readInto buffer
  if count < buffer.length then short else return filled

/-- A read from inside the stream does not fall short. -/
theorem fillAt_of_inside {s : Stream} {offset : Nat} {buffer : List UInt8}
    (h : offset + buffer.length ≤ s.size) (short : EStateM StreamError Stream (List UInt8)) :
    fillAt offset buffer short s =
      .ok (s.slice offset buffer.length) { s with position := offset + buffer.length } := by
  have hlength := s.length_slice h
  have hseek : seek (.start offset) s = .ok offset { s with position := offset } := rfl
  have hread : readInto buffer { s with position := offset } =
      .ok (buffer.length, s.slice offset buffer.length)
        { s with position := offset + buffer.length } := by
    have hslice : slice { s with position := offset } offset buffer.length =
        s.slice offset buffer.length := rfl
    simp only [readInto_eq, hslice, hlength, overwrite_of_length_eq hlength]
  simp only [fillAt, bind, EStateM.bind, hseek, hread, Nat.lt_irrefl, if_false]
  rfl

/-- **A range is read exactly if it ends inside the stream.** After any calls, whichever of them failed
and wherever they have left the cursor, a range that ends inside the stream is read, byte for byte, and
leaves the cursor behind it; any other is refused with its offset and length and the size of the stream,
and moves nothing. Only the contents have a part in the answer. The seek on the way never fails, and the
read behind it never falls short, so it makes no difference what is done then. -/
theorem ranges_read_exactly {start : Stream} (h : start.Addressable) (calls : List Call)
    (offset length : Nat) :
    let used := afterCalls calls start
    (readExactAt offset length used =
      if offset + length ≤ used.size then
        .ok (used.slice offset length) { used with position := offset + length }
      else .error (.rangeOutOfBounds offset length used.size) used) ∧
    (offset + length ≤ used.size → (used.slice offset length).length = length ∧
      ∀ i, i < length → (used.slice offset length)[i]? = used.contents[offset + i]?) ∧
    (∀ other : Stream, other.contents = used.contents →
      answer (readExactAt offset length) other = answer (readExactAt offset length) used) ∧
    seek (.start offset) used = .ok offset { used with position := offset } ∧
    ∀ buffer short, buffer.length = length → offset + length ≤ used.size →
      readExactAt offset length used = fillAt offset buffer short used := by
  intro used
  have hsize : used.size < Address.limit := (addressable_afterCalls h calls).size
  have hread := readExactAt_of_size hsize offset length
  refine ⟨hread, ?_, ?_, rfl, ?_⟩
  · intro hinside
    refine ⟨used.length_slice hinside, ?_⟩
    intro i hi
    simp only [toList_slice, List.getElem?_take_of_lt hi, List.getElem?_drop,
      Array.getElem?_toList]
  · intro other hsame
    exact answer_readExactAt_congr hsame offset length
  · intro buffer short hbuffer hinside
    subst hbuffer
    rw [hread, if_pos hinside, fillAt_of_inside hinside]

/-- Five bytes after a write into a gap: all that there is at the end is read, and nothing behind it. -/
theorem ranges_read_exactly_afterGap :
    let start : Stream := { ofBytes #[1, 2] with mode := .write, growth? := some .zeros }
    let used := afterCalls [.seek (.start 4), .write [9], .seek (.finish 7)] start
    start.Addressable ∧ used.position = 12 ∧
      readExactAt 1 4 used = .ok [2, 0, 0, 9] { used with position := 5 } ∧
      readExactAt 5 0 used = .ok [] { used with position := 5 } ∧
      readExactAt 6 0 used = .error (.rangeOutOfBounds 6 0 5) used ∧
      readExactAt 0xFFFFFFFFFFFFFFFF 2 used =
        .error (.rangeOutOfBounds 0xFFFFFFFFFFFFFFFF 2 5) used ∧
      readExactAt 1 4 used = fillAt 1 [7, 7, 7, 7] (throw (.readOnly "none")) used := by
  intro start used
  have hstart : start.Addressable := by
    refine ⟨by decide, ?_⟩
    rintro _ ⟨rfl⟩
    exact Growth.addressable_zeros
  have hreads (offset length : Nat) := ranges_read_exactly hstart
    [.seek (.start 4), .write [9], .seek (.finish 7)] offset length
  have hsize : used.size = 5 := by decide +kernel
  have hmiddle : used.slice 1 4 = [2, 0, 0, 9] := by decide +kernel
  have hend : used.slice 5 0 = [] := by decide +kernel
  refine ⟨hstart, by decide +kernel, ?_, ?_, ?_, ?_, ?_⟩
  · rw [(hreads 1 4).1, hsize, if_pos (by decide), hmiddle]
  · rw [(hreads 5 0).1, hsize, if_pos (by decide), hend]
  · rw [(hreads 6 0).1, hsize, if_neg (by decide)]
  · rw [(hreads 0xFFFFFFFFFFFFFFFF 2).1, hsize, if_neg (by decide)]
  · obtain ⟨_, _, _, _, hfilled⟩ := hreads 1 4
    exact hfilled [7, 7, 7, 7] _ rfl (Nat.le_of_eq hsize.symm)

end Stream

end TiffStrip
