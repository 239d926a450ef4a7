import TiffStrip.Proofs.Stream.Call

namespace TiffStrip

/-- Growth that leaves the bytes there are, and adds any others behind them, if it adds some. It need
not add enough, and it may refuse what it has done. -/
def Growth.Lengthens (grow : Growth) : Prop :=
  ∀ buffer length, buffer.size < length → buffer.toList <+: (grow buffer length).2.toList

/-- Filling up with one byte lengthens, if it falls short by one byte at most. -/
theorem Growth.lengthens_fill (byte : UInt8) {reach : Nat → Nat} (h : ∀ n, n ≤ reach n + 1) :
    (fill byte reach).Lengthens := by
  intro buffer length hlength
  have hreach : buffer.size ≤ reach length := by
    have := h length
    omega
  have hkept : buffer.extract 0 (reach length) = buffer := by
    rw [Array.extract_eq_self_of_le hreach]
  rw [fill, hkept, Array.toList_append]
  exact List.prefix_append _ _

namespace Stream

/-- A failed call leaves the cursor where it was. The contents are as they were, or the call was a
write that had its end asked of the growth, and they are what the growth has made of them. -/
theorem kept_of_error {call : Call} {s : Stream} {error : StreamError}
    (h : answer call.run s = .error error) :
    let left := after call.run s
    left.position = s.position ∧
      (left.contents = s.contents ∨ ∃ bytes grow, call = .write bytes ∧ s.mode = .write ∧
        s.growth? = some grow ∧ s.size < s.position + bytes.length ∧
        left.contents = (grow s.contents (s.position + bytes.length)).2) := by
  intro left
  cases call with
  | read buffer => cases h
  | write bytes =>
    change answer (write bytes) s = .error error at h
    obtain ⟨_, hwrite⟩ | ⟨_, _, hwrite⟩ | ⟨grow, hmode, hgrowth, hshort, ⟨_, hwrite⟩ | hwrite⟩ :=
      write_cases bytes s
    · rw [show left = s from after_of_error hwrite]
      exact ⟨rfl, .inl rfl⟩
    · cases (answer_of_ok hwrite).symm.trans h
    · cases (answer_of_ok hwrite).symm.trans h
    · rw [show left = s.grown grow (s.position + bytes.length) from after_of_error hwrite]
      exact ⟨rfl, .inr ⟨bytes, grow, rfl, hmode, hgrowth, hshort, rfl⟩⟩
  | seek target =>
    change answer (seek target) s = .error error at h
    obtain ⟨position, _, hseek⟩ | ⟨fault, _, hseek⟩ := seek_cases target s
    · cases (answer_of_ok hseek).symm.trans h
    · rw [show left = s from after_of_error hseek]
      exact ⟨rfl, .inl rfl⟩
  | readExactAt offset length =>
    change answer (readExactAt offset length) s = .error error at h
    have hread := readExactAt_eq s offset length
    by_cases hinside : offset + length < Address.limit ∧ offset + length ≤ s.size
    · rw [if_pos hinside] at hread
      cases (answer_of_ok hread).symm.trans h
    · rw [if_neg hinside] at hread
      rw [show left = s from after_of_error hread]
      exact ⟨rfl, .inl rfl⟩

/-- If the growth only lengthens, no byte that was there before a failed call has changed. -/
theorem prefix_of_error {call : Call} {s : Stream} {error : StreamError}
    (hgrowth : ∀ grow, s.growth? = some grow → grow.Lengthens)
    (h : answer call.run s = .error error) :
    s.contents.toList <+: (after call.run s).contents.toList := by
  obtain ⟨_, hsame | ⟨bytes, grow, _, _, hgrow, hshort, hgrown⟩⟩ := kept_of_error h
  · exact hsame.symm ▸ List.prefix_rfl
  · rw [hgrown]
    exact hgrowth grow hgrow _ _ hshort

/-- A write asks the growth only if it ends behind the buffer, then once, and for that end. When it
succeeds the buffer reaches there. -/
theorem asked_of_write (bytes : List UInt8) (s : Stream) :
    let stop := s.position + bytes.length
    let left := after (write bytes) s
    (left.requests = s.requests ∨ s.mode = .write ∧ s.size < stop ∧
      left.requests = s.requests ++ [stop]) ∧
    ∀ count, answer (write bytes) s = .ok count → stop ≤ left.size := by
  intro stop left
  obtain ⟨_, h⟩ | ⟨_, hfits, h⟩ | ⟨grow, hmode, _, hshort, ⟨hfits, h⟩ | h⟩ := write_cases bytes s
  · rw [show left = s from after_of_error h, answer_of_error h]
    exact ⟨.inl rfl, nofun⟩
  · rw [show left = s.place bytes from after_of_ok h]
    exact ⟨.inl rfl, fun _ _ => (size_place hfits).symm ▸ hfits⟩
  · rw [show left = (s.grown grow stop).place bytes from after_of_ok h]
    have hsize : ((s.grown grow stop).place bytes).size = (s.grown grow stop).size :=
      size_place hfits
    exact ⟨.inr ⟨hmode, hshort, rfl⟩, fun _ _ => hsize.symm ▸ hfits⟩
  · rw [show left = s.grown grow stop from after_of_error h, answer_of_error h]
    exact ⟨.inr ⟨hmode, hshort, rfl⟩, nofun⟩

theorem requests_eq {s t : Stream} (h : t.rewound = s.rewound) : t.requests = s.requests :=
  show t.rewound.requests = s.rewound.requests by rw [h]

theorem rewound_of_read {s : Stream} (hmode : s.mode = .read) (call : Call) :
    (after call.run s).rewound = s.rewound := by
  by_cases hwrite : ∃ bytes, call = .write bytes
  · obtain ⟨bytes, rfl⟩ := hwrite
    have hrefused : write bytes s = .error (.readOnly s.name) s := if_pos hmode
    exact congrArg rewound (after_of_error hrefused)
  · exact rewound_after_run (fun bytes h => hwrite ⟨bytes, h⟩) s

theorem rewound_afterCalls_of_read {s : Stream} (hmode : s.mode = .read) (calls : List Call) :
    (afterCalls calls s).rewound = s.rewound := by
  refine keeps_afterCalls (fun call t (ht : t.rewound = s.rewound) => ?_) calls rfl
  have hread : t.mode = .read := (opened_of_rewound ht).mode.trans hmode
  exact (rewound_of_read hread call).trans ht

/-- **A call that fails leaves the stream as it was.** After any calls, a call that fails leaves the
cursor where it is. The contents stay as they are, unless the call is a write that asked the growth:
then they are what the growth has made of them, and if growth only lengthens, every byte that was
there is still there. A stream that is only read never changes its contents. Only a write that ends
behind the buffer asks the growth, just once, and for that end; if it succeeds, the buffer reaches
there. -/
theorem failed_calls_leave_stream (start : Stream) (calls : List Call) :
    let used := afterCalls calls start
    (∀ (call : Call) error, answer call.run used = .error error →
      let left := after call.run used
      left.position = used.position ∧
      (left.contents = used.contents ∨ ∃ bytes grow, call = .write bytes ∧ start.mode = .write ∧
        start.growth? = some grow ∧ used.size < used.position + bytes.length ∧
        left.contents = (grow used.contents (used.position + bytes.length)).2) ∧
      ((∀ grow, start.growth? = some grow → grow.Lengthens) →
        used.contents.toList <+: left.contents.toList)) ∧
    (start.mode = .read → used.contents = start.contents ∧ used.requests = start.requests) ∧
    (∀ call : Call, (∀ bytes, call ≠ .write bytes) →
      (after call.run used).requests = used.requests) ∧
    ∀ bytes,
      let stop := used.position + bytes.length
      let left := after (write bytes) used
      (left.requests = used.requests ∨ used.size < stop ∧ left.requests = used.requests ++ [stop]) ∧
      ∀ count, answer (write bytes) used = .ok count → stop ≤ left.size := by
  intro used
  have hopened : start.Opened used := opened_afterCalls calls start
  refine ⟨fun call error herror => ?_, fun hmode => ?_, fun call hcall => ?_, fun bytes => ?_⟩
  · obtain ⟨hposition, hcontents⟩ := kept_of_error herror
    rw [hopened.mode, hopened.growth] at hcontents
    refine ⟨hposition, hcontents, fun hgrowth => prefix_of_error ?_ herror⟩
    rwa [hopened.growth]
  · have hrewound := rewound_afterCalls_of_read hmode calls
    exact ⟨contents_eq hrewound, requests_eq hrewound⟩
  · exact requests_eq (rewound_after_run hcall used)
  · obtain ⟨hasked, hreached⟩ := asked_of_write bytes used
    exact ⟨hasked.imp_right And.right, hreached⟩

/-- Three bytes that may be written, and grown by too little: always one byte short. -/
def shortOfOne : Stream :=
  { ofBytes #[1, 2, 3] with mode := .write, growth? := some (.fill 7 (· - 1)) }

theorem failed_calls_leave_shortOfOne :
    let used := afterCalls [.seek (.finish 2)] shortOfOne
    let left := after (write [8, 9]) used
    answer (write [8, 9]) used = .error (.growFailed "memory" 7 .declined) ∧
      used.position = 5 ∧ left.position = 5 ∧ [1, 2, 3] <+: left.contents.toList ∧
      left.contents = #[1, 2, 3, 7, 7, 7] ∧ left.requests = [7] := by
  intro used left
  obtain ⟨hfailed, _, _, hasked⟩ := failed_calls_leave_stream shortOfOne [.seek (.finish 2)]
  have hfails : answer (write [8, 9]) used = .error (.growFailed "memory" 7 .declined) := rfl
  obtain ⟨hposition, _, hkept⟩ := hfailed (.write [8, 9]) _ hfails
  have hlengthens : ∀ grow, shortOfOne.growth? = some grow → grow.Lengthens := by
    rintro _ ⟨rfl⟩
    exact Growth.lengthens_fill 7 fun n => by omega
  obtain hnone | ⟨_, hrequests⟩ := (hasked [8, 9]).1
  · cases hnone
  · exact ⟨hfails, rfl, hposition, hkept hlengthens, rfl, hrequests⟩

end Stream

end TiffStrip
