import TiffStrip.Proofs.Stream.Range

namespace TiffStrip.Stream

inductive Call where
  | read (buffer : List UInt8)
  | write (bytes : List UInt8)
  | seek (target : SeekTarget)
  | readExactAt (offset length : Nat)
  deriving DecidableEq, Repr

namespace Call

def Result : Call → Type
  | read _ => Nat × List UInt8
  | write _ => Nat
  | seek _ => Nat
  | readExactAt .. => List UInt8

def run : (call : Call) → EStateM StreamError Stream call.Result
  | read buffer => readInto buffer
  | write bytes => Stream.write bytes
  | seek target => Stream.seek target
  | readExactAt offset length => Stream.readExactAt offset length

end Call

/-- What a run of calls leaves, whichever of them fail. -/
def afterCalls (calls : List Call) (s : Stream) : Stream :=
  calls.foldl (fun s call => after call.run s) s

/-- What every call keeps, a run of calls keeps. -/
theorem keeps_afterCalls {P : Stream → Prop} (h : ∀ (call : Call) s, P s → P (after call.run s))
    (calls : List Call) {s : Stream} (hs : P s) : P (afterCalls calls s) := by
  induction calls generalizing s with
  | nil => exact hs
  | cons call calls ih => exact ih (h call s hs)

/-- A read never fails; it takes what there is and moves the cursor behind it. -/
theorem readInto_eq (buffer : List UInt8) (s : Stream) :
    let bytes := s.slice s.position buffer.length
    readInto buffer s =
      .ok (bytes.length, overwrite bytes buffer) { s with position := s.position + bytes.length } :=
  rfl

/-- A seek moves the cursor and nothing else, or does nothing. -/
theorem seek_cases (target : SeekTarget) (s : Stream) :
    (∃ position, s.locate target = .ok position ∧
      seek target s = .ok position { s with position }) ∨
    ∃ fault, s.locate target = .error fault ∧ seek target s = .error (.invalidSeek s.name fault) s := by
  unfold seek
  cases s.locate target with
  | ok position => exact .inl ⟨position, rfl, rfl⟩
  | error fault => exact .inr ⟨fault, rfl, rfl⟩

/-- The stream when its growth has been asked for so many bytes. -/
def grown (s : Stream) (grow : Growth) (stop : Nat) : Stream :=
  { s with contents := (grow s.contents stop).2, requests := s.requests ++ [stop] }

section

variable {s : Stream} {bytes : List UInt8} (hmode : s.mode = .write)

include hmode

theorem write_overflowing (htop : Address.top < s.position + bytes.length) :
    write bytes s = .error (.growFailed s.name Address.top .overflow) s := by
  unfold write
  rw [hmode, if_neg (nomatch ·), if_pos htop]

variable (htop : s.position + bytes.length ≤ Address.top)

include htop

theorem write_fitting (hfits : s.position + bytes.length ≤ s.size) :
    write bytes s = .ok bytes.length (s.place bytes) := by
  unfold write
  rw [hmode, if_neg (nomatch ·), if_neg (Nat.not_lt.mpr htop), if_pos hfits]

/-- A write that ends behind the buffer asks the growth once, for its end. -/
theorem write_growing {grow : Growth} (hgrowth : s.growth? = some grow)
    (hshort : s.size < s.position + bytes.length) :
    let stop := s.position + bytes.length
    write bytes s =
      if (grow s.contents stop).1 ∧ stop ≤ (s.grown grow stop).size then
        .ok bytes.length ((s.grown grow stop).place bytes)
      else .error (.growFailed s.name stop .declined) (s.grown grow stop) := by
  obtain ⟨contents, position, mode, growth?, mapped, name, requests⟩ := s
  obtain rfl : mode = .write := hmode
  obtain rfl : growth? = some grow := hgrowth
  unfold write
  rw [if_neg (nomatch ·), if_neg (Nat.not_lt.mpr htop), if_neg (Nat.not_le.mpr hshort)]
  rfl

end

theorem size_place {s : Stream} {bytes : List UInt8} (h : s.position + bytes.length ≤ s.size) :
    (s.place bytes).size = s.size := by
  simp only [size, place, Array.size_append, Array.size_extract, List.size_toArray] at h ⊢
  omega

/-- A write is refused and does nothing, or it fits, or the growth is asked once for its end; then
the bytes are laid into the grown buffer, or the write fails with the buffer as the growth left it. -/
theorem write_cases (bytes : List UInt8) (s : Stream) :
    let stop := s.position + bytes.length
    (∃ error, write bytes s = .error error s) ∨
    (s.mode = .write ∧ stop ≤ s.size ∧ write bytes s = .ok bytes.length (s.place bytes)) ∨
    ∃ grow, s.mode = .write ∧ s.growth? = some grow ∧ s.size < stop ∧
      (stop ≤ (s.grown grow stop).size ∧
          write bytes s = .ok bytes.length ((s.grown grow stop).place bytes) ∨
        write bytes s = .error (.growFailed s.name stop .declined) (s.grown grow stop)) := by
  intro stop
  by_cases hread : s.mode = .read
  · exact .inl ⟨_, if_pos hread⟩
  have hmode : s.mode = .write := by
    cases h : s.mode with
    | read => exact absurd h hread
    | write => rfl
  by_cases htop : Address.top < stop
  · exact .inl ⟨_, write_overflowing hmode htop⟩
  have htop := Nat.le_of_not_lt htop
  by_cases hfits : stop ≤ s.size
  · exact .inr (.inl ⟨hmode, hfits, write_fitting hmode htop hfits⟩)
  have hshort := Nat.lt_of_not_le hfits
  cases hgrowth : s.growth? with
  | none =>
    refine .inl ⟨.growFailed s.name stop .fixed, ?_⟩
    unfold write
    rw [if_neg hread, if_neg (Nat.not_lt.mpr htop), if_neg hfits, hgrowth]
  | some grow =>
    refine .inr (.inr ⟨grow, hmode, rfl, hshort, ?_⟩)
    rw [write_growing hmode htop hgrowth hshort]
    by_cases hgranted : (grow s.contents stop).1 = true ∧ stop ≤ (s.grown grow stop).size
    · exact .inl ⟨hgranted.2, if_pos hgranted⟩
    · exact .inr (if_neg hgranted)

structure Opened (s t : Stream) : Prop where
  mode : t.mode = s.mode
  growth : t.growth? = s.growth?
  mapped : t.mapped = s.mapped
  name : t.name = s.name

theorem Opened.refl (s : Stream) : s.Opened s :=
  ⟨rfl, rfl, rfl, rfl⟩

theorem Opened.trans {s t u : Stream} (h : s.Opened t) (h' : t.Opened u) : s.Opened u :=
  ⟨h'.mode.trans h.mode, h'.growth.trans h.growth, h'.mapped.trans h.mapped, h'.name.trans h.name⟩

theorem opened_of_rewound {s t : Stream} (h : t.rewound = s.rewound) : s.Opened t := by
  have hopened : s.rewound.Opened t.rewound := h ▸ .refl _
  exact ⟨hopened.mode, hopened.growth, hopened.mapped, hopened.name⟩

/-- Any call but a write changes nothing but the cursor. -/
theorem rewound_after_run {call : Call} (h : ∀ bytes, call ≠ .write bytes) (s : Stream) :
    (after call.run s).rewound = s.rewound := by
  cases call with
  | read buffer => rfl
  | write bytes => exact absurd rfl (h bytes)
  | seek target =>
    change (after (seek target) s).rewound = s.rewound
    obtain ⟨position, _, hseek⟩ | ⟨fault, _, hseek⟩ := seek_cases target s
    · rw [after_of_ok hseek]
      rfl
    · rw [after_of_error hseek]
  | readExactAt offset length => exact rewound_after_readExactAt s offset length

theorem opened_after_write (bytes : List UInt8) (s : Stream) :
    s.Opened (after (write bytes) s) := by
  obtain ⟨error, h⟩ | ⟨_, _, h⟩ | ⟨grow, _, _, _, ⟨_, h⟩ | h⟩ := write_cases bytes s
  · rw [after_of_error h]
    exact .refl s
  · rw [after_of_ok h]
    exact ⟨rfl, rfl, rfl, rfl⟩
  · rw [after_of_ok h]
    exact ⟨rfl, rfl, rfl, rfl⟩
  · rw [after_of_error h]
    exact ⟨rfl, rfl, rfl, rfl⟩

/-- No call changes how the stream is opened. -/
theorem opened_after_run (call : Call) (s : Stream) : s.Opened (after call.run s) := by
  cases call with
  | write bytes => exact opened_after_write bytes s
  | read | seek | readExactAt =>
    refine opened_of_rewound (rewound_after_run ?_ s)
    exact fun _ => nofun

theorem opened_afterCalls (calls : List Call) (s : Stream) : s.Opened (afterCalls calls s) :=
  keeps_afterCalls (fun call t ht => ht.trans (opened_after_run call t)) calls (.refl s)

end TiffStrip.Stream
