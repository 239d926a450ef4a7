import TiffStrip.Text.Utf8

/-!
# What bytes say as text

Text is decoded byte by byte, and what has been read of a character is held as a number and as bounds
on the next byte. What it comes to is told by the encoding of characters alone: the encoding of a
character is read as this character, and where no encoding begins, the bytes that could have begun one
are replaced, as many of them as there are, or else a single byte.
-/

namespace TiffStrip.Text

open String (utf8EncodeChar)

/-- A number without so many of its last digits to base 64. -/
def leading : (digits : Nat) → Nat → Nat
  | 0, n => n
  | digits + 1, n => leading digits n / 64

/-- The bytes that hold the last digits of a number, six bits in each. -/
def trailing : (digits : Nat) → Nat → List UInt8
  | 0, _ => []
  | digits + 1, n => UInt8.ofNat (0x80 + leading digits n % 64) :: trailing digits n

/-- How many bytes follow the first one in the encoding of a number. -/
def following (n : Nat) : Nat :=
  if n < 0x80 then 0 else if n < 0x800 then 1 else if n < 0x10000 then 2 else 3

/-- What the first byte says about the number of bytes that follow it. -/
def marker : (following : Nat) → Nat
  | 0 => 0
  | 1 => 0xC0
  | 2 => 0xE0
  | _ => 0xF0

def first (n : Nat) : Nat :=
  marker (following n) + leading (following n) n

theorem isValidChar_toNat (c : Char) : c.toNat.isValidChar :=
  c.valid

/-- The four forms of an encoding. -/
theorem form_cases (n : Nat) :
    (n < 0x80 ∧ following n = 0 ∧ first n = n) ∨
    (0x80 ≤ n ∧ n < 0x800 ∧ following n = 1 ∧ first n = 0xC0 + n / 64) ∨
    (0x800 ≤ n ∧ n < 0x10000 ∧ following n = 2 ∧ first n = 0xE0 + n / 64 / 64) ∨
    0x10000 ≤ n ∧ following n = 3 ∧ first n = 0xF0 + n / 64 / 64 / 64 := by
  unfold first following
  by_cases h1 : n < 0x80
  · exact .inl ⟨h1, if_pos h1, by rw [if_pos h1, marker, leading, Nat.zero_add]⟩
  by_cases h2 : n < 0x800
  · refine .inr (.inl ⟨by omega, h2, ?_, ?_⟩) <;> rw [if_neg h1, if_pos h2]
    rfl
  by_cases h3 : n < 0x10000
  · refine .inr (.inr (.inl ⟨by omega, h3, ?_, ?_⟩)) <;> rw [if_neg h1, if_neg h2, if_pos h3]
    rfl
  · refine .inr (.inr (.inr ⟨by omega, ?_, ?_⟩)) <;> rw [if_neg h1, if_neg h2, if_neg h3]
    rfl

theorem toNat_ofNat_first {n : Nat} (h : n.isValidChar) :
    (UInt8.ofNat (first n)).toNat = first n := by
  have hlt : first n < 256 := by
    unfold Nat.isValidChar at h
    have := form_cases n
    omega
  exact Nat.mod_eq_of_lt hlt

theorem uint8_ofNat_congr {a b : Nat} (h : a % 256 = b % 256) : UInt8.ofNat a = UInt8.ofNat b := by
  apply UInt8.toNat.inj
  simpa using h

/-- A character is encoded as a first byte and as many as this says. -/
theorem utf8EncodeChar_eq (c : Char) :
    utf8EncodeChar c = UInt8.ofNat (first c.toNat) :: trailing (following c.toNat) c.toNat := by
  have hvalid := isValidChar_toNat c
  unfold utf8EncodeChar
  rw [show c.val.toNat = c.toNat from rfl]
  generalize c.toNat = n at hvalid
  unfold Nat.isValidChar at hvalid
  dsimp only
  obtain ⟨hn, hfollowing, hfirst⟩ | ⟨hlow, hn, hfollowing, hfirst⟩ |
    ⟨hlow, hn, hfollowing, hfirst⟩ | ⟨hlow, hfollowing, hfirst⟩ := form_cases n
  · rw [if_pos (by omega), hfirst, hfollowing]
    rfl
  · rw [if_neg (by omega), if_pos (by omega), hfirst, hfollowing]
    simp only [trailing, leading, List.cons.injEq, and_true]
    exact ⟨uint8_ofNat_congr (by omega), uint8_ofNat_congr (by omega)⟩
  · rw [if_neg (by omega), if_neg (by omega), if_pos (by omega), hfirst, hfollowing]
    simp only [trailing, leading, List.cons.injEq, and_true]
    exact ⟨uint8_ofNat_congr (by omega), uint8_ofNat_congr (by omega), uint8_ofNat_congr (by omega)⟩
  · rw [if_neg (by omega), if_neg (by omega), if_neg (by omega), hfirst, hfollowing]
    simp only [trailing, leading, List.cons.injEq, and_true]
    exact ⟨uint8_ofNat_congr (by omega), uint8_ofNat_congr (by omega), uint8_ofNat_congr (by omega),
      uint8_ofNat_congr (by omega)⟩

theorem length_trailing (digits n : Nat) : (trailing digits n).length = digits := by
  induction digits with
  | zero => rfl
  | succ digits ih => rw [trailing, List.length_cons, ih]

theorem toNat_ofNat_trailing (n : Nat) : (UInt8.ofNat (0x80 + n % 64)).toNat = 0x80 + n % 64 :=
  Nat.mod_eq_of_lt (by omega)

/-- A number is told by its leading digits and the bytes that hold the others. -/
theorem eq_of_trailing_eq {digits n m : Nat} (hleading : leading digits n = leading digits m)
    (h : trailing digits n = trailing digits m) : n = m := by
  induction digits with
  | zero => exact hleading
  | succ digits ih =>
    rw [trailing, trailing, List.cons.injEq] at h
    have hdigit := congrArg UInt8.toNat h.1
    rw [toNat_ofNat_trailing, toNat_ofNat_trailing] at hdigit
    rw [leading, leading] at hleading
    exact ih (by omega) h.2

/-- The first byte tells how many bytes follow. -/
theorem form_eq_of_first_eq {n m : Nat} (h : first n = first m) :
    following n = following m ∧ leading (following n) n = leading (following m) m := by
  have hfollowing : following n = following m := by
    have := form_cases n
    have := form_cases m
    omega
  refine ⟨hfollowing, ?_⟩
  unfold first at h
  rw [hfollowing] at h ⊢
  exact Nat.add_left_cancel h

/-- No encoding is the beginning of another, so characters are told apart whatever follows them. -/
theorem utf8EncodeChar_append_inj {c d : Char} {rest others : List UInt8}
    (h : utf8EncodeChar c ++ rest = utf8EncodeChar d ++ others) : c = d ∧ rest = others := by
  rw [utf8EncodeChar_eq, utf8EncodeChar_eq, List.cons_append, List.cons_append,
    List.cons.injEq] at h
  have hfirst := congrArg UInt8.toNat h.1
  rw [toNat_ofNat_first (isValidChar_toNat c), toNat_ofNat_first (isValidChar_toNat d)] at hfirst
  obtain ⟨hfollowing, hleading⟩ := form_eq_of_first_eq hfirst
  rw [hfollowing] at h hleading
  obtain ⟨htrailing, hrest⟩ :=
    List.append_inj h.2 ((length_trailing _ _).trans (length_trailing _ _).symm)
  exact ⟨Char.toNat_inj.mp (eq_of_trailing_eq hleading htrailing), hrest⟩

/-- Whether bytes are the beginning of the encoding of a character. -/
def Starts (bytes : List UInt8) : Prop :=
  ∃ c, bytes <+: utf8EncodeChar c

/-- Whether a number may come of what has been read: the bits read so far are its leading digits, and
the byte that holds the next digit is in bounds. -/
def PartialChar.Admits (p : PartialChar) (n : Nat) : Prop :=
  leading p.missing n = p.code ∧
    p.least ≤ 0x80 + leading (p.missing - 1) n % 64 ∧
    0x80 + leading (p.missing - 1) n % 64 ≤ p.greatest

structure Opened (front : List UInt8) (p : PartialChar) : Prop where
  ne_nil : front ≠ []
  missing : 0 < p.missing
  bounds : 0x80 ≤ p.least ∧ p.least ≤ p.greatest ∧ p.greatest ≤ 0xBF
  valid : ∀ n, p.Admits n → n.isValidChar
  encode : ∀ c : Char, p.Admits c.toNat → utf8EncodeChar c = front ++ trailing p.missing c.toNat
  admits : ∀ c : Char, front <+: utf8EncodeChar c → p.Admits c.toNat
  proper : ∀ c : Char, ¬utf8EncodeChar c <+: front

theorem exists_leading_eq (digits n : Nat) : ∃ m, leading digits m = n := by
  induction digits generalizing n with
  | zero => exact ⟨n, rfl⟩
  | succ digits ih =>
    obtain ⟨m, hm⟩ := ih (64 * n)
    exact ⟨m, by rw [leading, hm]; omega⟩

namespace Opened

variable {front : List UInt8} {p : PartialChar} (h : Opened front p) {byte : UInt8}

include h

theorem missing_eq : p.missing - 1 + 1 = p.missing :=
  Nat.sub_add_cancel h.missing

theorem leading_pred (n : Nat) : leading p.missing n = leading (p.missing - 1) n / 64 := by
  rw [← h.missing_eq]
  rfl

theorem trailing_pred (n : Nat) :
    trailing p.missing n =
      UInt8.ofNat (0x80 + leading (p.missing - 1) n % 64) :: trailing (p.missing - 1) n := by
  rw [← h.missing_eq]
  rfl

/-- A number that may come of the bytes is that of a character. -/
theorem toNat_ofNat {n : Nat} (hn : p.Admits n) : (Char.ofNat n).toNat = n := by
  rw [Char.ofNat, dif_pos (h.valid n hn)]
  rfl

theorem starts : Starts front := by
  have hbounds := h.bounds
  obtain ⟨n, hn⟩ := exists_leading_eq (p.missing - 1) (64 * p.code + (p.least - 0x80))
  have hadmits : p.Admits n := by
    refine ⟨?_, ?_, ?_⟩
    · rw [h.leading_pred, hn]
      omega
    · rw [hn]
      omega
    · rw [hn]
      omega
  have hchar := h.toNat_ofNat hadmits
  exact ⟨Char.ofNat n, _, (h.encode _ (hchar.symm ▸ hadmits)).symm⟩

/-- What has to follow for a character to go on: a byte in bounds, which holds its next digit. -/
theorem next_of_isPrefix {c : Char} (hc : front ++ [byte] <+: utf8EncodeChar c) :
    p.least ≤ byte.toNat ∧ byte.toNat ≤ p.greatest ∧
      leading (p.missing - 1) c.toNat = p.code * 64 + (byte.toNat - 0x80) := by
  have hadmits := h.admits c ((List.prefix_append front [byte]).trans hc)
  rw [h.encode c hadmits, h.trailing_pred, List.prefix_append_right_inj,
    List.cons_prefix_cons] at hc
  obtain ⟨hleading, hleast, hgreatest⟩ := hadmits
  rw [h.leading_pred] at hleading
  have hbyte := congrArg UInt8.toNat hc.1
  rw [toNat_ofNat_trailing] at hbyte
  omega

section

variable (hleast : p.least ≤ byte.toNat) (hgreatest : byte.toNat ≤ p.greatest)

include hleast hgreatest

/-- The number that a byte in bounds goes on with. -/
theorem admits_iff_of_next {n : Nat}
    (hn : leading (p.missing - 1) n = p.code * 64 + (byte.toNat - 0x80)) :
    p.Admits n ∧ UInt8.ofNat (0x80 + leading (p.missing - 1) n % 64) = byte := by
  have hbounds := h.bounds
  have hdigit : 0x80 + leading (p.missing - 1) n % 64 = byte.toNat := by omega
  refine ⟨⟨?_, ?_, ?_⟩, ?_⟩
  · rw [h.leading_pred]
    omega
  · rwa [hdigit]
  · rwa [hdigit]
  · rw [hdigit, UInt8.ofNat_toNat]

/-- The last byte of a character. -/
theorem encode_last (hlast : p.missing = 1) :
    utf8EncodeChar (Char.ofNat (p.code * 64 + (byte.toNat - 0x80))) = front ++ [byte] := by
  generalize hn : p.code * 64 + (byte.toNat - 0x80) = n
  have hnext : leading (p.missing - 1) n = p.code * 64 + (byte.toNat - 0x80) := by
    rw [hn, hlast]
    rfl
  obtain ⟨hadmits, hbyte⟩ := h.admits_iff_of_next hleast hgreatest hnext
  have hchar := h.toNat_ofNat hadmits
  rw [h.encode _ (hchar.symm ▸ hadmits), h.trailing_pred, hchar, hbyte, hlast]
  rfl

theorem next (hmore : p.missing ≠ 1) :
    Opened (front ++ [byte]) {
      code := p.code * 64 + (byte.toNat - 0x80)
      missing := p.missing - 1
      least := 0x80
      greatest := 0xBF } := by
  have hmissing := h.missing
  have hadmits {n : Nat} (hn : leading (p.missing - 1) n = p.code * 64 + (byte.toNat - 0x80)) :=
    h.admits_iff_of_next hleast hgreatest hn
  constructor
  case ne_nil => exact List.concat_ne_nil byte front
  case missing =>
    change 0 < p.missing - 1
    omega
  case bounds => exact (by decide : 0x80 ≤ 0x80 ∧ 0x80 ≤ 0xBF ∧ 0xBF ≤ 0xBF)
  case valid =>
    intro n hn
    exact h.valid n (hadmits hn.1).1
  case encode =>
    intro c hc
    obtain ⟨hcode, hbyte⟩ := hadmits hc.1
    rw [h.encode c hcode, h.trailing_pred, hbyte, List.append_assoc]
    rfl
  case admits =>
    intro c hc
    refine ⟨(h.next_of_isPrefix hc).2.2, ?_, ?_⟩
    · exact Nat.le_add_right _ _
    · dsimp only
      omega
  case proper =>
    intro c hc
    rcases List.prefix_concat_iff.mp hc with heq | hshort
    · have hprefix : front <+: utf8EncodeChar c := heq ▸ List.prefix_append front [byte]
      have hlength := congrArg List.length (h.encode c (h.admits c hprefix))
      rw [heq, List.length_append, List.length_append, length_trailing, List.length_singleton]
        at hlength
      omega
    · exact h.proper c hshort

end

end Opened

theorem first_eq_of_isPrefix {c : Char} {byte : UInt8} {rest : List UInt8}
    (h : byte :: rest <+: utf8EncodeChar c) : first c.toNat = byte.toNat := by
  rw [utf8EncodeChar_eq, List.cons_prefix_cons] at h
  rw [h.1, toNat_ofNat_first (isValidChar_toNat c)]

/-- A byte opens a character if what it admits are just the numbers that it is the first byte of. -/
theorem opened_of_first {byte : UInt8} {p : PartialChar} (hmissing : 0 < p.missing)
    (hbounds : 0x80 ≤ p.least ∧ p.least ≤ p.greatest ∧ p.greatest ≤ 0xBF)
    (h : ∀ n, (p.Admits n ↔ n.isValidChar ∧ first n = byte.toNat) ∧
      (first n = byte.toNat → following n = p.missing)) : Opened [byte] p where
  ne_nil := List.cons_ne_nil byte []
  missing := hmissing
  bounds := hbounds
  valid n hn := ((h n).1.mp hn).1
  encode c hc := by
    have hfirst := ((h _).1.mp hc).2
    rw [utf8EncodeChar_eq, (h _).2 hfirst, hfirst, UInt8.ofNat_toNat]
    rfl
  admits c hc := (h _).1.mpr ⟨isValidChar_toNat c, first_eq_of_isPrefix hc⟩
  proper c hc := by
    -- A first byte that opens a character is not all of its encoding.
    have hshort := hc.length_le
    rw [utf8EncodeChar_eq, List.length_cons, length_trailing, List.length_singleton] at hshort
    rw [utf8EncodeChar_eq, List.cons_prefix_cons] at hc
    have hfirst : first c.toNat = byte.toNat := by
      rw [← hc.1, toNat_ofNat_first (isValidChar_toNat c)]
    have hopen := (h _).2 hfirst
    omega

inductive Begun (byte : UInt8) (s : Utf8State) : Utf8State → Prop where
  | char {c : Char} (h : utf8EncodeChar c = [byte]) : Begun byte s (s.emit c)
  | refused (h : ¬Starts [byte]) : Begun byte s (s.emit replacement)
  | opened {p : PartialChar} (h : Opened [byte] p) : Begun byte s { s with open? := some p }

theorem begun_ite {byte : UInt8} {s t u : Utf8State} {c : Prop} [Decidable c]
    (ht : c → Begun byte s t) (hu : ¬c → Begun byte s u) : Begun byte s (if c then t else u) := by
  by_cases h : c
  · rw [if_pos h]
    exact ht h
  · rw [if_neg h]
    exact hu h

theorem begun_begin (s : Utf8State) (byte : UInt8) : Begun byte s (s.begin byte.toNat) := by
  have hbyte := byte.toNat_lt
  have hrefused (h : ∀ n, n.isValidChar → first n ≠ byte.toNat) :
      Begun byte s (s.emit replacement) := by
    refine .refused ?_
    rintro ⟨c, hc⟩
    exact h c.toNat (isValidChar_toNat c) (first_eq_of_isPrefix hc)
  have hopened {code missing least greatest : Nat} (hmissing : 0 < missing)
      (hbounds : 0x80 ≤ least ∧ least ≤ greatest ∧ greatest ≤ 0xBF)
      (h : ∀ n, (PartialChar.Admits ⟨code, missing, least, greatest⟩ n ↔
          n.isValidChar ∧ first n = byte.toNat) ∧
        (first n = byte.toNat → following n = missing)) :
      Begun byte s (s.await code missing least greatest) :=
    .opened (opened_of_first hmissing hbounds h)
  unfold Utf8State.begin
  generalize hb : byte.toNat = b at *
  refine begun_ite (fun hascii => ?_) fun _ => ?_
  · have hchar : (Char.ofNat b).toNat = b := by
      rw [Char.ofNat, dif_pos (.inl (by omega))]
      rfl
    have hform := form_cases b
    refine .char ?_
    rw [utf8EncodeChar_eq, hchar, show first b = b by omega, show following b = 0 by omega, ← hb,
      UInt8.ofNat_toNat]
    rfl
  refine begun_ite (fun _ => ?_) fun _ => ?_
  · refine hrefused fun n hn => ?_
    have hform := form_cases n
    omega
  -- What is awaited after any other byte just excludes what is no character or has a shorter form.
  iterate 7
    refine begun_ite (fun _ => ?_) fun _ => ?_
    · refine hopened (by decide) (by decide) fun n => ?_
      have hform := form_cases n
      simp only [PartialChar.Admits, leading, Nat.reduceSub, Nat.isValidChar]
      omega
  refine hrefused fun n hn => ?_
  have hform := form_cases n
  unfold Nat.isValidChar at hn
  omega

/-- Bytes that stand for no character, with the bytes behind them: as many as could have been the
beginning of one, but at least one. -/
structure Broken (front rest : List UInt8) : Prop where
  begins : front.length = 1 ∨ front ≠ [] ∧ Starts front
  whole : ∀ c : Char, ¬utf8EncodeChar c <+: front ++ rest
  longest : ∀ more, more <+: rest → more ≠ [] → ¬Starts (front ++ more)

/-- Bytes read as text: the encoding of a character as that character, and what is the encoding of none
as a mark in its place. -/
inductive Reads : List UInt8 → List Char → Prop where
  | nil : Reads [] []
  | char (c : Char) {rest : List UInt8} {text : List Char} (h : Reads rest text) :
    Reads (utf8EncodeChar c ++ rest) (c :: text)
  | broken {front rest : List UInt8} {text : List Char} (hfront : Broken front rest)
      (h : Reads rest text) :
    Reads (front ++ rest) (replacement :: text)

namespace Broken

variable {front rest other others : List UInt8} (h : Broken front rest)
  (hother : Broken other others) (heq : front ++ rest = other ++ others)

include h

theorem ne_nil : front ≠ [] := by
  obtain hone | ⟨hne, _⟩ := h.begins
  · rintro rfl
    cases hone
  · exact hne

include hother heq

/-- Of the same bytes, fewer cannot stand for no character. -/
theorem eq_of_isPrefix (hle : front <+: other) : front = other := by
  obtain ⟨more, rfl⟩ := hle
  rw [List.append_assoc, List.append_cancel_left_eq] at heq
  by_cases hmore : more = []
  · rw [hmore, List.append_nil]
  · obtain hone | ⟨_, hstarts⟩ := hother.begins
    · have hfront := List.length_pos_iff.mpr h.ne_nil
      have hbehind := List.length_pos_iff.mpr hmore
      rw [List.length_append] at hone
      omega
    · exact absurd hstarts (h.longest more ⟨others, heq.symm⟩ hmore)

/-- Bytes that stand for no character end where they end. -/
theorem append_inj : front = other ∧ rest = others := by
  have hother_le : other <+: front ++ rest := heq ▸ List.prefix_append other others
  obtain rfl : front = other := by
    rcases List.prefix_or_prefix_of_prefix (List.prefix_append front rest) hother_le with hle | hle
    · exact h.eq_of_isPrefix hother heq hle
    · exact (hother.eq_of_isPrefix h heq.symm hle).symm
  exact ⟨rfl, List.append_cancel_left heq⟩

end Broken

theorem utf8EncodeChar_ne_nil (c : Char) : utf8EncodeChar c ≠ [] := by
  rw [utf8EncodeChar_eq]
  exact List.cons_ne_nil _ _

theorem Starts.of_append {front more : List UInt8} (h : Starts (front ++ more)) : Starts front := by
  obtain ⟨c, hc⟩ := h
  exact ⟨c, (List.prefix_append front more).trans hc⟩

/-- A byte that starts no character stands for none, whatever follows it. -/
theorem broken_of_refused {byte : UInt8} (h : ¬Starts [byte]) (rest : List UInt8) :
    Broken [byte] rest where
  begins := .inl rfl
  whole c hc := by
    obtain ⟨head, tail, hencode⟩ := List.exists_cons_of_ne_nil (utf8EncodeChar_ne_nil c)
    rw [hencode, List.singleton_append, List.cons_prefix_cons] at hc
    refine h ⟨c, ?_⟩
    rw [hencode, ← hc.1]
    exact List.cons_prefix_cons.mpr ⟨rfl, List.nil_prefix⟩
  longest _ _ _ hstarts := h hstarts.of_append

/-- A character that has been begun breaks off at the end, or at a byte that is out of bounds. -/
theorem Opened.broken {front rest : List UInt8} {p : PartialChar} (h : Opened front p)
    (hrest : ∀ byte, rest.head? = some byte → ¬(p.least ≤ byte.toNat ∧ byte.toNat ≤ p.greatest)) :
    Broken front rest := by
  have hstops {byte : UInt8} {others : List UInt8} (heq : rest = byte :: others) (c : Char) :
      ¬front ++ [byte] <+: utf8EncodeChar c := by
    intro hc
    obtain ⟨hleast, hgreatest, _⟩ := h.next_of_isPrefix hc
    exact hrest byte (by rw [heq]; rfl) ⟨hleast, hgreatest⟩
  constructor
  case begins => exact .inr ⟨h.ne_nil, h.starts⟩
  case whole =>
    intro c hc
    cases hcut : rest with
    | nil =>
      rw [hcut, List.append_nil] at hc
      exact h.proper c hc
    | cons byte others =>
      have hfront : front ++ [byte] <+: front ++ rest := by
        rw [hcut]
        exact (List.prefix_append_right_inj front).mpr (List.prefix_append [byte] others)
      rcases List.prefix_or_prefix_of_prefix hc hfront with hshort | hlong
      · rcases List.prefix_concat_iff.mp hshort with heq | hproper
        · exact hstops hcut c (heq ▸ List.prefix_refl _)
        · exact h.proper c hproper
      · exact hstops hcut c hlong
  case longest =>
    intro more hmore hne hstarts
    obtain ⟨byte, others, rfl⟩ := List.exists_cons_of_ne_nil hne
    obtain ⟨behind, hbehind⟩ := hmore
    rw [List.append_cons] at hstarts
    obtain ⟨c, hc⟩ := hstarts.of_append
    exact hstops hbehind.symm c hc

namespace Utf8State

variable {done : List Char} {p : PartialChar} {byte : UInt8}

/-- A byte that ends a character. -/
theorem step_last (h : p.least ≤ byte.toNat ∧ byte.toNat ≤ p.greatest) (hlast : p.missing = 1) :
    step ⟨done, some p⟩ byte = ⟨Char.ofNat (p.code * 64 + (byte.toNat - 0x80)) :: done, none⟩ := by
  simp only [step, h, hlast, and_self, if_true]
  rfl

theorem step_next (h : p.least ≤ byte.toNat ∧ byte.toNat ≤ p.greatest) (hmore : p.missing ≠ 1) :
    step ⟨done, some p⟩ byte =
      ⟨done, some ⟨p.code * 64 + (byte.toNat - 0x80), p.missing - 1, 0x80, 0xBF⟩⟩ := by
  simp only [step, h, hmore, and_self, if_true, if_false]
  rfl

/-- The byte that breaks a character off is read again, as if it came first. -/
theorem step_broken (h : ¬(p.least ≤ byte.toNat ∧ byte.toNat ≤ p.greatest)) :
    step ⟨done, some p⟩ byte = step ⟨replacement :: done, none⟩ byte := by
  simp only [step, h, if_false]
  rfl

end Utf8State

/-- Bytes are read as text from between characters, and from inside one. -/
theorem reads_finish (bytes : List UInt8) :
    (∀ done, ∃ text, (bytes.foldl Utf8State.step ⟨done, none⟩).finish = done.reverse ++ text ∧
      Reads bytes text) ∧
    ∀ done front p, Opened front p →
      ∃ text, (bytes.foldl Utf8State.step ⟨done, some p⟩).finish = done.reverse ++ text ∧
        Reads (front ++ bytes) text := by
  induction bytes with
  | nil =>
    refine ⟨fun done => ⟨[], (List.append_nil _).symm, .nil⟩, fun done front p h => ?_⟩
    exact ⟨[replacement], List.reverse_cons, .broken (h.broken nofun) .nil⟩
  | cons byte rest ih =>
    obtain ⟨hclosed, hopened⟩ := ih
    have hbetween (done : List Char) : ∃ text,
        ((byte :: rest).foldl Utf8State.step ⟨done, none⟩).finish = done.reverse ++ text ∧
          Reads (byte :: rest) text := by
      rw [List.foldl_cons]
      change ∃ text, (rest.foldl _ (Utf8State.begin ⟨done, none⟩ byte.toNat)).finish = _ ∧ _
      have hbegun := begun_begin ⟨done, none⟩ byte
      generalize Utf8State.begin ⟨done, none⟩ byte.toNat = s at hbegun ⊢
      cases hbegun with
      | @char c h =>
        obtain ⟨text, hfinish, hreads⟩ := hclosed (c :: done)
        rw [List.reverse_cons, List.append_assoc] at hfinish
        have hchar := Reads.char c hreads
        rw [h] at hchar
        exact ⟨c :: text, hfinish, hchar⟩
      | refused h =>
        obtain ⟨text, hfinish, hreads⟩ := hclosed (replacement :: done)
        rw [List.reverse_cons, List.append_assoc] at hfinish
        exact ⟨replacement :: text, hfinish, .broken (broken_of_refused h rest) hreads⟩
      | opened h => exact hopened done [byte] _ h
    refine ⟨hbetween, fun done front p h => ?_⟩
    rw [List.foldl_cons]
    by_cases hbounds : p.least ≤ byte.toNat ∧ byte.toNat ≤ p.greatest
    · obtain ⟨hleast, hgreatest⟩ := hbounds
      rw [List.append_cons]
      by_cases hlast : p.missing = 1
      · obtain ⟨text, hfinish, hreads⟩ := hclosed (Char.ofNat _ :: done)
        rw [List.reverse_cons, List.append_assoc] at hfinish
        have hchar := Reads.char (Char.ofNat (p.code * 64 + (byte.toNat - 0x80))) hreads
        rw [h.encode_last hleast hgreatest hlast] at hchar
        rw [Utf8State.step_last ⟨hleast, hgreatest⟩ hlast]
        exact ⟨_, hfinish, hchar⟩
      · rw [Utf8State.step_next ⟨hleast, hgreatest⟩ hlast]
        exact hopened done _ _ (h.next hleast hgreatest hlast)
    · obtain ⟨text, hfinish, hreads⟩ := hbetween (replacement :: done)
      rw [List.foldl_cons, List.reverse_cons, List.append_assoc] at hfinish
      have hbroken : Broken front (byte :: rest) := by
        apply h.broken
        intro next hnext
        cases hnext
        exact hbounds
      rw [Utf8State.step_broken hbounds]
      exact ⟨replacement :: text, hfinish, .broken hbroken hreads⟩

theorem reads_decodeUtf8 (bytes : List UInt8) : Reads bytes (decodeUtf8 bytes).toList := by
  obtain ⟨text, hfinish, hreads⟩ := (reads_finish bytes).1 []
  rw [decodeUtf8, String.toList_ofList, hfinish]
  exact hreads

section

variable {bytes rest front : List UInt8} {text other : List Char} {c : Char}

theorem reads_nil_iff : Reads [] text ↔ text = [] := by
  constructor
  · intro h
    generalize hbytes : ([] : List UInt8) = bytes at h
    cases h with
    | nil => rfl
    | char c => exact absurd (List.append_eq_nil_iff.mp hbytes.symm).1 (utf8EncodeChar_ne_nil c)
    | broken hfront => exact absurd (List.append_eq_nil_iff.mp hbytes.symm).1 hfront.ne_nil
  · rintro rfl
    exact .nil

/-- A character is kept, whatever follows it. -/
theorem reads_char_iff :
    Reads (utf8EncodeChar c ++ rest) text ↔ ∃ more, text = c :: more ∧ Reads rest more := by
  constructor
  · intro h
    generalize hbytes : utf8EncodeChar c ++ rest = bytes at h
    cases h with
    | nil => exact absurd (List.append_eq_nil_iff.mp hbytes).1 (utf8EncodeChar_ne_nil c)
    | char d h =>
      obtain ⟨rfl, rfl⟩ := utf8EncodeChar_append_inj hbytes
      exact ⟨_, rfl, h⟩
    | broken hfront => exact absurd ⟨rest, hbytes⟩ (hfront.whole c)
  · rintro ⟨more, rfl, h⟩
    exact .char c h

/-- What stands for no character is replaced, whatever follows it. -/
theorem reads_broken_iff (hfront : Broken front rest) :
    Reads (front ++ rest) text ↔ ∃ more, text = replacement :: more ∧ Reads rest more := by
  constructor
  · intro h
    generalize hbytes : front ++ rest = bytes at h
    cases h with
    | nil => exact absurd (List.append_eq_nil_iff.mp hbytes).1 hfront.ne_nil
    | char c => exact absurd ⟨_, hbytes.symm⟩ (hfront.whole c)
    | broken hother h =>
      obtain ⟨rfl, rfl⟩ := hfront.append_inj hother hbytes
      exact ⟨_, rfl, h⟩
  · rintro ⟨more, rfl, h⟩
    exact .broken hfront h

/-- There is just one way to read bytes as text. -/
theorem Reads.unique (h : Reads bytes text) (hother : Reads bytes other) : text = other := by
  induction h generalizing other with
  | nil => exact (reads_nil_iff.mp hother).symm
  | char c _ ih =>
    obtain ⟨more, rfl, hmore⟩ := reads_char_iff.mp hother
    rw [ih hmore]
  | broken hfront _ ih =>
    obtain ⟨more, rfl, hmore⟩ := (reads_broken_iff hfront).mp hother
    rw [ih hmore]

/-- Bytes are decoded as they are read. -/
theorem decodeUtf8_eq_iff {decoded : String} :
    decodeUtf8 bytes = decoded ↔ Reads bytes decoded.toList := by
  constructor
  · rintro rfl
    exact reads_decodeUtf8 bytes
  · intro h
    exact String.toList_inj.mp ((reads_decodeUtf8 bytes).unique h)

/-- A character that breaks off is replaced once, and two bytes of no character are replaced twice. -/
example : decodeUtf8 [0xE2, 0x82, 0x41, 0xED, 0xA0, 0xC3, 0x9F] = "\uFFFDA\uFFFD\uFFFDß" := by
  decide

/-- The bytes of characters are read as these characters. -/
theorem reads_flatMap (text : List Char) : Reads (text.flatMap utf8EncodeChar) text := by
  induction text with
  | nil => exact .nil
  | cons c text ih => exact .char c ih

theorem toList_toUTF8 (text : String) :
    text.toUTF8.data.toList = text.toList.flatMap utf8EncodeChar := by
  rw [String.toUTF8_eq_toByteArray, ← String.ofList_toList (s := text), String.toByteArray_ofList,
    List.utf8Encode, List.toList_data_toByteArray, String.toList_ofList]

/-- A text that has been encoded is decoded to itself. -/
theorem decodeUtf8_toUTF8 (text : String) : decodeUtf8 text.toUTF8.data.toList = text := by
  rw [decodeUtf8_eq_iff, toList_toUTF8]
  exact reads_flatMap text.toList

theorem zero_not_mem_trailing (digits n : Nat) : 0 ∉ trailing digits n := by
  induction digits with
  | zero => exact List.not_mem_nil
  | succ digits ih =>
    rw [trailing, List.mem_cons, not_or]
    refine ⟨fun h => ?_, ih⟩
    have hzero := congrArg UInt8.toNat h
    rw [toNat_ofNat_trailing, UInt8.toNat_zero] at hzero
    omega

/-- Only the zero character has a zero byte in its encoding. -/
theorem zero_mem_utf8EncodeChar : 0 ∈ utf8EncodeChar c ↔ c = '\x00' := by
  constructor
  · intro h
    rw [utf8EncodeChar_eq, List.mem_cons, or_iff_left (zero_not_mem_trailing _ _)] at h
    have hfirst := congrArg UInt8.toNat h
    rw [toNat_ofNat_first (isValidChar_toNat c), UInt8.toNat_zero] at hfirst
    have hform := form_cases c.toNat
    exact Char.toNat_inj.mp (show c.toNat = 0 by omega)
  · rintro rfl
    decide

/-- Without a zero byte, there is no zero character. -/
theorem Reads.zero_not_mem (h : Reads bytes text) (hbytes : 0 ∉ bytes) : '\x00' ∉ text := by
  induction h with
  | nil => exact List.not_mem_nil
  | char c _ ih =>
    rw [List.mem_append, not_or, zero_mem_utf8EncodeChar] at hbytes
    rw [List.mem_cons, not_or]
    exact ⟨fun h => hbytes.1 h.symm, ih hbytes.2⟩
  | broken _ _ ih =>
    rw [List.mem_append, not_or] at hbytes
    rw [List.mem_cons, not_or]
    exact ⟨by decide, ih hbytes.2⟩

end

end TiffStrip.Text
