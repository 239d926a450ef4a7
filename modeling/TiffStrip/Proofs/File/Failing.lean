import TiffStrip.Proofs.File.Hidden

namespace TiffStrip

section

variable {ε ε' σ α β : Type} {P : ε → Prop}

/-- Whether all errors that an action can fail with have a property. -/
def FailsWith (P : ε → Prop) (act : EStateM ε σ α) : Prop :=
  ∀ s e, answer act s = .error e → P e

theorem failsWith_pure (a : α) : FailsWith P (pure a : EStateM ε σ α) :=
  fun _ _ h => nomatch h

theorem failsWith_throw {e : ε} (h : P e) : FailsWith P (throw e : EStateM ε σ α) := by
  rintro s _ ⟨⟩
  exact h

theorem failsWith_bind {act : EStateM ε σ α} {next : α → EStateM ε σ β} (h : FailsWith P act)
    (hnext : ∀ a, FailsWith P (next a)) : FailsWith P (act >>= next) := by
  intro s e he
  rw [answer_bind] at he
  cases hact : answer act s with
  | error first =>
    rw [hact] at he
    cases he
    exact h s e hact
  | ok a =>
    rw [hact] at he
    exact hnext a _ e he

theorem failsWith_get {next : σ → EStateM ε σ β} (h : ∀ s, FailsWith P (next s)) :
    FailsWith P (get >>= next) :=
  fun s e he => h s s e he

theorem failsWith_unless {c : Prop} [Decidable c] {e : ε} {next : PUnit → EStateM ε σ α} (h : P e)
    (hnext : FailsWith P (next ())) : FailsWith P (if c then throw e >>= next else next ()) := by
  split
  · rintro s _ ⟨⟩
    exact h
  · exact hnext

theorem failsWith_ite {c : Prop} [Decidable c] {act other : EStateM ε σ α} (h : FailsWith P act)
    (hother : FailsWith P other) : FailsWith P (if c then act else other) := by
  split
  · exact h
  · exact hother

theorem failsWith_adaptExcept {f : ε' → ε} (act : EStateM ε' σ α) (h : ∀ e, P (f e)) :
    FailsWith P (EStateM.adaptExcept f act) := by
  intro s e he
  rw [answer_adaptExcept] at he
  cases hact : answer act s with
  | ok a =>
    rw [hact] at he
    cases he
  | error cause =>
    rw [hact] at he
    cases he
    exact h cause

theorem failsWith_ofExcept {r : Except ε α} (h : ∀ e, r = .error e → P e) :
    FailsWith P (MonadExcept.ofExcept r : EStateM ε σ α) := by
  intro s e he
  rw [answer_ofExcept] at he
  exact h e he

/-- A sequence fails in its first part if the rest cannot fail so. -/
theorem FailsWith.answer_bind_first {act : EStateM ε σ α} {next : α → EStateM ε σ β}
    (hnext : ∀ a, FailsWith (fun e => ¬P e) (next a)) {s : σ} {e : ε} (he : P e) :
    answer (act >>= next) s = .error e ↔ answer act s = .error e := by
  rw [answer_bind]
  cases answer act s with
  | ok a => exact iff_of_false (fun hfails => hnext a _ _ hfails he) nofun
  | error cause => simp only [Except.bind, Except.error.injEq]

/-- A sequence fails in its rest if the first part cannot fail so. -/
theorem FailsWith.answer_bind_rest {act : EStateM ε σ α} {next : α → EStateM ε σ β}
    (hact : FailsWith (fun e => ¬P e) act) {s : σ} {e : ε} (he : P e) :
    answer (act >>= next) s = .error e ↔
      ∃ a t, act s = .ok a t ∧ answer (next a) t = .error e := by
  constructor
  · intro hfails
    rw [answer_bind] at hfails
    cases hfirst : answer act s with
    | ok a =>
      rw [hfirst] at hfails
      exact ⟨a, _, answer_eq_ok.mp hfirst, hfails⟩
    | error cause =>
      rw [hfirst] at hfails
      cases hfails
      exact absurd he (hact s _ hfirst)
  · rintro ⟨a, t, hfirst, hfails⟩
    rw [answer_bind, answer_of_ok hfirst, after_of_ok hfirst]
    exact hfails

end

/-- Whether an error is about a scanline that was asked for: the image does not have it, its strip has
no offset, or its buffer is too short. -/
def FormatError.OfScanline : FormatError → Prop
  | .scanlineOutOfRange .. | .scanlineBufferTooSmall .. | .invalidValue _ (.noStrip _) => True
  | _ => False

/-- Whether all errors of an action are about an image and not about one of its scanlines. -/
def OfImage {σ α : Type} (act : EStateM FormatError σ α) : Prop :=
  FailsWith (fun error => ¬error.OfScanline) act

namespace Entry

variable (encoding : Encoding) (entry : Entry)

theorem ofImage_readBytes : OfImage (readBytes encoding entry) := by
  unfold readBytes
  cases entry.byteSize? with
  | none => exact failsWith_throw id
  | some size =>
    exact failsWith_ite (failsWith_pure _) (failsWith_adaptExcept _ fun _ => id)

theorem ofImage_readNumbers : OfImage (readNumbers encoding entry) := by
  unfold readNumbers
  cases entry.type? with
  | none => exact failsWith_throw id
  | some type =>
    refine failsWith_unless id (failsWith_ite (failsWith_pure _) ?_)
    cases entry.inlineNumber? encoding with
    | some n => exact failsWith_pure _
    | none => exact failsWith_bind (ofImage_readBytes _ _) fun bytes => failsWith_pure _

theorem ofImage_readText : OfImage (readText encoding entry) := by
  unfold readText
  cases entry.type? with
  | none => exact failsWith_throw id
  | some type =>
    refine failsWith_unless id ?_
    exact failsWith_bind (ofImage_readBytes _ _) fun bytes => failsWith_pure _

theorem ofImage_readValue : OfImage (readValue encoding entry) := by
  have numbers := failsWith_bind (ofImage_readNumbers encoding entry) fun values =>
    failsWith_pure (FieldValue.unsigned values)
  unfold readValue
  cases entry.type? with
  | none => exact failsWith_throw id
  | some type =>
    cases type with
    | ascii => exact failsWith_bind (ofImage_readText _ _) fun _ => failsWith_pure _
    | undefined => exact failsWith_bind (ofImage_readBytes _ _) fun _ => failsWith_pure _
    | byte | short | long | long8 => exact numbers

end Entry

namespace FieldSource

variable {σ α : Type}

theorem ofImage_view (tag : Tag) (read? : FieldValue → Option α) (value : FieldValue) :
    OfImage (view tag read? value : EStateM FormatError σ α) := by
  unfold view
  cases read? value with
  | none => exact failsWith_throw id
  | some a => exact failsWith_pure a

variable [FieldSource σ] (h : ∀ tag, OfImage (field tag : EStateM FormatError σ _))

include h

theorem ofImage_fieldOrDefault (tag : Tag) :
    OfImage (fieldOrDefault tag : EStateM FormatError σ _) := by
  refine failsWith_bind (h tag) fun value? => ?_
  cases value? with
  | some value => exact failsWith_pure value
  | none =>
    cases tag.default? with
    | some value => exact failsWith_pure value
    | none => exact failsWith_throw id

theorem ofImage_required32 (tag : Tag) : OfImage (required32 tag : EStateM FormatError σ _) := by
  refine failsWith_bind (h tag) fun value? => ?_
  cases value? with
  | some value => exact ofImage_view _ _ _
  | none => exact failsWith_throw id

theorem ofImage_fieldAs (tag : Tag) (read? : FieldValue → Option α) :
    OfImage (fieldAs? tag read? : EStateM FormatError σ _) := by
  refine failsWith_bind (h tag) fun value? => ?_
  cases value? with
  | some value => exact failsWith_bind (ofImage_view _ _ _) fun a => failsWith_pure _
  | none => exact failsWith_pure none

theorem ofImage_defaulted16 (tag : Tag) : OfImage (defaulted16 tag : EStateM FormatError σ _) :=
  failsWith_bind (ofImage_fieldOrDefault h tag) fun _ => ofImage_view _ _ _

theorem ofImage_planar : OfImage (planar : EStateM FormatError σ _) := by
  refine failsWith_bind (ofImage_defaulted16 h _) fun code => ?_
  cases Planar.ofCode? code with
  | some planar => exact failsWith_pure planar
  | none => exact failsWith_throw id

end FieldSource

namespace File

open FieldSource

theorem ofImage_field (tag : Tag) : OfImage (field tag) := by
  refine failsWith_get fun file => ?_
  cases file.directory.find? tag with
  | none => exact failsWith_pure none
  | some entry =>
    refine failsWith_bind (fun s error h => ?_) fun value => failsWith_pure _
    rw [answer_onStream] at h
    exact Entry.ofImage_readValue _ _ _ _ h

theorem ofImage_scanlineSize : OfImage scanlineSize := by
  refine failsWith_bind (ofImage_required32 ofImage_field _) fun width => ?_
  refine failsWith_bind (ofImage_defaulted16 ofImage_field _) fun bits => ?_
  refine failsWith_bind (ofImage_defaulted16 ofImage_field _) fun samples => ?_
  exact failsWith_bind (ofImage_planar ofImage_field) fun planar => failsWith_pure _

/-- A strip table fails for its image, and for no scanline. -/
theorem ofImage_loadStrips : OfImage loadStrips := by
  unfold loadStrips
  refine failsWith_bind (ofImage_defaulted16 ofImage_field _) fun compression => ?_
  refine failsWith_unless id (failsWith_get fun file => failsWith_unless id ?_)
  refine failsWith_bind (ofImage_required32 ofImage_field _) fun height => ?_
  refine failsWith_bind (ofImage_defaulted16 ofImage_field _) fun samples => ?_
  refine failsWith_bind (ofImage_planar ofImage_field) fun planar => ?_
  refine failsWith_bind ofImage_scanlineSize fun size => ?_
  refine failsWith_bind (ofImage_fieldOrDefault ofImage_field _) fun rows => ?_
  refine failsWith_bind (ofImage_fieldAs ofImage_field _ _) fun offsets? => ?_
  cases offsets? with
  | none =>
    rintro s _ ⟨⟩
    exact id
  | some offsets =>
    refine failsWith_bind (failsWith_pure _) fun offsets => failsWith_unless id ?_
    exact failsWith_bind (ofImage_field _) fun counts => failsWith_pure _

end File

end TiffStrip
