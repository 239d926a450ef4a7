import TiffStrip.Source

/-!
# Simulation

Actions compared by what they answer and by the states they leave:

* `Simulates`: from related states two actions answer alike and leave related states;
* `Agrees`: the same, where a failure of the first action may be left out of the comparison;
* `agrees_bind`, `simulates_bind` and their companions: programs agree when their parts do;
* `Steady`: an action that sees nothing but a view of the state, and leaves that view alone;
* `simulates_self_iff`: an action that simulates itself on equal states keeps an invariant.
-/

namespace TiffStrip

section

variable {ε ε' σ τ α β : Type}

/-- What an action answers. -/
def answer (act : EStateM ε σ α) (s : σ) : Except ε α :=
  match act s with
  | .ok a _ => .ok a
  | .error e _ => .error e

/-- The state an action leaves, whether it fails or not. -/
def after (act : EStateM ε σ α) (s : σ) : σ :=
  match act s with
  | .ok _ s => s
  | .error _ s => s

theorem answer_eq_ok {act : EStateM ε σ α} {s : σ} {a : α} :
    answer act s = .ok a ↔ act s = .ok a (after act s) := by
  unfold answer after
  cases act s <;> simp

theorem answer_of_ok {act : EStateM ε σ α} {s t : σ} {a : α} (h : act s = .ok a t) :
    answer act s = .ok a := by
  rw [answer, h]

theorem after_of_ok {act : EStateM ε σ α} {s t : σ} {a : α} (h : act s = .ok a t) :
    after act s = t := by
  rw [after, h]

theorem answer_of_error {act : EStateM ε σ α} {s t : σ} {e : ε} (h : act s = .error e t) :
    answer act s = .error e := by
  rw [answer, h]

theorem after_of_error {act : EStateM ε σ α} {s t : σ} {e : ε} (h : act s = .error e t) :
    after act s = t := by
  rw [after, h]

@[simp] theorem answer_pure (a : α) (s : σ) : answer (pure a : EStateM ε σ α) s = .ok a := rfl

@[simp] theorem after_pure (a : α) (s : σ) : after (pure a : EStateM ε σ α) s = s := rfl

@[simp] theorem answer_throw (e : ε) (s : σ) :
    answer (throw e : EStateM ε σ α) s = .error e := rfl

theorem answer_bind (act : EStateM ε σ α) (next : α → EStateM ε σ β) (s : σ) :
    answer (act >>= next) s = (answer act s).bind fun a => answer (next a) (after act s) := by
  unfold answer after
  simp only [bind, EStateM.bind]
  cases act s <;> rfl

theorem after_bind (act : EStateM ε σ α) (next : α → EStateM ε σ β) (s : σ) :
    after (act >>= next) s =
      match answer act s with
      | .ok a => after (next a) (after act s)
      | .error _ => after act s := by
  unfold answer after
  simp only [bind, EStateM.bind]
  cases act s <;> rfl

theorem answer_map (f : α → β) (act : EStateM ε σ α) (s : σ) :
    answer (f <$> act) s = (answer act s).map f := by
  unfold answer
  simp only [Functor.map, EStateM.map]
  cases act s <;> rfl

theorem after_map (f : α → β) (act : EStateM ε σ α) (s : σ) :
    after (f <$> act) s = after act s := by
  unfold after
  simp only [Functor.map, EStateM.map]
  cases act s <;> rfl

theorem get_bind (next : σ → EStateM ε σ β) (s : σ) : (get >>= next) s = next s s :=
  rfl

theorem answer_get (next : σ → EStateM ε σ β) (s : σ) :
    answer (get >>= next) s = answer (next s) s :=
  rfl

theorem after_get (next : σ → EStateM ε σ β) (s : σ) :
    after (get >>= next) s = after (next s) s :=
  rfl

@[simp] theorem answer_adaptExcept (f : ε → ε') (act : EStateM ε σ α) (s : σ) :
    answer (EStateM.adaptExcept f act) s = (answer act s).mapError f := by
  unfold answer
  simp only [EStateM.adaptExcept]
  cases act s <;> rfl

@[simp] theorem after_adaptExcept (f : ε → ε') (act : EStateM ε σ α) (s : σ) :
    after (EStateM.adaptExcept f act) s = after act s := by
  unfold after
  simp only [EStateM.adaptExcept]
  cases act s <;> rfl

@[simp] theorem answer_ofExcept (r : Except ε α) (s : σ) :
    answer (MonadExcept.ofExcept r : EStateM ε σ α) s = r := by
  cases r <;> rfl

@[simp] theorem after_ofExcept (r : Except ε α) (s : σ) :
    after (MonadExcept.ofExcept r : EStateM ε σ α) s = s := by
  cases r <;> rfl

theorem ofExcept_bind {r : Except ε α} {a : α} (h : r = .ok a) (next : α → EStateM ε σ β) (s : σ) :
    (MonadExcept.ofExcept r >>= next) s = next a s := by
  rw [h]
  rfl

theorem except_bind_eq_ok {r : Except ε α} {next : α → Except ε β} {b : β} :
    r >>= next = .ok b ↔ ∃ a, r = .ok a ∧ next a = .ok b := by
  cases r <;> simp [bind, Except.bind]

theorem except_map_eq_ok {r : Except ε α} {f : α → β} {b : β} :
    r.map f = .ok b ↔ ∃ a, r = .ok a ∧ f a = b := by
  cases r <;> simp [Except.map]

theorem except_map_eq_error {r : Except ε α} {f : α → β} {e : ε} :
    r.map f = .error e ↔ r = .error e := by
  cases r <;> simp [Except.map]

theorem except_toOption_eq_some {r : Except ε α} {a : α} : r.toOption = some a ↔ r = .ok a := by
  cases r <;> simp [Except.toOption]

/-- What an answer was refused for, if it was. -/
def refusal? (r : Except ε α) : Option ε :=
  match r with
  | .ok _ => none
  | .error e => some e

theorem refusal?_eq_some {r : Except ε α} {e : ε} : refusal? r = some e ↔ r = .error e := by
  cases r <;> simp [refusal?]

/-- A program that is refused under a condition answers only where it is not met. -/
theorem unless_eq_ok {c : Prop} [Decidable c] {e : ε} {next : PUnit → Except ε β} {b : β} :
    (if c then throw e >>= next else next ()) = .ok b ↔ ¬c ∧ next () = .ok b := by
  by_cases h : c <;> simp [h, throw, throwThe, MonadExceptOf.throw, bind, Except.bind]

/-- A sequence that answers has answered at every step. -/
theorem bind_eq_ok {act : EStateM ε σ α} {next : α → EStateM ε σ β} {s u : σ} {b : β}
    (h : (act >>= next) s = .ok b u) : ∃ a t, act s = .ok a t ∧ next a t = .ok b u := by
  simp only [bind, EStateM.bind] at h
  cases hact : act s with
  | ok a t => exact ⟨a, t, rfl, by simpa only [hact] using h⟩
  | error e t => simp [hact] at h

theorem ofExcept_eq_ok {r : Except ε α} {s t : σ} {a : α}
    (h : (MonadExcept.ofExcept r : EStateM ε σ α) s = .ok a t) : r = .ok a ∧ t = s := by
  cases r with
  | error e => cases h
  | ok b =>
    cases h
    exact ⟨rfl, rfl⟩

theorem adaptExcept_eq_ok {f : ε → ε'} {act : EStateM ε σ α} {s t : σ} {a : α}
    (h : EStateM.adaptExcept f act s = .ok a t) : act s = .ok a t := by
  simp only [EStateM.adaptExcept] at h
  split at h
  · cases h
  · cases h
    assumption

/-- Two actions that answer alike and leave related states wherever they start from related
ones. -/
def Simulates (R : σ → τ → Prop) (act : EStateM ε σ α) (other : EStateM ε τ α) : Prop :=
  ∀ s t, R s t → answer act s = answer other t ∧ R (after act s) (after other t)

variable {R : σ → τ → Prop}

theorem simulates_pure (a : α) :
    Simulates R (pure a : EStateM ε σ α) (pure a) :=
  fun _ _ h => ⟨rfl, h⟩

theorem simulates_throw (e : ε) :
    Simulates R (throw e : EStateM ε σ α) (throw e) :=
  fun _ _ h => ⟨rfl, h⟩

theorem simulates_ofExcept (r : Except ε α) :
    Simulates R (MonadExcept.ofExcept r : EStateM ε σ α) (MonadExcept.ofExcept r) := by
  cases r with
  | ok a => exact simulates_pure a
  | error e => exact simulates_throw e

/-- Two actions that agree wherever they start from related states. A strict comparison goes by
every answer of the first action, any other by those that are not failures. -/
def Agrees (strict : Prop) (R : σ → τ → Prop) (act : EStateM ε σ α) (other : EStateM ε τ α) :
    Prop :=
  ∀ s t, R s t → (strict ∨ ∃ a, answer act s = .ok a) →
    answer act s = answer other t ∧ R (after act s) (after other t)

variable {strict : Prop}

theorem agrees_true {act : EStateM ε σ α} {other : EStateM ε τ α} :
    Agrees True R act other ↔ Simulates R act other :=
  ⟨fun h s t hst => h s t hst (.inl trivial), fun h s t hst _ => h s t hst⟩

theorem Simulates.agrees {act : EStateM ε σ α} {other : EStateM ε τ α}
    (h : Simulates R act other) : Agrees strict R act other :=
  fun s t hst _ => h s t hst

theorem agrees_bind {act : EStateM ε σ α} {other : EStateM ε τ α} {next : α → EStateM ε σ β}
    {otherNext : α → EStateM ε τ β} (h : Agrees strict R act other)
    (hnext : ∀ a, Agrees strict R (next a) (otherNext a)) :
    Agrees strict R (act >>= next) (other >>= otherNext) := by
  intro s t hst hcounts
  rw [answer_bind] at hcounts
  have hfirst : strict ∨ ∃ a, answer act s = .ok a := by
    refine hcounts.imp_right fun ⟨b, hb⟩ => ?_
    obtain ⟨a, ha, _⟩ := except_bind_eq_ok.mp hb
    exact ⟨a, ha⟩
  obtain ⟨hanswer, hafter⟩ := h s t hst hfirst
  rw [answer_bind, answer_bind, after_bind, after_bind, ← hanswer]
  cases ha : answer act s with
  | ok a =>
    rw [ha] at hcounts
    exact hnext a _ _ hafter hcounts
  | error e => exact ⟨rfl, hafter⟩

theorem agrees_get {next : σ → EStateM ε σ β} {otherNext : τ → EStateM ε τ β}
    (h : ∀ s t, R s t → Agrees strict R (next s) (otherNext t)) :
    Agrees strict R (get >>= next) (get >>= otherNext) :=
  fun s t hst => h s t hst s t hst

theorem agrees_adaptExcept {act : EStateM ε σ α} {other : EStateM ε τ α} (f : ε → ε')
    (h : Agrees strict R act other) :
    Agrees strict R (EStateM.adaptExcept f act) (EStateM.adaptExcept f other) := by
  intro s t hst hcounts
  have hact : strict ∨ ∃ a, answer act s = .ok a := by
    refine hcounts.imp_right fun ⟨a, ha⟩ => ⟨a, ?_⟩
    exact answer_of_ok (adaptExcept_eq_ok (answer_eq_ok.mp ha))
  obtain ⟨hanswer, hafter⟩ := h s t hst hact
  simp only [answer_adaptExcept, after_adaptExcept, hanswer, hafter, and_self]

theorem agrees_ite {c : Prop} [Decidable c] {act act' : EStateM ε σ α}
    {other other' : EStateM ε τ α} (hthen : Agrees strict R act other)
    (helse : Agrees strict R act' other') :
    Agrees strict R (if c then act else act') (if c then other else other') := by
  split
  · exact hthen
  · exact helse

theorem agrees_unless {c : Prop} [Decidable c] (e : ε) {next : PUnit → EStateM ε σ α}
    {otherNext : PUnit → EStateM ε τ α} (h : Agrees strict R (next ()) (otherNext ())) :
    Agrees strict R (if c then throw e >>= next else next ())
      (if c then throw e >>= otherNext else otherNext ()) :=
  agrees_ite (fun _ _ hst _ => ⟨rfl, hst⟩) h

/-- Two answers under conditions: wherever the first is given the second is the same, and in a
strict comparison the second is refused only as the first is. -/
theorem guarded_eq {c c' : Prop} [Decidable c] [Decidable c'] {a a' : α} {e e' : ε}
    (hcounts : strict ∨ ∃ b, (if c then .ok a else .error e : Except ε α) = .ok b)
    (hgiven : c → c' ∧ a = a') (hrefused : strict → (c' → c) ∧ e = e') :
    (if c then .ok a else .error e : Except ε α) = if c' then .ok a' else .error e' := by
  by_cases hc : c
  · obtain ⟨hc', rfl⟩ := hgiven hc
    rw [if_pos hc, if_pos hc']
  · rw [if_neg hc] at hcounts
    obtain hstrict | ⟨_, hok⟩ := hcounts
    · obtain ⟨hback, rfl⟩ := hrefused hstrict
      rw [if_neg hc, if_neg fun hc' => hc (hback hc')]
    · cases hok

theorem simulates_bind {act : EStateM ε σ α} {other : EStateM ε τ α}
    {next : α → EStateM ε σ β} {otherNext : α → EStateM ε τ β}
    (h : Simulates R act other) (hnext : ∀ a, Simulates R (next a) (otherNext a)) :
    Simulates R (act >>= next) (other >>= otherNext) :=
  agrees_true.mp (agrees_bind h.agrees fun a => (hnext a).agrees)

theorem simulates_get {next : σ → EStateM ε σ β} {otherNext : τ → EStateM ε τ β}
    (h : ∀ s t, R s t → Simulates R (next s) (otherNext t)) :
    Simulates R (get >>= next) (get >>= otherNext) :=
  fun s t hst => h s t hst s t hst

theorem simulates_adaptExcept {act : EStateM ε σ α} {other : EStateM ε τ α} (f : ε → ε')
    (h : Simulates R act other) :
    Simulates R (EStateM.adaptExcept f act) (EStateM.adaptExcept f other) :=
  agrees_true.mp (agrees_adaptExcept f h.agrees)

theorem simulates_ite {c : Prop} [Decidable c] {act act' : EStateM ε σ α}
    {other other' : EStateM ε τ α} (hthen : Simulates R act other)
    (helse : Simulates R act' other') :
    Simulates R (if c then act else act') (if c then other else other') :=
  agrees_true.mp (agrees_ite hthen.agrees helse.agrees)

theorem simulates_unless {c : Prop} [Decidable c] (e : ε) {next : PUnit → EStateM ε σ α}
    {otherNext : PUnit → EStateM ε τ α} (h : Simulates R (next ()) (otherNext ())) :
    Simulates R (if c then throw e >>= next else next ())
      (if c then throw e >>= otherNext else otherNext ()) :=
  agrees_true.mp (agrees_unless e h.agrees)

/-- Simulation on equal states that share a property: the action keeps the property. -/
theorem simulates_self_iff {P : σ → Prop} {act : EStateM ε σ α} :
    Simulates (fun s t => s = t ∧ P s) act act ↔ ∀ s, P s → P (after act s) := by
  constructor
  · intro h s hs
    exact (h s s ⟨rfl, hs⟩).2.2
  · rintro h s _ ⟨rfl, hs⟩
    exact ⟨rfl, rfl, h s hs⟩

/-- An action whose answer depends on a view of the state only, and which leaves the view as it
was. -/
def Steady {ν : Type} (view : σ → ν) (act : EStateM ε σ α) : Prop :=
  ∀ v, Simulates (fun s t => view s = v ∧ view t = v) act act

theorem steady_of {ν : Type} {view : σ → ν} {act : EStateM ε σ α}
    (hanswer : ∀ s t, view s = view t → answer act s = answer act t)
    (hafter : ∀ s, view (after act s) = view s) : Steady view act := by
  rintro v s t ⟨rfl, ht⟩
  exact ⟨hanswer s t ht.symm, hafter s, (hafter t).trans ht⟩

theorem Steady.answer_eq {ν : Type} {view : σ → ν} {act : EStateM ε σ α} (h : Steady view act)
    {s t : σ} (hst : view s = view t) : answer act s = answer act t :=
  (h (view t) s t ⟨hst, rfl⟩).1

theorem Steady.view_after {ν : Type} {view : σ → ν} {act : EStateM ε σ α} (h : Steady view act)
    (s : σ) : view (after act s) = view s :=
  (h (view s) s s ⟨rfl, rfl⟩).2.1

theorem Steady.answer_bind {ν : Type} {view : σ → ν} {act : EStateM ε σ α}
    {next : α → EStateM ε σ β} {rest : α → Except ε β} {s t : σ} (h : Steady view act)
    (hnext : ∀ a t, view t = view s → answer (next a) t = rest a) (ht : view t = view s) :
    answer (act >>= next) t = answer act s >>= rest := by
  rw [TiffStrip.answer_bind, h.answer_eq ht]
  exact congrArg _ (funext fun a => hnext a _ ((h.view_after t).trans ht))

/-- A program that starts with a steady step whose answer is known. -/
theorem Steady.answer_next {ν : Type} {view : σ → ν} {act : EStateM ε σ α}
    {next : α → EStateM ε σ β} {s t : σ} {a : α} {r : Except ε β} (h : Steady view act)
    (ha : answer act s = .ok a) (hnext : ∀ t, view t = view s → answer (next a) t = r)
    (ht : view t = view s) : answer (act >>= next) t = r := by
  rw [TiffStrip.answer_bind, h.answer_eq ht, ha]
  exact hnext _ ((h.view_after t).trans ht)

end

end TiffStrip
