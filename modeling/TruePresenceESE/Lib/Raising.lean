import Mathlib

/-! # Methods that may raise

A method updates the state of its object step by step. When a step raises, the method is
left and the object keeps what the steps before it wrote.
-/

abbrev Raising (σ ε α : Type) := ExceptT ε (StateM σ) α

namespace Raising

variable {σ ε α β γ : Type}

/-- What the method returns or raises, and the state that it leaves. -/
def outcome (m : Raising σ ε α) (s : σ) : Except ε α × σ := StateT.run (ExceptT.run m) s

/-- A step that only computes. -/
def attempt (x : Except ε α) : Raising σ ε α := ExceptT.mk (pure x)

/-- A step that writes and does not raise. -/
def update (f : σ → α × σ) : Raising σ ε α := ExceptT.mk fun s => ((Except.ok (f s).1, (f s).2) : _)

section
variable {m : Raising σ ε α} {f : α → Raising σ ε β} {s s' : σ} {a : α} {b : β} {e : ε}

@[simp] theorem outcome_pure (a : α) (s : σ) :
    outcome (pure a : Raising σ ε α) s = (.ok a, s) :=
  rfl

@[simp] theorem outcome_attempt (x : Except ε α) (s : σ) :
    outcome (attempt x : Raising σ ε α) s = (x, s) :=
  rfl

@[simp] theorem outcome_update (g : σ → α × σ) (s : σ) :
    outcome (update g : Raising σ ε α) s = (.ok (g s).1, (g s).2) :=
  rfl

theorem outcome_bind (m : Raising σ ε α) (f : α → Raising σ ε β) (s : σ) :
    outcome (m >>= f) s =
      match outcome m s with
      | (.ok a, s') => outcome (f a) s'
      | (.error e, s') => (.error e, s') := by
  unfold outcome
  simp only [ExceptT.run_bind, StateT.run_bind]
  rcases StateT.run (ExceptT.run m) s with ⟨result, s'⟩
  cases result with
  | error e => rfl
  | ok a => rfl

theorem outcome_bind_ok (h : outcome m s = (.ok a, s')) : outcome (m >>= f) s = outcome (f a) s' := by
  rw [outcome_bind, h]

theorem outcome_bind_error (h : outcome m s = (.error e, s')) :
    outcome (m >>= f) s = (.error e, s') := by
  rw [outcome_bind, h]

/-- A last step that only computes. -/
theorem outcome_attempt_bind_pure (x : Except ε α) (g : α → β) (s : σ) :
    outcome (attempt x >>= fun a => pure (g a)) s = (x.map g, s) := by
  rw [outcome_bind, outcome_attempt]
  cases x with
  | error e => rfl
  | ok a => rfl

/-- A method returns when each of its steps does. -/
theorem outcome_bind_eq_ok_iff :
    outcome (m >>= f) s = (.ok b, s') ↔
      ∃ a mid, outcome m s = (.ok a, mid) ∧ outcome (f a) mid = (.ok b, s') := by
  rcases h : outcome m s with ⟨result, mid⟩
  cases result with
  | error e =>
      rw [outcome_bind_error h]
      simp
  | ok a =>
      rw [outcome_bind_ok h]
      simp

theorem outcome_attempt_bind_eq_ok_iff {x : Except ε α} :
    outcome (attempt x >>= f) s = (.ok b, s') ↔ ∃ a, x = .ok a ∧ outcome (f a) s = (.ok b, s') := by
  rw [outcome_bind, outcome_attempt]
  cases x with
  | error e => simp
  | ok a => simp

end

/-! ## Two runs -/

/-- Both return related values, or both raise the same. -/
inductive SameResult (same : α → β → Prop) : Except ε α → Except ε β → Prop where
  | ok {a : α} {b : β} (h : same a b) : SameResult same (.ok a) (.ok b)
  | error (e : ε) : SameResult same (.error e) (.error e)

/-- From related states to related results and states. -/
def Related (states : σ → σ → Prop) (same : α → β → Prop) (m : Raising σ ε α)
    (n : Raising σ ε β) : Prop :=
  ∀ s t, states s t →
    SameResult same (outcome m s).1 (outcome n t).1 ∧ states (outcome m s).2 (outcome n t).2

section
variable {states : σ → σ → Prop} {α' β' : Type} {same : α → α' → Prop} {same' : β → β' → Prop}
  {m : Raising σ ε α} {n : Raising σ ε α'} {f : α → Raising σ ε β} {g : α' → Raising σ ε β'}

theorem Related.bind (h : Related states same m n)
    (hrest : ∀ a b, same a b → Related states same' (f a) (g b)) :
    Related states same' (m >>= f) (n >>= g) := by
  intro s t hst
  obtain ⟨hresult, hstates⟩ := h s t hst
  rcases hleft : outcome m s with ⟨left, s'⟩
  rcases hright : outcome n t with ⟨right, t'⟩
  rw [hleft, hright] at hresult hstates
  cases hresult with
  | ok hsame =>
      rw [outcome_bind_ok hleft, outcome_bind_ok hright]
      exact hrest _ _ hsame s' t' hstates
  | error e =>
      rw [outcome_bind_error hleft, outcome_bind_error hright]
      exact ⟨.error e, hstates⟩

theorem Related.pure {a : α} {b : α'} (h : same a b) :
    Related states same (pure a : Raising σ ε α) (pure b) :=
  fun _ _ hst => ⟨.ok h, hst⟩

theorem Related.attempt {x : Except ε α} {y : Except ε α'} (h : SameResult same x y) :
    Related states same (attempt x) (attempt y) :=
  fun _ _ hst => ⟨h, hst⟩

theorem Related.update {a : σ → α × σ} {b : σ → α' × σ}
    (h : ∀ s t, states s t → same (a s).1 (b t).1 ∧ states (a s).2 (b t).2) :
    Related states same (update a : Raising σ ε α) (update b) :=
  fun s t hst => ⟨.ok (h s t hst).1, (h s t hst).2⟩

theorem SameResult.rfl {x : Except ε α} : SameResult Eq x x := by
  cases x with
  | ok a => exact .ok (Eq.refl a)
  | error e => exact .error e

theorem SameResult.bind {x : Except ε α} {y : Except ε α'} {p : α → Except ε β}
    {q : α' → Except ε β'} (h : SameResult same x y)
    (hrest : ∀ a b, same a b → SameResult same' (p a) (q b)) :
    SameResult same' (x >>= p) (y >>= q) := by
  cases h with
  | ok hsame => exact hrest _ _ hsame
  | error e => exact .error e

theorem SameResult.map_eq {f : α → γ} {g : α' → γ} {x : Except ε α} {y : Except ε α'}
    (h : SameResult same x y) (heq : ∀ a b, same a b → f a = g b) : x.map f = y.map g := by
  cases h with
  | ok hsame => exact congrArg Except.ok (heq _ _ hsame)
  | error e => exact Eq.refl _

end

end Raising
