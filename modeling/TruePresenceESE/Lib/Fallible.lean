import Mathlib

/-! # Computations that can fail

A bind succeeds when both halves do, and a loop that succeeds took only
successful steps: what each of them preserves, the loop preserves.
-/

namespace Fallible

theorem bind_eq_ok_iff {ε α β : Type} {x : Except ε α} {f : α → Except ε β} {b : β} :
    (x >>= f) = .ok b ↔ ∃ a, x = .ok a ∧ f a = .ok b := by
  cases x with
  | error e => simp [bind, Except.bind]
  | ok a => simp [bind, Except.bind]

theorem map_eq_ok_iff {ε α β : Type} {x : Except ε α} {f : α → β} {b : β} :
    x.map f = .ok b ↔ ∃ a, x = .ok a ∧ f a = b := by
  cases x with
  | error e => simp [Except.map]
  | ok a => simp [Except.map]

/-- A loop whose steps all succeed collects a result of each. -/
theorem exists_mapM_eq_ok {ε α β : Type} {f : α → Except ε β} {xs : List α}
    (h : ∀ x ∈ xs, ∃ y, f x = .ok y) :
    ∃ ys, xs.mapM f = .ok ys ∧ ∀ x ∈ xs, ∃ y ∈ ys, f x = .ok y := by
  induction xs with
  | nil => exact ⟨[], rfl, by simp⟩
  | cons x xs ih =>
      rw [List.forall_mem_cons] at h
      obtain ⟨⟨y, hy⟩, hrest⟩ := h
      obtain ⟨ys, hys, hall⟩ := ih hrest
      refine ⟨y :: ys, ?_, List.forall_mem_cons.mpr ⟨⟨y, List.mem_cons_self, hy⟩, ?_⟩⟩
      · rw [List.mapM_cons, hy, hys]
        rfl
      · intro z hz
        obtain ⟨w, hw, hf⟩ := hall z hz
        exact ⟨w, List.mem_cons_of_mem y hw, hf⟩

theorem forall₂_of_mapM_ok {ε α β : Type} {f : α → Except ε β} {xs : List α} {ys : List β}
    (h : xs.mapM f = .ok ys) : List.Forall₂ (fun x y => f x = .ok y) xs ys := by
  induction xs generalizing ys with
  | nil =>
      cases h
      exact .nil
  | cons x xs ih =>
      rw [List.mapM_cons] at h
      obtain ⟨y, hy, h⟩ := bind_eq_ok_iff.mp h
      obtain ⟨rest, hrest, h⟩ := bind_eq_ok_iff.mp h
      cases h
      exact .cons hy (ih hrest)

/-- A loop that fails does so at one of its steps. -/
theorem exists_of_mapM_error {ε α β : Type} {f : α → Except ε β} {xs : List α} {e : ε}
    (h : xs.mapM f = .error e) : ∃ x ∈ xs, f x = .error e := by
  induction xs with
  | nil => cases h
  | cons x xs ih =>
      rw [List.mapM_cons] at h
      cases hx : f x with
      | error e' =>
          rw [hx] at h
          cases h
          exact ⟨x, List.mem_cons_self, hx⟩
      | ok y =>
          rw [hx] at h
          cases hrest : xs.mapM f with
          | error e' =>
              rw [hrest] at h
              cases h
              obtain ⟨z, hz, hfail⟩ := ih hrest
              exact ⟨z, List.mem_cons_of_mem x hz, hfail⟩
          | ok ys =>
              rw [hrest] at h
              cases h

/-- Each result of a loop is that of a step. -/
theorem exists_of_mem_mapM {ε α β : Type} {f : α → Except ε β} {xs : List α} {ys : List β}
    (h : xs.mapM f = .ok ys) {y : β} (hy : y ∈ ys) : ∃ x ∈ xs, f x = .ok y := by
  have hall := forall₂_of_mapM_ok h
  clear h
  induction hall with
  | nil => cases hy
  | @cons x y' xs ys hx _ ih =>
      rcases List.mem_cons.mp hy with rfl | hrest
      · exact ⟨x, List.mem_cons_self, hx⟩
      · obtain ⟨z, hz, hfz⟩ := ih hrest
        exact ⟨z, List.mem_cons_of_mem x hz, hfz⟩

/-- A loop over a list with another element in one place has another result in
that place. -/
theorem mapM_replace {ε α β : Type} {f : α → Except ε β} {front back : List α} {x : α} {y : β}
    {ys : List β} (h : (front ++ x :: back).mapM f = .ok ys) (hx : f x = .ok y) :
    ∃ ysFront ysBack, ys = ysFront ++ y :: ysBack ∧
      ∀ x' y', f x' = .ok y' → (front ++ x' :: back).mapM f = .ok (ysFront ++ y' :: ysBack) := by
  rw [List.mapM_append] at h
  obtain ⟨ysFront, hfront, h⟩ := bind_eq_ok_iff.mp h
  obtain ⟨rest, hrest, h⟩ := bind_eq_ok_iff.mp h
  cases h
  rw [List.mapM_cons, hx] at hrest
  obtain ⟨y', hy', hrest⟩ := bind_eq_ok_iff.mp hrest
  obtain ⟨ysBack, hback, hrest⟩ := bind_eq_ok_iff.mp hrest
  cases hy'
  cases hrest
  refine ⟨ysFront, ysBack, rfl, fun x' y' hx' => ?_⟩
  rw [List.mapM_append, hfront, List.mapM_cons, hx', hback]
  rfl

theorem mapM_congr {ε α β : Type} {f g : α → Except ε β} {xs : List α}
    (h : ∀ x ∈ xs, f x = g x) : xs.mapM f = xs.mapM g := by
  induction xs with
  | nil => rfl
  | cons x xs ih =>
      rw [List.forall_mem_cons] at h
      rw [List.mapM_cons, List.mapM_cons, h.1, ih h.2]

/-- Each element of a loop that succeeds has a result. -/
theorem exists_result_of_mapM {ε α β : Type} {f : α → Except ε β} {xs : List α} {ys : List β}
    (h : xs.mapM f = .ok ys) {x : α} (hx : x ∈ xs) : ∃ y ∈ ys, f x = .ok y := by
  have hall := forall₂_of_mapM_ok h
  clear h
  induction hall with
  | nil => cases hx
  | @cons x' y xs ys hy _ ih =>
      cases List.mem_cons.mp hx with
      | inl heq => exact ⟨y, List.mem_cons_self, heq ▸ hy⟩
      | inr hrest =>
          obtain ⟨z, hz, hfz⟩ := ih hrest
          exact ⟨z, List.mem_cons_of_mem y hz, hfz⟩

/-! ## Other errors -/

theorem mapError_eq_ok_iff {ε ε' α : Type} {x : Except ε α} {f : ε → ε'} {a : α} :
    x.mapError f = .ok a ↔ x = .ok a := by
  cases x with
  | error e => simp [Except.mapError]
  | ok b => simp [Except.mapError]

theorem mapError_eq_error_iff {ε ε' α : Type} {x : Except ε α} {f : ε → ε'} {e' : ε'} :
    x.mapError f = .error e' ↔ ∃ e, x = .error e ∧ f e = e' := by
  cases x with
  | error e => simp [Except.mapError]
  | ok a => simp [Except.mapError]

/-! ## Loops that may end without a value -/

theorem foldlM_invariant {α M : Type} {step : M → α → Option M} {P : M → Prop} {xs : List α}
    {init out : M} (hstep : ∀ x ∈ xs, ∀ {m m'}, step m x = some m' → P m → P m')
    (h : xs.foldlM step init = some out) (hinit : P init) : P out := by
  induction xs generalizing init with
  | nil =>
      cases h
      exact hinit
  | cons x xs ih =>
      rw [List.foldlM_cons] at h
      obtain ⟨m, hm, hrest⟩ := Option.bind_eq_some_iff.mp h
      exact ih (fun y hy => hstep y (List.mem_cons_of_mem x hy)) hrest
        (hstep x List.mem_cons_self hm hinit)

/-- Each element of a loop that succeeds is a step that succeeds. -/
theorem foldlM_each {α M : Type} {step : M → α → Option M} {xs : List α} {init out : M}
    (h : xs.foldlM step init = some out) : ∀ x ∈ xs, ∃ m m', step m x = some m' := by
  induction xs generalizing init with
  | nil => simp
  | cons x xs ih =>
      rw [List.foldlM_cons] at h
      obtain ⟨m, hm, hrest⟩ := Option.bind_eq_some_iff.mp h
      rw [List.forall_mem_cons]
      exact ⟨⟨init, m, hm⟩, ih hrest⟩

theorem toOption_eq_some_iff {ε α : Type} {x : Except ε α} {a : α} :
    x.toOption = some a ↔ x = .ok a := by
  cases x with
  | error e => simp [Except.toOption]
  | ok b => simp [Except.toOption]

theorem mapM_cons_eq_ok_iff {ε α β : Type} {f : α → Except ε β} {x : α} {xs : List α} {y : β}
    {ys : List β} :
    (x :: xs).mapM f = .ok (y :: ys) ↔ f x = .ok y ∧ xs.mapM f = .ok ys := by
  rw [List.mapM_cons, bind_eq_ok_iff]
  constructor
  · rintro ⟨y', hy, h⟩
    obtain ⟨ys', hys, h⟩ := bind_eq_ok_iff.mp h
    cases h
    exact ⟨hy, hys⟩
  · rintro ⟨hy, hys⟩
    refine ⟨y, hy, ?_⟩
    rw [hys]
    rfl

/-- A loop can be repeated over its results if each of its steps can. -/
theorem mapM_zipIdx_repeat_iff {ε α : Type} {f : α → ℕ → Except ε α} {items outs : List α}
    {first : ℕ} (h : (items.zipIdx first).mapM (fun p => f p.1 p.2) = .ok outs) :
    (outs.zipIdx first).mapM (fun p => f p.1 p.2) = .ok outs ↔
      ∀ p ∈ items.zipIdx first, ∀ out, f p.1 p.2 = .ok out → f out p.2 = .ok out := by
  induction items generalizing first outs with
  | nil =>
      cases h
      exact ⟨fun _ => nofun, fun _ => rfl⟩
  | cons item rest ih =>
      rw [List.zipIdx_cons, List.mapM_cons] at h
      obtain ⟨out, hout, h⟩ := bind_eq_ok_iff.mp h
      obtain ⟨outs', houts, h⟩ := bind_eq_ok_iff.mp h
      cases h
      rw [List.zipIdx_cons, List.zipIdx_cons, mapM_cons_eq_ok_iff, List.forall_mem_cons, ih houts]
      refine and_congr_left' ⟨fun hfixed out' hout' => ?_, fun hfixed => hfixed out hout⟩
      rw [hout] at hout'
      cases hout'
      exact hfixed

end Fallible
