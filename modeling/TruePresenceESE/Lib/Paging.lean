import Mathlib.Data.List.Basic

/-! # Listings in pages

A service hands out a long listing page by page, each page with the link to the next. A
reader follows the links and takes the values one by one into its state; it may have to stop
at a value, and no link is known to lead to an end.
-/

namespace Paging

variable {κ α ε σ : Type}

structure Page (κ α : Type) where
  value : List α
  next : Option κ

/-- The listing that starts at a link comes in so many pages. -/
inductive Serves (fetch : κ → Except ε (Page κ α)) : ℕ → κ → List α → Prop
  | last {link : κ} {value : List α} :
      fetch link = .ok ⟨value, none⟩ → Serves fetch 1 link value
  | more {n : ℕ} {link next : κ} {value rest : List α} :
      fetch link = .ok ⟨value, some next⟩ → Serves fetch n next rest →
        Serves fetch (n + 1) link (value ++ rest)

/-- Values are taken in turn; a step says whether it has to stop, or does not come to an end. -/
def takeValues (step : σ → α → Option (σ × Bool)) : σ → List α → Option (σ × Bool)
  | s, [] => some (s, false)
  | s, x :: xs =>
      match step s x with
      | none => none
      | some (s', true) => some (s', true)
      | some (s', false) => takeValues step s' xs

/-- The pages from a link on, as many as there is fuel for. A failing request ends the loop. -/
def readPages (fetch : κ → Except ε (Page κ α)) (step : σ → α → Option (σ × Bool)) :
    ℕ → Option κ → σ → Option σ
  | _, none, s => some s
  | 0, some _, _ => none
  | fuel + 1, some link, s =>
      match fetch link with
      | .error _ => some s
      | .ok page =>
          match takeValues step s page.value with
          | none => none
          | some (s', true) => some s'
          | some (s', false) => readPages fetch step fuel page.next s'

theorem takeValues_append {step : σ → α → Option (σ × Bool)} {s : σ} {xs ys : List α} :
    takeValues step s (xs ++ ys) =
      match takeValues step s xs with
      | none => none
      | some (s', true) => some (s', true)
      | some (s', false) => takeValues step s' ys := by
  induction xs generalizing s with
  | nil => rfl
  | cons x xs ih =>
      rw [List.cons_append, takeValues, takeValues]
      cases step s x with
      | none => rfl
      | some next =>
          obtain ⟨s', stop⟩ := next
          cases stop with
          | true => rfl
          | false => exact ih

/-- Reading a listing is taking its values, however they are split into pages. -/
theorem readPages_of_serves {fetch : κ → Except ε (Page κ α)} {step : σ → α → Option (σ × Bool)}
    {n fuel : ℕ} {link : κ} {values : List α} {s s' : σ} {stop : Bool}
    (h : Serves fetch n link values) (hfuel : n ≤ fuel)
    (htake : takeValues step s values = some (s', stop)) :
    readPages fetch step fuel (some link) s = some s' := by
  induction h generalizing fuel s with
  | @last link value hfetch =>
      obtain ⟨fuel, rfl⟩ := Nat.exists_eq_add_of_le' hfuel
      rw [readPages, hfetch]
      dsimp only
      rw [htake]
      cases stop with
      | true => rfl
      | false => exact readPages.eq_1 _ _ _ _
  | @more n link next value rest hfetch _ ih =>
      obtain ⟨fuel, rfl⟩ := Nat.exists_eq_add_of_le' (Nat.le_of_add_left_le hfuel)
      rw [takeValues_append] at htake
      rw [readPages, hfetch]
      dsimp only
      cases hvalue : takeValues step s value with
      | none =>
          rw [hvalue] at htake
          cases htake
      | some middle =>
          obtain ⟨t, stopped⟩ := middle
          rw [hvalue] at htake
          cases stopped with
          | true =>
              cases htake
              rfl
          | false => exact ih (Nat.le_of_succ_le_succ hfuel) htake

end Paging
