import Mathlib

/-! # What fits into a budget

Pieces are taken from the front of a list for as long as their sizes stay within a budget.
That gives the longest prefix that fits: a longer one would contain the first piece that
was refused. Where the piece that does not fit is cut, the pieces together are cut at the
budget.
-/

namespace Fitting

variable {α : Type} {size : α → ℕ} {budget : ℕ} {xs front : List α}

def fitting (size : α → ℕ) (budget : ℕ) : List α → List α
  | [] => []
  | x :: rest => if size x ≤ budget then x :: fitting size (budget - size x) rest else []

/-- A prefix within the budget that no other one exceeds. -/
structure LongestFitting (size : α → ℕ) (budget : ℕ) (xs front : List α) : Prop where
  isPrefix : front <+: xs
  fits : (front.map size).sum ≤ budget
  longest : ∀ other, other <+: xs → (other.map size).sum ≤ budget → other <+: front

theorem fitting_prefix (size : α → ℕ) (budget : ℕ) (xs : List α) :
    fitting size budget xs <+: xs := by
  induction xs generalizing budget with
  | nil => exact List.prefix_refl []
  | cons x rest ih =>
      unfold fitting
      split
      · exact List.cons_prefix_cons.mpr ⟨rfl, ih (budget - size x)⟩
      · exact List.nil_prefix

theorem sum_fitting_le (size : α → ℕ) (budget : ℕ) (xs : List α) :
    ((fitting size budget xs).map size).sum ≤ budget := by
  induction xs generalizing budget with
  | nil => exact Nat.zero_le budget
  | cons x rest ih =>
      unfold fitting
      split
      · have htail := ih (budget - size x)
        rw [List.map_cons, List.sum_cons]
        omega
      · exact Nat.zero_le budget

/-- Sizes are not negative, so a piece that was refused stays refused. -/
theorem prefix_fitting {other : List α} (hother : other <+: xs)
    (hfits : (other.map size).sum ≤ budget) : other <+: fitting size budget xs := by
  induction xs generalizing budget other with
  | nil => rwa [fitting]
  | cons x rest ih =>
      cases other with
      | nil => exact List.nil_prefix
      | cons y tail =>
          obtain ⟨rfl, htail⟩ := List.cons_prefix_cons.mp hother
          rw [List.map_cons, List.sum_cons] at hfits
          rw [fitting, if_pos (by omega)]
          exact List.cons_prefix_cons.mpr ⟨rfl, ih htail (by omega)⟩

theorem fitting_longest (size : α → ℕ) (budget : ℕ) (xs : List α) :
    LongestFitting size budget xs (fitting size budget xs) where
  isPrefix := fitting_prefix size budget xs
  fits := sum_fitting_le size budget xs
  longest := fun _ => prefix_fitting

theorem fitting_cons_of_le {x : α} (h : size x ≤ budget) :
    fitting size budget (x :: xs) = x :: fitting size (budget - size x) xs :=
  if_pos h

theorem fitting_cons_of_lt {x : α} (h : budget < size x) : fitting size budget (x :: xs) = [] :=
  if_neg (by omega)

/-! ## Cut pieces -/

/-- The pieces until the budget is used up, the last of them cut. -/
def cutTo (budget : ℕ) : List (List α) → List (List α)
  | [] => []
  | x :: rest => if budget = 0 then [] else x.take budget :: cutTo (budget - x.length) rest

theorem flatten_cutTo (budget : ℕ) (xs : List (List α)) :
    (cutTo budget xs).flatten = xs.flatten.take budget := by
  induction xs generalizing budget with
  | nil => simp [cutTo]
  | cons x rest ih =>
      rw [cutTo]
      split
      · next hzero => simp [hzero]
      · rw [List.flatten_cons, List.flatten_cons, ih, List.take_append]

/-- Each piece is the beginning of the one it was cut from. -/
theorem cutTo_prefixes (budget : ℕ) (xs : List (List α)) :
    ∃ front, front <+: xs ∧ List.Forall₂ (· <+: ·) (cutTo budget xs) front := by
  induction xs generalizing budget with
  | nil => exact ⟨[], List.nil_prefix, .nil⟩
  | cons x rest ih =>
      rw [cutTo]
      split
      · exact ⟨[], List.nil_prefix, .nil⟩
      · obtain ⟨front, hfront, hpieces⟩ := ih (budget - x.length)
        exact ⟨x :: front, List.cons_prefix_cons.mpr ⟨rfl, hfront⟩,
          .cons (List.take_prefix budget x) hpieces⟩

theorem ne_nil_of_mem_cutTo {budget : ℕ} {xs : List (List α)} (hxs : ∀ x ∈ xs, x ≠ [])
    {piece : List α} (h : piece ∈ cutTo budget xs) : piece ≠ [] := by
  induction xs generalizing budget with
  | nil => cases h
  | cons x rest ih =>
      rw [List.forall_mem_cons] at hxs
      rw [cutTo] at h
      split at h
      · cases h
      · next hbudget =>
          rcases List.mem_cons.mp h with rfl | h
          · rw [ne_eq, List.take_eq_nil_iff, not_or]
            exact ⟨hbudget, hxs.1⟩
          · exact ih hxs.2 h

end Fitting
