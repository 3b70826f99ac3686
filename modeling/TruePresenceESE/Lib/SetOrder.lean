import Mathlib

/-! # Going through a set

A set is gone through in an order of its own, which its members do not determine. Sorting by
a key leaves the order open only among members with one key, so the first one that passes a
test is greatest among those that do.
-/

structure SetOrder (α : Type) [DecidableEq α] where
  members : List α → List α
  perm : ∀ xs, (members xs).Perm xs.dedup

namespace SetOrder

variable {α : Type} [DecidableEq α] (order : SetOrder α)

/-- The members in the order in which they were added last. -/
def plain : SetOrder α := ⟨List.dedup, fun _ => List.Perm.refl _⟩

@[simp] theorem mem_members {xs : List α} {x : α} : x ∈ order.members xs ↔ x ∈ xs := by
  rw [(order.perm xs).mem_iff, List.mem_dedup]

theorem nodup_members (xs : List α) : (order.members xs).Nodup :=
  (order.perm xs).nodup_iff.mpr (List.nodup_dedup xs)

end SetOrder

namespace Sorting

variable {α β : Type} [LinearOrder β] {key : α → β} {p : α → Bool} {xs : List α} {c : α}

/-- `sorted(xs, key=key)` -/
def sortedBy (key : α → β) (xs : List α) : List α := xs.insertionSort fun a b => key a ≤ key b

/-- `sorted(xs, key=key, reverse=True)` -/
def sortedDown (key : α → β) (xs : List α) : List α := xs.insertionSort fun a b => key b ≤ key a

@[simp] theorem mem_sortedBy {x : α} : x ∈ sortedBy key xs ↔ x ∈ xs := List.mem_insertionSort _

@[simp] theorem mem_sortedDown {x : α} : x ∈ sortedDown key xs ↔ x ∈ xs := List.mem_insertionSort _

theorem pairwise_sortedDown (key : α → β) (xs : List α) :
    (sortedDown key xs).Pairwise fun a b => key b ≤ key a := by
  have : IsTrans α fun a b => key b ≤ key a := ⟨fun _ _ _ hab hbc => hbc.trans hab⟩
  have : Std.Total fun a b => key b ≤ key a := ⟨fun _ _ => le_total _ _⟩
  exact List.pairwise_insertionSort _ xs

/-- The first member of a falling list that passes a test is not exceeded by another one. -/
theorem le_of_find?_eq_some (hsorted : xs.Pairwise fun a b => key b ≤ key a)
    (h : xs.find? p = some c) : ∀ x ∈ xs, p x = true → key x ≤ key c := by
  obtain ⟨-, front, back, rfl, hfront⟩ := List.find?_eq_some_iff_append.mp h
  intro x hx hpx
  rcases List.mem_append.mp hx with hx | hx
  · have hfails := hfront x hx
    rw [hpx] at hfails
    contradiction
  · rcases List.mem_cons.mp hx with rfl | hx
    · exact le_refl _
    · exact (List.pairwise_cons.mp (List.pairwise_append.mp hsorted).2.1).1 x hx

theorem greatest_of_find?_sortedDown (h : (sortedDown key xs).find? p = some c) :
    c ∈ xs ∧ p c = true ∧ ∀ x ∈ xs, p x = true → key x ≤ key c := by
  refine ⟨mem_sortedDown.mp (List.mem_of_find?_eq_some h), List.find?_some h, fun x hx hpx => ?_⟩
  exact le_of_find?_eq_some (pairwise_sortedDown key xs) h x (mem_sortedDown.mpr hx) hpx

end Sorting
