import Mathlib

/-! # Facts on lists

What collecting loops leave: the members that are kept, how many of them there are, and
which of them are counted.
-/

namespace Lists

theorem flatMap_reduceOption {α β : Type} (f : α → List β) (xs : List (Option α)) :
    xs.reduceOption.flatMap f = xs.flatMap fun x => x.elim [] f := by
  induction xs with
  | nil => rfl
  | cons x rest ih =>
      cases x with
      | none => rw [List.reduceOption_cons_of_none, ih, List.flatMap_cons, Option.elim_none,
          List.nil_append]
      | some x => rw [List.reduceOption_cons_of_some, List.flatMap_cons, ih, List.flatMap_cons,
          Option.elim_some]

/-- Counts of a stronger and a weaker test. -/
theorem countP_eq_countP_iff {α : Type} {p q : α → Bool} (h : ∀ a, p a = true → q a = true)
    (xs : List α) : xs.countP q = xs.countP p ↔ ∀ a ∈ xs, q a = true → p a = true := by
  induction xs with
  | nil => simp
  | cons x rest ih =>
      have hle := List.countP_mono_left (l := rest) fun a _ => h a
      rw [List.forall_mem_cons, ← ih, List.countP_cons, List.countP_cons]
      cases hp : p x with
      | true => simp [h x hp]
      | false =>
          cases hq : q x with
          | true =>
              simp
              omega
          | false => simp

theorem length_dedup_eq_iff {α : Type} [DecidableEq α] (xs : List α) :
    xs.dedup.length = xs.length ↔ xs.Nodup := by
  constructor
  · intro h
    rw [← List.dedup_eq_self]
    exact (List.dedup_sublist xs).eq_of_length h
  · intro h
    rw [h.dedup]

theorem length_dedup_append {α : Type} [DecidableEq α] (xs ys : List α) :
    (xs ++ ys).dedup.length = xs.dedup.length + (ys.filter (· ∉ xs)).dedup.length := by
  rw [← List.card_toFinset, ← List.card_toFinset, ← List.card_toFinset, List.toFinset_append]
  have hfilter : (ys.filter (· ∉ xs)).toFinset = ys.toFinset \ xs.toFinset := by
    ext y
    simp
  rw [hfilter, Finset.union_comm, ← Finset.card_sdiff_add_card, add_comm]

theorem lookup_filterMap_pair {α β : Type} [DecidableEq α] (f : α → Option β) (xs : List α)
    (x : α) : (xs.filterMap fun a => (f a).map (a, ·)).lookup x = if x ∈ xs then f x else none := by
  induction xs with
  | nil => rfl
  | cons a xs ih =>
      rw [List.filterMap_cons]
      cases hfa : f a with
      | none =>
          by_cases hxa : x = a
          · subst hxa
            simp [ih, hfa]
          · simp [ih, hxa]
      | some b =>
          by_cases hxa : x = a
          · subst hxa
            simp [hfa]
          · have hne : (x == a) = false := beq_eq_false_iff_ne.mpr hxa
            simp [ih, hxa, List.lookup_cons, hne]

theorem mem_foldl_new {α : Type} [BEq α] [LawfulBEq α] {x : α} (kept xs : List α) :
    x ∈ xs.foldl (fun kept y => if y ∈ kept then kept else kept ++ [y]) kept ↔ x ∈ kept ∨ x ∈ xs := by
  induction xs generalizing kept with
  | nil => simp
  | cons y ys ih =>
      rw [List.foldl_cons, ih]
      by_cases hy : y ∈ kept
      · rw [if_pos hy, List.mem_cons]
        constructor
        · rintro (hk | hys)
          · exact .inl hk
          · exact .inr (.inr hys)
        · rintro (hk | rfl | hys)
          · exact .inl hk
          · exact .inl hy
          · exact .inr hys
      · rw [if_neg hy, List.mem_append, List.mem_singleton, List.mem_cons, or_assoc]

theorem head?_of_idxOf_eq_zero {names : List String} {name : String} (hmem : name ∈ names)
    (h : names.idxOf name = 0) : names.head? = some name := by
  cases names with
  | nil => cases hmem
  | cons first rest =>
      by_cases heq : first = name
      · rw [heq]
        rfl
      · rw [List.idxOf_cons_ne _ heq] at h
        contradiction

end Lists
