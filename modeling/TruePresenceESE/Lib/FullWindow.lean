import TruePresenceESE.Lib.Window

/-! # Writes that change nothing

A window changes when something is pushed into it, unless it is full of just that. Pruning
changes it where its oldest item is old.
-/

namespace Window

variable {α τ : Type*} [LinearOrder τ] {time : α → τ} {cutoff cutoff' : τ} {bound : ℕ}
  {window : List α} {x : α}

theorem prune_suffix (time : α → τ) (cutoff : τ) (window : List α) :
    prune time cutoff window <:+ window :=
  List.dropWhile_suffix _

/-- The oldest item is recent enough. -/
def Fresh (time : α → τ) (cutoff : τ) (window : List α) : Prop :=
  ∀ y ∈ window.head?, cutoff ≤ time y

theorem prune_eq_self_iff : prune time cutoff window = window ↔ Fresh time cutoff window := by
  cases window with
  | nil => simp [prune, Fresh]
  | cons y rest =>
      rw [prune, Fresh, List.head?_cons]
      by_cases hold : time y < cutoff
      · rw [List.dropWhile_cons_of_pos (by simpa using hold)]
        refine iff_of_false (fun h => ?_) fun h => not_le.mpr hold (h y rfl)
        have hle := (List.dropWhile_suffix (fun z => decide (time z < cutoff)) (l := rest)).length_le
        rw [h, List.length_cons] at hle
        omega
      · rw [List.dropWhile_cons_of_neg (by simpa using hold)]
        refine iff_of_true rfl fun z hz => ?_
        cases hz
        exact not_lt.mp hold

theorem fresh_prune (time : α → τ) (cutoff : τ) (window : List α) :
    Fresh time cutoff (prune time cutoff window) :=
  prune_eq_self_iff.mp (prune_prune le_rfl window)

/-- Pruning takes nothing away that is recent enough. -/
theorem count_prune [DecidableEq α] (hx : cutoff ≤ time x) (window : List α) :
    (prune time cutoff window).count x = window.count x := by
  induction window with
  | nil => rfl
  | cons y rest ih =>
      rw [prune]
      by_cases hold : time y < cutoff
      · have hne : y ≠ x := fun heq => not_le.mpr hold (heq ▸ hx)
        rw [List.dropWhile_cons_of_pos (by simpa using hold), List.count_cons_of_ne hne]
        exact ih
      · rw [List.dropWhile_cons_of_neg (by simpa using hold)]

theorem length_push_le (bound : ℕ) (window : List α) (x : α) :
    (push bound window x).length ≤ bound := by
  rw [push, List.rtake, List.length_drop]
  omega

theorem push_of_length_lt (h : window.length < bound) : push bound window x = window ++ [x] := by
  have hdrop : (window ++ [x]).length - bound = 0 := by
    rw [List.length_append, List.length_singleton]
    omega
  rw [push, List.rtake, hdrop, List.drop_zero]

theorem eq_replicate_of_tail_append (h : window.tail ++ [x] = window) :
    window = List.replicate window.length x := by
  induction window with
  | nil => cases h
  | cons y rest ih =>
      cases rest with
      | nil =>
          cases h
          rfl
      | cons z rest =>
          rw [List.tail_cons, List.cons_append] at h
          obtain ⟨rfl, hrest⟩ := List.cons.inj h
          have hreplicate := ih hrest
          have hz : z = x := List.eq_of_mem_replicate (hreplicate ▸ List.mem_cons_self)
          rw [List.length_cons, List.replicate_succ, ← hreplicate, hz]

theorem push_replicate (bound : ℕ) (x : α) :
    push bound (List.replicate bound x) x = List.replicate bound x := by
  rw [push, List.rtake, ← List.replicate_succ', List.drop_replicate, List.length_replicate]
  congr 1
  omega

theorem push_eq_self_iff (hbound : 0 < bound) :
    push bound window x = window ↔ window = List.replicate bound x := by
  constructor
  · intro h
    have hle := length_push_le bound window x
    rw [h] at hle
    have hlength : window.length = bound := by
      by_contra hne
      rw [push_of_length_lt (lt_of_le_of_ne hle hne)] at h
      have hlonger := congrArg List.length h
      rw [List.length_append, List.length_singleton] at hlonger
      omega
    have htail : window.tail ++ [x] = window := by
      rw [push, List.rtake, List.length_append, List.length_singleton, hlength,
        Nat.add_sub_cancel_left, List.drop_append_of_le_length (by omega), List.drop_one] at h
      exact h
    rw [← hlength]
    exact eq_replicate_of_tail_append htail
  · rintro rfl
    exact push_replicate bound x

theorem fresh_replicate (bound : ℕ) (hx : cutoff ≤ time x) :
    Fresh time cutoff (List.replicate bound x) := by
  intro y hy
  rw [List.eq_of_mem_replicate (List.mem_of_mem_head? hy)]
  exact hx

/-- A write of a recent item is not seen exactly where the window is full of that item. -/
theorem prune_push_eq_self_iff (hbound : 0 < bound) (hx : cutoff ≤ time x) :
    prune time cutoff (push bound window x) = window ↔ window = List.replicate bound x := by
  classical
  constructor
  · intro h
    have hsuffix := prune_suffix time cutoff (push bound window x)
    have hle := hsuffix.length_le
    have hbounded := length_push_le bound window x
    by_cases hlt : window.length < bound
    · have hcount := congrArg (List.count x) h
      rw [count_prune hx, push_of_length_lt hlt, List.count_append,
        List.count_singleton_self] at hcount
      omega
    · rw [h] at hle
      have hpushed := hsuffix.eq_of_length (by rw [h]; omega)
      rw [h] at hpushed
      exact (push_eq_self_iff hbound).mp hpushed.symm
  · rintro rfl
    rw [push_replicate, prune_eq_self_iff]
    exact fresh_replicate bound hx

/-- The same of a write into a window that was pruned before. -/
theorem prune_push_prune_eq_self_iff (hbound : 0 < bound) (hx : cutoff ≤ time x)
    (hx' : cutoff' ≤ time x) :
    prune time cutoff (push bound (prune time cutoff' window) x) = window ↔
      window = List.replicate bound x := by
  classical
  constructor
  · intro h
    have hle := (prune_suffix time cutoff (push bound (prune time cutoff' window) x)).length_le
    have hbounded := length_push_le bound (prune time cutoff' window) x
    have hinner := (prune_suffix time cutoff' window).length_le
    by_cases hlt : (prune time cutoff' window).length < bound
    · have hcount := congrArg (List.count x) h
      rw [count_prune hx, push_of_length_lt hlt, List.count_append, count_prune hx',
        List.count_singleton_self] at hcount
      omega
    · rw [h] at hle
      have hwhole := (prune_suffix time cutoff' window).eq_of_length (by omega)
      rw [hwhole] at h
      exact (prune_push_eq_self_iff hbound hx).mp h
  · rintro rfl
    rw [prune_eq_self_iff.mpr (fresh_replicate bound hx')]
    exact (prune_push_eq_self_iff hbound hx).mpr rfl

end Window
