import Mathlib

/-! # Probabilistic OR over an ordered field

`noisyOr xs` is the strength of several independent pieces of evidence taken
together: the complement of the product of their complements. Every element is
clamped into the unit interval first, so the operation is total, bounded,
permutation invariant and monotone with no premise on its inputs.
-/

namespace NoisyOr

variable {K : Type*} [Field K] [LinearOrder K]

/-! ## Definitions -/

def clamp (x : K) : K := max 0 (min 1 x)

/-- What is left after every piece of evidence has been taken away. -/
def residue (xs : List K) : K := (xs.map fun x => 1 - clamp x).prod

def noisyOr (xs : List K) : K := 1 - residue xs

/-! ## Structural laws -/

theorem clamp_nonneg (x : K) : 0 ≤ clamp x := le_max_left _ _

theorem clamp_mono {x y : K} (h : x ≤ y) : clamp x ≤ clamp y :=
  max_le_max le_rfl (min_le_min le_rfl h)

theorem clamp_of_mem {x : K} (h0 : 0 ≤ x) (h1 : x ≤ 1) : clamp x = x := by
  rw [clamp, min_eq_right h1, max_eq_right h0]

theorem le_clamp {x y : K} (h : x ≤ y) (h1 : x ≤ 1) : x ≤ clamp y :=
  le_trans (le_min h1 h) (le_max_right _ _)

@[simp] theorem residue_nil : residue ([] : List K) = 1 := rfl

@[simp] theorem residue_cons (x : K) (xs : List K) :
    residue (x :: xs) = (1 - clamp x) * residue xs := by
  simp [residue]

@[simp] theorem noisyOr_nil : noisyOr ([] : List K) = 0 := by simp [noisyOr]

theorem noisyOr_perm {xs ys : List K} (h : xs.Perm ys) : noisyOr xs = noisyOr ys := by
  simp only [noisyOr, residue, (h.map _).prod_eq]

theorem residue_append (xs ys : List K) : residue (xs ++ ys) = residue xs * residue ys := by
  rw [residue, List.map_append, List.prod_append]
  rfl

theorem noisyOr_append (xs ys : List K) :
    noisyOr (xs ++ ys) = 1 - (1 - noisyOr xs) * (1 - noisyOr ys) := by
  rw [noisyOr, residue_append, noisyOr, noisyOr, sub_sub_cancel, sub_sub_cancel]

theorem noisyOr_pair (x y : K) : noisyOr [x, y] = 1 - (1 - clamp x) * (1 - clamp y) := by
  simp [noisyOr]

/-- The accumulator loop that multiplies complements computes the residue. -/
theorem foldl_complement (xs : List K) (acc : K) :
    xs.foldl (fun result x => result * (1 - clamp x)) acc = acc * residue xs := by
  induction xs generalizing acc with
  | nil => simp
  | cons x xs ih => rw [List.foldl_cons, ih, residue_cons, mul_assoc]

/-! ## Bounds and monotonicity -/

section Order

variable [IsStrictOrderedRing K]

theorem clamp_le_one (x : K) : clamp x ≤ 1 := max_le zero_le_one (min_le_left _ _)

theorem residue_nonneg (xs : List K) : 0 ≤ residue xs := by
  induction xs with
  | nil => simp
  | cons x xs ih =>
      rw [residue_cons]
      exact mul_nonneg (sub_nonneg.mpr (clamp_le_one x)) ih

theorem residue_le_one (xs : List K) : residue xs ≤ 1 := by
  induction xs with
  | nil => simp
  | cons x xs ih =>
      rw [residue_cons]
      exact mul_le_one₀ (sub_le_self _ (clamp_nonneg x)) (residue_nonneg xs) ih

/-- A dominating list, possibly with further elements, leaves no more behind. -/
theorem residue_anti {xs ys : List K} (h : List.SublistForall₂ (· ≤ ·) xs ys) :
    residue ys ≤ residue xs := by
  induction h with
  | nil => exact residue_le_one _
  | cons hxy _ ih =>
      rw [residue_cons, residue_cons]
      exact mul_le_mul (sub_le_sub_left (clamp_mono hxy) 1) ih (residue_nonneg _)
        (sub_nonneg.mpr (clamp_le_one _))
  | cons_right _ ih =>
      rw [residue_cons]
      exact le_trans (mul_le_of_le_one_left (residue_nonneg _)
        (sub_le_self _ (clamp_nonneg _))) ih

theorem noisyOr_nonneg (xs : List K) : 0 ≤ noisyOr xs := sub_nonneg.mpr (residue_le_one xs)

theorem noisyOr_le_one (xs : List K) : noisyOr xs ≤ 1 := sub_le_self _ (residue_nonneg xs)

theorem noisyOr_mono {xs ys : List K} (h : List.SublistForall₂ (· ≤ ·) xs ys) :
    noisyOr xs ≤ noisyOr ys := sub_le_sub_left (residue_anti h) 1

theorem noisyOr_pair_mono {x x' y y' : K} (hx : x ≤ x') (hy : y ≤ y') :
    noisyOr [x, y] ≤ noisyOr [x', y'] :=
  noisyOr_mono (.cons hx (.cons hy .nil))

/-- No piece of evidence is stronger than all of them together. -/
theorem clamp_le_noisyOr {x : K} {xs : List K} (h : x ∈ xs) : clamp x ≤ noisyOr xs := by
  have hone : noisyOr [x] = clamp x := by
    rw [noisyOr, residue_cons, residue_nil, mul_one, sub_sub_cancel]
  rw [← hone]
  exact noisyOr_mono (List.sublistForall₂_iff.mpr
    ⟨[x], List.forall₂_same.mpr fun _ _ => le_rfl, List.singleton_sublist.mpr h⟩)

/-- Evidence of which the `i`-th piece counts for `weight i` at most leaves at least what
the weights leave. -/
theorem noisyOr_weighted_le {ι : Type*} {weight strength : ι → K} {is : List ι}
    (hweight : ∀ i ∈ is, 0 ≤ weight i ∧ weight i ≤ 1) (hstrength : ∀ i ∈ is, strength i ≤ 1) :
    noisyOr (is.map fun i => weight i * strength i) ≤ 1 - (is.map fun i => 1 - weight i).prod := by
  have hprod : (is.map fun i => 1 - weight i).prod = residue (is.map weight) := by
    rw [residue, List.map_map]
    refine congrArg List.prod (List.map_congr_left fun i hi => ?_)
    rw [Function.comp_apply, clamp_of_mem (hweight i hi).1 (hweight i hi).2]
  have hle : List.Forall₂ (· ≤ ·) (is.map fun i => weight i * strength i) (is.map weight) := by
    rw [List.forall₂_map_left_iff, List.forall₂_map_right_iff, List.forall₂_same]
    intro i hi
    exact mul_le_of_le_one_right (hweight i hi).1 (hstrength i hi)
  rw [hprod]
  exact noisyOr_mono (List.sublistForall₂_iff.mpr ⟨_, hle, List.Sublist.refl _⟩)

/-- When every piece of evidence has at least strength `a`, their number bounds
the combination from below. -/
theorem one_sub_pow_le_noisyOr {a : K} {xs : List K} (h1 : a ≤ 1) (h : ∀ x ∈ xs, a ≤ x) :
    1 - (1 - a) ^ xs.length ≤ noisyOr xs := by
  have hresidue : residue xs ≤ (1 - a) ^ xs.length := by
    induction xs with
    | nil => simp
    | cons x xs ih =>
        rw [residue_cons, List.length_cons, pow_succ']
        have hx : a ≤ clamp x := le_clamp (h x List.mem_cons_self) h1
        have hrest := ih fun y hy => h y (List.mem_cons_of_mem x hy)
        exact mul_le_mul (sub_le_sub_left hx 1) hrest (residue_nonneg _) (sub_nonneg.mpr h1)
  exact sub_le_sub_left hresidue 1

/-! ## Equal pieces of evidence -/

omit [IsStrictOrderedRing K] in
theorem noisyOr_replicate {x : K} (h0 : 0 ≤ x) (h1 : x ≤ 1) (n : ℕ) :
    noisyOr (List.replicate n x) = 1 - (1 - x) ^ n := by
  rw [noisyOr, residue, List.map_replicate, List.prod_replicate, clamp_of_mem h0 h1]

/-- One of `n + 1` equal pieces of evidence is moved from a group of weight `w` to a group of
weight `v`. -/
theorem le_moved_iff {w v x : K} (h0 : 0 ≤ x) (n : ℕ) :
    w * (1 - (1 - x) ^ (n + 1)) ≤ 1 - (1 - w * (1 - (1 - x) ^ n)) * (1 - v * x) ↔
      x = 0 ∨ w * (1 - v) * (1 - x) ^ n ≤ v * (1 - w) := by
  have hgain : 1 - (1 - w * (1 - (1 - x) ^ n)) * (1 - v * x) - w * (1 - (1 - x) ^ (n + 1)) =
      x * (v * (1 - w) - w * (1 - v) * (1 - x) ^ n) := by ring
  rw [← sub_nonneg, hgain]
  constructor
  · intro hnonneg
    rcases h0.eq_or_lt with heq | hpos
    · exact .inl heq.symm
    · exact .inr (sub_nonneg.mp (nonneg_of_mul_nonneg_right hnonneg hpos))
  · intro h
    cases h with
    | inl hzero => rw [hzero, zero_mul]
    | inr hle => exact mul_nonneg h0 (sub_nonneg.mpr hle)

end Order

end NoisyOr
