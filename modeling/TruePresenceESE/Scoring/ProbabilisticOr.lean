import TruePresenceESE.Scoring.CrossCategory
import TruePresenceESE.Scoring.Monotone

/-! # Bounds of the two-level aggregation

The product of complements is a probabilistic OR, so a further strength raises it. In the
aggregate each category counts for its weight at most: however many signals one detector
family reports, the risk stays below what the weights of the occurring categories allow.
-/

namespace TruePresenceESE.Scoring

open Sdk Detectors NoisyOr

section
variable (byCategory : Dict SignalCategory (List ℚ))

/-- `by_cat[category].append(strength)` over the defaulting dictionary. -/
def addStrength (category : SignalCategory) (strength : ℚ) : Dict SignalCategory (List ℚ) :=
  byCategory.set category ((byCategory.get? category).getD [] ++ [strength])

/-- The early return for an empty dictionary agrees with the empty product. -/
theorem aggregateRisk_fst : (aggregateRisk byCategory).1 =
    noisyOr (byCategory.items.map fun p => categoryWeight p.1 * noisyOr p.2) := by
  unfold aggregateRisk
  split
  next hnil => rw [hnil, List.map_nil, noisyOr_nil]
  next => simp only [productOfComplements_eq_noisyOr]

theorem aggregateRisk_le_addStrength (category : SignalCategory) (strength : ℚ) :
    (aggregateRisk byCategory).1 ≤
      (aggregateRisk (addStrength byCategory category strength)).1 := by
  rw [aggregateRisk_fst, aggregateRisk_fst]
  apply noisyOr_mono
  have hset : List.SublistForall₂
      (fun p q => categoryWeight p.1 * noisyOr p.2 ≤ categoryWeight q.1 * noisyOr q.2)
      byCategory.items (addStrength byCategory category strength).items := by
    apply Dict.sublistForall₂_setIn
    · intro p
      exact le_rfl
    · intro strengths hget
      have hold : (byCategory.get? category).getD [] = strengths := by
        rw [Dict.get?, hget, Option.getD_some]
      have hgrows : noisyOr strengths ≤ noisyOr (strengths ++ [strength]) :=
        noisyOr_mono (List.sublistForall₂_iff.mpr ⟨strengths,
          List.forall₂_same.mpr fun _ _ => le_rfl, List.sublist_append_left _ _⟩)
      rw [hold]
      exact mul_le_mul_of_nonneg_left hgrows (categoryWeight_pos category).le
  rw [List.sublistForall₂_map_left_iff, List.sublistForall₂_map_right_iff]
  exact hset

theorem aggregateRisk_le_weights : (aggregateRisk byCategory).1 ≤
    1 - (byCategory.keys.map fun category => 1 - categoryWeight category).prod := by
  have hweight : ∀ p ∈ byCategory.items, 0 ≤ categoryWeight p.1 ∧ categoryWeight p.1 ≤ 1 :=
    fun p _ => ⟨(categoryWeight_pos p.1).le, categoryWeight_le_one p.1⟩
  have hbound := noisyOr_weighted_le hweight fun p _ => noisyOr_le_one p.2
  rw [aggregateRisk_fst, Dict.keys, List.map_map]
  exact hbound

end

/-- A signal at any place of the list adds its strength to its category. -/
theorem aggregateRisk_le_insert (before after : List DetectorSignal) (signal : DetectorSignal)
    (target : ContributionTarget) :
    (aggregateRisk (partitionSignals (before ++ after) target)).1 ≤
      (aggregateRisk (partitionSignals (before ++ signal :: after) target)).1 := by
  have hdominated : Dominated (before ++ after) (before ++ signal :: after) :=
    (Dominated.refl before).append (.cons_right (Dominated.refl after))
  rw [aggregateRisk_partitionSignals, aggregateRisk_partitionSignals]
  exact targetRisk_mono hdominated target

theorem clamp_le_of_max? {strengths : List ℚ} {m : ℚ} (h : strengths.max? = some m) :
    clamp m ≤ productOfComplements strengths := by
  rw [productOfComplements_eq_noisyOr]
  exact clamp_le_noisyOr (List.max?_mem h)

/-- The laws of the probabilistic OR, and what they say of the aggregate. -/
theorem productOfComplements_laws :
    (∀ strengths, 0 ≤ productOfComplements strengths ∧ productOfComplements strengths ≤ 1) ∧
    (∀ strengths strengths', List.Forall₂ (· ≤ ·) strengths strengths' →
      productOfComplements strengths ≤ productOfComplements strengths') ∧
    (∀ strengths strengths', strengths.Perm strengths' →
      productOfComplements strengths = productOfComplements strengths') ∧
    (∀ xs ys, productOfComplements (xs ++ ys) =
      1 - (1 - productOfComplements xs) * (1 - productOfComplements ys)) ∧
    (∀ strengths m, strengths.max? = some m → clamp m ≤ productOfComplements strengths) ∧
    (∀ byCategory category strength, (aggregateRisk byCategory).1 ≤
      (aggregateRisk (addStrength byCategory category strength)).1) ∧
    (∀ before after signal target,
      (aggregateRisk (partitionSignals (before ++ after) target)).1 ≤
        (aggregateRisk (partitionSignals (before ++ signal :: after) target)).1) ∧
    ∀ byCategory, (aggregateRisk byCategory).1 ≤
      1 - (byCategory.keys.map fun category => 1 - categoryWeight category).prod := by
  refine ⟨?_, ?_, ?_, ?_, fun _ _ => clamp_le_of_max?, aggregateRisk_le_addStrength,
    aggregateRisk_le_insert, aggregateRisk_le_weights⟩
  · intro strengths
    rw [productOfComplements_eq_noisyOr]
    exact ⟨noisyOr_nonneg strengths, noisyOr_le_one strengths⟩
  · intro strengths strengths' h
    rw [productOfComplements_eq_noisyOr, productOfComplements_eq_noisyOr]
    exact noisyOr_mono (List.sublistForall₂_iff.mpr ⟨_, h, List.Sublist.refl _⟩)
  · intro strengths strengths' h
    rw [productOfComplements_eq_noisyOr, productOfComplements_eq_noisyOr, noisyOr_perm h]
  · intro xs ys
    simp only [productOfComplements_eq_noisyOr, noisyOr_append]

end TruePresenceESE.Scoring
