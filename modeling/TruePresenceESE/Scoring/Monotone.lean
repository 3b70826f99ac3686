import TruePresenceESE.Scoring.Aggregation

/-! # Monotonicity of the score in its evidence

Each quantity of the model is monotone in the risk aggregates and antitone in
the human support as long as the contradiction penalty does not change sides.
The penalty is the only step that breaks this, so every result here is stated
relative to the side on which `Contradictory` puts the two runs.
-/

namespace TruePresenceESE.Scoring

open Sdk Detectors NoisyOr Rounding

/-! ## Dominated signal lists -/

/-- The same target and category, with at least the strength. -/
structure SignalLe (s s' : DetectorSignal) : Prop where
  target : s.contributionTarget = s'.contributionTarget
  category : s.category = s'.category
  strength : signalStrength s ≤ signalStrength s'

theorem SignalLe.refl (s : DetectorSignal) : SignalLe s s := ⟨rfl, rfl, le_rfl⟩

/-- Every signal is matched, in order, by one at least as strong. The second
list may hold further signals. -/
def Dominated (signals signals' : List DetectorSignal) : Prop :=
  List.SublistForall₂ SignalLe signals signals'

theorem Dominated.refl (signals : List DetectorSignal) : Dominated signals signals :=
  List.sublistForall₂_iff.mpr
    ⟨signals, List.forall₂_same.mpr fun s _ => SignalLe.refl s, List.Sublist.refl _⟩

theorem Dominated.append {xs xs' ys ys' : List DetectorSignal} (hx : Dominated xs xs')
    (hy : Dominated ys ys') : Dominated (xs ++ ys) (xs' ++ ys') := by
  induction hx with
  | nil =>
      rename_i l
      induction l with
      | nil => exact hy
      | cons _ _ ih => exact .cons_right ih
  | cons hle _ ih => exact .cons hle ih
  | cons_right _ ih => exact .cons_right ih

/-- A bucket keeps the matching: both sides of a matched pair pass the same filters. -/
private theorem bucket_dominated {signals signals' : List DetectorSignal}
    (h : Dominated signals signals') (target : ContributionTarget) (category : SignalCategory) :
    List.SublistForall₂ (· ≤ ·) (strengths signals target category)
      (strengths signals' target category) := by
  unfold strengths Dict.bucket targeted
  induction h with
  | nil => exact .nil
  | @cons s s' l l' hle _ ih =>
      simp only [List.filter_cons, hle.target]
      split
      · simp only [List.filter_cons, hle.category]
        split
        · exact .cons hle.strength ih
        · exact ih
      · exact ih
  | @cons_right s' l l' _ ih =>
      simp only [List.filter_cons]
      split
      · simp only [List.filter_cons]
        split
        · exact .cons_right ih
        · exact ih
      · exact ih

theorem targetRisk_mono {signals signals' : List DetectorSignal}
    (h : Dominated signals signals') (target : ContributionTarget) :
    targetRisk signals target ≤ targetRisk signals' target := by
  have hresidue : ∀ category, categoryResidue signals' target category ≤
      categoryResidue signals target category := by
    intro category
    have hmono := noisyOr_mono (bucket_dominated h target category)
    exact sub_le_sub_left (clamp_mono
      (mul_le_mul_of_nonneg_left hmono (categoryWeight_pos category).le)) 1
  exact sub_le_sub_left (Finset.prod_le_prod
    (fun c _ => categoryResidue_nonneg signals' target c) (fun c _ => hresidue c)) 1

/-! ## Ranges -/

theorem effectiveHuman_nonneg (signals : List DetectorSignal) (packet : InteractionFeaturePacket) :
    0 ≤ effectiveHuman signals packet := clamp_nonneg _

theorem effectiveHuman_le_one (signals : List DetectorSignal) (packet : InteractionFeaturePacket) :
    effectiveHuman signals packet ≤ 1 := clamp_le_one _

theorem combinedRisk_nonneg (signals : List DetectorSignal) : 0 ≤ combinedRisk signals :=
  clamp_nonneg _

theorem combinedRisk_le_one (signals : List DetectorSignal) : combinedRisk signals ≤ 1 :=
  clamp_le_one _

section Forms

variable (signals : List DetectorSignal) (packet : InteractionFeaturePacket)

/-- The clamp of the human-support reduction never cuts. -/
theorem reducedRisk_eq :
    reducedRisk signals packet =
      combinedRisk signals * (1 - effectiveHuman signals packet * 0.6) := by
  have h0 := effectiveHuman_nonneg signals packet
  have h1 := effectiveHuman_le_one signals packet
  refine clamp_of_mem (mul_nonneg (combinedRisk_nonneg signals) (by linarith)) ?_
  exact mul_le_one₀ (combinedRisk_le_one signals) (by linarith) (by linarith)

theorem reducedRisk_nonneg : 0 ≤ reducedRisk signals packet := clamp_nonneg _

theorem reducedRisk_le_one : reducedRisk signals packet ≤ 1 := clamp_le_one _

theorem adjustedRisk_of_contradictory (h : Contradictory signals packet) :
    adjustedRisk signals packet = reducedRisk signals packet * 0.8 := by
  have h0 := reducedRisk_nonneg signals packet
  have h1 := reducedRisk_le_one signals packet
  rw [adjustedRisk, contradictionFactor, if_pos h, if_pos h, clamp_of_mem] <;> linarith

theorem adjustedRisk_of_not_contradictory (h : ¬Contradictory signals packet) :
    adjustedRisk signals packet = reducedRisk signals packet := by
  rw [adjustedRisk, if_neg h]

theorem adjustedRisk_nonneg : 0 ≤ adjustedRisk signals packet := by
  by_cases h : Contradictory signals packet
  · rw [adjustedRisk_of_contradictory signals packet h]
    linarith [reducedRisk_nonneg signals packet]
  · rw [adjustedRisk_of_not_contradictory signals packet h]
    exact reducedRisk_nonneg signals packet

theorem adjustedRisk_le_one : adjustedRisk signals packet ≤ 1 := by
  by_cases h : Contradictory signals packet
  · rw [adjustedRisk_of_contradictory signals packet h]
    linarith [reducedRisk_le_one signals packet]
  · rw [adjustedRisk_of_not_contradictory signals packet h]
    exact reducedRisk_le_one signals packet

theorem evidenceSufficiency_mem (nCategories nSignals : ℕ) :
    0.20 ≤ evidenceSufficiency nCategories nSignals ∧
      evidenceSufficiency nCategories nSignals ≤ 1 := by
  unfold evidenceSufficiency
  split
  · norm_num
  · have hc : (0 : ℚ) ≤ min 1 ((nCategories : ℚ) / 3) := by positivity
    have hs : (0 : ℚ) ≤ min 1 ((nSignals : ℚ) / 4) := by positivity
    exact ⟨le_clamp (by linarith) (by norm_num), clamp_le_one _⟩

/-- More categories and more signals never make the evidence less sufficient. -/
theorem evidenceSufficiency_mono {c c' n n' : ℕ} (hc : c ≤ c') (hn : n ≤ n') :
    evidenceSufficiency c n ≤ evidenceSufficiency c' n' := by
  by_cases h0 : n = 0
  · have hfloor := (evidenceSufficiency_mem c' n').1
    simpa [evidenceSufficiency, h0] using hfloor
  · have h0' : n' ≠ 0 := by omega
    have hcq : (c : ℚ) ≤ c' := by exact_mod_cast hc
    have hnq : (n : ℚ) ≤ n' := by exact_mod_cast hn
    simp only [evidenceSufficiency, if_neg h0, if_neg h0']
    apply clamp_mono
    gcongr

theorem contradictionFactor_of_contradictory (h : Contradictory signals packet) :
    contradictionFactor signals packet = 0.20 := if_pos h

theorem contradictionFactor_of_not_contradictory (h : ¬Contradictory signals packet) :
    contradictionFactor signals packet = 0 := if_neg h

/-- Nor does the clamp of the confidence ever cut. -/
theorem confidence_eq :
    confidence signals packet = sufficiency signals * (1 - contradictionFactor signals packet) *
      (0.5 + adjustedRisk signals packet * 0.5) := by
  have hs := evidenceSufficiency_mem (totalRiskCats signals) (nRiskSignals signals)
  have ha0 := adjustedRisk_nonneg signals packet
  have ha1 := adjustedRisk_le_one signals packet
  have hf : 0 ≤ 1 - contradictionFactor signals packet ∧
      1 - contradictionFactor signals packet ≤ 1 := by
    unfold contradictionFactor
    split <;> norm_num
  have hs0 : 0 ≤ sufficiency signals := by
    have := hs.1
    rw [sufficiency]
    linarith
  have hsf : sufficiency signals * (1 - contradictionFactor signals packet) ≤ 1 :=
    mul_le_one₀ hs.2 hf.1 hf.2
  refine clamp_of_mem (mul_nonneg (mul_nonneg hs0 hf.1) (by linarith)) ?_
  exact mul_le_one₀ hsf (by linarith) (by linarith)

end Forms

/-! ## Step-by-step monotonicity -/

section Mono

variable {signals signals' : List DetectorSignal} {packet packet' : InteractionFeaturePacket}

theorem combinedRisk_mono (ha : automationRisk signals ≤ automationRisk signals')
    (hg : agenticRisk signals ≤ agenticRisk signals')
    (hc : totalRiskCats signals ≤ totalRiskCats signals') :
    combinedRisk signals ≤ combinedRisk signals' := by
  have hbonus : corroborationBonus signals ≤ corroborationBonus signals' := by
    unfold corroborationBonus
    apply clamp_mono
    gcongr
  have hpair := noisyOr_pair_mono ha hg
  unfold combinedRisk
  rw [productOfComplements_eq_noisyOr, productOfComplements_eq_noisyOr]
  exact clamp_mono (add_le_add hpair hbonus)

theorem reducedRisk_mono (hcomb : combinedRisk signals ≤ combinedRisk signals')
    (hhuman : effectiveHuman signals' packet' ≤ effectiveHuman signals packet) :
    reducedRisk signals packet ≤ reducedRisk signals' packet' := by
  rw [reducedRisk_eq, reducedRisk_eq]
  have h1 := effectiveHuman_le_one signals packet
  exact mul_le_mul hcomb (by linarith) (by linarith) (combinedRisk_nonneg signals')

/-- On one side of the penalty line the adjusted risk follows the reduced risk;
entering the penalty from above can only lower it further. -/
theorem adjustedRisk_mono (hred : reducedRisk signals packet ≤ reducedRisk signals' packet')
    (hside : Contradictory signals' packet' → Contradictory signals packet) :
    adjustedRisk signals packet ≤ adjustedRisk signals' packet' := by
  by_cases h' : Contradictory signals' packet'
  · rw [adjustedRisk_of_contradictory _ _ (hside h'), adjustedRisk_of_contradictory _ _ h']
    linarith
  · rw [adjustedRisk_of_not_contradictory _ _ h']
    by_cases h : Contradictory signals packet
    · rw [adjustedRisk_of_contradictory _ _ h]
      linarith [reducedRisk_nonneg signals packet]
    · rw [adjustedRisk_of_not_contradictory _ _ h]
      exact hred

theorem confidence_mono (hsuff : sufficiency signals ≤ sufficiency signals')
    (hadj : adjustedRisk signals packet ≤ adjustedRisk signals' packet')
    (hside : Contradictory signals' packet' → Contradictory signals packet) :
    confidence signals packet ≤ confidence signals' packet' := by
  have hfactor : 1 - contradictionFactor signals packet ≤
      1 - contradictionFactor signals' packet' := by
    by_cases h' : Contradictory signals' packet'
    · rw [contradictionFactor_of_contradictory _ _ (hside h'),
        contradictionFactor_of_contradictory _ _ h']
    · rw [contradictionFactor_of_not_contradictory _ _ h']
      unfold contradictionFactor
      split <;> norm_num
  have hpos : 0 ≤ 1 - contradictionFactor signals packet := by
    unfold contradictionFactor
    split <;> norm_num
  have hs0 : 0 ≤ sufficiency signals' := by
    have := (evidenceSufficiency_mem (totalRiskCats signals') (nRiskSignals signals')).1
    rw [sufficiency]
    linarith
  have ha0 := adjustedRisk_nonneg signals packet
  rw [confidence_eq, confidence_eq]
  exact mul_le_mul (mul_le_mul hsuff hfactor hpos hs0) (by linarith) (by linarith)
    (mul_nonneg hs0 (hpos.trans hfactor))

end Mono

theorem rounded_mono {x y : ℚ} (h : x ≤ y) : rounded x ≤ rounded y :=
  roundTo_mono 4 (clamp_mono h)

/-! ## The threshold table -/

/-- The table is monotone in both arguments except inside the lowest risk band,
where more confidence turns `observe` into `allow`. -/
theorem rank_recommendedAction_mono {risk risk' confidence confidence' : ℚ}
    (hrisk : risk ≤ risk') (hconf : confidence ≤ confidence') :
    (recommendedAction risk confidence).rank ≤ (recommendedAction risk' confidence').rank ∨
      (recommendedAction risk confidence = .observe ∧
        recommendedAction risk' confidence' = .allow ∧
        risk' < 0.30 ∧ confidence < 0.50 ∧ 0.50 ≤ confidence') := by
  by_cases hlow : risk' < 0.30
  · have hlow' : risk < 0.30 := by linarith
    simp only [recommendedAction, if_pos hlow, if_pos hlow']
    split_ifs <;> simp_all [RecommendedAction.rank]
  · left
    unfold recommendedAction
    split_ifs <;> first | (simp [RecommendedAction.rank]; done) | (exfalso; linarith)

theorem recommendedAction_eq_allow_iff {risk confidence : ℚ} :
    recommendedAction risk confidence = .allow ↔ risk < 0.30 ∧ 0.50 ≤ confidence := by
  unfold recommendedAction
  split_ifs <;> simp_all

end TruePresenceESE.Scoring
