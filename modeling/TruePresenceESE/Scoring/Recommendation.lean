import TruePresenceESE.Scoring.Monotone

/-! # How one more signal moves the recommendation

A further risk signal raises every risk aggregate and leaves the human support
alone; further human evidence raises the human support and leaves the risk
aggregates alone. Together with the monotone threshold table this bounds the
recommendation, apart from a signal that switches the contradiction penalty
and from the `observe`/`allow` split of the lowest risk band.
-/

namespace TruePresenceESE.Scoring

open Sdk Detectors NoisyOr Rounding

/-! ## What a further signal leaves alone -/

section Frame

variable {signals extended : List DetectorSignal} {s : DetectorSignal}

theorem targeted_cons_of_ne {target : ContributionTarget} (h : s.contributionTarget ≠ target) :
    targeted (s :: signals) target = targeted signals target := by
  simp [targeted, h]

theorem categories_cons_subset (target : ContributionTarget) :
    categories signals target ⊆ categories (s :: signals) target := by
  intro category h
  simp only [categories, targeted, List.mem_toFinset, List.mem_map, List.mem_filter] at h ⊢
  obtain ⟨x, ⟨hx, htarget⟩, hcat⟩ := h
  exact ⟨x, ⟨List.mem_cons_of_mem _ hx, htarget⟩, hcat⟩

theorem Dominated.cons_right_self : Dominated signals (s :: signals) :=
  .cons_right (Dominated.refl signals)

end Frame

/-- A typing section with human cadence; its feature support is 0.20. -/
def humanTypingPacket : InteractionFeaturePacket where
  typing := some {
    interKeyIntervalStddevMs := some 50
    charactersPerMinute := some 200
    correctionCount := some 1
    focusToFirstInputMs := some 200 }

def providerVouch : DetectorSignal :=
  signal "provider_vouch" .high 1 .humanPresence "The provider vouches." .agenticBehavior

/-! ## A further risk signal -/

section RiskSignal

variable {signals extended : List DetectorSignal} {s : DetectorSignal}

theorem effectiveHuman_of_risk_signal (hs : s.contributionTarget ≠ .humanPresence)
    (hext : extended.Perm (s :: signals)) (packet : InteractionFeaturePacket) :
    effectiveHuman extended packet = effectiveHuman signals packet := by
  rw [effectiveHuman, effectiveHuman, humanSignalStrength_eq, humanSignalStrength_eq,
    targetRisk_perm hext, targetRisk_of_targeted_eq (targeted_cons_of_ne hs)]

theorem combinedRisk_of_risk_signal (hext : extended.Perm (s :: signals)) :
    combinedRisk signals ≤ combinedRisk extended := by
  refine combinedRisk_mono ?_ ?_ ?_
  · rw [automationRisk_eq, automationRisk_eq, targetRisk_perm hext]
    exact targetRisk_mono Dominated.cons_right_self _
  · rw [agenticRisk_eq, agenticRisk_eq, targetRisk_perm hext]
    exact targetRisk_mono Dominated.cons_right_self _
  · rw [totalRiskCats_perm hext, totalRiskCats_eq, totalRiskCats_eq]
    exact Nat.add_le_add (Finset.card_le_card (categories_cons_subset _))
      (Finset.card_le_card (categories_cons_subset _))

theorem sufficiency_of_risk_signal (hext : extended.Perm (s :: signals)) :
    sufficiency signals ≤ sufficiency extended := by
  refine evidenceSufficiency_mono ?_ ?_
  · rw [totalRiskCats_perm hext, totalRiskCats_eq, totalRiskCats_eq]
    exact Nat.add_le_add (Finset.card_le_card (categories_cons_subset _))
      (Finset.card_le_card (categories_cons_subset _))
  · rw [nRiskSignals, nRiskSignals, hext.countP_eq, List.countP_cons]
    omega

theorem reducedRisk_of_risk_signal (hs : s.contributionTarget ≠ .humanPresence)
    (hext : extended.Perm (s :: signals)) (packet : InteractionFeaturePacket) :
    reducedRisk signals packet ≤ reducedRisk extended packet :=
  reducedRisk_mono (combinedRisk_of_risk_signal hext)
    (effectiveHuman_of_risk_signal hs hext packet).le

/-- A risk signal never switches the penalty off. -/
theorem contradictory_of_risk_signal (hs : s.contributionTarget ≠ .humanPresence)
    (hext : extended.Perm (s :: signals)) {packet : InteractionFeaturePacket}
    (h : Contradictory signals packet) : Contradictory extended packet := by
  refine ⟨?_, lt_of_lt_of_le h.2 (reducedRisk_of_risk_signal hs hext packet)⟩
  rw [effectiveHuman_of_risk_signal hs hext]
  exact h.1

/-- Where the penalty switches on, the reduced risk was at most one half before
and the adjusted risk is above two fifths after. -/
theorem adjustedRisk_at_penalty (hs : s.contributionTarget ≠ .humanPresence)
    (hext : extended.Perm (s :: signals)) {packet : InteractionFeaturePacket}
    (hbefore : ¬Contradictory signals packet) (hafter : Contradictory extended packet) :
    adjustedRisk signals packet ≤ 0.50 ∧ 0.40 < adjustedRisk extended packet := by
  have hhuman : 0.5 < effectiveHuman signals packet := by
    rw [← effectiveHuman_of_risk_signal hs hext]
    exact hafter.1
  constructor
  · rw [adjustedRisk_of_not_contradictory _ _ hbefore]
    exact not_lt.mp fun h => hbefore ⟨hhuman, by linarith⟩
  · rw [adjustedRisk_of_contradictory _ _ hafter]
    linarith [hafter.2]

/-- A further risk signal never makes the recommendation less severe, with two
exceptions: it switches the contradiction penalty on while the risk was in
`[0.30, 0.50]`, or it lifts the confidence across 0.50 while the risk stays
below 0.30, which turns `observe` into `allow`. -/
theorem recommendedAction_of_risk_signal (packet : InteractionFeaturePacket)
    (enforcementMode : EnforcementMode) (uuidHex uuidHex' : String)
    (hs : s.contributionTarget = .automation ∨ s.contributionTarget = .agenticControl)
    (hext : extended.Perm (s :: signals)) :
    (scoreInteraction signals packet enforcementMode uuidHex).recommendedAction.rank ≤
        (scoreInteraction extended packet enforcementMode uuidHex').recommendedAction.rank ∨
      (¬Contradictory signals packet ∧ Contradictory extended packet ∧
        0.30 ≤ adjustedRisk signals packet ∧ adjustedRisk signals packet ≤ 0.50 ∧
        0.40 < adjustedRisk extended packet) ∨
      ((scoreInteraction signals packet enforcementMode uuidHex).recommendedAction = .observe ∧
        (scoreInteraction extended packet enforcementMode uuidHex').recommendedAction = .allow ∧
        adjustedRisk extended packet < 0.30 ∧
        confidence signals packet < 0.50 ∧ 0.50 ≤ confidence extended packet) := by
  have hne : s.contributionTarget ≠ .humanPresence := by
    rcases hs with h | h <;> simp [h]
  by_cases hside : Contradictory extended packet → Contradictory signals packet
  · have hadj := adjustedRisk_mono (reducedRisk_of_risk_signal hne hext packet) hside
    have hconf := confidence_mono (sufficiency_of_risk_signal hext) hadj hside
    rcases rank_recommendedAction_mono hadj hconf with hrank | hallow
    · exact .inl hrank
    · exact .inr (.inr hallow)
  · rw [Classical.not_imp] at hside
    obtain ⟨hafter, hbefore⟩ := hside
    have hbounds := adjustedRisk_at_penalty hne hext hbefore hafter
    by_cases hlow : adjustedRisk signals packet < 0.30
    · -- below the middle band the table says at most `observe`, above 0.40 at least that
      left
      have hhigh : ¬adjustedRisk extended packet < 0.30 := by linarith [hbounds.2]
      simp only [scoreInteraction, recommendedAction, if_pos hlow, if_neg hhigh]
      split_ifs <;> simp [RecommendedAction.rank]
    · exact .inr (.inl ⟨hbefore, hafter, not_lt.mp hlow, hbounds⟩)

theorem recommendedAction_of_first_risk_signal :
    (scoreInteraction [] {} .observe "0").recommendedAction.rank ≤
      (scoreInteraction [signal "webdriver" .high 1 .automation "" .environment] {} .observe
        "1").recommendedAction.rank :=
  (recommendedAction_of_risk_signal {} .observe "0" "1" (.inl rfl) (.refl _)).resolve_right
    (by decide +kernel)

end RiskSignal

/-- Under the human typing packet, three signals and the one that switches the penalty on. -/
def belowPenalty : List DetectorSignal :=
  [providerVouch, signal "slow_replies" .medium 0.5 .automation "" .timingPlausibility,
    signal "even_typing" .medium 1 .automation "" .typingCadence]

def intoPenalty : DetectorSignal :=
  signal "fast_replies" .high 1 .automation "" .timingPlausibility

/-- Two weak signals, and a third that makes the evidence sufficient. -/
def weakPair : List DetectorSignal :=
  [signal "slow_replies" .low 0.2 .automation "" .timingPlausibility,
    signal "even_typing" .low 0.2 .automation "" .typingCadence]

def weakThird : DetectorSignal := signal "paste" .low 0.2 .automation "" .inputMethod

/-- Both exceptions occur: a further automation signal turns `soft_challenge` into
`observe`, and another one turns `observe` into `allow`. -/
theorem recommendedAction_drops_on_risk_signal :
    ((scoreInteraction belowPenalty humanTypingPacket .observe "0").recommendedAction =
        .softChallenge ∧
      (scoreInteraction (belowPenalty ++ [intoPenalty]) humanTypingPacket .observe
        "1").recommendedAction = .observe) ∧
    (scoreInteraction weakPair {} .observe "0").recommendedAction = .observe ∧
      (scoreInteraction (weakPair ++ [weakThird]) {} .observe "1").recommendedAction = .allow := by
  decide +kernel

/-! ## Further human evidence -/

/-- The two ways to add human evidence: one more `human_presence` signal, or the
same signal with a higher confidence. Positions in the list are free. -/
inductive HumanEvidenceAdded (signals : List DetectorSignal) : List DetectorSignal → Prop
  | added {s : DetectorSignal} {extended : List DetectorSignal}
      (human : s.contributionTarget = .humanPresence) (perm : extended.Perm (s :: signals)) :
      HumanEvidenceAdded signals extended
  | raised {s : DetectorSignal} {confidence : UnitInterval} {rest extended : List DetectorSignal}
      (human : s.contributionTarget = .humanPresence) (le : s.confidence ≤ confidence)
      (before : signals.Perm (s :: rest))
      (after : extended.Perm ({ s with confidence := confidence } :: rest)) :
      HumanEvidenceAdded signals extended

namespace HumanEvidenceAdded

variable {signals extended : List DetectorSignal}

/-- Up to order, the risk signals are the same and the human signals dominate. -/
theorem normalForm (h : HumanEvidenceAdded signals extended) :
    ∃ xs ys, signals.Perm xs ∧ extended.Perm ys ∧ Dominated xs ys ∧
      ∀ target, target ≠ .humanPresence → targeted ys target = targeted xs target := by
  cases h with
  | @added s _ human perm =>
      refine ⟨signals, s :: signals, .refl _, perm, Dominated.cons_right_self, ?_⟩
      intro target htarget
      exact targeted_cons_of_ne (by rw [human]; exact htarget.symm)
  | @raised s c rest _ human le before after =>
      refine ⟨s :: rest, { s with confidence := c } :: rest, before, after, ?_, ?_⟩
      · refine .cons ⟨rfl, rfl, ?_⟩ (Dominated.refl rest)
        exact mul_le_mul_of_nonneg_left le (severityWeight_pos s.severity).le
      · intro target htarget
        have hne : s.contributionTarget ≠ target := by
          rw [human]
          exact htarget.symm
        rw [targeted_cons_of_ne hne, targeted_cons_of_ne (s := { s with confidence := c }) hne]

theorem targeted_perm_of_ne (h : HumanEvidenceAdded signals extended) (target : ContributionTarget)
    (htarget : target ≠ .humanPresence) :
    (targeted extended target).Perm (targeted signals target) := by
  obtain ⟨xs, ys, hxs, hys, -, hsame⟩ := h.normalForm
  have hy := targeted_perm hys target
  rw [hsame target htarget] at hy
  exact hy.trans (targeted_perm hxs target).symm

theorem targetRisk_eq (h : HumanEvidenceAdded signals extended) (target : ContributionTarget)
    (htarget : target ≠ .humanPresence) :
    targetRisk extended target = targetRisk signals target := by
  obtain ⟨xs, ys, hxs, hys, -, hsame⟩ := h.normalForm
  rw [targetRisk_perm hys, targetRisk_perm hxs, targetRisk_of_targeted_eq (hsame target htarget)]

theorem categories_eq (h : HumanEvidenceAdded signals extended) (target : ContributionTarget)
    (htarget : target ≠ .humanPresence) :
    categories extended target = categories signals target := by
  obtain ⟨xs, ys, hxs, hys, -, hsame⟩ := h.normalForm
  rw [categories_perm hys, categories_perm hxs, categories_of_targeted_eq (hsame target htarget)]

theorem totalRiskCats_eq (h : HumanEvidenceAdded signals extended) :
    totalRiskCats extended = totalRiskCats signals := by
  rw [Scoring.totalRiskCats_eq, Scoring.totalRiskCats_eq, h.categories_eq _ (by decide),
    h.categories_eq _ (by decide)]

theorem combinedRisk_eq (h : HumanEvidenceAdded signals extended) :
    combinedRisk extended = combinedRisk signals := by
  simp only [combinedRisk, corroborationBonus, automationRisk_eq, agenticRisk_eq,
    h.totalRiskCats_eq, h.targetRisk_eq .automation (by decide),
    h.targetRisk_eq .agenticControl (by decide)]

/-- The risk signals are those of the two risk targets. -/
private theorem nRiskSignals_eq_length (signals : List DetectorSignal) :
    nRiskSignals signals =
      (targeted signals .automation).length + (targeted signals .agenticControl).length := by
  induction signals with
  | nil => rfl
  | cons s signals ih =>
      simp only [nRiskSignals, targeted, List.countP_cons, List.filter_cons] at ih ⊢
      cases h : s.contributionTarget <;> simp_all <;> omega

theorem nRiskSignals_eq (h : HumanEvidenceAdded signals extended) :
    nRiskSignals extended = nRiskSignals signals := by
  rw [nRiskSignals_eq_length, nRiskSignals_eq_length,
    (h.targeted_perm_of_ne .automation (by decide)).length_eq,
    (h.targeted_perm_of_ne .agenticControl (by decide)).length_eq]

theorem sufficiency_eq (h : HumanEvidenceAdded signals extended) :
    sufficiency extended = sufficiency signals := by
  rw [sufficiency, sufficiency, h.totalRiskCats_eq, h.nRiskSignals_eq]

theorem effectiveHuman_le (h : HumanEvidenceAdded signals extended)
    (packet : InteractionFeaturePacket) :
    effectiveHuman signals packet ≤ effectiveHuman extended packet := by
  obtain ⟨xs, ys, hxs, hys, hdom, -⟩ := h.normalForm
  have hmono := targetRisk_mono hdom .humanPresence
  rw [← targetRisk_perm hxs, ← targetRisk_perm hys] at hmono
  rw [effectiveHuman, effectiveHuman, humanSignalStrength_eq, humanSignalStrength_eq]
  exact clamp_mono (by linarith)

theorem reducedRisk_le (h : HumanEvidenceAdded signals extended)
    (packet : InteractionFeaturePacket) :
    reducedRisk extended packet ≤ reducedRisk signals packet :=
  reducedRisk_mono h.combinedRisk_eq.le (h.effectiveHuman_le packet)

end HumanEvidenceAdded

theorem humanPresenceLikelihood_mono {signals signals' : List DetectorSignal}
    {packet packet' : InteractionFeaturePacket}
    (hadj : adjustedRisk signals' packet' ≤ adjustedRisk signals packet)
    (hhuman : effectiveHuman signals packet ≤ effectiveHuman signals' packet') :
    humanPresenceLikelihood signals packet ≤ humanPresenceLikelihood signals' packet' := by
  unfold humanPresenceLikelihood baseHumanPresence
  apply clamp_mono
  linarith

/-- More human evidence lowers the confidence and raises the human likelihood, and
makes the recommendation no more severe except from `allow` to `observe`, as
long as it does not take the run out of the contradiction penalty. -/
theorem scoreInteraction_of_human_evidence {signals extended : List DetectorSignal}
    (packet : InteractionFeaturePacket) (enforcementMode : EnforcementMode)
    (uuidHex uuidHex' : String) (h : HumanEvidenceAdded signals extended)
    (hside : Contradictory signals packet → Contradictory extended packet) :
    let before := scoreInteraction signals packet enforcementMode uuidHex
    let after := scoreInteraction extended packet enforcementMode uuidHex'
    before.humanPresenceLikelihood ≤ after.humanPresenceLikelihood ∧
      after.confidence ≤ before.confidence ∧
      (after.recommendedAction.rank ≤ before.recommendedAction.rank ∨
        (before.recommendedAction = .allow ∧ after.recommendedAction = .observe ∧
          adjustedRisk signals packet < 0.30 ∧
          confidence extended packet < 0.50 ∧ 0.50 ≤ confidence signals packet)) := by
  intro before after
  have hadj := adjustedRisk_mono (h.reducedRisk_le packet) hside
  have hconf := confidence_mono h.sufficiency_eq.le hadj hside
  refine ⟨rounded_mono (humanPresenceLikelihood_mono hadj (h.effectiveHuman_le packet)),
    rounded_mono hconf, ?_⟩
  rcases rank_recommendedAction_mono hadj hconf with hrank | ⟨hobserve, hallow, hrest⟩
  · exact .inl hrank
  · exact .inr ⟨hallow, hobserve, hrest⟩

theorem scoreInteraction_of_vouch :
    (scoreInteraction weakPair {} .observe "0").humanPresenceLikelihood ≤
      (scoreInteraction (providerVouch :: weakPair) {} .observe "1").humanPresenceLikelihood :=
  (scoreInteraction_of_human_evidence {} .observe "0" "1" (.added rfl (.refl _))
    (by decide +kernel)).1

/-- Just above the penalty line, and the human signal that leads back under it. -/
def abovePenalty : List DetectorSignal :=
  [providerVouch, signal "slow_replies" .medium 1 .automation "" .timingPlausibility,
    signal "even_typing" .high 1 .automation "" .typingCadence]

def outOfPenalty : DetectorSignal :=
  signal "natural_typing" .medium 1 .humanPresence "" .typingCadence

/-- Three signals whose confidence reaches 0.50 only without human evidence. -/
def faintTriple : List DetectorSignal :=
  [signal "slow_replies" .low 0.05 .automation "" .timingPlausibility,
    signal "even_typing" .low 0.05 .automation "" .typingCadence,
    signal "paste" .low 0.05 .automation "" .inputMethod]

/-- Leaving the penalty breaks all three bounds, and below it `allow` becomes `observe`. -/
theorem human_evidence_hurts :
    (let before := scoreInteraction abovePenalty humanTypingPacket .observe "0"
      let after := scoreInteraction (abovePenalty ++ [outOfPenalty]) humanTypingPacket .observe "1"
      before.recommendedAction = .observe ∧ after.recommendedAction = .softChallenge ∧
        after.humanPresenceLikelihood < before.humanPresenceLikelihood ∧
        before.confidence < after.confidence) ∧
    (scoreInteraction faintTriple {} .observe "0").recommendedAction = .allow ∧
      (scoreInteraction (faintTriple ++ [providerVouch]) {} .observe "1").recommendedAction =
        .observe := by
  decide +kernel

end TruePresenceESE.Scoring
