import TruePresenceESE.Scoring.Model

/-! # Order-free form of the two-level aggregation

The source groups signals into insertion-ordered maps and folds them twice.
Both folds compute a product over all categories, so the aggregate depends on
the signal list only through its multiset. Stronger or further signals only
raise it, which `SignalLe` and `Dominates` make precise.
-/

namespace TruePresenceESE.Scoring

open Sdk Detectors NoisyOr Rounding

/-! ## Closed form of the loops -/

theorem productOfComplements_eq_noisyOr (strengths : List ℚ) :
    productOfComplements strengths = noisyOr strengths := by
  rw [productOfComplements, foldl_complement, one_mul]
  exact clamp_of_mem (noisyOr_nonneg strengths) (noisyOr_le_one strengths)

def targeted (signals : List DetectorSignal) (target : ContributionTarget) :
    List DetectorSignal :=
  signals.filter (·.contributionTarget = target)

/-- The strengths of one category of one target, in signal order. -/
def strengths (signals : List DetectorSignal) (target : ContributionTarget)
    (category : SignalCategory) : List ℚ :=
  Dict.bucket (·.category) signalStrength (targeted signals target) category

/-- What one category leaves of the complement product. -/
def categoryResidue (signals : List DetectorSignal) (target : ContributionTarget)
    (category : SignalCategory) : ℚ :=
  1 - clamp (categoryWeight category * noisyOr (strengths signals target category))

def targetRisk (signals : List DetectorSignal) (target : ContributionTarget) : ℚ :=
  1 - ∏ category, categoryResidue signals target category

def categories (signals : List DetectorSignal) (target : ContributionTarget) :
    Finset SignalCategory :=
  ((targeted signals target).map (·.category)).toFinset

/-- The dictionary of categories and both folds, as one product over all
categories and the number of distinct categories. -/
theorem aggregateRisk_partitionSignals (signals : List DetectorSignal)
    (target : ContributionTarget) :
    aggregateRisk (partitionSignals signals target) =
      (targetRisk signals target, (categories signals target).card) := by
  have hsize : (partitionSignals signals target).size = (categories signals target).card :=
    Dict.size_groupBy _ _ _
  have hprod : (((partitionSignals signals target).items.map fun p =>
      1 - clamp (categoryWeight p.1 * noisyOr p.2)).prod) =
        ∏ category, categoryResidue signals target category :=
    Dict.prod_groupBy (·.category) signalStrength (targeted signals target)
      (fun category ss => 1 - clamp (categoryWeight category * noisyOr ss))
      (fun category => by simp [clamp])
  have hrisk : noisyOr ((partitionSignals signals target).items.map fun p =>
      categoryWeight p.1 * productOfComplements p.2) = targetRisk signals target := by
    simp only [productOfComplements_eq_noisyOr, noisyOr, residue, List.map_map]
    exact congrArg (1 - ·) hprod
  rw [aggregateRisk, productOfComplements_eq_noisyOr, hrisk, hsize]
  split
  next hnil =>
    -- the early return for an empty dictionary agrees with the empty product
    rw [Dict.size, hnil] at hsize
    rw [hnil] at hrisk
    simp only [List.map_nil, noisyOr_nil] at hrisk
    rw [← hrisk, ← hsize]
    rfl
  next => rfl

theorem automationRisk_eq (signals : List DetectorSignal) :
    automationRisk signals = targetRisk signals .automation := by
  rw [automationRisk, aggregateRisk_partitionSignals]

theorem agenticRisk_eq (signals : List DetectorSignal) :
    agenticRisk signals = targetRisk signals .agenticControl := by
  rw [agenticRisk, aggregateRisk_partitionSignals]

theorem humanSignalStrength_eq (signals : List DetectorSignal) :
    humanSignalStrength signals = targetRisk signals .humanPresence := by
  rw [humanSignalStrength, aggregateRisk_partitionSignals]

theorem totalRiskCats_eq (signals : List DetectorSignal) :
    totalRiskCats signals =
      (categories signals .automation).card + (categories signals .agenticControl).card := by
  simp only [totalRiskCats, aggregateRisk_partitionSignals]

/-! ## Bounds -/

theorem severityWeight_pos (severity : Severity) : 0 < severityWeight severity := by
  cases severity <;> norm_num [severityWeight]

theorem categoryWeight_pos (category : SignalCategory) : 0 < categoryWeight category := by
  cases category <;> norm_num [categoryWeight]

theorem categoryResidue_nonneg (signals : List DetectorSignal) (target : ContributionTarget)
    (category : SignalCategory) : 0 ≤ categoryResidue signals target category :=
  sub_nonneg.mpr (clamp_le_one _)

theorem categoryResidue_le_one (signals : List DetectorSignal) (target : ContributionTarget)
    (category : SignalCategory) : categoryResidue signals target category ≤ 1 :=
  sub_le_self _ (clamp_nonneg _)

theorem targetRisk_nonneg (signals : List DetectorSignal) (target : ContributionTarget) :
    0 ≤ targetRisk signals target :=
  sub_nonneg.mpr (Finset.prod_le_one (fun c _ => categoryResidue_nonneg signals target c)
    (fun c _ => categoryResidue_le_one signals target c))

/-- A target's risk and categories depend on nothing but the signals of that target. -/
theorem targetRisk_of_targeted_eq {signals extended : List DetectorSignal}
    {target : ContributionTarget}
    (h : targeted extended target = targeted signals target) :
    targetRisk extended target = targetRisk signals target := by
  simp only [targetRisk, categoryResidue, strengths, h]

theorem categories_of_targeted_eq {signals extended : List DetectorSignal}
    {target : ContributionTarget}
    (h : targeted extended target = targeted signals target) :
    categories extended target = categories signals target := by
  simp only [categories, h]

/-! ## Order independence -/

theorem targeted_perm {signals signals' : List DetectorSignal} (h : signals.Perm signals')
    (target : ContributionTarget) : (targeted signals target).Perm (targeted signals' target) :=
  h.filter _

theorem targetRisk_perm {signals signals' : List DetectorSignal} (h : signals.Perm signals')
    (target : ContributionTarget) : targetRisk signals target = targetRisk signals' target := by
  have hresidue : ∀ category, categoryResidue signals target category =
      categoryResidue signals' target category := by
    intro category
    have hbucket := Dict.bucket_perm (·.category) signalStrength (targeted_perm h target) category
    simp only [categoryResidue, strengths, noisyOr_perm hbucket]
  simp only [targetRisk, hresidue]

theorem categories_perm {signals signals' : List DetectorSignal} (h : signals.Perm signals')
    (target : ContributionTarget) : categories signals target = categories signals' target :=
  List.toFinset_eq_of_perm _ _ ((targeted_perm h target).map _)

theorem totalRiskCats_perm {signals signals' : List DetectorSignal} (h : signals.Perm signals') :
    totalRiskCats signals = totalRiskCats signals' := by
  simp only [totalRiskCats_eq, categories_perm h]

theorem reasonCodes_perm {signals signals' : List DetectorSignal} (h : signals.Perm signals') :
    reasonCodes signals = reasonCodes signals' := by
  rw [reasonCodes, reasonCodes, List.toFinset_eq_of_perm _ _ (h.map _)]

theorem reasonCodes_strictlySorted (signals : List DetectorSignal) :
    (reasonCodes signals).Pairwise (· < ·) :=
  Finset.sortedLT_sort _ |>.pairwise

theorem mem_reasonCodes {signals : List DetectorSignal} {code : String} :
    code ∈ reasonCodes signals ↔ ∃ s ∈ signals, s.reasonCode = code := by
  simp [reasonCodes]

/-- Everything but the random evidence id is a function of the multiset of signals. -/
theorem scoreInteraction_perm {signals signals' : List DetectorSignal}
    (h : signals.Perm signals') (packet : InteractionFeaturePacket)
    (enforcementMode : EnforcementMode) (uuidHex : String) :
    scoreInteraction signals packet enforcementMode uuidHex =
      scoreInteraction signals' packet enforcementMode uuidHex := by
  have hauto : automationRisk signals = automationRisk signals' := by
    rw [automationRisk_eq, automationRisk_eq, targetRisk_perm h]
  have hagentic : agenticRisk signals = agenticRisk signals' := by
    rw [agenticRisk_eq, agenticRisk_eq, targetRisk_perm h]
  have hhuman : humanSignalStrength signals = humanSignalStrength signals' := by
    rw [humanSignalStrength_eq, humanSignalStrength_eq, targetRisk_perm h]
  have hcount : nRiskSignals signals = nRiskSignals signals' := h.countP_eq _
  have heffective : effectiveHuman signals packet = effectiveHuman signals' packet := by
    rw [effectiveHuman, hhuman, effectiveHuman]
  have hreduced : reducedRisk signals packet = reducedRisk signals' packet := by
    simp only [reducedRisk, combinedRisk, corroborationBonus, hauto, hagentic, heffective,
      totalRiskCats_perm h]
  have hcontra : Contradictory signals packet ↔ Contradictory signals' packet := by
    rw [Contradictory, Contradictory, heffective, hreduced]
  have hfactor : contradictionFactor signals packet = contradictionFactor signals' packet := by
    simp only [contradictionFactor, hcontra]
  have hadjusted : adjustedRisk signals packet = adjustedRisk signals' packet := by
    simp only [adjustedRisk, hcontra, hreduced, hfactor]
  have hconfidence : confidence signals packet = confidence signals' packet := by
    simp only [confidence, sufficiency, totalRiskCats_perm h, hcount, hfactor, hadjusted]
  simp only [scoreInteraction, humanPresenceLikelihood, automationLikelihood,
    agenticControlLikelihood, hauto, hagentic, heffective, hadjusted, hconfidence,
    reasonCodes_perm h]

/-- Order independence of the whole response, and what `reason_codes` is. -/
theorem scoreInteraction_order_independent (packet : InteractionFeaturePacket)
    (enforcementMode : EnforcementMode) (signals : List DetectorSignal) (uuidHex : String) :
    (∀ signals', signals.Perm signals' → ∀ uuidHex',
      { scoreInteraction signals' packet enforcementMode uuidHex' with
        evidencePacketId := "ep_" ++ uuidHex } =
          scoreInteraction signals packet enforcementMode uuidHex) ∧
    (scoreInteraction signals packet enforcementMode uuidHex).reasonCodes.Pairwise (· < ·) ∧
    ∀ code, code ∈ (scoreInteraction signals packet enforcementMode uuidHex).reasonCodes ↔
      ∃ s ∈ signals, s.reasonCode = code := by
  refine ⟨?_, reasonCodes_strictlySorted signals, fun code => mem_reasonCodes⟩
  intro signals' h uuidHex'
  rw [scoreInteraction_perm h packet enforcementMode uuidHex]
  rfl

/-! ## Independence of the channels -/

/-- The human channel reads the packet and the human-presence signals only. -/
theorem effectiveHuman_of_targeted_eq {signals signals' : List DetectorSignal}
    (h : targeted signals .humanPresence = targeted signals' .humanPresence)
    (packet : InteractionFeaturePacket) :
    effectiveHuman signals packet = effectiveHuman signals' packet := by
  rw [effectiveHuman, effectiveHuman, humanSignalStrength_eq, humanSignalStrength_eq,
    targetRisk_of_targeted_eq h]

theorem agenticControlLikelihood_of_targeted_eq {signals signals' : List DetectorSignal}
    (hhuman : targeted signals .humanPresence = targeted signals' .humanPresence)
    (hagentic : targeted signals .agenticControl = targeted signals' .agenticControl)
    (packet : InteractionFeaturePacket) :
    agenticControlLikelihood signals packet = agenticControlLikelihood signals' packet := by
  rw [agenticControlLikelihood, agenticControlLikelihood, agenticRisk_eq, agenticRisk_eq,
    targetRisk_of_targeted_eq hagentic, effectiveHuman_of_targeted_eq hhuman]

theorem automationLikelihood_of_targeted_eq {signals signals' : List DetectorSignal}
    (hhuman : targeted signals .humanPresence = targeted signals' .humanPresence)
    (hautomation : targeted signals .automation = targeted signals' .automation)
    (packet : InteractionFeaturePacket) :
    automationLikelihood signals packet = automationLikelihood signals' packet := by
  rw [automationLikelihood, automationLikelihood, automationRisk_eq, automationRisk_eq,
    targetRisk_of_targeted_eq hautomation, effectiveHuman_of_targeted_eq hhuman]

/-- Of the two risk channels neither reads the other's signals. What they share,
the effective human factor, is the human channel's. -/
theorem scoreInteraction_channels_independent (packet : InteractionFeaturePacket)
    (signals signals' : List DetectorSignal)
    (hhuman : targeted signals .humanPresence = targeted signals' .humanPresence)
    (mode mode' : EnforcementMode) (uuidHex uuidHex' : String) :
    (targeted signals .agenticControl = targeted signals' .agenticControl →
      (scoreInteraction signals packet mode uuidHex).agenticControlLikelihood =
        (scoreInteraction signals' packet mode' uuidHex').agenticControlLikelihood) ∧
    (targeted signals .automation = targeted signals' .automation →
      (scoreInteraction signals packet mode uuidHex).automationLikelihood =
        (scoreInteraction signals' packet mode' uuidHex').automationLikelihood) := by
  constructor
  · intro hagentic
    rw [scoreInteraction, scoreInteraction,
      agenticControlLikelihood_of_targeted_eq hhuman hagentic]
  · intro hautomation
    rw [scoreInteraction, scoreInteraction,
      automationLikelihood_of_targeted_eq hhuman hautomation]

/-- Interleaved signals of all three channels against a list without the automation one. -/
theorem scoreInteraction_channels_independent_mixed :
    (scoreInteraction
        [agenticSignal "large_instant_input_delta" .high 0.82 "",
          signal "uniform_typing_cadence" .high 0.9 .automation "" .typingCadence,
          signal "human_presence" .low 0.4 .humanPresence "" .pointerBehavior]
        {} .observe "a").agenticControlLikelihood =
      (scoreInteraction
        [agenticSignal "large_instant_input_delta" .high 0.82 "",
          signal "human_presence" .low 0.4 .humanPresence "" .pointerBehavior]
        {} .observe "b").agenticControlLikelihood :=
  (scoreInteraction_channels_independent {} _ _ (by simp [targeted, agenticSignal, signal])
    .observe .observe "a" "b").1 (by simp [targeted, agenticSignal, signal])

end TruePresenceESE.Scoring
