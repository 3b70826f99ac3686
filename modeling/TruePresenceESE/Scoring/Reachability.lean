import TruePresenceESE.Scoring.Monotone

/-! # What the shipped detectors can reach

Every detector emits at most one signal, of a fixed target and category and
with a strength bounded from below. Without human-presence signals the human
support stays at its feature cap, so the contradiction penalty is out of
reach, and the confidence that `allow` needs takes so many risk signals that
the risk leaves the lowest band.
-/

namespace TruePresenceESE.Scoring

open Sdk Detectors NoisyOr

/-! ## What one detector emits -/

/-- At most one signal, of the given target and category, no weaker than `floor`. -/
structure Emits (target : ContributionTarget) (category : SignalCategory) (floor : ℚ)
    (signals : List DetectorSignal) : Prop where
  length_le : signals.length ≤ 1
  kind : ∀ s ∈ signals, s.contributionTarget = target ∧ s.category = category
  strong : ∀ s ∈ signals, floor ≤ signalStrength s

namespace Emits

variable {target : ContributionTarget} {category : SignalCategory} {floor : ℚ}

theorem nil : Emits target category floor [] := ⟨by simp, by simp, by simp⟩

theorem singleton {reasonCode explanation : String} {severity : Severity} {conf : ℚ}
    (h : floor ≤ severityWeight severity * clamp conf) :
    Emits target category floor [signal reasonCode severity conf target explanation category] :=
  ⟨by simp, by simp [signal], by simpa [signal, signalStrength] using h⟩

/-- The floor of the agentic detectors: medium severity with confidence 0.55. -/
theorem agentic {reasonCode explanation : String} {severity : Severity} {conf : ℚ}
    (hsev : severity ≠ .low) (hconf : 0.55 ≤ conf) :
    Emits .agenticControl .agenticBehavior 0.3025
      [signal reasonCode severity conf .agenticControl explanation .agenticBehavior] := by
  apply singleton
  have hclamp : 0.55 ≤ clamp conf := le_clamp hconf (by norm_num)
  cases severity with
  | low => exact absurd rfl hsev
  | medium =>
      simp only [severityWeight]
      linarith
  | high =>
      simp only [severityWeight]
      linarith

end Emits

theorem emits_modelThinkingCadence (f : Option AgenticBehaviorFeatures) :
    Emits .agenticControl .agenticBehavior 0.3025 (modelThinkingCadence f) := by
  unfold modelThinkingCadence
  split
  · exact .nil
  · dsimp only
    split
    · split_ifs
      all_goals first
        | exact .nil
        | exact .agentic (by simp) (by norm_num)
    · exact .nil

theorem emits_burstPauseActionLoop (f : Option AgenticBehaviorFeatures) :
    Emits .agenticControl .agenticBehavior 0.3025 (burstPauseActionLoop f) := by
  unfold burstPauseActionLoop
  split
  · exact .nil
  next f =>
    dsimp only
    split
    · refine .agentic (by split <;> simp) (le_min (by norm_num) ?_)
      have hbursts : (0 : ℚ) ≤ (f.actionBurstCount.getD 0 : ℕ) := Nat.cast_nonneg _
      linarith
    · exact .nil

theorem emits_largeInstantInputDelta (f : Option AgenticBehaviorFeatures) :
    Emits .agenticControl .agenticBehavior 0.3025 (largeInstantInputDelta f) := by
  unfold largeInstantInputDelta
  split
  · exact .nil
  · dsimp only
    split
    · exact .nil
    · exact .agentic (by split <;> simp) (by split <;> norm_num)

theorem emits_lowExploratoryNoise (f : Option AgenticBehaviorFeatures) :
    Emits .agenticControl .agenticBehavior 0.3025 (lowExploratoryNoise f) := by
  unfold lowExploratoryNoise
  split
  · exact .nil
  · dsimp only
    split
    · split
      · exact .nil
      · exact .agentic (by split <;> simp) (by split_ifs <;> norm_num)
    · exact .nil

theorem emits_structuredRetryPattern (f : Option AgenticBehaviorFeatures) :
    Emits .agenticControl .agenticBehavior 0.3025 (structuredRetryPattern f) := by
  unfold structuredRetryPattern
  split
  · exact .nil
  · dsimp only
    split
    · exact .nil
    · exact .agentic (by split <;> simp) (by split <;> norm_num)

theorem emits_implausibleTaskEfficiency (f : Option AgenticBehaviorFeatures) :
    Emits .agenticControl .agenticBehavior 0.3025 (implausibleTaskEfficiency f) := by
  unfold implausibleTaskEfficiency
  split
  · exact .nil
  · split
    · split
      · exact .nil
      · exact .agentic (by split <;> simp) (by split <;> norm_num)
    · exact .nil

theorem plausibleFloor_pos (expected : ℚ≥0) : 0 < plausibleFloor expected :=
  lt_of_lt_of_le (by norm_num) (le_max_left _ _)

theorem emits_implausibleReadResponseTime (f : Option ChallengeInteractionFeatures) :
    Emits .agenticControl .agenticBehavior 0.3025 (implausibleReadResponseTime f) := by
  unfold implausibleReadResponseTime
  split
  · exact .nil
  · split
    · split
      · exact .nil
      · split
        · exact .nil
        next responseLatency expected _ _ _ hfast =>
          -- below the floor the ratio is under one, which keeps the confidence at 0.55
          have hratio : (responseLatency : ℚ) / plausibleFloor expected ≤ 1 :=
            (div_le_one (plausibleFloor_pos expected)).mpr (not_le.mp hfast).le
          exact .agentic (by split <;> simp) (le_min (by norm_num) (by linarith))
    · exact .nil

theorem emits_uniformTypingCadence (f : Option TypingCadenceFeatures) :
    Emits .automation .typingCadence 0.0875 (uniformTypingCadence f) := by
  unfold uniformTypingCadence
  split
  · exact .nil
  · split
    · exact .nil
    · dsimp only
      split_ifs
      all_goals first
        | exact .nil
        | exact .singleton (by norm_num [severityWeight, clamp])

theorem emits_pasteOrInstantInput (f : Option TypingCadenceFeatures) :
    Emits .automation .inputMethod 0.0875 (pasteOrInstantInput f) := by
  unfold pasteOrInstantInput
  split
  · exact .nil
  · dsimp only
    split_ifs
    all_goals first
      | exact .nil
      | exact .singleton (by norm_num [severityWeight, clamp])

theorem emits_zeroCorrectionPattern (f : Option TypingCadenceFeatures) :
    Emits .automation .typingCadence 0.0875 (zeroCorrectionPattern f) := by
  unfold zeroCorrectionPattern
  split
  · exact .nil
  · dsimp only
    split_ifs
    all_goals first
      | exact .nil
      | exact .singleton (by norm_num [severityWeight, clamp])

/-! ## Counting the shipped signals -/

theorem length_strengths_cons (s : DetectorSignal) (signals : List DetectorSignal)
    (target : ContributionTarget) (category : SignalCategory) :
    (strengths (s :: signals) target category).length =
      (strengths signals target category).length
        + if s.contributionTarget = target ∧ s.category = category then 1 else 0 := by
  by_cases ht : s.contributionTarget = target <;> by_cases hc : s.category = category <;>
    simp [strengths, Dict.bucket, targeted, ht, hc]

theorem length_strengths_append (xs ys : List DetectorSignal) (target : ContributionTarget)
    (category : SignalCategory) :
    (strengths (xs ++ ys) target category).length =
      (strengths xs target category).length + (strengths ys target category).length := by
  simp [strengths, Dict.bucket, targeted]

/-- An emitting detector fills its own bucket at most once and no other bucket. -/
theorem Emits.length_strengths {target : ContributionTarget} {category : SignalCategory}
    {floor : ℚ} {signals : List DetectorSignal} (h : Emits target category floor signals)
    (target' : ContributionTarget) (category' : SignalCategory) :
    (strengths signals target' category').length ≤
      if target' = target ∧ category' = category then 1 else 0 := by
  simp only [strengths, Dict.bucket, targeted, List.length_map]
  split
  · exact le_trans (List.length_filter_le _ _) (le_trans (List.length_filter_le _ _) h.length_le)
  next hne =>
    rw [Nat.le_zero, List.length_eq_zero_iff, List.filter_eq_nil_iff]
    intro s hs
    rw [List.mem_filter] at hs
    obtain ⟨htarget, hcategory⟩ := h.kind s hs.1
    simp only [decide_eq_true_eq] at hs ⊢
    intro hcategory'
    exact hne ⟨by rw [← hs.2, htarget], by rw [← hcategory', hcategory]⟩

theorem mem_strengths {signals : List DetectorSignal} {target : ContributionTarget}
    {category : SignalCategory} {x : ℚ} :
    x ∈ strengths signals target category ↔
      ∃ s ∈ signals, s.contributionTarget = target ∧ s.category = category ∧
        signalStrength s = x := by
  simp only [strengths, Dict.bucket, targeted, List.mem_map, List.mem_filter, decide_eq_true_eq]
  constructor
  · rintro ⟨s, ⟨⟨hs, htarget⟩, hcategory⟩, hx⟩
    exact ⟨s, hs, htarget, hcategory, hx⟩
  · rintro ⟨s, hs, htarget, hcategory, hx⟩
    exact ⟨s, ⟨⟨hs, htarget⟩, hcategory⟩, hx⟩

theorem mem_categories {signals : List DetectorSignal} {target : ContributionTarget}
    {category : SignalCategory} :
    category ∈ categories signals target ↔ 0 < (strengths signals target category).length := by
  rw [List.length_pos_iff_exists_mem]
  simp only [mem_strengths, categories, targeted, List.mem_toFinset, List.mem_map,
    List.mem_filter, decide_eq_true_eq]
  constructor
  · rintro ⟨s, ⟨hs, htarget⟩, hcategory⟩
    exact ⟨_, s, hs, htarget, hcategory, rfl⟩
  · rintro ⟨_, s, hs, htarget, hcategory, rfl⟩
    exact ⟨s, ⟨hs, htarget⟩, hcategory⟩

/-- The three kinds of signal the shipped detectors emit, with their floors. -/
def Shipped (s : DetectorSignal) : Prop :=
  (s.contributionTarget = .automation ∧ s.category = .typingCadence ∧
      0.0875 ≤ signalStrength s) ∨
    (s.contributionTarget = .automation ∧ s.category = .inputMethod ∧
      0.0875 ≤ signalStrength s) ∨
    (s.contributionTarget = .agenticControl ∧ s.category = .agenticBehavior ∧
      0.3025 ≤ signalStrength s)

theorem shipped_of_mem {packet : InteractionFeaturePacket} {s : DetectorSignal}
    (h : s ∈ runHumanPlausibilityDetectors packet) : Shipped s := by
  have hagentic : ∀ {signals}, Emits .agenticControl .agenticBehavior 0.3025 signals →
      s ∈ signals → Shipped s := fun he hs =>
    .inr (.inr ⟨(he.kind s hs).1, (he.kind s hs).2, he.strong s hs⟩)
  have htyping : ∀ {signals}, Emits .automation .typingCadence 0.0875 signals →
      s ∈ signals → Shipped s := fun he hs =>
    .inl ⟨(he.kind s hs).1, (he.kind s hs).2, he.strong s hs⟩
  simp only [runHumanPlausibilityDetectors, runAgenticControlDetectors, List.mem_append] at h
  rcases h with (((h | h) | h) | h) | (((((h | h) | h) | h) | h) | h)
  · exact hagentic (emits_implausibleReadResponseTime _) h
  · exact htyping (emits_uniformTypingCadence _) h
  · have he := emits_pasteOrInstantInput packet.typing
    exact .inr (.inl ⟨(he.kind s h).1, (he.kind s h).2, he.strong s h⟩)
  · exact htyping (emits_zeroCorrectionPattern _) h
  · exact hagentic (emits_modelThinkingCadence _) h
  · exact hagentic (emits_burstPauseActionLoop _) h
  · exact hagentic (emits_largeInstantInputDelta _) h
  · exact hagentic (emits_lowExploratoryNoise _) h
  · exact hagentic (emits_structuredRetryPattern _) h
  · exact hagentic (emits_implausibleTaskEfficiency _) h

section Counts

variable {signals : List DetectorSignal} (hall : ∀ s ∈ signals, Shipped s)

include hall

theorem humanSignalStrength_of_shipped : humanSignalStrength signals = 0 := by
  have hnil : targeted signals .humanPresence = targeted [] .humanPresence := by
    rw [targeted, targeted, List.filter_nil, List.filter_eq_nil_iff]
    intro s hs
    rcases hall s hs with h | h | h <;> simp [h.1]
  rw [humanSignalStrength_eq, targetRisk_of_targeted_eq hnil]
  simp [targetRisk, categoryResidue, strengths, Dict.bucket, targeted, clamp]

/-- The risk signals of a shipped list, counted by bucket. -/
theorem nRiskSignals_of_shipped :
    nRiskSignals signals = (strengths signals .automation .typingCadence).length
      + (strengths signals .automation .inputMethod).length
      + (strengths signals .agenticControl .agenticBehavior).length := by
  induction signals with
  | nil => rfl
  | cons s signals ih =>
      have hrest := ih fun x hx => hall x (List.mem_cons_of_mem s hx)
      have hcons : nRiskSignals (s :: signals) = nRiskSignals signals + 1 := by
        rcases hall s List.mem_cons_self with h | h | h <;> simp [nRiskSignals, h.1]
      rw [hcons, hrest, length_strengths_cons, length_strengths_cons, length_strengths_cons]
      rcases hall s List.mem_cons_self with h | h | h <;> simp [h.1, h.2.1] <;> omega

theorem categories_automation_of_shipped :
    categories signals .automation ⊆ {.typingCadence, .inputMethod} := by
  intro category hcategory
  rw [mem_categories, List.length_pos_iff_exists_mem] at hcategory
  obtain ⟨x, hx⟩ := hcategory
  obtain ⟨s, hs, htarget, rfl, -⟩ := mem_strengths.mp hx
  rcases hall s hs with h | h | h
  · simp [h.2.1]
  · simp [h.2.1]
  · simp [h.1] at htarget

theorem categories_agenticControl_of_shipped :
    categories signals .agenticControl ⊆ {.agenticBehavior} := by
  intro category hcategory
  rw [mem_categories, List.length_pos_iff_exists_mem] at hcategory
  obtain ⟨x, hx⟩ := hcategory
  obtain ⟨s, hs, htarget, rfl, -⟩ := mem_strengths.mp hx
  rcases hall s hs with h | h | h
  · simp [h.1] at htarget
  · simp [h.1] at htarget
  · simp [h.2.1]

/-- The number of risk categories, as one indicator for each bucket that can fill. -/
theorem totalRiskCats_of_shipped :
    totalRiskCats signals =
      (if 0 < (strengths signals .automation .typingCadence).length then 1 else 0)
      + (if 0 < (strengths signals .automation .inputMethod).length then 1 else 0)
      + (if 0 < (strengths signals .agenticControl .agenticBehavior).length then 1 else 0) := by
  have hauto : categories signals .automation =
      ({.typingCadence, .inputMethod} : Finset SignalCategory).filter
        (fun c => 0 < (strengths signals .automation c).length) := by
    ext c
    rw [Finset.mem_filter, ← mem_categories]
    exact ⟨fun h => ⟨categories_automation_of_shipped hall h, h⟩, And.right⟩
  have hagentic : categories signals .agenticControl =
      ({.agenticBehavior} : Finset SignalCategory).filter
        (fun c => 0 < (strengths signals .agenticControl c).length) := by
    ext c
    rw [Finset.mem_filter, ← mem_categories]
    exact ⟨fun h => ⟨categories_agenticControl_of_shipped hall h, h⟩, And.right⟩
  rw [totalRiskCats_eq, hauto, hagentic]
  simp only [Finset.card_filter]
  rw [Finset.sum_insert (by decide), Finset.sum_singleton, Finset.sum_singleton]

end Counts

/-- The buckets the shipped detectors can fill, by the detectors that fill them. -/
theorem length_strengths_shipped (packet : InteractionFeaturePacket) :
    (strengths (runHumanPlausibilityDetectors packet) .automation .typingCadence).length ≤ 2 ∧
      (strengths (runHumanPlausibilityDetectors packet) .automation .inputMethod).length ≤ 1 := by
  have h1 := (emits_implausibleReadResponseTime packet.challenge).length_strengths .automation
  have h2 := (emits_uniformTypingCadence packet.typing).length_strengths .automation
  have h3 := (emits_pasteOrInstantInput packet.typing).length_strengths .automation
  have h4 := (emits_zeroCorrectionPattern packet.typing).length_strengths .automation
  have h5 := (emits_modelThinkingCadence packet.agentic).length_strengths .automation
  have h6 := (emits_burstPauseActionLoop packet.agentic).length_strengths .automation
  have h7 := (emits_largeInstantInputDelta packet.agentic).length_strengths .automation
  have h8 := (emits_lowExploratoryNoise packet.agentic).length_strengths .automation
  have h9 := (emits_structuredRetryPattern packet.agentic).length_strengths .automation
  have h10 := (emits_implausibleTaskEfficiency packet.agentic).length_strengths .automation
  simp only [reduceCtorEq, false_and, true_and, if_false] at h1 h2 h3 h4 h5 h6 h7 h8 h9 h10
  simp only [runHumanPlausibilityDetectors, runAgenticControlDetectors, length_strengths_append]
  constructor
  · have h2' := h2 .typingCadence
    have h3' := h3 .typingCadence
    have h4' := h4 .typingCadence
    simp only [reduceCtorEq, if_false, if_true] at h2' h3' h4'
    linarith [h1 .typingCadence, h5 .typingCadence, h6 .typingCadence, h7 .typingCadence,
      h8 .typingCadence, h9 .typingCadence, h10 .typingCadence]
  · have h2' := h2 .inputMethod
    have h3' := h3 .inputMethod
    have h4' := h4 .inputMethod
    simp only [reduceCtorEq, if_false, if_true] at h2' h3' h4'
    linarith [h1 .inputMethod, h5 .inputMethod, h6 .inputMethod, h7 .inputMethod,
      h8 .inputMethod, h9 .inputMethod, h10 .inputMethod]

/-! ## Human support of the shipped detectors -/

theorem humanFeatureSupport_le (packet : InteractionFeaturePacket) :
    humanFeatureSupport packet ≤ 0.30 := min_le_left _ _

theorem effectiveHuman_shipped_le (packet : InteractionFeaturePacket) :
    effectiveHuman (runHumanPlausibilityDetectors packet) packet ≤ 0.30 := by
  have hcap := humanFeatureSupport_le packet
  rw [effectiveHuman, humanSignalStrength_of_shipped fun _ => shipped_of_mem]
  exact max_le (by norm_num) ((min_le_right _ _).trans (by linarith))

theorem not_contradictory_shipped (packet : InteractionFeaturePacket) :
    ¬Contradictory (runHumanPlausibilityDetectors packet) packet := by
  intro h
  linarith [h.1, effectiveHuman_shipped_le packet]

/-! ## The risk that goes with enough confidence -/

/-- One category already bounds the risk of its target. -/
theorem clamp_le_targetRisk (signals : List DetectorSignal) (target : ContributionTarget)
    (category : SignalCategory) :
    clamp (categoryWeight category * noisyOr (strengths signals target category)) ≤
      targetRisk signals target := by
  have hprod : ∏ c, categoryResidue signals target c ≤ categoryResidue signals target category := by
    rw [← Finset.mul_prod_erase Finset.univ _ (Finset.mem_univ category)]
    exact mul_le_of_le_one_right (categoryResidue_nonneg _ _ _)
      (Finset.prod_le_one (fun c _ => categoryResidue_nonneg _ _ c)
        (fun c _ => categoryResidue_le_one _ _ c))
  unfold targetRisk
  unfold categoryResidue at hprod ⊢
  linarith

/-- A bucket of at least `n` signals, none weaker than `floor`, bounds the risk. -/
theorem le_targetRisk_of_length {signals : List DetectorSignal} {target : ContributionTarget}
    {category : SignalCategory} {floor : ℚ} {n : ℕ} (h0 : 0 ≤ floor) (h1 : floor ≤ 1)
    (hfloor : ∀ x ∈ strengths signals target category, floor ≤ x)
    (hn : n ≤ (strengths signals target category).length) :
    categoryWeight category * (1 - (1 - floor) ^ n) ≤ targetRisk signals target := by
  have hpow : (1 - floor) ^ (strengths signals target category).length ≤ (1 - floor) ^ n :=
    pow_le_pow_of_le_one (by linarith) (by linarith) hn
  have hor := one_sub_pow_le_noisyOr h1 hfloor
  have hweight : categoryWeight category ≤ 1 := by
    cases category <;> norm_num [categoryWeight]
  have hpos : 0 ≤ (1 - floor) ^ n := pow_nonneg (by linarith) n
  have hle : categoryWeight category * (1 - (1 - floor) ^ n) ≤
      categoryWeight category * noisyOr (strengths signals target category) :=
    mul_le_mul_of_nonneg_left (by linarith) (categoryWeight_pos category).le
  have hone : categoryWeight category * (1 - (1 - floor) ^ n) ≤ 1 := by
    have := mul_le_of_le_one_right (categoryWeight_pos category).le
      (show 1 - (1 - floor) ^ n ≤ 1 by linarith)
    linarith
  exact (le_clamp hle hone).trans (clamp_le_targetRisk signals target category)

/-- `allow` at a risk below 0.30 needs a sufficiency above 10/13. -/
theorem sufficiency_of_allow {signals : List DetectorSignal} {packet : InteractionFeaturePacket}
    (hside : ¬Contradictory signals packet) (hrisk : adjustedRisk signals packet < 0.30)
    (hconf : 0.50 ≤ confidence signals packet) : 10 / 13 < sufficiency signals := by
  have hs := (evidenceSufficiency_mem (totalRiskCats signals) (nRiskSignals signals)).1
  rw [confidence_eq, contradictionFactor_of_not_contradictory _ _ hside] at hconf
  rw [sufficiency] at hconf ⊢
  have hprod : evidenceSufficiency (totalRiskCats signals) (nRiskSignals signals) *
      (0.5 + adjustedRisk signals packet * 0.5) <
        evidenceSufficiency (totalRiskCats signals) (nRiskSignals signals) * 0.65 :=
    mul_lt_mul_of_pos_left (by linarith) (by linarith)
  linarith

/-- So much sufficiency takes three categories, or two with at least four signals. -/
theorem counts_of_sufficiency {c n : ℕ} (h : 10 / 13 < evidenceSufficiency c n) :
    3 ≤ c ∨ (c = 2 ∧ 4 ≤ n) := by
  by_contra hcontra
  rw [not_or, not_le] at hcontra
  obtain ⟨hc, hn⟩ := hcontra
  have hbound : evidenceSufficiency c n ≤ 23 / 30 := by
    rcases (by omega : c ≤ 1 ∨ (c ≤ 2 ∧ n ≤ 3)) with h1 | h2
    · calc
        evidenceSufficiency c n ≤ evidenceSufficiency 1 (n + 4) :=
          evidenceSufficiency_mono h1 (by omega)
        _ ≤ 23 / 30 := by
          have hn : (1 : ℚ) ≤ ((n + 4 : ℕ) : ℚ) / 4 := by
            push_cast
            have : (0 : ℚ) ≤ n := Nat.cast_nonneg n
            linarith
          rw [evidenceSufficiency, if_neg (by omega), min_eq_left hn]
          norm_num [clamp]
    · calc
        evidenceSufficiency c n ≤ evidenceSufficiency 2 3 := evidenceSufficiency_mono h2.1 h2.2
        _ ≤ 23 / 30 := by norm_num [evidenceSufficiency, clamp]
  linarith

theorem le_combinedRisk {signals : List DetectorSignal} {a g bonus : ℚ}
    (ha : a ≤ automationRisk signals) (ha1 : a ≤ 1) (hg : g ≤ agenticRisk signals) (hg1 : g ≤ 1)
    (hbonus : bonus ≤ corroborationBonus signals)
    (hone : 1 - (1 - a) * (1 - g) + bonus ≤ 1) :
    1 - (1 - a) * (1 - g) + bonus ≤ combinedRisk signals := by
  have hmul : (1 - clamp (automationRisk signals)) * (1 - clamp (agenticRisk signals)) ≤
      (1 - a) * (1 - g) :=
    mul_le_mul (sub_le_sub_left (le_clamp ha ha1) 1) (sub_le_sub_left (le_clamp hg hg1) 1)
      (sub_nonneg.mpr (clamp_le_one _)) (by linarith)
  have hpair := noisyOr_pair (automationRisk signals) (agenticRisk signals)
  unfold combinedRisk
  rw [productOfComplements_eq_noisyOr]
  exact le_clamp (by linarith) hone

/-- At the feature cap a combined risk of 0.38 stays in the upper bands. -/
theorem adjustedRisk_shipped_ge {packet : InteractionFeaturePacket}
    (h : 0.38 ≤ combinedRisk (runHumanPlausibilityDetectors packet)) :
    0.30 ≤ adjustedRisk (runHumanPlausibilityDetectors packet) packet := by
  have hhuman := effectiveHuman_shipped_le packet
  rw [adjustedRisk_of_not_contradictory _ _ (not_contradictory_shipped packet), reducedRisk_eq]
  calc
    (0.30 : ℚ) ≤ 0.38 * 0.82 := by norm_num
    _ ≤ _ := mul_le_mul h (by linarith) (by norm_num) (combinedRisk_nonneg _)

/-- Enough confidence for `allow` always comes with too much risk for it. -/
theorem combinedRisk_shipped_ge {packet : InteractionFeaturePacket}
    (h : 10 / 13 < sufficiency (runHumanPlausibilityDetectors packet)) :
    0.38 ≤ combinedRisk (runHumanPlausibilityDetectors packet) := by
  have hall : ∀ s ∈ runHumanPlausibilityDetectors packet, Shipped s := fun _ => shipped_of_mem
  have hcounts := counts_of_sufficiency h
  have hlengths := length_strengths_shipped packet
  have hcats := totalRiskCats_of_shipped hall
  have hsignals := nRiskSignals_of_shipped hall
  have hagentic : ∀ x ∈ strengths (runHumanPlausibilityDetectors packet) .agenticControl
      .agenticBehavior, (0.3025 : ℚ) ≤ x := by
    intro x hx
    obtain ⟨s, hs, htarget, hcategory, rfl⟩ := mem_strengths.mp hx
    rcases hall s hs with hk | hk | hk
    · simp [hk.1] at htarget
    · simp [hk.1] at htarget
    · exact hk.2.2
  have htyping : ∀ x ∈ strengths (runHumanPlausibilityDetectors packet) .automation
      .typingCadence, (0.0875 : ℚ) ≤ x := by
    intro x hx
    obtain ⟨s, hs, htarget, hcategory, rfl⟩ := mem_strengths.mp hx
    rcases hall s hs with hk | hk | hk
    · exact hk.2.2
    · simp [hk.2.1] at hcategory
    · simp [hk.1] at htarget
  generalize hsig : runHumanPlausibilityDetectors packet = signals at *
  rcases hcounts with hthree | ⟨htwo, hfour⟩
  · -- all three buckets are filled: one typing, one agentic signal and the bonus
    have hfill : 1 ≤ (strengths signals .automation .typingCadence).length ∧
        1 ≤ (strengths signals .agenticControl .agenticBehavior).length := by
      rw [hcats] at hthree
      split_ifs at hthree <;> omega
    have ha := le_targetRisk_of_length (by norm_num) (by norm_num) htyping hfill.1
    have hg := le_targetRisk_of_length (by norm_num) (by norm_num) hagentic hfill.2
    rw [← automationRisk_eq] at ha
    rw [← agenticRisk_eq] at hg
    have hbonus : 0.1 ≤ corroborationBonus signals := by
      have hge : (2 : ℚ) ≤ ((totalRiskCats signals - 1 : ℕ) : ℚ) := by
        exact_mod_cast (by omega : 2 ≤ totalRiskCats signals - 1)
      exact le_clamp (le_min (by norm_num) (by linarith)) (by norm_num)
    refine le_trans ?_ (le_combinedRisk ha ?_ hg ?_ hbonus ?_) <;> norm_num [categoryWeight]
  · -- two buckets hold four signals, so at least two of them are agentic
    have hfill : 2 ≤ (strengths signals .agenticControl .agenticBehavior).length := by
      rw [hcats] at htwo
      split_ifs at htwo <;> omega
    have hg := le_targetRisk_of_length (by norm_num) (by norm_num) hagentic hfill
    rw [← agenticRisk_eq] at hg
    have ha : 0 ≤ automationRisk signals := by
      rw [automationRisk_eq]
      exact targetRisk_nonneg _ _
    have hbonus : 0 ≤ corroborationBonus signals := clamp_nonneg _
    refine le_trans ?_ (le_combinedRisk ha ?_ hg ?_ hbonus ?_) <;> norm_num [categoryWeight]

/-- The shipped detectors reach neither the contradiction penalty nor `allow`. -/
theorem scoreInteraction_shipped_never_allows (packet : InteractionFeaturePacket)
    (enforcementMode : EnforcementMode) (uuidHex : String) :
    ¬Contradictory (runHumanPlausibilityDetectors packet) packet ∧
      (scoreInteraction (runHumanPlausibilityDetectors packet) packet enforcementMode
        uuidHex).recommendedAction ≠ .allow := by
  have hside := not_contradictory_shipped packet
  refine ⟨hside, fun hallow => ?_⟩
  obtain ⟨hrisk, hconf⟩ := recommendedAction_eq_allow_iff.mp hallow
  have hcomb := combinedRisk_shipped_ge (sufficiency_of_allow hside hrisk hconf)
  linarith [adjustedRisk_shipped_ge hcomb]

end TruePresenceESE.Scoring
