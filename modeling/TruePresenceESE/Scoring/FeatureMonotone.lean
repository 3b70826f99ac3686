import TruePresenceESE.Scoring.Reachability

/-! # Monotonicity of the likelihoods in the raw features

`MoreSuspicious p q` moves any number of features of `p` in their suspicious
direction and keeps which fields are present. Every detector then emits on `q`
at least what it emits on `p`, and the human support of `q` is no higher, so
both risk likelihoods are at least as high.
-/

namespace TruePresenceESE.Scoring

open Sdk Detectors NoisyOr Rounding

/-! ## The order on features -/

structure TypingSuspicion (p q : TypingCadenceFeatures) : Prop where
  meanInterKeyIntervalMs : p.meanInterKeyIntervalMs = q.meanInterKeyIntervalMs
  interKeyIntervalStddevMs : p.interKeyIntervalStddevMs = q.interKeyIntervalStddevMs
  charactersPerMinute : p.charactersPerMinute = q.charactersPerMinute
  correctionCount : Option.Rel (· ≥ ·) p.correctionCount q.correctionCount
  correctionRate : p.correctionRate = q.correctionRate
  pasteCount : Option.Rel (· ≤ ·) p.pasteCount q.pasteCount
  focusToFirstInputMs : Option.Rel (· ≥ ·) p.focusToFirstInputMs q.focusToFirstInputMs
  promptRenderToFirstInputMs :
    Option.Rel (· ≥ ·) p.promptRenderToFirstInputMs q.promptRenderToFirstInputMs
  typingDurationMs : Option.Rel (· ≥ ·) p.typingDurationMs q.typingDurationMs
  lastInputToSubmitMs : p.lastInputToSubmitMs = q.lastInputToSubmitMs

/-- The challenge section shares some field names with the typing section; they
may move the same way. -/
structure ChallengeSuspicion (p q : ChallengeInteractionFeatures) : Prop where
  challengeType : p.challengeType = q.challengeType
  responseLatencyMs : Option.Rel (· ≥ ·) p.responseLatencyMs q.responseLatencyMs
  expectedReadingTimeMs : p.expectedReadingTimeMs = q.expectedReadingTimeMs
  promptRenderToFirstInputMs : p.promptRenderToFirstInputMs = q.promptRenderToFirstInputMs
  correctionCount : Option.Rel (· ≥ ·) p.correctionCount q.correctionCount
  pasteCount : Option.Rel (· ≤ ·) p.pasteCount q.pasteCount
  typingDurationMs : Option.Rel (· ≥ ·) p.typingDurationMs q.typingDurationMs
  submittedExactly : p.submittedExactly = q.submittedExactly

structure AgenticSuspicion (p q : AgenticBehaviorFeatures) : Prop where
  actionBurstCount : Option.Rel (· ≤ ·) p.actionBurstCount q.actionBurstCount
  meanBurstIntervalMs : p.meanBurstIntervalMs = q.meanBurstIntervalMs
  burstIntervalStddevMs : p.burstIntervalStddevMs = q.burstIntervalStddevMs
  idleToActionLatencyMs : p.idleToActionLatencyMs = q.idleToActionLatencyMs
  exploratoryActionCount : Option.Rel (· ≥ ·) p.exploratoryActionCount q.exploratoryActionCount
  routeDirectnessScore : Option.Rel (· ≤ ·) p.routeDirectnessScore q.routeDirectnessScore
  largeInstantDeltaCount : Option.Rel (· ≤ ·) p.largeInstantDeltaCount q.largeInstantDeltaCount
  submitAfterInstantInputMs :
    Option.Rel (· ≥ ·) p.submitAfterInstantInputMs q.submitAfterInstantInputMs
  structuredRetryCount : Option.Rel (· ≤ ·) p.structuredRetryCount q.structuredRetryCount
  validationRepairCount : Option.Rel (· ≤ ·) p.validationRepairCount q.validationRepairCount

structure MoreSuspicious (p q : InteractionFeaturePacket) : Prop where
  surface : p.surface = q.surface
  siteId : p.siteId = q.siteId
  tenantId : p.tenantId = q.tenantId
  sessionId : p.sessionId = q.sessionId
  pageContext : p.pageContext = q.pageContext
  typing : Option.Rel TypingSuspicion p.typing q.typing
  pointer : p.pointer = q.pointer
  challenge : Option.Rel ChallengeSuspicion p.challenge q.challenge
  agentic : Option.Rel AgenticSuspicion p.agentic q.agentic
  sessionContinuity : p.sessionContinuity = q.sessionContinuity
  environment : p.environment = q.environment
  externalRiskProvider : p.externalRiskProvider = q.externalRiskProvider
  metadata : p.metadata = q.metadata

/-! ## Reading related optional fields -/

theorem getD_le_of_rel {a b : Option ℕ} (h : Option.Rel (· ≤ ·) a b) : a.getD 0 ≤ b.getD 0 := by
  cases h with
  | none => exact le_rfl
  | some h => exact h

/-- An upper bound met by the larger value is met by the smaller one. -/
theorem any_le_of_rel {a b : Option ℚ≥0} {bound : ℚ≥0} (h : Option.Rel (· ≥ ·) a b)
    (ha : a.any (· ≤ bound) = true) : b.any (· ≤ bound) = true := by
  cases h with
  | none => exact ha
  | some h =>
      simp only [Option.any_some, decide_eq_true_eq] at ha ⊢
      exact le_trans h ha

/-- A lower bound met by the smaller value is met by the larger one. -/
theorem any_ge_of_rel {a b : Option ℚ≥0} {bound : ℚ≥0} (h : Option.Rel (· ≥ ·) a b)
    (hb : b.any (bound ≤ ·) = true) : a.any (bound ≤ ·) = true := by
  cases h with
  | none => exact hb
  | some h =>
      simp only [Option.any_some, decide_eq_true_eq] at hb ⊢
      exact le_trans hb h

/-! ## Emission is monotone -/

namespace Dominated

variable {target : ContributionTarget} {category : SignalCategory}
  {reasonCode reasonCode' explanation explanation' : String}

theorem nil (signals : List DetectorSignal) : Dominated [] signals := List.SublistForall₂.nil

theorem signal {severity severity' : Severity} {conf conf' : ℚ}
    (hsev : severityWeight severity ≤ severityWeight severity') (hconf : conf ≤ conf') :
    Dominated [Detectors.signal reasonCode severity conf target explanation category]
      [Detectors.signal reasonCode' severity' conf' target explanation' category] := by
  refine .cons ⟨rfl, rfl, ?_⟩ .nil
  exact mul_le_mul hsev (clamp_mono hconf) (clamp_nonneg conf) (severityWeight_pos severity').le

/-- A detector over an optional section follows its behaviour on present sections. -/
theorem of_rel {α : Type} {R : α → α → Prop} {a b : Option α}
    {detector : Option α → List DetectorSignal} (h : Option.Rel R a b)
    (hd : ∀ {x y}, R x y → Dominated (detector (some x)) (detector (some y))) :
    Dominated (detector a) (detector b) := by
  cases h with
  | none => exact .refl _
  | some h => exact hd h

/-- Two tiers switched by a condition that only gets easier. -/
theorem tier {P Q : Prop} [Decidable P] [Decidable Q] {strong weak : ℚ} (h : P → Q)
    (hle : weak ≤ strong) :
    Dominated [Detectors.signal reasonCode (if P then .high else .medium)
        (if P then strong else weak) target explanation category]
      [Detectors.signal reasonCode' (if Q then .high else .medium)
        (if Q then strong else weak) target explanation' category] := by
  by_cases hP : P
  · simp only [if_pos hP, if_pos (h hP)]
    exact .signal le_rfl le_rfl
  · simp only [if_neg hP]
    split
    · exact .signal (by norm_num [severityWeight]) hle
    · exact .signal le_rfl le_rfl

end Dominated

section Agentic

variable {p q : AgenticBehaviorFeatures} (h : AgenticSuspicion p q)

include h

theorem modelThinkingCadence_mono :
    Dominated (modelThinkingCadence (some p)) (modelThinkingCadence (some q)) := by
  have hbursts := getD_le_of_rel h.actionBurstCount
  simp only [modelThinkingCadence, agenticSignal, ← h.meanBurstIntervalMs,
    ← h.burstIntervalStddevMs, ← h.idleToActionLatencyMs]
  split
  next meanInterval stddev _ _ =>
    by_cases h3 : p.actionBurstCount.getD 0 < 3
    · rw [if_pos h3]
      exact .nil _
    · have h3' : ¬q.actionBurstCount.getD 0 < 3 := by omega
      rw [if_neg h3, if_neg h3']
      split
      · exact .nil _
      · split
        · exact .nil _
        · -- the idle bump is the same on both sides, and only the burst count moves the tier
          have hregular : 4 ≤ p.actionBurstCount.getD 0 ∧ 2200 ≤ meanInterval ∧ stddev ≤ 180 →
              4 ≤ q.actionBurstCount.getD 0 ∧ 2200 ≤ meanInterval ∧ stddev ≤ 180 :=
            fun hp => ⟨hp.1.trans hbursts, hp.2⟩
          by_cases hp : 4 ≤ p.actionBurstCount.getD 0 ∧ 2200 ≤ meanInterval ∧ stddev ≤ 180
          · simp only [if_pos hp, if_pos (hregular hp)]
            exact .signal le_rfl le_rfl
          · simp only [if_neg hp]
            by_cases hq : 4 ≤ q.actionBurstCount.getD 0 ∧ 2200 ≤ meanInterval ∧ stddev ≤ 180
            · simp only [if_pos hq]
              refine .signal (by norm_num [severityWeight]) ?_
              split <;> norm_num
            · simp only [if_neg hq]
              exact .signal le_rfl le_rfl
  next => exact .nil _

theorem burstPauseActionLoop_mono :
    Dominated (burstPauseActionLoop (some p)) (burstPauseActionLoop (some q)) := by
  have hbursts := getD_le_of_rel h.actionBurstCount
  simp only [burstPauseActionLoop, agenticSignal, burstPauseReached, ← h.meanBurstIntervalMs,
    Bool.and_eq_true, decide_eq_true_eq]
  by_cases hp : 3 ≤ p.actionBurstCount.getD 0 ∧ p.meanBurstIntervalMs.any (900 ≤ ·)
  · have hq : 3 ≤ q.actionBurstCount.getD 0 ∧ p.meanBurstIntervalMs.any (900 ≤ ·) :=
      ⟨hp.1.trans hbursts, hp.2⟩
    rw [if_pos hp, if_pos hq]
    have hcast : (p.actionBurstCount.getD 0 : ℚ) ≤ q.actionBurstCount.getD 0 := by
      exact_mod_cast hbursts
    refine .signal ?_ (min_le_min le_rfl (by linarith))
    split_ifs
    · exact le_rfl
    · norm_num [severityWeight]
    · omega
    · exact le_rfl
  · rw [if_neg hp]
    exact .nil _

theorem largeInstantInputDelta_mono :
    Dominated (largeInstantInputDelta (some p)) (largeInstantInputDelta (some q)) := by
  have hdelta := getD_le_of_rel h.largeInstantDeltaCount
  simp only [largeInstantInputDelta, agenticSignal]
  by_cases h0 : p.largeInstantDeltaCount.getD 0 = 0
  · rw [if_pos h0]
    exact .nil _
  · have h0' : q.largeInstantDeltaCount.getD 0 ≠ 0 := by omega
    rw [if_neg h0, if_neg h0']
    refine .tier ?_ (by norm_num)
    rintro (hcount | hsubmit)
    · exact .inl (hcount.trans hdelta)
    · exact .inr (any_le_of_rel h.submitAfterInstantInputMs hsubmit)

theorem lowExploratoryNoise_mono :
    Dominated (lowExploratoryNoise (some p)) (lowExploratoryNoise (some q)) := by
  have hexploratory := h.exploratoryActionCount
  have hdirectness := h.routeDirectnessScore
  simp only [lowExploratoryNoise, agenticSignal]
  revert hexploratory hdirectness
  generalize p.exploratoryActionCount = pe, q.exploratoryActionCount = qe
  generalize p.routeDirectnessScore = pd, q.routeDirectnessScore = qd
  intro hexploratory hdirectness
  cases hexploratory with
  | none => exact .nil _
  | @some ep eq he =>
      cases hdirectness with
      | none => exact .nil _
      | @some dp dq hd =>
          have hd' : dp.val ≤ dq.val := hd
          dsimp only
          by_cases hp : 1 < ep ∨ dp.val < 0.85
          · rw [if_pos hp]
            exact .nil _
          · have hq : ¬(1 < eq ∨ dq.val < 0.85) := by
              rw [not_or, not_lt, not_lt] at hp ⊢
              exact ⟨le_trans he hp.1, hp.2.trans hd'⟩
            rw [if_neg hp, if_neg hq]
            by_cases htop : dp.val < 0.95
            · by_cases htop' : dq.val < 0.95
              · simp only [if_pos htop, if_pos htop']
                exact .signal le_rfl le_rfl
              · simp only [if_pos htop, if_neg htop']
                refine .signal (by norm_num [severityWeight]) ?_
                simp only [if_true, reduceCtorEq, if_false]
                norm_num
            · have htop' : ¬dq.val < 0.95 := by linarith
              simp only [if_neg htop, if_neg htop']
              exact .signal le_rfl le_rfl

theorem structuredRetryPattern_mono :
    Dominated (structuredRetryPattern (some p)) (structuredRetryPattern (some q)) := by
  have hretries := getD_le_of_rel h.structuredRetryCount
  have hrepairs := getD_le_of_rel h.validationRepairCount
  simp only [structuredRetryPattern, agenticSignal]
  by_cases hp : p.structuredRetryCount.getD 0 < 2 ∧ p.validationRepairCount.getD 0 < 2
  · rw [if_pos hp]
    exact .nil _
  · have hq : ¬(q.structuredRetryCount.getD 0 < 2 ∧ q.validationRepairCount.getD 0 < 2) := by
      omega
    rw [if_neg hp, if_neg hq]
    refine .tier ?_ (by norm_num)
    omega

theorem implausibleTaskEfficiency_mono :
    Dominated (implausibleTaskEfficiency (some p)) (implausibleTaskEfficiency (some q)) := by
  have hdirectness := h.routeDirectnessScore
  have hsubmit := h.submitAfterInstantInputMs
  have hexploratory := h.exploratoryActionCount
  simp only [implausibleTaskEfficiency, agenticSignal, ← h.idleToActionLatencyMs]
  revert hexploratory hdirectness hsubmit
  generalize p.exploratoryActionCount = pe, q.exploratoryActionCount = qe
  generalize p.routeDirectnessScore = pd, q.routeDirectnessScore = qd
  generalize p.submitAfterInstantInputMs = ps, q.submitAfterInstantInputMs = qs
  generalize p.idleToActionLatencyMs = idle
  intro hdirectness hsubmit hexploratory
  cases hdirectness with
  | none => exact .nil _
  | @some dp dq hd =>
      cases idle with
      | none => exact .nil _
      | some idle =>
          cases hsubmit with
          | none => exact .nil _
          | @some sp sq hs =>
              cases hexploratory with
              | none => exact .nil _
              | @some ep eq he =>
                  have hd' : dp.val ≤ dq.val := hd
                  dsimp only
                  by_cases hp : dp.val < 0.9 ∨ 250 < idle ∨ 450 < sp ∨ 1 < ep
                  · rw [if_pos hp]
                    exact .nil _
                  · have hq : ¬(dq.val < 0.9 ∨ 250 < idle ∨ 450 < sq ∨ 1 < eq) := by
                      simp only [not_or, not_lt] at hp ⊢
                      exact ⟨hp.1.trans hd', hp.2.1, le_trans hs hp.2.2.1, le_trans he hp.2.2.2⟩
                    rw [if_neg hp, if_neg hq]
                    refine .tier ?_ (by norm_num)
                    exact fun hst => ⟨hst.1.trans hd', hst.2.1, le_trans hs hst.2.2⟩

theorem runAgenticControlDetectors_mono :
    Dominated (runAgenticControlDetectors (some p)) (runAgenticControlDetectors (some q)) :=
  (((((modelThinkingCadence_mono h).append (burstPauseActionLoop_mono h)).append
    (largeInstantInputDelta_mono h)).append (lowExploratoryNoise_mono h)).append
      (structuredRetryPattern_mono h)).append (implausibleTaskEfficiency_mono h)

end Agentic

theorem implausibleReadResponseTime_mono {p q : ChallengeInteractionFeatures}
    (h : ChallengeSuspicion p q) :
    Dominated (implausibleReadResponseTime (some p)) (implausibleReadResponseTime (some q)) := by
  have hlatency := h.responseLatencyMs
  simp only [implausibleReadResponseTime, ← h.expectedReadingTimeMs]
  revert hlatency
  generalize p.responseLatencyMs = pl, q.responseLatencyMs = ql
  generalize p.expectedReadingTimeMs = e
  intro hlatency
  cases hlatency with
  | none => exact .nil _
  | @some lp lq hl =>
      cases e with
      | none => exact .nil _
      | some expected =>
          have hl' : (lq : ℚ) ≤ lp := by exact_mod_cast hl
          dsimp only
          split
          · exact .nil _
          · by_cases hp : plausibleFloor expected ≤ lp
            · rw [if_pos hp]
              exact .nil _
            · have hq : ¬plausibleFloor expected ≤ lq := fun hq => hp (hq.trans hl')
              have hratio : (lq : ℚ) / plausibleFloor expected ≤ lp / plausibleFloor expected :=
                div_le_div_of_nonneg_right hl' (plausibleFloor_pos expected).le
              have hhigh : lp ≤ 300 ∨ (lp : ℚ) / plausibleFloor expected ≤ 0.35 →
                  lq ≤ 300 ∨ (lq : ℚ) / plausibleFloor expected ≤ 0.35 :=
                Or.imp (le_trans hl) hratio.trans
              rw [if_neg hp, if_neg hq]
              refine .signal ?_ (min_le_min le_rfl (by linarith))
              by_cases hs : lp ≤ 300 ∨ (lp : ℚ) / plausibleFloor expected ≤ 0.35
              · rw [if_pos hs, if_pos (hhigh hs)]
              · rw [if_neg hs]
                split <;> norm_num [severityWeight]

section Typing

variable {p q : TypingCadenceFeatures} (h : TypingSuspicion p q)

include h

theorem uniformTypingCadence_mono :
    Dominated (uniformTypingCadence (some p)) (uniformTypingCadence (some q)) := by
  simp only [uniformTypingCadence, ← h.interKeyIntervalStddevMs, ← h.charactersPerMinute]
  exact .refl _

theorem instantInputTriggers_mono : instantInputTriggers p ≤ instantInputTriggers q := by
  have hpaste := getD_le_of_rel h.pasteCount
  have htoNat : ∀ {a b : Bool}, (a = true → b = true) → a.toNat ≤ b.toNat := by decide
  unfold instantInputTriggers
  rw [← h.charactersPerMinute]
  refine Nat.add_le_add (Nat.add_le_add (Nat.add_le_add (Nat.add_le_add ?_ ?_) ?_) ?_) le_rfl
  · exact htoNat (by simpa using fun h0 => lt_of_lt_of_le h0 hpaste)
  · exact htoNat (any_le_of_rel h.focusToFirstInputMs)
  · exact htoNat (any_le_of_rel h.promptRenderToFirstInputMs)
  · exact htoNat (any_le_of_rel h.typingDurationMs)

theorem pasteOrInstantInput_mono :
    Dominated (pasteOrInstantInput (some p)) (pasteOrInstantInput (some q)) := by
  have hpaste := getD_le_of_rel h.pasteCount
  have htriggers := instantInputTriggers_mono h
  simp only [pasteOrInstantInput]
  by_cases h0 : instantInputTriggers p = 0
  · rw [if_pos h0]
    exact .nil _
  · have h0' : instantInputTriggers q ≠ 0 := by omega
    rw [if_neg h0, if_neg h0']
    by_cases h3 : 3 ≤ instantInputTriggers p
    · have h3' : 3 ≤ instantInputTriggers q := h3.trans htriggers
      rw [if_pos h3, if_pos h3']
      exact .signal le_rfl le_rfl
    · rw [if_neg h3]
      by_cases h3' : 3 ≤ instantInputTriggers q
      · rw [if_pos h3']
        split <;> exact .signal (by norm_num [severityWeight]) (by norm_num)
      · rw [if_neg h3']
        by_cases hweak : instantInputTriggers p = 1 ∧ p.pasteCount.getD 0 = 0
        · rw [if_pos hweak]
          split <;> exact .signal (by norm_num [severityWeight]) (by norm_num)
        · -- neither the number of triggers nor the paste count can drop back to the weak tier
          have hweak' : ¬(instantInputTriggers q = 1 ∧ q.pasteCount.getD 0 = 0) := by omega
          rw [if_neg hweak, if_neg hweak']
          exact .signal le_rfl le_rfl

theorem zeroCorrectionPattern_mono :
    Dominated (zeroCorrectionPattern (some p)) (zeroCorrectionPattern (some q)) := by
  have hzero : p.correctionCount = some 0 → q.correctionCount = some 0 := by
    have hcount := h.correctionCount
    revert hcount
    generalize p.correctionCount = pc, q.correctionCount = qc
    intro hcount hp
    cases hcount with
    | none => exact hp
    | some hle =>
        cases hp
        exact congrArg some (Nat.le_zero.mp hle)
  simp only [zeroCorrectionPattern, ← h.correctionRate, ← h.charactersPerMinute,
    ← h.interKeyIntervalStddevMs]
  by_cases hp : p.correctionCount = some 0 ∨ p.correctionRate.any (·.val = 0)
  · rw [if_pos hp, if_pos (hp.imp_left hzero)]
    exact .refl _
  · rw [if_neg hp]
    exact .nil _

theorem typingSupport_anti : typingSupport q ≤ typingSupport p := by
  have hpaste := getD_le_of_rel h.pasteCount
  have hcorrection : q.correctionCount.getD 0 ≤ p.correctionCount.getD 0 := by
    have hcount := h.correctionCount
    revert hcount
    generalize p.correctionCount = pc, q.correctionCount = qc
    intro hcount
    cases hcount with
    | none => exact le_rfl
    | some hle => exact hle
  have hite : ∀ {P Q : Prop} [Decidable P] [Decidable Q] {x : ℚ}, 0 ≤ x → (Q → P) →
      (if Q then x else 0) ≤ if P then x else 0 := by
    intro P Q _ _ x hx himp
    split
    next hQ => rw [if_pos (himp hQ)]
    next => split <;> simp [hx]
  unfold typingSupport
  rw [← h.interKeyIntervalStddevMs, ← h.charactersPerMinute, ← h.correctionRate]
  refine add_le_add (add_le_add (add_le_add le_rfl ?_) ?_) ?_
  · exact hite (by norm_num) (Or.imp_left fun h0 => lt_of_lt_of_le h0 hcorrection)
  · exact hite (by norm_num) fun h0 => by omega
  · exact hite (by norm_num) (any_ge_of_rel h.focusToFirstInputMs)

end Typing

/-! ## The whole run -/

theorem challengeSupport_anti {p q : ChallengeInteractionFeatures} (h : ChallengeSuspicion p q) :
    challengeSupport q ≤ challengeSupport p := by
  have hlatency := h.responseLatencyMs
  unfold challengeSupport
  rw [← h.expectedReadingTimeMs]
  revert hlatency
  generalize p.responseLatencyMs = pl, q.responseLatencyMs = ql
  generalize p.expectedReadingTimeMs = e
  intro hlatency
  cases hlatency with
  | none => exact le_rfl
  | @some lp lq hl =>
      cases e with
      | none => exact le_rfl
      | some expected =>
          have hl' : (lq : ℚ) ≤ lp := by exact_mod_cast hl
          dsimp only
          split
          next hq => rw [if_pos (hq.trans hl')]
          next => split <;> norm_num

theorem getD_map_le_of_rel {α : Type*} {R : α → α → Prop} {a b : Option α} {f : α → ℚ}
    (h : Option.Rel R a b) (hf : ∀ {x y}, R x y → f y ≤ f x) :
    (b.map f).getD 0 ≤ (a.map f).getD 0 := by
  cases h with
  | none => exact le_rfl
  | some h => exact hf h

section Run

variable {p q : InteractionFeaturePacket} (h : MoreSuspicious p q)

include h

theorem humanFeatureSupport_anti : humanFeatureSupport q ≤ humanFeatureSupport p := by
  have htyping := getD_map_le_of_rel h.typing typingSupport_anti
  have hchallenge := getD_map_le_of_rel h.challenge challengeSupport_anti
  unfold humanFeatureSupport
  rw [h.pointer]
  exact min_le_min le_rfl (add_le_add (add_le_add htyping hchallenge) le_rfl)

theorem runHumanPlausibilityDetectors_mono :
    Dominated (runHumanPlausibilityDetectors p) (runHumanPlausibilityDetectors q) := by
  have hchallenge := Dominated.of_rel h.challenge implausibleReadResponseTime_mono
  have huniform := Dominated.of_rel h.typing uniformTypingCadence_mono
  have hpaste := Dominated.of_rel h.typing pasteOrInstantInput_mono
  have hzero := Dominated.of_rel h.typing zeroCorrectionPattern_mono
  have hagentic := Dominated.of_rel h.agentic runAgenticControlDetectors_mono
  exact (((hchallenge.append huniform).append hpaste).append hzero).append hagentic

theorem effectiveHuman_shipped_anti :
    effectiveHuman (runHumanPlausibilityDetectors q) q ≤
      effectiveHuman (runHumanPlausibilityDetectors p) p := by
  have hsupport := humanFeatureSupport_anti h
  rw [effectiveHuman, effectiveHuman, humanSignalStrength_of_shipped fun _ => shipped_of_mem,
    humanSignalStrength_of_shipped fun _ => shipped_of_mem]
  exact clamp_mono (by linarith)

end Run

/-- Both risk likelihoods follow every suspicious move of the raw features. -/
theorem likelihoods_of_moreSuspicious {p q : InteractionFeaturePacket} (h : MoreSuspicious p q)
    (enforcementMode : EnforcementMode) (uuidHex uuidHex' : String) :
    (scoreInteraction (runHumanPlausibilityDetectors p) p enforcementMode
        uuidHex).automationLikelihood ≤
      (scoreInteraction (runHumanPlausibilityDetectors q) q enforcementMode
        uuidHex').automationLikelihood ∧
    (scoreInteraction (runHumanPlausibilityDetectors p) p enforcementMode
        uuidHex).agenticControlLikelihood ≤
      (scoreInteraction (runHumanPlausibilityDetectors q) q enforcementMode
        uuidHex').agenticControlLikelihood := by
  have hdom := runHumanPlausibilityDetectors_mono h
  have hhuman := effectiveHuman_shipped_anti h
  have hone := effectiveHuman_le_one (runHumanPlausibilityDetectors p) p
  have hauto := targetRisk_mono hdom .automation
  have hagentic := targetRisk_mono hdom .agenticControl
  constructor
  · refine rounded_mono (clamp_mono ?_)
    rw [automationRisk_eq, automationRisk_eq]
    exact mul_le_mul hauto (by linarith) (by linarith) (targetRisk_nonneg _ _)
  · refine rounded_mono (clamp_mono ?_)
    rw [agenticRisk_eq, agenticRisk_eq]
    exact mul_le_mul hagentic (by linarith) (by linarith) (targetRisk_nonneg _ _)

/-- Several features of the typing section moved at once. -/
def typedPacket : InteractionFeaturePacket where
  typing := some {
    correctionCount := some 2
    pasteCount := some 0
    focusToFirstInputMs := some 400 }

def pastedPacket : InteractionFeaturePacket where
  typing := some {
    correctionCount := some 0
    pasteCount := some 1
    focusToFirstInputMs := some 20 }

theorem moreSuspicious_pastedPacket : MoreSuspicious typedPacket pastedPacket where
  surface := rfl
  siteId := rfl
  tenantId := rfl
  sessionId := rfl
  pageContext := rfl
  typing := .some {
    meanInterKeyIntervalMs := rfl
    interKeyIntervalStddevMs := rfl
    charactersPerMinute := rfl
    correctionCount := .some (by decide)
    correctionRate := rfl
    pasteCount := .some (by decide)
    focusToFirstInputMs := .some (by decide +kernel)
    promptRenderToFirstInputMs := .none
    typingDurationMs := .none
    lastInputToSubmitMs := rfl }
  pointer := rfl
  challenge := .none
  agentic := .none
  sessionContinuity := rfl
  environment := rfl
  externalRiskProvider := rfl
  metadata := rfl

theorem likelihoods_of_pastedPacket :
    (scoreInteraction (runHumanPlausibilityDetectors typedPacket) typedPacket .observe
        "0").automationLikelihood ≤
      (scoreInteraction (runHumanPlausibilityDetectors pastedPacket) pastedPacket .observe
        "1").automationLikelihood :=
  (likelihoods_of_moreSuspicious moreSuspicious_pastedPacket .observe "0" "1").1

end TruePresenceESE.Scoring
