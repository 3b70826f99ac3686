import TruePresenceESE.Engine.Synthesis

/-! # The order of synthesized states

Only four flags and three numbers reach the rules. One more risk lowers the state
exactly where a rule replaces a step-up by a challenge: a cluster match does so
whatever asked for the step-up, a constant latency before the high-value rule looks.
-/

namespace TruePresenceESE.Engine

open PyValue JsonDict

/-! ## What each rule leaves -/

/-- The confidence that a block needs. -/
def Draft.Sure (draft : Draft) : Prop := 0.75 ≤ draft.confidence

instance (draft : Draft) : Decidable draft.Sure :=
  inferInstanceAs (Decidable (0.75 ≤ draft.confidence))

section
variable {flags : PacketFlags} {tier : Tier} {draft : Draft} {disagreement : ℚ}

@[simp] theorem Draft.state_addReason (code : ReasonCode) :
    (draft.addReason code).state = draft.state := by
  unfold Draft.addReason
  split <;> rfl

@[simp] theorem Draft.confidence_addReason (code : ReasonCode) :
    (draft.addReason code).confidence = draft.confidence := by
  unfold Draft.addReason
  split <;> rfl

theorem stepUpRule_spec :
    (stepUpRule flags draft).state = (if flags.requireStepUp then .stepUpAuth else draft.state) ∧
      ((stepUpRule flags draft).Sure ↔ flags.requireStepUp ∨ draft.Sure) := by
  unfold stepUpRule Draft.Sure
  cases flags.requireStepUp <;> simp [Draft.moveTo]

theorem clusterRule_spec :
    (clusterRule flags tier draft).state =
        (if flags.clusterHigh ∧ tier = .tier2 then .challenge else draft.state) ∧
      ((clusterRule flags tier draft).Sure ↔
        flags.clusterHigh ∧ tier = .tier2 ∨ draft.Sure) := by
  unfold clusterRule Draft.Sure
  cases flags.clusterHigh
  · simp
  · by_cases htier : tier = .tier2
    · simp only [htier, Draft.moveTo, if_true, and_self, true_or, iff_true, true_and]
      exact le_max_of_le_right (by norm_num)
    · simp [htier]

theorem latencyRule_spec :
    (latencyRule flags draft).state =
        (if flags.constantLatency ∧ draft.state = .allow then .challenge else draft.state) ∧
      ((latencyRule flags draft).Sure ↔ draft.Sure) := by
  unfold latencyRule Draft.Sure
  cases flags.constantLatency
  · simp
  · by_cases hallow : draft.state = .allow
    · simp only [Draft.moveTo, Draft.state_addReason, Draft.confidence_addReason, hallow, if_true,
        and_self, le_max_iff, true_and, or_iff_left_iff_imp]
      intro h
      norm_num at h
    · simp [hallow]

theorem highValueRule_spec (hstate : draft.state ≠ .observe) :
    (highValueRule flags tier draft).state =
        (if tier = .tier2 ∧ flags.highValueFlow ∧ draft.state = .allow then .stepUpAuth
          else draft.state) ∧
      ((highValueRule flags tier draft).Sure ↔
        (tier = .tier2 ∧ flags.highValueFlow ∧ draft.state = .allow) ∨ draft.Sure) := by
  unfold highValueRule Draft.Sure
  by_cases hflow : tier = .tier2 ∧ flags.highValueFlow
  · obtain ⟨htier, hflow⟩ := hflow
    by_cases hallow : draft.state = .allow
    · simp only [htier, hflow, hallow, Draft.moveTo, Draft.state_addReason, and_self, if_true,
        true_or, iff_true, true_and]
      exact le_max_of_le_right (by norm_num)
    · simp [htier, hflow, hallow, hstate]
  · rw [if_neg hflow]
    constructor
    · rw [if_neg fun h => hflow ⟨h.1, h.2.1⟩]
    · simp only [iff_or_self]
      exact fun h => absurd ⟨h.1, h.2.1⟩ hflow

theorem disagreementRule_spec :
    (disagreementRule disagreement draft).state =
        (if 0.8 < disagreement then .restrict
          else if 0.5 < disagreement ∧ draft.state = .allow then .elevatedObserve
          else draft.state) ∧
      ((disagreementRule disagreement draft).Sure ↔ draft.Sure) := by
  have hsure : ∀ bound : ℚ, bound < 0.75 →
      (0.75 ≤ max draft.confidence bound ↔ 0.75 ≤ draft.confidence) := by
    intro bound hbound
    rw [le_max_iff, or_iff_left (not_le.mpr hbound)]
  unfold disagreementRule Draft.Sure
  split
  · exact ⟨rfl, by simpa [Draft.moveTo] using hsure 0.65 (by norm_num)⟩
  · split
    · exact ⟨rfl, hsure 0.6 (by norm_num)⟩
    · exact ⟨rfl, Iff.rfl⟩

theorem probabilityRule_state {humanProbability : ℚ} :
    (probabilityRule humanProbability draft).state =
      if humanProbability ≤ 0.25 ∧ draft.Sure then .block
      else if humanProbability ≤ 0.45 ∧ draft.state = .allow then .observe
      else draft.state := by
  unfold probabilityRule
  by_cases hblock : humanProbability ≤ 0.25 ∧ draft.Sure
  · rw [if_pos hblock, if_pos (show humanProbability ≤ 0.25 ∧ 0.75 ≤ draft.confidence from hblock)]
  · rw [if_neg hblock,
      if_neg (show ¬ (humanProbability ≤ 0.25 ∧ 0.75 ≤ draft.confidence) from hblock)]
    by_cases hallow : humanProbability ≤ 0.45 ∧ draft.state = .allow
    · rw [if_pos hallow, if_pos hallow]
    · rw [if_neg hallow, if_neg hallow]

end

/-! ## The state in closed form -/

/-- The state after the four rules on the packet. -/
def flaggedState (flags : PacketFlags) (tier : Tier) : DecisionState :=
  if flags.clusterHigh ∧ tier = .tier2 then .challenge
  else if flags.requireStepUp then .stepUpAuth
  else if flags.constantLatency then .challenge
  else if tier = .tier2 ∧ flags.highValueFlow then .stepUpAuth
  else .allow

/-- Whether these rules make the confidence that a block needs. -/
def FlagsSure (flags : PacketFlags) (tier : Tier) : Prop :=
  flags.requireStepUp ∨ (flags.clusterHigh ∧ tier = .tier2) ∨
    (tier = .tier2 ∧ flags.highValueFlow ∧ ¬ flags.constantLatency)

instance (flags : PacketFlags) (tier : Tier) : Decidable (FlagsSure flags tier) :=
  inferInstanceAs (Decidable (_ ∨ _))

def stateUnder (disagreement : ℚ) (state : DecisionState) : DecisionState :=
  if 0.8 < disagreement then .restrict
  else if 0.5 < disagreement ∧ state = .allow then .elevatedObserve
  else state

/-- Human probability, role confidence and disagreement of a list of reports. -/
structure ReportNumbers where
  humanProbability : ℚ
  roleConfidence : ℚ
  disagreement : ℚ

def settledState (flags : PacketFlags) (tier : Tier) (numbers : ReportNumbers) :
    DecisionState :=
  if numbers.humanProbability ≤ 0.25 ∧ (FlagsSure flags tier ∨ 0.75 ≤ numbers.roleConfidence) then
    .block
  else if numbers.humanProbability ≤ 0.45 ∧
      stateUnder numbers.disagreement (flaggedState flags tier) = .allow then .observe
  else stateUnder numbers.disagreement (flaggedState flags tier)

theorem flaggedRules_spec (flags : PacketFlags) (tier : Tier) (roleConfidence : ℚ) :
    let draft := highValueRule flags tier (latencyRule flags (clusterRule flags tier
      (stepUpRule flags ⟨.allow, "allow", max 0.5 roleConfidence, .low, []⟩)))
    draft.state = flaggedState flags tier ∧
      (draft.Sure ↔ FlagsSure flags tier ∨ 0.75 ≤ roleConfidence) := by
  intro draft
  set start : Draft := ⟨.allow, "allow", max 0.5 roleConfidence, .low, []⟩ with hstart
  have hsure : start.Sure ↔ 0.75 ≤ roleConfidence := by
    unfold Draft.Sure
    rw [hstart, le_max_iff, or_iff_right (by norm_num)]
  obtain ⟨hstate₁, hsure₁⟩ := @stepUpRule_spec flags start
  obtain ⟨hstate₂, hsure₂⟩ := @clusterRule_spec flags tier (stepUpRule flags start)
  obtain ⟨hstate₃, hsure₃⟩ := @latencyRule_spec flags
    (clusterRule flags tier (stepUpRule flags start))
  have hallow : start.state = .allow := rfl
  have hnot : (latencyRule flags (clusterRule flags tier (stepUpRule flags start))).state ≠
      .observe := by
    rw [hstate₃, hstate₂, hstate₁, hallow]
    split_ifs <;> simp
  obtain ⟨hstate₄, hsure₄⟩ := @highValueRule_spec flags tier _ hnot
  constructor
  · rw [hstate₄, hstate₃, hstate₂, hstate₁, hallow]
    unfold flaggedState
    cases flags.requireStepUp <;> cases flags.clusterHigh <;> cases flags.constantLatency <;>
      by_cases htier : tier = .tier2 <;> simp [htier]
  · rw [hsure₄, hsure₃, hsure₂, hsure₁, hsure, hstate₃, hstate₂, hstate₁, hallow]
    unfold FlagsSure
    cases flags.requireStepUp <;> cases flags.clusterHigh <;> cases flags.constantLatency <;>
      by_cases htier : tier = .tier2 <;> simp [htier]

theorem applySynthesisRules_state (flags : PacketFlags) (tier : Tier)
    (numbers : ReportNumbers) :
    (applySynthesisRules flags tier numbers.humanProbability numbers.roleConfidence
      numbers.disagreement).state = settledState flags tier numbers := by
  obtain ⟨hstate, hsure⟩ := flaggedRules_spec flags tier numbers.roleConfidence
  unfold applySynthesisRules
  dsimp only at hstate hsure ⊢
  generalize highValueRule flags tier (latencyRule flags (clusterRule flags tier
      (stepUpRule flags ⟨.allow, "allow", max 0.5 numbers.roleConfidence, .low, []⟩))) =
    draft at hstate hsure ⊢
  obtain ⟨hstate', hsure'⟩ :=
    @disagreementRule_spec draft numbers.disagreement
  rw [hstate] at hstate'
  rw [hsure] at hsure'
  rw [probabilityRule_state, hstate']
  exact if_congr (and_congr_right' hsure') rfl rfl

/-! ## Where more risk keeps the order -/

/-- The states the flags lead to. -/
theorem flaggedState_cases (flags : PacketFlags) (tier : Tier) :
    flaggedState flags tier = .allow ∨ flaggedState flags tier = .challenge ∨
      flaggedState flags tier = .stepUpAuth := by
  unfold flaggedState
  split_ifs <;> simp

section
variable {flags flags' : PacketFlags} {tier : Tier} {numbers numbers' : ReportNumbers}
  {disagreement disagreement' : ℚ} {state state' : DecisionState}

theorem stateUnder_mono (hstate : state = .allow ∨ state = .challenge ∨ state = .stepUpAuth)
    (hstate' : state' = .allow ∨ state' = .challenge ∨ state' = .stepUpAuth)
    (h : state.severity ≤ state'.severity) (hdisagreement : disagreement ≤ disagreement') :
    (stateUnder disagreement state).severity ≤ (stateUnder disagreement' state').severity := by
  unfold stateUnder
  by_cases hmuch : 0.8 < disagreement
  · rw [if_pos hmuch, if_pos (hmuch.trans_le hdisagreement)]
  · rw [if_neg hmuch]
    by_cases hmuch' : 0.8 < disagreement'
    · rw [if_pos hmuch']
      rcases hstate with rfl | rfl | rfl <;> split_ifs <;> decide
    · rw [if_neg hmuch']
      by_cases hsome : 0.5 < disagreement
      · have hsome' := hsome.trans_le hdisagreement
        rcases hstate with rfl | rfl | rfl <;> rcases hstate' with rfl | rfl | rfl <;>
          simp_all [DecisionState.severity]
      · rw [if_neg fun h => hsome h.1]
        split
        · rename_i hallow'
          rcases hstate with rfl | rfl | rfl <;> rcases hstate' with rfl | rfl | rfl <;>
            simp_all [DecisionState.severity]
        · exact h

theorem settledState_le_block (flags : PacketFlags) (tier : Tier) (numbers : ReportNumbers) :
    (settledState flags tier numbers).severity ≤ DecisionState.block.severity := by
  unfold settledState stateUnder
  rcases flaggedState_cases flags tier with hstate | hstate | hstate <;> rw [hstate] <;>
    split_ifs <;> decide

/-- A block tops every state, otherwise the flags and the disagreement decide. -/
theorem settledState_mono
    (hstate : (flaggedState flags tier).severity ≤ (flaggedState flags' tier).severity)
    (hsure : FlagsSure flags tier → FlagsSure flags' tier)
    (hprobability : numbers'.humanProbability ≤ numbers.humanProbability)
    (hconfidence : numbers.roleConfidence = numbers'.roleConfidence)
    (hdisagreement : numbers.disagreement ≤ numbers'.disagreement) :
    (settledState flags tier numbers).severity ≤ (settledState flags' tier numbers').severity := by
  have hunder := stateUnder_mono (flaggedState_cases flags tier) (flaggedState_cases flags' tier)
    hstate hdisagreement
  by_cases hblock' : numbers'.humanProbability ≤ 0.25 ∧
      (FlagsSure flags' tier ∨ 0.75 ≤ numbers'.roleConfidence)
  · have htop : settledState flags' tier numbers' = .block := if_pos hblock'
    rw [htop]
    exact settledState_le_block flags tier numbers
  · have hblock : ¬ (numbers.humanProbability ≤ 0.25 ∧
        (FlagsSure flags tier ∨ 0.75 ≤ numbers.roleConfidence)) := by
      rintro ⟨hlow, hsure'⟩
      exact hblock' ⟨hprobability.trans hlow, hsure'.imp hsure (hconfidence ▸ ·)⟩
    unfold settledState
    rw [if_neg hblock, if_neg hblock']
    generalize stateUnder numbers.disagreement (flaggedState flags tier) = under at hunder ⊢
    generalize stateUnder numbers'.disagreement (flaggedState flags' tier) = under' at hunder ⊢
    by_cases hallow' : under' = .allow
    · subst hallow'
      obtain rfl : under = .allow := by
        cases under <;> simp_all [DecisionState.severity]
      by_cases hlow : numbers.humanProbability ≤ 0.45
      · rw [if_pos ⟨hlow, rfl⟩, if_pos ⟨hprobability.trans hlow, rfl⟩]
      · rw [if_neg (fun h => hlow h.1)]
        exact Nat.zero_le _
    · rw [if_neg (fun h : _ ∧ under' = .allow => hallow' h.2)]
      split
      · cases under' <;> simp_all [DecisionState.severity]
      · exact hunder

theorem settledState_of_sure (hlow : numbers.humanProbability ≤ 0.25)
    (hsure : FlagsSure flags tier ∨ 0.75 ≤ numbers.roleConfidence) :
    settledState flags tier numbers = .block := if_pos ⟨hlow, hsure⟩

/-- Without a block, disagreement above the bound restricts. -/
theorem settledState_of_disagreement
    (hblock : ¬ (numbers.humanProbability ≤ 0.25 ∧
      (FlagsSure flags tier ∨ 0.75 ≤ numbers.roleConfidence)))
    (hmuch : 0.8 < numbers.disagreement) : settledState flags tier numbers = .restrict := by
  unfold settledState stateUnder
  rw [if_neg hblock, if_pos hmuch]
  simp

/-- Without either, what the flags ask for stands. -/
theorem settledState_of_flagged
    (hblock : ¬ (numbers.humanProbability ≤ 0.25 ∧
      (FlagsSure flags tier ∨ 0.75 ≤ numbers.roleConfidence)))
    (hfew : numbers.disagreement ≤ 0.8) (hflagged : flaggedState flags tier ≠ .allow) :
    settledState flags tier numbers = flaggedState flags tier := by
  unfold settledState stateUnder
  have hkept : (if 0.5 < numbers.disagreement ∧ flaggedState flags tier = .allow then
      .elevatedObserve else flaggedState flags tier) = flaggedState flags tier :=
    if_neg fun h => hflagged h.2
  rw [if_neg hblock, if_neg (not_lt.mpr hfew), hkept, if_neg fun h => hflagged h.2]

/-- Where the flags ask for nothing the session is observed at most. -/
theorem settledState_of_unflagged
    (hblock : ¬ (numbers.humanProbability ≤ 0.25 ∧
      (FlagsSure flags tier ∨ 0.75 ≤ numbers.roleConfidence)))
    (hfew : numbers.disagreement ≤ 0.8) (hflagged : flaggedState flags tier = .allow) :
    (settledState flags tier numbers).severity ≤ DecisionState.elevatedObserve.severity := by
  unfold settledState stateUnder
  rw [if_neg hblock, if_neg (not_lt.mpr hfew), hflagged]
  split_ifs <;> decide

/-! ## Where a switch lowers the state -/

/-- A cluster match on tier 2 puts a challenge in the place of a step-up. -/
def ClusterOverrides (flags : PacketFlags) (tier : Tier) (numbers : ReportNumbers) : Prop :=
  tier = .tier2 ∧ (flags.requireStepUp ∨ (flags.highValueFlow ∧ ¬ flags.constantLatency)) ∧
    0.25 < numbers.humanProbability ∧ numbers.disagreement ≤ 0.8

/-- A latency pattern on tier 2 keeps the high-value rule from its step-up, and from
the confidence that goes with it. -/
def LatencyOverrides (flags : PacketFlags) (tier : Tier) (numbers : ReportNumbers) : Prop :=
  tier = .tier2 ∧ flags.highValueFlow ∧ ¬ flags.requireStepUp ∧ ¬ flags.clusterHigh ∧
    ¬ (numbers.humanProbability ≤ 0.25 ∧ 0.75 ≤ numbers.roleConfidence) ∧
    ¬ (0.25 < numbers.humanProbability ∧ 0.8 < numbers.disagreement)

theorem clusterHigh_mono_iff (hoff : flags.clusterHigh = false) :
    (settledState flags tier numbers).severity ≤
        (settledState { flags with clusterHigh := true } tier numbers).severity ↔
      ¬ ClusterOverrides flags tier numbers := by
  by_cases htier : tier = .tier2
  · have hon : flaggedState { flags with clusterHigh := true } tier = .challenge := by
      simp [flaggedState, htier]
    have hsure : FlagsSure { flags with clusterHigh := true } tier := .inr (.inl ⟨rfl, htier⟩)
    by_cases hlow : numbers.humanProbability ≤ 0.25
    · rw [settledState_of_sure hlow (.inl hsure)]
      refine iff_of_true (settledState_le_block flags tier numbers) ?_
      exact fun h => absurd hlow (not_le.mpr h.2.2.1)
    · have hblock : ∀ {P : Prop}, ¬ (numbers.humanProbability ≤ 0.25 ∧ P) := fun h => hlow h.1
      by_cases hmuch : 0.8 < numbers.disagreement
      · rw [settledState_of_disagreement hblock hmuch, settledState_of_disagreement hblock hmuch]
        exact iff_of_true le_rfl fun h => absurd hmuch (not_lt.mpr h.2.2.2)
      · have hfew := not_lt.mp hmuch
        rw [@settledState_of_flagged { flags with clusterHigh := true } _ _ hblock hfew
          (by rw [hon]; decide), hon]
        by_cases hask : flags.requireStepUp ∨ (flags.highValueFlow ∧ ¬ flags.constantLatency)
        · have hbefore : flaggedState flags tier = .stepUpAuth := by
            unfold flaggedState
            rcases hask with hsu | ⟨hflow, hlat⟩
            · simp [hoff, hsu]
            · simp [hoff, htier, hflow, hlat]
          rw [settledState_of_flagged hblock hfew (by rw [hbefore]; decide), hbefore]
          exact iff_of_false (by decide) fun h => h ⟨htier, hask, not_le.mp hlow, hfew⟩
        · refine iff_of_true ?_ fun h => hask h.2.1
          rcases flaggedState_cases flags tier with hbefore | hbefore | hbefore
          · exact (settledState_of_unflagged hblock hfew hbefore).trans (by decide)
          · rw [settledState_of_flagged hblock hfew (by rw [hbefore]; decide), hbefore]
          · exfalso
            obtain ⟨hsu, hflow⟩ := not_or.mp hask
            unfold flaggedState at hbefore
            rw [if_neg (by simp [hoff]), if_neg hsu] at hbefore
            split_ifs at hbefore with hlat hflow'
            exact hflow ⟨hflow'.2, hlat⟩
  · refine iff_of_true (le_of_eq ?_) fun h => htier h.1
    simp [settledState, flaggedState, FlagsSure, hoff, htier]

theorem constantLatency_mono_iff (hoff : flags.constantLatency = false) :
    (settledState flags tier numbers).severity ≤
        (settledState { flags with constantLatency := true } tier numbers).severity ↔
      ¬ LatencyOverrides flags tier numbers := by
  by_cases hcovered : flags.requireStepUp ∨ (flags.clusterHigh ∧ tier = .tier2)
  · have hstate : flaggedState { flags with constantLatency := true } tier =
        flaggedState flags tier := by
      unfold flaggedState
      rcases hcovered with hsu | ⟨hcluster, htier⟩
      · simp [hsu]
      · simp [hcluster, htier]
    have hsure : FlagsSure flags tier → FlagsSure { flags with constantLatency := true } tier :=
      fun _ => hcovered.elim .inl (fun h => .inr (.inl h))
    refine iff_of_true (settledState_mono (le_of_eq (by rw [hstate])) hsure le_rfl rfl le_rfl) ?_
    rintro ⟨htier, -, hsu, hcluster, -⟩
    rcases hcovered with h | h
    · exact hsu h
    · exact hcluster h.1
  · obtain ⟨hsu, hcluster⟩ := not_or.mp hcovered
    have hsu' : flags.requireStepUp = false := by simpa using hsu
    by_cases hflow : tier = .tier2 ∧ flags.highValueFlow
    · have hcluster' : flags.clusterHigh = false := by simpa [hflow.1] using hcluster
      have hbefore : flaggedState flags tier = .stepUpAuth := by
        simp [flaggedState, hsu', hcluster', hoff, hflow]
      have hafter : flaggedState { flags with constantLatency := true } tier = .challenge := by
        simp [flaggedState, hsu', hcluster']
      have hsure : FlagsSure flags tier := .inr (.inr ⟨hflow.1, hflow.2, by simp [hoff]⟩)
      have hunsure : ¬ FlagsSure { flags with constantLatency := true } tier := by
        simp [FlagsSure, hsu', hcluster']
      by_cases hlow : numbers.humanProbability ≤ 0.25
      · rw [settledState_of_sure hlow (.inl hsure)]
        by_cases hconfident : 0.75 ≤ numbers.roleConfidence
        · rw [settledState_of_sure hlow (.inr hconfident)]
          exact iff_of_true le_rfl fun h => h.2.2.2.2.1 ⟨hlow, hconfident⟩
        · have hblock : ¬ (numbers.humanProbability ≤ 0.25 ∧
              (FlagsSure { flags with constantLatency := true } tier ∨
                0.75 ≤ numbers.roleConfidence)) := fun h => (not_or.mpr ⟨hunsure, hconfident⟩) h.2
          refine iff_of_false ?_ fun h => h ⟨hflow.1, hflow.2, hsu, ?_, fun h => hconfident h.2,
            fun h => absurd hlow (not_le.mpr h.1)⟩
          · by_cases hmuch : 0.8 < numbers.disagreement
            · rw [settledState_of_disagreement hblock hmuch]
              decide
            · rw [settledState_of_flagged hblock (not_lt.mp hmuch) (by rw [hafter]; decide), hafter]
              decide
          · simp [hcluster']
      · have hblock : ∀ {P : Prop}, ¬ (numbers.humanProbability ≤ 0.25 ∧ P) := fun h => hlow h.1
        by_cases hmuch : 0.8 < numbers.disagreement
        · rw [settledState_of_disagreement hblock hmuch, settledState_of_disagreement hblock hmuch]
          exact iff_of_true le_rfl fun h => h.2.2.2.2.2 ⟨not_le.mp hlow, hmuch⟩
        · have hfew := not_lt.mp hmuch
          rw [settledState_of_flagged hblock hfew (by rw [hbefore]; decide), hbefore,
            settledState_of_flagged hblock hfew (by rw [hafter]; decide), hafter]
          refine iff_of_false (by decide) fun h => h ⟨hflow.1, hflow.2, hsu, ?_, fun h => hlow h.1,
            fun h => hmuch h.2⟩
          simp [hcluster']
    · have hallow : flaggedState flags tier = .allow := by
        unfold flaggedState
        rw [if_neg hcluster, if_neg hsu, if_neg (by simp [hoff]), if_neg hflow]
      have hunsure : ¬ FlagsSure flags tier := by
        rintro (h | h | ⟨htier, h, -⟩)
        · exact hsu h
        · exact hcluster h
        · exact hflow ⟨htier, h⟩
      refine iff_of_true (settledState_mono ?_ (fun h => absurd h hunsure) le_rfl rfl le_rfl) ?_
      · rw [hallow]
        exact Nat.zero_le _
      · rintro ⟨htier, h, -⟩
        exact hflow ⟨htier, h⟩

end

/-! ## The numbers of a list of reports -/

def reportNumbers (parse : String → Option ℚ) (reports : List RoleReport) :
    Except PyError ReportNumbers := do
  let humanProbability ← averageOf parse (·.humanProbability) reports
  let roleConfidence ← averageOf parse (·.confidence) reports
  let disagreement ← maxDisagreement parse reports
  return ⟨humanProbability, roleConfidence, disagreement⟩

theorem synthesizeDecision_ok {parse : String → Option ℚ} {decisionId : String}
    {packet : EvidencePacket} {reports : List RoleReport} {tier : Tier} {decision : DecisionObject}
    (htier : tier ≠ .tier0)
    (h : synthesizeDecision parse decisionId packet reports tier = .ok decision) :
    ∃ numbers, reportNumbers parse reports = .ok numbers ∧
      decision = decisionOf decisionId packet reports tier
        (applySynthesisRules packet.flags tier numbers.humanProbability numbers.roleConfidence
          numbers.disagreement)
        numbers.humanProbability (max 0 (min 1 (1 - numbers.humanProbability))) := by
  obtain ⟨humanProbability, hprobability, h⟩ := Fallible.bind_eq_ok_iff.mp h
  obtain ⟨roleConfidence, hconfidence, h⟩ := Fallible.bind_eq_ok_iff.mp h
  rw [if_neg htier] at h
  obtain ⟨disagreement, hdisagreement, h⟩ := Fallible.bind_eq_ok_iff.mp h
  cases h
  refine ⟨⟨humanProbability, roleConfidence, disagreement⟩, ?_, rfl⟩
  rw [reportNumbers, hprobability, hconfidence, hdisagreement]
  rfl

theorem synthesizeDecision_tierPath {parse : String → Option ℚ} {decisionId : String}
    {packet : EvidencePacket} {reports : List RoleReport} {tier : Tier} {decision : DecisionObject}
    (h : synthesizeDecision parse decisionId packet reports tier = .ok decision) :
    decision.tierPath = tier := by
  by_cases htier : tier = .tier0
  · obtain ⟨_, -, h⟩ := Fallible.bind_eq_ok_iff.mp h
    obtain ⟨_, -, h⟩ := Fallible.bind_eq_ok_iff.mp h
    rw [if_pos htier] at h
    exact congrArg DecisionObject.tierPath (Except.ok.inj h).symm
  · obtain ⟨numbers, -, rfl⟩ := synthesizeDecision_ok htier h
    rfl

theorem synthesizeDecision_state {parse : String → Option ℚ} {decisionId : String}
    {packet : EvidencePacket} {reports : List RoleReport} {tier : Tier} {decision : DecisionObject}
    (htier : tier ≠ .tier0)
    (h : synthesizeDecision parse decisionId packet reports tier = .ok decision) :
    ∃ numbers, reportNumbers parse reports = .ok numbers ∧
      decision.state = settledState packet.flags tier numbers := by
  obtain ⟨numbers, hnumbers, rfl⟩ := synthesizeDecision_ok htier h
  exact ⟨numbers, hnumbers, applySynthesisRules_state packet.flags tier numbers⟩

theorem foldl_max_mono (values : List ℚ) {q q' : ℚ} (h : q ≤ q') :
    values.foldl max q ≤ values.foldl max q' := by
  induction values generalizing q q' with
  | nil => exact h
  | cons value rest ih => exact ih (max_le_max_right value h)

theorem average_le_of_replace (front back : List ℚ) {q q' : ℚ} (h : q' ≤ q) (default : ℚ) :
    average (front ++ q' :: back) default ≤ average (front ++ q :: back) default := by
  have hlength : (0 : ℚ) ≤ (front ++ q :: back).length := by positivity
  have hsum : (front ++ q' :: back).sum ≤ (front ++ q :: back).sum := by
    simpa using h
  unfold average
  rw [if_neg (by simp), if_neg (by simp)]
  calc (front ++ q' :: back).sum / (front ++ q' :: back).length
      = (front ++ q' :: back).sum / (front ++ q :: back).length := by simp
    _ ≤ _ := div_le_div_of_nonneg_right hsum hlength

section
variable {parse : String → Option ℚ} {front back : List RoleReport} {report report' : RoleReport}
  {numbers numbers' : ReportNumbers}

theorem reportNumbers_ok_iff {reports : List RoleReport} :
    reportNumbers parse reports = .ok numbers ↔
      averageOf parse (·.humanProbability) reports = .ok numbers.humanProbability ∧
        averageOf parse (·.confidence) reports = .ok numbers.roleConfidence ∧
        maxDisagreement parse reports = .ok numbers.disagreement := by
  constructor
  · intro h
    obtain ⟨_, hprobability, h⟩ := Fallible.bind_eq_ok_iff.mp h
    obtain ⟨_, hconfidence, h⟩ := Fallible.bind_eq_ok_iff.mp h
    obtain ⟨_, hdisagreement, h⟩ := Fallible.bind_eq_ok_iff.mp h
    cases h
    exact ⟨hprobability, hconfidence, hdisagreement⟩
  · rintro ⟨hprobability, hconfidence, hdisagreement⟩
    rw [reportNumbers, hprobability, hconfidence, hdisagreement]
    rfl

/-- Another disagreement score moves the disagreement and nothing else. -/
theorem reportNumbers_of_disagreement {value : Json} {q q' : ℚ}
    (hq : reportedDisagreement parse report = .ok q) (hq' : coerceFloat parse 0 value = .ok q')
    (hle : q ≤ q') (hreport' : report' =
      { report with metadata := report.metadata.set "disagreement_score" value })
    (h : reportNumbers parse (front ++ report :: back) = .ok numbers)
    (h' : reportNumbers parse (front ++ report' :: back) = .ok numbers') :
    numbers'.humanProbability = numbers.humanProbability ∧
      numbers'.roleConfidence = numbers.roleConfidence ∧
      numbers.disagreement ≤ numbers'.disagreement := by
  subst hreport'
  obtain ⟨hprobability, hconfidence, hdisagreement⟩ := reportNumbers_ok_iff.mp h
  obtain ⟨hprobability', hconfidence', hdisagreement'⟩ := reportNumbers_ok_iff.mp h'
  have hsame : ∀ member : RoleReport → Json,
      member { report with metadata := report.metadata.set "disagreement_score" value } =
        member report →
      averageOf parse member (front ++
        { report with metadata := report.metadata.set "disagreement_score" value } :: back) =
        averageOf parse member (front ++ report :: back) := by
    intro member hmember
    simp [averageOf, hmember]
  rw [hsame _ rfl, hprobability, Except.ok.injEq] at hprobability'
  rw [hsame _ rfl, hconfidence, Except.ok.injEq] at hconfidence'
  refine ⟨hprobability'.symm, hconfidence'.symm, ?_⟩
  obtain ⟨scores, hscores, hmax⟩ := Fallible.bind_eq_ok_iff.mp hdisagreement
  obtain ⟨scores', hscores', hmax'⟩ := Fallible.bind_eq_ok_iff.mp hdisagreement'
  obtain ⟨scoresFront, scoresBack, rfl, hreplace⟩ := Fallible.mapM_replace hscores hq
  have hscore' : reportedDisagreement parse
      { report with metadata := report.metadata.set "disagreement_score" value } = .ok q' := by
    rw [reportedDisagreement, JsonDict.get_set, if_pos rfl]
    exact hq'
  rw [hreplace _ q' hscore', Except.ok.injEq] at hscores'
  subst hscores'
  rw [← Except.ok.inj hmax, ← Except.ok.inj hmax', List.foldl_append, List.foldl_append]
  exact foldl_max_mono scoresBack (max_le_max_left _ hle)

/-- Another given probability moves the average of the probabilities alone. -/
theorem reportNumbers_of_probability {value : Json} {q q' : ℚ}
    (hgiven : isNone report.humanProbability = false) (hgiven' : isNone value = false)
    (hq : coerceFloat parse 0 report.humanProbability = .ok q)
    (hq' : coerceFloat parse 0 value = .ok q') (hle : q' ≤ q)
    (hreport' : report' = { report with humanProbability := value })
    (h : reportNumbers parse (front ++ report :: back) = .ok numbers)
    (h' : reportNumbers parse (front ++ report' :: back) = .ok numbers') :
    numbers'.humanProbability ≤ numbers.humanProbability ∧
      numbers'.roleConfidence = numbers.roleConfidence ∧
      numbers'.disagreement = numbers.disagreement := by
  subst hreport'
  obtain ⟨hprobability, hconfidence, hdisagreement⟩ := reportNumbers_ok_iff.mp h
  obtain ⟨hprobability', hconfidence', hdisagreement'⟩ := reportNumbers_ok_iff.mp h'
  refine ⟨?_, ?_, ?_⟩
  · obtain ⟨values, hvalues, haverage⟩ := Fallible.bind_eq_ok_iff.mp hprobability
    obtain ⟨values', hvalues', haverage'⟩ := Fallible.bind_eq_ok_iff.mp hprobability'
    simp only [List.map_append, List.map_cons, List.filter_append, List.filter_cons, hgiven,
      hgiven', Bool.not_false, if_true] at hvalues hvalues'
    obtain ⟨valuesFront, valuesBack, rfl, hreplace⟩ := Fallible.mapM_replace hvalues hq
    rw [hreplace _ q' hq', Except.ok.injEq] at hvalues'
    subst hvalues'
    rw [← Except.ok.inj haverage, ← Except.ok.inj haverage']
    exact average_le_of_replace valuesFront valuesBack hle 0.5
  · have hsame : averageOf parse (·.confidence) (front ++
        { report with humanProbability := value } :: back) =
        averageOf parse (·.confidence) (front ++ report :: back) := by simp [averageOf]
    rw [hsame, hconfidence, Except.ok.injEq] at hconfidence'
    exact hconfidence'.symm
  · have hsame : maxDisagreement parse (front ++
        { report with humanProbability := value } :: back) =
        maxDisagreement parse (front ++ report :: back) := by
      simp [maxDisagreement, List.mapM_append, List.mapM_cons, reportedDisagreement]
    rw [hsame, hdisagreement, Except.ok.injEq] at hdisagreement'
    exact hdisagreement'.symm

end

/-! ## One more risk -/

/-- One risk indicator is switched on or moved, all else is the same. -/
inductive MoreRisk (parse : String → Option ℚ) :
    EvidencePacket → List RoleReport → EvidencePacket → List RoleReport → Prop where
  | requireStepUp {packet : EvidencePacket} {reports : List RoleReport} {value : Json}
      (h : truthy value = true) :
      MoreRisk parse packet reports
        { packet with policyContext := packet.policyContext.set "require_step_up" value } reports
  | clusterHigh {packet : EvidencePacket} {reports : List RoleReport} :
      MoreRisk parse packet reports
        { packet with identityRefs := packet.identityRefs.set "cluster_risk" (.str "high") } reports
  | constantLatency {packet : EvidencePacket} {reports : List RoleReport} {value : Json}
      (h : truthy value = true) :
      MoreRisk parse packet reports
        { packet with
          timingFeatures := packet.timingFeatures.set "constant_latency_pattern" value } reports
  | highValueFlow {packet : EvidencePacket} {reports : List RoleReport} {value : Json}
      (h : truthy value = true) :
      MoreRisk parse packet reports
        { packet with policyContext := packet.policyContext.set "high_value_flow" value } reports
  | disagreement {packet : EvidencePacket} {front back : List RoleReport} {report : RoleReport}
      {value : Json} {q q' : ℚ} (hq : reportedDisagreement parse report = .ok q)
      (hq' : coerceFloat parse 0 value = .ok q') (hle : q ≤ q') :
      MoreRisk parse packet (front ++ report :: back) packet (front ++
        { report with metadata := report.metadata.set "disagreement_score" value } :: back)
  | humanProbability {packet : EvidencePacket} {front back : List RoleReport}
      {report : RoleReport} {value : Json} {q q' : ℚ}
      (hgiven : isNone report.humanProbability = false) (hgiven' : isNone value = false)
      (hq : coerceFloat parse 0 report.humanProbability = .ok q)
      (hq' : coerceFloat parse 0 value = .ok q') (hle : q' ≤ q) :
      MoreRisk parse packet (front ++ report :: back) packet
        (front ++ { report with humanProbability := value } :: back)

/-- The switch is one of the two that can replace a step-up, and does. -/
def StateOverridden (parse : String → Option ℚ) (tier : Tier) (packet packet' : EvidencePacket)
    (reports : List RoleReport) : Prop :=
  ∃ numbers, reportNumbers parse reports = .ok numbers ∧
    (packet.flags.clusterHigh = false ∧ packet'.flags.clusterHigh = true ∧
        ClusterOverrides packet.flags tier numbers ∨
      packet.flags.constantLatency = false ∧ packet'.flags.constantLatency = true ∧
        LatencyOverrides packet.flags tier numbers)

section
variable {packet : EvidencePacket} {value : Json}

theorem flags_requireStepUp (h : truthy value = true) :
    { packet with policyContext := packet.policyContext.set "require_step_up" value }.flags =
      { packet.flags with requireStepUp := true } := by
  simp [EvidencePacket.flags, JsonDict.get_set, h]

theorem flags_clusterHigh :
    { packet with identityRefs := packet.identityRefs.set "cluster_risk" (.str "high") }.flags =
      { packet.flags with clusterHigh := true } := by
  simp [EvidencePacket.flags, JsonDict.get_set, isText]

theorem flags_constantLatency (h : truthy value = true) :
    { packet with
      timingFeatures := packet.timingFeatures.set "constant_latency_pattern" value }.flags =
      { packet.flags with constantLatency := true } := by
  simp [EvidencePacket.flags, JsonDict.get_set, h]

theorem flags_highValueFlow (h : truthy value = true) :
    { packet with policyContext := packet.policyContext.set "high_value_flow" value }.flags =
      { packet.flags with highValueFlow := true } := by
  simp [EvidencePacket.flags, JsonDict.get_set, h]

end

section
variable {flags : PacketFlags} {tier : Tier} {numbers : ReportNumbers}

theorem requireStepUp_mono :
    (settledState flags tier numbers).severity ≤
      (settledState { flags with requireStepUp := true } tier numbers).severity := by
  refine settledState_mono ?_ (fun _ => .inl rfl) le_rfl rfl le_rfl
  unfold flaggedState
  dsimp only
  split_ifs <;> first | rfl | decide | simp_all

theorem highValueFlow_mono :
    (settledState flags tier numbers).severity ≤
      (settledState { flags with highValueFlow := true } tier numbers).severity := by
  refine settledState_mono ?_ ?_ le_rfl rfl le_rfl
  · unfold flaggedState
    dsimp only
    split_ifs <;> first | rfl | decide | simp_all
  · rintro (h | h | ⟨htier, -, h⟩)
    · exact .inl h
    · exact .inr (.inl h)
    · exact .inr (.inr ⟨htier, rfl, h⟩)

end

/-- A packet whose policy may ask for a step-up. -/
def samplePacket (policyContext : JsonDict) : EvidencePacket where
  packetId := "packet"
  sessionId := "session"
  tenantId := .str "default"
  surface := .str "web_guard"
  actorId := .null
  receivedAt := ""
  eventWindowStart := .null
  eventWindowEnd := .null
  rawEvents := []
  challengeData := Dict.empty
  timingFeatures := Dict.empty
  behavioralFeatures := Dict.empty
  identityRefs := Dict.empty
  sessionHistory := []
  policyContext := policyContext
  riskContext := Dict.empty
  provenance := Dict.empty
  sessionContext := Dict.empty
  metadata := Dict.empty

def clusterMatched (packet : EvidencePacket) : EvidencePacket :=
  { packet with identityRefs := packet.identityRefs.set "cluster_risk" (.str "high") }

/-- What synthesis makes of a packet without reports. -/
def unreportedDecision (packet : EvidencePacket) (tier : Tier) : DecisionObject :=
  decisionOf "decision" packet [] tier (applySynthesisRules packet.flags tier 0.5 0.5 0) 0.5
    (max 0 (min 1 (1 - 0.5)))

theorem synthesizeDecision_unreported {tier : Tier} (packet : EvidencePacket)
    (htier : tier ≠ .tier0) :
    synthesizeDecision (fun _ => none) "decision" packet [] tier =
      .ok (unreportedDecision packet tier) := by
  cases tier
  · exact absurd rfl htier
  · rfl
  · rfl

end TruePresenceESE.Engine
