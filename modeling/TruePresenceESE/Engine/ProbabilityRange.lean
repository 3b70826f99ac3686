import TruePresenceESE.Engine.Readings

/-! # The range of the probabilities of a decision

The rules keep the confidence between one half and one. The average of the role
probabilities is handed on as it is, and only its complement is cut to the unit
interval.
-/

namespace TruePresenceESE.Engine

open PyValue JsonDict

/-! ## Confidence -/

def Draft.Bounded (draft : Draft) : Prop := 0.5 ≤ draft.confidence ∧ draft.confidence ≤ 1

section
variable {flags : PacketFlags} {tier : Tier} {draft : Draft}

theorem Draft.bounded_addReason (code : ReasonCode) (h : draft.Bounded) :
    (draft.addReason code).Bounded := by
  unfold Draft.Bounded
  rw [Draft.confidence_addReason]
  exact h

theorem Draft.bounded_moveTo {state : DecisionState} {enforcement : String} {confidence : ℚ}
    {risk : RiskLevel} (hle : confidence ≤ 1) (h : draft.Bounded) :
    (draft.moveTo state enforcement confidence risk).Bounded :=
  ⟨le_max_of_le_left h.1, max_le h.2 hle⟩

theorem stepUpRule_bounded (h : draft.Bounded) : (stepUpRule flags draft).Bounded := by
  unfold stepUpRule
  split
  · exact Draft.bounded_moveTo (by norm_num) (Draft.bounded_addReason _ h)
  · exact h

theorem clusterRule_bounded (h : draft.Bounded) : (clusterRule flags tier draft).Bounded := by
  unfold clusterRule
  split
  · have hmatched := Draft.bounded_addReason .crossSessionClusterMatch h
    dsimp only
    split
    · exact Draft.bounded_moveTo (by norm_num) hmatched
    · exact hmatched
  · exact h

theorem latencyRule_bounded (h : draft.Bounded) : (latencyRule flags draft).Bounded := by
  unfold latencyRule
  split
  · have htimed := Draft.bounded_addReason .timingAutomationPattern h
    dsimp only
    split
    · exact Draft.bounded_moveTo (by norm_num) htimed
    · exact htimed
  · exact h

theorem highValueRule_bounded (h : draft.Bounded) : (highValueRule flags tier draft).Bounded := by
  unfold highValueRule
  split
  · have hescalated := Draft.bounded_addReason .highValueTransactionEscalation h
    dsimp only
    split
    · exact Draft.bounded_moveTo (by norm_num) hescalated
    · exact hescalated
  · exact h

theorem disagreementRule_bounded {disagreement : ℚ} (h : draft.Bounded) :
    (disagreementRule disagreement draft).Bounded := by
  unfold disagreementRule
  split
  · exact Draft.bounded_moveTo (by norm_num) (Draft.bounded_addReason _ h)
  · split
    · exact Draft.bounded_moveTo (by norm_num) h
    · exact h

theorem probabilityRule_bounded {humanProbability : ℚ} (h : draft.Bounded) :
    (probabilityRule humanProbability draft).Bounded := by
  unfold probabilityRule
  split
  · exact h
  · split <;> exact h

theorem applySynthesisRules_bounded {humanProbability roleConfidence disagreement : ℚ}
    (h : roleConfidence ≤ 1) :
    (applySynthesisRules flags tier humanProbability roleConfidence disagreement).Bounded := by
  have hstart : (⟨.allow, "allow", max 0.5 roleConfidence, .low, []⟩ : Draft).Bounded :=
    ⟨le_max_left _ _, max_le (by norm_num) h⟩
  exact probabilityRule_bounded (disagreementRule_bounded (highValueRule_bounded
    (latencyRule_bounded (clusterRule_bounded (stepUpRule_bounded hstart)))))

end

/-- No role is more than sure, and the reviewer less than that. -/
theorem Readings.roleConfidence_le (readings : Readings) (temporalDrift : ℚ) :
    (readings.numbers temporalDrift).roleConfidence ≤ 1 := by
  have hreview : readings.reviewConfidence ≤ 1 :=
    max_le (by norm_num) ((min_le_left _ _).trans (by norm_num))
  have hroles : (readings.confidences temporalDrift).sum ≤ 4 := by
    have hsum := List.sum_le_card_nsmul (readings.confidences temporalDrift) 1 (by
      simp [Readings.confidences])
    simpa [Readings.confidences] using hsum
  simp only [Readings.numbers]
  linarith

/-! ## The range -/

def DecisionObject.InRange (decision : DecisionObject) : Prop :=
  (0 ≤ decision.humanProbability ∧ decision.humanProbability ≤ 1) ∧
    (0 ≤ decision.confidence ∧ decision.confidence ≤ 1) ∧
    decision.botProbability = 1 - decision.humanProbability

instance (decision : DecisionObject) : Decidable decision.InRange :=
  inferInstanceAs (Decidable (_ ∧ _))

/-- Liveness makes up for what the three risks take, and for no more than that. -/
def Readings.Balanced (readings : Readings) : Prop :=
  readings.severity + readings.mediation + readings.relay - readings.liveness ≤ 3 ∧
    readings.liveness - readings.severity - readings.mediation - readings.relay ≤ 1

theorem Readings.balanced_iff (readings : Readings) (temporalDrift : ℚ) :
    readings.Balanced ↔ 0 ≤ (readings.numbers temporalDrift).humanProbability ∧
      (readings.numbers temporalDrift).humanProbability ≤ 1 := by
  simp only [Readings.Balanced, Readings.numbers, Readings.probabilities, List.sum_cons,
    List.sum_nil]
  constructor
  · rintro ⟨hlow, hhigh⟩
    constructor <;> linarith
  · rintro ⟨hlow, hhigh⟩
    constructor <;> linarith

theorem botProbability_eq_of_range {q : ℚ} (h : 0 ≤ q ∧ q ≤ 1) :
    max 0 (min 1 (1 - q)) = 1 - q := by
  rw [min_eq_right (by linarith), max_eq_right (by linarith)]

theorem decideOn_inRange_iff {host : ReportHost} {decisionId : String} {packet : EvidencePacket}
    {temporalDrift : ℚ} {tier : Tier} {decision : DecisionObject}
    (h : decideOn host decisionId packet temporalDrift tier = .ok decision) :
    decision.InRange ↔ tier = .tier0 ∨
      ∃ readings, readSignals packet.signals = .ok readings ∧ readings.Balanced := by
  by_cases htier : tier = .tier0
  · subst htier
    rw [decideOn_tierZero h]
    refine iff_of_true ?_ (.inl rfl)
    simp only [DecisionObject.InRange, decisionOf, tierZeroDraft]
    norm_num
  · obtain ⟨reports, readings, hread, rfl⟩ := decideOn_readings htier h
    have hconfidence := @applySynthesisRules_bounded packet.flags tier
      (readings.numbers temporalDrift).humanProbability _
      (readings.numbers temporalDrift).disagreement
      (readings.roleConfidence_le temporalDrift)
    constructor
    · rintro ⟨hrange, -, -⟩
      exact .inr ⟨readings, hread, (readings.balanced_iff temporalDrift).mpr hrange⟩
    · rintro (h0 | ⟨other, hother, hbalanced⟩)
      · exact absurd h0 htier
      · obtain rfl : readings = other := Except.ok.inj (hread.symm.trans hother)
        have hrange := (readings.balanced_iff temporalDrift).mp hbalanced
        exact ⟨hrange, ⟨le_trans (by norm_num) hconfidence.1, hconfidence.2⟩,
          botProbability_eq_of_range hrange⟩

section
variable {packets : PacketHost} {host : ReportHost} {decisionId sessionId : String}
  {surface tenantId : Json} {event context : JsonDict} {temporalDrift : ℚ} {tier : Tier}
  {decision : DecisionObject}

end

/-! ## A message that carries its own mediation score -/

def plainPackets : PacketHost where
  parseFloat := fun _ => none
  packetId := "packet"
  utcNowIso := ""

def plainReports : ReportHost where
  py := ⟨fun _ => none, fun _ => "", fun _ => "", Char.isAlphanum, id, id_eq ""⟩
  parseFloat := fun _ => none
  toDict := fun _ => .error .typeError
  reportId := id

def mediatedMessage (mediation : ℚ) : JsonDict :=
  ofFields [("event_type", .str "message"), ("features", .obj [("ai_mediation", .num mediation)])]

def decideMessage (mediation : ℚ) : Except PyError DecisionObject :=
  decideEvent plainPackets plainReports "decision" (.str "web_guard") "session" (.str "default")
    (mediatedMessage mediation) Dict.empty 0 .tier1

end TruePresenceESE.Engine
