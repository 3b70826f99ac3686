import TruePresenceESE.Engine.ProbabilityRange
import TruePresenceESE.Engine.Routing
import TruePresenceESE.Telegram.Dispatch

/-! # Detected threats on their way to the response

A threat picks the tier of its event and goes no further: the decision names it in no
field, and the guard adapter fills the threat categories with the reason codes.
-/

namespace TruePresenceESE.Telegram

open PyValue JsonDict TruePresenceESE.Engine

/-! ## The way -/

/-- From an event to the decision on it, whatever the roles report. -/
def decideWith (packets : PacketHost) (parse : String → Option ℚ) (decisionId : String)
    (surface : Json) (sessionId : String) (tenantId : Json) (event context : JsonDict)
    (reports : List RoleReport) : Except PyError (EvidencePacket × Engine.Tier × DecisionObject) := do
  let packet ← buildEvidencePacket packets surface sessionId tenantId event context
  let tier ← chooseTier packet context
  let decision ← synthesizeDecision parse decisionId packet reports tier
  return (packet, tier, decision)

/-- What `enforce` hands to `build_response`. -/
def handedOver (decision : DecisionObject) : EvaluationResult :=
  let codes := decision.reasonCodes.map ReasonCode.value
  { state := some decision.state.value
    decision := some decision.recommendedEnforcement
    confidence := some decision.confidence
    humanProbability := some decision.humanProbability
    threatCategories := some codes
    reasonCodes := some codes
    riskFactors := some codes
    blockReason := none }

/-- The members of a decision that the guard adapter and the evidence card read. -/
def decisionOfObject (tenantId : String) (decision : DecisionObject) : Decision where
  decisionId := decision.decisionId
  packetId := decision.evidencePacketId
  tenantId := tenantId
  state := decision.state.value
  recommendedEnforcement := decision.recommendedEnforcement
  confidence := decision.confidence
  humanProbability := decision.humanProbability
  reasonCodes := decision.reasonCodes.map ReasonCode.value

theorem enforce_handedOver {rt : BotRuntime} {bans : BanActions} {tenantId : String}
    {decision : DecisionObject} :
    enforce rt bans (decisionOfObject tenantId decision) =
      (buildResponse rt.py bans rt.now (handedOver decision) (some tenantId) none).1 :=
  rfl

def removalFactors : List String := criticalFactors ++ policyFactors

/-- The content detectors report the category. -/
def Detects (event : JsonDict) (category : String) : Prop :=
  ∃ threats, listOf ((ofValue (event.get "threat_analysis")).get "threats_detected") = .ok threats ∧
    .str category ∈ threats

/-- Every removal factor that is detected is one for the response. -/
def ThreatsReach (event : JsonDict) (decision : DecisionObject) : Prop :=
  ∀ category ∈ removalFactors, Detects event category → hasFactor (handedOver decision) [category]

/-- The findings, besides threats, that put a packet on tier 0. -/
def DeterministicFinding (packet : EvidencePacket) : Prop :=
  PyValue.truthy (packet.provenance.get "invalid_attestation") ∨
    PyValue.truthy (packet.behavioralFeatures.get "known_automation_fingerprint") ∨
    PyValue.truthy (packet.riskContext.get "impossible_event_sequence") ∨
    isText "deterministic_failure" (packet.challengeData.get "status")

/-- The packet's risk context names a blatant threat. -/
def BlatantThreat (packet : EvidencePacket) : Prop :=
  ∃ threats, setOf (packet.riskContext.getOr "threats_detected" (.arr [])) = .ok threats ∧
    blatantThreats.any (threats.contains ·)

/-! ## What reaches the response -/

theorem reasonCode_not_factor (code : ReasonCode) : code.value ∉ removalFactors := by
  cases code <;> decide

theorem handedOver_no_factor {decision : DecisionObject} {category : String}
    (hcategory : category ∈ removalFactors) :
    hasFactor (handedOver decision) [category] = false := by
  have hnone : (decision.reasonCodes.map ReasonCode.value).any ([category].contains ·) = false := by
    refine List.any_eq_false.mpr fun text htext => ?_
    obtain ⟨code, -, rfl⟩ := List.mem_map.mp htext
    have hne : code.value ≠ category := fun heq => reasonCode_not_factor code (heq ▸ hcategory)
    simp [hne]
  unfold hasFactor handedOver
  dsimp only [Option.getD_some]
  rw [hnone, Bool.or_self]

theorem tierZeroReasons_ne_nil {packet : EvidencePacket} :
    tierZeroReasons packet ≠ [] ↔ DeterministicFinding packet := by
  unfold tierZeroReasons DeterministicFinding
  simp only [ne_eq, List.append_eq_nil_iff, not_and_or]
  split_ifs <;> simp_all

theorem chooseTier_tierZero_iff {packet : EvidencePacket} {context : JsonDict} {tier : Engine.Tier}
    (h : chooseTier packet context = .ok tier) :
    tier = .tier0 ↔ DeterministicFinding packet ∨ BlatantThreat packet := by
  obtain ⟨threats, hthreats, h⟩ := Fallible.bind_eq_ok_iff.mp h
  have hblatant : BlatantThreat packet ↔ blatantThreats.any (threats.contains ·) = true := by
    refine ⟨fun ⟨found, hfound, hany⟩ => ?_, fun hany => ⟨threats, hthreats, hany⟩⟩
    rw [hthreats, Except.ok.injEq] at hfound
    exact hfound ▸ hany
  rw [hblatant, DeterministicFinding]
  split_ifs at h <;> cases h <;> simp_all

theorem synthesizeDecision_tierZero {parse : String → Option ℚ} {decisionId : String}
    {packet : EvidencePacket} {reports : List RoleReport} {decision : DecisionObject}
    (h : synthesizeDecision parse decisionId packet reports .tier0 = .ok decision) :
    decision.reasonCodes = tierZeroReasons packet := by
  obtain ⟨humanProbability, -, h⟩ := Fallible.bind_eq_ok_iff.mp h
  obtain ⟨roleConfidence, -, h⟩ := Fallible.bind_eq_ok_iff.mp h
  cases h
  rfl

section
variable {packets : PacketHost} {parse : String → Option ℚ} {decisionId : String} {surface : Json}
  {sessionId : String} {tenantId : Json} {event context : JsonDict} {reports : List RoleReport}
  {packet : EvidencePacket} {tier : Engine.Tier} {decision : DecisionObject}

theorem decideWith_ok (h : decideWith packets parse decisionId surface sessionId tenantId event
      context reports = .ok (packet, tier, decision)) :
    chooseTier packet context = .ok tier ∧
      synthesizeDecision parse decisionId packet reports tier = .ok decision := by
  obtain ⟨packet, -, h⟩ := Fallible.bind_eq_ok_iff.mp h
  obtain ⟨tier, htier, h⟩ := Fallible.bind_eq_ok_iff.mp h
  obtain ⟨decision, hdecision, h⟩ := Fallible.bind_eq_ok_iff.mp h
  cases h
  exact ⟨htier, hdecision⟩

/-- Threats reach the response, and tier 0 has a reason, only where no removal factor is
detected and no blatant threat stands alone. -/
theorem threats_reach_iff (h : decideWith packets parse decisionId surface sessionId tenantId event
      context reports = .ok (packet, tier, decision)) :
    (ThreatsReach event decision ∧ (tier = .tier0 → decision.reasonCodes ≠ [])) ↔
      ((∀ category ∈ removalFactors, ¬ Detects event category) ∧
        (BlatantThreat packet → DeterministicFinding packet)) := by
  obtain ⟨htier, hdecision⟩ := decideWith_ok h
  have hreach : ThreatsReach event decision ↔
      ∀ category ∈ removalFactors, ¬ Detects event category := by
    refine forall₂_congr fun category hcategory => ?_
    rw [handedOver_no_factor hcategory]
    simp
  have hreasons : (tier = .tier0 → decision.reasonCodes ≠ []) ↔
      (tier = .tier0 → DeterministicFinding packet) := by
    refine imp_congr_right fun hzero => ?_
    subst hzero
    rw [synthesizeDecision_tierZero hdecision, tierZeroReasons_ne_nil]
  rw [hreach, hreasons, chooseTier_tierZero_iff htier]
  simp only [or_imp, imp_self, true_and]

end

/-! ## A drug sale -/

def illegalEvent : JsonDict :=
  ofFields [("event_type", .str "message"),
    ("threat_analysis", .obj [("threats_detected", .arr [.str "illegal_content"])])]

def decideIllegal : Except PyError (EvidencePacket × Engine.Tier × DecisionObject) :=
  decideWith plainPackets (fun _ => none) "d" (.str "telegram") "tg_default_7" (.str "default")
    illegalEvent Dict.empty []

theorem illegalEvent_detects : Detects illegalEvent "illegal_content" :=
  ⟨[.str "illegal_content"], rfl, List.mem_singleton_self _⟩

theorem threats_reach_iff_illegal :
    ∃ packet tier decision, decideIllegal = .ok (packet, tier, decision) ∧
      ((ThreatsReach illegalEvent decision ∧ (tier = .tier0 → decision.reasonCodes ≠ [])) ↔
        ((∀ category ∈ removalFactors, ¬ Detects illegalEvent category) ∧
          (BlatantThreat packet → DeterministicFinding packet))) := by
  have hok : (match decideIllegal with | .ok _ => true | .error _ => false) = true := by
    decide +kernel
  cases h : decideIllegal with
  | error e => rw [h] at hok; cases hok
  | ok result => exact ⟨_, _, _, rfl, threats_reach_iff h⟩

/-- The event ends on tier 0 without a reason, and its category is lost. -/
theorem illegal_content_lost :
    ∃ packet tier decision, decideIllegal = .ok (packet, tier, decision) ∧
      Detects illegalEvent "illegal_content" ∧ "illegal_content" ∈ criticalFactors ∧
      hasFactor (handedOver decision) removalFactors = false ∧
      tier = .tier0 ∧ decision.reasonCodes = [] := by
  have hrun : (match decideIllegal with
      | .ok (_, tier, decision) => decide (hasFactor (handedOver decision) removalFactors = false ∧
          tier = .tier0 ∧ decision.reasonCodes = [])
      | .error _ => false) = true := by
    decide +kernel
  cases h : decideIllegal with
  | error e => rw [h] at hrun; cases hrun
  | ok result =>
      rw [h] at hrun
      exact ⟨_, _, _, rfl, illegalEvent_detects, by decide, of_decide_eq_true hrun⟩

end TruePresenceESE.Telegram
