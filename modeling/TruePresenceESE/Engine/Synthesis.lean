import TruePresenceESE.Engine.Roles

/-! # Decision synthesis

A tier-0 packet is ejected. On the other tiers six rules follow one another; each
may overwrite the state the rules before it left.
-/

namespace TruePresenceESE.Engine

open PyValue JsonDict

/-! ## Decisions -/

/-- In the order of severity. -/
inductive DecisionState where
  | allow
  | observe
  | elevatedObserve
  | challenge
  | stepUpAuth
  | restrict
  | block
  | eject
  deriving DecidableEq, Repr

def DecisionState.value : DecisionState → String
  | .allow => "ALLOW"
  | .observe => "OBSERVE"
  | .elevatedObserve => "ELEVATED_OBSERVE"
  | .challenge => "CHALLENGE"
  | .stepUpAuth => "STEP_UP_AUTH"
  | .restrict => "RESTRICT"
  | .block => "BLOCK"
  | .eject => "EJECT"

def DecisionState.severity : DecisionState → Nat
  | .allow => 0
  | .observe => 1
  | .elevatedObserve => 2
  | .challenge => 3
  | .stepUpAuth => 4
  | .restrict => 5
  | .block => 6
  | .eject => 7

inductive Tier where
  | tier0
  | tier1
  | tier2
  deriving DecidableEq, Repr

inductive RiskLevel where
  | low
  | medium
  | high
  deriving DecidableEq, Repr

def riskRank : RiskLevel → Nat
  | .low => 0
  | .medium => 1
  | .high => 2

def maxRisk (left right : RiskLevel) : RiskLevel :=
  if riskRank right ≤ riskRank left then left else right

inductive ReasonCode where
  | invalidAttestation
  | knownAutomationFingerprint
  | impossibleEventSequence
  | challengeFailureDeterministic
  | timingAutomationPattern
  | crossSessionClusterMatch
  | excessiveRoleDisagreement
  | highValueTransactionEscalation
  | policyRequiresStepUp
  deriving DecidableEq, Repr

def ReasonCode.value : ReasonCode → String
  | .invalidAttestation => "INVALID_ATTESTATION"
  | .knownAutomationFingerprint => "KNOWN_AUTOMATION_FINGERPRINT"
  | .impossibleEventSequence => "IMPOSSIBLE_EVENT_SEQUENCE"
  | .challengeFailureDeterministic => "CHALLENGE_FAILURE_DETERMINISTIC"
  | .timingAutomationPattern => "TIMING_AUTOMATION_PATTERN"
  | .crossSessionClusterMatch => "CROSS_SESSION_CLUSTER_MATCH"
  | .excessiveRoleDisagreement => "EXCESSIVE_ROLE_DISAGREEMENT"
  | .highValueTransactionEscalation => "HIGH_VALUE_TRANSACTION_ESCALATION"
  | .policyRequiresStepUp => "POLICY_REQUIRES_STEP_UP"

structure DecisionObject where
  decisionId : String
  sessionId : String
  tenantId : Json
  surface : Json
  state : DecisionState
  recommendedEnforcement : String
  confidence : ℚ
  riskLevel : RiskLevel
  reasonCodes : List ReasonCode
  challengeRequired : Bool
  stepUpRequired : Bool
  humanReviewRequired : Bool
  evidencePacketId : String
  argumentGraphId : String
  roleReportIds : List Json
  decisionTraceId : String
  tierPath : Tier
  metadata : JsonDict
  humanProbability : ℚ
  botProbability : ℚ
  explanation : String

def explanationForState : DecisionState → String
  | .allow => "Signals are coherent enough to allow the session."
  | .observe => "Signals are mixed; keep the session under observation."
  | .elevatedObserve =>
      "Signals are mixed with elevated risk; continue with stronger observation."
  | .challenge => "The session should complete an active challenge before proceeding."
  | .stepUpAuth => "The session should be stepped up for stronger verification."
  | .restrict => "Limit high-risk actions while the session is evaluated further."
  | .block => "The session should be blocked based on ensemble risk."
  | .eject => "Deterministic policy violations require immediate removal."

/-! ## Reading the reports -/

/-- A huge integer is the one value that raises. -/
def coerceFloat (parse : String → Option ℚ) (default : ℚ) (value : Json) : Except PyError ℚ :=
  match toFloat parse value with
  | .error .overflowError => .error .overflowError
  | .error _ => .ok default
  | .ok q => .ok q

def average (values : List ℚ) (default : ℚ) : ℚ :=
  if values = [] then default else values.sum / values.length

/-- The average of one member over the reports that have it. -/
def averageOf (parse : String → Option ℚ) (member : RoleReport → Json)
    (reports : List RoleReport) : Except PyError ℚ := do
  let values ← ((reports.map member).filter (!isNone ·)).mapM (coerceFloat parse 0)
  return average values 0.5

def reportedDisagreement (parse : String → Option ℚ) (report : RoleReport) : Except PyError ℚ :=
  coerceFloat parse 0 (report.metadata.get "disagreement_score")

def maxDisagreement (parse : String → Option ℚ) (reports : List RoleReport) :
    Except PyError ℚ := do
  let scores ← reports.mapM (reportedDisagreement parse)
  return scores.foldl max 0

/-! ## The rules -/

/-- What the rules work on. -/
structure Draft where
  state : DecisionState
  enforcement : String
  confidence : ℚ
  riskLevel : RiskLevel
  reasonCodes : List ReasonCode

namespace Draft

def addReason (draft : Draft) (code : ReasonCode) : Draft :=
  if code ∈ draft.reasonCodes then draft
  else { draft with reasonCodes := draft.reasonCodes ++ [code] }

def moveTo (draft : Draft) (state : DecisionState) (enforcement : String) (confidence : ℚ)
    (risk : RiskLevel) : Draft :=
  { draft with
    state := state
    enforcement := enforcement
    confidence := max draft.confidence confidence
    riskLevel := maxRisk draft.riskLevel risk }

end Draft

/-- The predicates on the packet that the rules test. -/
structure PacketFlags where
  requireStepUp : Bool
  clusterHigh : Bool
  constantLatency : Bool
  highValueFlow : Bool
  deriving DecidableEq

def EvidencePacket.flags (packet : EvidencePacket) : PacketFlags where
  requireStepUp := truthy (packet.policyContext.get "require_step_up")
  clusterHigh := isText "high" (packet.identityRefs.get "cluster_risk")
  constantLatency := truthy (packet.timingFeatures.get "constant_latency_pattern")
  highValueFlow := truthy (packet.policyContext.get "high_value_flow")

def stepUpRule (flags : PacketFlags) (draft : Draft) : Draft :=
  if flags.requireStepUp then
    (draft.addReason .policyRequiresStepUp).moveTo .stepUpAuth "step_up_auth" 0.75 .medium
  else draft

def clusterRule (flags : PacketFlags) (tier : Tier) (draft : Draft) : Draft :=
  if flags.clusterHigh then
    let matched := draft.addReason .crossSessionClusterMatch
    if tier = .tier2 then matched.moveTo .challenge "challenge" 0.80 .high else matched
  else draft

def latencyRule (flags : PacketFlags) (draft : Draft) : Draft :=
  if flags.constantLatency then
    let timed := draft.addReason .timingAutomationPattern
    if timed.state = .allow then timed.moveTo .challenge "challenge" 0.70 .medium else timed
  else draft

def highValueRule (flags : PacketFlags) (tier : Tier) (draft : Draft) : Draft :=
  if tier = .tier2 ∧ flags.highValueFlow then
    let escalated := draft.addReason .highValueTransactionEscalation
    if escalated.state = .allow ∨ escalated.state = .observe then
      escalated.moveTo .stepUpAuth "step_up_auth" 0.80 .high
    else escalated
  else draft

def disagreementRule (disagreement : ℚ) (draft : Draft) : Draft :=
  if 0.8 < disagreement then
    (draft.addReason .excessiveRoleDisagreement).moveTo .restrict "restrict" 0.65 .medium
  else if 0.5 < disagreement ∧ draft.state = .allow then
    draft.moveTo .elevatedObserve "observe" 0.6 .medium
  else draft

/-- The last rule tests the confidence and leaves it alone. -/
def probabilityRule (humanProbability : ℚ) (draft : Draft) : Draft :=
  if humanProbability ≤ 0.25 ∧ 0.75 ≤ draft.confidence then
    { draft with
      state := .block
      enforcement := "block"
      riskLevel := maxRisk draft.riskLevel .high }
  else if humanProbability ≤ 0.45 ∧ draft.state = .allow then
    { draft with
      state := .observe
      enforcement := "observe"
      riskLevel := maxRisk draft.riskLevel .medium }
  else draft

/-- The rules in their order. -/
def applySynthesisRules (flags : PacketFlags) (tier : Tier)
    (humanProbability roleConfidence disagreement : ℚ) : Draft :=
  let start : Draft := ⟨.allow, "allow", max 0.5 roleConfidence, .low, []⟩
  probabilityRule humanProbability (disagreementRule disagreement
    (highValueRule flags tier (latencyRule flags (clusterRule flags tier
      (stepUpRule flags start)))))

/-! ## Tier 0 -/

def tierZeroReasons (packet : EvidencePacket) : List ReasonCode :=
  (if truthy (packet.provenance.get "invalid_attestation") then [.invalidAttestation] else []) ++
  (if truthy (packet.behavioralFeatures.get "known_automation_fingerprint") then
    [.knownAutomationFingerprint] else []) ++
  (if truthy (packet.riskContext.get "impossible_event_sequence") then
    [.impossibleEventSequence] else []) ++
  (if isText "deterministic_failure" (packet.challengeData.get "status") then
    [.challengeFailureDeterministic] else [])

def tierZeroDraft (packet : EvidencePacket) : Draft :=
  ⟨.eject, "eject", 0.99, .high, tierZeroReasons packet⟩

/-! ## The decision -/

def decisionOf (decisionId : String) (packet : EvidencePacket) (reports : List RoleReport)
    (tier : Tier) (draft : Draft) (humanProbability botProbability : ℚ) : DecisionObject where
  decisionId := decisionId
  sessionId := packet.sessionId
  tenantId := packet.tenantId
  surface := packet.surface
  state := draft.state
  recommendedEnforcement := draft.enforcement
  confidence := draft.confidence
  riskLevel := draft.riskLevel
  reasonCodes := draft.reasonCodes
  challengeRequired := draft.state = .challenge
  stepUpRequired := draft.state = .stepUpAuth
  humanReviewRequired := draft.state = .restrict ∧ tier = .tier2
  evidencePacketId := packet.packetId
  argumentGraphId := "graph:" ++ packet.packetId
  roleReportIds := (reports.map (·.reportId)).filter truthy
  decisionTraceId := "trace:" ++ packet.packetId
  tierPath := tier
  metadata := Dict.empty
  humanProbability := humanProbability
  botProbability := botProbability
  explanation := explanationForState draft.state

def synthesizeDecision (parse : String → Option ℚ) (decisionId : String) (packet : EvidencePacket)
    (reports : List RoleReport) (tier : Tier) : Except PyError DecisionObject := do
  let humanProbability ← averageOf parse (·.humanProbability) reports
  let roleConfidence ← averageOf parse (·.confidence) reports
  if tier = .tier0 then
    return decisionOf decisionId packet reports tier (tierZeroDraft packet) 0.01 0.99
  let disagreement ← maxDisagreement parse reports
  return decisionOf decisionId packet reports tier
    (applySynthesisRules packet.flags tier humanProbability roleConfidence disagreement)
    humanProbability (max 0 (min 1 (1 - humanProbability)))

/-- The ensemble stays out of tier 0. -/
def tierReports (host : ReportHost) (packet : EvidencePacket) (temporalDrift : ℚ) (tier : Tier) :
    Except PyError (List RoleReport) :=
  if tier = .tier0 then .ok [] else ensembleReports host packet temporalDrift

def decideOn (host : ReportHost) (decisionId : String) (packet : EvidencePacket)
    (temporalDrift : ℚ) (tier : Tier) : Except PyError DecisionObject := do
  let reports ← tierReports host packet temporalDrift tier
  synthesizeDecision host.parseFloat decisionId packet reports tier

/-- From an event and its context to the decision on them. -/
def decideEvent (packets : PacketHost) (host : ReportHost) (decisionId : String) (surface : Json)
    (sessionId : String) (tenantId : Json) (event context : JsonDict) (temporalDrift : ℚ)
    (tier : Tier) : Except PyError DecisionObject := do
  let packet ← buildEvidencePacket packets surface sessionId tenantId event context
  decideOn host decisionId packet temporalDrift tier

end TruePresenceESE.Engine
