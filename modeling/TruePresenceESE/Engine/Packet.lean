import TruePresenceESE.Lib.Fallible
import TruePresenceESE.Lib.JsonDict

/-! # Evidence packets

`buildEvidencePacket` derives every feature group of a packet from the event and
its context, both of which are arbitrary dictionaries, so a conversion of one of
their members may raise.
-/

namespace TruePresenceESE.Engine

open PyValue JsonDict

structure EvidencePacket where
  packetId : String
  sessionId : String
  tenantId : Json
  surface : Json
  actorId : Json
  receivedAt : String
  eventWindowStart : Json
  eventWindowEnd : Json
  rawEvents : List JsonDict
  challengeData : JsonDict
  timingFeatures : JsonDict
  behavioralFeatures : JsonDict
  identityRefs : JsonDict
  sessionHistory : List Json
  policyContext : JsonDict
  riskContext : JsonDict
  provenance : JsonDict
  sessionContext : JsonDict
  metadata : JsonDict
  schemaVersion : String := "1.0"

/-- What building reads from outside: `float` on texts, a fresh id and the clock. -/
structure PacketHost where
  parseFloat : String → Option ℚ
  packetId : String
  utcNowIso : String

/-! ## Sources -/

def timingKeys : List String :=
  ["response_time_ms", "response_time", "relay_risk", "constant_latency_pattern",
    "temporal_drift", "message_velocity", "avg_interval", "timing_consistency"]

def mergeFeatureSources (event : JsonDict) : JsonDict :=
  (ofValue (event.get "features")).merge (ofValue (event.get "signals"))

def responseTimeMs (payload : JsonDict) : Json :=
  orElse (payload.get "response_time_ms") (payload.get "response_time")

/-- Values over ten count as milliseconds. -/
def responseSeconds (parse : String → Option ℚ) (responseTime : Json) : Except PyError ℚ := do
  let time ← toFloat parse responseTime
  return if 10 < time then time / 1000 else time

/-! ## Timing -/

/-- The timing keys of the event that the context leaves open. -/
def takeTimingKeys (merged context : JsonDict) : JsonDict :=
  timingKeys.foldl
    (fun d key => match merged.get? key with
      | some value => d.setDefault key value
      | none => d)
    context

def setLatencyPattern (parse : String → Option ℚ) (payload timing : JsonDict) :
    Except PyError JsonDict :=
  let responseTime := responseTimeMs payload
  if !isNone responseTime && !timing.has "constant_latency_pattern" then do
    let seconds ← responseSeconds parse responseTime
    return timing.set "constant_latency_pattern" (.bool (decide (seconds < 0.3)))
  else .ok timing

def setRelayRisk (parse : String → Option ℚ) (merged timing : JsonDict) :
    Except PyError JsonDict :=
  let similarity := merged.get "content_similarity"
  if !timing.has "relay_risk" && !isNone similarity then do
    let risk ← toFloat parse similarity
    return timing.set "relay_risk" (.num risk)
  else .ok timing

def deriveTimingFeatures (parse : String → Option ℚ) (event context : JsonDict) :
    Except PyError JsonDict := do
  let payload := ofValue (event.get "payload")
  let merged := mergeFeatureSources event
  let taken := takeTimingKeys merged (ofValue (context.get "timing_features"))
  let timed ← setLatencyPattern parse payload taken
  setRelayRisk parse merged timed

/-! ## Behavior -/

def atLeast (d : JsonDict) (key : String) (bound : ℚ) : Except PyError Bool :=
  (number (d.getOr key (.num 0))).map (decide <| bound ≤ ·)

def automationPattern (merged : JsonDict) : Except PyError Bool := do
  if ← atLeast merged "ai_mediation" 0.7 then return true
  if ← atLeast merged "message_velocity" 50 then return true
  atLeast merged "content_similarity" 0.9

def deriveBehavioralFeatures (event context : JsonDict) : Except PyError JsonDict := do
  let merged := mergeFeatureSources event
  let filled := merged.items.foldl (fun d p => d.setDefault p.1 p.2)
    (ofValue (context.get "behavioral_features"))
  let patterned ←
    if filled.has "automation_pattern" then pure filled
    else do
      let pattern ← automationPattern merged
      pure (filled.set "automation_pattern" (.bool pattern))
  return patterned.setDefault "known_automation_fingerprint"
    (.bool (truthy (context.get "known_automation_fingerprint")))

/-! ## Challenge, identity, policy and risk -/

def withChallengeStatus (data : JsonDict) : JsonDict :=
  if data.has "status" then data
  else match data.get "verified" with
    | .bool true => data.set "status" (.str "passed")
    | .bool false => data.set "status" (.str "failed")
    | _ => if data.items.isEmpty then data else data.set "status" (.str "submitted")

def deriveChallengeData (event context : JsonDict) : JsonDict :=
  let data := ofValue (context.get "challenge_data")
  let raw := orElse (event.get "challenge_result") (event.get "challenge_response")
  withChallengeStatus (if truthy raw then data.merge (ofValue raw) else data)

def deriveIdentityRefs (sessionId : String) (context : JsonDict) : JsonDict :=
  (ofValue (context.get "identity_refs")).setDefault "session_id" (.str sessionId)

def derivePolicyContext (event context : JsonDict) : JsonDict :=
  let policy := ofValue (context.get "policy_context")
  if isText "high_value_transaction" (event.get "event_type") then
    policy.setDefault "high_value_flow" (.bool true)
  else policy

def deriveRiskContext (event context : JsonDict) : Except PyError JsonDict := do
  let given := ofValue (context.get "risk_context")
  let typed := match event.get? "event_type" with
    | some eventType => given.setDefault "event_type" eventType
    | none => given
  let threats := (ofValue (event.get "threat_analysis")).get "threats_detected"
  if truthy threats then
    let listed ← listOf threats
    return typed.setDefault "threats_detected" (.arr listed)
  return typed

/-! ## Default signals -/

structure DefaultSignals where
  liveness : ℚ
  aiMediation : ℚ
  relayRisk : ℚ
  deterministicPolicyViolation : ℚ

def directInteraction (event : JsonDict) : Except PyError ℚ := do
  let eventType := event.get "event_type"
  let base ←
    if ← memberOf ["cursor_move", "key_timing", "click"] eventType then pure (0.8 : ℚ)
    else if ← memberOf ["message", "member_join", "member_update"] eventType then pure 0.45
    else pure 0.2
  return if truthy ((ofValue (event.get "context")).get "is_bot") then 0.05 else base

def defaultLiveness (direct : ℚ) (challengeData : JsonDict) : ℚ :=
  let verifiedChallenges : ℚ := if isText "passed" (challengeData.get "status") then 1 else 0
  min 1 (direct + 0.2 * verifiedChallenges)

def defaultMediation (event payload : JsonDict) : ℚ :=
  let pasted := orElse (orElse (payload.get "pasted") (payload.get "paste"))
    (payload.get "is_paste")
  let mediation : ℚ := if truthy pasted then 0.75 else 0.1
  if isText "clipboard" (event.get "event_type") then max mediation 0.6 else mediation

def defaultRelayRisk (parse : String → Option ℚ) (event payload : JsonDict) :
    Except PyError ℚ := do
  let responseTime := responseTimeMs payload
  let timed ←
    if isNone responseTime then pure (0.1 : ℚ)
    else do
      let seconds ← responseSeconds parse responseTime
      pure (if seconds < 0.3 then 0.9 else if 8 < seconds then 0.7 else 0.3)
  let similarity ← toFloat parse
    (orElse ((mergeFeatureSources event).getOr "content_similarity" (.num 0)) (.num 0))
  return max timed similarity

def deriveDefaultSignals (parse : String → Option ℚ) (event challengeData : JsonDict) :
    Except PyError DefaultSignals := do
  let payload := ofValue (event.get "payload")
  let direct ← directInteraction event
  let relayRisk ← defaultRelayRisk parse event payload
  let threats := (ofValue (event.get "threat_analysis")).get "threats_detected"
  return {
    liveness := defaultLiveness direct challengeData
    aiMediation := defaultMediation event payload
    relayRisk := relayRisk
    deterministicPolicyViolation := if truthy threats then 1 else 0 }

/-! ## The packet -/

def provenanceOf (surface : Json) (event context : JsonDict) : JsonDict :=
  ofFields [("normalizer_version", .str "1.0"), ("source_surface", surface),
    ("invalid_attestation", .bool (truthy (orElse (context.get "invalid_attestation")
      ((ofValue (event.get "context")).get "invalid_attestation"))))]

def buildEvidencePacket (host : PacketHost) (surface : Json) (sessionId : String)
    (tenantId : Json) (event context : JsonDict) : Except PyError EvidencePacket := do
  let timing ← deriveTimingFeatures host.parseFloat event context
  let behavioral ← deriveBehavioralFeatures event context
  let challengeData := deriveChallengeData event context
  let signals ← deriveDefaultSignals host.parseFloat event challengeData
  let sessionHistory ← listOf (context.getOr "session_history" (.arr []))
  let riskContext ← deriveRiskContext event context
  return {
    packetId := host.packetId
    sessionId := sessionId
    tenantId := tenantId
    surface := surface
    actorId := context.get "actor_id"
    receivedAt := host.utcNowIso
    eventWindowStart := context.get "event_window_start"
    eventWindowEnd := context.get "event_window_end"
    rawEvents := [event]
    challengeData := challengeData
    timingFeatures := timing.setDefault "relay_risk" (.num signals.relayRisk)
    behavioralFeatures :=
      ((behavioral.setDefault "liveness" (.num signals.liveness)).setDefault "ai_mediation"
        (.num signals.aiMediation)).setDefault "deterministic_policy_violation"
          (.num signals.deterministicPolicyViolation)
    identityRefs := deriveIdentityRefs sessionId context
    sessionHistory := sessionHistory
    policyContext := derivePolicyContext event context
    riskContext := riskContext
    provenance := provenanceOf surface event context
    sessionContext := ofValue (context.get "session")
    metadata := ofFields [("event_type", event.get "event_type"),
      ("context", (ofValue (event.get "context")).toJson)] }

theorem buildEvidencePacket_ok {host : PacketHost} {surface : Json} {sessionId : String}
    {tenantId : Json} {event context : JsonDict} {packet : EvidencePacket}
    (h : buildEvidencePacket host surface sessionId tenantId event context = .ok packet) :
    ∃ timing behavioral signals,
      deriveTimingFeatures host.parseFloat event context = .ok timing ∧
      deriveBehavioralFeatures event context = .ok behavioral ∧
      deriveDefaultSignals host.parseFloat event (deriveChallengeData event context) =
        .ok signals ∧
      packet.challengeData = deriveChallengeData event context ∧
      packet.timingFeatures = timing.setDefault "relay_risk" (.num signals.relayRisk) ∧
      packet.behavioralFeatures =
        ((behavioral.setDefault "liveness" (.num signals.liveness)).setDefault "ai_mediation"
          (.num signals.aiMediation)).setDefault "deterministic_policy_violation"
            (.num signals.deterministicPolicyViolation) ∧
      packet.identityRefs = deriveIdentityRefs sessionId context ∧
      packet.policyContext = derivePolicyContext event context := by
  obtain ⟨timing, htiming, h⟩ := Fallible.bind_eq_ok_iff.mp h
  obtain ⟨behavioral, hbehavioral, h⟩ := Fallible.bind_eq_ok_iff.mp h
  obtain ⟨signals, hsignals, h⟩ := Fallible.bind_eq_ok_iff.mp h
  obtain ⟨sessionHistory, -, h⟩ := Fallible.bind_eq_ok_iff.mp h
  obtain ⟨riskContext, -, h⟩ := Fallible.bind_eq_ok_iff.mp h
  cases h
  exact ⟨timing, behavioral, signals, htiming, hbehavioral, hsignals, rfl, rfl, rfl, rfl, rfl⟩

theorem buildEvidencePacket_event {host : PacketHost} {surface : Json} {sessionId : String}
    {tenantId : Json} {event context : JsonDict} {packet : EvidencePacket}
    (h : buildEvidencePacket host surface sessionId tenantId event context = .ok packet) :
    packet.sessionId = sessionId ∧ packet.rawEvents = [event] := by
  obtain ⟨timing, -, h⟩ := Fallible.bind_eq_ok_iff.mp h
  obtain ⟨behavioral, -, h⟩ := Fallible.bind_eq_ok_iff.mp h
  obtain ⟨signals, -, h⟩ := Fallible.bind_eq_ok_iff.mp h
  obtain ⟨sessionHistory, -, h⟩ := Fallible.bind_eq_ok_iff.mp h
  obtain ⟨riskContext, -, h⟩ := Fallible.bind_eq_ok_iff.mp h
  cases h
  exact ⟨rfl, rfl⟩

/-! ## What the roles read -/

/-- The signals of `as_role_evidence`; behavioral features go over timing features. -/
def EvidencePacket.signals (packet : EvidencePacket) : JsonDict :=
  let merged := packet.timingFeatures.merge packet.behavioralFeatures
  let verified := if isText "passed" (packet.challengeData.get "status") then
    merged.setDefault "challenge_verified" (.num 1) else merged
  let clusterRisk := packet.identityRefs.get "cluster_risk"
  if isNone clusterRisk then verified else verified.setDefault "cluster_risk" clusterRisk

end TruePresenceESE.Engine
