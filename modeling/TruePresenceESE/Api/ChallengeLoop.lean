import TruePresenceESE.Engine.ClusterRisk
import TruePresenceESE.Lib.PyText

/-! # The challenge loop of the websocket

The handler replaces a challenge response by an event of its own, with the verdict as
payload. The packet builder looks for a challenge result beside the payload.
-/

namespace TruePresenceESE.Api

open PyValue JsonDict TruePresenceESE.Engine

/-! ## Validating a response -/

structure Challenge where
  id : String
  prompt : String
  createdAt : ℚ

abbrev ActiveChallenges := Dict String Challenge

structure Verdict where
  valid : Bool
  ttr : Option ℚ
  reason : String

def Verdict.toJson (verdict : Verdict) : Json :=
  .obj ([("valid", .bool verdict.valid)] ++
    (verdict.ttr.elim [] fun ttr => [("ttr", .num ttr)]) ++ [("reason", .str verdict.reason)])

/-- The verdict; a challenge that was issued is used up. -/
def validateResponse (active : ActiveChallenges) (now : ℚ) (sessionId responseText : String) :
    Verdict × ActiveChallenges :=
  match active.get? sessionId with
  | none => (⟨false, none, "no_active_challenge"⟩, active)
  | some challenge =>
      let ttr := now - challenge.createdAt
      let isTimingValid := decide (1 < ttr ∧ ttr < 30)
      let isCorrect := decide (0 < (PyText.strip responseText).length)
      (⟨isCorrect && isTimingValid, some ttr,
        if isTimingValid then "correct" else "timing_anomaly"⟩,
        active.erase sessionId)

/-- The text of a challenge response; only an active challenge asks it to be one. -/
def receiveResponse (active : ActiveChallenges) (now : ℚ) (sessionId : String) (event : JsonDict) :
    Except PyError (Verdict × ActiveChallenges) := do
  let payload ← mappingOf (event.getOr "payload" (.obj []))
  match payload.getOr "text" (.str "") with
  | .str text => return validateResponse active now sessionId text
  | _ =>
      if (active.get? sessionId).isNone then return validateResponse active now sessionId ""
      else throw .attributeError

/-! ## The event for the engine -/

def challengeResultEvent (verdict : Verdict) : JsonDict :=
  ofFields [("event_type", .str "challenge_result"), ("payload", verdict.toJson)]

/-- The call that the handler makes on a challenge response. -/
def challengeCall (sessionId : String) (sessionMode : Json) (verdict : Verdict) : EvaluateCall where
  surface := .str "web_guard"
  sessionId := sessionId
  tenantId := .str "default"
  event := challengeResultEvent verdict
  session := ofFields [("session_id", .str sessionId), ("mode", sessionMode),
    ("tenant_id", .str "default")]

/-- The status of the evidence is that of the verdict. -/
def VerdictReaches (packet : EvidencePacket) (verdict : Verdict) : Prop :=
  packet.challengeData.get "status" = .str (if verdict.valid then "passed" else "failed")

section
variable {host : EngineHost} {o : Orchestrator} {sessionId : String} {sessionMode : Json}
  {verdict : Verdict}

/-- The context of the call names no challenge. -/
def challengeContext (o : Orchestrator) (sessionId : String) (sessionMode : Json)
    (verdict : Verdict) (refs : JsonDict) : JsonDict :=
  ofFields [
    ("session", (challengeCall sessionId sessionMode verdict).session.toJson),
    ("actor_id", .null),
    ("session_history", .arr ((Memory.SessionTimeline.takeLast 50
      (o.memory.eventsOf sessionId)).map toJson)),
    ("identity_refs", refs.toJson)]

theorem evaluationContext_challenge {refs : JsonDict}
    (h : identityRefsOf host o.identityGraph sessionId = .ok refs) :
    evaluationContext host o (challengeCall sessionId sessionMode verdict) =
      .ok (challengeContext o sessionId sessionMode verdict refs) := by
  refine Fallible.map_eq_ok_iff.mpr ⟨refs, h, ?_⟩
  rfl

theorem identityRefsOf_isOk {g : Memory.IdentityGraph} (hg : g.WellFormed) :
    ∃ refs, identityRefsOf host g sessionId = .ok refs := by
  obtain ⟨risk, hrisk⟩ :=
    Memory.IdentityGraph.getSessionRisk_isOk hg host.hashSessionId sessionId
  unfold identityRefsOf
  dsimp only
  split
  · exact ⟨_, rfl⟩
  · exact ⟨_, Fallible.bind_eq_ok_iff.mpr ⟨risk, hrisk, rfl⟩⟩

end

/-! ## Building the packet -/

theorem responseTimeMs_verdict (verdict : Verdict) :
    responseTimeMs (ofValue ((challengeResultEvent verdict).get "payload")) = .null := by
  obtain ⟨valid, ttr, reason⟩ := verdict
  cases ttr <;> rfl

theorem mergeFeatureSources_challenge (verdict : Verdict) :
    mergeFeatureSources (challengeResultEvent verdict) = Dict.empty := rfl

theorem automationPattern_empty : automationPattern Dict.empty = .ok false := by
  have hbelow : ∀ key (bound : ℚ), 0 < bound → atLeast Dict.empty key bound = .ok false := by
    intro key bound hbound
    have hdecide : atLeast Dict.empty key bound = .ok (decide (bound ≤ 0)) := rfl
    rw [hdecide, decide_eq_false (not_le.mpr hbound)]
  unfold automationPattern
  rw [hbelow _ _ (by norm_num), hbelow _ _ (by norm_num), hbelow _ _ (by norm_num)]
  rfl

section
variable {parse : String → Option ℚ} {verdict : Verdict} {context : JsonDict}

theorem deriveTimingFeatures_challenge :
    deriveTimingFeatures parse (challengeResultEvent verdict) context =
      .ok (takeTimingKeys Dict.empty (ofValue (context.get "timing_features"))) := by
  simp only [deriveTimingFeatures, setLatencyPattern, setRelayRisk, responseTimeMs_verdict,
    mergeFeatureSources_challenge, isNone, get_empty, Bool.not_true, Bool.false_and,
    Bool.and_false, Bool.false_eq_true, if_false]
  rfl

theorem deriveBehavioralFeatures_challenge :
    ∃ behavioral, deriveBehavioralFeatures (challengeResultEvent verdict) context =
      .ok behavioral := by
  unfold deriveBehavioralFeatures
  rw [mergeFeatureSources_challenge]
  dsimp only
  rw [automationPattern_empty]
  split <;> exact ⟨_, rfl⟩

theorem defaultRelayRisk_challenge :
    ∃ risk, defaultRelayRisk parse (challengeResultEvent verdict)
      (ofValue ((challengeResultEvent verdict).get "payload")) = .ok risk := by
  have hpow : (2 : ℚ) ^ 970 < 2 ^ 1024 := pow_lt_pow_right₀ (by norm_num) (by norm_num)
  have hzero : toFloat parse (.num 0) = .ok 0 := by
    simp only [toFloat]
    rw [if_pos (by simpa using hpow)]
  have hsimilarity : toFloat parse (orElse
      ((mergeFeatureSources (challengeResultEvent verdict)).getOr "content_similarity" (.num 0))
      (.num 0)) = .ok 0 := hzero
  unfold defaultRelayRisk
  rw [responseTimeMs_verdict, hsimilarity]
  exact ⟨_, rfl⟩

theorem deriveDefaultSignals_challenge {challengeData : JsonDict} :
    ∃ signals, deriveDefaultSignals parse (challengeResultEvent verdict) challengeData =
      .ok signals := by
  have hdirect : ∃ direct, directInteraction (challengeResultEvent verdict) = .ok direct := ⟨_, rfl⟩
  obtain ⟨direct, hdirect⟩ := hdirect
  obtain ⟨risk, hrelay⟩ := @defaultRelayRisk_challenge parse verdict
  refine ⟨_, Fallible.bind_eq_ok_iff.mpr ⟨direct, hdirect,
    Fallible.bind_eq_ok_iff.mpr ⟨risk, hrelay, rfl⟩⟩⟩

theorem deriveChallengeData_challenge (h : context.get? "challenge_data" = none) :
    deriveChallengeData (challengeResultEvent verdict) context = Dict.empty := by
  have hdata : context.get "challenge_data" = .null := by
    unfold JsonDict.get JsonDict.getOr
    rw [h]
    rfl
  unfold deriveChallengeData
  rw [hdata]
  rfl

theorem buildEvidencePacket_challenge {host : PacketHost} {surface tenantId : Json}
    {sessionId : String} {history : List Json}
    (hhistory : context.get? "session_history" = some (.arr history))
    (hchallenge : context.get? "challenge_data" = none) :
    ∃ packet, buildEvidencePacket host surface sessionId tenantId (challengeResultEvent verdict)
      context = .ok packet ∧ packet.challengeData = Dict.empty := by
  obtain ⟨behavioral, hbehavioral⟩ := @deriveBehavioralFeatures_challenge verdict context
  obtain ⟨signals, hsignals⟩ := @deriveDefaultSignals_challenge host.parseFloat verdict
    (deriveChallengeData (challengeResultEvent verdict) context)
  have hlisted : listOf (context.getOr "session_history" (.arr [])) = .ok history := by
    rw [JsonDict.getOr, hhistory]
    rfl
  have hrisk : ∃ risk, deriveRiskContext (challengeResultEvent verdict) context = .ok risk :=
    ⟨_, rfl⟩
  obtain ⟨risk, hrisk⟩ := hrisk
  refine ⟨_, Fallible.bind_eq_ok_iff.mpr ⟨_, deriveTimingFeatures_challenge,
    Fallible.bind_eq_ok_iff.mpr ⟨behavioral, hbehavioral,
      Fallible.bind_eq_ok_iff.mpr ⟨signals, hsignals,
        Fallible.bind_eq_ok_iff.mpr ⟨history, hlisted,
          Fallible.bind_eq_ok_iff.mpr ⟨risk, hrisk, rfl⟩⟩⟩⟩⟩, ?_⟩
  exact deriveChallengeData_challenge hchallenge

end

/-! ## The verdict is lost -/

theorem challengeCall_packet {o : Orchestrator} (ho : o.identityGraph.WellFormed)
    (host : EngineHost) (sessionId : String) (sessionMode : Json) (verdict : Verdict) :
    ∃ context packet,
      evaluationContext host o (challengeCall sessionId sessionMode verdict) = .ok context ∧
      buildEvidencePacket host.packets (.str "web_guard") sessionId
        (resolvedTenantId (challengeCall sessionId sessionMode verdict))
        (challengeResultEvent verdict) context = .ok packet ∧
      packet.challengeData = Dict.empty := by
  obtain ⟨refs, hrefs⟩ := @identityRefsOf_isOk host sessionId _ ho
  obtain ⟨packet, hpacket, hdata⟩ := @buildEvidencePacket_challenge verdict
    (challengeContext o sessionId sessionMode verdict refs) host.packets (.str "web_guard")
    (resolvedTenantId (challengeCall sessionId sessionMode verdict)) sessionId _ rfl rfl
  exact ⟨_, packet, evaluationContext_challenge hrefs, hpacket, hdata⟩

theorem not_verdictReaches {packet : EvidencePacket} {verdict : Verdict}
    (h : packet.challengeData = Dict.empty) : ¬ VerdictReaches packet verdict := by
  rw [VerdictReaches, h]
  simp

/-- Whatever a response is found to be, the packet of its evaluation does not say so. -/
theorem verdict_never_reaches (host : EngineHost) {o : Orchestrator} (ho : Reachable o)
    (active : ActiveChallenges) (now : ℚ) (sessionId responseText : String) (sessionMode : Json) :
    let verdict := (validateResponse active now sessionId responseText).1
    let call := challengeCall sessionId sessionMode verdict
    ∃ context packet, evaluationContext host o call = .ok context ∧
      buildEvidencePacket host.packets call.surface call.sessionId (resolvedTenantId call)
        call.event context = .ok packet ∧
      ¬ VerdictReaches packet verdict := by
  intro verdict call
  obtain ⟨context, packet, hcontext, hpacket, hdata⟩ := challengeCall_packet
    (reachable_wellFormed ho) host sessionId sessionMode verdict
  exact ⟨context, packet, hcontext, hpacket, not_verdictReaches hdata⟩

/-- One challenge, issued at second 0. -/
def issuedChallenge : ActiveChallenges :=
  Dict.empty.set "s" ⟨"c", "Say the word 'orange' out loud, then type it.", 0⟩

theorem verdict_never_reaches_orange :
    ∃ context packet,
      evaluationContext plainEngine ⟨Dict.empty, Memory.IdentityGraph.empty, none⟩
        (challengeCall "s" (.str "production") (validateResponse issuedChallenge 10 "s" "orange").1) =
          .ok context ∧
      buildEvidencePacket plainEngine.packets (.str "web_guard") "s"
        (resolvedTenantId (challengeCall "s" (.str "production")
          (validateResponse issuedChallenge 10 "s" "orange").1))
        (challengeResultEvent (validateResponse issuedChallenge 10 "s" "orange").1) context =
          .ok packet ∧
      ¬ VerdictReaches packet (validateResponse issuedChallenge 10 "s" "orange").1 :=
  verdict_never_reaches plainEngine (.start none) issuedChallenge 10 "s" "orange"
    (.str "production")

/-- A correct answer after ten seconds: valid, and not passed. -/
theorem valid_verdict_lost :
    (validateResponse issuedChallenge 10 "s" "orange").1.valid = true ∧
    ∃ context packet,
      evaluationContext plainEngine ⟨Dict.empty, Memory.IdentityGraph.empty, none⟩
        (challengeCall "s" (.str "production") (validateResponse issuedChallenge 10 "s" "orange").1) =
          .ok context ∧
      buildEvidencePacket plainEngine.packets (.str "web_guard") "s"
        (resolvedTenantId (challengeCall "s" (.str "production")
          (validateResponse issuedChallenge 10 "s" "orange").1))
        (challengeResultEvent (validateResponse issuedChallenge 10 "s" "orange").1) context =
          .ok packet ∧
      packet.challengeData.get "status" ≠ .str "passed" := by
  refine ⟨by decide +kernel, ?_⟩
  obtain ⟨context, packet, hcontext, hpacket, hdata⟩ := challengeCall_packet
    (o := ⟨Dict.empty, Memory.IdentityGraph.empty, none⟩)
    Memory.IdentityGraph.empty_wellFormed plainEngine "s" (.str "production")
    (validateResponse issuedChallenge 10 "s" "orange").1
  refine ⟨context, packet, hcontext, hpacket, ?_⟩
  rw [hdata]
  simp

end TruePresenceESE.Api
