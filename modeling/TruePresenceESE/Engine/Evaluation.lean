import TruePresenceESE.Engine.Routing
import TruePresenceESE.Memory.IdentityGraph
import TruePresenceESE.Memory.SessionTimeline
import TruePresenceESE.Runtime.Distributed

/-! # The decision engine

One evaluation completes the context from memory, builds the packet, and off tier 0
lets the orchestrator run the roles. The orchestrator rewrites the packet it is
given, and changes its own state as it goes, so that an evaluation that raises
leaves the changes made before.
-/

namespace TruePresenceESE.Engine

open PyValue JsonDict Memory TruePresenceESE.Runtime

/-! ## State and environment -/

structure Orchestrator where
  memory : SessionTimeline
  identityGraph : IdentityGraph
  distributed : Option RedisStore

/-- What one evaluation reads from outside. -/
structure EngineHost where
  packets : PacketHost
  reports : ReportHost
  decisionId : String
  hashSessionId : String → String
  sqrt : ℚ → ℚ
  now : ℚ

structure EvaluateCall where
  surface : Json
  sessionId : String
  tenantId : Json := .null
  event : JsonDict
  context : JsonDict := Dict.empty
  session : JsonDict := Dict.empty
  challengeResults : List JsonDict := []

/-! ## The context -/

def identityRefsOf (host : EngineHost) (g : IdentityGraph) (sessionId : String) :
    Except PyError JsonDict := do
  let connected := g.getConnectedSessions host.hashSessionId sessionId
  let refs := ofFields [("connected_sessions", .num connected.length)]
  if connected = [] then return refs
  let risk ← g.getSessionRisk host.hashSessionId sessionId
  return refs.set "cluster_risk" (if 0.75 ≤ risk then .str "high" else .num risk)

/-- The status of a verified or refuted challenge result. -/
def latestChallenge (result : JsonDict) : JsonDict :=
  match result.get "verified" with
  | .bool true => result.setDefault "status" (.str "passed")
  | .bool false => result.setDefault "status" (.str "failed")
  | _ => result

def withSession (call : EvaluateCall) : JsonDict :=
  if call.session.items.isEmpty then call.context
  else (call.context.setDefault "session" call.session.toJson).setDefault "actor_id"
    (orElse (call.session.get "actor_id") (call.session.get "user_id"))

def withChallenge (call : EvaluateCall) (context : JsonDict) : JsonDict :=
  match call.challengeResults.getLast? with
  | some latest => context.setDefault "challenge_data" (latestChallenge latest).toJson
  | none => context

def withHistory (o : Orchestrator) (call : EvaluateCall) (context : JsonDict) : JsonDict :=
  context.setDefault "session_history"
    (.arr ((SessionTimeline.takeLast 50 (o.memory.eventsOf call.sessionId)).map toJson))

def withIdentityRefs (host : EngineHost) (o : Orchestrator) (call : EvaluateCall)
    (context : JsonDict) : Except PyError JsonDict :=
  if context.has "identity_refs" then .ok context
  else (identityRefsOf host o.identityGraph call.sessionId).map
    (context.set "identity_refs" ·.toJson)

def evaluationContext (host : EngineHost) (o : Orchestrator) (call : EvaluateCall) :
    Except PyError JsonDict :=
  withIdentityRefs host o call (withHistory o call (withChallenge call (withSession call)))

def resolvedTenantId (call : EvaluateCall) : Json :=
  orElse (orElse (orElse call.tenantId (call.session.get "tenant_id"))
    ((withSession call).get "tenant_id")) (.str "default")

/-- What stands before the roles run. -/
structure Prepared where
  context : JsonDict
  packet : EvidencePacket
  graph : ArgumentGraph
  tier : Tier

def prepare (host : EngineHost) (o : Orchestrator) (call : EvaluateCall) :
    Except PyError Prepared := do
  let context ← evaluationContext host o call
  let packet ← buildEvidencePacket host.packets call.surface call.sessionId
    (resolvedTenantId call) call.event context
  let graph ← buildArgumentGraph packet
  let tier ← chooseTier packet context
  return ⟨context, packet, graph, tier⟩

/-! ## The ensemble -/

def EvidencePacket.latestEvent (packet : EvidencePacket) : JsonDict :=
  packet.rawEvents.getLastD Dict.empty

/-- A session id that is looked up has to be a text. -/
def sessionText : Json → Except PyError String
  | .str sessionId => .ok sessionId
  | _ => .error .attributeError

/-- The id under which the orchestrator looks its session up. -/
def ensembleSessionId (session event : JsonDict) : Json :=
  orElse (session.get "session_id") (event.get "session_id")

def refreshIdentityRefs (host : EngineHost) (g : IdentityGraph) (sessionId : Json)
    (refs : JsonDict) : Except PyError JsonDict := do
  if !truthy sessionId then return refs
  let id ← sessionText sessionId
  let connected := g.getConnectedSessions host.hashSessionId id
  let counted := refs.set "connected_sessions" (.num connected.length)
  if connected = [] then return counted
  let risk ← g.getSessionRisk host.hashSessionId id
  return counted.set "cluster_risk" (.num risk)

/-- The rewritten packet and the drift of the session. -/
def refreshEvidence (host : EngineHost) (o : Orchestrator) (session event : JsonDict)
    (packet : EvidencePacket) : Except PyError (EvidencePacket × ℚ) := do
  let sessionId := ensembleSessionId session event
  let temporalDrift ← o.memory.drift sessionId
  let identityRefs ← refreshIdentityRefs host o.identityGraph sessionId packet.identityRefs
  let _historical ← o.memory.window sessionId
  return ({ packet with
    metadata := packet.metadata.set "temporal_drift" (.num temporalDrift)
    identityRefs := identityRefs }, temporalDrift)

/-- What synthesis hands to the identity graph and to the distributed runtime. -/
structure Synthesized where
  humanProbability : ℚ
  confidence : ℚ
  disagreement : ℚ
  variance : ℚ

/-- All roles have the same weight. -/
def synthesize (sqrt : ℚ → ℚ) (outputs : List (String × JsonDict)) : Except PyError Synthesized := do
  let probabilities ← outputs.mapM fun output =>
    number (output.2.getOr "human_probability" (output.2.getOr "probability" (.num 0.5)))
  let mean := probabilities.sum / probabilities.length
  let variance := SessionTimeline.variance probabilities
  let disagreement := if 0 < mean then sqrt variance / mean else 0
  return ⟨mean, 1 - min (disagreement / 2) 1, disagreement, variance⟩

/-- The council's consensus is the same average once more. -/
def legacyDecision (synthesized : Synthesized) (crossSessionRisk : ℚ) : String :=
  let combined := synthesized.humanProbability * 0.6 + synthesized.humanProbability * 0.2 +
    (1 - crossSessionRisk) * 0.2
  if 0.75 < combined then "allow"
  else if combined < 0.35 then "block"
  else if combined < 0.5 then "challenge"
  else "review"

structure Analysis where
  packet : EvidencePacket
  temporalDrift : ℚ
  outputs : List (String × JsonDict)
  synthesized : Synthesized
  crossSessionRisk : ℚ

def sessionRisk (host : EngineHost) (o : Orchestrator) (sessionId : String) : Except PyError ℚ :=
  if sessionId = "" then .ok 0 else o.identityGraph.getSessionRisk host.hashSessionId sessionId

def analyze (host : EngineHost) (o : Orchestrator) (session : JsonDict) (packet : EvidencePacket) :
    Except PyError Analysis := do
  let refreshed ← refreshEvidence host o session packet.latestEvent packet
  let outputs ← roleOutputs refreshed.1.signals refreshed.2
  let synthesized ← synthesize host.sqrt outputs
  let crossSessionRisk ← sessionRisk host o packet.sessionId
  return ⟨refreshed.1, refreshed.2, outputs, synthesized, crossSessionRisk⟩

def detectionFields (analysis : Analysis) : Json :=
  let synthesized := analysis.synthesized
  .obj [("human_probability", .num synthesized.humanProbability),
    ("bot_probability", .num (1 - synthesized.humanProbability)),
    ("confidence", .num synthesized.confidence),
    ("decision", .str (legacyDecision synthesized analysis.crossSessionRisk))]

/-- The numbers of the record that the distributed runtime is asked to keep. -/
def finalResult (analysis : Analysis) : PyObject :=
  let synthesized := analysis.synthesized
  .json (.obj [("human_probability", .num synthesized.humanProbability),
    ("bot_probability", .num (1 - synthesized.humanProbability)),
    ("confidence", .num synthesized.confidence),
    ("disagreement", .num synthesized.disagreement), ("variance", .num synthesized.variance),
    ("cross_session_risk", .num analysis.crossSessionRisk),
    ("decision", .str (legacyDecision synthesized analysis.crossSessionRisk))])

/-- Recording stamps the event, which the packet shares. -/
def stamped (o : Orchestrator) (now : ℚ) (packet : EvidencePacket) : EvidencePacket :=
  if o.distributed.isSome then
    { packet with
      rawEvents := packet.rawEvents.dropLast ++ [RedisStore.stampEvent now packet.latestEvent] }
  else packet

structure EnsembleRun where
  reports : List RoleReport
  packet : EvidencePacket
  temporalDrift : ℚ

/-- The session that goes into the identity graph, without its detection. -/
def ensembleSession (given : JsonDict) (packet : EvidencePacket) : JsonDict :=
  (given.setDefault "session_id" (.str packet.sessionId)).setDefault "tenant_id" packet.tenantId

def remember (host : EngineHost) (o : Orchestrator) (packet : EvidencePacket) : Orchestrator :=
  { o with memory := o.memory.addEvent host.now packet.sessionId packet.latestEvent }

def recordAnalysis (host : EngineHost) (o : Orchestrator) (packet : EvidencePacket)
    (analysis : Analysis) : Orchestrator :=
  { o with
    distributed := o.distributed.map (·.recordEvaluation host.now packet.sessionId
      packet.latestEvent (finalResult analysis)) }

/-- The graph keeps a session even where its features cannot be read. -/
def detect (host : EngineHost) (o : Orchestrator) (sessionId : String) (session : JsonDict) :
    Except PyError Unit × Orchestrator :=
  match o.identityGraph.addSession host.hashSessionId sessionId session with
  | .ok identityGraph => (.ok (), { o with identityGraph := identityGraph })
  | .error e => (.error e,
      { o with
        identityGraph := o.identityGraph.storeSession host.hashSessionId sessionId session })

def runEnsemble (host : EngineHost) (o : Orchestrator) (prepared : Prepared) :
    Except PyError EnsembleRun × Orchestrator :=
  let packet := prepared.packet
  match host.reports.dictOf (prepared.context.getOr "session" (.obj [])) with
  | .error e => (.error e, o)
  | .ok given =>
      let session := ensembleSession given packet
      let remembered := remember host o packet
      match analyze host remembered session packet with
      | .error e => (.error e, remembered)
      | .ok analysis =>
          let recorded := recordAnalysis host remembered packet analysis
          let detected := detect host recorded packet.sessionId
            (session.set "detection" (detectionFields analysis))
          (do
            detected.1
            let reports ← normalizeRoleReports host.reports analysis.outputs
              (analysis.packet.challengeData.get "status")
            return ⟨reports, stamped o host.now analysis.packet, analysis.temporalDrift⟩,
          detected.2)

def runTier (host : EngineHost) (o : Orchestrator) (prepared : Prepared) :
    Except PyError EnsembleRun × Orchestrator :=
  if prepared.tier = .tier0 then (.ok ⟨[], prepared.packet, 0⟩, o) else runEnsemble host o prepared

/-! ## The result -/

structure DecisionResult where
  decision : DecisionObject
  evidencePacket : EvidencePacket
  argumentGraph : ArgumentGraph
  roleReports : List RoleReport
  threatCategories : Json
  blockReason : String

def conclude (host : EngineHost) (prepared : Prepared) (run : EnsembleRun) :
    Except PyError DecisionResult := do
  let decision ← synthesizeDecision host.reports.parseFloat host.decisionId run.packet run.reports
    prepared.tier
  return {
    decision := decision
    evidencePacket := run.packet
    argumentGraph := prepared.graph
    roleReports := run.reports
    threatCategories := run.packet.riskContext.getOr "threats_detected" (.arr [])
    blockReason := if prepared.tier = .tier0 then "Deterministic policy violation" else "" }

def evaluate (host : EngineHost) (o : Orchestrator) (call : EvaluateCall) :
    Except PyError DecisionResult × Orchestrator :=
  match prepare host o call with
  | .error e => (.error e, o)
  | .ok prepared =>
      let run := runTier host o prepared
      (run.1 >>= conclude host prepared, run.2)

/-- `temporal_signals.cross_session_risk` of the response. -/
def DecisionResult.crossSessionRisk (result : DecisionResult) : Json :=
  result.evidencePacket.identityRefs.getOr "cluster_risk" (.num 0)

/-! ## What an evaluation that returns went through -/

section
variable {host : EngineHost} {o : Orchestrator} {call : EvaluateCall} {prepared : Prepared}
  {run : EnsembleRun} {result : DecisionResult}

theorem prepare_ok (h : prepare host o call = .ok prepared) :
    evaluationContext host o call = .ok prepared.context ∧
      buildEvidencePacket host.packets call.surface call.sessionId (resolvedTenantId call) call.event
        prepared.context = .ok prepared.packet ∧
      buildArgumentGraph prepared.packet = .ok prepared.graph ∧
      chooseTier prepared.packet prepared.context = .ok prepared.tier := by
  obtain ⟨context, hcontext, h⟩ := Fallible.bind_eq_ok_iff.mp h
  obtain ⟨packet, hpacket, h⟩ := Fallible.bind_eq_ok_iff.mp h
  obtain ⟨graph, hgraph, h⟩ := Fallible.bind_eq_ok_iff.mp h
  obtain ⟨tier, htier, h⟩ := Fallible.bind_eq_ok_iff.mp h
  cases h
  exact ⟨hcontext, hpacket, hgraph, htier⟩

theorem runEnsemble_ok (h : (runEnsemble host o prepared).1 = .ok run) :
    ∃ given refreshed,
      host.reports.dictOf (prepared.context.getOr "session" (.obj [])) = .ok given ∧
      refreshEvidence host (remember host o prepared.packet)
        (ensembleSession given prepared.packet) prepared.packet.latestEvent prepared.packet =
          .ok (refreshed, run.temporalDrift) ∧
      ensembleReports host.reports refreshed run.temporalDrift = .ok run.reports ∧
      run.packet = stamped o host.now refreshed := by
  unfold runEnsemble at h
  dsimp only at h
  split at h
  · cases h
  · rename_i given hgiven
    split at h
    · cases h
    · rename_i analysis hanalysis
      obtain ⟨⟨refreshed, temporalDrift⟩, hrefresh, hanalysis⟩ :=
        Fallible.bind_eq_ok_iff.mp hanalysis
      obtain ⟨outputs, houtputs, hanalysis⟩ := Fallible.bind_eq_ok_iff.mp hanalysis
      obtain ⟨synthesized, -, hanalysis⟩ := Fallible.bind_eq_ok_iff.mp hanalysis
      obtain ⟨crossSessionRisk, -, hanalysis⟩ := Fallible.bind_eq_ok_iff.mp hanalysis
      cases hanalysis
      obtain ⟨-, -, h⟩ := Fallible.bind_eq_ok_iff.mp h
      obtain ⟨reports, hreports, h⟩ := Fallible.bind_eq_ok_iff.mp h
      cases h
      refine ⟨given, refreshed, hgiven, hrefresh, ?_, rfl⟩
      rw [ensembleReports, houtputs]
      exact hreports

theorem evaluate_ok (h : (evaluate host o call).1 = .ok result) :
    ∃ prepared run, prepare host o call = .ok prepared ∧
      (runTier host o prepared).1 = .ok run ∧ conclude host prepared run = .ok result := by
  unfold evaluate at h
  split at h
  · cases h
  · rename_i prepared hprepared
    obtain ⟨run, hrun, h⟩ := Fallible.bind_eq_ok_iff.mp h
    exact ⟨prepared, run, hprepared, hrun, h⟩

theorem conclude_ok (h : conclude host prepared run = .ok result) :
    synthesizeDecision host.reports.parseFloat host.decisionId run.packet run.reports
        prepared.tier = .ok result.decision ∧
      result.evidencePacket = run.packet ∧ result.roleReports = run.reports := by
  obtain ⟨decision, hdecision, h⟩ := Fallible.bind_eq_ok_iff.mp h
  cases h
  exact ⟨hdecision, rfl, rfl⟩

theorem ensembleReports_stamped (host : ReportHost) (packet : EvidencePacket) (now drift : ℚ) :
    ensembleReports host (stamped o now packet) drift = ensembleReports host packet drift := by
  unfold stamped
  split <;> rfl

theorem detect_distributed {sessionId : String} {session : JsonDict} :
    (detect host o sessionId session).2.distributed = o.distributed := by
  unfold detect
  split <;> rfl

/-- An evaluation leaves the distributed runtime alone, or records itself in it. -/
theorem evaluate_distributed (host : EngineHost) (o : Orchestrator) (call : EvaluateCall) :
    (evaluate host o call).2.distributed = o.distributed ∨
      ∃ sessionId event value, (evaluate host o call).2.distributed =
        o.distributed.map (·.recordEvaluation host.now sessionId event value) := by
  unfold evaluate runTier
  split
  · exact .inl rfl
  · dsimp only
    split
    · exact .inl rfl
    · unfold runEnsemble
      dsimp only
      split
      · exact .inl rfl
      · split
        · exact .inl rfl
        · exact .inr ⟨_, _, _, detect_distributed⟩

/-- The decision is the one on the packet that is returned. -/
theorem evaluate_decision (h : (evaluate host o call).1 = .ok result) :
    ∃ temporalDrift tier,
      decideOn host.reports host.decisionId result.evidencePacket temporalDrift tier =
        .ok result.decision := by
  obtain ⟨prepared, run, -, hrun, h⟩ := evaluate_ok h
  obtain ⟨hdecision, hpacket, -⟩ := conclude_ok h
  refine ⟨run.temporalDrift, prepared.tier, ?_⟩
  rw [decideOn, hpacket]
  refine Fallible.bind_eq_ok_iff.mpr ⟨run.reports, ?_, hdecision⟩
  unfold runTier at hrun
  unfold tierReports
  split at hrun
  · rename_i htier
    cases hrun
    rw [if_pos htier]
  · rename_i htier
    obtain ⟨given, refreshed, -, -, hreports, hrewritten⟩ := runEnsemble_ok hrun
    rw [if_neg htier, hrewritten, ensembleReports_stamped]
    exact hreports

end

end TruePresenceESE.Engine
