import TruePresenceESE.Engine.ClusterRisk

/-! # The artifact store

The store asks its backend for a method to write a field with, and does without one
where the backend has none. The engine hands it the ensemble runtime, which does
not pass the method of the distributed runtime on.
-/

namespace TruePresenceESE.Engine

open PyValue JsonDict TruePresenceESE.Runtime

/-! ## Artifacts as JSON -/

def EvidencePacket.toJson (packet : EvidencePacket) : Json :=
  .obj [("packet_id", .str packet.packetId), ("session_id", .str packet.sessionId),
    ("tenant_id", packet.tenantId), ("surface", packet.surface), ("actor_id", packet.actorId),
    ("received_at", .str packet.receivedAt), ("event_window_start", packet.eventWindowStart),
    ("event_window_end", packet.eventWindowEnd),
    ("raw_events", .arr (packet.rawEvents.map JsonDict.toJson)),
    ("challenge_data", packet.challengeData.toJson),
    ("timing_features", packet.timingFeatures.toJson),
    ("behavioral_features", packet.behavioralFeatures.toJson),
    ("identity_refs", packet.identityRefs.toJson), ("session_history", .arr packet.sessionHistory),
    ("policy_context", packet.policyContext.toJson), ("risk_context", packet.riskContext.toJson),
    ("provenance", packet.provenance.toJson), ("session_context", packet.sessionContext.toJson),
    ("metadata", packet.metadata.toJson), ("schema_version", .str packet.schemaVersion)]

def texts (values : List String) : Json := .arr (values.map .str)

def Claim.toJson (claim : Claim) : Json :=
  .obj [("claim_id", .str claim.claimId), ("claim_type", .str claim.claimType),
    ("label", .str claim.label), ("evidence_refs", texts claim.evidenceRefs),
    ("confidence_hint", .null), ("created_at", .null), ("valid_window", .null),
    ("metadata", .obj [])]

def edges (pairs : List (String × String)) : Json :=
  .arr (pairs.map fun pair => texts [pair.1, pair.2])

def ArgumentGraph.toJson (graph : ArgumentGraph) : Json :=
  .obj [("claims", .obj (graph.claims.map fun claim => (claim.claimId, claim.toJson))),
    ("support_edges", edges graph.supportEdges), ("attack_edges", edges graph.attackEdges)]

/-- The reviewer's report is the one without a probability. -/
def RoleReport.toJson (report : RoleReport) : Json :=
  .obj ([("report_id", report.reportId), ("role", .str report.role), ("summary", report.summary),
      ("confidence", report.confidence)] ++
    (if report.role = "reasoning_integrity_reviewer" then []
      else [("human_probability", report.humanProbability)]) ++
    [("findings", texts report.findings), ("metadata", report.metadata.toJson)])

def Tier.value : Tier → String
  | .tier0 => "tier0"
  | .tier1 => "tier1"
  | .tier2 => "tier2"

def RiskLevel.value : RiskLevel → String
  | .low => "low"
  | .medium => "medium"
  | .high => "high"

def DecisionResult.artifact (result : DecisionResult) : Json :=
  let decision := result.decision
  let reasonCodes := texts (decision.reasonCodes.map ReasonCode.value)
  .obj [("decision_id", .str decision.decisionId), ("session_id", .str decision.sessionId),
    ("tenant_id", decision.tenantId), ("surface", decision.surface),
    ("tier_path", .str decision.tierPath.value), ("reason_codes", reasonCodes),
    ("state", .str decision.state.value),
    ("recommended_enforcement", .str decision.recommendedEnforcement),
    ("confidence", .num decision.confidence), ("risk_level", .str decision.riskLevel.value),
    ("evidence_packet_id", .str result.evidencePacket.packetId),
    ("argument_graph_id", .str decision.argumentGraphId),
    ("role_report_ids", .arr decision.roleReportIds),
    ("role_reports", .arr (result.roleReports.map RoleReport.toJson)),
    ("reasoning_trace", .obj [("tier", .str decision.tierPath.value),
      ("state", .str decision.state.value), ("reason_codes", reasonCodes)]),
    ("threat_categories", result.threatCategories), ("block_reason", .str result.blockReason),
    ("metadata", (decision.metadata.merge (ofFields [("runtime_mode", .str "full"),
      ("runtime_degraded_reason", .null)])).toJson)]

/-! ## Persisting through a backend -/

/-- What `getattr(dist, "update_session_field", None)` finds on a backend. -/
structure Backend (σ : Type) where
  updateSessionField : Option (σ → String → String → PyObject → σ)

def distributedRuntime (now : ℚ) : Backend RedisStore where
  updateSessionField := some fun store key field value =>
    (store.updateSessionField now key field value).1

/-- The adapter has `memory`, `identity_graph`, `get_session_cluster` and `run`. -/
def ensembleRuntime : Backend Orchestrator where
  updateSessionField := none

structure ArtifactStore (σ : Type) where
  dist : σ
  evidencePackets : List Json := []
  argumentGraphs : List Json := []
  roleReports : List Json := []
  decisionArtifacts : List Json := []

namespace ArtifactStore

section
variable {σ : Type}

def persist (backend : Backend σ) (key : String) (value : Json) (store : ArtifactStore σ) :
    ArtifactStore σ :=
  match backend.updateSessionField with
  | some update => { store with dist := update store.dist key "data" (.json value) }
  | none => store

def packetKey (packet : EvidencePacket) : String := "artifact:packet:" ++ packet.packetId

/-- A graph has no id of its own. -/
def graphKey : String := "artifact:graph:unknown"

def reportKey (py : Interpreter) (report : RoleReport) : String :=
  "artifact:report:" ++ str py report.reportId

def decisionKey (decision : DecisionObject) : String := "artifact:decision:" ++ decision.decisionId

def storeEvidencePacket (backend : Backend σ) (packet : EvidencePacket)
    (store : ArtifactStore σ) : ArtifactStore σ :=
  persist backend (packetKey packet) packet.toJson
    { store with evidencePackets := store.evidencePackets ++ [packet.toJson] }

def storeArgumentGraph (backend : Backend σ) (graph : ArgumentGraph) (store : ArtifactStore σ) :
    ArtifactStore σ :=
  persist backend graphKey graph.toJson
    { store with argumentGraphs := store.argumentGraphs ++ [graph.toJson] }

def storeRoleReports (backend : Backend σ) (py : Interpreter) (reports : List RoleReport)
    (store : ArtifactStore σ) : ArtifactStore σ :=
  reports.foldl
    (fun store report => persist backend (reportKey py report) report.toJson
      { store with roleReports := store.roleReports ++ [report.toJson] })
    store

def storeDecisionArtifact (backend : Backend σ) (result : DecisionResult)
    (store : ArtifactStore σ) : ArtifactStore σ :=
  persist backend (decisionKey result.decision) result.artifact
    { store with decisionArtifacts := store.decisionArtifacts ++ [result.artifact] }

def storeResult (backend : Backend σ) (py : Interpreter) (result : DecisionResult)
    (store : ArtifactStore σ) : ArtifactStore σ :=
  storeDecisionArtifact backend result (storeRoleReports backend py result.roleReports
    (storeArgumentGraph backend result.argumentGraph
      (storeEvidencePacket backend result.evidencePacket store)))

end

/-- Without the method the backend stays as it is. -/
theorem storeResult_ensemble (py : Interpreter) (result : DecisionResult)
    (store : ArtifactStore Orchestrator) :
    (storeResult ensembleRuntime py result store).dist = store.dist := by
  have hreports : ∀ (reports : List RoleReport) (store : ArtifactStore Orchestrator),
      (storeRoleReports ensembleRuntime py reports store).dist = store.dist := by
    intro reports
    induction reports with
    | nil => exact fun store => rfl
    | cons report rest ih => exact fun store => ih _
  exact hreports result.roleReports _

end ArtifactStore

/-! ## Evaluations and what they leave in the distributed runtime -/

/-- The engine's own store, over the runtime that it evaluates with. -/
def evaluateAndStore (host : EngineHost) (engine : ArtifactStore Orchestrator)
    (call : EvaluateCall) : Except PyError DecisionResult × ArtifactStore Orchestrator :=
  let run := evaluate host engine.dist call
  let after := { engine with dist := run.2 }
  match run.1 with
  | .ok result => (.ok result, after.storeResult ensembleRuntime host.reports.py result)
  | .error e => (.error e, after)

/-- The engine states that calls lead to from a runtime without artifacts, while
others write fields of their own into the records. -/
inductive Running : ArtifactStore Orchestrator → Prop where
  | start {engine : ArtifactStore Orchestrator}
      (h : ∀ store, engine.dist.distributed = some store → RedisStore.Unused "data" store) :
      Running engine
  | evaluate {engine : ArtifactStore Orchestrator} (host : EngineHost) (call : EvaluateCall)
      (h : Running engine) : Running (evaluateAndStore host engine call).2
  | write {engine : ArtifactStore Orchestrator} {store : RedisStore} (now : ℚ)
      (sessionId field : String) (value : PyObject) (h : Running engine)
      (hstore : engine.dist.distributed = some store) (hfield : field ≠ "data") :
      Running { engine with
        dist := { engine.dist with
          distributed := some (store.updateSessionField now sessionId field value).1 } }

/-- The artifact is loaded under its key, as it was returned. -/
def Loadable (store : RedisStore) (key : String) (artifact : Json) : Prop :=
  ∃ record, store.loadSession key = some record ∧ record.get? "data" = some artifact

/-- All four kinds of artifact can be loaded. -/
structure Durable (py : Interpreter) (store : RedisStore) (result : DecisionResult) : Prop where
  packet : Loadable store (ArtifactStore.packetKey result.evidencePacket)
    result.evidencePacket.toJson
  graph : Loadable store ArtifactStore.graphKey result.argumentGraph.toJson
  reports : ∀ report ∈ result.roleReports,
    Loadable store (ArtifactStore.reportKey py report) report.toJson
  decision : Loadable store (ArtifactStore.decisionKey result.decision) result.artifact

section
variable {host : EngineHost} {engine : ArtifactStore Orchestrator} {call : EvaluateCall}
  {result : DecisionResult} {store : RedisStore}

theorem evaluateAndStore_dist :
    (evaluateAndStore host engine call).2.dist = (evaluate host engine.dist call).2 := by
  unfold evaluateAndStore
  dsimp only
  split
  · exact ArtifactStore.storeResult_ensemble _ _ _
  · rfl

theorem running_unused (h : Running engine) (hstore : engine.dist.distributed = some store) :
    RedisStore.Unused "data" store := by
  induction h generalizing store with
  | start h => exact h store hstore
  | @evaluate engine host call _ ih =>
      rw [evaluateAndStore_dist] at hstore
      rcases evaluate_distributed host engine.dist call with hsame | ⟨id, event, value, hrecorded⟩
      · exact ih (hsame ▸ hstore)
      · rw [hrecorded] at hstore
        obtain ⟨before, hbefore, rfl⟩ := Option.map_eq_some_iff.mp hstore
        exact RedisStore.unused_recordEvaluation (ih hbefore) (by decide) (by decide)
  | write now sessionId field value _ hbefore hfield ih =>
      cases hstore
      exact RedisStore.unused_updateSessionField (ih hbefore) hfield (by decide)

theorem not_loadable {key : String} {artifact : Json} (h : RedisStore.Unused "data" store) :
    ¬ Loadable store key artifact := by
  rintro ⟨record, hload, hdata⟩
  have hnone := @RedisStore.loadSession_unused _ key _ h
  rw [hload, Option.getD_some, hdata] at hnone
  cases hnone

/-- No artifact of any evaluation can be loaded, whatever ran before. -/
theorem evaluateAndStore_not_durable (hrunning : Running engine)
    (h : (evaluateAndStore host engine call).1 = .ok result)
    (hstore : (evaluateAndStore host engine call).2.dist.distributed = some store) :
    ¬ Durable host.reports.py store result := by
  have hunused := running_unused (.evaluate host call hrunning) hstore
  exact fun hdurable => not_loadable hunused hdurable.packet

end

/-- An engine over an empty Redis. -/
def freshEngine : ArtifactStore Orchestrator where
  dist := ⟨Dict.empty, Memory.IdentityGraph.empty, some Dict.empty⟩

theorem freshEngine_running : Running freshEngine := by
  refine .start fun store hstore => ?_
  cases hstore
  exact RedisStore.unused_empty "data"

def firstEvaluation : Except PyError DecisionResult × ArtifactStore Orchestrator :=
  evaluateAndStore plainEngine freshEngine (fraudulentCall "first" Dict.empty)

theorem evaluateAndStore_not_durable_first :
    ∃ result store, firstEvaluation.1 = .ok result ∧
      firstEvaluation.2.dist.distributed = some store ∧
      ¬ Durable plainEngine.reports.py store result := by
  have hrun : (firstEvaluation.1.isOk && firstEvaluation.2.dist.distributed.isSome) = true := by
    decide +kernel
  rw [Bool.and_eq_true] at hrun
  obtain ⟨store, hstore⟩ := Option.isSome_iff_exists.mp hrun.2
  cases h : firstEvaluation.1 with
  | error e =>
      rw [h] at hrun
      cases hrun.1
  | ok result =>
      exact ⟨result, store, rfl, hstore,
        evaluateAndStore_not_durable freshEngine_running h hstore⟩

/-- The first evaluation answers over Redis, and its packet cannot be read back. -/
def firstPacketMissing : Bool :=
  match firstEvaluation.1, firstEvaluation.2.dist.distributed with
  | .ok result, some store =>
      (store.loadSession (ArtifactStore.packetKey result.evidencePacket)).isNone
  | _, _ => false

/-- The packet of the first evaluation is not there. -/
theorem first_packet_lost :
    ¬ ∀ (host : EngineHost) (engine : ArtifactStore Orchestrator) (call : EvaluateCall)
      (result : DecisionResult) (store : RedisStore), Running engine →
      (evaluateAndStore host engine call).1 = .ok result →
      (evaluateAndStore host engine call).2.dist.distributed = some store →
      Durable host.reports.py store result := by
  intro hall
  have hrun : firstPacketMissing = true := by decide +kernel
  unfold firstPacketMissing at hrun
  cases h : firstEvaluation.1 with
  | error e =>
      rw [h] at hrun
      cases hrun
  | ok result =>
      cases hstore : firstEvaluation.2.dist.distributed with
      | none =>
          rw [h, hstore] at hrun
          cases hrun
      | some store =>
          rw [h, hstore] at hrun
          obtain ⟨record, hload, -⟩ := (hall _ _ _ _ _ freshEngine_running h hstore).packet
          dsimp only at hrun
          rw [hload] at hrun
          cases hrun

end TruePresenceESE.Engine
