import TruePresenceESE.Engine.Evaluation
import TruePresenceESE.Engine.ProbabilityRange

/-! # The cluster label on its way to the decision

The engine labels a session of a high-risk cluster. Off tier 0 the orchestrator
looks the session up once more, under the id that its session dictionary has, and
where it finds connections it puts the number in the place of the label.
-/

namespace TruePresenceESE.Engine

open PyValue JsonDict Memory TruePresenceESE.Runtime

/-! ## Graphs that evaluations build -/

/-- The states that calls lead to, those that raise included. -/
inductive Reachable : Orchestrator → Prop where
  | start (distributed : Option RedisStore) :
      Reachable ⟨Dict.empty, IdentityGraph.empty, distributed⟩
  | evaluate {o : Orchestrator} (host : EngineHost) (call : EvaluateCall) (h : Reachable o) :
      Reachable (evaluate host o call).2

section
variable {host : EngineHost} {o : Orchestrator} {call : EvaluateCall}

theorem detection_of_fields {session : JsonDict} {analysis : Analysis} :
    ∃ detection, IdentityGraph.detectionOf (session.set "detection" (detectionFields analysis)) =
      .ok detection := by
  have hget : (Dict.set session "detection" (detectionFields analysis)).get? "detection" =
      some (detectionFields analysis) := Dict.get?_set_self _ _ _
  unfold IdentityGraph.detectionOf getOr
  rw [hget]
  exact ⟨_, rfl⟩

theorem detect_wellFormed {sessionId : String} {session : JsonDict}
    (ho : o.identityGraph.WellFormed)
    (hsession : ∃ detection, IdentityGraph.detectionOf session = .ok detection) :
    (detect host o sessionId session).2.identityGraph.WellFormed := by
  unfold detect
  split
  · rename_i identityGraph hadd
    exact IdentityGraph.addSession_wellFormed ho hsession hadd
  · exact IdentityGraph.storeSession_wellFormed ho hsession

theorem runEnsemble_wellFormed {prepared : Prepared} (ho : o.identityGraph.WellFormed) :
    (runEnsemble host o prepared).2.identityGraph.WellFormed := by
  unfold runEnsemble
  dsimp only
  split
  · exact ho
  · split
    · exact ho
    · exact detect_wellFormed ho detection_of_fields

theorem evaluate_wellFormed (ho : o.identityGraph.WellFormed) :
    (evaluate host o call).2.identityGraph.WellFormed := by
  unfold evaluate runTier
  split
  · exact ho
  · dsimp only
    split
    · exact ho
    · exact runEnsemble_wellFormed ho

/-- Whatever calls came before, the risk of a session can be read. -/
theorem reachable_wellFormed (h : Reachable o) : o.identityGraph.WellFormed := by
  induction h with
  | start distributed => exact IdentityGraph.empty_wellFormed
  | evaluate host call _ ih => exact evaluate_wellFormed ih

end

/-! ## The second lookup -/

/-- The id that the orchestrator looks up for a call. -/
def lookedUp (host : EngineHost) (call : EvaluateCall) : Except PyError Json := do
  let given ← host.reports.dictOf ((withSession call).getOr "session" (.obj []))
  return orElse (given.getOr "session_id" (.str call.sessionId)) (call.event.get "session_id")

/-- It finds connections under that id. -/
def FoundConnected (host : EngineHost) (o : Orchestrator) (call : EvaluateCall) : Prop :=
  ∃ id, lookedUp host call = .ok (.str id) ∧ id ≠ "" ∧
    o.identityGraph.getConnectedSessions host.hashSessionId id ≠ []

section
variable {host : EngineHost} {o : Orchestrator} {call : EvaluateCall} {g : IdentityGraph}
  {refs refs' : JsonDict} {sessionId : Json}

theorem refreshIdentityRefs_ok (h : refreshIdentityRefs host g sessionId refs = .ok refs') :
    (∃ id risk, sessionId = .str id ∧ id ≠ "" ∧
        g.getConnectedSessions host.hashSessionId id ≠ [] ∧
        refs'.get? "cluster_risk" = some (.num risk)) ∨
      (¬ ∃ id, sessionId = .str id ∧ id ≠ "" ∧
        g.getConnectedSessions host.hashSessionId id ≠ []) ∧
        refs'.get? "cluster_risk" = refs.get? "cluster_risk" := by
  unfold refreshIdentityRefs at h
  by_cases htruthy : truthy sessionId
  · rw [htruthy, Bool.not_true, if_neg Bool.false_ne_true] at h
    obtain ⟨id, hid, hrefresh⟩ := Fallible.bind_eq_ok_iff.mp h
    clear h
    obtain rfl : sessionId = .str id := by
      cases sessionId <;> cases hid
      rfl
    have hnonempty : id ≠ "" := by simpa [truthy] using htruthy
    dsimp only at hrefresh
    by_cases hconnected : g.getConnectedSessions host.hashSessionId id = []
    · rw [if_pos hconnected] at hrefresh
      cases hrefresh
      refine .inr ⟨?_, Dict.get?_set_ne _ _ (by decide)⟩
      rintro ⟨other, heq, -, hfound⟩
      cases heq
      exact hfound hconnected
    · rw [if_neg hconnected] at hrefresh
      obtain ⟨risk, -, hrefresh⟩ := Fallible.bind_eq_ok_iff.mp hrefresh
      cases hrefresh
      exact .inl ⟨id, risk, rfl, hnonempty, hconnected, Dict.get?_set_self _ _ _⟩
  · have hfalsy : truthy sessionId = false := by simpa using htruthy
    rw [hfalsy, Bool.not_false, if_pos rfl] at h
    cases h
    refine .inr ⟨?_, rfl⟩
    rintro ⟨id, rfl, hnonempty, -⟩
    exact htruthy (by simp [truthy, hnonempty])

theorem evaluationContext_session {context : JsonDict}
    (h : evaluationContext host o call = .ok context) :
    context.getOr "session" (.obj []) = (withSession call).getOr "session" (.obj []) := by
  have hkept : (withHistory o call (withChallenge call (withSession call))).get? "session" =
      (withSession call).get? "session" := by
    rw [withHistory, get?_setDefault_ne (by decide), withChallenge]
    split
    · exact get?_setDefault_ne (by decide)
    · rfl
  refine getOr_eq_of_get? (Eq.trans ?_ hkept)
  rw [evaluationContext, withIdentityRefs] at h
  split at h
  · rw [Except.ok.inj h]
  · obtain ⟨refs, -, rfl⟩ := Fallible.map_eq_ok_iff.mp h
    exact Dict.get?_set_ne _ _ (by decide)

theorem ensembleSessionId_of_given {given event : JsonDict} {packet : EvidencePacket} :
    ensembleSessionId (ensembleSession given packet) event =
      orElse (given.getOr "session_id" (.str packet.sessionId)) (event.get "session_id") := by
  have hget : (ensembleSession given packet).get "session_id" =
      given.getOr "session_id" (.str packet.sessionId) := by
    rw [JsonDict.get, getOr, getOr, ensembleSession, get?_setDefault_ne (by decide),
      get?_setDefault_self, Option.getD_some]
  rw [ensembleSessionId, hget]

/-- The label of the packet stays, unless the orchestrator finds connections. -/
theorem runTier_clusterRisk {prepared : Prepared} {run : EnsembleRun}
    (hprepared : prepare host o call = .ok prepared)
    (hrun : (runTier host o prepared).1 = .ok run) :
    (prepared.tier ≠ .tier0 ∧ FoundConnected host o call ∧
        ∃ risk, run.packet.identityRefs.get? "cluster_risk" = some (.num risk)) ∨
      (¬ (prepared.tier ≠ .tier0 ∧ FoundConnected host o call) ∧
        run.packet.identityRefs.get? "cluster_risk" =
          prepared.packet.identityRefs.get? "cluster_risk") := by
  unfold runTier at hrun
  split at hrun
  · rename_i htier
    cases hrun
    exact .inr ⟨fun h => h.1 htier, rfl⟩
  · rename_i htier
    obtain ⟨hcontext, hbuild, -, -⟩ := prepare_ok hprepared
    obtain ⟨hsessionId, hevents⟩ := buildEvidencePacket_event hbuild
    have hevent : prepared.packet.latestEvent = call.event := by
      rw [EvidencePacket.latestEvent, hevents]
      rfl
    obtain ⟨given, refreshed, hgiven, hrefresh, -, hpacket⟩ := runEnsemble_ok hrun
    obtain ⟨drift, -, hrefresh⟩ := Fallible.bind_eq_ok_iff.mp hrefresh
    obtain ⟨identityRefs, hrefs, hrefresh⟩ := Fallible.bind_eq_ok_iff.mp hrefresh
    obtain ⟨historical, -, hrefresh⟩ := Fallible.bind_eq_ok_iff.mp hrefresh
    have hrefreshed : refreshed.identityRefs = identityRefs :=
      (congrArg (fun p => p.1.identityRefs) (Except.ok.inj hrefresh)).symm
    have hkept : run.packet.identityRefs = identityRefs := by
      rw [hpacket, ← hrefreshed]
      unfold stamped
      split <;> rfl
    have hlooked : lookedUp host call =
        .ok (ensembleSessionId (ensembleSession given prepared.packet) call.event) := by
      rw [lookedUp, ← evaluationContext_session hcontext, hgiven, ensembleSessionId_of_given,
        hsessionId]
      rfl
    have hfound : FoundConnected host o call ↔
        ∃ id, ensembleSessionId (ensembleSession given prepared.packet) call.event = .str id ∧
          id ≠ "" ∧ o.identityGraph.getConnectedSessions host.hashSessionId id ≠ [] := by
      unfold FoundConnected
      simp only [hlooked, Except.ok.injEq]
    rw [hfound, hkept]
    rw [hevent] at hrefs
    rcases refreshIdentityRefs_ok hrefs with ⟨id, risk, hid, hnonempty, hconnected, hget⟩ | h
    · exact .inl ⟨htier, ⟨id, hid, hnonempty, hconnected⟩, risk, hget⟩
    · exact .inr ⟨fun hfound => h.1 hfound.2, h.2⟩

end

/-! ## What the label does in synthesis -/

section
variable {flags : PacketFlags} {tier : Tier} {draft : Draft} {code : ReasonCode}

theorem Draft.mem_addReason {added : ReasonCode} :
    code ∈ (draft.addReason added).reasonCodes ↔ code ∈ draft.reasonCodes ∨ code = added := by
  unfold Draft.addReason
  split
  · rename_i h
    exact ⟨.inl, fun hcode => hcode.elim id (· ▸ h)⟩
  · simp

@[simp] theorem Draft.reasonCodes_moveTo {state : DecisionState} {enforcement : String}
    {confidence : ℚ} {risk : RiskLevel} :
    (draft.moveTo state enforcement confidence risk).reasonCodes = draft.reasonCodes := rfl

/-- Only one rule gives the code of the cluster. -/
theorem crossSessionClusterMatch_mem_iff {humanProbability roleConfidence disagreement : ℚ} :
    .crossSessionClusterMatch ∈ (applySynthesisRules flags tier humanProbability roleConfidence
      disagreement).reasonCodes ↔ flags.clusterHigh := by
  have hstep : ∀ draft : Draft, .crossSessionClusterMatch ∈ (stepUpRule flags draft).reasonCodes ↔
      .crossSessionClusterMatch ∈ draft.reasonCodes := by
    intro draft
    unfold stepUpRule
    split <;> simp [Draft.mem_addReason]
  have hcluster : ∀ draft : Draft,
      .crossSessionClusterMatch ∈ (clusterRule flags tier draft).reasonCodes ↔
        .crossSessionClusterMatch ∈ draft.reasonCodes ∨ flags.clusterHigh := by
    intro draft
    unfold clusterRule
    cases flags.clusterHigh
    · simp
    · by_cases htier : tier = .tier2 <;> simp [htier, Draft.mem_addReason]
  have hlatency : ∀ draft : Draft,
      .crossSessionClusterMatch ∈ (latencyRule flags draft).reasonCodes ↔
        .crossSessionClusterMatch ∈ draft.reasonCodes := by
    intro draft
    unfold latencyRule
    dsimp only
    split_ifs <;> simp [Draft.mem_addReason]
  have hflow : ∀ draft : Draft,
      .crossSessionClusterMatch ∈ (highValueRule flags tier draft).reasonCodes ↔
        .crossSessionClusterMatch ∈ draft.reasonCodes := by
    intro draft
    unfold highValueRule
    dsimp only
    split_ifs <;> simp [Draft.mem_addReason]
  have hdisagreement : ∀ draft : Draft,
      .crossSessionClusterMatch ∈ (disagreementRule disagreement draft).reasonCodes ↔
        .crossSessionClusterMatch ∈ draft.reasonCodes := by
    intro draft
    unfold disagreementRule
    split_ifs <;> simp [Draft.mem_addReason]
  have hprobability : ∀ draft : Draft,
      (probabilityRule humanProbability draft).reasonCodes = draft.reasonCodes := by
    intro draft
    unfold probabilityRule
    split_ifs <;> rfl
  rw [applySynthesisRules, hprobability, hdisagreement, hflow, hlatency, hcluster, hstep]
  simp

/-- On tier 2 the label alone asks for a challenge. -/
theorem settledState_of_clusterHigh {numbers : ReportNumbers} (hhigh : flags.clusterHigh = true) :
    DecisionState.challenge.severity ≤ (settledState flags .tier2 numbers).severity := by
  have hflagged : flaggedState flags .tier2 = .challenge := by
    simp [flaggedState, hhigh]
  unfold settledState stateUnder
  rw [hflagged]
  split_ifs <;> first | decide | simp_all

end

/-! ## Acting on the label -/

/-- The decision names the cluster match, and on tier 2 asks for a challenge at least. -/
def DecisionObject.ActsOnCluster (decision : DecisionObject) : Prop :=
  .crossSessionClusterMatch ∈ decision.reasonCodes ∧
    (decision.tierPath = .tier2 → DecisionState.challenge.severity ≤ decision.state.severity)

instance (decision : DecisionObject) : Decidable decision.ActsOnCluster :=
  inferInstanceAs (Decidable (_ ∧ (_ → _)))

/-- The engine sees a cluster of high risk around the session. -/
def HighRiskCluster (host : EngineHost) (o : Orchestrator) (sessionId : String) : Prop :=
  o.identityGraph.getConnectedSessions host.hashSessionId sessionId ≠ [] ∧
    ∃ risk, o.identityGraph.getSessionRisk host.hashSessionId sessionId = .ok risk ∧ 0.75 ≤ risk

section
variable {host : EngineHost} {o : Orchestrator} {call : EvaluateCall} {result : DecisionResult}

/-- The label that an evaluation starts from: the context's, or else the engine's. -/
theorem prepare_clusterRisk {prepared : Prepared} (h : prepare host o call = .ok prepared) :
    (call.context.has "identity_refs" = true ∧
        prepared.packet.identityRefs.get? "cluster_risk" =
          (ofValue (call.context.get "identity_refs")).get? "cluster_risk") ∨
      (call.context.has "identity_refs" = false ∧
        ∃ refs, identityRefsOf host o.identityGraph call.sessionId = .ok refs ∧
          prepared.packet.identityRefs.get? "cluster_risk" = refs.get? "cluster_risk") := by
  obtain ⟨hcontext, hbuild, -, -⟩ := prepare_ok h
  obtain ⟨-, -, -, -, -, -, -, -, -, hidentity, -⟩ := buildEvidencePacket_ok hbuild
  rw [hidentity, deriveIdentityRefs, get?_setDefault_ne (by decide)]
  have hkept : (withHistory o call (withChallenge call (withSession call))).get? "identity_refs" =
      call.context.get? "identity_refs" := by
    rw [withHistory, get?_setDefault_ne (by decide), withChallenge]
    have hsession : (withSession call).get? "identity_refs" =
        call.context.get? "identity_refs" := by
      rw [withSession]
      split
      · rfl
      · rw [get?_setDefault_ne (by decide), get?_setDefault_ne (by decide)]
    split
    · rw [get?_setDefault_ne (by decide), hsession]
    · exact hsession
  rw [evaluationContext, withIdentityRefs, has_eq_of_get? hkept] at hcontext
  split at hcontext
  · rename_i hgiven
    rw [← Except.ok.inj hcontext, get_eq_of_get? hkept]
    exact .inl ⟨hgiven, rfl⟩
  · rename_i hopen
    obtain ⟨refs, hrefs, hset⟩ := Fallible.map_eq_ok_iff.mp hcontext
    refine .inr ⟨by simpa using hopen, refs, hrefs, ?_⟩
    rw [← hset, get_set, if_pos rfl]
    exact get?_ofFields_items

theorem identityRefsOf_ok {refs : JsonDict}
    (h : identityRefsOf host o.identityGraph call.sessionId = .ok refs) :
    (HighRiskCluster host o call.sessionId ∧ refs.get? "cluster_risk" = some (.str "high")) ∨
      (¬ HighRiskCluster host o call.sessionId ∧ (refs.get? "cluster_risk" = none ∨
        ∃ risk, refs.get? "cluster_risk" = some (.num risk))) := by
  unfold identityRefsOf at h
  dsimp only at h
  by_cases hconnected :
      o.identityGraph.getConnectedSessions host.hashSessionId call.sessionId = []
  · rw [if_pos hconnected] at h
    cases h
    exact .inr ⟨fun hrisk => hrisk.1 hconnected, .inl rfl⟩
  · rw [if_neg hconnected] at h
    obtain ⟨risk, hrisk, h⟩ := Fallible.bind_eq_ok_iff.mp h
    cases h
    rw [Dict.get?_set_self]
    by_cases hhigh : 0.75 ≤ risk
    · exact .inl ⟨⟨hconnected, risk, hrisk, hhigh⟩, by rw [if_pos hhigh]⟩
    · refine .inr ⟨?_, .inr ⟨risk, by rw [if_neg hhigh]⟩⟩
      rintro ⟨-, other, hother, hle⟩
      obtain rfl := Except.ok.inj (hrisk.symm.trans hother)
      exact hhigh hle

theorem prepare_labelled {prepared : Prepared} (hopen : call.context.has "identity_refs" = false)
    (hrisk : HighRiskCluster host o call.sessionId) (h : prepare host o call = .ok prepared) :
    prepared.packet.identityRefs.get? "cluster_risk" = some (.str "high") := by
  rcases prepare_clusterRisk h with ⟨hgiven, -⟩ | ⟨-, refs, hrefs, hget⟩
  · rw [hopen] at hgiven
    cases hgiven
  · rw [hget]
    rcases identityRefsOf_ok hrefs with ⟨-, hlabel⟩ | ⟨hnot, -⟩
    · exact hlabel
    · exact absurd hrisk hnot

/-- A high-risk cluster is acted on exactly where the orchestrator does not find the
session connected. -/
theorem evaluate_actsOnCluster_iff (hopen : call.context.has "identity_refs" = false)
    (hrisk : HighRiskCluster host o call.sessionId) (h : (evaluate host o call).1 = .ok result)
    (htier : result.decision.tierPath ≠ .tier0) :
    result.decision.ActsOnCluster ↔ ¬ FoundConnected host o call := by
  obtain ⟨prepared, run, hprepared, hrun, hconclude⟩ := evaluate_ok h
  obtain ⟨hdecision, -, -⟩ := conclude_ok hconclude
  have hpath : prepared.tier ≠ .tier0 := synthesizeDecision_tierPath hdecision ▸ htier
  have hlabel := prepare_labelled hopen hrisk hprepared
  obtain ⟨-, -, -, hchoose⟩ := prepare_ok hprepared
  have htwo := chooseTier_of_high (by rw [JsonDict.get, getOr, hlabel, Option.getD_some]) hpath
    hchoose
  obtain ⟨numbers, -, hresult⟩ := synthesizeDecision_ok hpath hdecision
  have hcode : .crossSessionClusterMatch ∈ result.decision.reasonCodes ↔
      run.packet.flags.clusterHigh := by
    rw [hresult]
    exact crossSessionClusterMatch_mem_iff
  have hflag : run.packet.flags.clusterHigh =
      isText "high" (run.packet.identityRefs.get "cluster_risk") := rfl
  rcases runTier_clusterRisk hprepared hrun with ⟨-, hfound, risk, hget⟩ | ⟨hnot, hget⟩
  · refine iff_of_false (fun hacts => ?_) (not_not.mpr hfound)
    have hhigh := hcode.mp hacts.1
    rw [hflag, JsonDict.get, getOr, hget] at hhigh
    cases hhigh
  · refine iff_of_true ?_ fun hfound => hnot ⟨hpath, hfound⟩
    have hhigh : run.packet.flags.clusterHigh = true := by
      rw [hflag, JsonDict.get, getOr, hget, hlabel]
      rfl
    refine ⟨hcode.mpr hhigh, fun _ => ?_⟩
    have hstate : result.decision.state = settledState run.packet.flags prepared.tier numbers := by
      rw [hresult]
      exact applySynthesisRules_state run.packet.flags prepared.tier numbers
    rw [hstate, htwo]
    exact settledState_of_clusterHigh hhigh

end

/-! ## The number in the response -/

/-- `isinstance(value, (int, float))` -/
def isNumber : Json → Bool
  | .bool _ => true
  | .num _ => true
  | _ => false

/-- Without a second lookup the response has a number: the context's own risk, or one
that the engine did not label. -/
def NumberAtStart (host : EngineHost) (o : Orchestrator) (call : EvaluateCall) : Prop :=
  if call.context.has "identity_refs" then
    isNumber ((ofValue (call.context.get "identity_refs")).getOr "cluster_risk" (.num 0)) = true
  else ¬ HighRiskCluster host o call.sessionId

/-- The response gives the cross-session risk as a number exactly where the
evaluation starts from one or the orchestrator puts one there. -/
theorem evaluate_isNumber_iff {host : EngineHost} {o : Orchestrator} {call : EvaluateCall}
    {result : DecisionResult} (h : (evaluate host o call).1 = .ok result) :
    isNumber result.crossSessionRisk ↔
      NumberAtStart host o call ∨
        (result.decision.tierPath ≠ .tier0 ∧ FoundConnected host o call) := by
  obtain ⟨prepared, run, hprepared, hrun, hconclude⟩ := evaluate_ok h
  obtain ⟨hdecision, hpacket, -⟩ := conclude_ok hconclude
  rw [DecisionResult.crossSessionRisk, hpacket, synthesizeDecision_tierPath hdecision]
  rcases runTier_clusterRisk hprepared hrun with ⟨htier, hfound, risk, hget⟩ | ⟨hnot, hget⟩
  · rw [getOr, hget]
    exact iff_of_true rfl (.inr ⟨htier, hfound⟩)
  · rw [getOr_eq_of_get? hget, or_iff_left hnot, NumberAtStart]
    rcases prepare_clusterRisk hprepared with ⟨hgiven, hstart⟩ | ⟨hopen, refs, hrefs, hstart⟩
    · rw [getOr_eq_of_get? hstart, if_pos hgiven]
    · rw [if_neg (by simp [hopen]), getOr, hstart]
      rcases identityRefsOf_ok hrefs with ⟨hrisk, hlabel⟩ | ⟨hnot, hnone | ⟨risk, hnum⟩⟩
      · rw [hlabel]
        exact iff_of_false (by decide) (not_not.mpr hrisk)
      · rw [hnone]
        exact iff_of_true rfl hnot
      · rw [hnum]
        exact iff_of_true rfl hnot

/-! ## Two bots that behave alike -/

/-- An environment where equal probabilities are without deviation. -/
def plainEngine : EngineHost where
  packets := plainPackets
  reports := plainReports
  decisionId := "decision"
  hashSessionId := id
  sqrt := fun _ => 0
  now := 0

def fraudulentEvent : JsonDict :=
  ofFields [("event_type", .str "message"), ("features", .obj [("liveness", .num 0),
    ("ai_mediation", .num 1), ("relay_risk", .num 1), ("fraud_pattern", .num 0.9)])]

def fraudulentCall (sessionId : String) (context : JsonDict) : EvaluateCall where
  surface := .str "web_guard"
  sessionId := sessionId
  event := fraudulentEvent
  context := context
  session := ofFields [("session_id", .str sessionId)]

def afterBots : Orchestrator :=
  (evaluate plainEngine
    (evaluate plainEngine ⟨Dict.empty, IdentityGraph.empty, none⟩
      (fraudulentCall "first" Dict.empty)).2
    (fraudulentCall "second" Dict.empty)).2

theorem afterBots_reachable : Reachable afterBots := .evaluate _ _ (.evaluate _ _ (.start none))

theorem afterBots_highRisk : HighRiskCluster plainEngine afterBots "first" := by
  constructor
  · decide +kernel
  · have hrisk : (match afterBots.identityGraph.getSessionRisk plainEngine.hashSessionId "first" with
        | .ok risk => decide (0.75 ≤ risk)
        | .error _ => false) = true := by decide +kernel
    cases h : afterBots.identityGraph.getSessionRisk plainEngine.hashSessionId "first" with
    | error e =>
        rw [h] at hrisk
        cases hrisk
    | ok risk =>
        rw [h] at hrisk
        exact ⟨risk, rfl, of_decide_eq_true hrisk⟩

/-- The third evaluation, as the engine answers it. -/
def thirdEvaluation (context : JsonDict) : Except PyError DecisionResult :=
  (evaluate plainEngine afterBots (fraudulentCall "first" context)).1

theorem evaluate_actsOnCluster_iff_bots :
    ∃ result, thirdEvaluation Dict.empty = .ok result ∧
      (result.decision.ActsOnCluster ↔
        ¬ FoundConnected plainEngine afterBots (fraudulentCall "first" Dict.empty)) := by
  have hrun : (match thirdEvaluation Dict.empty with
      | .ok result => decide (result.decision.tierPath ≠ .tier0)
      | .error _ => false) = true := by decide +kernel
  cases h : thirdEvaluation Dict.empty with
  | error e =>
      rw [h] at hrun
      cases hrun
  | ok result =>
      rw [h] at hrun
      exact ⟨result, rfl, evaluate_actsOnCluster_iff rfl afterBots_highRisk h
        (of_decide_eq_true hrun)⟩

/-- The label of the first bot is gone by the time the decision is synthesized. -/
theorem cluster_not_acted_on :
    ¬ ∀ (host : EngineHost) (o : Orchestrator) (call : EvaluateCall) (result : DecisionResult),
      Reachable o → call.context.has "identity_refs" = false →
      HighRiskCluster host o call.sessionId → (evaluate host o call).1 = .ok result →
      result.decision.tierPath ≠ .tier0 → result.decision.ActsOnCluster := by
  intro hall
  have hrun : (match thirdEvaluation Dict.empty with
      | .ok result =>
          decide (result.decision.tierPath ≠ .tier0 ∧ ¬ result.decision.ActsOnCluster)
      | .error _ => false) = true := by decide +kernel
  cases h : thirdEvaluation Dict.empty with
  | error e =>
      rw [h] at hrun
      cases hrun
  | ok result =>
      rw [h] at hrun
      obtain ⟨htier, hnot⟩ := of_decide_eq_true hrun
      exact hnot (hall _ _ _ _ afterBots_reachable rfl afterBots_highRisk h htier)

theorem evaluate_isNumber_iff_bots :
    ∃ result, thirdEvaluation Dict.empty = .ok result ∧
      (isNumber result.crossSessionRisk ↔
        NumberAtStart plainEngine afterBots (fraudulentCall "first" Dict.empty) ∨
          (result.decision.tierPath ≠ .tier0 ∧
            FoundConnected plainEngine afterBots (fraudulentCall "first" Dict.empty))) := by
  have hok : (thirdEvaluation Dict.empty).isOk = true := by decide +kernel
  cases h : thirdEvaluation Dict.empty with
  | error e =>
      rw [h] at hok
      cases hok
  | ok result => exact ⟨result, rfl, evaluate_isNumber_iff h⟩

/-- On tier 0 the label itself stands in the response. -/
theorem label_in_response :
    ¬ ∀ (host : EngineHost) (o : Orchestrator) (call : EvaluateCall) (result : DecisionResult),
      Reachable o → (evaluate host o call).1 = .ok result → isNumber result.crossSessionRisk := by
  intro hall
  let context := ofFields [("known_automation_fingerprint", .bool true)]
  have hrun : (match thirdEvaluation context with
      | .ok result => isNumber result.crossSessionRisk
      | .error _ => true) = false := by decide +kernel
  cases h : thirdEvaluation context with
  | error e =>
      rw [h] at hrun
      cases hrun
  | ok result =>
      rw [h] at hrun
      exact Bool.false_ne_true (hrun.symm.trans (hall _ _ _ _ afterBots_reachable h))

end TruePresenceESE.Engine
