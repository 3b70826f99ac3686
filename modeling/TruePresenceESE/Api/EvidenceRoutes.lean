import TruePresenceESE.Lib.PyValue
import TruePresenceESE.Lib.Selection
import TruePresenceESE.Sdk.Evaluation

/-! # Evidence for the dashboard

Evaluations store their artifact under the tenant of the packet; the dashboard lists and
retrieves artifacts. A user who is no admin sees those of the user's tenant, and of the
others not even that they exist.
-/

namespace TruePresenceESE.Api

open Sdk Evidence Scoring

abbrev EvidenceRows := InMemorySdkEvidenceArtifactStore

/-! ## The stores -/

/-- The database behind the store: the order of timestamps, how selected rows are ordered
by them (rows of one time in an order of its own), and what is read back of an artifact,
where columns are decoded and the timestamp may be written in another way. -/
structure SqlDatabase where
  instant : String → ℚ
  orderByCreatedAt : List SdkEvidenceArtifact → List SdkEvidenceArtifact
  orderByCreatedAt_perm : ∀ rows, (orderByCreatedAt rows).Perm rows
  orderByCreatedAt_sorted : ∀ rows,
    (orderByCreatedAt rows).Pairwise fun a b => instant b.createdAt ≤ instant a.createdAt
  readBack : SdkEvidenceArtifact → SdkEvidenceArtifact
  readBack_tenantId : ∀ artifact, (readBack artifact).tenantId = artifact.tenantId
  readBack_minimized : ∀ artifact, Minimized artifact.dump → Minimized (readBack artifact).dump

inductive SdkEvidenceStore where
  | inMemory
  | sql (db : SqlDatabase)

namespace SdkEvidenceStore

/-- `_artifact_from_row` filters what it has read once more. -/
def artifactFromRow (db : SqlDatabase) (row : SdkEvidenceArtifact) :
    Except String SdkEvidenceArtifact := do
  let artifact := db.readBack row
  ensureSdkArtifactMinimized artifact
  return artifact

def get (store : SdkEvidenceStore) (rows : EvidenceRows) (evidencePacketId : String) :
    Except String (Option SdkEvidenceArtifact) :=
  match store, rows.get? evidencePacketId with
  | _, none => .ok none
  | .inMemory, some artifact => .ok (some artifact)
  | .sql db, some row => (artifactFromRow db row).map some

/-- The artifacts of a tenant, or all where none is given. -/
def ofTenant (rows : EvidenceRows) (tenantId : Option String) : List SdkEvidenceArtifact :=
  match tenantId.filter (· ≠ "") with
  | some tenantId => rows.values.filter (·.tenantId = tenantId)
  | none => rows.values

/-- A stable sort in memory; the order of the database otherwise. -/
def listRecent (store : SdkEvidenceStore) (rows : EvidenceRows) (tenantId : Option String)
    (limit : ℕ) : Except String (List SdkEvidenceArtifact) :=
  match store with
  | .inMemory =>
      .ok (((ofTenant rows tenantId).mergeSort fun a b => b.createdAt ≤ a.createdAt).take limit)
  | .sql db =>
      ((db.orderByCreatedAt (ofTenant rows tenantId)).take (max 1 limit)).mapM (artifactFromRow db)

end SdkEvidenceStore

/-! ## The routes -/

structure DashboardUser where
  role : Option String
  tenantId : Option String

/-- What ends a request without a result. -/
inductive RouteError where
  | http (statusCode : ℕ) (detail : String)
  | invalidParameter
  | raised (message : String)

/-- Query parameters, the limit already a number. -/
structure ListingRequest where
  queryParams : Dict String String
  limit : ℤ

def dashboardAdminRoles : List String := ["admin", "super_admin"]

def isDashboardAdmin (py : Interpreter) (user : DashboardUser) : Bool :=
  dashboardAdminRoles.contains (py.lower (user.role.getD ""))

/-- `query_params.get("tenant_id") or query_params.get("tenant") or None` -/
def requestedTenantId (queryParams : Dict String String) : Option String :=
  ((queryParams.get? "tenant_id").filter (· ≠ "")).or
    ((queryParams.get? "tenant").filter (· ≠ ""))

def authorizedListingTenant (py : Interpreter) (request : ListingRequest) (user : DashboardUser) :
    Except RouteError (Option String) :=
  let requestedTenant := requestedTenantId request.queryParams
  if isDashboardAdmin py user then .ok requestedTenant
  else match user.tenantId.filter (· ≠ "") with
    | none => .error (.http 403 "Tenant access required")
    | some userTenant =>
        if requestedTenant.any (· ≠ userTenant) then .error (.http 403 "Tenant access denied")
        else .ok (some userTenant)

def canAccessArtifact (py : Interpreter) (user : DashboardUser) (artifact : SdkEvidenceArtifact) :
    Bool :=
  isDashboardAdmin py user || (user.tenantId.filter (· ≠ "")).any (artifact.tenantId = ·)

def likelihood (artifact : SdkEvidenceArtifact) (name : String) : Option UnitInterval :=
  artifact.likelihoods.lookup name

def dashboardRiskLevel (artifact : SdkEvidenceArtifact) : String :=
  let score name := ((likelihood artifact name).map fun q => q.val).getD 0
  let riskScore := max (score "automation_likelihood") (score "agentic_control_likelihood")
  if 0.75 ≤ riskScore then "high" else if 0.5 ≤ riskScore then "medium" else "low"

def sdkDashboardEvidenceCard (artifact : SdkEvidenceArtifact) : Json :=
  .obj [("event_type", .str "web_sdk"), ("surface", .str artifact.surface),
    ("risk_level", .str (dashboardRiskLevel artifact)),
    ("human_presence_likelihood",
      dumpOption dumpUnit (likelihood artifact "human_presence_likelihood")),
    ("automation_likelihood", dumpOption dumpUnit (likelihood artifact "automation_likelihood")),
    ("agentic_control_likelihood",
      dumpOption dumpUnit (likelihood artifact "agentic_control_likelihood")),
    ("confidence", dumpUnit artifact.confidence),
    ("reason_codes", .arr (artifact.reasonCodes.map .str)),
    ("evidence_packet_id", .str artifact.evidencePacketId),
    ("decision_id", (artifact.scoringMetadata.lookup "decision_id").getD .null),
    ("recommended_action", .str artifact.recommendedAction.value),
    ("timestamp", .str artifact.createdAt)]

def raisedIn {α : Type} (result : Except String α) : Except RouteError α :=
  result.mapError .raised

def listSdkDashboardEvidenceCards (py : Interpreter) (store : SdkEvidenceStore)
    (rows : EvidenceRows) (request : ListingRequest) (user : DashboardUser) :
    Except RouteError Json :=
  if request.limit < 1 ∨ 50 < request.limit then .error .invalidParameter
  else do
    let tenantId ← authorizedListingTenant py request user
    let artifacts ← raisedIn (store.listRecent rows tenantId request.limit.toNat)
    let cards := artifacts.map sdkDashboardEvidenceCard
    return .obj [("tenant_id", dumpOption .str tenantId), ("count", .num cards.length),
      ("evidence_cards", .arr cards)]

def getSdkEvidenceArtifact (py : Interpreter) (store : SdkEvidenceStore) (rows : EvidenceRows)
    (evidencePacketId : String) (user : DashboardUser) : Except RouteError Json := do
  match ← raisedIn (store.get rows evidencePacketId) with
  | some artifact =>
      if canAccessArtifact py user artifact then return artifact.dump
      else throw (.http 404 "Evidence artifact not found")
  | none => throw (.http 404 "Evidence artifact not found")

/-! ## Evaluations -/

structure EvaluationCall where
  stamps : Stamps
  request : TruePresenceEvaluationRequest

/-- An evaluation that raises leaves the rows as they were. -/
def evaluateInteraction (rows : EvidenceRows) (call : EvaluationCall) : EvidenceRows :=
  match evaluateInteractionRequest call.stamps rows call.request with
  | .ok (_, stored) => stored
  | .error _ => rows

def evaluateAll (calls : List EvaluationCall) : EvidenceRows :=
  calls.foldl evaluateInteraction Dict.empty

/-- The artifact that a call stores, if it goes through. -/
def storedArtifact (call : EvaluationCall) : Option SdkEvidenceArtifact :=
  match evaluateInteractionRequest call.stamps Dict.empty call.request with
  | .ok _ => some (evaluationArtifact call.stamps call.request)
  | .error _ => none

/-- The call is not stored under another tenant. -/
def belongsTo (tenantId : String) (call : EvaluationCall) : Bool :=
  (storedArtifact call).all (·.tenantId = tenantId)

/-- No two calls store their artifacts under one id. -/
def DistinctIds (calls : List EvaluationCall) : Prop :=
  ((calls.filterMap storedArtifact).map (·.evidencePacketId)).Nodup

section
variable {rows : EvidenceRows} {call : EvaluationCall} {calls : List EvaluationCall}
  {artifact : SdkEvidenceArtifact} {tenantId : String}

/-- Whether a call goes through does not depend on the rows. -/
theorem evaluateInteraction_eq (rows : EvidenceRows) (call : EvaluationCall) :
    evaluateInteraction rows call = ((storedArtifact call).map fun artifact =>
      rows.set artifact.evidencePacketId artifact).getD rows := by
  unfold evaluateInteraction storedArtifact
  cases hrows : evaluateInteractionRequest call.stamps rows call.request with
  | ok result =>
      obtain ⟨response, stored⟩ := result
      obtain ⟨hclean, hbursts, hmin, rfl, rfl⟩ := evaluateInteractionRequest_eq_ok_iff.mp hrows
      rw [evaluateInteractionRequest_eq_ok_iff.mpr ⟨hclean, hbursts, hmin, rfl, rfl⟩]
      rfl
  | error e =>
      cases hempty : evaluateInteractionRequest call.stamps Dict.empty call.request with
      | error e => rfl
      | ok result =>
          obtain ⟨response, stored⟩ := result
          obtain ⟨hclean, hbursts, hmin, -, -⟩ := evaluateInteractionRequest_eq_ok_iff.mp hempty
          rw [evaluateInteractionRequest_eq_ok_iff.mpr ⟨hclean, hbursts, hmin, rfl, rfl⟩] at hrows
          cases hrows

theorem storedArtifact_minimized (h : storedArtifact call = some artifact) :
    Minimized artifact.dump := by
  unfold storedArtifact at h
  split at h
  · rename_i result hresult
    cases h
    exact (evaluateInteractionRequest_eq_ok_iff.mp hresult).2.2.1
  · cases h

theorem evaluateAll_append :
    evaluateAll (calls ++ [call]) = evaluateInteraction (evaluateAll calls) call := by
  rw [evaluateAll, List.foldl_append]
  rfl

/-- Under distinct ids the rows are the stored artifacts in the order of the calls. -/
theorem items_evaluateAll (h : DistinctIds calls) :
    (evaluateAll calls).items =
      (calls.filterMap storedArtifact).map fun artifact => (artifact.evidencePacketId, artifact) := by
  induction calls using List.reverseRecOn with
  | nil => rfl
  | append_singleton calls call ih =>
      rw [DistinctIds, List.filterMap_append, List.map_append, List.nodup_append] at h
      rw [evaluateAll_append, evaluateInteraction_eq, List.filterMap_append, List.map_append,
        ← ih h.1]
      cases hstored : storedArtifact call with
      | none => simp [hstored]
      | some artifact =>
          have hnew : artifact.evidencePacketId ∉ (evaluateAll calls).keys := by
            rw [Dict.keys, ih h.1, List.map_map]
            intro hmem
            exact h.2.2 _ hmem _ (by simp [hstored]) rfl
          rw [Option.map_some, Option.getD_some, Dict.items_set_of_notMem artifact hnew]
          simp [hstored]

/-- The calls that are left store the tenant's artifacts. -/
theorem filterMap_storedArtifact (tenantId : String) (calls : List EvaluationCall) :
    (calls.filter (belongsTo tenantId)).filterMap storedArtifact =
      (calls.filterMap storedArtifact).filter (·.tenantId = tenantId) := by
  induction calls with
  | nil => rfl
  | cons call rest ih =>
      rw [List.filter_cons]
      cases hstored : storedArtifact call with
      | none =>
          rw [if_pos (by simp [belongsTo, hstored]), List.filterMap_cons_none hstored,
            List.filterMap_cons_none hstored, ih]
      | some artifact =>
          rw [List.filterMap_cons_some hstored, List.filter_cons]
          by_cases htenant : artifact.tenantId = tenantId
          · rw [if_pos (by simp [belongsTo, hstored, htenant]), List.filterMap_cons_some hstored,
              if_pos (by simpa using htenant), ih]
          · rw [if_neg (by simp [belongsTo, hstored, htenant]), if_neg (by simpa using htenant), ih]

theorem DistinctIds.filter (h : DistinctIds calls) (tenantId : String) :
    DistinctIds (calls.filter (belongsTo tenantId)) := by
  unfold DistinctIds at h ⊢
  rw [filterMap_storedArtifact]
  exact h.sublist (List.filter_sublist.map _)

theorem values_eq (h : DistinctIds calls) :
    (evaluateAll calls).values = calls.filterMap storedArtifact := by
  rw [Dict.values, items_evaluateAll h, List.map_map]
  exact List.map_id _

/-- A tenant's artifacts are those of the calls that are left. -/
theorem ofTenant_evaluateAll (h : DistinctIds calls) (hnonempty : tenantId ≠ "") :
    SdkEvidenceStore.ofTenant (evaluateAll (calls.filter (belongsTo tenantId))) (some tenantId) =
      SdkEvidenceStore.ofTenant (evaluateAll calls) (some tenantId) := by
  have hgiven : (some tenantId).filter (· ≠ "") = some tenantId := by simp [hnonempty]
  unfold SdkEvidenceStore.ofTenant
  rw [hgiven]
  dsimp only
  rw [values_eq (h.filter tenantId), values_eq h, filterMap_storedArtifact, List.filter_filter]
  simp

theorem get?_evaluateAll_iff (h : DistinctIds calls) {id : String} :
    (evaluateAll calls).get? id = some artifact ↔
      artifact ∈ calls.filterMap storedArtifact ∧ artifact.evidencePacketId = id := by
  rw [Dict.get?_eq_some_iff, items_evaluateAll h, List.mem_map]
  constructor
  · rintro ⟨stored, hstored, heq⟩
    cases heq
    exact ⟨hstored, rfl⟩
  · rintro ⟨hstored, rfl⟩
    exact ⟨artifact, hstored, rfl⟩

/-- Without the calls of others an id finds the tenant's artifact, or nothing. -/
theorem get?_evaluateAll_filter (h : DistinctIds calls) (id : String) :
    (evaluateAll (calls.filter (belongsTo tenantId))).get? id =
      ((evaluateAll calls).get? id).filter (·.tenantId = tenantId) := by
  ext artifact
  rw [get?_evaluateAll_iff (h.filter tenantId), filterMap_storedArtifact, List.mem_filter,
    Option.filter_eq_some_iff, get?_evaluateAll_iff h]
  exact and_right_comm

theorem get?_minimized (h : DistinctIds calls) {id : String}
    (hget : (evaluateAll calls).get? id = some artifact) : Minimized artifact.dump := by
  obtain ⟨call, -, hstored⟩ := List.mem_filterMap.mp ((get?_evaluateAll_iff h).mp hget).1
  exact storedArtifact_minimized hstored

end

/-! ## Isolation -/

section
variable {py : Interpreter} {store : SdkEvidenceStore} {user : DashboardUser}
  {rows rows' : EvidenceRows}

/-- A tenant without an admin's role is held to its own listings. -/
theorem authorizedListingTenant_ok {request : ListingRequest} {tenantId : Option String}
    (hadmin : isDashboardAdmin py user = false)
    (h : authorizedListingTenant py request user = .ok tenantId) :
    ∃ own, user.tenantId = some own ∧ own ≠ "" ∧ tenantId = some own := by
  unfold authorizedListingTenant at h
  rw [hadmin, if_neg Bool.false_ne_true] at h
  cases howner : user.tenantId.filter (· ≠ "") with
  | none =>
      rw [howner] at h
      cases h
  | some own =>
      rw [howner] at h
      dsimp only at h
      split at h
      · cases h
      · cases h
        obtain ⟨heq, hne⟩ := Option.filter_eq_some_iff.mp howner
        exact ⟨own, heq, by simpa using hne, rfl⟩

/-- A listing reads the rows of one tenant. -/
theorem listRecent_congr {tenantId : Option String} (limit : ℕ)
    (h : SdkEvidenceStore.ofTenant rows tenantId = SdkEvidenceStore.ofTenant rows' tenantId) :
    store.listRecent rows tenantId limit = store.listRecent rows' tenantId limit := by
  cases store with
  | inMemory => rw [SdkEvidenceStore.listRecent, SdkEvidenceStore.listRecent, h]
  | sql db => rw [SdkEvidenceStore.listRecent, SdkEvidenceStore.listRecent, h]

theorem listing_congr {request : ListingRequest}
    (h : ∀ tenantId, authorizedListingTenant py request user = .ok tenantId →
      SdkEvidenceStore.ofTenant rows tenantId = SdkEvidenceStore.ofTenant rows' tenantId) :
    listSdkDashboardEvidenceCards py store rows request user =
      listSdkDashboardEvidenceCards py store rows' request user := by
  unfold listSdkDashboardEvidenceCards
  split
  · rfl
  · cases hauthorized : authorizedListingTenant py request user with
    | error e => rfl
    | ok tenantId =>
        dsimp only [bind, Except.bind]
        rw [listRecent_congr request.limit.toNat (h tenantId hauthorized)]

/-- What is found under an id is stored under the same tenant. -/
theorem get_of_some {id : String} {artifact : SdkEvidenceArtifact}
    (hget : rows.get? id = some artifact) (hmin : Minimized artifact.dump) :
    ∃ found, store.get rows id = .ok (some found) ∧ found.tenantId = artifact.tenantId := by
  unfold SdkEvidenceStore.get
  rw [hget]
  cases store with
  | inMemory => exact ⟨artifact, rfl, rfl⟩
  | sql db =>
      have hread : ensureSdkArtifactMinimized (db.readBack artifact) = .ok () :=
        ensureSdkArtifactMinimized_eq_ok_iff.mpr (db.readBack_minimized artifact hmin)
      refine ⟨db.readBack artifact, ?_, db.readBack_tenantId artifact⟩
      dsimp only
      rw [SdkEvidenceStore.artifactFromRow, hread]
      rfl

theorem get_of_none {id : String} (hget : rows.get? id = none) : store.get rows id = .ok none := by
  unfold SdkEvidenceStore.get
  rw [hget]

theorem get_congr {id : String} (h : rows.get? id = rows'.get? id) :
    store.get rows id = store.get rows' id := by
  unfold SdkEvidenceStore.get
  rw [h]

/-- To a stranger an artifact is as good as missing. -/
theorem retrieval_of_denied {id : String} {artifact : SdkEvidenceArtifact}
    (hadmin : isDashboardAdmin py user = false) (hget : rows.get? id = some artifact)
    (hmin : Minimized artifact.dump) (htenant : artifact.tenantId ≠ user.tenantId.getD "") :
    getSdkEvidenceArtifact py store rows id user =
      .error (.http 404 "Evidence artifact not found") := by
  obtain ⟨found, hfound, heq⟩ := @get_of_some store rows id artifact hget hmin
  have hdenied : canAccessArtifact py user found = false := by
    unfold canAccessArtifact
    rw [hadmin, Bool.false_or, heq]
    cases hown : user.tenantId with
    | none => rfl
    | some own =>
        rw [hown, Option.getD_some] at htenant
        by_cases hempty : own = "" <;> simp [hempty, htenant]
  unfold getSdkEvidenceArtifact
  rw [hfound]
  simp only [raisedIn, Except.mapError, bind, Except.bind, hdenied]
  rfl

theorem retrieval_of_missing {id : String} (hget : rows.get? id = none) :
    getSdkEvidenceArtifact py store rows id user =
      .error (.http 404 "Evidence artifact not found") := by
  unfold getSdkEvidenceArtifact
  rw [get_of_none hget]
  rfl

end

/-- A user without an admin's role gets from every listing and every retrieval what would be
there without the evaluations of other tenants. -/
theorem evidence_isolated (py : Interpreter) (store : SdkEvidenceStore) (user : DashboardUser)
    (calls : List EvaluationCall) (hids : DistinctIds calls)
    (hadmin : isDashboardAdmin py user = false) :
    let own := calls.filter (belongsTo (user.tenantId.getD ""))
    (∀ request, listSdkDashboardEvidenceCards py store (evaluateAll calls) request user =
      listSdkDashboardEvidenceCards py store (evaluateAll own) request user) ∧
    ∀ id, getSdkEvidenceArtifact py store (evaluateAll calls) id user =
      getSdkEvidenceArtifact py store (evaluateAll own) id user := by
  intro own
  constructor
  · intro request
    refine listing_congr fun tenantId hauthorized => ?_
    obtain ⟨tenant, htenant, hnonempty, rfl⟩ := authorizedListingTenant_ok hadmin hauthorized
    have hown : own = calls.filter (belongsTo tenant) := by
      rw [← Option.getD_some (a := tenant) (b := ""), ← htenant]
    rw [hown, ofTenant_evaluateAll hids hnonempty]
  · intro id
    have hfilter := @get?_evaluateAll_filter calls (user.tenantId.getD "") hids id
    cases hget : (evaluateAll calls).get? id with
    | none =>
        rw [hget] at hfilter
        rw [retrieval_of_missing hget, retrieval_of_missing hfilter]
    | some artifact =>
        by_cases htenant : artifact.tenantId = user.tenantId.getD ""
        · rw [hget, Option.filter_some, if_pos (by simpa using htenant), ← hget] at hfilter
          unfold getSdkEvidenceArtifact
          rw [get_congr hfilter]
        · rw [hget, Option.filter_some, if_neg (by simpa using htenant)] at hfilter
          rw [retrieval_of_denied hadmin hget (get?_minimized hids hget) htenant,
            retrieval_of_missing hfilter]

/-! ## Two tenants -/

/-- Ids that are drawn apart are distinct. -/
theorem distinctIds_of_uuidHex {calls : List EvaluationCall}
    (h : (calls.map fun call => "ep_" ++ call.stamps.uuidHex).Nodup) : DistinctIds calls := by
  refine h.sublist ?_
  induction calls with
  | nil => exact .slnil
  | cons call rest ih =>
      rw [List.map_cons, List.nodup_cons] at h
      cases hstored : storedArtifact call with
      | none =>
          rw [List.filterMap_cons_none hstored, List.map_cons]
          exact (ih h.2).cons _
      | some artifact =>
          have hid : artifact.evidencePacketId = "ep_" ++ call.stamps.uuidHex := by
            unfold storedArtifact at hstored
            split at hstored
            · cases hstored
              rfl
            · cases hstored
          rw [List.filterMap_cons_some hstored, List.map_cons, List.map_cons, hid]
          exact (ih h.2).cons_cons _

/-- Rows of one time stay in the order in which they were inserted. -/
def tiesInInsertionOrder (instant : String → ℚ) : SqlDatabase where
  instant := instant
  orderByCreatedAt rows := rows.mergeSort fun a b => instant b.createdAt ≤ instant a.createdAt
  orderByCreatedAt_perm rows := List.mergeSort_perm rows _
  orderByCreatedAt_sorted rows := by
    have hsorted := @List.pairwise_mergeSort _
      (fun a b : SdkEvidenceArtifact => decide (instant b.createdAt ≤ instant a.createdAt))
      (fun a b c hab hbc => by simpa using le_trans (by simpa using hbc) (by simpa using hab))
      (fun a b => by simpa using le_total _ _) rows
    simpa using hsorted
  readBack artifact := artifact
  readBack_tenantId _ := rfl
  readBack_minimized _ h := h

def laterStamps : Stamps :=
  { epochStamps with
    uuidHex := "00000000000000000000000000000001"
    uuidHex_chars := by
      have hall : ("00000000000000000000000000000001".toList.all stampChars.contains) = true := by
        decide +kernel
      intro c hc
      simpa using List.all_eq_true.mp hall c hc }

def twoTenants : List EvaluationCall :=
  [⟨epochStamps, { minimalRequest with tenantId := "client1" }⟩,
    ⟨laterStamps, { minimalRequest with tenantId := "client2" }⟩]

def reviewer : DashboardUser := ⟨some "reviewer", some "client1"⟩

def plainInterpreter : Interpreter where
  loads _ := none
  dumps _ := ""
  repr _ := ""
  isAlnum _ := false
  lower text := text
  lower_empty := rfl

theorem evidence_isolated_reviewer :
    let store := SdkEvidenceStore.sql (tiesInInsertionOrder fun _ => 0)
    let own := twoTenants.filter (belongsTo (reviewer.tenantId.getD ""))
    (∀ request, listSdkDashboardEvidenceCards plainInterpreter store (evaluateAll twoTenants)
        request reviewer =
      listSdkDashboardEvidenceCards plainInterpreter store (evaluateAll own) request reviewer) ∧
    ∀ id, getSdkEvidenceArtifact plainInterpreter store (evaluateAll twoTenants) id reviewer =
      getSdkEvidenceArtifact plainInterpreter store (evaluateAll own) id reviewer :=
  evidence_isolated plainInterpreter (.sql (tiesInInsertionOrder fun _ => 0)) reviewer twoTenants
    (distinctIds_of_uuidHex (by decide +kernel)) (by decide +kernel)

end TruePresenceESE.Api
