import TruePresenceESE.Runtime.Distributed

/-! # Sessions of the REST interface

A session is written as the dump of its model, whose creation time is an instant, so
the encoder refuses every dump and nobody looks at the answer of the store. Each
evaluation finds no session and makes one up again.
-/

namespace TruePresenceESE.Api

open PyValue JsonDict TruePresenceESE.Runtime

/-! ## Requests -/

structure Session where
  sessionId : String
  userId : Option String := none
  createdAt : ℚ
  assuranceLevel : String
  status : String := "active"

/-- `session.model_dump()` -/
def Session.modelDump (session : Session) : List (String × PyObject) :=
  [("session_id", .json (.str session.sessionId)),
    ("user_id", .json (session.userId.elim .null .str)),
    ("created_at", .datetime session.createdAt),
    ("assurance_level", .json (.str session.assuranceLevel)),
    ("status", .json (.str session.status))]

/-- The level comes with the query or with the body. -/
structure CreateSession where
  assuranceLevel : Option String
  requestLevel : Option String

def CreateSession.resolvedAssuranceLevel (create : CreateSession) : String :=
  match create.assuranceLevel.filter (· ≠ "") with
  | some level => level
  | none => create.requestLevel.getD "A1"

structure ChallengeResponse where
  challengeId : String
  response : String
  responseTimeMs : ℚ

structure EventSignals where
  eventType : String
  timestamp : ℚ
  payload : JsonDict
  features : Option JsonDict

structure EvaluateRequest where
  mode : String
  sessionId : String
  event : EventSignals
  context : Option JsonDict
  challengeResponses : Option (List ChallengeResponse)

def EvaluateRequest.contextDict (request : EvaluateRequest) : JsonDict :=
  request.context.getD Dict.empty

def ChallengeResponse.toJson (challenge : ChallengeResponse) : Json :=
  .obj [("challenge_id", .str challenge.challengeId), ("response", .str challenge.response),
    ("response_time_ms", .num challenge.responseTimeMs)]

/-- Of several challenge responses the last one stays. -/
def EvaluateRequest.eventDict (request : EvaluateRequest) : JsonDict :=
  let plain := ofFields [("event_type", .str request.event.eventType),
    ("timestamp", .num request.event.timestamp), ("payload", request.event.payload.toJson),
    ("session_id", .str request.sessionId)]
  let features := request.event.features.getD Dict.empty
  let featured := if features.items.isEmpty then plain else plain.set "features" features.toJson
  let placed := if request.contextDict.items.isEmpty then featured
    else featured.set "context" request.contextDict.toJson
  match (request.challengeResponses.getD []).getLast? with
  | some challenge => placed.set "challenge_response" challenge.toJson
  | none => placed

/-! ## Handling them -/

abbrev PyDict := Dict String PyObject

/-- The session that an evaluation makes up. -/
def newSession (sessionId : String) (now : ℚ) : Session :=
  { sessionId := sessionId, createdAt := now, assuranceLevel := "A1" }

def storeSessionMeta (store : RedisStore) (now : ℚ) (session : Session) : RedisStore :=
  (store.updateSessionField now session.sessionId "session_meta" (.dict session.modelDump)).1

def createSession (store : RedisStore) (now : ℚ) (sessionId : String) (create : CreateSession) :
    RedisStore :=
  storeSessionMeta store now
    { sessionId := sessionId, createdAt := now, assuranceLevel := create.resolvedAssuranceLevel }

/-- The stored session, or a new one that is stored in its place. -/
def getOrCreateSession (store : RedisStore) (now : ℚ) (sessionId : String) :
    Except PyError (List (String × PyObject)) × RedisStore :=
  let stored := store.getSessionField sessionId "session_meta"
  if truthy stored then
    match stored with
    | .obj fields => (.ok (fields.map fun p => (p.1, .json p.2)), store)
    | _ => (.error .typeError, store)
  else
    let session := newSession sessionId now
    (.ok session.modelDump, storeSessionMeta store now session)

/-- The session dictionary for the engine: stored fields over the plain ones, the
context over both. -/
def sessionArgument (request : EvaluateRequest) (sessionData : List (String × PyObject)) : PyDict :=
  let context := request.contextDict
  let plain : PyDict := Dict.empty.update [("session_id", .json (.str request.sessionId)),
    ("mode", .json (.str request.mode)),
    ("tenant_id", .json (context.getOr "tenant_id" (.str "default")))]
  (plain.update sessionData).update (context.items.map fun p => (p.1, .json p.2))

/-- The session that an evaluation hands to the engine, and the store afterwards. The
engine's own record, where it comes to one, is any value. -/
def evaluate (store : RedisStore) (now : ℚ) (request : EvaluateRequest)
    (recorded : Option PyObject) : Except PyError PyDict × RedisStore :=
  let found := getOrCreateSession store now request.sessionId
  (found.1.map (sessionArgument request),
    match found.1, recorded with
    | .ok _, some finalResult =>
        found.2.recordEvaluation now request.sessionId request.eventDict finalResult
    | _, _ => found.2)

inductive Request where
  | create (create : CreateSession) (sessionId : String) (now : ℚ)
  | evaluate (request : EvaluateRequest) (now : ℚ) (recorded : Option PyObject)

def step (store : RedisStore) : Request → RedisStore
  | .create create sessionId now => createSession store now sessionId create
  | .evaluate request now recorded => (evaluate store now request recorded).2

def run (store : RedisStore) (requests : List Request) : RedisStore := requests.foldl step store

/-! ## No session is ever stored -/

theorem modelDump_encode (session : Session) : PyObject.encode (.dict session.modelDump) = none :=
  @PyObject.encode_dict_of_mem _ "created_at" _
    (List.mem_cons_of_mem _ (List.mem_cons_of_mem _ List.mem_cons_self)) rfl

theorem storeSessionMeta_eq (store : RedisStore) (now : ℚ) (session : Session) :
    storeSessionMeta store now session = store :=
  RedisStore.updateSessionField_of_encode (modelDump_encode session)

section
variable {store : RedisStore}

theorem getOrCreateSession_unused (h : RedisStore.Unused "session_meta" store) (now : ℚ)
    (sessionId : String) :
    getOrCreateSession store now sessionId =
      (.ok (newSession sessionId now).modelDump, store) := by
  unfold getOrCreateSession
  rw [RedisStore.getSessionField_unused h]
  dsimp only
  rw [storeSessionMeta_eq]
  rfl

/-- Without a stored session the engine gets the one made up for it. -/
theorem evaluate_unused (h : RedisStore.Unused "session_meta" store) (now : ℚ)
    (request : EvaluateRequest) (recorded : Option PyObject) :
    evaluate store now request recorded =
      (.ok (sessionArgument request (newSession request.sessionId now).modelDump),
        match recorded with
        | some finalResult =>
            store.recordEvaluation now request.sessionId request.eventDict finalResult
        | none => store) := by
  unfold evaluate
  rw [getOrCreateSession_unused h]
  cases recorded <;> rfl

theorem step_unused (h : RedisStore.Unused "session_meta" store) (request : Request) :
    RedisStore.Unused "session_meta" (step store request) := by
  cases request with
  | create create sessionId now =>
      rw [step, createSession, storeSessionMeta_eq]
      exact h
  | evaluate request now recorded =>
      rw [step, evaluate_unused h]
      cases recorded with
      | none => exact h
      | some finalResult => exact RedisStore.unused_recordEvaluation h (by decide) (by decide)

theorem run_unused (h : RedisStore.Unused "session_meta" store) (requests : List Request) :
    RedisStore.Unused "session_meta" (run store requests) := by
  induction requests generalizing store with
  | nil => exact h
  | cons request rest ih => exact ih (step_unused h request)

end

/-! ## What the engine is handed -/

/-- The session for the engine has the level and the time of its creation. -/
def Remembers (passed : Except PyError PyDict) (level : String) (createdAt : ℚ) : Prop :=
  ∃ session, passed = .ok session ∧
    session.get? "assurance_level" = some (.json (.str level)) ∧
    session.get? "created_at" = some (.datetime createdAt)

theorem sessionArgument_get? {request : EvaluateRequest} {session : Session} {key : String}
    {value : PyObject} (hopen : request.contextDict.get? key = none)
    (hmem : (key, value) ∈ session.modelDump) :
    (sessionArgument request session.modelDump).get? key = some value := by
  have hkeys : (request.contextDict.items.map fun p => (p.1, PyObject.json p.2)).map Prod.fst =
      request.contextDict.keys := by
    rw [List.map_map]
    rfl
  unfold sessionArgument
  dsimp only
  rw [Dict.get?_update_of_notMem _ _ (hkeys ▸ Dict.get?_eq_none_iff.mp hopen)]
  exact Dict.get?_update_of_mem _ (by simp [Session.modelDump]) hmem

/-- After a session was created, an evaluation of it hands the engine its level and
time exactly where these are the ones it would make up anyway. -/
theorem created_session_remembered_iff {start : RedisStore}
    (hstart : RedisStore.Unused "session_meta" start) (before between : List Request)
    (create : CreateSession) (createdAt now : ℚ) (request : EvaluateRequest)
    (recorded : Option PyObject)
    (hlevel : request.contextDict.get? "assurance_level" = none)
    (htime : request.contextDict.get? "created_at" = none) :
    Remembers
        (evaluate (run start (before ++ .create create request.sessionId createdAt :: between)) now
          request recorded).1 create.resolvedAssuranceLevel createdAt ↔
      create.resolvedAssuranceLevel = "A1" ∧ createdAt = now := by
  rw [evaluate_unused (run_unused hstart _)]
  have hget : (sessionArgument request (newSession request.sessionId now).modelDump).get?
      "assurance_level" = some (.json (.str "A1")) :=
    sessionArgument_get? hlevel (by simp [Session.modelDump, newSession])
  have hget' : (sessionArgument request (newSession request.sessionId now).modelDump).get?
      "created_at" = some (.datetime now) :=
    sessionArgument_get? htime (by simp [Session.modelDump, newSession])
  constructor
  · rintro ⟨session, hpassed, hold, hold'⟩
    cases hpassed
    rw [hget, Option.some.injEq, PyObject.json.injEq, Json.str.injEq] at hold
    rw [hget', Option.some.injEq, PyObject.datetime.injEq] at hold'
    exact ⟨hold.symm, hold'.symm⟩
  · rintro ⟨hsame, rfl⟩
    exact ⟨_, rfl, hsame ▸ hget, hget'⟩

def plainRequest (sessionId : String) : EvaluateRequest where
  mode := "sdk"
  sessionId := sessionId
  event := ⟨"message", 0, Dict.empty, none⟩
  context := none
  challengeResponses := none

theorem created_session_remembered_iff_default :
    Remembers
        (evaluate (run Dict.empty ([] ++ .create ⟨none, none⟩ "session" 5 :: [])) 6
          (plainRequest "session") none).1
        (CreateSession.resolvedAssuranceLevel ⟨none, none⟩) 5 ↔
      CreateSession.resolvedAssuranceLevel ⟨none, none⟩ = "A1" ∧ (5 : ℚ) = 6 :=
  created_session_remembered_iff (RedisStore.unused_empty _) [] [] ⟨none, none⟩ 5 6
    (plainRequest "session") none rfl rfl

/-- A session of level A2 is evaluated at level A1. -/
theorem created_session_forgotten :
    ¬ ∀ (before between : List Request) (create : CreateSession) (createdAt now : ℚ)
      (request : EvaluateRequest) (recorded : Option PyObject),
      request.contextDict.get? "assurance_level" = none →
      request.contextDict.get? "created_at" = none →
      Remembers
        (evaluate
          (run Dict.empty (before ++ .create create request.sessionId createdAt :: between)) now
          request recorded).1 create.resolvedAssuranceLevel createdAt := by
  intro hall
  obtain ⟨session, hpassed, hlevel, -⟩ :=
    hall [] [] ⟨some "A2", none⟩ 5 6 (plainRequest "session") none rfl rfl
  cases hpassed
  have hlevels : some (PyObject.json (.str "A1")) = some (.json (.str "A2")) := hlevel
  rw [Option.some.injEq, PyObject.json.injEq, Json.str.injEq] at hlevels
  exact absurd hlevels (by decide)

end TruePresenceESE.Api
