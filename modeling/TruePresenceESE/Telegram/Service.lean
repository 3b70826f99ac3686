import TruePresenceESE.Lib.Selection
import TruePresenceESE.Telegram.Reviews

/-! # The protection service

Groups, administrators' chats and sessions of users, each kept in the database and in the
memory of the service. Groups and chats are written to both; a session goes to the
database while it answers, and to memory only where it does not.
-/

namespace TruePresenceESE.Telegram

open PyValue JsonDict

/-- A row of `telegram_user_sessions`, which is keyed by the session id. -/
structure SessionRow where
  tenantId : String
  data : JsonDict

/-- The tables of groups and chats have no column beside their keys. -/
structure ServiceState (rt : TextRuntime) where
  reviews : ReviewState rt
  groupRows : List (ℤ × String)
  chatRows : List (ℤ × String)
  sessionRows : Dict String SessionRow
  protectedGroups : Dict String (List ℤ)
  adminChats : Dict String (List ℤ)
  userSessions : Dict String JsonDict

variable {rt : TextRuntime}

namespace ServiceState

def withTenants (s : ServiceState rt) (tenants : Tenants rt) : ServiceState rt :=
  { s with reviews := { s.reviews with tenants := tenants } }

def groupsOf (s : ServiceState rt) (tenantId : String) : List ℤ :=
  (s.protectedGroups.get? tenantId).getD []

def chatsOf (s : ServiceState rt) (tenantId : String) : List ℤ :=
  (s.adminChats.get? tenantId).getD []

def copiesOf (s : ServiceState rt) (tenantId : String) : Dict String JsonDict :=
  (s.reviews.pendingReviews.get? tenantId).getD Dict.empty

end ServiceState

/-! ## Groups -/

/-- A chat that is given; `0` is as good as none. -/
def givenChat (adminChatId : Option ℤ) : Option ℤ := adminChatId.filter (· ≠ 0)

def rememberGroup (s : ServiceState rt) (groupId : ℤ) (adminChatId : Option ℤ)
    (tenantId : String) : ServiceState rt :=
  { s with
    protectedGroups := s.protectedGroups.set tenantId ((s.groupsOf tenantId).insert groupId)
    adminChats := match givenChat adminChatId with
      | some chatId => s.adminChats.set tenantId ((s.chatsOf tenantId).insert chatId)
      | none => s.adminChats }

def insertGroup (s : ServiceState rt) (groupId : ℤ) (adminChatId : Option ℤ)
    (tenantId : String) : ServiceState rt :=
  { s with
    groupRows := s.groupRows.insert (groupId, tenantId)
    chatRows := match givenChat adminChatId with
      | some chatId => s.chatRows.insert (chatId, tenantId)
      | none => s.chatRows }

def registerGroup (host : ReviewHost) (s : ServiceState rt) (database : Bool) (groupId : ℤ)
    (adminChatId : Option ℤ) (tenant : Option String) : Except String Unit × ServiceState rt :=
  let tenantId := tenantOf host tenant
  let ensured := ensureTenant host.configs s.reviews.tenants tenantId
  match ensured.1 with
  | .error e => (.error e, s.withTenants ensured.2)
  | .ok _ =>
      let remembered := rememberGroup (s.withTenants ensured.2) groupId adminChatId tenantId
      (.ok (), if database then insertGroup remembered groupId adminChatId tenantId else remembered)

/-! ## Sessions -/

def sessionStart (tenantId : String) : String := "tg_" ++ tenantId ++ "_"

def sessionIdOf (tenantId userId : String) : String := sessionStart tenantId ++ userId

def newUserSession (sessionId tenantId : String) : JsonDict :=
  ofFields [("session_id", .str sessionId), ("tenant_id", .str tenantId)]

/-- The session of a user, inserted where the database has none. -/
def openSession (host : ReviewHost) (s : ServiceState rt) (database : Bool)
    (sessionId tenantId : String) : JsonDict × ServiceState rt :=
  let new := newUserSession sessionId tenantId
  let kept := (s.userSessions.get? sessionId).getD new
  if database then
    match s.sessionRows.get? sessionId with
    | none =>
        (new, { s with sessionRows := s.sessionRows.set sessionId ⟨tenantId, new⟩ })
    | some row =>
        match host.column.load row.data with
        | .ok session => (session, s)
        | .error _ => (kept, s)
  else (kept, s)

/-- Memory gets the session only where the database cannot be written. -/
def closeSession (s : ServiceState rt) (database : Bool) (sessionId : String)
    (session : JsonDict) : ServiceState rt :=
  if database then
    match s.sessionRows.get? sessionId with
    | none => s
    | some row =>
        { s with sessionRows := s.sessionRows.set sessionId { row with data := session } }
  else { s with userSessions := s.userSessions.set sessionId session }

/-! ## Updates -/

/-- What is read off a parsed event; the user is written out. -/
structure ParsedEvent where
  userId : String
  eventType : Json
  timestamp : Json

structure ReviewRequest where
  data : JsonDict
  reviewId : String
  createdAt : String

/-- What the evaluation and the execution of an event come to. -/
inductive Evaluated where
  | raised
  | acted (action : Json) (review : Option ReviewRequest)

inductive UpdateAnswer where
  | failed
  | ignored
  | acted (action : Json) (notified : List ℤ)

/-- The chats that a review is announced in; without a token there is no announcement. -/
def notifiedChats (host : ReviewHost) (s : ServiceState rt) (database : Bool)
    (tenantId : String) : List ℤ :=
  if (executionToken host s.reviews database tenantId).isSome then s.chatsOf tenantId else []

/-- A review that cannot be added is given up. -/
def handleManualReview (host : ReviewHost) (s : ServiceState rt) (database : Bool)
    (tenantId : String) : Option ReviewRequest → List ℤ × ServiceState rt
  | none => ([], s)
  | some review =>
      let added := addPendingReview host s.reviews database review.data review.reviewId
        review.createdAt (some tenantId)
      let after := { s with reviews := added.2 }
      match added.1 with
      | .ok _ => (notifiedChats host after database tenantId, after)
      | .error _ => ([], after)

def touchSession (session : JsonDict) (event : ParsedEvent) : JsonDict :=
  (session.set "last_event_type" event.eventType).set "last_event_timestamp" event.timestamp

/-- The evaluation is given the session that is open. -/
def processEvent (host : ReviewHost) (s : ServiceState rt) (database : Bool) (tenantId : String)
    (event : ParsedEvent) (evaluate : JsonDict → Evaluated) : UpdateAnswer × ServiceState rt :=
  let sessionId := sessionIdOf tenantId event.userId
  let opened := openSession host s database sessionId tenantId
  match evaluate opened.1 with
  | .raised => (.failed, opened.2)
  | .acted action review =>
      let closed := closeSession opened.2 database sessionId (touchSession opened.1 event)
      let reviewed := handleManualReview host closed database tenantId review
      (.acted action reviewed.1, reviewed.2)

/-- `process_update` around the evaluation, which `Dispatch` follows to the action. -/
def handleUpdate (host : ReviewHost) (s : ServiceState rt) (database : Bool)
    (tenant : Option String) (event : Option ParsedEvent) (evaluate : JsonDict → Evaluated) :
    UpdateAnswer × ServiceState rt :=
  let tenantId := tenantOf host tenant
  let ensured := ensureTenant host.configs s.reviews.tenants tenantId
  let after := s.withTenants ensured.2
  match ensured.1, event with
  | .error _, _ => (.failed, after)
  | .ok _, none => (.ignored, after)
  | .ok _, some event => processEvent host after database tenantId event evaluate

/-! ## Status -/

structure StatusCounts where
  protectedGroups : Nat
  activeSessions : Nat
  pendingReviews : Nat
  deriving DecidableEq, Repr

inductive StatusReport where
  | tenant (tenantId : String) (counts : StatusCounts)
  | all (tenants : Dict String StatusCounts)

def storedCounts (s : ServiceState rt) (tenantId : String) : StatusCounts where
  protectedGroups := (s.groupRows.filter (·.2 = tenantId)).length
  activeSessions := (s.sessionRows.selected (·.2.tenantId = tenantId)).length
  pendingReviews := (pendingRows s.reviews tenantId).length

/-- The session ids that begin like those of the tenant, and all copies of reviews. -/
def memoryCounts (s : ServiceState rt) (tenantId : String) : StatusCounts where
  protectedGroups := (s.groupsOf tenantId).length
  activeSessions := (s.userSessions.selected fun entry =>
    (sessionStart tenantId).toList.isPrefixOf entry.1.toList).length
  pendingReviews := (s.copiesOf tenantId).size

def storedTenants (s : ServiceState rt) : List String := (s.groupRows.map Prod.snd).dedup

/-- The keys of three tables; those of the sessions are session ids. -/
def memoryTenants (s : ServiceState rt) : List String :=
  ((s.protectedGroups.keys ++ s.reviews.pendingReviews.keys ++
    s.userSessions.keys).dedup).mergeSort (fun left right => decide (left ≤ right))

def statusOfAll (tenants : List String) (counts : String → StatusCounts) : StatusReport :=
  .all (Dict.empty.update (tenants.map fun tenantId => (tenantId, counts tenantId)))

def getStatus (host : ReviewHost) (s : ServiceState rt) (database : Bool)
    (tenant : Option String) : StatusReport :=
  let tenantId := tenantOf host tenant
  match decide (tenantId = "all"), database with
  | true, true => statusOfAll (storedTenants s) (storedCounts s)
  | true, false => statusOfAll (memoryTenants s) (memoryCounts s)
  | false, true => .tenant tenantId (storedCounts s tenantId)
  | false, false => .tenant tenantId (memoryCounts s tenantId)

end TruePresenceESE.Telegram
