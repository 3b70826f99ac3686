import TruePresenceESE.Telegram.BotTokens
import TruePresenceESE.Telegram.Dispatch
import TruePresenceESE.Telegram.Tenants

/-! # Manual reviews

A review is kept twice, as a row of the database and in the memory of the service. It
is added to both; every other call works on the row where the database answers, and on
the copy in memory where it does not.
-/

namespace TruePresenceESE.Telegram

open PyValue JsonDict

/-! ## Stores -/

/-- How the database driver hands back a column of JSON. -/
inductive JsonColumn where
  | text
  | decoded
  deriving DecidableEq, Repr

/-- `json.loads(row["data"])`; only a text can be loaded. -/
def JsonColumn.load (column : JsonColumn) (data : JsonDict) : Except PyError JsonDict :=
  match column with
  | .text => .ok data
  | .decoded => .error .typeError

theorem load_eq {column : JsonColumn} {data loaded : JsonDict} (h : column.load data = .ok loaded) :
    loaded = data := by
  cases column with
  | text => exact (Except.ok.inj h).symm
  | decoded => cases h

/-- A row of `telegram_pending_reviews`, which is keyed by the review id. -/
structure ReviewRow where
  tenantId : String
  data : JsonDict
  status : String

theorem loadRows_eq {column : JsonColumn} {rows : List ReviewRow} {reviews : List JsonDict}
    (h : rows.mapM (fun row => column.load row.data) = .ok reviews) :
    reviews = rows.map (·.data) := by
  induction rows generalizing reviews with
  | nil =>
      cases h
      rfl
  | cons row rest ih =>
      rw [List.mapM_cons] at h
      obtain ⟨loaded, hload, h⟩ := Fallible.bind_eq_ok_iff.mp h
      obtain ⟨others, hothers, h⟩ := Fallible.bind_eq_ok_iff.mp h
      cases h
      rw [load_eq hload, ih hothers]
      rfl

structure ReviewHost where
  configs : ConfigHost
  tokens : TokenHost
  column : JsonColumn
  /-- The tenant of the service, for calls that name none. -/
  tenantId : String

structure ReviewState (rt : TextRuntime) where
  tenants : Tenants rt
  tokens : TokenTable
  rows : Dict String ReviewRow
  pendingReviews : Dict String (Dict String JsonDict)

/-- `tenant_id or self.tenant_id` -/
def tenantOf (host : ReviewHost) : Option String → String
  | some tenantId => if tenantId = "" then host.tenantId else tenantId
  | none => host.tenantId

variable {rt : TextRuntime}

namespace ReviewState

/-- The row of a review, for the tenant it was added for. -/
def rowOf (s : ReviewState rt) (reviewId tenantId : String) : Option ReviewRow :=
  (s.rows.get? reviewId).filter (·.tenantId = tenantId)

/-- The copy in memory. -/
def copyOf (s : ReviewState rt) (reviewId tenantId : String) : Option JsonDict :=
  (((s.pendingReviews.get? tenantId).getD Dict.empty).get? reviewId).filter (!·.items.isEmpty)

def setRow (s : ReviewState rt) (reviewId : String) (row : ReviewRow) : ReviewState rt :=
  { s with rows := s.rows.set reviewId row }

def setCopy (s : ReviewState rt) (reviewId tenantId : String) (review : JsonDict) :
    ReviewState rt :=
  { s with
    pendingReviews := s.pendingReviews.set tenantId
      (((s.pendingReviews.get? tenantId).getD Dict.empty).set reviewId review) }

end ReviewState

/-! ## Adding and listing -/

/-- The record of a new review. -/
def newReview (reviewData : JsonDict) (reviewId createdAt tenantId : String) : JsonDict :=
  (((reviewData.set "review_id" (.str reviewId)).set "status" (.str "pending")).set "created_at"
    (.str createdAt)).set "tenant_id" (.str tenantId)

/-- The row is inserted unless the id is taken. -/
def insertReview (s : ReviewState rt) (database : Bool) (reviewId tenantId : String)
    (review : JsonDict) : ReviewState rt :=
  if database ∧ (s.rows.get? reviewId).isNone then s.setRow reviewId ⟨tenantId, review, "pending"⟩
  else s

def addPendingReview (host : ReviewHost) (s : ReviewState rt) (database : Bool)
    (reviewData : JsonDict) (reviewId createdAt : String) (tenant : Option String) :
    Except String String × ReviewState rt :=
  let tenantId := tenantOf host tenant
  let ensured := ensureTenant host.configs s.tenants tenantId
  match ensured.1 with
  | .error e => (.error e, { s with tenants := ensured.2 })
  | .ok _ =>
      let review := newReview reviewData reviewId createdAt tenantId
      let copied := { s with tenants := ensured.2 }.setCopy reviewId tenantId review
      (.ok reviewId, insertReview copied database reviewId tenantId review)

def isPending (review : JsonDict) : Bool := isText "pending" (review.get "status")

def pendingCopies (s : ReviewState rt) (tenantId : String) : List JsonDict :=
  ((s.pendingReviews.get? tenantId).getD Dict.empty).values.filter isPending

def pendingRows (s : ReviewState rt) (tenantId : String) : List ReviewRow :=
  s.rows.values.filter fun row => row.tenantId = tenantId ∧ row.status = "pending"

/-- Rows that cannot be loaded count as a database that does not answer. -/
def getPendingReviews (host : ReviewHost) (s : ReviewState rt) (database : Bool)
    (tenant : Option String) : List JsonDict :=
  let tenantId := tenantOf host tenant
  if database then
    match (pendingRows s tenantId).mapM fun row => host.column.load row.data with
    | .ok reviews => reviews
    | .error _ => pendingCopies s tenantId
  else pendingCopies s tenantId

def getReview (host : ReviewHost) (s : ReviewState rt) (database : Bool) (reviewId : String)
    (tenant : Option String) : Option JsonDict :=
  let tenantId := tenantOf host tenant
  if database then
    match s.rowOf reviewId tenantId with
    | none => none
    | some row =>
        match host.column.load row.data with
        | .ok review => some review
        | .error _ => s.copyOf reviewId tenantId
  else s.copyOf reviewId tenantId

/-! ## Resolving -/

/-- What an administrator decided. -/
structure Resolution where
  decision : String
  notes : Json
  resolvedAt : String

def Resolution.apply (resolution : Resolution) (review : JsonDict) : JsonDict :=
  (((review.set "status" (.str "resolved")).set "admin_decision" (.str resolution.decision)).set
    "admin_notes" resolution.notes).set "resolved_at" (.str resolution.resolvedAt)

/-- The update of the row asks for the review id alone. -/
def resolveRow (s : ReviewState rt) (reviewId : String) (row : ReviewRow) (review : JsonDict)
    (resolution : Resolution) : ReviewState rt :=
  s.setRow reviewId { row with data := resolution.apply review, status := "resolved" }

def resolveCopy (s : ReviewState rt) (reviewId tenantId : String) (resolution : Resolution) :
    Bool × ReviewState rt :=
  match s.copyOf reviewId tenantId with
  | none => (false, s)
  | some review => (true, s.setCopy reviewId tenantId (resolution.apply review))

def resolveStored (host : ReviewHost) (s : ReviewState rt) (database : Bool)
    (reviewId tenantId : String) (resolution : Resolution) : Bool × ReviewState rt :=
  if database then
    match s.rowOf reviewId tenantId with
    | none => (false, s)
    | some row =>
        match host.column.load row.data with
        | .ok review => (true, resolveRow s reviewId row review resolution)
        | .error _ => resolveCopy s reviewId tenantId resolution
  else resolveCopy s reviewId tenantId resolution

def resolveReview (host : ReviewHost) (s : ReviewState rt) (database : Bool) (reviewId : String)
    (resolution : Resolution) (tenant : Option String) : Except String Bool × ReviewState rt :=
  let tenantId := tenantOf host tenant
  let ensured := ensureTenant host.configs s.tenants tenantId
  match ensured.1 with
  | .error e => (.error e, { s with tenants := ensured.2 })
  | .ok _ =>
      let resolved := resolveStored host { s with tenants := ensured.2 } database reviewId tenantId
        resolution
      (.ok resolved.1, resolved.2)

/-! ## Executing -/

structure ReviewOutcome where
  status : String
  reviewId : Option String := none
  action : Json := .null
  error : Option String := none
  message : Option String := none
  telegramResponse : Option Json := none

/-- What one execution meets outside the service. -/
structure ExecutionWeather where
  database : Bool
  tokenDatabase : Bool
  http : Nat → HttpReply
  loads : String → Option Json
  now : ℚ

/-- Chat, user and message, each from the first place that has it. -/
def reviewTarget (review : JsonDict) : Except PyError (Json × Json × Json) := do
  let originalMessage := JsonDict.orElse (review.get "original_message") (.obj [])
  let telegramRefs := JsonDict.orElse (review.get "telegram_refs") (.obj [])
  let userInfo := JsonDict.orElse (review.get "user_info") (.obj [])
  let chatInfo := JsonDict.orElse (review.get "chat_info") (.obj [])
  let userId ← firstOf [nested originalMessage "from", member telegramRefs "sender_id" .null,
    member userInfo "id" .null]
  let chatId ← firstOf [nested originalMessage "chat", member telegramRefs "chat_id" .null,
    member chatInfo "id" .null]
  let messageId ← firstOf [member originalMessage "message_id" .null,
    member telegramRefs "message_id" .null]
  return (chatId, userId, messageId)
where
  nested (message : Json) (key : String) : Except PyError Json := do
    let inner ← member message key (.obj [])
    member inner "id" .null
  /-- `a or b or ..`: what follows a truthy value is not looked at. -/
  firstOf : List (Except PyError Json) → Except PyError Json
    | [] => .ok .null
    | [last] => last
    | value :: rest => do
        let found ← value
        if PyValue.truthy found then return found
        firstOf rest

/-- The reference that the decision needs and the review lacks. -/
def missingReference (decision : String) (chatId userId messageId : Json) : Option String :=
  let has := PyValue.truthy
  if decision ∈ ["ban", "kick"] ∧ (!has chatId || !has userId) then
    some "missing_chat_or_user_reference"
  else if decision = "warn" ∧ !has chatId then some "missing_chat_reference"
  else if decision = "delete" ∧ (!has chatId || !has messageId) then
    some "missing_chat_or_message_reference"
  else none

def decisionRequest (decision botToken : String) (now : ℚ) (chatId userId messageId : Json) :
    ApiRequest :=
  if decision = "ban" then
    ⟨botToken, "banChatMember", .obj [("chat_id", chatId), ("user_id", userId)]⟩
  else if decision = "kick" then
    ⟨botToken, "banChatMember", .obj [("chat_id", chatId), ("user_id", userId),
      ("until_date", .num (⌊now⌋ + 60))]⟩
  else if decision = "warn" then
    ⟨botToken, "sendMessage", .obj [("chat_id", chatId),
      ("text", .str ("⚠️ Warning: Your message violated group rules. " ++
        "Further violations may result in a ban.")),
      ("reply_to_message_id", messageId)]⟩
  else ⟨botToken, "deleteMessage", .obj [("chat_id", chatId), ("message_id", messageId)]⟩

def postOutcome (weather : ExecutionWeather) (reviewId decision : String) :
    Except String (Nat × String) → ReviewOutcome
  | .error _ =>
      { status := "failed", reviewId := some reviewId, action := .str decision
        error := some "admin_action_execution_failed" }
  | .ok (statusCode, text) =>
      if statusCode ≠ 200 then
        { status := "failed", reviewId := some reviewId, action := .str decision
          error := some ("Telegram API error: " ++ text) }
      else
        match weather.loads text with
        | none =>
            { status := "failed", reviewId := some reviewId, action := .str decision
              error := some "admin_action_execution_failed" }
        | some response =>
            { status := "executed", reviewId := some reviewId, action := .str decision
              telegramResponse := some response
              message := some ("Admin decision " ++ decision ++ " executed successfully") }

/-- The request for a resolved review, or the outcome without one. -/
def prepareExecution (botToken : Option String) (weather : ExecutionWeather) (reviewId : String)
    (review : JsonDict) : Except PyError (Sum ReviewOutcome (String × ApiRequest)) := do
  if !isText "resolved" (review.get "status") then
    return .inl { status := "failed", error := some "Review not yet resolved by admin" }
  let adminDecision := review.get "admin_decision"
  if isText "allow" adminDecision then
    return .inl { status := "skipped", reviewId := some reviewId, action := adminDecision
                  message := some "No Telegram action required for decision: allow" }
  let known ← memberOf ["ban", "kick", "warn", "delete"] adminDecision
  let .str decision := adminDecision
    | return .inl { status := "failed", reviewId := some reviewId, action := adminDecision
                    error := some "invalid_admin_decision" }
  if !known then
    return .inl { status := "failed", reviewId := some reviewId, action := adminDecision
                  error := some "invalid_admin_decision" }
  let (chatId, userId, messageId) ← reviewTarget review
  match missingReference decision chatId userId messageId, botToken with
  | some error, _ =>
      return .inl { status := "failed", reviewId := some reviewId, action := adminDecision
                    error := some error }
  | none, none =>
      return .inl { status := "failed", reviewId := some reviewId
                    error := some "Telegram bot token not configured" }
  | none, some token =>
      return .inr (decision, decisionRequest decision token weather.now chatId userId messageId)

/-- The review that is executed: the row, or the copy where there is no row to be had. -/
def reviewToExecute (host : ReviewHost) (s : ReviewState rt) (database : Bool)
    (reviewId tenantId : String) : Except PyError (Option JsonDict) :=
  match (if database then s.rowOf reviewId tenantId else none) with
  | some row => (host.column.load row.data).map some
  | none => .ok (s.copyOf reviewId tenantId)

def executionToken (host : ReviewHost) (s : ReviewState rt) (tokenDatabase : Bool)
    (tenantId : String) : Option String :=
  (resolveTokenSync host.tokens (if tokenDatabase then some s.tokens else none) tenantId).filter
    (· ≠ "")

/-- What is posted and the outcome; nothing is stored. -/
def executeReviewDecision (host : ReviewHost) (s : ReviewState rt) (weather : ExecutionWeather)
    (reviewId : String) (tenant : Option String) :
    Except PyError (List ApiRequest × ReviewOutcome) := do
  let tenantId := tenantOf host tenant
  let found ← reviewToExecute host s weather.database reviewId tenantId
  let some review := found
    | return ([], { status := "failed", error := some "Review not found" })
  let prepared ← prepareExecution (executionToken host s weather.tokenDatabase tenantId) weather
    reviewId review
  match prepared with
  | .inl outcome => return ([], outcome)
  | .inr (decision, request) =>
      let (posts, reply) := postTelegramApi weather.http request 0 2
      return (posts, postOutcome weather reviewId decision reply)

end TruePresenceESE.Telegram
