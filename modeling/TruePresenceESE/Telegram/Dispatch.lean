import TruePresenceESE.Lib.Fallible
import TruePresenceESE.Telegram.EvidenceCard

/-! # Executing an action through the bot API

Only four actions reach the API, and only a ban or a kick removes a member. The
enforcement mode decides which of them can still be pending at dispatch.
-/

namespace TruePresenceESE.Telegram

open PyValue

/-! ## Requests -/

def telegramApiBase : String := "https://api.telegram.org/bot"

structure ApiRequest where
  botToken : String
  method : String
  payload : Json

def ApiRequest.url (request : ApiRequest) : String :=
  telegramApiBase ++ request.botToken ++ "/" ++ request.method

/-- `mapping.get(key, default)` on a value that may be no mapping. -/
def member (value : Json) (key : String) (default : Json) : Except PyError Json :=
  match value with
  | .obj fields => .ok (((Json.obj fields).get? key).getD default)
  | _ => .error .attributeError

/-- Chat, user and message id of the update's message. -/
def messageIds (update : Json) : Except PyError (Json × Json × Json) := do
  let original ← member update "message" .null
  let message ← if PyValue.truthy original then pure original
    else member update "edited_message" (.obj [])
  let chat ← member message "chat" (.obj [])
  let chatId ← member chat "id" .null
  let sender ← member message "from" (.obj [])
  let userId ← member sender "id" .null
  let messageId ← member message "message_id" .null
  return (chatId, userId, messageId)

def dispatchedActions : List String := ["ban", "kick", "warn", "challenge"]

def apiRequest (rt : BotRuntime) (botToken actionType : String) (chatId userId messageId : Json) :
    ApiRequest :=
  let reply text := Json.obj [("chat_id", chatId), ("text", .str text),
    ("reply_to_message_id", messageId)]
  if actionType = "ban" then
    ⟨botToken, "banChatMember", .obj [("chat_id", chatId), ("user_id", userId)]⟩
  else if actionType = "kick" then
    ⟨botToken, "banChatMember", .obj [("chat_id", chatId), ("user_id", userId),
      ("until_date", .num (⌊rt.now⌋ + 60))]⟩
  else if actionType = "warn" then
    ⟨botToken, "sendMessage", reply "⚠️ Warning: Your message violated group rules."⟩
  else
    ⟨botToken, "sendMessage",
      reply "🛡️ Verification Required: Please complete the challenge to continue posting."⟩

/-- What is posted for one call, attempt by attempt, and how the call ends. A
server error or a transient one is tried again while retries are left. -/
def postTelegramApi (http : Nat → HttpReply) (request : ApiRequest) (attempt : Nat) :
    Nat → List ApiRequest × Except String (Nat × String)
  | 0 =>
      ([request], match http attempt with
        | .response statusCode text => .ok (statusCode, text)
        | .transient error => .error error
        | .failure error => .error error)
  | retries + 1 =>
      let again := postTelegramApi http request (attempt + 1) retries
      match http attempt with
      | .response statusCode text =>
          if 500 ≤ statusCode then (request :: again.1, again.2)
          else ([request], .ok (statusCode, text))
      | .transient _ => (request :: again.1, again.2)
      | .failure error => ([request], .error error)

/-! ## Execution -/

structure ExecutionOutcome where
  status : String
  action : Option String := none
  error : Option String := none
  responseCode : Option Nat := none
  responseText : Option String := none
  intendedAction : Option String := none
  suppressedAction : Option String := none
  suppressionReason : Option String := none
  enforcementMode : Option String := none
  timestamp : Option String := none
  evidencePacketId : Option String := none
  decisionId : Option String := none

/-- The outcome with the metadata every executed or skipped action carries. -/
def annotate (rt : BotRuntime) (action : ActionRecord) (decision : Decision)
    (outcome : ExecutionOutcome) : ExecutionOutcome :=
  { outcome with
    action := some action.action
    intendedAction := action.intendedAction
    suppressedAction := action.suppressedAction
    suppressionReason := action.suppressionReason
    enforcementMode := action.enforcementMode
    timestamp := some rt.utcNowIso
    evidencePacketId := some decision.packetId
    decisionId := some decision.decisionId }

/-- What is posted and the outcome. Whatever raises does so before posting. -/
def executeAction (rt : BotRuntime) (action : ActionRecord) (update : Json) (tenantId : String)
    (decision : Decision) : Except PyError (List ApiRequest × ExecutionOutcome) :=
  if action.action = "allow" then
    .ok ([], annotate rt action decision { status := "not_required" })
  else if action.action ∉ dispatchedActions then
    .ok ([], annotate rt action decision { status := "skipped" })
  else
    match (rt.resolveToken tenantId).filter (· ≠ "") with
    | none =>
        .ok ([], { status := "failed", error := some "Telegram bot token not configured" })
    | some botToken => do
        let (chatId, userId, messageId) ← messageIds update
        if !PyValue.truthy chatId || !PyValue.truthy userId then
          return ([], { status := "failed", error := some "Missing chat or user ID in update" })
        let request := apiRequest rt botToken action.action chatId userId messageId
        let (posts, response) := postTelegramApi rt.http request 0 2
        match response with
        | .ok (statusCode, text) =>
            let success := statusCode = 200
            return (posts, annotate rt action decision
              { status := if success then "success" else "failed"
                responseCode := some statusCode
                responseText := some (if success then "OK" else text) })
        | .error error => return (posts, { status := "error", error := some error })

/-- `TelegramGuardAdapter.enforce`: no user id is passed on. -/
def enforce (rt : BotRuntime) (bans : BanActions) (decision : Decision) : TelegramAction :=
  (buildResponse rt.py bans rt.now
    { state := some decision.state
      decision := some decision.recommendedEnforcement
      confidence := some decision.confidence
      humanProbability := some decision.humanProbability
      threatCategories := some decision.reasonCodes
      reasonCodes := some decision.reasonCodes
      riskFactors := some decision.reasonCodes
      blockReason := none }
    (some decision.tenantId) none).1

structure Processed where
  action : ActionRecord
  posts : List ApiRequest
  execution : ExecutionOutcome

/-- The safety card, else one built for the community context. -/
def evidenceCardFor (rt : BotRuntime) (event : Json) (action : ActionRecord)
    (decision : Decision) : Except PyError Json :=
  match action.safetyEvidenceCard.filter PyValue.truthy with
  | some card => .ok card
  | none => buildTelegramCommunityEvidenceCard rt event action decision

/-- `process_update` from the parsed event and its decision on. An update
without an event is not processed. -/
def processUpdate (rt : BotRuntime) (bans : BanActions) (update : Json) (event : Option Json)
    (tenantId : String) (decision : Decision) : Except PyError (Option Processed) := do
  let some event := event | return none
  let escalated ← applyTelegramSafetyEscalation rt (modelDump (enforce rt bans decision)) event
  let upgraded ← applyTelegramCommunityRecommendation rt escalated event
  let action := applyEnforcementMode (enforcementModeForTenant rt tenantId) upgraded
  let card ← evidenceCardFor rt event action decision
  let (posts, execution) ← executeAction rt action update tenantId decision
  return some ⟨{ action with evidenceCard := some card }, posts, execution⟩

/-- What `_execute_action` posts while an update is processed. -/
def postsOf : Except PyError (Option Processed) → List ApiRequest
  | .ok (some processed) => processed.posts
  | _ => []

/-! ## What reaches the API -/

theorem posts_eq_request {http : Nat → HttpReply} {request : ApiRequest} {attempt retries : Nat} :
    ∀ r ∈ (postTelegramApi http request attempt retries).1, r = request := by
  induction retries generalizing attempt with
  | zero => simp [postTelegramApi]
  | succ retries ih =>
      unfold postTelegramApi
      cases http attempt with
      | response statusCode text =>
          by_cases hserver : 500 ≤ statusCode
          · simpa [hserver] using ih
          · simp [hserver]
      | transient error => simpa using ih
      | failure error => simp

theorem apiRequest_ban {rt : BotRuntime} {botToken actionType : String}
    {chatId userId messageId : Json}
    (h : (apiRequest rt botToken actionType chatId userId messageId).method = "banChatMember") :
    actionType ∈ ["ban", "kick"] := by
  unfold apiRequest at h
  split at h
  · simp [*]
  · split at h
    · simp [*]
    · split at h <;> simp at h

section
variable {rt : BotRuntime} {action : ActionRecord} {update : Json} {tenantId : String}
  {decision : Decision}

theorem executeAction_posts {posts : List ApiRequest} {outcome : ExecutionOutcome}
    (h : executeAction rt action update tenantId decision = .ok (posts, outcome)) :
    (posts ≠ [] → action.action ∈ dispatchedActions) ∧
      ∀ r ∈ posts, r.method = "banChatMember" → action.action ∈ ["ban", "kick"] := by
  unfold executeAction at h
  split at h
  · cases h
    simp
  split at h
  · cases h
    simp
  rename_i hdispatched
  refine ⟨fun _ => not_not.mp hdispatched, fun r hr hban => ?_⟩
  split at h
  · cases h
    simp at hr
  obtain ⟨⟨chatId, userId, messageId⟩, hids, hrest⟩ := Fallible.bind_eq_ok_iff.mp h
  dsimp only at hrest
  split at hrest
  · cases hrest
    simp at hr
  generalize hrequest : apiRequest rt _ action.action chatId userId messageId = request at hrest
  have hposts : r ∈ (postTelegramApi rt.http request 0 2).1 := by
    cases hresponse : (postTelegramApi rt.http request 0 2).2 with
    | ok response =>
        simp only [hresponse] at hrest
        cases hrest
        exact hr
    | error error =>
        simp only [hresponse] at hrest
        cases hrest
        exact hr
  rw [posts_eq_request r hposts, ← hrequest] at hban
  exact apiRequest_ban hban

theorem safetyReviewActions_not_dispatched :
    ∀ name ∈ safetyReviewActions, name ∉ dispatchedActions := by
  decide

theorem removing_dispatched {name : String} (h : name ∈ ["ban", "kick"]) :
    name ∈ dispatchedActions := by
  simp only [List.mem_cons, List.not_mem_nil, or_false] at h
  rcases h with rfl | rfl <;> simp [dispatchedActions]

/-- Outside the enforcing mode no action that removes a member is left. -/
theorem applyEnforcementMode_not_removing {mode : String}
    (hmode : mode ∈ allowedEnforcementModes) (h : mode ≠ "enforce") :
    (applyEnforcementMode mode action).action ∉ ["ban", "kick"] := by
  unfold applyEnforcementMode
  by_cases hsafety : action.safetyEscalation ∧ action.action ∈ safetyReviewActions
  · rw [if_pos hsafety]
    exact fun hremoves => safetyReviewActions_not_dispatched _ hsafety.2
      (removing_dispatched hremoves)
  rw [if_neg hsafety, if_neg h]
  by_cases hallow : action.action = "allow"
  · simp [hallow]
  rw [if_neg hallow]
  by_cases hblocking : action.action ∈ ["ban", "kick", "block"]
  · simp only [allowedEnforcementModes, List.mem_cons, List.not_mem_nil, or_false] at hmode
    rcases hmode with rfl | rfl | rfl | rfl
    · simp [suppress]
    · simp [suppress, hblocking]
    · simp [suppress, hblocking]
    · exact (h rfl).elim
  · simp only [hblocking, and_false, if_false]
    split
    · simp [suppress]
    · simp_all

theorem applyEnforcementMode_observe :
    (applyEnforcementMode "observe" action).action ∉ dispatchedActions := by
  unfold applyEnforcementMode
  by_cases hsafety : action.safetyEscalation ∧ action.action ∈ safetyReviewActions
  · rw [if_pos hsafety]
    exact safetyReviewActions_not_dispatched _ hsafety.2
  · rw [if_neg hsafety]
    by_cases hallow : action.action = "allow"
    · simp [hallow, dispatchedActions]
    · simp [hallow, suppress, dispatchedActions]

theorem processUpdate_executes {bans : BanActions} {event : Option Json} {processed : Processed}
    (h : processUpdate rt bans update event tenantId decision = .ok (some processed)) :
    ∃ upgraded, executeAction rt
      (applyEnforcementMode (enforcementModeForTenant rt tenantId) upgraded) update tenantId
        decision = .ok (processed.posts, processed.execution) := by
  unfold processUpdate at h
  cases event with
  | none => cases h
  | some event =>
      obtain ⟨escalated, -, h⟩ := Fallible.bind_eq_ok_iff.mp h
      obtain ⟨upgraded, -, h⟩ := Fallible.bind_eq_ok_iff.mp h
      obtain ⟨card, -, h⟩ := Fallible.bind_eq_ok_iff.mp h
      obtain ⟨⟨posts, execution⟩, hexecute, h⟩ := Fallible.bind_eq_ok_iff.mp h
      cases h
      exact ⟨upgraded, hexecute⟩

/-- A request that is posted was dispatched for an action the mode let through. -/
theorem mem_postsOf {bans : BanActions} {event : Option Json} {r : ApiRequest}
    (h : r ∈ postsOf (processUpdate rt bans update event tenantId decision)) :
    ∃ upgraded outcome, executeAction rt
      (applyEnforcementMode (enforcementModeForTenant rt tenantId) upgraded) update tenantId
        decision =
        .ok (postsOf (processUpdate rt bans update event tenantId decision), outcome) := by
  cases hrun : processUpdate rt bans update event tenantId decision with
  | error e => simp [hrun, postsOf] at h
  | ok result =>
      cases result with
      | none => simp [hrun, postsOf] at h
      | some processed =>
          obtain ⟨upgraded, hexecute⟩ := processUpdate_executes hrun
          exact ⟨upgraded, processed.execution, hexecute⟩

end

/-- The enforcement mode bounds what processing an update can post. -/
theorem enforcementMode_gates_posts (rt : BotRuntime) (bans : BanActions) (update : Json)
    (event : Option Json) (tenantId : String) (decision : Decision) :
    let mode := enforcementModeForTenant rt tenantId
    let posts := postsOf (processUpdate rt bans update event tenantId decision)
    ((∃ r ∈ posts, r.method = "banChatMember") → mode = "enforce") ∧
      (mode = "observe" → posts = []) ∧
      (mode ∈ ["challenge_only", "review_required"] →
        ∀ r ∈ posts, r.method ≠ "banChatMember") := by
  intro mode posts
  have hgated : mode ≠ "enforce" → ∀ r ∈ posts, r.method ≠ "banChatMember" := by
    intro hmode r hr hban
    obtain ⟨upgraded, outcome, hexecute⟩ := mem_postsOf hr
    exact applyEnforcementMode_not_removing (enforcementModeForTenant_mem rt tenantId) hmode
      ((executeAction_posts hexecute).2 r hr hban)
  refine ⟨?_, ?_, ?_⟩
  · rintro ⟨r, hr, hban⟩
    by_contra hmode
    exact hgated hmode r hr hban
  · intro hmode
    refine List.eq_nil_iff_forall_not_mem.mpr fun r hr => ?_
    obtain ⟨upgraded, outcome, hexecute⟩ := mem_postsOf hr
    have hdispatched := (executeAction_posts hexecute).1 (List.ne_nil_of_mem hr)
    rw [show enforcementModeForTenant rt tenantId = "observe" from hmode] at hdispatched
    exact applyEnforcementMode_observe hdispatched
  · intro hmode
    refine hgated ?_
    intro heq
    simp [heq] at hmode

end TruePresenceESE.Telegram
