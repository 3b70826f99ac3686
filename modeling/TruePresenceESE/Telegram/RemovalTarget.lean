import TruePresenceESE.Lib.JsonDict
import TruePresenceESE.Telegram.Escalation

/-! # Whom a removal hits

The adapter parses four kinds of update and takes user and chat from the one it finds.
Execution reads the update once more, and knows messages only.
-/

namespace TruePresenceESE.Telegram

open PyValue

/-! ## Parsing an update -/

/-- What the adapter derives from a message and its own windows, after validation. -/
structure MessageAnalysis where
  timestamp : Json
  features : Json
  signals : Json
  community : Json
  safety : Json
  threatAnalysis : Json

/-- The same for a change of membership. -/
structure MemberAnalysis where
  timestamp : Json
  features : Json
  signals : Json
  community : Json

/-- Windows, detectors and the event model's validation, which may each reject. -/
structure ParserHost where
  analyzeMessage : Json → Except PyError MessageAnalysis
  analyzeMember : Json → Except PyError MemberAnalysis

def messagePayload (message chat : Json) : Except PyError Json := do
  let messageId ← member message "message_id" .null
  let text ← member message "text" (.str "")
  let photo ← member message "photo" .null
  let video ← member message "video" .null
  let document ← member message "document" .null
  let replyTo ← member message "reply_to_message" .null
  let chatType ← member chat "type" .null
  return .obj [("message_id", messageId), ("text", JsonDict.orElse text (.str "")),
    ("has_attachments", .bool (PyValue.truthy photo || PyValue.truthy video ||
      PyValue.truthy document)),
    ("is_reply", .bool (!JsonDict.isNone replyTo)), ("chat_type", chatType)]

def parseMessage (host : ParserHost) (message : Json) : Except PyError Json := do
  let fromUser ← member message "from" (.obj [])
  let chat ← member message "chat" (.obj [])
  let payload ← messagePayload message chat
  let userId ← member fromUser "id" .null
  let username ← member fromUser "username" (.str "")
  let isBot ← member fromUser "is_bot" (.bool false)
  let groupId ← member chat "id" .null
  let analysis ← host.analyzeMessage message
  return .obj [("event_type", .str "message"), ("timestamp", analysis.timestamp),
    ("payload", payload), ("features", analysis.features), ("signals", analysis.signals),
    ("context", .obj [("platform", .str "telegram"), ("user_id", userId), ("username", username),
      ("is_bot", isBot), ("group_id", groupId), ("telegram_community", analysis.community),
      ("telegram_safety", analysis.safety)]),
    ("threat_analysis", analysis.threatAnalysis)]

/-- The status is looked up in a table, for which it has to be hashable. -/
def memberEventType : Json → Except PyError String
  | .str "member" => .ok "member_join"
  | .str "left_member" => .ok "member_leave"
  | .str "kicked" => .ok "member_banned"
  | .str "restricted" => .ok "member_restricted"
  | .arr _ => .error .typeError
  | .obj _ => .error .typeError
  | _ => .ok "member_update"

def parseChatMember (host : ParserHost) (chatMember : Json) : Except PyError Json := do
  let user ← member chatMember "user" (.obj [])
  let chat ← member chatMember "chat" (.obj [])
  let newMember ← member chatMember "new_chat_member" (.obj [])
  let newStatus ← member newMember "status" (.str "")
  let eventType ← memberEventType newStatus
  let oldMember ← member chatMember "old_chat_member" (.obj [])
  let oldStatus ← member oldMember "status" (.str "")
  let userId ← member user "id" .null
  let username ← member user "username" (.str "")
  let firstName ← member user "first_name" (.str "")
  let isBot ← member user "is_bot" (.bool false)
  let groupId ← member chat "id" .null
  let groupTitle ← member chat "title" (.str "")
  let analysis ← host.analyzeMember chatMember
  return .obj [("event_type", .str eventType), ("timestamp", analysis.timestamp),
    ("payload", .obj [("old_status", oldStatus), ("new_status", newStatus)]),
    ("features", analysis.features), ("signals", analysis.signals),
    ("context", .obj [("platform", .str "telegram"), ("user_id", userId), ("username", username),
      ("first_name", firstName), ("is_bot", isBot), ("group_id", groupId),
      ("group_title", groupTitle), ("telegram_community", analysis.community)]),
    ("threat_analysis", .obj [("threats_detected", .arr [])])]

/-- The first kind of update that is present. Every error is raised again as one error. -/
def parseUpdate (host : ParserHost) (update : Json) : Except PyError (Option Json) :=
  match update.get? "message" with
  | some message => (parseMessage host message).map some
  | none =>
      match update.get? "edited_message" with
      | some message => (parseMessage host message).map some
      | none =>
          match update.get? "chat_member" with
          | some chatMember => (parseChatMember host chatMember).map some
          | none =>
              match update.get? "my_chat_member" with
              | some chatMember => (parseChatMember host chatMember).map some
              | none => .ok none

/-! ## The two readers -/

/-- `event["context"].get(name)` -/
def eventContext (event : Json) (name : String) : Json :=
  ((event.get? "context").bind (·.get? name)).getD .null

/-- The kinds of update that the executing side reads. -/
def IsMessage (update : Json) : Prop :=
  (update.get? "message").isSome ∨ (update.get? "edited_message").isSome

/-- Something is posted, and all of it bans this user from this chat. -/
def Removes (posts : List ApiRequest) (chatId userId : Json) : Prop :=
  posts ≠ [] ∧ ∀ r ∈ posts, r.method = "banChatMember" ∧
    r.payload.get? "chat_id" = some chatId ∧ r.payload.get? "user_id" = some userId

section
variable {host : ParserHost} {update event message : Json}

theorem member_of_get? {value : Json} {key : String} (default : Json) {found : Json}
    (h : value.get? key = some found) : member value key default = .ok found := by
  cases value with
  | obj fields => rw [member, h]; rfl
  | _ => cases h

theorem member_obj_of_get?_none {fields : List (String × Json)} {key : String} {default : Json}
    (h : (Json.obj fields).get? key = none) : member (.obj fields) key default = .ok default := by
  rw [member, h]
  rfl

theorem member_isObj {value : Json} {key : String} {default found : Json}
    (h : member value key default = .ok found) : ∃ fields, value = .obj fields := by
  cases value with
  | obj fields => exact ⟨fields, rfl⟩
  | _ => cases h

/-- The ids of an event are those of its message. -/
theorem parseMessage_ids (h : parseMessage host message = .ok event) :
    ∃ sender chat, member message "from" (.obj []) = .ok sender ∧
      member message "chat" (.obj []) = .ok chat ∧
      member sender "id" .null = .ok (eventContext event "user_id") ∧
      member chat "id" .null = .ok (eventContext event "group_id") := by
  obtain ⟨sender, hsender, h⟩ := Fallible.bind_eq_ok_iff.mp h
  obtain ⟨chat, hchat, h⟩ := Fallible.bind_eq_ok_iff.mp h
  obtain ⟨payload, -, h⟩ := Fallible.bind_eq_ok_iff.mp h
  obtain ⟨userId, huser, h⟩ := Fallible.bind_eq_ok_iff.mp h
  obtain ⟨username, -, h⟩ := Fallible.bind_eq_ok_iff.mp h
  obtain ⟨isBot, -, h⟩ := Fallible.bind_eq_ok_iff.mp h
  obtain ⟨groupId, hgroup, h⟩ := Fallible.bind_eq_ok_iff.mp h
  obtain ⟨analysis, -, h⟩ := Fallible.bind_eq_ok_iff.mp h
  cases h
  exact ⟨sender, chat, hsender, hchat, huser, hgroup⟩

/-- The message of an event with a user is there for the executing side. -/
theorem truthy_of_user (h : parseMessage host message = .ok event)
    (huser : eventContext event "user_id" ≠ .null) : PyValue.truthy message = true := by
  obtain ⟨sender, chat, hsender, -, hid, -⟩ := parseMessage_ids h
  obtain ⟨fields, rfl⟩ := member_isObj hsender
  cases fields with
  | nil =>
      cases hsender
      exact absurd (Except.ok.inj hid).symm huser
  | cons field rest => rfl

theorem messageIds_of_message {original : Json} (h : parseMessage host message = .ok event)
    (horiginal : member update "message" .null = .ok original)
    (hread : if PyValue.truthy original then original = message
      else member update "edited_message" (.obj []) = .ok message) :
    ∃ messageId, messageIds update =
      .ok (eventContext event "group_id", eventContext event "user_id", messageId) := by
  obtain ⟨sender, chat, hsender, hchat, huser, hgroup⟩ := parseMessage_ids h
  obtain ⟨fields, rfl⟩ := member_isObj hsender
  refine ⟨((Json.obj fields).get? "message_id").getD .null, ?_⟩
  unfold messageIds
  rw [horiginal]
  split at hread
  · rename_i htruthy
    subst hread
    simp only [bind, Except.bind, pure, Except.pure, htruthy, if_true, hchat, hgroup, hsender,
      huser]
    rfl
  · rename_i hfalsy
    simp only [bind, Except.bind, pure, Except.pure, hfalsy, hread, hchat, hgroup, hsender,
      huser]
    rfl

/-- A message is read with the ids of its event. -/
theorem messageIds_isMessage (h : parseUpdate host update = .ok (some event))
    (hmessage : IsMessage update) (huser : eventContext event "user_id" ≠ .null) :
    ∃ messageId, messageIds update =
      .ok (eventContext event "group_id", eventContext event "user_id", messageId) := by
  unfold parseUpdate at h
  cases hfirst : update.get? "message" with
  | some message =>
      rw [hfirst] at h
      obtain ⟨parsed, hparsed, heq⟩ := Fallible.map_eq_ok_iff.mp h
      cases heq
      refine messageIds_of_message hparsed (member_of_get? _ hfirst) ?_
      rw [if_pos (truthy_of_user hparsed huser)]
  | none =>
      rw [hfirst] at h
      obtain ⟨message, hsecond⟩ := Option.isSome_iff_exists.mp
        (hmessage.resolve_left (by rw [hfirst]; simp))
      rw [hsecond] at h
      obtain ⟨parsed, hparsed, heq⟩ := Fallible.map_eq_ok_iff.mp h
      cases heq
      obtain ⟨fields, rfl⟩ := member_isObj (member_of_get? .null hsecond)
      refine messageIds_of_message hparsed (member_obj_of_get?_none hfirst) ?_
      exact member_of_get? _ hsecond

/-- Any other update is read without ids. -/
theorem messageIds_not_isMessage (h : parseUpdate host update = .ok (some event))
    (hmessage : ¬ IsMessage update) :
    ∃ messageId, messageIds update = .ok (.null, .null, messageId) := by
  simp only [IsMessage, not_or, Option.not_isSome_iff_eq_none] at hmessage
  cases update with
  | obj fields =>
      refine ⟨.null, ?_⟩
      unfold messageIds
      rw [member_obj_of_get?_none hmessage.1]
      simp only [bind, Except.bind, PyValue.truthy, member_obj_of_get?_none hmessage.2]
      rfl
  | _ => cases h

end

/-! ## The target -/

section
variable {rt : BotRuntime} {action : ActionRecord} {update : Json} {tenantId botToken : String}
  {chatId userId messageId : Json}

theorem postTelegramApi_ne_nil {http : Nat → HttpReply} {request : ApiRequest}
    {attempt retries : Nat} : (postTelegramApi http request attempt retries).1 ≠ [] := by
  cases retries with
  | zero => simp [postTelegramApi]
  | succ retries =>
      unfold postTelegramApi
      dsimp only
      split
      · split <;> simp
      · simp
      · simp

theorem apiRequest_removal (h : action.action ∈ removals) :
    let request := apiRequest rt botToken action.action chatId userId messageId
    request.method = "banChatMember" ∧ request.payload.get? "chat_id" = some chatId ∧
      request.payload.get? "user_id" = some userId := by
  simp only [removals, List.mem_cons, List.not_mem_nil, or_false] at h
  rcases h with h | h <;> rw [h] <;> exact ⟨rfl, rfl, rfl⟩

/-- A removal is posted, attempt after attempt, for the ids that were read. -/
theorem executeAction_removal (decision : Decision) (haction : action.action ∈ removals)
    (htoken : rt.resolveToken tenantId = some botToken) (hnonempty : botToken ≠ "")
    (hids : messageIds update = .ok (chatId, userId, messageId)) :
    ∃ posts outcome, executeAction rt action update tenantId decision = .ok (posts, outcome) ∧
      if PyValue.truthy chatId ∧ PyValue.truthy userId then Removes posts chatId userId
      else posts = [] := by
  have hdispatched : action.action ∈ dispatchedActions := removing_dispatched haction
  have hallow : action.action ≠ "allow" := (removals_not_reviewed haction).2
  have hfound : (rt.resolveToken tenantId).filter (· ≠ "") = some botToken := by
    rw [htoken]
    simp [hnonempty]
  unfold executeAction
  rw [if_neg hallow, if_neg (not_not.mpr hdispatched), hfound]
  simp only [hids, bind, Except.bind]
  by_cases htruthy : PyValue.truthy chatId ∧ PyValue.truthy userId
  · simp only [htruthy.1, htruthy.2, Bool.not_true, Bool.or_self, Bool.false_eq_true, if_false]
    have hremoves : Removes (postTelegramApi rt.http
        (apiRequest rt botToken action.action chatId userId messageId) 0 2).1 chatId userId := by
      refine ⟨postTelegramApi_ne_nil, fun r hr => ?_⟩
      rw [posts_eq_request r hr]
      exact apiRequest_removal haction
    split
    · exact ⟨_, _, rfl, by simpa using hremoves⟩
    · exact ⟨_, _, rfl, by simpa using hremoves⟩
  · have hmissing : (!PyValue.truthy chatId || !PyValue.truthy userId) = true := by
      rw [not_and_or] at htruthy
      simpa using htruthy
    simp only [hmissing, if_true, if_neg htruthy]
    exact ⟨_, _, rfl, rfl⟩

end

/-- The bot's ban or kick hits the user that was evaluated, in the chat that was
evaluated, exactly for messages and edited messages with ids that count as present. -/
theorem removal_hits_user_iff {host : ParserHost} {rt : BotRuntime} {update event : Json}
    {tenantId botToken : String} {action : ActionRecord} {decision : Decision}
    (hparse : parseUpdate host update = .ok (some event))
    (huser : eventContext event "user_id" ≠ .null)
    (htoken : rt.resolveToken tenantId = some botToken) (hnonempty : botToken ≠ "")
    (haction : action.action ∈ removals) :
    (∃ posts outcome, executeAction rt action update tenantId decision = .ok (posts, outcome) ∧
        Removes posts (eventContext event "group_id") (eventContext event "user_id")) ↔
      IsMessage update ∧ PyValue.truthy (eventContext event "group_id") ∧
        PyValue.truthy (eventContext event "user_id") := by
  by_cases hmessage : IsMessage update
  · obtain ⟨messageId, hids⟩ := messageIds_isMessage hparse hmessage huser
    obtain ⟨posts, outcome, hexecute, hposts⟩ :=
      executeAction_removal decision haction htoken hnonempty hids
    rw [hexecute]
    split at hposts
    · rename_i htruthy
      exact ⟨fun _ => ⟨hmessage, htruthy⟩, fun _ => ⟨posts, outcome, rfl, hposts⟩⟩
    · rename_i hfalsy
      refine ⟨?_, fun h => absurd h.2 hfalsy⟩
      rintro ⟨_, _, heq, hremoves⟩
      cases heq
      exact absurd hposts hremoves.1
  · obtain ⟨messageId, hids⟩ := messageIds_not_isMessage hparse hmessage
    obtain ⟨posts, outcome, hexecute, hposts⟩ :=
      executeAction_removal decision haction htoken hnonempty hids
    rw [hexecute, if_neg (by simp [PyValue.truthy])] at *
    refine ⟨?_, fun h => absurd h.1 hmessage⟩
    rintro ⟨_, _, heq, hremoves⟩
    cases heq
    exact absurd hposts hremoves.1

/-! ## A member who joins -/

def quietParser : ParserHost where
  analyzeMessage := fun _ => .ok ⟨.num 0, .obj [], .obj [], .obj [], .obj [], .obj []⟩
  analyzeMember := fun _ => .ok ⟨.num 0, .obj [], .obj [], .obj []⟩

def userAndChat : List (String × Json) :=
  [("from", .obj [("id", .num 5)]), ("user", .obj [("id", .num 5)]), ("chat", .obj [("id", .num 7)])]

def messageUpdate : Json := .obj [("message", .obj userAndChat)]

def memberUpdate : Json := .obj [("chat_member", .obj userAndChat)]

def undecided : Decision := ⟨"", "", "default", "EJECT", "eject", 99 / 100, 1 / 100, []⟩

theorem removal_hits_user_iff_message :
    ∃ event, parseUpdate quietParser messageUpdate = .ok (some event) ∧
      ((∃ posts outcome,
          executeAction enforcingRuntime (modelDump sampleBan) messageUpdate "default" undecided =
            .ok (posts, outcome) ∧
          Removes posts (eventContext event "group_id") (eventContext event "user_id")) ↔
        IsMessage messageUpdate ∧ PyValue.truthy (eventContext event "group_id") ∧
          PyValue.truthy (eventContext event "user_id")) :=
  ⟨_, rfl, removal_hits_user_iff (show parseUpdate quietParser messageUpdate = _ from rfl)
    (show Json.num 5 ≠ .null by simp) rfl (by decide) (by decide)⟩

/-- The ban of a member who joins is not posted at all. -/
theorem member_not_removed :
    ∃ event, parseUpdate quietParser memberUpdate = .ok (some event) ∧
      eventContext event "user_id" = .num 5 ∧ eventContext event "group_id" = .num 7 ∧
      rewriteAction enforcingRuntime "default" sampleBan event =
        .ok (applyEnforcementMode "enforce" (modelDump sampleBan)) ∧
      (applyEnforcementMode "enforce" (modelDump sampleBan)).action = "ban" ∧
      ∃ outcome, executeAction enforcingRuntime (applyEnforcementMode "enforce" (modelDump sampleBan))
        memberUpdate "default" undecided = .ok ([], outcome) :=
  ⟨_, rfl, rfl, rfl, rfl, rfl, _, rfl⟩

end TruePresenceESE.Telegram
