import TruePresenceESE.Api.ChallengeLoop
import TruePresenceESE.Api.RedTeam

/-! # The websocket endpoint

The endpoint registers its socket, welcomes the client and answers frame after frame.
Only a text that is no JSON, and a client that has gone, are caught; whatever else is
raised ends the loop and leaves the socket registered.
-/

namespace TruePresenceESE.Api

open PyValue JsonDict TruePresenceESE.Engine TruePresenceESE.Memory

/-! ## State and environment -/

structure SocketHost where
  /-- `json.loads`; a decode error is `none`. -/
  loads : String → Option Json
  /-- How a number is written to Redis. -/
  redisNumber : ℚ → String
  stableIndex : String → Nat → Nat

/-- What the sockets share. -/
structure SocketState where
  sessionEvents : Dict String (List JsonDict)
  sessionModes : Dict String Json
  challengeLastIssued : Dict String ℚ
  redisModes : Dict String String
  redisCooldowns : Dict String ℚ
  active : ActiveChallenges
  redTeam : RedTeam
  engine : Orchestrator

/-- One text frame, and what its handling meets outside. -/
structure Frame where
  text : String
  /-- The client is still there when the answer is sent. -/
  present : Bool
  redis : Bool
  engine : EngineHost
  receivedAt : ℚ
  answeredAt : ℚ
  issuedAt : ℚ
  challengeId : String
  validatorId : String

inductive SocketError where
  | raised (error : PyError)
  | redisDataError

/-- What a frame is answered with. -/
inductive FrameReply where
  | invalidJson
  | modeSet (mode : Json)
  | trustUpdate (result : DecisionResult)
      (rewardUpdate : Option (ℚ × Dict String (Option ℚ)))

/-- A mode that is set is not acknowledged. -/
def FrameReply.sends : FrameReply → Bool
  | .modeSet _ => false
  | _ => true

/-- The client has gone when the reply is sent. -/
def hangsUp (frame : Frame) (reply : FrameReply) : Bool := reply.sends && !frame.present

/-! ## Session modes -/

/-- What Redis takes for a value. -/
def redisValue (host : SocketHost) : Json → Except SocketError String
  | .str text => .ok text
  | .num q => .ok (host.redisNumber q)
  | _ => .error .redisDataError

def getSessionMode (s : SocketState) (redis : Bool) (sessionId : String) : Json :=
  match (if redis then s.redisModes.get? sessionId else none) with
  | some mode => .str mode
  | none => (s.sessionModes.get? sessionId).getD (.str "production")

def setSessionMode (host : SocketHost) (s : SocketState) (redis : Bool) (sessionId : String)
    (mode : Json) : Except SocketError Unit × SocketState :=
  let kept := { s with sessionModes := s.sessionModes.set sessionId mode }
  if redis then
    match redisValue host mode with
    | .error e => (.error e, kept)
    | .ok text => (.ok (), { kept with redisModes := kept.redisModes.set sessionId text })
  else (.ok (), kept)

/-! ## Challenges -/

def challengePrompts : List String :=
  ["Without pausing, type the last word you just read.",
    "Say the word 'orange' out loud, then type it.",
    "Type the third letter of what you see on screen.",
    "Immediately describe your environment in one sentence."]

def getChallengeLast (s : SocketState) (redis : Bool) (sessionId : String) : ℚ :=
  match (if redis then s.redisCooldowns.get? sessionId else none) with
  | some last => last
  | none => (s.challengeLastIssued.get? sessionId).getD 0

def setChallengeLast (s : SocketState) (redis : Bool) (sessionId : String) (now : ℚ) :
    SocketState :=
  let kept := { s with challengeLastIssued := s.challengeLastIssued.set sessionId now }
  if redis then { kept with redisCooldowns := kept.redisCooldowns.set sessionId now } else kept

/-- The challenge that goes out when the score is uncertain and the last one is long ago. -/
def injectChallenge (host : SocketHost) (s : SocketState) (sessionId : String) (frame : Frame)
    (score : ℚ) : Option Challenge × SocketState :=
  if 0.35 < score ∧ score < 0.75 ∧
      30 ≤ frame.answeredAt - getChallengeLast s frame.redis sessionId then
    let prompt := challengePrompts.getD (host.stableIndex sessionId challengePrompts.length) ""
    let cooled := setChallengeLast s frame.redis sessionId frame.answeredAt
    (some ⟨frame.challengeId, prompt, frame.answeredAt⟩,
      { cooled with
        active := cooled.active.set sessionId ⟨frame.validatorId, prompt, frame.issuedAt⟩ })
  else (none, s)

/-! ## One frame -/

/-- A challenge response becomes an event with the verdict. -/
def replaceResponse (s : SocketState) (sessionId : String) (frame : Frame) (event : JsonDict) :
    Except PyError (JsonDict × ActiveChallenges) :=
  if isText "challenge_response" (event.get "event_type") then
    (receiveResponse s.active frame.receivedAt sessionId event).map fun received =>
      (challengeResultEvent received.1, received.2)
  else .ok (event, s.active)

def storeEvent (s : SocketState) (sessionId : String) (event : JsonDict) : SocketState :=
  { s with
    sessionEvents := s.sessionEvents.set sessionId
      (SessionTimeline.takeLast 500 ((s.sessionEvents.get? sessionId).getD [] ++ [event])) }

def socketCall (sessionId : String) (sessionMode : Json) (event : JsonDict) : EvaluateCall where
  surface := .str "web_guard"
  sessionId := sessionId
  tenantId := .str "default"
  event := event
  session := ofFields [("session_id", .str sessionId), ("mode", sessionMode),
    ("tenant_id", .str "default")]

def isAttack (sessionMode : Json) (event : JsonDict) : Bool :=
  isText "test" sessionMode && PyValue.truthy (event.get "attack_type")

def evaluateEvent (s : SocketState) (sessionId : String) (sessionMode : Json) (frame : Frame)
    (event : JsonDict) : Except SocketError FrameReply × SocketState :=
  let stored := storeEvent s sessionId event
  let evaluated := Engine.evaluate frame.engine stored.engine (socketCall sessionId sessionMode event)
  let after := { stored with engine := evaluated.2 }
  match evaluated.1 with
  | .error e => (.error (.raised e), after)
  | .ok result =>
      if isAttack sessionMode event then
        let attacked := runAttack frame.engine.sqrt after.redTeam event
        let scored := { after with redTeam := attacked.2 }
        match attacked.1 with
        | .error e => (.error (.raised e), scored)
        | .ok reward =>
            (.ok (.trustUpdate result (some (reward, attacked.2.rewards.performance))), scored)
      else (.ok (.trustUpdate result none), after)

def receiveMode (host : SocketHost) (s : SocketState) (sessionId : String) (frame : Frame)
    (event : JsonDict) : Except SocketError FrameReply × SocketState :=
  match mappingOf (event.getOr "payload" (.obj [])) with
  | .error e => (.error (.raised e), s)
  | .ok payload =>
      let mode := payload.getOr "mode" (.str "production")
      let set := setSessionMode host s frame.redis sessionId mode
      (set.1.map fun _ => .modeSet mode, set.2)

def handleFrame (host : SocketHost) (s : SocketState) (sessionId : String) (sessionMode : Json)
    (frame : Frame) : Except SocketError FrameReply × SocketState :=
  match host.loads frame.text with
  | none => (.ok .invalidJson, s)
  | some value =>
      match mappingOf value with
      | .error e => (.error (.raised e), s)
      | .ok event =>
          if isText "set_mode" (event.get "event_type") then
            receiveMode host s sessionId frame event
          else
            match replaceResponse s sessionId frame event with
            | .error e => (.error (.raised e), s)
            | .ok (received, active) =>
                evaluateEvent { s with active := active } sessionId sessionMode frame received

/-! ## The loop -/

/-- What the loop goes on with, once a reply is out. -/
def afterReply (host : SocketHost) (s : SocketState) (sessionId : String) (sessionMode : Json)
    (frame : Frame) : FrameReply → Option Challenge × Json × SocketState
  | .invalidJson => (none, sessionMode, s)
  | .modeSet mode => (none, mode, s)
  | .trustUpdate result _ =>
      let injected := injectChallenge host s sessionId frame result.decision.humanProbability
      (injected.1, sessionMode, injected.2)

inductive LoopEnd where
  | disconnected
  | raised (error : SocketError)

structure LoopRun where
  ended : LoopEnd
  replies : List (FrameReply × Option Challenge)
  state : SocketState

/-- The client stays for its frames, or goes before one of them is answered. -/
def serveFrames (host : SocketHost) (sessionId : String) :
    Json → SocketState → List Frame → LoopRun
  | _, s, [] => ⟨.disconnected, [], s⟩
  | sessionMode, s, frame :: rest =>
      match handleFrame host s sessionId sessionMode frame with
      | (.error e, handled) => ⟨.raised e, [], handled⟩
      | (.ok reply, handled) =>
          if hangsUp frame reply then ⟨.disconnected, [], handled⟩
          else
            let next := afterReply host handled sessionId sessionMode frame reply
            let run := serveFrames host sessionId next.2.1 next.2.2 rest
            { run with replies := (reply, next.1) :: run.replies }

/-! ## The endpoint -/

abbrev Connections := Dict String (List Nat)

def socketsOf (connections : Connections) (sessionId : String) : List Nat :=
  (connections.get? sessionId).getD []

def register (connections : Connections) (sessionId : String) (socket : Nat) : Connections :=
  connections.set sessionId (socketsOf connections sessionId ++ [socket])

def unregister (connections : Connections) (sessionId : String) (socket : Nat) : Connections :=
  if (connections.get? sessionId).isSome then
    connections.set sessionId ((socketsOf connections sessionId).erase socket)
  else connections

structure Client where
  /-- The client is still there when it is welcomed. -/
  welcomed : Bool
  redis : Bool
  frames : List Frame

structure EndpointRun where
  ended : LoopEnd
  replies : List (FrameReply × Option Challenge)
  connections : Connections
  state : SocketState

/-- The welcome is outside the handler that unregisters the socket. -/
def websocketEndpoint (host : SocketHost) (connections : Connections) (s : SocketState)
    (sessionId : String) (socket : Nat) (client : Client) : EndpointRun :=
  let registered := register connections sessionId socket
  let sessionMode := getSessionMode s client.redis sessionId
  if client.welcomed then
    let run := serveFrames host sessionId sessionMode s client.frames
    match run.ended with
    | .disconnected =>
        ⟨.disconnected, run.replies, unregister registered sessionId socket, run.state⟩
    | .raised e => ⟨.raised e, run.replies, registered, run.state⟩
  else ⟨.disconnected, [], registered, s⟩

/-! ## Frames that are served -/

/-- A value that Redis takes. -/
def IsStorable : Json → Prop
  | .str _ => True
  | .num _ => True
  | _ => False

/-- The mode of a message that sets one can be kept. -/
def ModeServed (redis : Bool) (event : JsonDict) : Prop :=
  ∃ payload, event.getOr "payload" (.obj []) = .obj payload ∧
    (redis = true → IsStorable ((ofFields payload).getOr "mode" (.str "production")))

/-- The text of a response is one, or no challenge is active. -/
def ResponseServed (s : SocketState) (sessionId : String) (event : JsonDict) : Prop :=
  event.get "event_type" = .str "challenge_response" →
    ∃ payload, event.getOr "payload" (.obj []) = .obj payload ∧
      ((s.active.get? sessionId).isNone = true ∨
        ∃ text, (ofFields payload).getOr "text" (.str "") = .str text)

/-- The engine evaluates the event, and an attack in test mode can be scored. -/
def EventServed (s : SocketState) (sessionId : String) (sessionMode : Json) (frame : Frame)
    (event : JsonDict) : Prop :=
  (∃ result, (Engine.evaluate frame.engine s.engine (socketCall sessionId sessionMode event)).1 =
      .ok result) ∧
    (isAttack sessionMode event = true → AttackReadable s.redTeam.rolling event)

def FrameServed (host : SocketHost) (s : SocketState) (sessionId : String) (sessionMode : Json)
    (frame : Frame) : Prop :=
  ∀ value, host.loads frame.text = some value →
    ∃ fields, value = .obj fields ∧
      let event := ofFields fields
      if isText "set_mode" (event.get "event_type") then ModeServed frame.redis event
      else ResponseServed s sessionId event ∧
        ∀ received, replaceResponse s sessionId frame event = .ok received →
          EventServed s sessionId sessionMode frame received.1

section
variable {host : SocketHost} {s : SocketState} {sessionId : String} {sessionMode : Json}
  {frame : Frame} {event : JsonDict}

theorem mappingOf_isOk {value : Json} :
    (∃ fields, mappingOf value = .ok fields) ↔ ∃ fields, value = .obj fields := by
  cases value <;> simp [mappingOf]

theorem setSessionMode_isOk {redis : Bool} {mode : Json} :
    (∃ done, (setSessionMode host s redis sessionId mode).1 = .ok done) ↔
      (redis = true → IsStorable mode) := by
  cases redis with
  | false => simp [setSessionMode]
  | true => cases mode <;> simp [setSessionMode, redisValue, IsStorable]

theorem receiveMode_isOk :
    (∃ reply, (receiveMode host s sessionId frame event).1 = .ok reply) ↔
      ModeServed frame.redis event := by
  unfold receiveMode ModeServed
  cases event.getOr "payload" (.obj []) with
  | obj payload =>
      have hset := @setSessionMode_isOk host s sessionId frame.redis
        ((ofFields payload).getOr "mode" (.str "production"))
      simp only [mappingOf, Json.obj.injEq, exists_eq_left', ← hset]
      cases (setSessionMode host s frame.redis sessionId
        ((ofFields payload).getOr "mode" (.str "production"))).1 <;> simp [Except.map]
  | _ => simp [mappingOf]

theorem replaceResponse_isOk :
    (∃ received, replaceResponse s sessionId frame event = .ok received) ↔
      ResponseServed s sessionId event := by
  unfold replaceResponse ResponseServed
  by_cases htype : event.get "event_type" = .str "challenge_response"
  · rw [if_pos (isText_iff.mpr htype), forall_prop_of_true htype]
    have hmap : (∃ received, (receiveResponse s.active frame.receivedAt sessionId event).map
        (fun received => (challengeResultEvent received.1, received.2)) = .ok received) ↔
        ∃ verdict, receiveResponse s.active frame.receivedAt sessionId event = .ok verdict := by
      cases receiveResponse s.active frame.receivedAt sessionId event <;> simp [Except.map]
    rw [hmap]
    constructor
    · rintro ⟨verdict, h⟩
      obtain ⟨payload, hpayload, h⟩ := Fallible.bind_eq_ok_iff.mp h
      obtain ⟨fields, hfields⟩ := mappingOf_isOk.mp ⟨payload, hpayload⟩
      rw [hfields, mappingOf, Except.ok.injEq] at hpayload
      subst hpayload
      refine ⟨fields, hfields, ?_⟩
      split at h
      · rename_i text htext
        exact .inr ⟨text, htext⟩
      · split at h
        · rename_i hnone
          exact .inl hnone
        · cases h
    · rintro ⟨fields, hfields, htext⟩
      rw [receiveResponse, hfields]
      rcases htext with hnone | ⟨text, htext⟩
      · simp only [mappingOf, bind, Except.bind]
        split
        · exact ⟨_, rfl⟩
        · rw [if_pos hnone]
          exact ⟨_, rfl⟩
      · simp only [mappingOf, bind, Except.bind, htext]
        exact ⟨_, rfl⟩
  · rw [if_neg fun h => htype (isText_iff.mp h)]
    exact iff_of_true ⟨_, rfl⟩ fun h => absurd h htype

theorem evaluateEvent_isOk :
    (∃ reply, (evaluateEvent s sessionId sessionMode frame event).1 = .ok reply) ↔
      EventServed s sessionId sessionMode frame event := by
  unfold evaluateEvent EventServed
  rw [← @runAttack_isOk frame.engine.sqrt event s.redTeam]
  dsimp only [storeEvent]
  cases (Engine.evaluate frame.engine s.engine (socketCall sessionId sessionMode event)).1 with
  | error e => simp
  | ok result =>
      cases hattack : isAttack sessionMode event with
      | false => simp
      | true =>
          cases (runAttack frame.engine.sqrt s.redTeam event).1 <;> simp

theorem handleFrame_isOk :
    (∃ reply, (handleFrame host s sessionId sessionMode frame).1 = .ok reply) ↔
      FrameServed host s sessionId sessionMode frame := by
  unfold handleFrame FrameServed
  cases host.loads frame.text with
  | none => simp
  | some value =>
      cases value with
      | obj fields =>
          simp only [mappingOf, Option.some.injEq, forall_eq', Json.obj.injEq, exists_eq_left']
          split
          · exact receiveMode_isOk
          · rw [← @replaceResponse_isOk _ _ frame]
            cases hreceived : replaceResponse s sessionId frame (ofFields fields) with
            | error e => simp
            | ok received =>
                have hevaluated : (∃ reply, (evaluateEvent { s with active := received.2 }
                    sessionId sessionMode frame received.1).1 = .ok reply) ↔
                    EventServed s sessionId sessionMode frame received.1 := evaluateEvent_isOk
                simpa using hevaluated
      | _ => simp [mappingOf]

end

/-! ## Runs of the loop -/

/-- Every frame that the loop comes to is served, in the state in which it comes to it. -/
def FramesServed (host : SocketHost) (sessionId : String) :
    Json → SocketState → List Frame → Prop
  | _, _, [] => True
  | sessionMode, s, frame :: rest =>
      FrameServed host s sessionId sessionMode frame ∧
        ∀ reply handled, handleFrame host s sessionId sessionMode frame = (.ok reply, handled) →
          hangsUp frame reply = false →
            let next := afterReply host handled sessionId sessionMode frame reply
            FramesServed host sessionId next.2.1 next.2.2 rest

section
variable {host : SocketHost} {s : SocketState} {sessionId : String} {sessionMode : Json}
  {frames : List Frame} {connections : Connections} {socket other : Nat}

theorem serveFrames_ended_iff :
    (serveFrames host sessionId sessionMode s frames).ended = .disconnected ↔
      FramesServed host sessionId sessionMode s frames := by
  induction frames generalizing sessionMode s with
  | nil => exact iff_of_true rfl trivial
  | cons frame rest ih =>
      rw [serveFrames, FramesServed, ← handleFrame_isOk]
      cases hhandled : handleFrame host s sessionId sessionMode frame with
      | mk result handled =>
          cases result with
          | error e => simp
          | ok reply =>
              cases hgone : hangsUp frame reply with
              | true => simp [hgone]
              | false => simp [hgone, ih]

/-- Where the client stays, every frame gets its reply. -/
theorem serveFrames_replies (h : FramesServed host sessionId sessionMode s frames)
    (hpresent : ∀ frame ∈ frames, frame.present = true) :
    (serveFrames host sessionId sessionMode s frames).replies.length = frames.length := by
  induction frames generalizing sessionMode s with
  | nil => rfl
  | cons frame rest ih =>
      obtain ⟨hframe, hnext⟩ := h
      obtain ⟨here, hrest⟩ := List.forall_mem_cons.mp hpresent
      obtain ⟨reply, hreply⟩ := handleFrame_isOk.mpr hframe
      have hhandled : handleFrame host s sessionId sessionMode frame =
          (.ok reply, (handleFrame host s sessionId sessionMode frame).2) := by
        rw [← hreply]
      have hstays : hangsUp frame reply = false := by
        rw [hangsUp, here, Bool.not_true, Bool.and_false]
      rw [serveFrames, hhandled]
      dsimp only
      rw [if_neg (by simp [hstays]), List.length_cons, List.length_cons,
        ih (hnext reply _ hhandled hstays) hrest]

theorem socketsOf_register : socketsOf (register connections sessionId socket) sessionId =
    socketsOf connections sessionId ++ [socket] := by
  rw [socketsOf, register, Dict.get?_set_self, Option.getD_some]

/-- What is registered and unregistered leaves the others as they were. -/
theorem socketsOf_unregister (hnew : socket ∉ socketsOf connections sessionId) :
    socketsOf (unregister (register connections sessionId socket) sessionId socket) sessionId =
      socketsOf connections sessionId := by
  have hsome : ((register connections sessionId socket).get? sessionId).isSome = true := by
    rw [register, Dict.get?_set_self]
    rfl
  rw [unregister, if_pos hsome, socketsOf_register, socketsOf, Dict.get?_set_self,
    Option.getD_some, List.erase_append_right _ hnew]
  simp

/-- The client is served to the end, and nothing is left of the socket. -/
structure Survives (client : Client) (sessionId : String) (socket : Nat) (run : EndpointRun) :
    Prop where
  ended : run.ended = .disconnected
  answered : (∀ frame ∈ client.frames, frame.present = true) →
    run.replies.length = client.frames.length
  unregistered : socket ∉ socketsOf run.connections sessionId

end

def plainSocketHost : SocketHost where
  loads := fun text => if text = "[]" then some (.arr []) else none
  redisNumber := fun _ => ""
  stableIndex := fun _ _ => 0

def freshSockets : SocketState where
  sessionEvents := Dict.empty
  sessionModes := Dict.empty
  challengeLastIssued := Dict.empty
  redisModes := Dict.empty
  redisCooldowns := Dict.empty
  active := Dict.empty
  redTeam := ⟨Dict.empty, ⟨[], 0, 0, Dict.empty⟩⟩
  engine := ⟨Dict.empty, IdentityGraph.empty, none⟩

def listClient : Client where
  welcomed := true
  redis := false
  frames := [⟨"[]", true, false, plainEngine, 0, 0, 0, "c", "v"⟩]

end TruePresenceESE.Api
