import TruePresenceESE.Telegram.AdapterUpdates
import TruePresenceESE.Telegram.CoreDetectors

/-! # Runs of the adapter

What an update does to the windows depends on the update and the moment alone. So a run
leaves the windows to which the events of all its updates lead, and a message is observed
against the windows of the events before it.
-/

namespace TruePresenceESE.Telegram

open AdapterWindows JsonDict PyValue Raising Window

structure Arrival where
  moment : Moment
  update : Json

section
variable {rt : TextRuntime} (host : AdapterHost rt)

/-- An update that cannot be parsed is dropped, what it wrote stays. -/
def receive (s : AdapterState) (a : Arrival) : AdapterState :=
  (outcome (TelegramAdapter.parseUpdate host a.moment a.update) s).2

def receiveAll (arrivals : List Arrival) : AdapterState :=
  arrivals.foldl (receive host) AdapterState.empty

/-- What an update that comes after a run is parsed to. -/
def eventAfter (arrivals : List Arrival) (a : Arrival) : Except PyError (Option Json) :=
  (outcome (TelegramAdapter.parseUpdate host a.moment a.update) (receiveAll host arrivals)).1

/-- What is observed in a message that comes after a run. -/
def observationAfter (arrivals : List Arrival) (moment : Moment) (message : Json) :
    Except PyError (Observation rt) :=
  (outcome (observeMessage host moment message) (receiveAll host arrivals)).1

/-! ## The events of an update -/

def velocityEvents (moment : Moment) (opening : Opening) : Except PyError (List Event) :=
  if opening.userId = "" then .ok []
  else (velocityTime host moment opening).map fun now => [.velocity opening.userId now]

/-- The events of a message whose velocity is recorded. -/
def placedEvents (message : Json) (opening : Opening) : List Event :=
  match readText opening.text, readPlacement host message opening with
  | .ok _, .ok p =>
      .message opening.userId p.chatId p.timestamp p.mediaPresent p.linkPresent ::
        match estimateAccountAge opening.fromUser with
        | .ok _ => [.media opening.userId p.chatId p.timestamp p.mediaPresent]
        | .error _ => []
  | _, _ => []

def messageEvents (moment : Moment) (message : Json) : List Event :=
  match readOpening host moment message with
  | .error _ => []
  | .ok opening =>
      match velocityEvents host moment opening with
      | .error _ => []
      | .ok velocity => velocity ++ placedEvents host message opening

def memberEvents (moment : Moment) (chatMember : Json) : List Event :=
  match readChatMember host moment chatMember with
  | .error _ => []
  | .ok reading =>
      (if reading.eventType = "member_join" then
        [.joined reading.userId reading.chatId reading.timestamp]
      else []) ++ [.member reading.chatId reading.timestamp]

def updateEvents (a : Arrival) : List Event :=
  match received a.update with
  | .message message => messageEvents host a.moment message
  | .chatMember chatMember => memberEvents host a.moment chatMember
  | .other => []

/-- The events of a run. -/
def journal (arrivals : List Arrival) : List Event := arrivals.flatMap (updateEvents host)

end

section
variable {rt : TextRuntime} {host : AdapterHost rt} {moment : Moment} {message chatMember : Json}
  {s : AdapterState} {o : Observation rt} {opening : Opening} {events : List Event}

theorem applyAll_append (w : AdapterWindows) (left right : List Event) :
    w.applyAll (left ++ right) = (w.applyAll left).applyAll right :=
  List.foldl_append

@[simp] theorem outcome_onWindows {α : Type} (f : AdapterWindows → α × AdapterWindows)
    (s : AdapterState) : outcome (onWindows f) s =
      (.ok (f s.windows).1, { s with windows := (f s.windows).2 }) :=
  rfl

/-! ## Each stage -/

theorem messageVelocity_error {e : PyError} (h : velocityEvents host moment opening = .error e) :
    outcome (messageVelocity host moment opening) s = (.error e, s) := by
  unfold velocityEvents at h
  unfold messageVelocity
  split at h
  · cases h
  · rename_i hid
    rw [if_neg hid]
    cases hnow : velocityTime host moment opening with
    | ok now => rw [hnow] at h; cases h
    | error e' =>
        rw [hnow] at h
        cases h
        rw [outcome_bind, outcome_attempt]

theorem messageVelocity_ok (s : AdapterState)
    (h : velocityEvents host moment opening = .ok events) :
    ∃ velocity, outcome (messageVelocity host moment opening) s =
      (.ok velocity, { s with windows := s.windows.applyAll events }) := by
  unfold velocityEvents at h
  unfold messageVelocity
  split at h
  · rename_i hid
    cases h
    rw [if_pos hid]
    exact ⟨0, rfl⟩
  · rename_i hid
    rw [if_neg hid]
    obtain ⟨now, hnow, rfl⟩ := Fallible.map_eq_ok_iff.mp h
    rw [outcome_bind, hnow, outcome_attempt]
    exact ⟨_, rfl⟩

theorem analyzeText_error {e : PyError} (h : readText opening.text = .error e) :
    outcome (analyzeText host opening) s = (.error e, s) := by
  rw [analyzeText, h, outcome_bind, outcome_attempt]

theorem analyzeText_ok {text : String} (host : AdapterHost rt) (s : AdapterState)
    (h : readText opening.text = .ok text) :
    ∃ analysis texts, outcome (analyzeText host opening) s =
      (.ok analysis, { s with recentTexts := texts }) := by
  rw [analyzeText, h, outcome_bind, outcome_attempt]
  exact ⟨_, _, rfl⟩

/-- The windows that a message leaves, whether or not it could be read to its end. -/
theorem windows_observeMessage :
    (outcome (observeMessage host moment message) s).2.windows =
      s.windows.applyAll (messageEvents host moment message) := by
  unfold observeMessage messageEvents
  rw [outcome_bind, outcome_attempt]
  cases hopening : readOpening host moment message with
  | error e => rfl
  | ok opening =>
      dsimp only
      rw [outcome_bind]
      cases hvelocity : velocityEvents host moment opening with
      | error e => rw [messageVelocity_error hvelocity]; rfl
      | ok velocity =>
          obtain ⟨count, hcount⟩ := messageVelocity_ok s hvelocity
          rw [hcount, applyAll_append]
          dsimp only
          rw [outcome_bind, placedEvents]
          cases htext : readText opening.text with
          | error e => rw [analyzeText_error htext]; rfl
          | ok text =>
              obtain ⟨analysis, texts, hanalysis⟩ := analyzeText_ok host
                { s with windows := s.windows.applyAll velocity } htext
              rw [hanalysis]
              dsimp only
              rw [outcome_bind, outcome_attempt]
              cases hplacement : readPlacement host message opening with
              | error e => rfl
              | ok p =>
                  dsimp only
                  rw [outcome_bind, outcome_onWindows]
                  dsimp only
                  rw [outcome_bind, outcome_attempt, buildCommunityFeaturesForMessage_snd]
                  cases hage : estimateAccountAge opening.fromUser with
                  | error e => rfl
                  | ok age =>
                      dsimp only
                      rw [outcome_bind, outcome_onWindows]
                      dsimp only
                      rw [outcome_attempt_bind_pure]
                      rfl

/-! ## Observations -/

/-- An observation, and the windows at the velocity, the features and the media of its
message. -/
structure ObservedAt (host : AdapterHost rt) (moment : Moment) (message : Json)
    (w : AdapterWindows) (o : Observation rt) (velocity : List Event) : Prop where
  opening : readOpening host moment message = .ok o.opening
  velocity_events : velocityEvents host moment o.opening = .ok velocity
  reported : o.opening.userId ≠ "" → ∃ now, velocityTime host moment o.opening = .ok now ∧
    o.messageVelocity = (w.calcMessageVelocity o.opening.userId now).1
  placement : readPlacement host message o.opening = .ok o.placement
  community : o.community = ((w.applyAll velocity).buildCommunityFeaturesForMessage host.sqrt
    o.opening.userId o.placement.chatId o.placement.timestamp o.placement.mediaPresent
    o.placement.linkPresent).1
  media : ((w.applyAll velocity).apply (.message o.opening.userId o.placement.chatId
      o.placement.timestamp o.placement.mediaPresent o.placement.linkPresent)).observeMedia
        o.opening.userId o.placement.chatId o.placement.timestamp o.placement.mediaPresent =
      (⟨o.safety.mediaCountWindow, o.safety.mediaBurstCount, o.safety.synchronizedMediaPeerCount⟩,
        w.applyAll (messageEvents host moment message))
  events : messageEvents host moment message = velocity ++
    [.message o.opening.userId o.placement.chatId o.placement.timestamp o.placement.mediaPresent
        o.placement.linkPresent,
      .media o.opening.userId o.placement.chatId o.placement.timestamp o.placement.mediaPresent]

theorem velocityEvents_of_ok {velocity : ℕ} {after : AdapterState}
    (h : outcome (messageVelocity host moment opening) s = (.ok velocity, after)) :
    ∃ events, velocityEvents host moment opening = .ok events ∧
      after = { s with windows := s.windows.applyAll events } ∧
      (opening.userId ≠ "" → ∃ now, velocityTime host moment opening = .ok now ∧
        velocity = (s.windows.calcMessageVelocity opening.userId now).1) := by
  cases hevents : velocityEvents host moment opening with
  | error e => rw [messageVelocity_error hevents] at h; cases h
  | ok events =>
      refine ⟨events, rfl, ?_, fun hid => ?_⟩
      · obtain ⟨count, hcount⟩ := messageVelocity_ok s hevents
        rw [hcount] at h
        cases h
        rfl
      · rw [messageVelocity, if_neg hid] at h
        obtain ⟨now, hnow, hrest⟩ := outcome_attempt_bind_eq_ok_iff.mp h
        cases hrest
        exact ⟨now, hnow, rfl⟩

theorem analyzeText_inv {analysis : TextAnalysis rt} {after : AdapterState}
    (h : outcome (analyzeText host opening) s = (.ok analysis, after)) :
    readText opening.text = .ok analysis.text ∧ after.windows = s.windows := by
  obtain ⟨text, htext, hrest⟩ := outcome_attempt_bind_eq_ok_iff.mp h
  cases hrest
  exact ⟨htext, rfl⟩

theorem observedAt_of_ok {arrivals : List Arrival}
    (h : observationAfter host arrivals moment message = .ok o) :
    ∃ velocity, ObservedAt host moment message (receiveAll host arrivals).windows o velocity := by
  obtain ⟨after, h⟩ : ∃ after, outcome (observeMessage host moment message)
      (receiveAll host arrivals) = (.ok o, after) := ⟨_, Prod.ext h rfl⟩
  obtain ⟨opening, hopening, h⟩ := outcome_attempt_bind_eq_ok_iff.mp h
  obtain ⟨count, _, hcount, h⟩ := outcome_bind_eq_ok_iff.mp h
  obtain ⟨velocity, hvelocity, rfl, hnow⟩ := velocityEvents_of_ok hcount
  obtain ⟨text, afterText, htext, h⟩ := outcome_bind_eq_ok_iff.mp h
  obtain ⟨hread, hwindows⟩ := analyzeText_inv htext
  obtain ⟨p, hplacement, h⟩ := outcome_attempt_bind_eq_ok_iff.mp h
  obtain ⟨community, _, hcommunity, h⟩ := outcome_bind_eq_ok_iff.mp h
  rw [outcome_onWindows, hwindows] at hcommunity
  cases hcommunity
  obtain ⟨age, hage, h⟩ := outcome_attempt_bind_eq_ok_iff.mp h
  obtain ⟨activity, _, hactivity, h⟩ := outcome_bind_eq_ok_iff.mp h
  rw [outcome_onWindows] at hactivity
  cases hactivity
  obtain ⟨safety, hsafety, h⟩ := outcome_attempt_bind_eq_ok_iff.mp h
  cases h
  have hevents : messageEvents host moment message = velocity ++
      [.message opening.userId p.chatId p.timestamp p.mediaPresent p.linkPresent,
        .media opening.userId p.chatId p.timestamp p.mediaPresent] := by
    rw [messageEvents, hopening]
    simp only [hvelocity, placedEvents, hread, hplacement, hage]
  refine ⟨velocity, hopening, hvelocity, hnow, hplacement, rfl, ?_, hevents⟩
  rw [hevents, applyAll_append]
  obtain ⟨chatId, -, hsafety⟩ := Fallible.bind_eq_ok_iff.mp hsafety
  obtain ⟨messageId, -, hsafety⟩ := Fallible.bind_eq_ok_iff.mp hsafety
  obtain ⟨senderId, -, hsafety⟩ := Fallible.bind_eq_ok_iff.mp hsafety
  obtain ⟨timestamp, -, hsafety⟩ := Fallible.bind_eq_ok_iff.mp hsafety
  cases hsafety
  rfl

/-! ## Runs -/

theorem windows_analyzeMessage :
    (outcome (analyzeMessage host moment message) s).2.windows =
      s.windows.applyAll (messageEvents host moment message) := by
  rw [← windows_observeMessage, analyzeMessage, outcome_bind]
  rcases outcome (observeMessage host moment message) s with ⟨result, after⟩
  cases result with
  | error e => rfl
  | ok o =>
      dsimp only
      rw [outcome_bind, outcome_attempt]
      cases providerSignalForMedia host o.safety with
      | error e => rfl
      | ok provider =>
          dsimp only
          rw [outcome_attempt_bind_pure]

theorem windows_analyzeMember :
    (outcome (analyzeMember host moment chatMember) s).2.windows =
      s.windows.applyAll (memberEvents host moment chatMember) := by
  unfold analyzeMember memberEvents
  rw [outcome_bind, outcome_attempt]
  cases hreading : readChatMember host moment chatMember with
  | error e => rfl
  | ok reading =>
      dsimp only
      rw [outcome_bind, outcome_onWindows]
      have hwindows : (observeMember reading s.windows).2 =
          s.windows.applyAll ((if reading.eventType = "member_join" then
            [.joined reading.userId reading.chatId reading.timestamp]
            else []) ++ [.member reading.chatId reading.timestamp]) := by
        rw [observeMember, applyAll_append]
        split <;> rfl
      rw [← hwindows]
      dsimp only
      rw [outcome_bind, outcome_attempt]
      cases member chatMember "old_chat_member" (.obj []) with
      | error e => rfl
      | ok oldMember =>
          dsimp only
          rw [outcome_bind, outcome_attempt]
          cases member oldMember "status" (.str "") with
          | error e => rfl
          | ok status =>
              dsimp only
              rw [outcome_bind, outcome_attempt]
              cases estimateAccountAge reading.user with
              | error e => rfl
              | ok age =>
                  dsimp only
                  rw [outcome_bind, outcome_attempt]
                  cases calcEntropy host ((reading.user.get? "username").getD (.str "")) with
                  | error e => rfl
                  | ok entropy =>
                      dsimp only
                      rw [outcome_attempt_bind_pure]

/-- Making the event of an analysis writes nothing. -/
theorem state_of_event {α : Type} (m : Raising AdapterState PyError α)
    (event : α → Except PyError Json) : (outcome (m >>= fun analysis =>
      attempt (event analysis) >>= fun event => pure (some event)) s).2 = (outcome m s).2 := by
  rw [outcome_bind]
  rcases outcome m s with ⟨result, after⟩
  cases result with
  | error e => rfl
  | ok analysis =>
      dsimp only
      rw [outcome_attempt_bind_pure]

theorem windows_receive (s : AdapterState) (a : Arrival) :
    (receive host s a).windows = s.windows.applyAll (updateEvents host a) := by
  unfold receive TelegramAdapter.parseUpdate updateEvents
  cases received a.update with
  | message message => rw [state_of_event, windows_analyzeMessage]
  | chatMember chatMember => rw [state_of_event, windows_analyzeMember]
  | other => rfl

theorem journal_append (left right : List Arrival) :
    journal host (left ++ right) = journal host left ++ journal host right :=
  List.flatMap_append

/-- The windows after a run are those after its events. -/
theorem windows_receiveAll (arrivals : List Arrival) :
    (receiveAll host arrivals).windows = AdapterWindows.empty.applyAll (journal host arrivals) := by
  induction arrivals using List.reverseRecOn with
  | nil => rfl
  | append_singleton arrivals a ih =>
      rw [receiveAll, List.foldl_append, List.foldl_cons, List.foldl_nil, windows_receive,
        journal_append, applyAll_append, ← ih]
      simp only [journal, List.flatMap_cons, List.flatMap_nil, List.append_nil]
      rfl

theorem velocityEvents_shape (h : velocityEvents host moment opening = .ok events) :
    ∀ e ∈ events, ∃ userId now, e = .velocity userId now := by
  unfold velocityEvents at h
  split at h
  · cases h
    simp
  · obtain ⟨now, -, rfl⟩ := Fallible.map_eq_ok_iff.mp h
    exact fun e he => ⟨_, _, List.mem_singleton.mp he⟩

theorem journal_append_singleton (arrivals : List Arrival) (a : Arrival) :
    journal host (arrivals ++ [a]) = journal host arrivals ++ updateEvents host a := by
  simp [journal]

/-- The events of a run up to a message, and those of the message. -/
theorem ObservedAt.journal {arrivals : List Arrival} {a : Arrival} {w : AdapterWindows}
    {velocity : List Event} (h : ObservedAt host a.moment message w o velocity)
    (hreceived : received a.update = .message message) :
    journal host (arrivals ++ [a]) = journal host arrivals ++ velocity ++
      [.message o.opening.userId o.placement.chatId o.placement.timestamp o.placement.mediaPresent
          o.placement.linkPresent,
        .media o.opening.userId o.placement.chatId o.placement.timestamp
          o.placement.mediaPresent] := by
  rw [journal_append_singleton, updateEvents, hreceived]
  simp only [h.events, List.append_assoc]

/-! ## What an event reports -/

def eventFeature (event : Json) (name : String) : Option Json :=
  (event.get? "features").bind (·.get? name)

/-- A feature among those in the community context. -/
def communityFeature (event : Json) (name : String) : Option Json :=
  ((eventContext event "telegram_community").get? "features").bind (·.get? name)

/-- The event of a message reports what was observed, and how a provider's answer is
assessed. -/
theorem observation_of_event {arrivals : List Arrival} {a : Arrival} {event : Json}
    (hreceived : received a.update = .message message)
    (h : eventAfter host arrivals a = .ok (some event)) :
    ∃ o provider, observationAfter host arrivals a.moment message = .ok o ∧
      providerSignalForMedia host o.safety = .ok provider ∧
      eventFeature event "message_velocity" = some (.num o.messageVelocity) ∧
      eventContext event "telegram_community" = communityOf o.community ∧
      eventContext event "telegram_safety" = safetyOf a.moment o provider := by
  obtain ⟨after, h⟩ : ∃ after, outcome (TelegramAdapter.parseUpdate host a.moment a.update)
      (receiveAll host arrivals) = (.ok (some event), after) := ⟨_, Prod.ext h rfl⟩
  unfold TelegramAdapter.parseUpdate at h
  rw [hreceived] at h
  obtain ⟨analysis, mid, hanalysis, h⟩ := outcome_bind_eq_ok_iff.mp h
  obtain ⟨parsed, hparsed, h⟩ := outcome_attempt_bind_eq_ok_iff.mp h
  cases h
  obtain ⟨o, observed, hobserved, hanalysis⟩ := outcome_bind_eq_ok_iff.mp hanalysis
  obtain ⟨provider, hprovider, hanalysis⟩ := outcome_attempt_bind_eq_ok_iff.mp hanalysis
  obtain ⟨timestamp, -, hanalysis⟩ := outcome_attempt_bind_eq_ok_iff.mp hanalysis
  cases hanalysis
  obtain ⟨sender, -, hparsed⟩ := Fallible.bind_eq_ok_iff.mp hparsed
  obtain ⟨chat, -, hparsed⟩ := Fallible.bind_eq_ok_iff.mp hparsed
  obtain ⟨payload, -, hparsed⟩ := Fallible.bind_eq_ok_iff.mp hparsed
  obtain ⟨userId, -, hparsed⟩ := Fallible.bind_eq_ok_iff.mp hparsed
  obtain ⟨username, -, hparsed⟩ := Fallible.bind_eq_ok_iff.mp hparsed
  obtain ⟨isBot, -, hparsed⟩ := Fallible.bind_eq_ok_iff.mp hparsed
  obtain ⟨groupId, -, hparsed⟩ := Fallible.bind_eq_ok_iff.mp hparsed
  cases hparsed
  exact ⟨o, provider, by rw [observationAfter, hobserved], hprovider, rfl, rfl, rfl⟩

/-- A value that is read from the event of an update shows that there is one. -/
theorem exists_event_of_read {α : Type} {arrivals : List Arrival} {a : Arrival}
    {read : Json → Option α} {x : α}
    (h : (eventAfter host arrivals a).toOption.join.bind read = some x) :
    ∃ event, eventAfter host arrivals a = .ok (some event) ∧ read event = some x := by
  cases hevent : eventAfter host arrivals a with
  | error e => rw [hevent] at h; cases h
  | ok parsed =>
      cases parsed with
      | none => rw [hevent] at h; cases h
      | some event =>
          rw [hevent] at h
          exact ⟨event, rfl, h⟩

end

/-! ## A tenant's adapter -/

/-- Integers print as they are written. -/
def numberInterpreter : Interpreter where
  loads := fun _ => none
  dumps := fun _ => ""
  repr := fun
    | .num q => toString q.num
    | _ => ""
  isAlnum := Char.isAlphanum
  lower := id
  lower_empty := id_eq ""

/-- An adapter that was built without configuration, for updates with integers. -/
def plainHost : AdapterHost cardingRuntime where
  py := numberInterpreter
  parseFloat := fun _ => none
  sqrt := id
  log2 := id
  adapter := builtAdapter emptyConfig
  matchJson := fun found => .str (String.ofList found)
  safetyReference := .ok
  safetyTimestamp := .ok
  eventTimestamp := .ok
  safetyProvider := none

def quietMoment (now : ℚ) : Moment := ⟨now, now, "card", fun _ => 0⟩

/-- A message as it is received, without text. -/
def messageArrival (kind : String) (userId chatId date : ℚ) (fields : List (String × Json)) :
    Arrival where
  moment := quietMoment date
  update := .obj [(kind, .obj ([("from", .obj [("id", .num userId)]),
    ("chat", .obj [("id", .num chatId)]), ("date", .num date)] ++ fields))]

def joinArrival (userId chatId date : ℚ) : Arrival where
  moment := quietMoment date
  update := .obj [("chat_member", .obj [("user", .obj [("id", .num userId)]),
    ("chat", .obj [("id", .num chatId)]), ("date", .num date),
    ("new_chat_member", .obj [("status", .str "member")])])]

def numberOf : Json → Option ℚ
  | .num q => some q
  | _ => none

theorem eq_num_of_numberOf {value : Option Json} {q : ℚ} (h : value.bind numberOf = some q) :
    value = some (.num q) := by
  obtain ⟨json, rfl, hjson⟩ := Option.bind_eq_some_iff.mp h
  cases json with
  | num r => cases hjson; rfl
  | _ => cases hjson

end TruePresenceESE.Telegram
