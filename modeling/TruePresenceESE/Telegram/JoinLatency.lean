import TruePresenceESE.Telegram.AdapterRuns

/-! # From a join to the first actions

The latencies of a member are reset by a join and filled by the first message, the first
media and the first link after it. What is stored for a member of a chat is a function of
the joins and messages of that member in that chat.
-/

namespace TruePresenceESE.Telegram

open AdapterWindows Raising

/-! ## The latest join and what came after it -/

/-- A member is a user in a chat. -/
abbrev Member := String × String

def joinTimeOf (key : Member) : Event → Option ℚ
  | .joined user chat timestamp => if (user, chat) = key then some timestamp else none
  | _ => none

inductive FirstAction where
  | message
  | media
  | link

namespace FirstAction

def counts : FirstAction → Bool → Bool → Bool
  | .message, _, _ => true
  | .media, mediaPresent, _ => mediaPresent
  | .link, _, linkPresent => linkPresent

/-- The feature that reports the latency. -/
def feature : FirstAction → String
  | .message => "join_to_first_message_ms"
  | .media => "join_to_first_media_ms"
  | .link => "join_to_first_link_ms"

def reported (features : TelegramCommunityFeatures) : FirstAction → Option ℚ
  | .message => features.joinToFirstMessageMs
  | .media => features.joinToFirstMediaMs
  | .link => features.joinToFirstLinkMs

def store (w : AdapterWindows) : FirstAction → Dict Member ℚ
  | .message => w.userChatFirstMessageMs
  | .media => w.userChatFirstMediaMs
  | .link => w.userChatFirstLinkMs

end FirstAction

def actionTimeOf (action : FirstAction) (key : Member) : Event → Option ℚ
  | .message user chat timestamp mediaPresent linkPresent =>
      if (user, chat) = key ∧ action.counts mediaPresent linkPresent = true then some timestamp
      else none
  | _ => none

def latencyMs (joined timestamp : ℚ) : ℚ := max 0 ((timestamp - joined) * 1000)

/-- The time of the member's latest join, and the events after it. -/
def latestJoin (key : Member) (events : List Event) : Option (ℚ × List Event) :=
  events.foldl (fun latest e =>
    match joinTimeOf key e with
    | some joined => some (joined, [])
    | none => latest.map fun p => (p.1, p.2 ++ [e])) none

/-- The latency of the first action after the latest join, if there are both. -/
def joinLatency (action : FirstAction) (key : Member) (events : List Event) : Option ℚ :=
  (latestJoin key events).bind fun p =>
    (p.2.findSome? (actionTimeOf action key)).map (latencyMs p.1)

section
variable {key : Member} {events : List Event} {e : Event} {action : FirstAction} {joined : ℚ}

theorem latestJoin_of_join (h : joinTimeOf key e = some joined) :
    latestJoin key (events ++ [e]) = some (joined, []) := by
  simp [latestJoin, h]

theorem latestJoin_of_not_join (h : joinTimeOf key e = none) :
    latestJoin key (events ++ [e]) = (latestJoin key events).map fun p => (p.1, p.2 ++ [e]) := by
  simp [latestJoin, h]

/-- No join of the member comes after the latest one. -/
theorem latestJoin_eq_some_iff {later : List Event} :
    latestJoin key events = some (joined, later) ↔
      ∃ before join, events = before ++ join :: later ∧ joinTimeOf key join = some joined ∧
        ∀ e ∈ later, joinTimeOf key e = none := by
  induction events using List.reverseRecOn generalizing later with
  | nil => simp [latestJoin]
  | append_singleton events e ih =>
      cases hjoin : joinTimeOf key e with
      | some time =>
          rw [latestJoin_of_join hjoin, Option.some.injEq, Prod.mk.injEq]
          constructor
          · rintro ⟨rfl, rfl⟩
            exact ⟨events, e, rfl, hjoin, by simp⟩
          · rintro ⟨before, join, heq, hlast, hlater⟩
            rcases List.eq_nil_or_concat later with rfl | ⟨rest, last, rfl⟩
            · obtain ⟨-, hone⟩ := List.append_inj' heq rfl
              cases hone
              exact ⟨Option.some.inj (hjoin.symm.trans hlast), rfl⟩
            · rw [List.concat_eq_append, ← List.cons_append, ← List.append_assoc] at heq
              obtain ⟨-, hone⟩ := List.append_inj' heq rfl
              cases hone
              rw [hlater e (by simp)] at hjoin
              cases hjoin
      | none =>
          rw [latestJoin_of_not_join hjoin, Option.map_eq_some_iff]
          constructor
          · rintro ⟨⟨time, rest⟩, hlatest, heq⟩
            cases heq
            obtain ⟨before, join, rfl, hlast, hrest⟩ := ih.mp hlatest
            refine ⟨before, join, by simp, hlast, fun x hx => ?_⟩
            rcases List.mem_append.mp hx with hx | hx
            · exact hrest x hx
            · rw [List.mem_singleton.mp hx, hjoin]
          · rintro ⟨before, join, heq, hlast, hlater⟩
            rcases List.eq_nil_or_concat later with rfl | ⟨rest, last, rfl⟩
            · obtain ⟨-, hone⟩ := List.append_inj' heq rfl
              cases hone
              rw [hlast] at hjoin
              cases hjoin
            · rw [List.concat_eq_append] at heq hlater ⊢
              rw [← List.cons_append, ← List.append_assoc] at heq
              obtain ⟨rfl, hone⟩ := List.append_inj' heq rfl
              cases hone
              exact ⟨(joined, rest), ih.mpr ⟨before, join, rfl, hlast, fun x hx =>
                hlater x (List.mem_append_left _ hx)⟩, rfl⟩

theorem joinLatency_of_join (h : joinTimeOf key e = some joined) :
    joinLatency action key (events ++ [e]) = none := by
  rw [joinLatency, latestJoin_of_join h]
  rfl

/-- A latency stays; without one, an action gives it. -/
theorem joinLatency_of_not_join (h : joinTimeOf key e = none) :
    joinLatency action key (events ++ [e]) = (joinLatency action key events).or
      ((latestJoin key events).bind fun p => (actionTimeOf action key e).map (latencyMs p.1)) := by
  rw [joinLatency, joinLatency, latestJoin_of_not_join h]
  cases latestJoin key events with
  | none => rfl
  | some p =>
      simp only [Option.map_some, Option.bind_some, List.findSome?_append]
      cases p.2.findSome? (actionTimeOf action key) with
      | none => cases hlast : actionTimeOf action key e <;> simp [hlast]
      | some time => rfl

theorem joinLatency_of_unrelated (hjoin : joinTimeOf key e = none)
    (haction : actionTimeOf action key e = none) :
    joinLatency action key (events ++ [e]) = joinLatency action key events := by
  rw [joinLatency_of_not_join hjoin, haction]
  simp

end

/-! ## The stores -/

section
variable {key : Member} {w : AdapterWindows} {events : List Event} {e : Event}
  {action : FirstAction} {timestamp : ℚ}

/-- The first action writes, and every action reports what is stored then. -/
theorem firstActionLatencyMs_eq (store : Dict Member ℚ) (key other : Member)
    (joinTime : Option ℚ) (timestamp : ℚ) (condition : Bool) :
    let result := firstActionLatencyMs store key joinTime timestamp condition
    result.1 = result.2.get? key ∧
      result.2.get? other = (store.get? other).or
        (if key = other ∧ condition = true then joinTime.map (latencyMs · timestamp) else none) := by
  intro result
  cases condition with
  | false => simp [result, firstActionLatencyMs]
  | true =>
      cases joinTime with
      | none => simp [result, firstActionLatencyMs]
      | some joined =>
          cases hstored : store.get? key with
          | some latency =>
              simp only [result, firstActionLatencyMs, hstored, true_and, and_true]
              split
              · rename_i hkey
                rw [← hkey, hstored]
                rfl
              · simp
          | none =>
              simp only [result, firstActionLatencyMs, hstored, and_true]
              refine ⟨(Dict.get?_set_self _ _ _).symm, ?_⟩
              rw [Dict.get?_set]
              split
              · rename_i hkey
                rw [← hkey, hstored]
                rfl
              · simp

/-- The stores hold the latest join of the member and the latencies after it. -/
structure RemembersMember (key : Member) (w : AdapterWindows) (events : List Event) : Prop where
  joined : w.userChatJoinTimes.get? key = (latestJoin key events).map Prod.fst
  latency : ∀ action : FirstAction, (action.store w).get? key = joinLatency action key events

/-- An event that is neither a join nor a message. -/
theorem remembersMember_of_unchanged (h : RemembersMember key w events)
    (hjoin : joinTimeOf key e = none) (haction : ∀ action, actionTimeOf action key e = none)
    (htimes : (w.apply e).userChatJoinTimes = w.userChatJoinTimes)
    (hstores : ∀ action : FirstAction, action.store (w.apply e) = action.store w) :
    RemembersMember key (w.apply e) (events ++ [e]) where
  joined := by
    rw [htimes, h.joined, latestJoin_of_not_join hjoin, Option.map_map]
    rfl
  latency action := by
    rw [hstores, h.latency, joinLatency_of_unrelated hjoin (haction action)]

theorem remembersMember_apply (h : RemembersMember key w events) :
    RemembersMember key (w.apply e) (events ++ [e]) := by
  cases e with
  | velocity user now =>
      exact remembersMember_of_unchanged h rfl (fun _ => rfl) rfl fun action => by cases action <;> rfl
  | member chat timestamp =>
      exact remembersMember_of_unchanged h rfl (fun _ => rfl) rfl fun action => by cases action <;> rfl
  | media user chat timestamp mediaPresent =>
      refine remembersMember_of_unchanged h rfl (fun _ => rfl) ?_ fun action => ?_
      · cases mediaPresent <;> rfl
      · cases mediaPresent <;> cases action <;> rfl
  | joined user chat timestamp =>
      by_cases hkey : (user, chat) = key
      · have hjoin : joinTimeOf key (.joined user chat timestamp) = some timestamp := if_pos hkey
        constructor
        · rw [latestJoin_of_join hjoin, ← hkey]
          exact Dict.get?_set_self _ _ _
        · intro action
          rw [joinLatency_of_join hjoin, ← hkey]
          cases action with
          | _ => exact Dict.get?_erase_self _ _
      · have hjoin : joinTimeOf key (.joined user chat timestamp) = none := if_neg hkey
        constructor
        · rw [latestJoin_of_not_join hjoin, Option.map_map]
          exact (Dict.get?_set_ne _ _ hkey).trans h.joined
        · intro action
          rw [joinLatency_of_unrelated hjoin rfl, ← h.latency]
          cases action with
          | _ => exact Dict.get?_erase_ne _ hkey
  | message user chat timestamp mediaPresent linkPresent =>
      have hjoin : joinTimeOf key (.message user chat timestamp mediaPresent linkPresent) = none := rfl
      constructor
      · rw [latestJoin_of_not_join hjoin, Option.map_map]
        exact h.joined
      · intro action
        have hstore : action.store
            (w.apply (.message user chat timestamp mediaPresent linkPresent)) =
              (firstActionLatencyMs (action.store w) (user, chat)
                (w.userChatJoinTimes.get? (user, chat)) timestamp
                (action.counts mediaPresent linkPresent)).2 := by
          cases action <;> rfl
        rw [hstore, (firstActionLatencyMs_eq _ _ key _ _ _).2, h.latency,
          joinLatency_of_not_join hjoin]
        congr 1
        simp only [actionTimeOf]
        split
        · rename_i hcounts
          rw [hcounts.1, h.joined]
          cases latestJoin key events <;> rfl
        · cases latestJoin key events <;> rfl

theorem remembersMember_applyAll (key : Member) (events : List Event) :
    RemembersMember key (AdapterWindows.empty.applyAll events) events := by
  induction events using List.reverseRecOn with
  | nil => exact ⟨rfl, fun action => by cases action <;> rfl⟩
  | append_singleton events e ih =>
      rw [applyAll_append]
      exact remembersMember_apply ih

/-- A message reports what is stored once it has acted. -/
theorem reported_eq_store (sqrt : ℚ → ℚ) (user chat : String) (timestamp : ℚ)
    (mediaPresent linkPresent : Bool) :
    action.reported (w.buildCommunityFeaturesForMessage sqrt user chat timestamp mediaPresent
        linkPresent).1 =
      (action.store (w.apply (.message user chat timestamp mediaPresent linkPresent))).get?
        (user, chat) := by
  cases action with
  | _ => exact (firstActionLatencyMs_eq _ _ (user, chat) _ _ _).1

theorem find?_optional {α : Type} (name key : String) (f : α → Json) (value : Option α) :
    (value.map fun x => (name, f x)).toList.find? (fun p => p.1 = key) =
      if name = key then value.map fun x => (name, f x) else none := by
  cases value with
  | none => simp
  | some x => by_cases hname : name = key <;> simp [hname]

/-- The features name the latencies that are known. -/
theorem get?_dump (features : TelegramCommunityFeatures) (action : FirstAction) :
    (Json.obj features.dump).get? action.feature = (action.reported features).map .num := by
  unfold Json.get? TelegramCommunityFeatures.dump
  simp only [List.find?_append, find?_optional]
  cases action with
  | message =>
      simp [FirstAction.feature, FirstAction.reported, Function.comp_def]
  | media =>
      simp [FirstAction.feature, FirstAction.reported, Function.comp_def]
  | link =>
      simp [FirstAction.feature, FirstAction.reported, Function.comp_def]

end

/-! ## Other members -/

section
variable {key : Member} {events : List Event} {e : Event} {action : FirstAction}

/-- The joins and the messages of a member. -/
def actsAs (key : Member) : Event → Bool
  | .joined user chat _ => (user, chat) = key
  | .message user chat _ _ _ => (user, chat) = key
  | _ => false

theorem joinTimeOf_of_not_acts (h : actsAs key e = false) : joinTimeOf key e = none := by
  cases e with
  | joined user chat timestamp => exact if_neg (of_decide_eq_false h)
  | _ => rfl

theorem actionTimeOf_of_not_acts (h : actsAs key e = false) : actionTimeOf action key e = none := by
  cases e with
  | message user chat timestamp mediaPresent linkPresent =>
      exact if_neg fun hcounts => of_decide_eq_false h hcounts.1
  | _ => rfl

theorem latestJoin_filter (key : Member) (events : List Event) :
    latestJoin key (events.filter (actsAs key)) =
      (latestJoin key events).map fun p => (p.1, p.2.filter (actsAs key)) := by
  induction events using List.reverseRecOn with
  | nil => rfl
  | append_singleton events e ih =>
      rw [List.filter_append]
      cases hacts : actsAs key e with
      | false =>
          rw [List.filter_cons_of_neg (by simp [hacts]), List.filter_nil, List.append_nil, ih,
            latestJoin_of_not_join (joinTimeOf_of_not_acts hacts), Option.map_map]
          simp [Function.comp_def, hacts]
      | true =>
          rw [List.filter_cons_of_pos hacts, List.filter_nil]
          cases hjoin : joinTimeOf key e with
          | some time => rw [latestJoin_of_join hjoin, latestJoin_of_join hjoin]; rfl
          | none =>
              rw [latestJoin_of_not_join hjoin, latestJoin_of_not_join hjoin, ih, Option.map_map,
                Option.map_map]
              simp [Function.comp_def, hacts]

theorem findSome?_filter_acts (events : List Event) :
    (events.filter (actsAs key)).findSome? (actionTimeOf action key) =
      events.findSome? (actionTimeOf action key) := by
  induction events with
  | nil => rfl
  | cons e rest ih =>
      cases hacts : actsAs key e with
      | false =>
          rw [List.filter_cons_of_neg (by simp [hacts]), ih, List.findSome?_cons,
            actionTimeOf_of_not_acts hacts]
      | true => rw [List.filter_cons_of_pos hacts, List.findSome?_cons, List.findSome?_cons, ih]

/-- Only the member's own joins and messages matter. -/
theorem joinLatency_filter (action : FirstAction) (key : Member) (events : List Event) :
    joinLatency action key (events.filter (actsAs key)) = joinLatency action key events := by
  rw [joinLatency, joinLatency, latestJoin_filter]
  cases latestJoin key events with
  | none => rfl
  | some p => simp only [Option.map_some, Option.bind_some, findSome?_filter_acts]

/-- A latency stays until the member joins again. -/
theorem joinLatency_append_of_some {later : List Event} {latency : ℚ}
    (hlater : ∀ e ∈ later, joinTimeOf key e = none)
    (h : joinLatency action key events = some latency) :
    joinLatency action key (events ++ later) = some latency := by
  induction later using List.reverseRecOn with
  | nil => rwa [List.append_nil]
  | append_singleton later e ih =>
      rw [← List.append_assoc, joinLatency_of_not_join (hlater e (by simp)),
        ih fun x hx => hlater x (List.mem_append_left _ hx)]
      rfl

end

/-! ## Reported latencies -/

section
variable {rt : TextRuntime} (host : AdapterHost rt)

/-- The member that sends a message. -/
def arrivedMember (a : Arrival) : Option Member :=
  match received a.update with
  | .message message =>
      match readOpening host a.moment message with
      | .ok opening => match readPlacement host message opening with
        | .ok placement => some (opening.userId, placement.chatId)
        | .error _ => none
      | .error _ => none
  | _ => none

def joins (key : Member) (a : Arrival) : Bool :=
  (updateEvents host a).any fun e => (joinTimeOf key e).isSome

/-- A join or a message of the member. -/
def concerns (key : Member) (a : Arrival) : Bool := (updateEvents host a).any (actsAs key)

variable {host}
variable {key : Member} {arrivals : List Arrival} {a : Arrival} {message event : Json}
  {action : FirstAction}

/-- A message is no join. -/
theorem joinTimeOf_messageEvents {moment : Moment} :
    ∀ e ∈ messageEvents host moment message, joinTimeOf key e = none := by
  intro e he
  unfold messageEvents at he
  split at he
  · cases he
  · rename_i opening hopening
    split at he
    · cases he
    · rename_i velocity hvelocity
      rcases List.mem_append.mp he with he | he
      · obtain ⟨user, now, rfl⟩ := velocityEvents_shape hvelocity e he
        rfl
      · unfold placedEvents at he
        split at he
        · rcases List.mem_cons.mp he with rfl | he
          · rfl
          · split at he
            · rw [List.mem_singleton.mp he]
              rfl
            · cases he
        · cases he

theorem journal_filter_concerns (key : Member) (arrivals : List Arrival) :
    (journal host (arrivals.filter (concerns host key))).filter (actsAs key) =
      (journal host arrivals).filter (actsAs key) := by
  induction arrivals with
  | nil => rfl
  | cons a rest ih =>
      cases hconcerns : concerns host key a with
      | true =>
          rw [List.filter_cons_of_pos hconcerns]
          simp only [journal, List.flatMap_cons, List.filter_append] at ih ⊢
          rw [ih]
      | false =>
          have hnone : (updateEvents host a).filter (actsAs key) = [] :=
            List.filter_eq_nil_iff.mpr (by simpa [concerns] using hconcerns)
          rw [List.filter_cons_of_neg (by simp [hconcerns]), ih]
          simp only [journal, List.flatMap_cons, List.filter_append, hnone, List.nil_append]

/-- The event of a message reports the latency of its member, this message included. -/
theorem communityFeature_eq (hreceived : received a.update = .message message)
    (hevent : eventAfter host arrivals a = .ok (some event)) :
    ∃ key, arrivedMember host a = some key ∧ ∀ action : FirstAction,
      communityFeature event action.feature =
        (joinLatency action key (journal host (arrivals ++ [a]))).map .num := by
  obtain ⟨o, provider, ho, -, -, hcommunity, -⟩ := observation_of_event hreceived hevent
  obtain ⟨velocity, hobserved⟩ := observedAt_of_ok ho
  refine ⟨(o.opening.userId, o.placement.chatId), ?_, fun action => ?_⟩
  · rw [arrivedMember, hreceived]
    simp only [hobserved.opening, hobserved.placement]
  · rw [communityFeature, hcommunity]
    have hfeatures : (communityOf o.community).get? "features" =
        some (.obj o.community.dump) := rfl
    rw [hfeatures, Option.bind_some, get?_dump, hobserved.community, reported_eq_store,
      windows_receiveAll, ← applyAll_append, hobserved.journal hreceived]
    have hremembers := remembersMember_applyAll (o.opening.userId, o.placement.chatId)
      (journal host arrivals ++ velocity ++ [.message o.opening.userId o.placement.chatId
        o.placement.timestamp o.placement.mediaPresent o.placement.linkPresent])
    rw [applyAll_append] at hremembers
    rw [List.append_cons, joinLatency_of_unrelated rfl rfl, ← hremembers.latency]
    rfl

end

/-- Every message of a run reports the time from the latest join of its member to the first
message, media or link after it. What is reported once stays until the member joins again,
and it depends on the joins and messages of this member only. -/
theorem first_action_latency {rt : TextRuntime} {host : AdapterHost rt} {arrivals : List Arrival}
    {a : Arrival} {message event : Json} (hreceived : received a.update = .message message)
    (hevent : eventAfter host arrivals a = .ok (some event)) :
    ∃ key, arrivedMember host a = some key ∧ ∀ action : FirstAction,
      communityFeature event action.feature =
          (joinLatency action key (journal host (arrivals ++ [a]))).map .num ∧
        (∀ more b later, (∀ x ∈ more, joins host key x = false) → arrivedMember host b = some key →
          eventAfter host (arrivals ++ a :: more) b = .ok (some later) →
          ∀ latency, communityFeature event action.feature = some latency →
            communityFeature later action.feature = some latency) ∧
        ∀ others other, others.filter (concerns host key) = arrivals.filter (concerns host key) →
          eventAfter host others a = .ok (some other) →
          communityFeature other action.feature = communityFeature event action.feature := by
  obtain ⟨key, hkey, hreported⟩ := communityFeature_eq hreceived hevent
  refine ⟨key, hkey, fun action => ⟨hreported action, ?_, ?_⟩⟩
  · intro more b later hmore hmember hlater latency hlatency
    have hreceivedLater : ∃ text, received b.update = .message text := by
      unfold arrivedMember at hmember
      split at hmember
      · exact ⟨_, ‹_›⟩
      · cases hmember
    obtain ⟨text, hreceivedLater⟩ := hreceivedLater
    obtain ⟨key', hkey', hreported'⟩ := communityFeature_eq hreceivedLater hlater
    obtain rfl : key' = key := Option.some.inj (hkey'.symm.trans hmember)
    rw [hreported action] at hlatency
    obtain ⟨time, htime, rfl⟩ := Option.map_eq_some_iff.mp hlatency
    have hjournal : journal host (arrivals ++ a :: more ++ [b]) =
        journal host (arrivals ++ [a]) ++ journal host (more ++ [b]) := by
      rw [← journal_append]
      simp
    rw [hreported' action, hjournal, joinLatency_append_of_some _ htime]
    · rfl
    · intro e he
      obtain ⟨x, hx, he⟩ := List.mem_flatMap.mp he
      rcases List.mem_append.mp hx with hx | hx
      · simpa using List.any_eq_false.mp (hmore x hx) e he
      · rw [List.mem_singleton.mp hx, updateEvents, hreceivedLater] at he
        exact joinTimeOf_messageEvents e he
  · intro others other hothers hother
    obtain ⟨key', hkey', hreported'⟩ := communityFeature_eq hreceived hother
    obtain rfl : key' = key := Option.some.inj (hkey'.symm.trans hkey)
    rw [hreported action, hreported' action, ← joinLatency_filter,
      ← joinLatency_filter _ _ (journal host (arrivals ++ [a])), journal_append, journal_append,
      List.filter_append, List.filter_append, ← journal_filter_concerns _ others, hothers,
      journal_filter_concerns]

def joinAndPost : List Arrival := [joinArrival 5 7 1000000, joinArrival 6 7 1000001]

def firstPost : Arrival := messageArrival "message" 5 7 1000004 []

theorem first_action_latency_post :
    ∃ event, eventAfter plainHost joinAndPost firstPost = .ok (some event) ∧
      communityFeature event "join_to_first_message_ms" = some (.num 4000) ∧
      ∃ key, arrivedMember plainHost firstPost = some key ∧ ∀ action : FirstAction,
        communityFeature event action.feature =
            (joinLatency action key (journal plainHost (joinAndPost ++ [firstPost]))).map .num ∧
          (∀ more b later, (∀ x ∈ more, joins plainHost key x = false) →
            arrivedMember plainHost b = some key →
            eventAfter plainHost (joinAndPost ++ firstPost :: more) b = .ok (some later) →
            ∀ latency, communityFeature event action.feature = some latency →
              communityFeature later action.feature = some latency) ∧
          ∀ others other,
            others.filter (concerns plainHost key) = joinAndPost.filter (concerns plainHost key) →
            eventAfter plainHost others firstPost = .ok (some other) →
            communityFeature other action.feature = communityFeature event action.feature := by
  have hread : (eventAfter plainHost joinAndPost firstPost).toOption.join.bind
      (fun event => (communityFeature event "join_to_first_message_ms").bind numberOf) =
        some 4000 := by
    decide +kernel
  obtain ⟨event, hevent, hlatency⟩ := exists_event_of_read hread
  exact ⟨event, hevent, eq_num_of_numberOf hlatency, first_action_latency rfl hevent⟩

end TruePresenceESE.Telegram
