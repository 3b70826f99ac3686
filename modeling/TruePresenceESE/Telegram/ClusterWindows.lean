import TruePresenceESE.Telegram.AdapterRuns

/-! # Cluster windows of a chat

A chat's windows of messages, media and joins are pruned by readers with different
horizons. When the times of a chat come in order no reader takes what another one is still
to count: a shorter horizon only moves the cutoff that is asked for next.
-/

namespace TruePresenceESE.Telegram

open AdapterWindows Raising Window

/-! ## What was recorded in a chat -/

def chatTimeOf (chatId : String) : Event → Option ℚ
  | .velocity _ _ => none
  | .joined _ chat timestamp => if chat = chatId then some timestamp else none
  | .member chat timestamp => if chat = chatId then some timestamp else none
  | .message _ chat timestamp _ _ => if chat = chatId then some timestamp else none
  | .media _ chat timestamp _ => if chat = chatId then some timestamp else none

def joinOf (chatId : String) : Event → Option ℚ
  | .joined _ chat timestamp => if chat = chatId then some timestamp else none
  | _ => none

def messageOf (chatId : String) : Event → Option (ℚ × String)
  | .message user chat timestamp _ _ => if chat = chatId then some (timestamp, user) else none
  | _ => none

def mediaOf (chatId : String) : Event → Option (ℚ × String)
  | .media user chat timestamp true => if chat = chatId then some (timestamp, user) else none
  | _ => none

/-- The times at which the windows of a chat are written or read. -/
def chatTimes (chatId : String) (events : List Event) : List ℚ :=
  events.filterMap (chatTimeOf chatId)

def chatJoins (chatId : String) (events : List Event) : List ℚ := events.filterMap (joinOf chatId)

def chatMessages (chatId : String) (events : List Event) : List (ℚ × String) :=
  events.filterMap (messageOf chatId)

def chatMedia (chatId : String) (events : List Event) : List (ℚ × String) :=
  events.filterMap (mediaOf chatId)

/-- Cutoffs at a horizon before a time that no time of the chat is after. -/
def AskedAfter (horizon : ℚ) (times : List ℚ) (cutoff : ℚ) : Prop :=
  ∀ time ∈ times, time - horizon ≤ cutoff

section
variable {chatId : String} {events : List Event} {e : Event} {horizon cutoff timestamp : ℚ}
  {times : List ℚ}

theorem AskedAfter.append_left {later : List ℚ} (h : AskedAfter horizon (times ++ later) cutoff) :
    AskedAfter horizon times cutoff :=
  fun time htime => h time (List.mem_append_left later htime)

/-- A reader's own cutoff is among those that are asked for. -/
theorem askedAfter_of_inOrder (h : InOrder id (times ++ [timestamp])) :
    AskedAfter horizon times (timestamp - horizon) :=
  fun time htime => sub_le_sub_right ((inOrder_append_singleton_iff.mp h).2 time htime) horizon

/-- What is recorded in a chat is in order when the chat's times are. -/
theorem inOrder_filterMap {α : Type} {time : α → ℚ} {record : Event → Option α}
    (hrecord : ∀ e x, record e = some x → chatTimeOf chatId e = some (time x))
    (h : InOrder id (chatTimes chatId events)) : InOrder time (events.filterMap record) := by
  unfold InOrder chatTimes at *
  rw [List.pairwise_filterMap] at h ⊢
  exact h.imp fun hxy x hx y hy => hxy _ (hrecord _ x hx) _ (hrecord _ y hy)

theorem chatTimeOf_of_joinOf {x : ℚ} (h : joinOf chatId e = some x) :
    chatTimeOf chatId e = some x := by
  cases e with
  | joined user chat timestamp => exact h
  | _ => cases h

theorem chatTimeOf_of_messageOf {x : ℚ × String} (h : messageOf chatId e = some x) :
    chatTimeOf chatId e = some x.1 := by
  cases e with
  | message user chat timestamp mediaPresent linkPresent =>
      simp only [messageOf] at h
      simp only [chatTimeOf]
      split at h
      · rename_i hchat
        cases h
        rw [if_pos hchat]
      · cases h
  | _ => cases h

theorem chatTimeOf_of_mediaOf {x : ℚ × String} (h : mediaOf chatId e = some x) :
    chatTimeOf chatId e = some x.1 := by
  cases e with
  | media user chat timestamp mediaPresent =>
      cases mediaPresent with
      | false => cases h
      | true =>
          simp only [mediaOf] at h
          simp only [chatTimeOf]
          split at h
          · rename_i hchat
            cases h
            rw [if_pos hchat]
          · cases h
  | _ => cases h

end

/-! ## The windows serve their readers -/

/-- Each window of the chat holds what its readers can still ask for. -/
structure ServesReaders (chatId : String) (w : AdapterWindows) (events : List Event) : Prop where
  joins : Tracks 250 id (AskedAfter 60 (chatTimes chatId events))
    (windowAt w.chatJoinTimes chatId) (chatJoins chatId events)
  messages : Tracks 250 Prod.fst (AskedAfter 3 (chatTimes chatId events))
    (windowAt w.chatMessageTimes chatId) (chatMessages chatId events)
  media : Tracks 250 Prod.fst (AskedAfter 10 (chatTimes chatId events))
    (windowAt w.chatMediaTimes chatId) (chatMedia chatId events)

section
variable {chatId : String} {w : AdapterWindows} {events : List Event} {e : Event}

theorem filterMap_append_singleton {α : Type} (record : Event → Option α) (events : List Event)
    (e : Event) : (events ++ [e]).filterMap record =
      events.filterMap record ++ (record e).toList := by
  rw [List.filterMap_append, List.filterMap_cons]
  cases record e with
  | none => rfl
  | some x => rfl

/-- Events elsewhere leave the chat's windows as they are. -/
theorem windows_elsewhere (h : chatTimeOf chatId e = none) :
    windowAt (w.apply e).chatJoinTimes chatId = windowAt w.chatJoinTimes chatId ∧
      windowAt (w.apply e).chatMessageTimes chatId = windowAt w.chatMessageTimes chatId ∧
      windowAt (w.apply e).chatMediaTimes chatId = windowAt w.chatMediaTimes chatId := by
  cases e with
  | velocity user now => exact ⟨rfl, rfl, rfl⟩
  | joined user chat timestamp =>
      have hchat : ¬ chat = chatId := by simpa [chatTimeOf] using h
      exact ⟨by simp [AdapterWindows.apply, recordJoinMetadata, windowAt_set, hchat], rfl, rfl⟩
  | member chat timestamp =>
      have hchat : ¬ chat = chatId := by simpa [chatTimeOf] using h
      exact ⟨by simp [AdapterWindows.apply, joinedWithinClusterCount, windowAt_set, hchat], rfl, rfl⟩
  | message user chat timestamp mediaPresent linkPresent =>
      have hchat : ¬ chat = chatId := by simpa [chatTimeOf] using h
      refine ⟨?_, ?_, rfl⟩
      · simp [AdapterWindows.apply, buildCommunityFeaturesForMessage, joinedWithinClusterCount,
          recordMessageCluster, synchronizedPeerCount, firstActions, windowAt_set, hchat]
      · simp [AdapterWindows.apply, buildCommunityFeaturesForMessage, joinedWithinClusterCount,
          recordMessageCluster, synchronizedPeerCount, firstActions, windowAt_set, hchat]
  | media user chat timestamp mediaPresent =>
      have hchat : ¬ chat = chatId := by simpa [chatTimeOf] using h
      cases mediaPresent with
      | false =>
          exact ⟨rfl, rfl, by simp [AdapterWindows.apply, observeMedia, synchronizedMediaPeerCount,
            mediaIntervalSummary, windowAt_set, hchat]⟩
      | true =>
          exact ⟨rfl, rfl, by simp [AdapterWindows.apply, observeMedia, synchronizedMediaPeerCount,
            mediaIntervalSummary, recordMediaCluster, windowAt_set, hchat]⟩

section
variable {timestamp : ℚ} (htime : chatTimeOf chatId e = some timestamp)
include htime

/-- Joins are read a minute back, whoever prunes them. -/
theorem upkeep_joins : Upkeep 250 id (timestamp - 60) (windowAt w.chatJoinTimes chatId)
    (windowAt (w.apply e).chatJoinTimes chatId) (joinOf chatId e).toList := by
  cases e with
  | velocity user now => cases htime
  | joined user chat time =>
      obtain ⟨rfl, rfl⟩ : chat = chatId ∧ time = timestamp := by simpa [chatTimeOf] using htime
      simp only [joinOf, if_true, Option.toList_some, AdapterWindows.apply, recordJoinMetadata,
        windowAt_set_self]
      exact (Upkeep.push .keep time).prune le_rfl
  | member chat time =>
      obtain ⟨rfl, rfl⟩ : chat = chatId ∧ time = timestamp := by simpa [chatTimeOf] using htime
      simp only [joinOf, Option.toList_none, AdapterWindows.apply, joinedWithinClusterCount,
        windowAt_set_self]
      exact Upkeep.keep.prune le_rfl
  | message user chat time mediaPresent linkPresent =>
      obtain ⟨rfl, rfl⟩ : chat = chatId ∧ time = timestamp := by simpa [chatTimeOf] using htime
      simp only [joinOf, Option.toList_none, AdapterWindows.apply,
        buildCommunityFeaturesForMessage, joinedWithinClusterCount, windowAt_set_self]
      exact Upkeep.keep.prune le_rfl
  | media user chat time mediaPresent =>
      cases mediaPresent with
      | false => exact .keep
      | true => exact .keep

/-- Messages are read three seconds back and kept for a minute. -/
theorem upkeep_messages : Upkeep 250 Prod.fst (timestamp - 3) (windowAt w.chatMessageTimes chatId)
    (windowAt (w.apply e).chatMessageTimes chatId) (messageOf chatId e).toList := by
  cases e with
  | message user chat time mediaPresent linkPresent =>
      obtain ⟨rfl, rfl⟩ : chat = chatId ∧ time = timestamp := by simpa [chatTimeOf] using htime
      simp only [messageOf, if_true, Option.toList_some, AdapterWindows.apply,
        buildCommunityFeaturesForMessage, joinedWithinClusterCount, recordMessageCluster,
        synchronizedPeerCount, windowAt_set_self]
      exact (Upkeep.push (Upkeep.keep.prune le_rfl) (time, user)).prune (by linarith)
  | media user chat time mediaPresent =>
      cases mediaPresent with
      | false => exact .keep
      | true => exact .keep
  | _ => exact .keep

/-- Media are read ten seconds back and kept for a minute. -/
theorem upkeep_media : Upkeep 250 Prod.fst (timestamp - 10) (windowAt w.chatMediaTimes chatId)
    (windowAt (w.apply e).chatMediaTimes chatId) (mediaOf chatId e).toList := by
  cases e with
  | media user chat time mediaPresent =>
      obtain ⟨rfl, rfl⟩ : chat = chatId ∧ time = timestamp := by simpa [chatTimeOf] using htime
      cases mediaPresent with
      | false =>
          simp only [mediaOf, Option.toList_none, AdapterWindows.apply, observeMedia,
            synchronizedMediaPeerCount, mediaIntervalSummary, Bool.false_eq_true, if_false,
            windowAt_set_self]
          exact Upkeep.keep.prune le_rfl
      | true =>
          simp only [mediaOf, if_true, Option.toList_some, AdapterWindows.apply, observeMedia,
            synchronizedMediaPeerCount, mediaIntervalSummary, recordMediaCluster,
            windowAt_set_self]
          exact (Upkeep.push (Upkeep.keep.prune le_rfl) (time, user)).prune (by linarith)
  | _ => exact .keep

end

/-- One window over one event, elsewhere or at the chat. -/
theorem tracks_event {α : Type} {time : α → ℚ} {horizon : ℚ} {record : Event → Option α}
    {window after : List α}
    (h : Tracks 250 time (AskedAfter horizon (chatTimes chatId events)) window
      (events.filterMap record))
    (hrecord : ∀ e x, record e = some x → chatTimeOf chatId e = some (time x))
    (horder : InOrder id (chatTimes chatId (events ++ [e])))
    (helsewhere : chatTimeOf chatId e = none → after = window)
    (hupkeep : ∀ timestamp, chatTimeOf chatId e = some timestamp →
      Upkeep 250 time (timestamp - horizon) window after (record e).toList) :
    Tracks 250 time (AskedAfter horizon (chatTimes chatId (events ++ [e]))) after
      ((events ++ [e]).filterMap record) := by
  have hrecords := inOrder_filterMap hrecord horder
  rw [filterMap_append_singleton] at hrecords ⊢
  have hearlier := h.mono fun cutoff
      (hasked : AskedAfter horizon (chatTimes chatId (events ++ [e])) cutoff) => by
    rw [chatTimes, filterMap_append_singleton] at hasked
    exact hasked.append_left
  cases htime : chatTimeOf chatId e with
  | none =>
      have hnone : record e = none := Option.eq_none_iff_forall_ne_some.mpr fun x hx => by
        rw [hrecord e x hx] at htime
        cases htime
      rw [helsewhere htime, hnone, Option.toList_none, List.append_nil]
      exact hearlier
  | some timestamp =>
      refine hearlier.upkeep (hupkeep timestamp htime) (fun later hasked => ?_) hrecords
      refine hasked timestamp ?_
      rw [chatTimes, filterMap_append_singleton, htime]
      exact List.mem_append_right _ (List.mem_singleton_self timestamp)

theorem servesReaders_apply (h : ServesReaders chatId w events)
    (horder : InOrder id (chatTimes chatId (events ++ [e]))) :
    ServesReaders chatId (w.apply e) (events ++ [e]) where
  joins := tracks_event h.joins (fun _ _ => chatTimeOf_of_joinOf) horder
    (fun htime => (windows_elsewhere htime).1) fun _ => upkeep_joins
  messages := tracks_event h.messages (fun _ _ => chatTimeOf_of_messageOf) horder
    (fun htime => (windows_elsewhere htime).2.1) fun _ => upkeep_messages
  media := tracks_event h.media (fun _ _ => chatTimeOf_of_mediaOf) horder
    (fun htime => (windows_elsewhere htime).2.2) fun _ => upkeep_media

theorem servesReaders_applyAll (events : List Event)
    (horder : InOrder id (chatTimes chatId events)) :
    ServesReaders chatId (AdapterWindows.empty.applyAll events) events := by
  induction events using List.reverseRecOn with
  | nil => exact ⟨tracks_nil, tracks_nil, tracks_nil⟩
  | append_singleton events e ih =>
      have hinit : InOrder id (chatTimes chatId events) :=
        horder.sublist ((List.sublist_append_left events [e]).filterMap _)
      rw [applyAll_append]
      exact servesReaders_apply (ih hinit) horder

/-! ## What is counted at a message -/

variable {timestamp : ℚ}

/-- A reader finds what it counts, however the window was kept. -/
theorem pruned_window {α : Type} {time : α → ℚ} {horizon : ℚ} {record : Event → Option α}
    {window : List α}
    (h : Tracks 250 time (AskedAfter horizon (chatTimes chatId events)) window
      (events.filterMap record))
    (horder : InOrder id (chatTimes chatId events ++ [timestamp])) :
    prune time (timestamp - horizon) window =
      recent 250 time (timestamp - horizon) (events.filterMap record) :=
  h.pruned _ (askedAfter_of_inOrder horder)

/-- Peers among the messages of the last three seconds, and the joins of the last minute. -/
theorem message_counts (sqrt : ℚ → ℚ) (userId : String) (mediaPresent linkPresent : Bool)
    (h : ServesReaders chatId w events)
    (horder : InOrder id (chatTimes chatId events ++ [timestamp])) :
    let features := (w.buildCommunityFeaturesForMessage sqrt userId chatId timestamp mediaPresent
      linkPresent).1
    features.synchronizedPeerCount =
        some (peerCount (recent 250 Prod.fst (timestamp - 3) (chatMessages chatId events)) userId) ∧
      features.joinedWithinClusterCount =
        some (min 250 ((chatJoins chatId events).countP fun time => timestamp - 60 ≤ time)) := by
  have hjoins : InOrder id (chatJoins chatId events) :=
    inOrder_filterMap (fun _ _ => chatTimeOf_of_joinOf) (inOrder_append_singleton_iff.mp horder).1
  constructor
  · exact congrArg (fun window => some (peerCount window userId)) (pruned_window h.messages horder)
  · have hcount := congrArg List.length (pruned_window h.joins horder)
    rw [← chatJoins, length_recent hjoins] at hcount
    exact congrArg some hcount

/-- Peers among the media of the last ten seconds. -/
theorem media_count (userId : String) (timestamp : ℚ) (mediaPresent : Bool)
    (h : ServesReaders chatId w events) (horder : InOrder id (chatTimes chatId events ++ [timestamp])) :
    (w.observeMedia userId chatId timestamp mediaPresent).1.synchronizedMediaPeerCount =
      if mediaPresent then
        peerCount (recent 250 Prod.fst (timestamp - 10) (chatMedia chatId events)) userId
      else 0 :=
  congrArg (fun window => if mediaPresent then peerCount window userId else 0)
    (pruned_window h.media horder)

end

/-- At every message of a run in which the times of its chat are in order, the clusters are
counted as if nothing had been pruned: peers of the last 250 messages of three seconds,
peers of the last 250 media messages of ten seconds, and up to 250 joins of a minute. -/
theorem cluster_counts {rt : TextRuntime} {host : AdapterHost rt} {arrivals : List Arrival}
    {a : Arrival} {message : Json} {o : Observation rt}
    (hreceived : received a.update = .message message)
    (ho : observationAfter host arrivals a.moment message = .ok o)
    (horder : InOrder id (chatTimes o.placement.chatId (journal host (arrivals ++ [a])))) :
    let chatId := o.placement.chatId
    let timestamp := o.placement.timestamp
    let earlier := journal host arrivals
    o.community.synchronizedPeerCount =
        some (peerCount (recent 250 Prod.fst (timestamp - 3) (chatMessages chatId earlier))
          o.opening.userId) ∧
      o.safety.synchronizedMediaPeerCount =
        (if o.placement.mediaPresent then
          peerCount (recent 250 Prod.fst (timestamp - 10) (chatMedia chatId earlier))
            o.opening.userId
        else 0) ∧
      o.community.joinedWithinClusterCount =
        some (min 250 ((chatJoins chatId earlier).countP fun time => timestamp - 60 ≤ time)) := by
  intro chatId timestamp earlier
  obtain ⟨velocity, hobserved⟩ := observedAt_of_ok ho
  have hshape := velocityEvents_shape hobserved.velocity_events
  have hvelocity : ∀ {α : Type} (record : Event → Option α),
      (∀ user now, record (.velocity user now) = none) →
      (earlier ++ velocity).filterMap record = earlier.filterMap record := by
    intro α record hrecord
    have hnone : velocity.filterMap record = [] := by
      refine List.filterMap_eq_nil_iff.mpr fun e he => ?_
      obtain ⟨user, now, rfl⟩ := hshape e he
      exact hrecord user now
    rw [List.filterMap_append, hnone, List.append_nil]
  rw [hobserved.journal hreceived, chatTimes, List.filterMap_append] at horder
  simp only [List.filterMap_cons, chatTimeOf, if_true, List.filterMap_nil] at horder
  have hfirst : InOrder id (chatTimes chatId (earlier ++ velocity) ++ [timestamp]) :=
    horder.sublist (List.Sublist.append_left (by simp [timestamp]) _)
  have hserves : ServesReaders chatId ((receiveAll host arrivals).windows.applyAll velocity)
      (earlier ++ velocity) := by
    rw [windows_receiveAll, ← applyAll_append]
    exact servesReaders_applyAll _ (inOrder_append_singleton_iff.mp hfirst).1
  obtain ⟨hpeers, hjoins⟩ := message_counts host.sqrt o.opening.userId o.placement.mediaPresent
    o.placement.linkPresent hserves hfirst
  rw [chatMessages, hvelocity _ fun _ _ => rfl] at hpeers
  rw [chatJoins, hvelocity _ fun _ _ => rfl] at hjoins
  rw [← hobserved.community] at hpeers hjoins
  refine ⟨hpeers, ?_, hjoins⟩
  -- The media are read after the message was recorded, at the same time.
  have hmessage : chatTimes chatId (earlier ++ velocity ++ [.message o.opening.userId chatId timestamp
      o.placement.mediaPresent o.placement.linkPresent]) =
        chatTimes chatId (earlier ++ velocity) ++ [timestamp] := by
    rw [chatTimes, filterMap_append_singleton]
    simp [chatTimeOf, chatTimes]
  have hmedia := media_count o.opening.userId timestamp o.placement.mediaPresent
    (servesReaders_apply hserves (hmessage ▸ hfirst)) (by
      rw [hmessage, List.append_assoc]
      exact horder)
  rw [hobserved.media, chatMedia, filterMap_append_singleton, hvelocity _ fun _ _ => rfl] at hmedia
  simpa [mediaOf, chatMedia] using hmedia

def photo : List (String × Json) := [("photo", .arr [.obj [("file_id", .str "f")]])]

def photoBurst : List Arrival :=
  [joinArrival 5 7 1000000, messageArrival "message" 6 7 1000001 photo]

def photoReply : Arrival := messageArrival "message" 5 7 1000002 photo

def photoMessage : Json := .obj ([("from", .obj [("id", .num 5)]), ("chat", .obj [("id", .num 7)]),
  ("date", .num 1000002)] ++ photo)

theorem cluster_counts_photo :
    ∃ o, observationAfter plainHost photoBurst photoReply.moment photoMessage = .ok o ∧
      o.community.synchronizedPeerCount =
        some (peerCount (recent 250 Prod.fst (o.placement.timestamp - 3)
          (chatMessages o.placement.chatId (journal plainHost photoBurst))) o.opening.userId) ∧
      o.safety.synchronizedMediaPeerCount =
        (if o.placement.mediaPresent then
          peerCount (recent 250 Prod.fst (o.placement.timestamp - 10)
            (chatMedia o.placement.chatId (journal plainHost photoBurst))) o.opening.userId
        else 0) ∧
      o.community.joinedWithinClusterCount =
        some (min 250 ((chatJoins o.placement.chatId (journal plainHost photoBurst)).countP
          fun time => o.placement.timestamp - 60 ≤ time)) := by
  have hchat : (observationAfter plainHost photoBurst photoReply.moment photoMessage).toOption.map
      (·.placement.chatId) = some "7" := by
    decide +kernel
  cases ho : observationAfter plainHost photoBurst photoReply.moment photoMessage with
  | error e => rw [ho] at hchat; cases hchat
  | ok o =>
      rw [ho] at hchat
      have hid : o.placement.chatId = "7" := Option.some.inj hchat
      have horder : InOrder id (chatTimes "7" (journal plainHost (photoBurst ++ [photoReply]))) := by
        unfold InOrder
        decide +kernel
      exact ⟨o, rfl, cluster_counts rfl ho (hid ▸ horder)⟩

end TruePresenceESE.Telegram
