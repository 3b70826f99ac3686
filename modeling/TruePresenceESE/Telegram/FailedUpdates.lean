import TruePresenceESE.Lib.FullWindow
import TruePresenceESE.Telegram.AdapterReads

/-! # Updates that fail

An update that cannot be read to its end has written into the windows what came before. That
leaves no trace where there was nothing to write yet, or where the windows were full of just
that.
-/

namespace TruePresenceESE.Telegram

open AdapterWindows JsonDict PyValue Raising Window

namespace AdapterWindows

/-- The windows already hold what an event writes, as often as they can. -/
def Repeats (w : AdapterWindows) : Event → Prop
  | .velocity userId now => windowAt w.userMessageTimes userId = List.replicate 100 now
  | .joined userId chatId timestamp =>
      w.userChatJoinTimes.get? (userId, chatId) = some timestamp ∧
        w.userChatFirstMessageMs.get? (userId, chatId) = none ∧
        w.userChatFirstMediaMs.get? (userId, chatId) = none ∧
        w.userChatFirstLinkMs.get? (userId, chatId) = none ∧
        windowAt w.chatJoinTimes chatId = List.replicate 250 timestamp ∧
        chatId ∈ windowAt w.userJoinedGroups userId
  | .member chatId timestamp => Fresh id (timestamp - 60) (windowAt w.chatJoinTimes chatId)
  | .message userId chatId timestamp mediaPresent linkPresent =>
      (w.userChatJoinTimes.get? (userId, chatId) ≠ none →
        w.userChatFirstMessageMs.get? (userId, chatId) ≠ none ∧
        (mediaPresent = true → w.userChatFirstMediaMs.get? (userId, chatId) ≠ none) ∧
        (linkPresent = true → w.userChatFirstLinkMs.get? (userId, chatId) ≠ none)) ∧
      windowAt w.chatMessageTimes chatId = List.replicate 250 (timestamp, userId) ∧
      Fresh id (timestamp - 60) (windowAt w.chatJoinTimes chatId)
  | .media userId chatId timestamp true =>
      windowAt w.userMediaTimes userId = List.replicate 100 timestamp ∧
        windowAt w.chatMediaTimes chatId = List.replicate 250 (timestamp, userId)
  | .media userId chatId timestamp false =>
      Fresh id (timestamp - 60) (windowAt w.userMediaTimes userId) ∧
        Fresh Prod.fst (timestamp - 10) (windowAt w.chatMediaTimes chatId)

/-! ## Writes that are not seen -/

section
variable {α : Type}

theorem windowAt_set_eq_iff {d : Dict String (List α)} {key : String} {window : List α} :
    (∀ k, windowAt (d.set key window) k = windowAt d k) ↔ window = windowAt d key := by
  constructor
  · intro h
    rw [← h key, windowAt_set_self]
  · intro h k
    rw [windowAt_set]
    split
    · next hk => rw [h, hk]
    · rfl

theorem get?_set_eq_iff {d : Dict (String × String) α} {key : String × String} {v : α} :
    (∀ k, (d.set key v).get? k = d.get? k) ↔ d.get? key = some v := by
  constructor
  · intro h
    rw [← h key, Dict.get?_set_self]
  · intro h k
    rw [Dict.get?_set]
    split
    · next hk => rw [← hk, h]
    · rfl

theorem get?_erase_eq_iff {d : Dict (String × String) α} {key : String × String} :
    (∀ k, (d.erase key).get? k = d.get? k) ↔ d.get? key = none := by
  constructor
  · intro h
    rw [← h key, Dict.get?_erase_self]
  · intro h k
    by_cases hk : key = k
    · rw [← hk, Dict.get?_erase_self, h]
    · exact Dict.get?_erase_ne _ hk

/-- A first action is stored unless the join is unknown or there was one before. -/
theorem firstActionLatencyMs_eq_iff {d : Dict (String × String) ℚ} {key : String × String}
    {joinTime : Option ℚ} {timestamp : ℚ} {condition : Bool} :
    (∀ k, (firstActionLatencyMs d key joinTime timestamp condition).2.get? k = d.get? k) ↔
      (joinTime ≠ none → condition = true → d.get? key ≠ none) := by
  unfold firstActionLatencyMs
  split
  · next hnone =>
      rw [get?_set_eq_iff, hnone]
      simp
  · next hother =>
      refine iff_of_true (fun _ => rfl) fun hjoin hcondition hnone => ?_
      obtain ⟨joined, hjoined⟩ := Option.ne_none_iff_exists'.mp hjoin
      exact hother joined hcondition hjoined hnone

theorem push_groups_eq_iff {groups : List String} {chatId : String} :
    (if groups.contains chatId then groups else push 50 groups chatId) = groups ↔
      chatId ∈ groups := by
  split
  · next hmem => exact iff_of_true rfl (List.contains_iff_mem.mp hmem)
  · next hmem =>
      refine iff_of_false (fun h => hmem ?_) fun h => hmem (List.contains_iff_mem.mpr h)
      rw [push_eq_self_iff (by norm_num)] at h
      rw [h]
      simp

end

/-! ## Events that are not seen -/

section
variable {w : AdapterWindows}

theorem sameReads_velocity_iff (userId : String) (now : ℚ) :
    SameReads (w.apply (.velocity userId now)) w ↔ Repeats w (.velocity userId now) := by
  have hwindow : prune id (now - 60) (push 100 (windowAt w.userMessageTimes userId) now) =
      windowAt w.userMessageTimes userId ↔
        windowAt w.userMessageTimes userId = List.replicate 100 now :=
    prune_push_eq_self_iff (by norm_num) (by simp)
  rw [Repeats, ← hwindow, ← windowAt_set_eq_iff]
  exact ⟨fun h => h.userMessageTimes, fun h => { SameReads.refl w with userMessageTimes := h }⟩

theorem sameReads_member_iff (chatId : String) (timestamp : ℚ) :
    SameReads (w.apply (.member chatId timestamp)) w ↔ Repeats w (.member chatId timestamp) := by
  rw [Repeats, ← prune_eq_self_iff, ← windowAt_set_eq_iff]
  exact ⟨fun h => h.chatJoinTimes, fun h => { SameReads.refl w with chatJoinTimes := h }⟩

theorem sameReads_joined_iff (userId chatId : String) (timestamp : ℚ) :
    SameReads (w.apply (.joined userId chatId timestamp)) w ↔
      Repeats w (.joined userId chatId timestamp) := by
  have hjoins : prune id (timestamp - 60) (push 250 (windowAt w.chatJoinTimes chatId) timestamp) =
      windowAt w.chatJoinTimes chatId ↔
        windowAt w.chatJoinTimes chatId = List.replicate 250 timestamp :=
    prune_push_eq_self_iff (by norm_num) (by simp)
  rw [Repeats, ← hjoins, ← push_groups_eq_iff, ← windowAt_set_eq_iff, ← windowAt_set_eq_iff,
    ← get?_set_eq_iff, ← get?_erase_eq_iff, ← get?_erase_eq_iff, ← get?_erase_eq_iff]
  constructor
  · intro h
    exact ⟨h.userChatJoinTimes, h.userChatFirstMessageMs, h.userChatFirstMediaMs,
      h.userChatFirstLinkMs, h.chatJoinTimes, h.userJoinedGroups⟩
  · rintro ⟨htime, hmessage, hmedia, hlink, hchat, hgroups⟩
    exact { SameReads.refl w with
      userChatJoinTimes := htime
      userChatFirstMessageMs := hmessage
      userChatFirstMediaMs := hmedia
      userChatFirstLinkMs := hlink
      chatJoinTimes := hchat
      userJoinedGroups := hgroups }

theorem sameReads_message_iff (userId chatId : String) (timestamp : ℚ)
    (mediaPresent linkPresent : Bool) :
    SameReads (w.apply (.message userId chatId timestamp mediaPresent linkPresent)) w ↔
      Repeats w (.message userId chatId timestamp mediaPresent linkPresent) := by
  have hwindow : prune Prod.fst (timestamp - 60) (push 250 (prune Prod.fst (timestamp - 3)
      (windowAt w.chatMessageTimes chatId)) (timestamp, userId)) =
        windowAt w.chatMessageTimes chatId ↔
          windowAt w.chatMessageTimes chatId = List.replicate 250 (timestamp, userId) :=
    prune_push_prune_eq_self_iff (by norm_num) (by simp) (by simp)
  have hchat : (∀ k, windowAt (w.apply (.message userId chatId timestamp mediaPresent
      linkPresent)).chatMessageTimes k = windowAt w.chatMessageTimes k) ↔
        windowAt w.chatMessageTimes chatId = List.replicate 250 (timestamp, userId) := by
    rw [← hwindow]
    have hset : ∀ k, windowAt (w.apply (.message userId chatId timestamp mediaPresent
        linkPresent)).chatMessageTimes k =
          windowAt (w.chatMessageTimes.set chatId (prune Prod.fst (timestamp - 60)
            (push 250 (prune Prod.fst (timestamp - 3) (windowAt w.chatMessageTimes chatId))
              (timestamp, userId)))) k := by
      intro k
      simp only [apply, buildCommunityFeaturesForMessage, firstActions, synchronizedPeerCount,
        recordMessageCluster, joinedWithinClusterCount, windowAt_set, if_true]
      split
      · rfl
      · rfl
    simp only [hset, windowAt_set_eq_iff]
  have hfirst : ((∀ k, (w.apply (.message userId chatId timestamp mediaPresent
        linkPresent)).userChatFirstMessageMs.get? k = w.userChatFirstMessageMs.get? k) ∧
      (∀ k, (w.apply (.message userId chatId timestamp mediaPresent
        linkPresent)).userChatFirstMediaMs.get? k = w.userChatFirstMediaMs.get? k) ∧
      ∀ k, (w.apply (.message userId chatId timestamp mediaPresent
        linkPresent)).userChatFirstLinkMs.get? k = w.userChatFirstLinkMs.get? k) ↔
      (w.userChatJoinTimes.get? (userId, chatId) ≠ none →
        w.userChatFirstMessageMs.get? (userId, chatId) ≠ none ∧
        (mediaPresent = true → w.userChatFirstMediaMs.get? (userId, chatId) ≠ none) ∧
        (linkPresent = true → w.userChatFirstLinkMs.get? (userId, chatId) ≠ none)) := by
    have hmessage := @firstActionLatencyMs_eq_iff w.userChatFirstMessageMs (userId, chatId)
      (w.userChatJoinTimes.get? (userId, chatId)) timestamp true
    have hmedia := @firstActionLatencyMs_eq_iff w.userChatFirstMediaMs (userId, chatId)
      (w.userChatJoinTimes.get? (userId, chatId)) timestamp mediaPresent
    have hlink := @firstActionLatencyMs_eq_iff w.userChatFirstLinkMs (userId, chatId)
      (w.userChatJoinTimes.get? (userId, chatId)) timestamp linkPresent
    refine (and_congr hmessage (and_congr hmedia hlink)).trans ?_
    simp only [true_imp_iff, imp_and]
  rw [Repeats, ← hfirst, ← hchat, ← prune_eq_self_iff, ← windowAt_set_eq_iff]
  constructor
  · intro h
    exact ⟨⟨h.userChatFirstMessageMs, h.userChatFirstMediaMs, h.userChatFirstLinkMs⟩,
      h.chatMessageTimes, h.chatJoinTimes⟩
  · rintro ⟨⟨hmessage, hmedia, hlink⟩, htimes, hjoins⟩
    exact { SameReads.refl w with
      userChatFirstMessageMs := hmessage
      userChatFirstMediaMs := hmedia
      userChatFirstLinkMs := hlink
      chatMessageTimes := htimes
      chatJoinTimes := hjoins }

theorem sameReads_media_iff (userId chatId : String) (timestamp : ℚ) (mediaPresent : Bool) :
    SameReads (w.apply (.media userId chatId timestamp mediaPresent)) w ↔
      Repeats w (.media userId chatId timestamp mediaPresent) := by
  cases mediaPresent with
  | false =>
      rw [Repeats, ← prune_eq_self_iff, ← prune_eq_self_iff, ← windowAt_set_eq_iff,
        ← windowAt_set_eq_iff]
      exact ⟨fun h => ⟨h.userMediaTimes, h.chatMediaTimes⟩,
        fun h => { SameReads.refl w with userMediaTimes := h.1, chatMediaTimes := h.2 }⟩
  | true =>
      have huser : prune id (timestamp - 60) (push 100 (windowAt w.userMediaTimes userId)
          timestamp) = windowAt w.userMediaTimes userId ↔
            windowAt w.userMediaTimes userId = List.replicate 100 timestamp :=
        prune_push_eq_self_iff (by norm_num) (by simp)
      have hwindow : prune Prod.fst (timestamp - 60) (push 250 (prune Prod.fst (timestamp - 10)
          (windowAt w.chatMediaTimes chatId)) (timestamp, userId)) =
            windowAt w.chatMediaTimes chatId ↔
              windowAt w.chatMediaTimes chatId = List.replicate 250 (timestamp, userId) :=
        prune_push_prune_eq_self_iff (by norm_num) (by simp) (by simp)
      have hset : ∀ k, windowAt (w.apply (.media userId chatId timestamp true)).chatMediaTimes k =
          windowAt (w.chatMediaTimes.set chatId (prune Prod.fst (timestamp - 60)
            (push 250 (prune Prod.fst (timestamp - 10) (windowAt w.chatMediaTimes chatId))
              (timestamp, userId)))) k := by
        intro k
        simp only [apply, observeMedia, mediaIntervalSummary, synchronizedMediaPeerCount,
          recordMediaCluster, windowAt_set, if_true]
        split
        · rfl
        · rfl
      rw [Repeats, ← huser, ← hwindow, ← windowAt_set_eq_iff, ← windowAt_set_eq_iff]
      simp only [← hset]
      exact ⟨fun h => ⟨h.userMediaTimes, h.chatMediaTimes⟩,
        fun h => { SameReads.refl w with userMediaTimes := h.1, chatMediaTimes := h.2 }⟩

/-- An event leaves no trace exactly where it repeats what is there. -/
theorem sameReads_apply_iff (e : Event) : SameReads (w.apply e) w ↔ Repeats w e := by
  cases e with
  | velocity userId now => exact sameReads_velocity_iff userId now
  | joined userId chatId timestamp => exact sameReads_joined_iff userId chatId timestamp
  | member chatId timestamp => exact sameReads_member_iff chatId timestamp
  | message userId chatId timestamp mediaPresent linkPresent =>
      exact sameReads_message_iff userId chatId timestamp mediaPresent linkPresent
  | media userId chatId timestamp mediaPresent =>
      exact sameReads_media_iff userId chatId timestamp mediaPresent

/-- Events that each leave no trace leave none together. -/
theorem sameReads_applyAll {events : List Event} (h : ∀ e ∈ events, Repeats w e) :
    SameReads (w.applyAll events) w := by
  induction events using List.reverseRecOn with
  | nil => exact SameReads.refl w
  | append_singleton events e ih =>
      rw [applyAll, List.foldl_append]
      have hbefore := ih fun e' he' => h e' (List.mem_append_left _ he')
      have hlast := sameReads_apply_iff e |>.mpr (h e (by simp))
      exact (hbefore.apply e).trans hlast

/-! Times of messages, times of media and everything about members are kept apart. -/

inductive Part where
  | times
  | members
  | media
  deriving DecidableEq

def Event.part : Event → Part
  | .velocity _ _ => .times
  | .media _ _ _ _ => .media
  | .joined _ _ _ | .member _ _ | .message _ _ _ _ _ => .members

def restrict : Part → AdapterWindows → AdapterWindows
  | .times, w => { empty with userMessageTimes := w.userMessageTimes }
  | .members, w =>
      { w with
        userMessageTimes := .empty
        userMediaTimes := .empty
        chatMediaTimes := .empty }
  | .media, w =>
      { empty with
        userMediaTimes := w.userMediaTimes
        chatMediaTimes := w.chatMediaTimes }

theorem SameReads.restrict {w' : AdapterWindows} (h : SameReads w w') (part : Part) :
    SameReads (restrict part w) (restrict part w') := by
  cases part with
  | times => exact { SameReads.refl _ with userMessageTimes := h.userMessageTimes }
  | members =>
      exact { h with
        userMessageTimes := fun _ => rfl
        userMediaTimes := fun _ => rfl
        chatMediaTimes := fun _ => rfl }
  | media =>
      exact { SameReads.refl _ with
        userMediaTimes := h.userMediaTimes
        chatMediaTimes := h.chatMediaTimes }

theorem sameReads_of_restrict {w' : AdapterWindows}
    (h : ∀ part, SameReads (restrict part w) (restrict part w')) : SameReads w w' :=
  { h .members with
    userMessageTimes := (h .times).userMessageTimes
    userMediaTimes := (h .media).userMediaTimes
    chatMediaTimes := (h .media).chatMediaTimes }

theorem restrict_apply_of_ne {e : Event} {part : Part} (h : e.part ≠ part) :
    restrict part (w.apply e) = restrict part w := by
  cases e with
  | velocity userId now => cases part <;> first | rfl | exact absurd rfl h
  | joined userId chatId timestamp => cases part <;> first | rfl | exact absurd rfl h
  | member chatId timestamp => cases part <;> first | rfl | exact absurd rfl h
  | message userId chatId timestamp mediaPresent linkPresent =>
      cases part <;> first | rfl | exact absurd rfl h
  | media userId chatId timestamp mediaPresent =>
      cases mediaPresent <;> cases part <;> first | rfl | exact absurd rfl h

theorem restrict_apply_part (e : Event) :
    restrict e.part (w.apply e) = (restrict e.part w).apply e := by
  cases e with
  | velocity | joined | member | message => rfl
  | media userId chatId timestamp mediaPresent => cases mediaPresent <;> rfl

theorem restrict_applyAll_of_ne {events : List Event} {part : Part}
    (h : ∀ e ∈ events, e.part ≠ part) (w : AdapterWindows) :
    restrict part (w.applyAll events) = restrict part w := by
  induction events generalizing w with
  | nil => rfl
  | cons e events ih =>
      rw [List.forall_mem_cons] at h
      rw [applyAll, List.foldl_cons]
      exact (ih h.2 _).trans (restrict_apply_of_ne h.1)

/-- Of events on different parts each leaves no trace if they leave none together. -/
theorem repeats_of_applyAll {events : List Event} (hparts : (events.map Event.part).Nodup)
    (h : SameReads (w.applyAll events) w) : ∀ e ∈ events, Repeats w e := by
  intro e he
  obtain ⟨front, back, rfl⟩ := List.append_of_mem he
  rw [List.map_append, List.map_cons, List.nodup_append, List.nodup_cons] at hparts
  obtain ⟨-, ⟨hback, -⟩, hfront⟩ := hparts
  have hfrontParts : ∀ other ∈ front, other.part ≠ e.part := fun other hother =>
    hfront _ (List.mem_map_of_mem hother) _ List.mem_cons_self
  have hbackParts : ∀ other ∈ back, other.part ≠ e.part :=
    fun other hother heq => hback (heq ▸ List.mem_map_of_mem hother)
  refine (sameReads_apply_iff e).mp (sameReads_of_restrict fun part => ?_)
  by_cases hpart : e.part = part
  · subst hpart
    have hall : restrict e.part (w.applyAll (front ++ e :: back)) =
        restrict e.part (w.apply e) := by
      rw [applyAll_append, applyAll, List.foldl_cons, restrict_apply_part]
      refine (restrict_applyAll_of_ne hbackParts _).trans ?_
      rw [restrict_apply_part, restrict_applyAll_of_ne hfrontParts]
    rw [← hall]
    exact h.restrict _
  · rw [restrict_apply_of_ne hpart]
    exact SameReads.refl _

theorem repeats_of_member {joined : List Event} {userId chatId : String} {t : ℚ}
    (hjoined : joined = [] ∨ joined = [.joined userId chatId t])
    (h : SameReads (w.applyAll (joined ++ [.member chatId t])) w) :
    ∀ e ∈ joined ++ [.member chatId t], Repeats w e := by
  rcases hjoined with rfl | rfl
  · intro e he
    rw [List.mem_singleton.mp he]
    exact (sameReads_member_iff chatId t).mp h
  · have hidle : SameReads (w.applyAll [.joined userId chatId t, .member chatId t])
        (w.apply (.joined userId chatId t)) := by
      refine (sameReads_member_iff chatId t).mpr ?_
      have hwindow : windowAt (w.apply (.joined userId chatId t)).chatJoinTimes chatId =
          prune id (t - 60) (push 250 (windowAt w.chatJoinTimes chatId) t) :=
        windowAt_set_self _ _ _
      rw [Repeats, hwindow]
      exact fresh_prune _ _ _
    have hsame : SameReads (w.apply (.joined userId chatId t)) w := hidle.symm.trans h
    have hrepeats := (sameReads_joined_iff userId chatId t).mp hsame
    have hfresh : Fresh id (t - 60) (List.replicate 250 t) := fresh_replicate 250 (by simp)
    rw [← hrepeats.2.2.2.2.1] at hfresh
    intro e he
    cases List.mem_cons.mp he with
    | inl heq =>
        rw [heq]
        exact hrepeats
    | inr hmem =>
        rw [List.mem_singleton.mp hmem]
        exact hfresh

end

end AdapterWindows

/-! ## Updates -/

section
variable {rt : TextRuntime} (host : AdapterHost rt)

/-- The text that a message puts among the recent ones of its user, if it is read so far. -/
def messageText (moment : Moment) (message : Json) : Option (String × String) :=
  match readOpening host moment message with
  | .error _ => none
  | .ok opening =>
      match velocityEvents host moment opening, readText opening.text with
      | .ok _, .ok text => some (opening.userId, text)
      | _, _ => none

def writtenText (a : Arrival) : Option (String × String) :=
  match received a.update with
  | .message message => messageText host a.moment message
  | _ => none

def writeText (texts : Dict String (List String)) :
    Option (String × String) → Dict String (List String)
  | none => texts
  | some (userId, text) => texts.set userId (push 10 (windowAt texts userId) text)

/-- An update that writes only what its windows are full of, or fails before it writes. -/
structure WritesWhatIsThere (s : AdapterState) (a : Arrival) : Prop where
  windows : ∀ e ∈ updateEvents host a, Repeats s.windows e
  text : ∀ written, writtenText host a = some written →
    windowAt s.recentTexts written.1 = List.replicate 10 written.2

end

section
variable {rt : TextRuntime} {host : AdapterHost rt} {s : AdapterState} {a : Arrival}

theorem parts_velocityEvents {opening : Opening} {moment : Moment} {velocity : List Event}
    (h : velocityEvents host moment opening = .ok velocity) :
    (velocity.map Event.part).Sublist [.times] := by
  unfold velocityEvents at h
  split at h
  · cases h
    exact List.nil_sublist _
  · obtain ⟨now, -, rfl⟩ := Fallible.map_eq_ok_iff.mp h
    exact List.Sublist.refl _

variable (host) in
theorem parts_placedEvents (message : Json) (opening : Opening) :
    ((placedEvents host message opening).map Event.part).Sublist [.members, .media] := by
  unfold placedEvents
  split
  · split
    · exact List.Sublist.refl _
    · exact List.sublist_append_left [Part.members] [Part.media]
  · exact List.nil_sublist _

theorem parts_messageEvents (moment : Moment) (message : Json) :
    ((messageEvents host moment message).map Event.part).Nodup := by
  unfold messageEvents
  cases readOpening host moment message with
  | error e => exact List.nodup_nil
  | ok opening =>
      dsimp only
      cases hvelocity : velocityEvents host moment opening with
      | error e => exact List.nodup_nil
      | ok velocity =>
          dsimp only
          rw [List.map_append]
          have hsub := (parts_velocityEvents hvelocity).append
            (parts_placedEvents host message opening)
          exact List.Nodup.sublist hsub (by decide)

theorem repeats_of_updateEvents
    (h : SameReads (s.windows.applyAll (updateEvents host a)) s.windows) :
    ∀ e ∈ updateEvents host a, Repeats s.windows e := by
  unfold updateEvents at h ⊢
  cases hreceived : received a.update with
  | other => simp
  | message message =>
      rw [hreceived] at h
      exact repeats_of_applyAll (parts_messageEvents a.moment message) h
  | chatMember chatMember =>
      rw [hreceived] at h
      dsimp only at h ⊢
      unfold memberEvents at h ⊢
      cases hreading : readChatMember host a.moment chatMember with
      | error e => simp
      | ok reading =>
          rw [hreading] at h
          have hjoined : (if reading.eventType = "member_join" then
              [Event.joined reading.userId reading.chatId reading.timestamp] else []) = [] ∨
                (if reading.eventType = "member_join" then
                  [Event.joined reading.userId reading.chatId reading.timestamp] else []) =
                    [.joined reading.userId reading.chatId reading.timestamp] := by
            split
            · exact .inr rfl
            · exact .inl rfl
          exact repeats_of_member hjoined h

/-! ## Texts -/

/-- A method that leaves the recent texts alone. -/
def KeepsTexts {α : Type} (m : Raising AdapterState PyError α) : Prop :=
  ∀ s, (outcome m s).2.recentTexts = s.recentTexts

theorem keepsTexts_pure {α : Type} (x : α) : KeepsTexts (pure x) := fun _ => rfl

theorem keepsTexts_attempt {α : Type} (x : Except PyError α) : KeepsTexts (attempt x) :=
  fun _ => rfl

theorem keepsTexts_onWindows {α : Type} (f : AdapterWindows → α × AdapterWindows) :
    KeepsTexts (onWindows f) := fun _ => rfl

theorem keepsTexts_bind {α β : Type} {m : Raising AdapterState PyError α}
    {f : α → Raising AdapterState PyError β} (hm : KeepsTexts m) (hf : ∀ x, KeepsTexts (f x)) :
    KeepsTexts (m >>= f) := by
  intro s
  have hfirst := hm s
  rw [outcome_bind]
  revert hfirst
  rcases outcome m s with ⟨result, after⟩
  intro hfirst
  cases result with
  | error e => exact hfirst
  | ok x => exact (hf x after).trans hfirst

/-- Texts after a method whose continuation leaves them alone. -/
theorem recentTexts_bind {α β : Type} {m : Raising AdapterState PyError α}
    {f : α → Raising AdapterState PyError β} (hf : ∀ x, KeepsTexts (f x)) (s : AdapterState) :
    (outcome (m >>= f) s).2.recentTexts = (outcome m s).2.recentTexts := by
  rw [outcome_bind]
  rcases outcome m s with ⟨result, after⟩
  cases result with
  | error e => rfl
  | ok x => exact hf x after

theorem recentTexts_observeMessage (moment : Moment) (message : Json) (s : AdapterState) :
    (outcome (observeMessage host moment message) s).2.recentTexts =
      writeText s.recentTexts (messageText host moment message) := by
  unfold observeMessage messageText
  rw [outcome_bind, outcome_attempt]
  cases readOpening host moment message with
  | error e => rfl
  | ok opening =>
      dsimp only
      rw [outcome_bind]
      cases hvelocity : velocityEvents host moment opening with
      | error e =>
          rw [messageVelocity_error hvelocity]
          rfl
      | ok velocity =>
          obtain ⟨count, hcount⟩ := messageVelocity_ok s hvelocity
          rw [hcount]
          dsimp only
          rw [recentTexts_bind]
          · cases htext : readText opening.text with
            | error e =>
                rw [analyzeText_error htext]
                rfl
            | ok text =>
                rw [analyzeText, htext, outcome_bind, outcome_attempt]
                rfl
          · intro text
            refine keepsTexts_bind (keepsTexts_attempt _) fun placement => ?_
            refine keepsTexts_bind (keepsTexts_onWindows _) fun community => ?_
            refine keepsTexts_bind (keepsTexts_attempt _) fun age => ?_
            refine keepsTexts_bind (keepsTexts_onWindows _) fun activity => ?_
            exact keepsTexts_bind (keepsTexts_attempt _) fun safety => keepsTexts_pure _

theorem keepsTexts_analyzeMember (moment : Moment) (chatMember : Json) :
    KeepsTexts (analyzeMember host moment chatMember) := by
  refine keepsTexts_bind (keepsTexts_attempt _) fun reading => ?_
  refine keepsTexts_bind (keepsTexts_onWindows _) fun community => ?_
  refine keepsTexts_bind (keepsTexts_attempt _) fun oldMember => ?_
  refine keepsTexts_bind (keepsTexts_attempt _) fun status => ?_
  refine keepsTexts_bind (keepsTexts_attempt _) fun age => ?_
  refine keepsTexts_bind (keepsTexts_attempt _) fun entropy => ?_
  exact keepsTexts_bind (keepsTexts_attempt _) fun timestamp => keepsTexts_pure _

variable (host) in
theorem recentTexts_receive (s : AdapterState) (a : Arrival) :
    (receive host s a).recentTexts = writeText s.recentTexts (writtenText host a) := by
  unfold receive TelegramAdapter.parseUpdate writtenText
  cases received a.update with
  | other => rfl
  | chatMember chatMember =>
      dsimp only
      rw [state_of_event]
      exact keepsTexts_analyzeMember a.moment chatMember s
  | message message =>
      dsimp only
      rw [state_of_event, analyzeMessage, recentTexts_bind]
      · exact recentTexts_observeMessage a.moment message s
      · intro o
        refine keepsTexts_bind (keepsTexts_attempt _) fun provider => ?_
        exact keepsTexts_bind (keepsTexts_attempt _) fun timestamp => keepsTexts_pure _

theorem writeText_eq_iff {texts : Dict String (List String)} {written : Option (String × String)} :
    (∀ k, windowAt (writeText texts written) k = windowAt texts k) ↔
      ∀ p, written = some p → windowAt texts p.1 = List.replicate 10 p.2 := by
  cases written with
  | none => simp [writeText]
  | some p =>
      obtain ⟨userId, text⟩ := p
      rw [writeText, windowAt_set_eq_iff, push_eq_self_iff (by norm_num)]
      simp

/-! ## Failed updates -/

/-- An update leaves no trace exactly where it writes what is there. -/
theorem receive_sameReads_iff :
    (receive host s a).SameReads s ↔ WritesWhatIsThere host s a := by
  have hwindows : (receive host s a).windows.SameReads s.windows ↔
      ∀ e ∈ updateEvents host a, Repeats s.windows e := by
    rw [windows_receive]
    exact ⟨repeats_of_updateEvents, sameReads_applyAll⟩
  have htexts := @writeText_eq_iff s.recentTexts (writtenText host a)
  rw [← recentTexts_receive host] at htexts
  exact ⟨fun h => ⟨hwindows.mp h.windows, htexts.mp h.recentTexts⟩,
    fun h => ⟨hwindows.mpr h.windows, htexts.mpr h.text⟩⟩

theorem receiveAll_append_singleton (arrivals : List Arrival) (a : Arrival) :
    receiveAll host (arrivals ++ [a]) = receive host (receiveAll host arrivals) a := by
  rw [receiveAll, List.foldl_append]
  rfl

variable (host) in
def Fails (arrivals : List Arrival) (a : Arrival) : Prop := ∃ e, eventAfter host arrivals a = .error e

variable (host) in
/-- The adapter is as before the update, which is parsed as at first when it is delivered
again. -/
structure LeavesNoTrace (arrivals : List Arrival) (a : Arrival) : Prop where
  state : (receiveAll host (arrivals ++ [a])).SameReads (receiveAll host arrivals)
  redelivery : ∀ moment, eventAfter host (arrivals ++ [a]) ⟨moment, a.update⟩ =
    eventAfter host arrivals ⟨moment, a.update⟩

theorem leavesNoTrace_iff (arrivals : List Arrival) (a : Arrival) :
    LeavesNoTrace host arrivals a ↔ WritesWhatIsThere host (receiveAll host arrivals) a := by
  rw [← receive_sameReads_iff, ← receiveAll_append_singleton]
  exact ⟨LeavesNoTrace.state, fun h => ⟨h, fun _ => parseUpdate_eq_of_sameReads h a.update⟩⟩

/-- A message whose entities are no list. -/
def malformedEntities : Arrival := messageArrival "message" 7 1 1000 [("entities", .num 5)]

end

end TruePresenceESE.Telegram
