import TruePresenceESE.Telegram.AdapterRuns

/-! # Message velocity

The times of a user's messages are kept in the order in which the messages arrive and
pruned from the oldest entry on. As long as the dates of each user arrive in order, the
velocity counts the messages of the last minute; an edited message comes with the date of
the original, and then later messages count as well.
-/

namespace TruePresenceESE.Telegram

open AdapterWindows PyValue Raising Window

/-! ## Times of messages -/

def velocityTimeOf (userId : String) : Event → Option ℚ
  | .velocity user now => if user = userId then some now else none
  | _ => none

/-- When the user's messages were, as velocity has it. -/
def velocityTimes (userId : String) (events : List Event) : List ℚ :=
  events.filterMap (velocityTimeOf userId)

/-- Cutoffs of a minute before now, with no message after now. -/
def AskedByVelocity (times : List ℚ) (cutoff : ℚ) : Prop := ∀ time ∈ times, time - 60 ≤ cutoff

/-- The user's window serves every later message. -/
def TracksVelocity (userId : String) (w : AdapterWindows) (events : List Event) : Prop :=
  Tracks 100 id (AskedByVelocity (velocityTimes userId events))
    (windowAt w.userMessageTimes userId) (velocityTimes userId events)

section
variable {userId : String} {w : AdapterWindows} {events : List Event} {e : Event} {now : ℚ}

/-- Only velocity writes the times of messages. -/
theorem userMessageTimes_apply (h : ∀ user now, e ≠ .velocity user now) :
    (w.apply e).userMessageTimes = w.userMessageTimes := by
  cases e with
  | velocity user now => exact absurd rfl (h user now)
  | joined user chatId timestamp => rfl
  | member chatId timestamp => rfl
  | message user chatId timestamp mediaPresent linkPresent => rfl
  | media user chatId timestamp mediaPresent =>
      unfold AdapterWindows.apply observeMedia
      dsimp only
      split <;> rfl

/-- The window before it is pruned serves the message that was pushed. -/
theorem tracks_pushed (h : TracksVelocity userId w events)
    (horder : InOrder id (velocityTimes userId events ++ [now])) :
    Tracks 100 id (AskedByVelocity (velocityTimes userId events ++ [now]))
      (push 100 (windowAt w.userMessageTimes userId) now) (velocityTimes userId events ++ [now]) :=
  (h.mono fun _ hasked time htime => hasked time (List.mem_append_left _ htime)).push horder

theorem tracksVelocity_apply (h : TracksVelocity userId w events)
    (horder : InOrder id (velocityTimes userId (events ++ [e]))) :
    TracksVelocity userId (w.apply e) (events ++ [e]) := by
  unfold TracksVelocity velocityTimes at *
  rw [List.filterMap_append] at horder ⊢
  by_cases hvelocity : ∃ user now, e = .velocity user now
  · obtain ⟨user, now, rfl⟩ := hvelocity
    by_cases huser : user = userId
    · subst huser
      simp only [List.filterMap_cons, velocityTimeOf, if_true, List.filterMap_nil] at horder ⊢
      have hpushed := tracks_pushed h horder
      rw [AdapterWindows.apply, calcMessageVelocity, windowAt_set_self]
      exact hpushed.prune fun later hlater => hlater now (by simp)
    · simp only [List.filterMap_cons, velocityTimeOf, if_neg huser, List.filterMap_nil,
        List.append_nil]
      rw [AdapterWindows.apply, calcMessageVelocity, windowAt_set, if_neg huser]
      exact h
  · have hnone : velocityTimeOf userId e = none := by
      cases e with
      | velocity user now => exact absurd ⟨user, now, rfl⟩ hvelocity
      | _ => rfl
    rw [userMessageTimes_apply fun user now heq => hvelocity ⟨user, now, heq⟩]
    simpa only [List.filterMap_cons, hnone, List.filterMap_nil, List.append_nil] using h

theorem tracksVelocity_applyAll (events : List Event)
    (horder : InOrder id (velocityTimes userId events)) :
    TracksVelocity userId (AdapterWindows.empty.applyAll events) events := by
  induction events using List.reverseRecOn with
  | nil => exact tracks_nil
  | append_singleton events e ih =>
      have hinit : InOrder id (velocityTimes userId events) :=
        horder.sublist ((List.sublist_append_left events [e]).filterMap _)
      rw [applyAll_append]
      exact tracksVelocity_apply (ih hinit) horder

/-- What velocity reports counts the times of the last minute. -/
theorem calcMessageVelocity_eq (h : TracksVelocity userId w events)
    (horder : InOrder id (velocityTimes userId events ++ [now])) :
    (w.calcMessageVelocity userId now).1 =
      min 100 ((velocityTimes userId events ++ [now]).countP fun time => decide (now - 60 ≤ time)) := by
  have hlast : AskedByVelocity (velocityTimes userId events ++ [now]) (now - 60) := by
    intro time htime
    rcases List.mem_append.mp htime with hearlier | hnow
    · exact sub_le_sub_right ((inOrder_append_singleton_iff.mp horder).2 time hearlier) 60
    · rw [List.mem_singleton.mp hnow]
  rw [calcMessageVelocity, (tracks_pushed h horder).pruned _ hlast]
  exact length_recent horder

end

/-! ## Dates of messages -/

section
variable {rt : TextRuntime} (host : AdapterHost rt)

/-- The sender and the date of a new or edited message. -/
def messageOpening (a : Arrival) : Option Opening :=
  match received a.update with
  | .message message => (readOpening host a.moment message).toOption
  | _ => none

def messageDate (a : Arrival) : Option (String × ℚ) :=
  (messageOpening host a).bind fun opening =>
    (toFloat host.parseFloat opening.date).toOption.map (opening.userId, ·)

/-- The dates of a user's messages, in the order in which the messages arrive. -/
def messageDates (userId : String) (arrivals : List Arrival) : List ℚ :=
  arrivals.filterMap fun a =>
    (messageDate host a).bind fun p => if p.1 = userId then some p.2 else none

/-- A message has a sender and a date that counts, and none of the sender's messages before
it has a later date. -/
def Punctual (before : List Arrival) (a : Arrival) : Prop :=
  ∀ opening, messageOpening host a = some opening →
    opening.userId ≠ "" ∧ PyValue.truthy opening.date = true ∧
      ∀ date, toFloat host.parseFloat opening.date = .ok date →
        ∀ earlier ∈ messageDates host opening.userId before, earlier ≤ date

end

section
variable {rt : TextRuntime} {host : AdapterHost rt} {moment : Moment} {message : Json}
  {arrivals : List Arrival} {a : Arrival} {opening : Opening} {userId : String}

theorem velocityTime_of_truthy (h : PyValue.truthy opening.date = true) :
    velocityTime host moment opening = toFloat host.parseFloat opening.date := by
  rw [velocityTime, JsonDict.orElse, if_pos h]

theorem messageDates_append_singleton :
    messageDates host userId (arrivals ++ [a]) =
      messageDates host userId arrivals ++ messageDates host userId [a] :=
  List.filterMap_append

theorem velocityTimes_placedEvents :
    velocityTimes userId (placedEvents host message opening) = [] := by
  unfold placedEvents
  split
  · split <;> rfl
  · rfl

theorem velocityTimes_memberEvents {chatMember : Json} :
    velocityTimes userId (memberEvents host moment chatMember) = [] := by
  unfold memberEvents
  split
  · rfl
  · split <;> rfl

/-- A message that is punctual is recorded with its date. -/
theorem velocityTimes_updateEvents (h : Punctual host arrivals a) :
    velocityTimes userId (updateEvents host a) = messageDates host userId [a] := by
  have hdates : messageDates host userId [a] =
      ((messageDate host a).bind fun p => if p.1 = userId then some p.2 else none).toList := by
    rw [messageDates, List.filterMap_cons, List.filterMap_nil]
    split
    · rename_i hnone; rw [hnone]; rfl
    · rename_i date hsome; rw [hsome]; rfl
  rw [hdates]
  unfold Punctual at h
  unfold messageDate updateEvents
  unfold messageOpening at h ⊢
  cases hreceived : received a.update with
  | chatMember chatMember => exact velocityTimes_memberEvents
  | other => rfl
  | message message =>
      rw [hreceived] at h
      dsimp only at h ⊢
      unfold messageEvents
      cases hopening : readOpening host a.moment message with
      | error e => rfl
      | ok opening =>
          obtain ⟨hid, hdate, -⟩ := h opening (by rw [hopening]; rfl)
          have hvelocity : velocityEvents host a.moment opening =
              (toFloat host.parseFloat opening.date).map
                fun now => [.velocity opening.userId now] := by
            rw [velocityEvents, if_neg hid, velocityTime_of_truthy hdate]
          dsimp only
          rw [hvelocity]
          cases htime : toFloat host.parseFloat opening.date with
          | error e => simp [Except.toOption, Except.map, velocityTimes, htime]
          | ok time =>
              simp only [Except.toOption, Except.map, Option.bind_some, Option.map_some, htime]
              rw [velocityTimes, List.filterMap_append, ← velocityTimes, ← velocityTimes,
                velocityTimes_placedEvents, List.append_nil]
              by_cases huser : opening.userId = userId
              · simp [velocityTimes, velocityTimeOf, huser]
              · simp [velocityTimes, velocityTimeOf, huser]

end

/-! ## Reported velocity -/

section
variable {rt : TextRuntime} {host : AdapterHost rt} {arrivals : List Arrival} {a : Arrival}
  {userId : String}

/-- Every update of the run is punctual after the ones before it. -/
def AllPunctual (host : AdapterHost rt) (arrivals : List Arrival) : Prop :=
  ∀ before a, before ++ [a] <+: arrivals → Punctual host before a

theorem AllPunctual.init (h : AllPunctual host (arrivals ++ [a])) : AllPunctual host arrivals :=
  fun before b hb => h before b (hb.trans (List.prefix_append arrivals [a]))

theorem AllPunctual.last (h : AllPunctual host (arrivals ++ [a])) : Punctual host arrivals a :=
  h arrivals a List.prefix_rfl

theorem allPunctual_nil : AllPunctual host [] := by
  intro before a h
  exact absurd (List.prefix_nil.mp h) (by simp)

theorem allPunctual_append_singleton (h : AllPunctual host arrivals)
    (ha : Punctual host arrivals a) : AllPunctual host (arrivals ++ [a]) := by
  intro before b hb
  rcases List.prefix_concat_iff.mp hb with heq | hearlier
  · obtain ⟨rfl, hlast⟩ := List.append_inj' heq rfl
    cases hlast
    exact ha
  · exact h before b hearlier

/-- In a punctual run every message is recorded with its date. -/
theorem velocityTimes_journal (h : AllPunctual host arrivals) :
    velocityTimes userId (journal host arrivals) = messageDates host userId arrivals := by
  induction arrivals using List.reverseRecOn with
  | nil => rfl
  | append_singleton arrivals a ih =>
      have hlast : journal host [a] = updateEvents host a := by simp [journal]
      rw [journal_append, velocityTimes, List.filterMap_append, ← velocityTimes, ← velocityTimes,
        ih h.init, hlast, velocityTimes_updateEvents h.last, ← messageDates_append_singleton]

theorem mem_messageDates_singleton {date : ℚ} (h : date ∈ messageDates host userId [a]) :
    ∃ opening, messageOpening host a = some opening ∧ opening.userId = userId ∧
      PyValue.toFloat host.parseFloat opening.date = .ok date := by
  simp only [messageDates, List.mem_filterMap, List.mem_singleton, exists_eq_left,
    Option.bind_eq_some_iff, messageDate, Option.map_eq_some_iff] at h
  obtain ⟨_, ⟨opening, hopening, time, htime, rfl⟩, hdate⟩ := h
  split at hdate
  · rename_i huser
    cases hdate
    refine ⟨opening, hopening, huser, ?_⟩
    cases hfloat : PyValue.toFloat host.parseFloat opening.date with
    | error e => rw [hfloat] at htime; cases htime
    | ok time => rw [hfloat] at htime; cases htime; rfl
  · cases hdate

/-- In a punctual run the dates of every user are in order. -/
theorem inOrder_messageDates (h : AllPunctual host arrivals) :
    InOrder id (messageDates host userId arrivals) := by
  induction arrivals using List.reverseRecOn with
  | nil => exact List.Pairwise.nil
  | append_singleton arrivals a ih =>
      rw [messageDates_append_singleton]
      refine List.pairwise_append.mpr ⟨ih h.init, ?_, fun earlier hearlier date hdate => ?_⟩
      · unfold messageDates
        rw [List.filterMap_cons]
        split
        · exact List.Pairwise.nil
        · exact List.pairwise_singleton _ _
      · obtain ⟨opening, hopening, rfl, htime⟩ := mem_messageDates_singleton hdate
        exact (h.last opening hopening).2.2 date htime earlier hearlier

end

def firstOfTwo : Arrival := messageArrival "message" 5 7 1000000 []

def secondOfTwo : Arrival := messageArrival "message" 5 7 1000030 []

/-- The edit of a message from before the minute. -/
def lateEdit : Arrival := messageArrival "edited_message" 5 7 999900 []

end TruePresenceESE.Telegram
