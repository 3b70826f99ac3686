import TruePresenceESE.Sdk.Typing
import TruePresenceESE.Sdk.Validation

/-! # The times a summary reports

Each of them is the difference of two times that the listeners keep. Under a clock that
does not run backwards the two lie in order, but for a field that is focused again after
its input and for inputs after the last submission.
-/

namespace TruePresenceESE.Sdk.Typing

open Collector

/-! ## The reported times -/

def ChallengeSection.timings (challenge : ChallengeSection) : List (Option ℚ) :=
  [challenge.promptRenderToFirstInputMs, challenge.responseLatencyMs, challenge.typingDurationMs]

/-- The durations and latencies of a summary. -/
def Summary.timings (summary : Summary) : List (Option ℚ) :=
  [summary.typing.focusToFirstInputMs, summary.typing.promptRenderToFirstInputMs,
    summary.typing.typingDurationMs, summary.typing.lastInputToSubmitMs,
    summary.typingSummary.lastInputToSubmitMs, summary.agentic.submitAfterInstantInputMs] ++
    (summary.challenge.elim [] ChallengeSection.timings)

def TimingsValid (summary : Summary) : Prop := ∀ timing ∈ summary.timings, ∀ ms ∈ timing, 0 ≤ ms

instance (summary : Summary) : Decidable (TimingsValid summary) :=
  inferInstanceAs (Decidable (∀ timing ∈ summary.timings, ∀ ms ∈ timing, 0 ≤ ms))

/-- The feature models take the times of a summary exactly where none is negative. -/
theorem timingsValid_iff_accepted {c : Coercions} (hfloat : ∀ q, c.float (.num q) = some q)
    {summary : Summary} : TimingsValid summary ↔
      ∀ timing ∈ summary.timings, (orNone c.nonneg (numberOrNull timing)).isSome = true := by
  refine forall₂_congr fun timing _ => ?_
  cases timing with
  | none => simp [numberOrNull, orNone]
  | some ms =>
      have hread : (c.nonneg (.num ms)).isSome = true ↔ 0 ≤ ms := by
        rw [Coercions.nonneg, hfloat, Option.bind_some]
        split
        next hms => exact ⟨fun _ => hms, fun _ => rfl⟩
        next hms => exact ⟨nofun, fun h => absurd h hms⟩
      simpa [numberOrNull, orNone] using hread.symm

/-! ## Sequences of events -/

variable {Field : Type}

section
variable [DecidableEq Field]

/-- Events are those of fields that are tracked. -/
def OnTracked (c : Collector Field) (event : Event Field) : Prop :=
  match event.action with
  | .on field _ => field ∈ c.fields.keys
  | _ => True

instance (c : Collector Field) : (event : Event Field) → Decidable (OnTracked c event)
  | ⟨_, .on field _⟩ => inferInstanceAs (Decidable (field ∈ c.fields.keys))
  | ⟨_, .track _ _⟩ => isTrue trivial
  | ⟨_, .submit⟩ => isTrue trivial

def EventsOnTracked (events : List (Event Field)) : Prop :=
  Isolation.AlongRun Collector.step OnTracked {} events

instance (events : List (Event Field)) : Decidable (EventsOnTracked events) :=
  inferInstanceAs (Decidable (Isolation.AlongRun Collector.step OnTracked {} events))

end

def Nondecreasing (events : List (Event Field)) : Prop := (events.map (·.now)).Pairwise (· ≤ ·)

instance (events : List (Event Field)) : Decidable (Nondecreasing events) :=
  inferInstanceAs (Decidable ((events.map (·.now)).Pairwise (· ≤ ·)))

/-- The times of the events of one kind. -/
def timesOf (kind : Action Field → Bool) (events : List (Event Field)) : List ℚ :=
  (events.filter (kind ·.action)).map (·.now)

section
variable [DecidableEq Field]

def isFocusOf (field : Field) : Action Field → Bool
  | .on other (.focus _) => other = field
  | _ => false

end

def isInput : Action Field → Bool
  | .on _ (.input _) => true
  | _ => false

def isFocus : Action Field → Bool
  | .on _ (.focus _) => true
  | _ => false

def isSubmit : Action Field → Bool
  | .submit => true
  | _ => false

section
variable [DecidableEq Field]

/-- Some field was not focused again after the first input, unless none was focused. -/
def FocusedFirst (events : List (Event Field)) : Prop :=
  timesOf isFocus events = [] ∨ ∃ field, ∃ focus ∈ (timesOf (isFocusOf field) events).getLast?,
    ∀ input ∈ timesOf isInput events, focus ≤ input

end

/-- No input comes after the last submission. -/
def SubmittedLast (events : List (Event Field)) : Prop :=
  ∀ submit ∈ (timesOf isSubmit events).getLast?, ∀ input ∈ timesOf isInput events, input ≤ submit

/-! ## What the listeners keep -/

section
variable {events : List (Event Field)} {kind : Action Field → Bool}

theorem timesOf_concat (event : Event Field) : timesOf kind (events ++ [event]) =
    timesOf kind events ++ if kind event.action then [event.now] else [] := by
  rw [timesOf, List.filter_append, List.map_append, ← timesOf, List.filter_singleton]
  cases kind event.action <;> rfl

theorem mem_timesOf {time : ℚ} :
    time ∈ timesOf kind events ↔ ∃ event ∈ events, kind event.action = true ∧ event.now = time := by
  simp [timesOf, and_assoc]

theorem pairwise_timesOf (h : Nondecreasing events) : (timesOf kind events).Pairwise (· ≤ ·) :=
  h.sublist (List.filter_sublist.map _)

theorem head?_le {times : List ℚ} {m : ℚ} (h : times.Pairwise (· ≤ ·)) (hm : times.head? = some m) :
    ∀ t ∈ times, m ≤ t := by
  obtain ⟨rest, rfl⟩ := List.head?_eq_some_iff.mp hm
  intro t ht
  rcases List.mem_cons.mp ht with rfl | ht
  · exact le_rfl
  · exact List.rel_of_pairwise_cons h ht

theorem le_getLast? {times : List ℚ} {m : ℚ} (h : times.Pairwise (· ≤ ·))
    (hm : times.getLast? = some m) : ∀ t ∈ times, t ≤ m := by
  obtain ⟨rest, rfl⟩ := List.getLast?_eq_some_iff.mp hm
  intro t ht
  rcases List.mem_append.mp ht with ht | ht
  · exact (List.pairwise_append.mp h).2.2 t ht m (List.mem_singleton_self m)
  · exact (List.mem_singleton.mp ht).le

end

section
variable [DecidableEq Field]

/-- The times that a field's state keeps, by the events of the field. -/
structure KeepsTimes (events : List (Event Field)) (field : Field) (s : FieldState) : Prop where
  first : s.firstInputAt = (timesOf (isInputOf field) events).head?
  last : s.lastInputAt = (timesOf (isInputOf field) events).getLast?
  focus : s.focusAt = (timesOf (isFocusOf field) events).getLast?
  large : ∀ time ∈ s.lastLargeInstantDeltaAt, time ∈ timesOf (isInputOf field) events
  prompt : ∃ event ∈ events, event.now = s.promptRenderAt
  promptFirst : ∀ time ∈ timesOf (isInputOf field) events, s.promptRenderAt ≤ time

structure Keeps (events : List (Event Field)) (c : Collector Field) : Prop where
  field : ∀ field s, c.fields.get? field = some s → KeepsTimes events field s
  untracked : ∀ field, c.fields.get? field = none →
    timesOf (isInputOf field) events = [] ∧ timesOf (isFocusOf field) events = []
  submit : c.submitAt = (timesOf isSubmit events).getLast?

/-! ## One event -/

variable {events : List (Event Field)} {field : Field} {s : FieldState} {now : ℚ}

theorem input_times (s : FieldState) (now : ℚ) (length : ℕ) :
    (s.input now length).firstInputAt = s.firstInputAt.or (some now) ∧
      (s.input now length).lastInputAt = some now ∧
      (s.input now length).focusAt = s.focusAt ∧
      (s.input now length).promptRenderAt = s.promptRenderAt ∧
      ((s.input now length).lastLargeInstantDeltaAt = s.lastLargeInstantDeltaAt ∨
        (s.input now length).lastLargeInstantDeltaAt = some now) := by
  unfold FieldState.input
  cases s.lastLength with
  | none => simp
  | some previousLength =>
      simp only [Option.elim_some, FieldState.change]
      split
      · split
        · simp
        · split <;> simp
      · split <;> simp

/-- An event of another kind, or of another field. -/
theorem KeepsTimes.other {event : Event Field} (h : KeepsTimes events field s)
    (hinput : isInputOf field event.action = false)
    (hfocus : isFocusOf field event.action = false) :
    KeepsTimes (events ++ [event]) field s := by
  have hinputs : timesOf (isInputOf field) (events ++ [event]) = timesOf (isInputOf field) events := by
    simp [timesOf_concat, hinput]
  have hfocuses : timesOf (isFocusOf field) (events ++ [event]) = timesOf (isFocusOf field) events := by
    simp [timesOf_concat, hfocus]
  obtain ⟨source, hsource, hprompt⟩ := h.prompt
  exact ⟨hinputs ▸ h.first, hinputs ▸ h.last, hfocuses ▸ h.focus, hinputs ▸ h.large,
    ⟨source, List.mem_append_left _ hsource, hprompt⟩, hinputs ▸ h.promptFirst⟩

/-- What a listener of the field does to the times. -/
theorem KeepsTimes.handle (h : KeepsTimes events field s) {fieldEvent : FieldEvent}
    (hclock : ∀ event ∈ events, event.now ≤ now) :
    KeepsTimes (events ++ [⟨now, .on field fieldEvent⟩]) field (s.handle now fieldEvent) := by
  obtain ⟨source, hsource, hprompt⟩ := h.prompt
  have hsource' := List.mem_append_left [(⟨now, .on field fieldEvent⟩ : Event Field)] hsource
  cases fieldEvent with
  | focus length =>
      have hinputs : timesOf (isInputOf field) (events ++ [⟨now, .on field (.focus length)⟩]) =
          timesOf (isInputOf field) events := by simp [timesOf_concat, isInputOf]
      refine ⟨hinputs ▸ h.first, hinputs ▸ h.last, ?_, hinputs ▸ h.large,
        ⟨source, hsource', hprompt⟩, hinputs ▸ h.promptFirst⟩
      simp [timesOf_concat, isFocusOf, FieldState.handle, FieldState.focus]
  | keydown key =>
      have hother : KeepsTimes (events ++ [⟨now, .on field (.keydown key)⟩]) field s := h.other rfl rfl
      exact ⟨hother.first, hother.last, hother.focus, hother.large, hother.prompt,
        hother.promptFirst⟩
  | paste =>
      have hother : KeepsTimes (events ++ [⟨now, .on field .paste⟩]) field s := h.other rfl rfl
      exact ⟨hother.first, hother.last, hother.focus, hother.large, hother.prompt,
        hother.promptFirst⟩
  | invalid =>
      have hother : KeepsTimes (events ++ [⟨now, .on field .invalid⟩]) field s := h.other rfl rfl
      exact ⟨hother.first, hother.last, hother.focus, hother.large, hother.prompt,
        hother.promptFirst⟩
  | input length =>
      obtain ⟨hfirst, hlast, hfocus, hsame, hlarge⟩ := input_times s now length
      have hinputs : timesOf (isInputOf field) (events ++ [⟨now, .on field (.input length)⟩]) =
          timesOf (isInputOf field) events ++ [now] := by simp [timesOf_concat, isInputOf]
      have hfocuses : timesOf (isFocusOf field) (events ++ [⟨now, .on field (.input length)⟩]) =
          timesOf (isFocusOf field) events := by simp [timesOf_concat, isFocusOf]
      refine ⟨?_, ?_, ?_, ?_, ⟨source, hsource', hprompt.trans hsame.symm⟩, ?_⟩
      · rw [FieldState.handle, hfirst, hinputs, h.first, List.head?_append]
        rfl
      · rw [FieldState.handle, hlast, hinputs, List.getLast?_concat]
      · rw [FieldState.handle, hfocus, hfocuses, h.focus]
      · rw [FieldState.handle, hinputs]
        intro time htime
        rcases hlarge with hlarge | hlarge
        · rw [hlarge] at htime
          exact List.mem_append_left _ (h.large time htime)
        · rw [hlarge, Option.mem_some_iff] at htime
          exact List.mem_append_right _ (htime ▸ List.mem_singleton_self now)
      · rw [FieldState.handle, hinputs, hsame]
        intro time htime
        rcases List.mem_append.mp htime with htime | htime
        · exact h.promptFirst time htime
        · rw [List.mem_singleton.mp htime, ← hprompt]
          exact hclock source hsource

variable {c : Collector Field}

theorem isInputOf_ne {other : Field} {fieldEvent : FieldEvent} (h : other ≠ field) :
    isInputOf field (.on other fieldEvent) = false := by
  cases fieldEvent <;> simp [isInputOf, h]

theorem isFocusOf_ne {other : Field} {fieldEvent : FieldEvent} (h : other ≠ field) :
    isFocusOf field (.on other fieldEvent) = false := by
  cases fieldEvent <;> simp [isFocusOf, h]

/-- A field that has just been tracked had no events. -/
theorem Keeps.track (h : Keeps events c) (options : TrackOptions)
    (hfield : c.fields.get? field = none) :
    KeepsTimes (events ++ [⟨now, .track field options⟩]) field
      (FieldState.tracked now options) := by
  obtain ⟨hinputs, hfocuses⟩ := h.untracked field hfield
  have hinputs' : timesOf (isInputOf field) (events ++ [⟨now, .track field options⟩]) = [] := by
    simp [timesOf_concat, hinputs, isInputOf]
  have hfocuses' : timesOf (isFocusOf field) (events ++ [⟨now, .track field options⟩]) = [] := by
    simp [timesOf_concat, hfocuses, isFocusOf]
  refine ⟨by rw [hinputs']; rfl, by rw [hinputs']; rfl, by rw [hfocuses']; rfl, nofun,
    ⟨_, List.mem_append_right _ (List.mem_singleton_self _), rfl⟩, ?_⟩
  rw [hinputs']
  nofun

theorem Keeps.step (h : Keeps events c) {event : Event Field} (htracked : OnTracked c event)
    (hclock : ∀ before ∈ events, before.now ≤ event.now) :
    Keeps (events ++ [event]) (c.step event).2 := by
  obtain ⟨now, action⟩ := event
  cases action with
  | submit =>
      refine ⟨fun field s hs => (h.field field s hs).other rfl rfl, fun field hfield => ?_, ?_⟩
      · simpa [timesOf_concat, isInputOf, isFocusOf] using h.untracked field hfield
      · simp [Collector.step, markSubmit, timesOf_concat, isSubmit]
  | track field options =>
      have hsubmit : c.submitAt =
          (timesOf isSubmit (events ++ [⟨now, .track field options⟩])).getLast? := by
        simpa [timesOf_concat, isSubmit] using h.submit
      simp only [Collector.step, ensureState]
      cases hfield : c.fields.get? field with
      | some state =>
          refine ⟨fun other s hs => (h.field other s hs).other rfl rfl, fun other hother => ?_,
            hsubmit⟩
          simpa [timesOf_concat, isInputOf, isFocusOf] using h.untracked other hother
      | none =>
          refine ⟨fun other s hs => ?_, fun other hother => ?_, hsubmit⟩
          · rw [Dict.get?_set] at hs
            split at hs
            next hsame =>
              cases hs
              exact hsame ▸ h.track options hfield
            next => exact (h.field other s hs).other rfl rfl
          · rw [Dict.get?_set] at hother
            split at hother
            · cases hother
            · simpa [timesOf_concat, isInputOf, isFocusOf] using h.untracked other hother
  | on field fieldEvent =>
      have hsubmit : c.submitAt =
          (timesOf isSubmit (events ++ [⟨now, .on field fieldEvent⟩])).getLast? := by
        simpa [timesOf_concat, isSubmit] using h.submit
      simp only [Collector.step, dispatch]
      cases hfield : c.fields.get? field with
      | none => exact absurd htracked (Dict.get?_eq_none_iff.mp hfield)
      | some state =>
          refine ⟨fun other s hs => ?_, fun other hother => ?_, hsubmit⟩
          · rw [Dict.get?_set] at hs
            split at hs
            next hsame =>
              cases hs
              subst hsame
              exact (h.field field state hfield).handle hclock
            next hne =>
              exact (h.field other s hs).other (isInputOf_ne hne) (isFocusOf_ne hne)
          · rw [Dict.get?_set] at hother
            split at hother
            · cases hother
            next hne =>
              simpa [timesOf_concat, isInputOf_ne hne, isFocusOf_ne hne] using
                h.untracked other hother

theorem keeps_nil : Keeps [] ({} : Collector Field) := by
  refine ⟨fun field s hs => ?_, fun _ _ => ⟨rfl, rfl⟩, rfl⟩
  rw [Dict.get?_empty] at hs
  cases hs

theorem keeps_run (htracked : EventsOnTracked events) (hclock : Nondecreasing events) :
    Keeps events (run events) := by
  induction events using List.reverseRecOn with
  | nil => exact keeps_nil
  | append_singleton events event ih =>
      obtain ⟨hdone, hlast⟩ := Isolation.alongRun_append.mp htracked
      rw [Nondecreasing, List.map_append, List.pairwise_append] at hclock
      have hkeeps := ih hdone hclock.1
      have hnext := hkeeps.step hlast.1 fun before hbefore =>
        hclock.2.2 _ (List.mem_map_of_mem hbefore) _ (List.mem_singleton_self _)
      rw [run, Isolation.run, List.foldl_append]
      exact hnext

/-! ## The summary's times -/

theorem mem_states : s ∈ c.states ↔ ∃ field, c.fields.get? field = some s := Dict.mem_values

theorem isInput_iff {action : Action Field} :
    isInput action = true ↔ ∃ field, isInputOf field action = true := by
  cases action with
  | on field fieldEvent => cases fieldEvent <;> simp [isInput, isInputOf]
  | track field options => simp [isInput, isInputOf]
  | submit => simp [isInput, isInputOf]

theorem isFocus_iff {action : Action Field} :
    isFocus action = true ↔ ∃ field, isFocusOf field action = true := by
  cases action with
  | on field fieldEvent => cases fieldEvent <;> simp [isFocus, isFocusOf]
  | track field options => simp [isFocus, isFocusOf]
  | submit => simp [isFocus, isFocusOf]

omit [DecidableEq Field] in
theorem mem_timesOf_iff {kind : Action Field → Bool} {kindOf : Field → Action Field → Bool}
    {time : ℚ} (hkind : ∀ action, kind action = true ↔ ∃ field, kindOf field action = true) :
    time ∈ timesOf kind events ↔ ∃ field, time ∈ timesOf (kindOf field) events := by
  simp only [mem_timesOf, hkind]
  constructor
  · intro h
    obtain ⟨event, hevent, ⟨field, hfield⟩, htime⟩ := h
    exact ⟨field, event, hevent, hfield, htime⟩
  · intro h
    obtain ⟨field, event, hevent, hfield, htime⟩ := h
    exact ⟨event, hevent, ⟨field, hfield⟩, htime⟩

theorem mem_inputs {time : ℚ} :
    time ∈ timesOf isInput events ↔ ∃ field, time ∈ timesOf (isInputOf field) events :=
  mem_timesOf_iff fun _ => isInput_iff

theorem mem_focuses {time : ℚ} :
    time ∈ timesOf isFocus events ↔ ∃ field, time ∈ timesOf (isFocusOf field) events :=
  mem_timesOf_iff fun _ => isFocus_iff

/-- A field that had an input has a state. -/
theorem Keeps.exists_state (h : Keeps events c)
    (hevents : timesOf (isInputOf field) events ≠ [] ∨ timesOf (isFocusOf field) events ≠ []) :
    ∃ s ∈ c.states, KeepsTimes events field s := by
  cases hfield : c.fields.get? field with
  | none =>
      obtain ⟨hinputs, hfocuses⟩ := h.untracked field hfield
      rcases hevents with hevents | hevents
      · exact absurd hinputs hevents
      · exact absurd hfocuses hevents
  | some s => exact ⟨s, mem_states.mpr ⟨field, hfield⟩, h.field field s hfield⟩

theorem Keeps.of_mem_states (h : Keeps events c) (hs : s ∈ c.states) :
    ∃ field, KeepsTimes events field s := by
  obtain ⟨field, hfield⟩ := mem_states.mp hs
  exact ⟨field, h.field field s hfield⟩

/-- The first input of all the fields. -/
theorem Keeps.firstInput (h : Keeps events c) (hclock : Nondecreasing events) {time : ℚ}
    (htime : earliest (c.states.map (·.firstInputAt)) = some time) :
    time ∈ timesOf isInput events ∧ ∀ input ∈ timesOf isInput events, time ≤ input := by
  obtain ⟨hmem, hleast⟩ := earliest_spec htime
  constructor
  · obtain ⟨s, hs, hfirst⟩ := List.mem_map.mp hmem
    obtain ⟨field, hkeeps⟩ := h.of_mem_states hs
    rw [hkeeps.first] at hfirst
    exact mem_inputs.mpr ⟨field, List.mem_of_head? hfirst⟩
  · intro input hinput
    obtain ⟨field, hinput⟩ := mem_inputs.mp hinput
    obtain ⟨s, hs, hkeeps⟩ := h.exists_state (.inl (List.ne_nil_of_mem hinput))
    obtain ⟨first, hfirst⟩ := Option.ne_none_iff_exists'.mp
      (mt List.head?_eq_none_iff.mp (List.ne_nil_of_mem hinput))
    calc time ≤ first := hleast first (List.mem_map.mpr ⟨s, hs, hkeeps.first.trans hfirst⟩)
      _ ≤ input := head?_le (pairwise_timesOf hclock) hfirst input hinput

/-- The last input of all the fields. -/
theorem Keeps.lastInput (h : Keeps events c) (hclock : Nondecreasing events) {time : ℚ}
    (htime : latest (c.states.map (·.lastInputAt)) = some time) :
    time ∈ timesOf isInput events ∧ ∀ input ∈ timesOf isInput events, input ≤ time := by
  obtain ⟨hmem, hgreatest⟩ := latest_spec htime
  constructor
  · obtain ⟨s, hs, hlast⟩ := List.mem_map.mp hmem
    obtain ⟨field, hkeeps⟩ := h.of_mem_states hs
    rw [hkeeps.last] at hlast
    exact mem_inputs.mpr ⟨field, List.mem_of_getLast? hlast⟩
  · intro input hinput
    obtain ⟨field, hinput⟩ := mem_inputs.mp hinput
    obtain ⟨s, hs, hkeeps⟩ := h.exists_state (.inl (List.ne_nil_of_mem hinput))
    obtain ⟨last, hlast⟩ := Option.ne_none_iff_exists'.mp
      (mt List.getLast?_eq_none_iff.mp (List.ne_nil_of_mem hinput))
    calc input ≤ last := le_getLast? (pairwise_timesOf hclock) hlast input hinput
      _ ≤ time := hgreatest last (List.mem_map.mpr ⟨s, hs, hkeeps.last.trans hlast⟩)

/-- The earliest of one kind of times lies before that of another, where it does in each
field. -/
theorem elapsed_earliest_nonneg {states : List FieldState} {start finish : FieldState → Option ℚ}
    (h : ∀ s ∈ states, ∀ t ∈ finish s, ∃ u ∈ start s, u ≤ t) :
    ∀ ms ∈ elapsed (earliest (states.map start)) (earliest (states.map finish)), 0 ≤ ms := by
  intro ms hms
  obtain ⟨a, b, ha, hb, rfl⟩ := elapsed_eq_some.mp hms
  obtain ⟨s, hs, hfinish⟩ := List.mem_map.mp (earliest_spec hb).1
  obtain ⟨u, hu, hle⟩ := h s hs b hfinish
  have hleast := (earliest_spec ha).2 u (List.mem_map.mpr ⟨s, hs, hu⟩)
  linarith

theorem elapsed_latest_nonneg {states : List FieldState} {start finish : FieldState → Option ℚ}
    (h : ∀ s ∈ states, ∀ t ∈ start s, ∃ u ∈ finish s, t ≤ u) :
    ∀ ms ∈ elapsed (earliest (states.map start)) (latest (states.map finish)), 0 ≤ ms := by
  intro ms hms
  obtain ⟨a, b, ha, hb, rfl⟩ := elapsed_eq_some.mp hms
  obtain ⟨s, hs, hstart⟩ := List.mem_map.mp (earliest_spec ha).1
  obtain ⟨u, hu, hle⟩ := h s hs a hstart
  have hgreatest := (latest_spec hb).2 u (List.mem_map.mpr ⟨s, hs, hu⟩)
  linarith

/-- The prompt of a field was there before its inputs. -/
theorem KeepsTimes.prompt_le (h : KeepsTimes events field s) :
    ∀ t ∈ s.firstInputAt, ∃ u ∈ some s.promptRenderAt, u ≤ t := by
  intro t ht
  rw [h.first] at ht
  exact ⟨_, rfl, h.promptFirst t (List.mem_of_head? ht)⟩

theorem KeepsTimes.first_le (h : KeepsTimes events field s) (hclock : Nondecreasing events) :
    ∀ t ∈ s.firstInputAt, ∃ u ∈ s.lastInputAt, t ≤ u := by
  intro t ht
  rw [h.first] at ht
  have hmem := List.mem_of_head? ht
  obtain ⟨last, hlast⟩ := Option.ne_none_iff_exists'.mp
    (mt List.getLast?_eq_none_iff.mp (List.ne_nil_of_mem hmem))
  exact ⟨last, h.last.trans hlast, head?_le (pairwise_timesOf hclock) ht last
    (List.mem_of_getLast? hlast)⟩

theorem exists_earliest {states : List FieldState} {timeOf : FieldState → Option ℚ}
    (hs : s ∈ states) (hsome : timeOf s ≠ none) :
    ∃ time, earliest (states.map timeOf) = some time := by
  apply Option.ne_none_iff_exists'.mp
  intro hnone
  exact hsome (keepFirst_eq_none.mp hnone _ (List.mem_map_of_mem hs))

theorem exists_latest {states : List FieldState} {timeOf : FieldState → Option ℚ}
    (hs : s ∈ states) (hsome : timeOf s ≠ none) :
    ∃ time, latest (states.map timeOf) = some time := by
  apply Option.ne_none_iff_exists'.mp
  intro hnone
  exact hsome (keepFirst_eq_none.mp hnone _ (List.mem_map_of_mem hs))

theorem Keeps.exists_firstInput (h : Keeps events c) {input : ℚ}
    (hinput : input ∈ timesOf isInput events) :
    ∃ first, earliest (c.states.map (·.firstInputAt)) = some first := by
  obtain ⟨field, hfield⟩ := mem_inputs.mp hinput
  obtain ⟨s, hs, hkept⟩ := h.exists_state (.inl (List.ne_nil_of_mem hfield))
  apply exists_earliest hs
  rw [hkept.first]
  exact mt List.head?_eq_none_iff.mp (List.ne_nil_of_mem hfield)

theorem Keeps.exists_lastInput (h : Keeps events c) {input : ℚ}
    (hinput : input ∈ timesOf isInput events) :
    ∃ last, latest (c.states.map (·.lastInputAt)) = some last := by
  obtain ⟨field, hfield⟩ := mem_inputs.mp hinput
  obtain ⟨s, hs, hkept⟩ := h.exists_state (.inl (List.ne_nil_of_mem hfield))
  apply exists_latest hs
  rw [hkept.last]
  exact mt List.getLast?_eq_none_iff.mp (List.ne_nil_of_mem hfield)

theorem focus_nonneg_iff (h : Keeps events c) (hclock : Nondecreasing events) :
    (∀ ms ∈ elapsed (earliest (c.states.map (·.focusAt)))
      (earliest (c.states.map (·.firstInputAt))), 0 ≤ ms) ↔ FocusedFirst events := by
  constructor
  · intro hvalid
    by_cases hnone : timesOf isFocus events = []
    · exact .inl hnone
    · obtain ⟨time, htime⟩ := List.exists_mem_of_ne_nil _ hnone
      obtain ⟨other, hother⟩ := mem_focuses.mp htime
      obtain ⟨focused, hfocused, hkept⟩ := h.exists_state (.inr (List.ne_nil_of_mem hother))
      have hsome : focused.focusAt ≠ none := by
        rw [hkept.focus]
        exact mt List.getLast?_eq_none_iff.mp (List.ne_nil_of_mem hother)
      obtain ⟨focus, hfocus⟩ := exists_earliest hfocused hsome
      obtain ⟨s, hs, hat⟩ := List.mem_map.mp (earliest_spec hfocus).1
      obtain ⟨field, hkeeps⟩ := h.of_mem_states hs
      refine .inr ⟨field, focus, hkeeps.focus.symm.trans hat, fun input hinput => ?_⟩
      obtain ⟨first, hfirst⟩ := h.exists_firstInput hinput
      have hnonneg := hvalid _ (elapsed_eq_some.mpr ⟨focus, first, hfocus, hfirst, rfl⟩)
      have hle := (h.firstInput hclock hfirst).2 input hinput
      linarith
  · intro hfocused ms hms
    obtain ⟨a, b, ha, hb, rfl⟩ := elapsed_eq_some.mp hms
    obtain ⟨s, hs, hat⟩ := List.mem_map.mp (earliest_spec ha).1
    obtain ⟨field, hkeeps⟩ := h.of_mem_states hs
    rcases hfocused with hnone | ⟨other, focus, hfocus, hbefore⟩
    · rw [hkeeps.focus] at hat
      have hmem := mem_focuses.mpr ⟨field, List.mem_of_getLast? hat⟩
      rw [hnone] at hmem
      cases hmem
    · obtain ⟨t, ht, hkept⟩ := h.exists_state
        (.inr (List.ne_nil_of_mem (List.mem_of_getLast? hfocus)))
      have hle := (earliest_spec ha).2 focus
        (List.mem_map.mpr ⟨t, ht, hkept.focus.trans hfocus⟩)
      have hinput := hbefore b (h.firstInput hclock hb).1
      linarith

theorem submit_nonneg_iff (h : Keeps events c) (hclock : Nondecreasing events) :
    (∀ ms ∈ c.lastInputToSubmitMs, 0 ≤ ms) ↔ SubmittedLast events := by
  rw [lastInputToSubmitMs, h.submit]
  constructor
  · intro hvalid submit hsubmit input hinput
    obtain ⟨last, hlast⟩ := h.exists_lastInput hinput
    have hnonneg := hvalid _ (elapsed_eq_some.mpr ⟨last, submit, hlast, hsubmit, rfl⟩)
    have hle := (h.lastInput hclock hlast).2 input hinput
    linarith
  · intro hsubmitted ms hms
    obtain ⟨a, b, ha, hb, rfl⟩ := elapsed_eq_some.mp hms
    have hle := hsubmitted b hb a (h.lastInput hclock ha).1
    linarith

/-- A large change is an input. -/
theorem large_nonneg (h : Keeps events c) (hsubmitted : SubmittedLast events) :
    ∀ ms ∈ c.agenticSection.submitAfterInstantInputMs, 0 ≤ ms := by
  intro ms hms
  rw [agenticSection, h.submit] at hms
  obtain ⟨a, b, ha, hb, rfl⟩ := elapsed_eq_some.mp hms
  obtain ⟨s, hs, hlarge⟩ := List.mem_map.mp (latest_spec ha).1
  obtain ⟨field, hkept⟩ := h.of_mem_states hs
  have hle := hsubmitted b hb a (mem_inputs.mpr ⟨field, hkept.large a hlarge⟩)
  linarith

theorem challenge_nonneg (h : Keeps events c) (hclock : Nondecreasing events) {currentNow : ℚ}
    (hnow : ∀ event ∈ events, event.now ≤ currentNow) {challenge : ChallengeSection}
    (hchallenge : c.challengeSection currentNow = some challenge) :
    ∀ timing ∈ challenge.timings, ∀ ms ∈ timing, 0 ≤ ms := by
  have hstate : ∀ s ∈ c.challengeStates, ∃ field, KeepsTimes events field s := fun s hs =>
    h.of_mem_states (List.mem_filter.mp hs).1
  rw [challengeSection] at hchallenge
  split at hchallenge
  · cases hchallenge
    simp only [ChallengeSection.timings, List.mem_cons, List.not_mem_nil, or_false,
      forall_eq_or_imp, forall_eq]
    refine ⟨elapsed_earliest_nonneg ?_, ?_, elapsed_latest_nonneg ?_⟩
    · intro s hs
      obtain ⟨field, hkept⟩ := hstate s hs
      exact hkept.prompt_le
    · intro ms hms
      obtain ⟨prompt, hprompt, rfl⟩ := Option.map_eq_some_iff.mp hms
      obtain ⟨s, hs, hat⟩ := List.mem_map.mp (earliest_spec hprompt).1
      obtain ⟨field, hkept⟩ := hstate s hs
      obtain ⟨event, hevent, hrendered⟩ := hkept.prompt
      have hle := hnow event hevent
      cases hat
      linarith
    · intro s hs
      obtain ⟨field, hkept⟩ := hstate s hs
      exact hkept.first_le hclock
  · cases hchallenge

omit [DecidableEq Field] in
theorem duration_nonneg (c : Collector Field) : ∀ ms ∈ c.durationMs, 0 ≤ ms := by
  intro ms hms
  obtain ⟨duration, -, rfl⟩ := Option.map_eq_some_iff.mp hms
  exact le_max_left 0 duration

/-! ## The intervals between keys -/

/-- The intervals of a field under a clock that has come to `now`. -/
structure KeyTimes (now : ℚ) (s : FieldState) : Prop where
  interval : ∀ ms ∈ s.intervals, 0 ≤ ms
  last : ∀ time ∈ s.lastKeyAt, time ≤ now

theorem KeyTimes.later (h : KeyTimes now s) {later : ℚ} (hle : now ≤ later) : KeyTimes later s :=
  ⟨h.interval, fun time htime => le_trans (h.last time htime) hle⟩

theorem keyTimes_tracked (now : ℚ) (options : TrackOptions) :
    KeyTimes now (FieldState.tracked now options) :=
  ⟨List.forall_mem_nil _, fun _ htime => absurd htime (Option.not_mem_none _)⟩

/-- Only a key that goes down changes what is kept of the keys. -/
theorem KeyTimes.handle (h : KeyTimes now s) (fieldEvent : FieldEvent) :
    KeyTimes now (s.handle now fieldEvent) := by
  cases fieldEvent with
  | focus length => exact ⟨h.interval, h.last⟩
  | paste => exact ⟨h.interval, h.last⟩
  | invalid => exact ⟨h.interval, h.last⟩
  | keydown key =>
      refine ⟨fun ms hms => ?_, fun time htime => ?_⟩
      · simp only [FieldState.handle, FieldState.keydown, List.mem_append, Option.mem_toList,
          Option.map_eq_some_iff] at hms
        rcases hms with hms | ⟨time, htime, rfl⟩
        · exact h.interval ms hms
        · exact sub_nonneg.mpr (h.last time htime)
      · simp only [FieldState.handle, FieldState.keydown, Option.mem_def, Option.some.injEq] at htime
        exact htime.ge
  | input length =>
      have hsame : (s.input now length).intervals = s.intervals ∧
          (s.input now length).lastKeyAt = s.lastKeyAt := by
        unfold FieldState.input
        cases s.lastLength with
        | none => exact ⟨rfl, rfl⟩
        | some previousLength =>
            simp only [Option.elim_some, FieldState.change]
            split
            · split
              · exact ⟨rfl, rfl⟩
              · split <;> exact ⟨rfl, rfl⟩
            · split <;> exact ⟨rfl, rfl⟩
      rw [FieldState.handle]
      exact ⟨hsame.1 ▸ h.interval, hsame.2 ▸ h.last⟩

theorem keyTimes_step (h : ∀ field s, c.fields.get? field = some s → KeyTimes now s)
    {event : Event Field} (hclock : now ≤ event.now) :
    ∀ field s, (c.step event).2.fields.get? field = some s → KeyTimes event.now s := by
  obtain ⟨time, action⟩ := event
  intro field s hs
  cases action with
  | submit => exact (h field s hs).later hclock
  | track tracked options =>
      simp only [Collector.step, ensureState] at hs
      split at hs
      · exact (h field s hs).later hclock
      · rw [Dict.get?_set] at hs
        split at hs
        · cases hs
          exact keyTimes_tracked time options
        · exact (h field s hs).later hclock
  | on target fieldEvent =>
      simp only [Collector.step, dispatch] at hs
      split at hs
      · exact (h field s hs).later hclock
      next state hstate =>
        rw [Dict.get?_set] at hs
        split at hs
        · cases hs
          exact ((h target state hstate).later hclock).handle fieldEvent
        · exact (h field s hs).later hclock

/-- Under a clock that does not run backwards no interval between keys is negative. -/
theorem keyTimes_run (hclock : Nondecreasing events) (hnow : ∀ event ∈ events, event.now ≤ now) :
    ∀ field s, (run events).fields.get? field = some s → KeyTimes now s := by
  induction events using List.reverseRecOn generalizing now with
  | nil =>
      intro field s hs
      rw [run, Isolation.run, List.foldl_nil, Dict.get?_empty] at hs
      cases hs
  | append_singleton events event ih =>
      rw [Nondecreasing, List.map_append, List.pairwise_append] at hclock
      have hbefore := ih hclock.1 fun before hbefore =>
        hclock.2.2 _ (List.mem_map_of_mem hbefore) _ (List.mem_singleton_self event.now)
      intro field s hs
      rw [run, Isolation.run, List.foldl_append] at hs
      exact (keyTimes_step hbefore le_rfl field s hs).later (hnow event (by simp))

theorem allIntervals_nonneg (hclock : Nondecreasing events) :
    ∀ ms ∈ (run events).allIntervals, 0 ≤ ms := by
  intro ms hms
  obtain ⟨s, hs, hms⟩ := List.mem_flatMap.mp hms
  obtain ⟨field, hfield⟩ := mem_states.mp hs
  cases hlast : (events.map (·.now)).getLast? with
  | none =>
      rw [List.getLast?_eq_none_iff, List.map_eq_nil_iff] at hlast
      rw [hlast, run, Isolation.run, List.foldl_nil, Dict.get?_empty] at hfield
      cases hfield
  | some now =>
      have hnow : ∀ event ∈ events, event.now ≤ now := fun event hevent =>
        le_getLast? hclock hlast _ (List.mem_map_of_mem hevent)
      exact (keyTimes_run hclock hnow field s hfield).interval ms hms

/-- The times of a summary are valid exactly where some field was not focused again after the
first input and no input comes after the last submission. -/
theorem timings_valid_iff {Field : Type} [DecidableEq Field] {events : List (Event Field)}
    (htracked : EventsOnTracked events) (hclock : Nondecreasing events) {currentNow : ℚ}
    (hnow : ∀ event ∈ events, event.now ≤ currentNow) (sqrt : ℚ → ℚ) :
    TimingsValid ((run events).summarize sqrt currentNow) ↔
      FocusedFirst events ∧ SubmittedLast events := by
  have hkeeps := keeps_run htracked hclock
  rw [← focus_nonneg_iff hkeeps hclock, ← submit_nonneg_iff hkeeps hclock]
  constructor
  · intro hvalid
    exact ⟨hvalid _ (by simp [Summary.timings, summarize, typingSection]),
      hvalid _ (by simp [Summary.timings, summarize, typingSection])⟩
  · intro hvalid timing htiming
    rw [Summary.timings, List.mem_append] at htiming
    rcases htiming with htiming | htiming
    · simp only [List.mem_cons, List.not_mem_nil, or_false] at htiming
      rcases htiming with rfl | rfl | rfl | rfl | rfl | rfl
      · exact hvalid.1
      · apply elapsed_earliest_nonneg
        intro s hs
        obtain ⟨field, hkept⟩ := hkeeps.of_mem_states hs
        exact hkept.prompt_le
      · exact duration_nonneg (run events)
      · exact hvalid.2
      · exact hvalid.2
      · exact large_nonneg hkeeps ((submit_nonneg_iff hkeeps hclock).mp hvalid.2)
    · cases hchallenge : ((run events).summarize sqrt currentNow).challenge with
      | none => simp [hchallenge] at htiming
      | some challenge =>
          rw [hchallenge, Option.elim_some] at htiming
          exact challenge_nonneg hkeeps hclock hnow hchallenge timing htiming

end

/-- A field that is focused again after its input. -/
def refocused : List (Event ℕ) :=
  [⟨0, .track 1 ⟨false, none, none, none⟩⟩, ⟨1, .on 1 (.focus 0)⟩, ⟨2, .on 1 (.input 1)⟩,
    ⟨3, .on 1 (.focus 1)⟩, ⟨4, .submit⟩]

theorem timings_valid_before_refocus :
    TimingsValid ((run (refocused.take 3)).summarize id 5) ↔
      FocusedFirst (refocused.take 3) ∧ SubmittedLast (refocused.take 3) :=
  timings_valid_iff (by decide +kernel) (by decide +kernel) (by decide +kernel) id

/-- The last focus is taken for the first one, and its latency is negative. -/
theorem refocused_timings_invalid : EventsOnTracked refocused ∧ Nondecreasing refocused ∧
    ¬TimingsValid ((run refocused).summarize id 5) := by
  decide +kernel

end TruePresenceESE.Sdk.Typing
