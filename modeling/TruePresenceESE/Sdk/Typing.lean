import TruePresenceESE.Lib.DictValues
import TruePresenceESE.Lib.Isolation
import TruePresenceESE.Sdk.BrowserPrivacy

/-! # The typing collector of the browser

Listeners on the tracked fields keep counts and times for each field; a summary adds them
up over the fields, in the order in which they were tracked. An event is one run of a
listener, with what the clock reads there. Times are numbers of milliseconds, and the
square root is the browser's.
-/

namespace TruePresenceESE.Sdk.Typing

/-! ## Statistics -/

def mean (values : List ℚ) : Option ℚ :=
  if values.isEmpty then none else some (values.sum / values.length)

/-- Fewer than two values deviate by nothing. -/
def stddev (sqrt : ℚ → ℚ) (values : List ℚ) : ℚ :=
  if values.length < 2 then 0
  else
    let avg := (mean values).getD 0
    sqrt ((mean (values.map fun value => (value - avg) ^ 2)).getD 0)

/-- The loop that keeps the time that comes first in an order. -/
def keepFirst (before : ℚ → ℚ → Bool) (times : List (Option ℚ)) : Option ℚ :=
  times.foldl (fun kept time =>
    match time with
    | none => kept
    | some t => if kept.all (before t) then some t else kept) none

def earliest (times : List (Option ℚ)) : Option ℚ := keepFirst (· < ·) times

def latest (times : List (Option ℚ)) : Option ℚ := keepFirst (· > ·) times

/-- `b - a`, where both are there. -/
def elapsed (start finish : Option ℚ) : Option ℚ := start.bind fun a => finish.map (· - a)

/-! ## Fields -/

structure TrackOptions where
  isChallenge : Bool
  challengeType : Option String := none
  expectedReadingTimeMs : Option ℚ := none
  /-- The number in the field's own attribute. -/
  readingData : Option ℚ := none

structure FieldState where
  correctionCount : ℕ := 0
  deleteKeyCount : ℕ := 0
  firstInputAt : Option ℚ := none
  focusAt : Option ℚ := none
  inputEventCount : ℕ := 0
  intervals : List ℚ := []
  isChallenge : Bool
  lastInputAt : Option ℚ := none
  lastKeyAt : Option ℚ := none
  lastLength : Option ℕ := none
  lastLargeInstantDeltaAt : Option ℚ := none
  largeInstantDeltaCount : ℕ := 0
  pasteCount : ℕ := 0
  promptRenderAt : ℚ
  sawLargeInstantDelta : Bool := false
  structuredRetryCount : ℕ := 0
  totalInsertedLength : ℕ := 0
  validationRepairCount : ℕ := 0
  challengeType : String
  expectedReadingTimeMs : Option ℚ

def largeInstantDeltaThreshold : ℕ := 20

/-- A field is tracked with the time at which its prompt was rendered. -/
def FieldState.tracked (now : ℚ) (options : TrackOptions) : FieldState where
  isChallenge := options.isChallenge
  promptRenderAt := now
  challengeType := (options.challengeType.filter (· ≠ "")).getD "typing_cadence"
  expectedReadingTimeMs := options.expectedReadingTimeMs.or (options.readingData.filter (· ≠ 0))

/-- An event of a field, with the length of its value where a listener reads it. -/
inductive FieldEvent where
  | focus (length : ℕ)
  | keydown (key : String)
  | paste
  | invalid
  | input (length : ℕ)

def isDeletionKey (key : String) : Bool := key = "Backspace" || key = "Delete"

namespace FieldState

def focus (s : FieldState) (now : ℚ) (length : ℕ) : FieldState :=
  { s with focusAt := some now, lastLength := s.lastLength.or (some length) }

def keydown (s : FieldState) (now : ℚ) (key : String) : FieldState :=
  let corrections := if isDeletionKey key then 1 else 0
  { s with
    intervals := s.intervals ++ (s.lastKeyAt.map (now - ·)).toList
    lastKeyAt := some now
    deleteKeyCount := s.deleteKeyCount + corrections
    correctionCount := s.correctionCount + corrections }

/-- What an input makes of a change in length. -/
def change (s : FieldState) (now : ℚ) (previousLength length : ℕ) : FieldState :=
  if previousLength < length then
    let delta := length - previousLength
    let grown := { s with totalInsertedLength := s.totalInsertedLength + delta }
    if largeInstantDeltaThreshold ≤ delta then
      { grown with
        largeInstantDeltaCount := s.largeInstantDeltaCount + 1
        lastLargeInstantDeltaAt := some now
        sawLargeInstantDelta := true }
    else if s.sawLargeInstantDelta ∧ 1 < s.inputEventCount then
      { grown with validationRepairCount := s.validationRepairCount + 1 }
    else grown
  else if length < previousLength then
    { s with
      correctionCount := s.correctionCount + 1
      validationRepairCount := s.validationRepairCount + s.sawLargeInstantDelta.toNat }
  else s

def input (s : FieldState) (now : ℚ) (length : ℕ) : FieldState :=
  let counted := { s with
    inputEventCount := s.inputEventCount + 1
    firstInputAt := s.firstInputAt.or (some now)
    lastInputAt := some now }
  { s.lastLength.elim counted (counted.change now · length) with lastLength := some length }

def handle (s : FieldState) (now : ℚ) : FieldEvent → FieldState
  | .focus length => s.focus now length
  | .keydown key => s.keydown now key
  | .paste => { s with pasteCount := s.pasteCount + 1 }
  | .invalid => { s with structuredRetryCount := s.structuredRetryCount + 1 }
  | .input length => s.input now length

end FieldState

/-! ## The collector -/

inductive Action (Field : Type) where
  | track (field : Field) (options : TrackOptions)
  | on (field : Field) (event : FieldEvent)
  | submit

structure Event (Field : Type) where
  now : ℚ
  action : Action Field

structure Collector (Field : Type) where
  actionTimestamps : List ℚ := []
  fields : Dict Field FieldState := Dict.empty
  submitAt : Option ℚ := none
  submitCount : ℕ := 0

/-- Pastes and inputs are actions. -/
def FieldEvent.isAction : FieldEvent → Bool
  | .paste => true
  | .input _ => true
  | _ => false

variable {Field : Type} [DecidableEq Field]

def isInputOf (field : Field) : Action Field → Bool
  | .on other (.input _) => other = field
  | _ => false

namespace Collector

/-- A field that is tracked already keeps its state. -/
def ensureState (c : Collector Field) (now : ℚ) (field : Field) (options : TrackOptions) :
    Collector Field :=
  match c.fields.get? field with
  | some _ => c
  | none => { c with fields := c.fields.set field (FieldState.tracked now options) }

def markSubmit (c : Collector Field) (now : ℚ) : Collector Field :=
  { c with
    submitAt := some now
    submitCount := c.submitCount + 1
    actionTimestamps := c.actionTimestamps ++ [now] }

/-- A field that is not tracked has no listeners. -/
def dispatch (c : Collector Field) (now : ℚ) (field : Field) (event : FieldEvent) :
    Collector Field :=
  match c.fields.get? field with
  | none => c
  | some state =>
      { c with
        fields := c.fields.set field (state.handle now event)
        actionTimestamps := c.actionTimestamps ++ if event.isAction then [now] else [] }

def step (c : Collector Field) (event : Event Field) : Unit × Collector Field :=
  match event.action with
  | .track field options => ((), c.ensureState event.now field options)
  | .on field fieldEvent => ((), c.dispatch event.now field fieldEvent)
  | .submit => ((), c.markSubmit event.now)

def run (events : List (Event Field)) : Collector Field := Isolation.run step {} events

/-! ## The summary -/

def states (c : Collector Field) : List FieldState := c.fields.values

def challengeStates (c : Collector Field) : List FieldState := c.states.filter (·.isChallenge)

def total (states : List FieldState) (count : FieldState → ℕ) : ℕ := (states.map count).sum

end Collector

structure TypingSection where
  meanInterKeyIntervalMs : Option ℚ
  interKeyIntervalStddevMs : ℚ
  charactersPerMinute : Option ℚ
  correctionCount : ℕ
  correctionRate : ℚ
  pasteCount : ℕ
  focusToFirstInputMs : Option ℚ
  promptRenderToFirstInputMs : Option ℚ
  typingDurationMs : Option ℚ
  lastInputToSubmitMs : Option ℚ

/-- An undefined value is left out, which reads as null. -/
def numberOrNull (number : Option ℚ) : Json := number.elim .null .num

/-- The section in the packet. -/
def TypingSection.fields (typing : TypingSection) : List (String × Json) :=
  [("mean_inter_key_interval_ms", numberOrNull typing.meanInterKeyIntervalMs),
    ("inter_key_interval_stddev_ms", .num typing.interKeyIntervalStddevMs),
    ("characters_per_minute", numberOrNull typing.charactersPerMinute),
    ("correction_count", .num typing.correctionCount),
    ("correction_rate", .num typing.correctionRate),
    ("paste_count", .num typing.pasteCount),
    ("focus_to_first_input_ms", numberOrNull typing.focusToFirstInputMs),
    ("prompt_render_to_first_input_ms", numberOrNull typing.promptRenderToFirstInputMs),
    ("typing_duration_ms", numberOrNull typing.typingDurationMs),
    ("last_input_to_submit_ms", numberOrNull typing.lastInputToSubmitMs)]

structure TypingSummary where
  deleteKeyCount : ℕ
  inputEventCount : ℕ
  lastInputToSubmitMs : Option ℚ
  maxInterKeyIntervalMs : Option ℚ
  minInterKeyIntervalMs : Option ℚ
  trackedFieldCount : ℕ

structure AgenticSection where
  largeInstantDeltaCount : ℕ
  structuredRetryCount : ℕ
  submitAfterInstantInputMs : Option ℚ
  validationRepairCount : ℕ
  actionTimestamps : List ℚ

structure ChallengeSection where
  challengeType : String
  correctionCount : ℕ
  expectedReadingTimeMs : Option ℚ
  pasteCount : ℕ
  promptRenderToFirstInputMs : Option ℚ
  responseLatencyMs : Option ℚ
  typingDurationMs : Option ℚ

structure Summary where
  agentic : AgenticSection
  challenge : Option ChallengeSection
  typing : TypingSection
  typingSummary : TypingSummary

namespace Collector

variable (c : Collector Field)

def allIntervals : List ℚ := c.states.flatMap (·.intervals)

def correctionRate : ℚ :=
  if 0 < total c.states (·.inputEventCount) then
    total c.states (·.correctionCount) / total c.states (·.inputEventCount)
  else 0

def durationMs : Option ℚ :=
  (elapsed (earliest (c.states.map (·.firstInputAt))) (latest (c.states.map (·.lastInputAt)))).map
    (max 0)

/-- A duration of zero has no pace. -/
def charactersPerMinute : Option ℚ :=
  (c.durationMs.filter (0 < ·)).map fun duration =>
    total c.states (·.totalInsertedLength) / duration * 60000

def lastInputToSubmitMs : Option ℚ := elapsed (latest (c.states.map (·.lastInputAt))) c.submitAt

def typingSection (sqrt : ℚ → ℚ) : TypingSection where
  meanInterKeyIntervalMs := mean c.allIntervals
  interKeyIntervalStddevMs := stddev sqrt c.allIntervals
  charactersPerMinute := c.charactersPerMinute
  correctionCount := total c.states (·.correctionCount)
  correctionRate := c.correctionRate
  pasteCount := total c.states (·.pasteCount)
  focusToFirstInputMs :=
    elapsed (earliest (c.states.map (·.focusAt))) (earliest (c.states.map (·.firstInputAt)))
  promptRenderToFirstInputMs :=
    elapsed (earliest (c.states.map (some ·.promptRenderAt)))
      (earliest (c.states.map (·.firstInputAt)))
  typingDurationMs := c.durationMs
  lastInputToSubmitMs := c.lastInputToSubmitMs

def typingSummary : TypingSummary where
  deleteKeyCount := total c.states (·.deleteKeyCount)
  inputEventCount := total c.states (·.inputEventCount)
  lastInputToSubmitMs := c.lastInputToSubmitMs
  maxInterKeyIntervalMs := c.allIntervals.max?
  minInterKeyIntervalMs := c.allIntervals.min?
  trackedFieldCount := c.fields.size

def agenticSection : AgenticSection where
  largeInstantDeltaCount := total c.states (·.largeInstantDeltaCount)
  structuredRetryCount := total c.states (·.structuredRetryCount) + (c.submitCount - 1)
  submitAfterInstantInputMs :=
    elapsed (latest (c.states.map (·.lastLargeInstantDeltaAt))) c.submitAt
  validationRepairCount := total c.states (·.validationRepairCount)
  actionTimestamps := c.actionTimestamps

/-- There is no challenge before it had an input. -/
def challengeSection (currentNow : ℚ) : Option ChallengeSection :=
  let states := c.challengeStates
  let promptRenderAt := earliest (states.map (some ·.promptRenderAt))
  let firstInputAt := earliest (states.map (·.firstInputAt))
  let lastInputAt := latest (states.map (·.lastInputAt))
  if 0 < total states (·.inputEventCount) then
    some {
      challengeType := states.foldl (fun kept s => if s.challengeType = "" then kept else s.challengeType)
        "typing_cadence"
      correctionCount := total states (·.correctionCount)
      expectedReadingTimeMs := (states.map (·.expectedReadingTimeMs)).foldl Option.or none
      pasteCount := total states (·.pasteCount)
      promptRenderToFirstInputMs := elapsed promptRenderAt firstInputAt
      responseLatencyMs := promptRenderAt.map (currentNow - ·)
      typingDurationMs := elapsed firstInputAt lastInputAt }
  else none

def summarize (sqrt : ℚ → ℚ) (currentNow : ℚ) : Summary where
  agentic := c.agenticSection
  challenge := c.challengeSection currentNow
  typing := c.typingSection sqrt
  typingSummary := c.typingSummary

end Collector

/-! ## What the loops over the fields find -/

section
variable {before : ℚ → ℚ → Bool} {times : List (Option ℚ)} {m : ℚ}

theorem keepFirst_concat (time : Option ℚ) : keepFirst before (times ++ [time]) =
    match time with
    | none => keepFirst before times
    | some t => if (keepFirst before times).all (before t) then some t
        else keepFirst before times := by
  rw [keepFirst, List.foldl_append]
  rfl

theorem keepFirst_eq_none : keepFirst before times = none ↔ ∀ time ∈ times, time = none := by
  induction times using List.reverseRecOn with
  | nil => simp [keepFirst]
  | append_singleton times time ih =>
      rw [keepFirst_concat]
      cases time with
      | none => simp [ih, or_imp]
      | some t =>
          dsimp only
          cases hkept : keepFirst before times with
          | none => simp
          | some kept => split <;> simp

/-- The time that is kept is one of the times, and none lies before it. -/
theorem keepFirst_spec {r : ℚ → ℚ → Prop} (hrefl : ∀ a, r a a)
    (htrans : ∀ a b c, r a b → r b c → r a c) (hbefore : ∀ a b, before a b = true → r a b)
    (hnot : ∀ a b, before a b = false → r b a) (h : keepFirst before times = some m) :
    some m ∈ times ∧ ∀ t, some t ∈ times → r m t := by
  induction times using List.reverseRecOn generalizing m with
  | nil => cases h
  | append_singleton times time ih =>
      rw [keepFirst_concat] at h
      simp only [List.mem_append, List.mem_singleton]
      cases time with
      | none =>
          obtain ⟨hmem, hle⟩ := ih h
          exact ⟨.inl hmem, fun t ht => hle t (by simpa using ht)⟩
      | some new =>
          dsimp only at h
          cases hkept : keepFirst before times with
          | none =>
              rw [hkept, Option.all_none, if_pos rfl] at h
              cases h
              refine ⟨.inr rfl, fun t ht => ?_⟩
              rcases ht with ht | ht
              · cases keepFirst_eq_none.mp hkept _ ht
              · cases ht
                exact hrefl _
          | some kept =>
              rw [hkept, Option.all_some] at h
              obtain ⟨hmem, hle⟩ := ih hkept
              split at h
              next hnew =>
                cases h
                refine ⟨.inr rfl, fun t ht => ?_⟩
                rcases ht with ht | ht
                · exact htrans _ _ _ (hbefore _ _ hnew) (hle t ht)
                · cases ht
                  exact hrefl _
              next hnew =>
                cases h
                refine ⟨.inl hmem, fun t ht => ?_⟩
                rcases ht with ht | ht
                · exact hle t ht
                · cases ht
                  exact hnot _ _ (by simpa using hnew)

theorem earliest_spec (h : earliest times = some m) :
    some m ∈ times ∧ ∀ t, some t ∈ times → m ≤ t :=
  keepFirst_spec (fun _ => le_rfl) (fun _ _ _ => le_trans) (fun _ _ h => (of_decide_eq_true h).le)
    (fun _ _ h => not_lt.mp (of_decide_eq_false h)) h

theorem latest_spec (h : latest times = some m) :
    some m ∈ times ∧ ∀ t, some t ∈ times → t ≤ m :=
  keepFirst_spec (r := (· ≥ ·)) (fun _ => le_rfl) (fun _ _ _ => ge_trans)
    (fun _ _ h => (of_decide_eq_true h).le) (fun _ _ h => not_lt.mp (of_decide_eq_false h)) h

theorem elapsed_eq_some {start finish : Option ℚ} {ms : ℚ} :
    elapsed start finish = some ms ↔ ∃ a b, start = some a ∧ finish = some b ∧ b - a = ms := by
  cases start <;> cases finish <;> simp [elapsed]

end

end TruePresenceESE.Sdk.Typing
