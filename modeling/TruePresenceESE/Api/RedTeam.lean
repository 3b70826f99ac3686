import TruePresenceESE.Lib.Fallible
import TruePresenceESE.Memory.SessionTimeline

/-! # The red-team evaluator

In test mode an attack is scored once more, over a window of the events that attacks
gave under the same session id. The stream asks every event of the window for its type,
and key timings for the numbers in their payloads.
-/

namespace TruePresenceESE.Api

open PyValue JsonDict TruePresenceESE.Memory

/-! ## The stream -/

abbrev RollingWindow := Dict HashKey (List JsonDict)

/-- `event[key]` -/
def item (event : JsonDict) (key : String) : Except PyError Json :=
  (event.get? key).elim (.error .keyError) .ok

def windowOf (rolling : RollingWindow) (key : HashKey) : List JsonDict :=
  (rolling.get? key).getD []

def updateWindow (rolling : RollingWindow) (key : HashKey) (event : JsonDict) : RollingWindow :=
  rolling.set key (SessionTimeline.takeLast 50 (windowOf rolling key ++ [event]))

/-- `[e for e in window if e["event_type"] == kind]` -/
def eventsOfType (kind : String) (window : List JsonDict) : Except PyError (List JsonDict) := do
  let _ ← window.mapM (item · "event_type")
  return window.filter fun event => isText kind (event.get "event_type")

def intervalOf (event : JsonDict) : Except PyError ℚ := do
  let payload ← item event "payload"
  let fields ← mappingOf payload
  number (fields.getOr "interval_ms" (.num 0))

/-- How evenly the keys were struck; few keys say nothing. -/
def optimizationRisk (sqrt : ℚ → ℚ) (keyTiming : List JsonDict) : Except PyError ℚ :=
  if keyTiming.length < 5 then .ok 0.3
  else do
    let intervals ← keyTiming.mapM intervalOf
    let jitter := sqrt (SessionTimeline.variance intervals)
    return if jitter < 15 then 0.9
      else if 50 < jitter then 0.1
      else 0.9 - (jitter - 15) / 35 * 0.8

def liveDecision (liveness aiMediation relayRisk optimization : ℚ) : String :=
  let score := liveness * 0.4 + (1 - aiMediation) * 0.3 + (1 - relayRisk) * 0.2 +
    (1 - optimization) * 0.1
  if score < 0.4 then "reject" else if score < 0.65 then "step_up" else "allow"

def evaluateWindow (sqrt : ℚ → ℚ) (window : List JsonDict) : Except PyError String := do
  let keyTiming ← eventsOfType "key_timing" window
  let paste ← eventsOfType "clipboard" window
  let optimization ← optimizationRisk sqrt keyTiming
  return liveDecision (min 1 (keyTiming.length / 20)) (min 1 (paste.length / 5))
    (if 0 < window.length ∧ window.length < 3 then 0.8 else 0.3) optimization

/-- The decision of the stream; the event is in the window even where this raises. -/
def evaluateIncremental (sqrt : ℚ → ℚ) (rolling : RollingWindow) (sessionId : Json)
    (event : JsonDict) : Except PyError String × RollingWindow :=
  match hashKey sessionId with
  | none => (.error .typeError, rolling)
  | some key =>
      let updated := updateWindow rolling key event
      (evaluateWindow sqrt (windowOf updated key), updated)

/-! ## Rewards -/

/-- A mean over nothing is not a number. -/
structure RewardEngine where
  rewardHistory : List ℚ
  totalCorrect : Nat
  totalIncorrect : Nat
  performance : Dict String (Option ℚ)

namespace RewardEngine

def meanOf (rewards : List ℚ) : Option ℚ :=
  if rewards = [] then none else some (rewards.sum / rewards.length)

def updatePerformance (engine : RewardEngine) : RewardEngine :=
  let total := engine.totalCorrect + engine.totalIncorrect
  let detected := if 0 < total then
      engine.performance.set "detection_rate" (some ((engine.totalCorrect : ℚ) / total))
    else engine.performance
  let recent := SessionTimeline.takeLast 20 engine.rewardHistory
  let measured := if recent = [] then detected
    else (detected.set "avg_positive_reward" (meanOf (recent.filter (0 < ·)))).set
      "avg_negative_reward" (meanOf (recent.filter (· < 0)))
  { engine with performance := measured }

def computeDetectionReward (engine : RewardEngine) (predictedBot actualBot : Bool)
    (confidence : ℚ) : ℚ × RewardEngine :=
  let correct := { engine with totalCorrect := engine.totalCorrect + 1 }
  let incorrect := { engine with totalIncorrect := engine.totalIncorrect + 1 }
  match predictedBot, actualBot with
  | true, true => (confidence, correct.updatePerformance)
  | false, false => (0.2, correct.updatePerformance)
  | true, false => (-0.5 * confidence, incorrect.updatePerformance)
  | false, true => (-1, incorrect.updatePerformance)

def update (engine : RewardEngine) (reward : ℚ) : RewardEngine :=
  let history := engine.rewardHistory ++ [reward]
  { engine with
    rewardHistory :=
      if 1000 < history.length then SessionTimeline.takeLast 500 history else history }

end RewardEngine

/-! ## An attack -/

structure RedTeam where
  rolling : RollingWindow
  rewards : RewardEngine

/-- One event of a known attack. The stream's answer has no confidence of its own. -/
def runAttack (sqrt : ℚ → ℚ) (team : RedTeam) (event : JsonDict) :
    Except PyError ℚ × RedTeam :=
  match item event "session_id" with
  | .error e => (.error e, team)
  | .ok sessionId =>
      let streamed := evaluateIncremental sqrt team.rolling sessionId event
      match streamed.1 with
      | .error e => (.error e, { team with rolling := streamed.2 })
      | .ok decision =>
          let computed := team.rewards.computeDetectionReward (decision ∈ ["block", "challenge"])
            true 0.5
          (.ok computed.1, ⟨streamed.2, computed.2.update computed.1⟩)

/-! ## When an attack is scored -/

def HasInterval (event : JsonDict) : Prop :=
  ∃ fields interval, event.get? "payload" = some (.obj fields) ∧
    number ((ofFields fields).getOr "interval_ms" (.num 0)) = .ok interval

/-- Every event has a type, and enough key timings have their intervals. -/
def StreamReadable (window : List JsonDict) : Prop :=
  (∀ event ∈ window, event.has "event_type" = true) ∧
    (5 ≤ (window.filter fun event => isText "key_timing" (event.get "event_type")).length →
      ∀ event ∈ window, isText "key_timing" (event.get "event_type") = true → HasInterval event)

/-- The event names a session whose window, with the event, can be read. -/
def AttackReadable (rolling : RollingWindow) (event : JsonDict) : Prop :=
  ∃ sessionId key, event.get? "session_id" = some sessionId ∧ hashKey sessionId = some key ∧
    StreamReadable (windowOf (updateWindow rolling key event) key)

section
variable {sqrt : ℚ → ℚ} {window : List JsonDict} {event : JsonDict} {key : String}

theorem item_isOk : (∃ value, item event key = .ok value) ↔ event.has key = true := by
  rw [item, has]
  cases event.get? key <;> simp

theorem intervalOf_isOk : (∃ interval, intervalOf event = .ok interval) ↔ HasInterval event := by
  unfold intervalOf HasInterval item
  cases event.get? "payload" with
  | none => simp [bind, Except.bind]
  | some payload =>
      cases payload <;> simp [bind, Except.bind, mappingOf]

theorem mapM_isOk {α β : Type} {f : α → Except PyError β} {xs : List α} :
    (∃ ys, xs.mapM f = .ok ys) ↔ ∀ x ∈ xs, ∃ y, f x = .ok y := by
  constructor
  · rintro ⟨ys, hys⟩
    induction xs generalizing ys with
    | nil => simp
    | cons x rest ih =>
        rw [List.mapM_cons] at hys
        obtain ⟨y, hy, hys⟩ := Fallible.bind_eq_ok_iff.mp hys
        obtain ⟨others, hothers, -⟩ := Fallible.bind_eq_ok_iff.mp hys
        exact List.forall_mem_cons.mpr ⟨⟨y, hy⟩, ih others hothers⟩
  · intro h
    obtain ⟨ys, hys, -⟩ := Fallible.exists_mapM_eq_ok h
    exact ⟨ys, hys⟩

theorem eventsOfType_isOk {kind : String} : (∃ events, eventsOfType kind window = .ok events) ↔
    ∀ event ∈ window, event.has "event_type" = true := by
  simp only [← item_isOk, ← mapM_isOk]
  constructor
  · rintro ⟨events, h⟩
    obtain ⟨types, htypes, -⟩ := Fallible.bind_eq_ok_iff.mp h
    exact ⟨types, htypes⟩
  · rintro ⟨types, htypes⟩
    exact ⟨_, Fallible.bind_eq_ok_iff.mpr ⟨types, htypes, rfl⟩⟩

theorem eventsOfType_ok {kind : String} {events : List JsonDict}
    (h : eventsOfType kind window = .ok events) :
    events = window.filter fun event => isText kind (event.get "event_type") := by
  obtain ⟨types, -, h⟩ := Fallible.bind_eq_ok_iff.mp h
  exact (Except.ok.inj h).symm

theorem optimizationRisk_isOk {keyTiming : List JsonDict} :
    (∃ risk, optimizationRisk sqrt keyTiming = .ok risk) ↔
      (5 ≤ keyTiming.length → ∀ event ∈ keyTiming, HasInterval event) := by
  simp only [← intervalOf_isOk, ← mapM_isOk, optimizationRisk]
  split
  · rename_i hfew
    exact iff_of_true ⟨_, rfl⟩ fun hmany => absurd hfew (not_lt.mpr hmany)
  · rename_i hmany
    constructor
    · rintro ⟨risk, h⟩ _
      obtain ⟨intervals, hintervals, -⟩ := Fallible.bind_eq_ok_iff.mp h
      exact ⟨intervals, hintervals⟩
    · intro h
      obtain ⟨intervals, hintervals⟩ := h (not_lt.mp hmany)
      exact ⟨_, Fallible.bind_eq_ok_iff.mpr ⟨intervals, hintervals, rfl⟩⟩

theorem evaluateWindow_isOk :
    (∃ decision, evaluateWindow sqrt window = .ok decision) ↔ StreamReadable window := by
  have hforall : (∀ event ∈ window.filter fun event => isText "key_timing" (event.get "event_type"),
      HasInterval event) ↔ ∀ event ∈ window,
        isText "key_timing" (event.get "event_type") = true → HasInterval event := by
    simp [List.mem_filter]
  unfold StreamReadable
  rw [← hforall, ← @optimizationRisk_isOk sqrt]
  constructor
  · rintro ⟨decision, h⟩
    obtain ⟨keyTiming, hkeys, h⟩ := Fallible.bind_eq_ok_iff.mp h
    obtain ⟨paste, -, h⟩ := Fallible.bind_eq_ok_iff.mp h
    obtain ⟨risk, hrisk, -⟩ := Fallible.bind_eq_ok_iff.mp h
    exact ⟨eventsOfType_isOk.mp ⟨_, hkeys⟩, risk, eventsOfType_ok hkeys ▸ hrisk⟩
  · rintro ⟨htypes, risk, hrisk⟩
    obtain ⟨keyTiming, hkeys⟩ := (@eventsOfType_isOk _ "key_timing").mpr htypes
    obtain ⟨paste, hpaste⟩ := (@eventsOfType_isOk _ "clipboard").mpr htypes
    refine ⟨_, Fallible.bind_eq_ok_iff.mpr ⟨keyTiming, hkeys,
      Fallible.bind_eq_ok_iff.mpr ⟨paste, hpaste,
        Fallible.bind_eq_ok_iff.mpr ⟨risk, ?_, rfl⟩⟩⟩⟩
    rw [eventsOfType_ok hkeys]
    exact hrisk

/-- An attack is scored exactly where its window can be read. -/
theorem runAttack_isOk {team : RedTeam} :
    (∃ reward, (runAttack sqrt team event).1 = .ok reward) ↔ AttackReadable team.rolling event := by
  unfold runAttack AttackReadable item
  cases hsession : event.get? "session_id" with
  | none => simp
  | some sessionId =>
      cases hkey : hashKey sessionId with
      | none => simp [evaluateIncremental, hkey]
      | some key =>
          have hstream := @evaluateWindow_isOk sqrt
            (windowOf (updateWindow team.rolling key event) key)
          simp only [Option.elim_some, evaluateIncremental, hkey, Option.some.injEq]
          constructor
          · rintro ⟨reward, h⟩
            split at h
            · cases h
            · rename_i decision hdecision
              exact ⟨sessionId, key, rfl, hkey, hstream.mp ⟨decision, hdecision⟩⟩
          · rintro ⟨_, other, rfl, hother, hreadable⟩
            obtain rfl : key = other := Option.some.inj (hkey.symm.trans hother)
            obtain ⟨decision, hdecision⟩ := hstream.mpr hreadable
            rw [hdecision]
            exact ⟨_, rfl⟩

end

end TruePresenceESE.Api
