import TruePresenceESE.Sdk.Contracts
import TruePresenceESE.Lib.NoisyOr

/-! # Detector signals and the agentic-control detectors

Every detector reads one feature section and emits at most one signal. The
thresholds, severities, confidences and explanations are those of the source;
an absent count reads as zero, an absent duration never triggers.
-/

namespace TruePresenceESE.Detectors

open Sdk NoisyOr

inductive Severity where
  | low
  | medium
  | high
  deriving DecidableEq, Repr

inductive ContributionTarget where
  | humanPresence
  | automation
  | agenticControl
  deriving DecidableEq, Repr

inductive SignalCategory where
  | timingPlausibility
  | typingCadence
  | inputMethod
  | pointerBehavior
  | sessionContinuity
  | environment
  | agenticBehavior
  | externalProvider
  deriving DecidableEq, Repr

instance : Fintype SignalCategory where
  elems := {.timingPlausibility, .typingCadence, .inputMethod, .pointerBehavior,
    .sessionContinuity, .environment, .agenticBehavior, .externalProvider}
  complete category := by cases category <;> decide

structure DetectorSignal where
  reasonCode : String
  severity : Severity
  confidence : UnitInterval
  contributionTarget : ContributionTarget
  category : SignalCategory
  explanation : String

/-- The signal constructor clamps whatever confidence a detector computed. -/
def signal (reasonCode : String) (severity : Severity) (confidence : ℚ)
    (contributionTarget : ContributionTarget) (explanation : String)
    (category : SignalCategory := .timingPlausibility) : DetectorSignal where
  reasonCode := reasonCode
  severity := severity
  confidence := ⟨clamp confidence, clamp_nonneg _, clamp_le_one _⟩
  contributionTarget := contributionTarget
  category := category
  explanation := explanation

def agenticSignal (reasonCode : String) (severity : Severity) (confidence : ℚ)
    (explanation : String) : DetectorSignal :=
  signal reasonCode severity confidence .agenticControl explanation .agenticBehavior

/-! ## The detectors -/

def modelThinkingCadence (features : Option AgenticBehaviorFeatures) : List DetectorSignal :=
  match features with
  | none => []
  | some f =>
      let bursts := f.actionBurstCount.getD 0
      match f.meanBurstIntervalMs, f.burstIntervalStddevMs with
      | some meanInterval, some stddev =>
          if bursts < 3 then []
          else if meanInterval < 1200 ∨ 8000 < meanInterval then []
          else if 450 < stddev then []
          else
            let regular := 4 ≤ bursts ∧ 2200 ≤ meanInterval ∧ stddev ≤ 180
            let severity := if regular then Severity.high else .medium
            let confidence : ℚ := if regular then 0.82 else 0.68
            let confidence := if f.idleToActionLatencyMs.any (2000 ≤ ·)
              then min 0.9 (confidence + 0.05) else confidence
            [agenticSignal "model_thinking_cadence" severity confidence
              "Action bursts are separated by regular pause intervals consistent with plan/act loops."]
      | _, _ => []

/-- The guard of `burst_pause_action_loop`, which its confidence formula sits behind. -/
def burstPauseReached (f : AgenticBehaviorFeatures) : Bool :=
  3 ≤ f.actionBurstCount.getD 0 && f.meanBurstIntervalMs.any (900 ≤ ·)

def burstPauseActionLoop (features : Option AgenticBehaviorFeatures) : List DetectorSignal :=
  match features with
  | none => []
  | some f =>
      let bursts := f.actionBurstCount.getD 0
      if burstPauseReached f then
        [agenticSignal "burst_pause_action_loop" (if bursts < 5 then .medium else .high)
          (min 0.86 (0.56 + bursts * 0.06))
          "The session alternates between compact action bursts and pauses."]
      else []

def largeInstantInputDelta (features : Option AgenticBehaviorFeatures) : List DetectorSignal :=
  match features with
  | none => []
  | some f =>
      let deltaCount := f.largeInstantDeltaCount.getD 0
      if deltaCount = 0 then []
      else
        let strong := 2 ≤ deltaCount ∨ f.submitAfterInstantInputMs.any (· ≤ 250)
        [agenticSignal "large_instant_input_delta" (if strong then .high else .medium)
          (if strong then 0.82 else 0.66)
          "Input length changed by a large aggregate delta in one event without storing content."]

def lowExploratoryNoise (features : Option AgenticBehaviorFeatures) : List DetectorSignal :=
  match features with
  | none => []
  | some f =>
      match f.exploratoryActionCount, f.routeDirectnessScore with
      | some exploratory, some directness =>
          if 1 < exploratory ∨ directness.val < 0.85 then []
          else
            let severity := if directness.val < 0.95 then Severity.medium else .high
            [agenticSignal "low_exploratory_noise" severity
              (if severity = .medium then 0.62 else 0.74)
              "The interaction path is unusually direct with little exploratory activity."]
      | _, _ => []

def structuredRetryPattern (features : Option AgenticBehaviorFeatures) : List DetectorSignal :=
  match features with
  | none => []
  | some f =>
      let retries := f.structuredRetryCount.getD 0
      let repairs := f.validationRepairCount.getD 0
      if retries < 2 ∧ repairs < 2 then []
      else
        let strong := 3 ≤ retries ∨ 3 ≤ repairs
        [agenticSignal "structured_retry_pattern" (if strong then .high else .medium)
          (if strong then 0.8 else 0.66)
          "Retry and validation-repair counts follow a structured correction pattern."]

def implausibleTaskEfficiency (features : Option AgenticBehaviorFeatures) : List DetectorSignal :=
  match features with
  | none => []
  | some f =>
      match f.routeDirectnessScore, f.idleToActionLatencyMs, f.submitAfterInstantInputMs,
        f.exploratoryActionCount with
      | some directness, some idleLatency, some submitLatency, some exploratory =>
          if directness.val < 0.9 ∨ 250 < idleLatency ∨ 450 < submitLatency ∨ 1 < exploratory then []
          else
            let strong := 0.96 ≤ directness.val ∧ idleLatency ≤ 120 ∧ submitLatency ≤ 300
            [agenticSignal "implausible_task_efficiency" (if strong then .high else .medium)
              (if strong then 0.82 else 0.68)
              "The task path is highly direct with very low idle-to-action and submit latency."]
      | _, _, _, _ => []

def runAgenticControlDetectors (features : Option AgenticBehaviorFeatures) : List DetectorSignal :=
  modelThinkingCadence features ++ burstPauseActionLoop features ++
    largeInstantInputDelta features ++ lowExploratoryNoise features ++
    structuredRetryPattern features ++ implausibleTaskEfficiency features

end TruePresenceESE.Detectors
