import TruePresenceESE.Detectors.AgenticControl

/-! # Reading-time, typing-cadence and input-method detectors

The detectors over the challenge and typing sections and the driver that runs
every detector of the web surface on one packet, in the order of the source.
-/

namespace TruePresenceESE.Detectors

open Sdk

-- thresholds that other detectors share, as numerals of `ℚ`
local instance atLeastTwo50 : Nat.AtLeastTwo 50 := inferInstance
local instance atLeastTwo120 : Nat.AtLeastTwo 120 := inferInstance
local instance atLeastTwo300 : Nat.AtLeastTwo 300 := inferInstance

/-! ## Challenge section -/

/-- `max(350.0, expected_reading_time_ms * 0.55)`. -/
def plausibleFloor (expectedReadingTimeMs : ℚ≥0) : ℚ := max 350 (expectedReadingTimeMs * 0.55)

def implausibleReadResponseTime (features : Option ChallengeInteractionFeatures) :
    List DetectorSignal :=
  match features with
  | none => []
  | some f =>
      match f.responseLatencyMs, f.expectedReadingTimeMs with
      | some responseLatency, some expected =>
          if expected = 0 then []
          else if plausibleFloor expected ≤ responseLatency then []
          else
            -- the floor is at least 350, so the division's guard in the source never fires
            let ratio : ℚ := responseLatency / plausibleFloor expected
            let severity :=
              if responseLatency ≤ 300 ∨ ratio ≤ 0.35 then Severity.high else .medium
            [signal "implausible_read_response_time" severity
              (min 0.92 (0.55 + (1 - ratio) * 0.45)) .agenticControl
              "Response latency was faster than the expected human read-and-respond window."
              .agenticBehavior]
      | _, _ => []

/-! ## Typing section -/

def uniformTypingCadence (features : Option TypingCadenceFeatures) : List DetectorSignal :=
  match features with
  | none => []
  | some f =>
      match f.interKeyIntervalStddevMs with
      | none => []
      | some stddev =>
          let cpm := f.charactersPerMinute.getD 0
          if stddev ≤ 1 then
            [signal "uniform_typing_cadence" .high 0.9 .automation
              "Inter-key interval variance is effectively zero." .typingCadence]
          else if stddev ≤ 8 ∧ 120 ≤ cpm then
            [signal "uniform_typing_cadence" .medium 0.76 .automation
              "Typing cadence is unusually uniform for sustained human input." .typingCadence]
          else if stddev ≤ 15 ∧ 260 ≤ cpm then
            [signal "uniform_typing_cadence" .medium 0.66 .automation
              "Fast input with very low cadence variation is automation-consistent." .typingCadence]
          else []

/-- The number of instant-input triggers that fire. -/
def instantInputTriggers (f : TypingCadenceFeatures) : ℕ :=
  (decide (0 < f.pasteCount.getD 0)).toNat
    + (f.focusToFirstInputMs.any (· ≤ 50)).toNat
    + (f.promptRenderToFirstInputMs.any (· ≤ 100)).toNat
    + (f.typingDurationMs.any (· ≤ 100)).toNat
    + (decide (700 ≤ f.charactersPerMinute.getD 0)).toNat

def pasteOrInstantInput (features : Option TypingCadenceFeatures) : List DetectorSignal :=
  match features with
  | none => []
  | some f =>
      let triggers := instantInputTriggers f
      if triggers = 0 then []
      else
        let (severity, confidence) :=
          if 3 ≤ triggers then (Severity.high, (0.82 : ℚ))
          else if triggers = 1 ∧ f.pasteCount.getD 0 = 0 then (.low, 0.45)
          else (.medium, 0.62)
        [signal "paste_or_instant_input" severity confidence .automation
          "Input timing suggests pasted, injected, or immediately populated content." .inputMethod]

def zeroCorrectionPattern (features : Option TypingCadenceFeatures) : List DetectorSignal :=
  match features with
  | none => []
  | some f =>
      if f.correctionCount = some 0 ∨ f.correctionRate.any (·.val = 0) then
        let highSpeed := 320 ≤ f.charactersPerMinute.getD 0
        let lowVariance := f.interKeyIntervalStddevMs.any (· ≤ 15)
        if highSpeed ∧ lowVariance then
          [signal "zero_correction_pattern" .medium 0.68 .automation
            "No corrections combined with fast, low-variance input increases automation consistency."
            .typingCadence]
        else
          [signal "zero_correction_pattern" .low 0.35 .automation
            "No corrections were observed; this is only weak evidence by itself." .typingCadence]
      else []

/-! ## All detectors on one packet -/

def runHumanPlausibilityDetectors (packet : InteractionFeaturePacket) : List DetectorSignal :=
  implausibleReadResponseTime packet.challenge ++ uniformTypingCadence packet.typing ++
    pasteOrInstantInput packet.typing ++ zeroCorrectionPattern packet.typing ++
    runAgenticControlDetectors packet.agentic

end TruePresenceESE.Detectors
