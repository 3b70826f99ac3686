import TruePresenceESE.Detectors.HumanPlausibility
import TruePresenceESE.Lib.Dict
import TruePresenceESE.Lib.Rounding

/-! # The probabilistic scoring model

Signal strengths are grouped by category, combined inside each category and
across categories by the product of complements, and turned into a risk, a
confidence and a recommended action. Each numbered step of the source is one
definition over the signal list and the packet, in exact rational arithmetic.
-/

namespace TruePresenceESE.Scoring

open Sdk Detectors NoisyOr Rounding

/-! ## Weights -/

def severityWeight : Severity → ℚ
  | .low => 0.25
  | .medium => 0.55
  | .high => 0.85

def categoryWeight : SignalCategory → ℚ
  | .timingPlausibility => 0.70
  | .typingCadence => 0.65
  | .inputMethod => 0.60
  | .pointerBehavior => 0.55
  | .sessionContinuity => 0.50
  | .environment => 0.45
  | .agenticBehavior => 0.80
  | .externalProvider => 0.50

def baseHumanPresence : ℚ := 0.58

/-! ## Human-feature support -/

def typingSupport (typing : TypingCadenceFeatures) : ℚ :=
  (if typing.interKeyIntervalStddevMs.any (fun s => 25 ≤ s ∧ s ≤ 220) ∧
      typing.charactersPerMinute.any (fun c => 80 ≤ c ∧ c ≤ 420) then 0.09 else 0)
    + (if 0 < typing.correctionCount.getD 0 ∨ typing.correctionRate.any (fun r => 0 < r.val)
        then 0.05 else 0)
    + (if typing.pasteCount.getD 0 = 0 then 0.03 else 0)
    + (if typing.focusToFirstInputMs.any (150 ≤ ·) then 0.03 else 0)

def challengeSupport (challenge : ChallengeInteractionFeatures) : ℚ :=
  match challenge.responseLatencyMs, challenge.expectedReadingTimeMs with
  | some responseLatency, some expected =>
      if max 350 ((expected : ℚ) * 0.75) ≤ responseLatency then 0.07 else 0
  | _, _ => 0

def pointerSupport (pointer : PointerBehaviorFeatures) : ℚ :=
  (if pointer.pointerEntropy.any (0.35 ≤ ·) then 0.04 else 0)
    + (if pointer.clickHesitationMs.any (80 ≤ ·) then 0.03 else 0)
    + (if pointer.scrollCadenceScore.any (fun s => 0.35 ≤ s.val) then 0.03 else 0)

def humanFeatureSupport (packet : InteractionFeaturePacket) : ℚ :=
  min 0.30 ((packet.typing.map typingSupport).getD 0 + (packet.challenge.map challengeSupport).getD 0
    + (packet.pointer.map pointerSupport).getD 0)

/-! ## Aggregation helpers -/

def productOfComplements (strengths : List ℚ) : ℚ :=
  clamp (1 - strengths.foldl (fun result s => result * (1 - clamp s)) 1)

def signalStrength (signal : DetectorSignal) : ℚ :=
  severityWeight signal.severity * signal.confidence.val

def partitionSignals (signals : List DetectorSignal) (target : ContributionTarget) :
    Dict SignalCategory (List ℚ) :=
  Dict.groupBy (·.category) signalStrength (signals.filter (·.contributionTarget = target))

/-- The risk of a partition and its number of categories. -/
def aggregateRisk (byCategory : Dict SignalCategory (List ℚ)) : ℚ × ℕ :=
  if byCategory.items = [] then (0, 0)
  else
    (productOfComplements (byCategory.items.map fun p =>
      categoryWeight p.1 * productOfComplements p.2), byCategory.size)

def evidenceSufficiency (nCategories nSignals : ℕ) : ℚ :=
  if nSignals = 0 then 0.20
  else clamp (0.20 + 0.80 * ((min 1 ((nCategories : ℚ) / 3) + min 1 ((nSignals : ℚ) / 4)) / 2))

/-! ## The steps of `score_interaction` -/

section Steps

variable (signals : List DetectorSignal) (packet : InteractionFeaturePacket)

def automationRisk : ℚ := (aggregateRisk (partitionSignals signals .automation)).1

def agenticRisk : ℚ := (aggregateRisk (partitionSignals signals .agenticControl)).1

def humanSignalStrength : ℚ := (aggregateRisk (partitionSignals signals .humanPresence)).1

def totalRiskCats : ℕ :=
  (aggregateRisk (partitionSignals signals .automation)).2
    + (aggregateRisk (partitionSignals signals .agenticControl)).2

/-- `max(0, total_risk_cats - 1)` is truncated subtraction. -/
def corroborationBonus : ℚ := clamp (min 0.15 ((totalRiskCats signals - 1 : ℕ) * 0.05))

def combinedRisk : ℚ :=
  clamp (productOfComplements [automationRisk signals, agenticRisk signals]
    + corroborationBonus signals)

def effectiveHuman : ℚ :=
  clamp (humanFeatureSupport packet + humanSignalStrength signals * 0.5)

/-- The adjusted risk before the contradiction penalty. -/
def reducedRisk : ℚ := clamp (combinedRisk signals * (1 - effectiveHuman signals packet * 0.6))

/-- The guard of the contradiction branch. -/
def Contradictory : Prop := 0.5 < effectiveHuman signals packet ∧ 0.5 < reducedRisk signals packet

instance : Decidable (Contradictory signals packet) := inferInstanceAs (Decidable (_ ∧ _))

def contradictionFactor : ℚ := if Contradictory signals packet then 0.20 else 0

def adjustedRisk : ℚ :=
  if Contradictory signals packet then
    clamp (reducedRisk signals packet * (1 - contradictionFactor signals packet))
  else reducedRisk signals packet

def nRiskSignals : ℕ :=
  signals.countP fun s => s.contributionTarget = .automation ∨ s.contributionTarget = .agenticControl

def sufficiency : ℚ := evidenceSufficiency (totalRiskCats signals) (nRiskSignals signals)

def confidence : ℚ :=
  clamp (sufficiency signals * (1 - contradictionFactor signals packet)
    * (0.5 + adjustedRisk signals packet * 0.5))

def automationLikelihood : ℚ :=
  clamp (automationRisk signals * (1 - effectiveHuman signals packet * 0.6))

def agenticControlLikelihood : ℚ :=
  clamp (agenticRisk signals * (1 - effectiveHuman signals packet * 0.3))

def humanPresenceLikelihood : ℚ :=
  clamp (baseHumanPresence * (1 - adjustedRisk signals packet) + effectiveHuman signals packet * 0.4)

/-- `sorted({signal.reason_code for signal in signals})`. -/
def reasonCodes : List String := (signals.map (·.reasonCode)).toFinset.sort (· ≤ ·)

end Steps

def recommendedAction (risk confidence : ℚ) : RecommendedAction :=
  if risk < 0.30 then
    if 0.50 ≤ confidence then .allow else .observe
  else if risk < 0.50 then
    if confidence < 0.45 then .observe else .softChallenge
  else if risk < 0.70 then
    if confidence < 0.40 then .softChallenge else .stepUpAuth
  else
    if confidence < 0.45 then .stepUpAuth else .manualReview

/-- `round(value, 4)` of a clamped value; the response model's bounds come with it. -/
def rounded (value : ℚ) : UnitInterval :=
  ⟨roundTo 4 (clamp value), roundTo_mem_unit 4 (clamp_nonneg value) (clamp_le_one value)⟩

/-- The scoring entry point; `uuidHex` is the fresh part of the evidence packet id. -/
def scoreInteraction (signals : List DetectorSignal) (packet : InteractionFeaturePacket)
    (enforcementMode : EnforcementMode) (uuidHex : String) : TruePresenceEvaluationResponse where
  humanPresenceLikelihood := rounded (humanPresenceLikelihood signals packet)
  automationLikelihood := rounded (automationLikelihood signals packet)
  agenticControlLikelihood := rounded (agenticControlLikelihood signals packet)
  confidence := rounded (confidence signals packet)
  reasonCodes := reasonCodes signals
  evidencePacketId := "ep_" ++ uuidHex
  recommendedAction :=
    recommendedAction (adjustedRisk signals packet) (confidence signals packet)
  enforcementMode := enforcementMode

end TruePresenceESE.Scoring
