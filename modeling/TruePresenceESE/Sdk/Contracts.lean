import TruePresenceESE.Lib.Json

/-! # SDK feature models and evaluation contracts

The aggregate feature sections, the interaction packet and the evaluation
request and response. Numeric bounds of the models are part of the types: a
count is a natural number, a duration a nonnegative rational, a score a point
of the unit interval. `pageContext` and `metadata` stay free dictionaries.
-/

namespace TruePresenceESE.Sdk

/-- A number the models bound by `ge=0, le=1`. -/
abbrev UnitInterval := { q : ℚ // 0 ≤ q ∧ q ≤ 1 }

/-! ## Feature sections -/

structure TypingCadenceFeatures where
  meanInterKeyIntervalMs : Option ℚ≥0 := none
  interKeyIntervalStddevMs : Option ℚ≥0 := none
  charactersPerMinute : Option ℚ≥0 := none
  correctionCount : Option ℕ := none
  correctionRate : Option UnitInterval := none
  pasteCount : Option ℕ := none
  focusToFirstInputMs : Option ℚ≥0 := none
  promptRenderToFirstInputMs : Option ℚ≥0 := none
  typingDurationMs : Option ℚ≥0 := none
  lastInputToSubmitMs : Option ℚ≥0 := none

structure PointerBehaviorFeatures where
  pointerEntropy : Option ℚ≥0 := none
  clickHesitationMs : Option ℚ≥0 := none
  scrollCadenceScore : Option UnitInterval := none
  pointerMovementCount : Option ℕ := none
  clickCount : Option ℕ := none

structure ChallengeInteractionFeatures where
  challengeType : Option String := none
  responseLatencyMs : Option ℚ≥0 := none
  expectedReadingTimeMs : Option ℚ≥0 := none
  promptRenderToFirstInputMs : Option ℚ≥0 := none
  correctionCount : Option ℕ := none
  pasteCount : Option ℕ := none
  typingDurationMs : Option ℚ≥0 := none
  submittedExactly : Option Bool := none

structure SessionContinuityFeatures where
  sessionAgeMs : Option ℚ≥0 := none
  priorInteractionCount : Option ℕ := none
  focusBlurCount : Option ℕ := none
  navigationCount : Option ℕ := none
  sameDeviceSessionCount : Option ℕ := none

structure EnvironmentFeatures where
  webdriverDetected : Option Bool := none
  automationFrameworkHint : Option Bool := none
  headlessBrowserHint : Option Bool := none
  reducedMotionEnabled : Option Bool := none
  timezoneOffsetMinutes : Option ℤ := none
  viewportWidth : Option ℕ := none
  viewportHeight : Option ℕ := none

structure AgenticBehaviorFeatures where
  actionBurstCount : Option ℕ := none
  meanBurstIntervalMs : Option ℚ≥0 := none
  burstIntervalStddevMs : Option ℚ≥0 := none
  idleToActionLatencyMs : Option ℚ≥0 := none
  exploratoryActionCount : Option ℕ := none
  routeDirectnessScore : Option UnitInterval := none
  largeInstantDeltaCount : Option ℕ := none
  submitAfterInstantInputMs : Option ℚ≥0 := none
  structuredRetryCount : Option ℕ := none
  validationRepairCount : Option ℕ := none

structure ExternalRiskProviderFeatures where
  providerId : String
  riskScore : UnitInterval
  confidence : Option UnitInterval := none
  reasonCodes : List String := []

/-! ## Packet, request and response -/

inductive RecommendedAction where
  | allow
  | observe
  | softChallenge
  | stepUpAuth
  | manualReview
  deriving DecidableEq, Repr

/-- The severity order `allow < observe < soft_challenge < step_up_auth < manual_review`. -/
def RecommendedAction.rank : RecommendedAction → ℕ
  | .allow => 0
  | .observe => 1
  | .softChallenge => 2
  | .stepUpAuth => 3
  | .manualReview => 4

def RecommendedAction.value : RecommendedAction → String
  | .allow => "allow"
  | .observe => "observe"
  | .softChallenge => "soft_challenge"
  | .stepUpAuth => "step_up_auth"
  | .manualReview => "manual_review"

inductive EnforcementMode where
  | observe
  | challengeOnly
  | reviewRequired
  | enforce
  deriving DecidableEq, Repr

def EnforcementMode.value : EnforcementMode → String
  | .observe => "observe"
  | .challengeOnly => "challenge_only"
  | .reviewRequired => "review_required"
  | .enforce => "enforce"

structure InteractionFeaturePacket where
  surface : String := "web"
  siteId : Option String := none
  tenantId : Option String := none
  sessionId : Option String := none
  pageContext : List (String × Json) := []
  typing : Option TypingCadenceFeatures := none
  pointer : Option PointerBehaviorFeatures := none
  challenge : Option ChallengeInteractionFeatures := none
  agentic : Option AgenticBehaviorFeatures := none
  sessionContinuity : Option SessionContinuityFeatures := none
  environment : Option EnvironmentFeatures := none
  externalRiskProvider : List ExternalRiskProviderFeatures := []
  metadata : List (String × Json) := []

structure TruePresenceEvaluationRequest where
  sessionId : String
  tenantId : String := "default"
  enforcementMode : EnforcementMode := .observe
  featurePacket : InteractionFeaturePacket

structure TruePresenceEvaluationResponse where
  humanPresenceLikelihood : UnitInterval
  automationLikelihood : UnitInterval
  agenticControlLikelihood : UnitInterval
  confidence : UnitInterval
  reasonCodes : List String
  evidencePacketId : String
  recommendedAction : RecommendedAction
  enforcementMode : EnforcementMode := .observe

end TruePresenceESE.Sdk
