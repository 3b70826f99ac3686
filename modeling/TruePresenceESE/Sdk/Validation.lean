import TruePresenceESE.Sdk.Contracts
import TruePresenceESE.Sdk.Privacy

/-! # Parsing and dumping the SDK models

A model parses a JSON object field by field, forbids unknown names and fails on
the first value of the wrong shape. How a JSON scalar is read as a number or a
truth value is the parsing library's business and a parameter here; strings,
lists and objects are accepted only as such. The request and the packet run
the privacy guard on the raw object first.
-/

namespace TruePresenceESE.Sdk

/-- The scalar readings of the parsing library. -/
structure Coercions where
  float : Json → Option ℚ
  int : Json → Option ℤ
  bool : Json → Option Bool

/-! ## Field readers -/

def asStr : Json → Option String
  | .str s => some s
  | _ => none

def asDict : Json → Option (List (String × Json))
  | .obj fields => some fields
  | _ => none

def asList {α : Type} (read : Json → Option α) : Json → Option (List α)
  | .arr items => items.mapM read
  | _ => none

/-- `T | None`: null is accepted as an absent value. -/
def orNone {α : Type} (read : Json → Option α) : Json → Option (Option α)
  | .null => some none
  | value => (read value).map some

/-- Parse an object by folding its fields into the defaults. -/
def parseModel {M : Type} (setField : M → String → Json → Option M) (defaults : M) :
    Json → Option M
  | .obj fields => fields.foldlM (fun m p => setField m p.1 p.2) defaults
  | _ => none

namespace Coercions

variable (c : Coercions)

/-- `float` with `ge=0` -/
def nonneg (value : Json) : Option ℚ≥0 :=
  (c.float value).bind fun q => if h : 0 ≤ q then some ⟨q, h⟩ else none

/-- `float` with `ge=0, le=1` -/
def unit (value : Json) : Option UnitInterval :=
  (c.float value).bind fun q => if h : 0 ≤ q ∧ q ≤ 1 then some ⟨q, h⟩ else none

/-- `int` with `ge=0` -/
def count (value : Json) : Option ℕ :=
  (c.int value).bind fun n => if 0 ≤ n then some n.toNat else none

/-! ## Sections -/

def setTyping (m : TypingCadenceFeatures) (name : String) (v : Json) :
    Option TypingCadenceFeatures :=
  match name with
  | "mean_inter_key_interval_ms" =>
      (orNone c.nonneg v).map fun x => { m with meanInterKeyIntervalMs := x }
  | "inter_key_interval_stddev_ms" =>
      (orNone c.nonneg v).map fun x => { m with interKeyIntervalStddevMs := x }
  | "characters_per_minute" =>
      (orNone c.nonneg v).map fun x => { m with charactersPerMinute := x }
  | "correction_count" => (orNone c.count v).map fun x => { m with correctionCount := x }
  | "correction_rate" => (orNone c.unit v).map fun x => { m with correctionRate := x }
  | "paste_count" => (orNone c.count v).map fun x => { m with pasteCount := x }
  | "focus_to_first_input_ms" =>
      (orNone c.nonneg v).map fun x => { m with focusToFirstInputMs := x }
  | "prompt_render_to_first_input_ms" =>
      (orNone c.nonneg v).map fun x => { m with promptRenderToFirstInputMs := x }
  | "typing_duration_ms" => (orNone c.nonneg v).map fun x => { m with typingDurationMs := x }
  | "last_input_to_submit_ms" =>
      (orNone c.nonneg v).map fun x => { m with lastInputToSubmitMs := x }
  | _ => none

def setPointer (m : PointerBehaviorFeatures) (name : String) (v : Json) :
    Option PointerBehaviorFeatures :=
  match name with
  | "pointer_entropy" => (orNone c.nonneg v).map fun x => { m with pointerEntropy := x }
  | "click_hesitation_ms" => (orNone c.nonneg v).map fun x => { m with clickHesitationMs := x }
  | "scroll_cadence_score" => (orNone c.unit v).map fun x => { m with scrollCadenceScore := x }
  | "pointer_movement_count" => (orNone c.count v).map fun x => { m with pointerMovementCount := x }
  | "click_count" => (orNone c.count v).map fun x => { m with clickCount := x }
  | _ => none

def setChallenge (m : ChallengeInteractionFeatures) (name : String) (v : Json) :
    Option ChallengeInteractionFeatures :=
  match name with
  | "challenge_type" => (orNone asStr v).map fun x => { m with challengeType := x }
  | "response_latency_ms" => (orNone c.nonneg v).map fun x => { m with responseLatencyMs := x }
  | "expected_reading_time_ms" =>
      (orNone c.nonneg v).map fun x => { m with expectedReadingTimeMs := x }
  | "prompt_render_to_first_input_ms" =>
      (orNone c.nonneg v).map fun x => { m with promptRenderToFirstInputMs := x }
  | "correction_count" => (orNone c.count v).map fun x => { m with correctionCount := x }
  | "paste_count" => (orNone c.count v).map fun x => { m with pasteCount := x }
  | "typing_duration_ms" => (orNone c.nonneg v).map fun x => { m with typingDurationMs := x }
  | "submitted_exactly" => (orNone c.bool v).map fun x => { m with submittedExactly := x }
  | _ => none

def setSessionContinuity (m : SessionContinuityFeatures) (name : String) (v : Json) :
    Option SessionContinuityFeatures :=
  match name with
  | "session_age_ms" => (orNone c.nonneg v).map fun x => { m with sessionAgeMs := x }
  | "prior_interaction_count" =>
      (orNone c.count v).map fun x => { m with priorInteractionCount := x }
  | "focus_blur_count" => (orNone c.count v).map fun x => { m with focusBlurCount := x }
  | "navigation_count" => (orNone c.count v).map fun x => { m with navigationCount := x }
  | "same_device_session_count" =>
      (orNone c.count v).map fun x => { m with sameDeviceSessionCount := x }
  | _ => none

def setEnvironment (m : EnvironmentFeatures) (name : String) (v : Json) :
    Option EnvironmentFeatures :=
  match name with
  | "webdriver_detected" => (orNone c.bool v).map fun x => { m with webdriverDetected := x }
  | "automation_framework_hint" =>
      (orNone c.bool v).map fun x => { m with automationFrameworkHint := x }
  | "headless_browser_hint" => (orNone c.bool v).map fun x => { m with headlessBrowserHint := x }
  | "reduced_motion_enabled" =>
      (orNone c.bool v).map fun x => { m with reducedMotionEnabled := x }
  | "timezone_offset_minutes" =>
      (orNone c.int v).map fun x => { m with timezoneOffsetMinutes := x }
  | "viewport_width" => (orNone c.count v).map fun x => { m with viewportWidth := x }
  | "viewport_height" => (orNone c.count v).map fun x => { m with viewportHeight := x }
  | _ => none

def setAgentic (m : AgenticBehaviorFeatures) (name : String) (v : Json) :
    Option AgenticBehaviorFeatures :=
  match name with
  | "action_burst_count" => (orNone c.count v).map fun x => { m with actionBurstCount := x }
  | "mean_burst_interval_ms" =>
      (orNone c.nonneg v).map fun x => { m with meanBurstIntervalMs := x }
  | "burst_interval_stddev_ms" =>
      (orNone c.nonneg v).map fun x => { m with burstIntervalStddevMs := x }
  | "idle_to_action_latency_ms" =>
      (orNone c.nonneg v).map fun x => { m with idleToActionLatencyMs := x }
  | "exploratory_action_count" =>
      (orNone c.count v).map fun x => { m with exploratoryActionCount := x }
  | "route_directness_score" =>
      (orNone c.unit v).map fun x => { m with routeDirectnessScore := x }
  | "large_instant_delta_count" =>
      (orNone c.count v).map fun x => { m with largeInstantDeltaCount := x }
  | "submit_after_instant_input_ms" =>
      (orNone c.nonneg v).map fun x => { m with submitAfterInstantInputMs := x }
  | "structured_retry_count" =>
      (orNone c.count v).map fun x => { m with structuredRetryCount := x }
  | "validation_repair_count" =>
      (orNone c.count v).map fun x => { m with validationRepairCount := x }
  | _ => none

/-! ## External risk providers -/

/-- An item while it is parsed: the two required fields may still be missing. -/
structure ExternalRiskDraft where
  providerId : Option String := none
  riskScore : Option UnitInterval := none
  confidence : Option UnitInterval := none
  reasonCodes : List String := []

def setExternalRisk (m : ExternalRiskDraft) (name : String) (v : Json) :
    Option ExternalRiskDraft :=
  match name with
  | "provider_id" => (asStr v).map fun x => { m with providerId := some x }
  | "risk_score" => (c.unit v).map fun x => { m with riskScore := some x }
  | "confidence" => (orNone c.unit v).map fun x => { m with confidence := x }
  | "reason_codes" => (asList asStr v).map fun x => { m with reasonCodes := x }
  | _ => none

def ExternalRiskDraft.finish (draft : ExternalRiskDraft) : Option ExternalRiskProviderFeatures :=
  match draft.providerId, draft.riskScore with
  | some providerId, some riskScore =>
      some { providerId, riskScore, confidence := draft.confidence, reasonCodes := draft.reasonCodes }
  | _, _ => none

def parseExternalRisk (value : Json) : Option ExternalRiskProviderFeatures :=
  (parseModel c.setExternalRisk {} value).bind ExternalRiskDraft.finish

/-! ## Packet and request -/

def setPacket (m : InteractionFeaturePacket) (name : String) (v : Json) :
    Option InteractionFeaturePacket :=
  match name with
  | "surface" => (asStr v).map fun x => { m with surface := x }
  | "site_id" => (orNone asStr v).map fun x => { m with siteId := x }
  | "tenant_id" => (orNone asStr v).map fun x => { m with tenantId := x }
  | "session_id" => (orNone asStr v).map fun x => { m with sessionId := x }
  | "page_context" => (asDict v).map fun x => { m with pageContext := x }
  | "typing" => (orNone (parseModel c.setTyping {}) v).map fun x => { m with typing := x }
  | "pointer" => (orNone (parseModel c.setPointer {}) v).map fun x => { m with pointer := x }
  | "challenge" => (orNone (parseModel c.setChallenge {}) v).map fun x => { m with challenge := x }
  | "agentic" => (orNone (parseModel c.setAgentic {}) v).map fun x => { m with agentic := x }
  | "session_continuity" =>
      (orNone (parseModel c.setSessionContinuity {}) v).map fun x => { m with sessionContinuity := x }
  | "environment" =>
      (orNone (parseModel c.setEnvironment {}) v).map fun x => { m with environment := x }
  | "external_risk_provider" =>
      (asList c.parseExternalRisk v).map fun x => { m with externalRiskProvider := x }
  | "metadata" => (asDict v).map fun x => { m with metadata := x }
  | _ => none

def parsePacket (value : Json) : Option InteractionFeaturePacket :=
  match ensurePrivacySafeFeaturePacket value with
  | .error _ => none
  | .ok () => parseModel c.setPacket {} value

/-- A request while it is parsed. -/
structure RequestDraft where
  sessionId : Option String := none
  tenantId : String := "default"
  enforcementMode : EnforcementMode := .observe
  featurePacket : Option InteractionFeaturePacket := none

def asEnforcementMode : Json → Option EnforcementMode
  | .str "observe" => some .observe
  | .str "challenge_only" => some .challengeOnly
  | .str "review_required" => some .reviewRequired
  | .str "enforce" => some .enforce
  | _ => none

def setRequest (m : RequestDraft) (name : String) (v : Json) : Option RequestDraft :=
  match name with
  | "session_id" => (asStr v).map fun x => { m with sessionId := some x }
  | "tenant_id" => (asStr v).map fun x => { m with tenantId := x }
  | "enforcement_mode" => (asEnforcementMode v).map fun x => { m with enforcementMode := x }
  | "feature_packet" => (c.parsePacket v).map fun x => { m with featurePacket := some x }
  | _ => none

def RequestDraft.finish (draft : RequestDraft) : Option TruePresenceEvaluationRequest :=
  match draft.sessionId, draft.featurePacket with
  | some sessionId, some featurePacket =>
      some { sessionId, tenantId := draft.tenantId, enforcementMode := draft.enforcementMode,
             featurePacket }
  | _, _ => none

def parseRequest (value : Json) : Option TruePresenceEvaluationRequest :=
  match ensurePrivacySafePayload value with
  | .error _ => none
  | .ok () => (parseModel c.setRequest {} value).bind RequestDraft.finish

end Coercions

/-! ## Dumping -/

def dumpOption {α : Type} (dump : α → Json) : Option α → Json
  | none => .null
  | some x => dump x

def dumpNat (n : ℕ) : Json := .num n

def dumpNonneg (q : ℚ≥0) : Json := .num q

def dumpUnit (q : UnitInterval) : Json := .num q.val

/-- `exclude_none=True` on one model: its fields that are not null. -/
def compact (fields : List (String × Json)) : List (String × Json) :=
  fields.filter fun p => match p.2 with
    | .null => false
    | _ => true

def TypingCadenceFeatures.fields (m : TypingCadenceFeatures) : List (String × Json) :=
  [("mean_inter_key_interval_ms", dumpOption dumpNonneg m.meanInterKeyIntervalMs),
    ("inter_key_interval_stddev_ms", dumpOption dumpNonneg m.interKeyIntervalStddevMs),
    ("characters_per_minute", dumpOption dumpNonneg m.charactersPerMinute),
    ("correction_count", dumpOption dumpNat m.correctionCount),
    ("correction_rate", dumpOption dumpUnit m.correctionRate),
    ("paste_count", dumpOption dumpNat m.pasteCount),
    ("focus_to_first_input_ms", dumpOption dumpNonneg m.focusToFirstInputMs),
    ("prompt_render_to_first_input_ms", dumpOption dumpNonneg m.promptRenderToFirstInputMs),
    ("typing_duration_ms", dumpOption dumpNonneg m.typingDurationMs),
    ("last_input_to_submit_ms", dumpOption dumpNonneg m.lastInputToSubmitMs)]

def PointerBehaviorFeatures.fields (m : PointerBehaviorFeatures) : List (String × Json) :=
  [("pointer_entropy", dumpOption dumpNonneg m.pointerEntropy),
    ("click_hesitation_ms", dumpOption dumpNonneg m.clickHesitationMs),
    ("scroll_cadence_score", dumpOption dumpUnit m.scrollCadenceScore),
    ("pointer_movement_count", dumpOption dumpNat m.pointerMovementCount),
    ("click_count", dumpOption dumpNat m.clickCount)]

def ChallengeInteractionFeatures.fields (m : ChallengeInteractionFeatures) :
    List (String × Json) :=
  [("challenge_type", dumpOption .str m.challengeType),
    ("response_latency_ms", dumpOption dumpNonneg m.responseLatencyMs),
    ("expected_reading_time_ms", dumpOption dumpNonneg m.expectedReadingTimeMs),
    ("prompt_render_to_first_input_ms", dumpOption dumpNonneg m.promptRenderToFirstInputMs),
    ("correction_count", dumpOption dumpNat m.correctionCount),
    ("paste_count", dumpOption dumpNat m.pasteCount),
    ("typing_duration_ms", dumpOption dumpNonneg m.typingDurationMs),
    ("submitted_exactly", dumpOption .bool m.submittedExactly)]

def SessionContinuityFeatures.fields (m : SessionContinuityFeatures) : List (String × Json) :=
  [("session_age_ms", dumpOption dumpNonneg m.sessionAgeMs),
    ("prior_interaction_count", dumpOption dumpNat m.priorInteractionCount),
    ("focus_blur_count", dumpOption dumpNat m.focusBlurCount),
    ("navigation_count", dumpOption dumpNat m.navigationCount),
    ("same_device_session_count", dumpOption dumpNat m.sameDeviceSessionCount)]

def EnvironmentFeatures.fields (m : EnvironmentFeatures) : List (String × Json) :=
  [("webdriver_detected", dumpOption .bool m.webdriverDetected),
    ("automation_framework_hint", dumpOption .bool m.automationFrameworkHint),
    ("headless_browser_hint", dumpOption .bool m.headlessBrowserHint),
    ("reduced_motion_enabled", dumpOption .bool m.reducedMotionEnabled),
    ("timezone_offset_minutes", dumpOption (fun n : ℤ => .num n) m.timezoneOffsetMinutes),
    ("viewport_width", dumpOption dumpNat m.viewportWidth),
    ("viewport_height", dumpOption dumpNat m.viewportHeight)]

def AgenticBehaviorFeatures.fields (m : AgenticBehaviorFeatures) : List (String × Json) :=
  [("action_burst_count", dumpOption dumpNat m.actionBurstCount),
    ("mean_burst_interval_ms", dumpOption dumpNonneg m.meanBurstIntervalMs),
    ("burst_interval_stddev_ms", dumpOption dumpNonneg m.burstIntervalStddevMs),
    ("idle_to_action_latency_ms", dumpOption dumpNonneg m.idleToActionLatencyMs),
    ("exploratory_action_count", dumpOption dumpNat m.exploratoryActionCount),
    ("route_directness_score", dumpOption dumpUnit m.routeDirectnessScore),
    ("large_instant_delta_count", dumpOption dumpNat m.largeInstantDeltaCount),
    ("submit_after_instant_input_ms", dumpOption dumpNonneg m.submitAfterInstantInputMs),
    ("structured_retry_count", dumpOption dumpNat m.structuredRetryCount),
    ("validation_repair_count", dumpOption dumpNat m.validationRepairCount)]

def ExternalRiskProviderFeatures.fields (m : ExternalRiskProviderFeatures) :
    List (String × Json) :=
  [("provider_id", .str m.providerId), ("risk_score", dumpUnit m.riskScore),
    ("confidence", dumpOption dumpUnit m.confidence),
    ("reason_codes", .arr (m.reasonCodes.map .str))]

/-- The fields of a packet, its nested models dumped through `dumpModel`. -/
def InteractionFeaturePacket.fields (dumpModel : List (String × Json) → List (String × Json))
    (m : InteractionFeaturePacket) : List (String × Json) :=
  [("surface", .str m.surface), ("site_id", dumpOption .str m.siteId),
    ("tenant_id", dumpOption .str m.tenantId), ("session_id", dumpOption .str m.sessionId),
    ("page_context", .obj m.pageContext),
    ("typing", dumpOption (fun s => .obj (dumpModel s.fields)) m.typing),
    ("pointer", dumpOption (fun s => .obj (dumpModel s.fields)) m.pointer),
    ("challenge", dumpOption (fun s => .obj (dumpModel s.fields)) m.challenge),
    ("agentic", dumpOption (fun s => .obj (dumpModel s.fields)) m.agentic),
    ("session_continuity", dumpOption (fun s => .obj (dumpModel s.fields)) m.sessionContinuity),
    ("environment", dumpOption (fun s => .obj (dumpModel s.fields)) m.environment),
    ("external_risk_provider", .arr (m.externalRiskProvider.map fun s => .obj (dumpModel s.fields))),
    ("metadata", .obj m.metadata)]

/-- `packet.model_dump()` -/
def InteractionFeaturePacket.dump (m : InteractionFeaturePacket) : Json := .obj (m.fields id)

/-- `packet.model_dump(mode="json", exclude_none=True)`; free dictionaries are kept whole. -/
def InteractionFeaturePacket.compactFields (m : InteractionFeaturePacket) : List (String × Json) :=
  compact (m.fields compact)

/-- `request.model_dump()` -/
def TruePresenceEvaluationRequest.dump (m : TruePresenceEvaluationRequest) : Json :=
  .obj [("session_id", .str m.sessionId), ("tenant_id", .str m.tenantId),
    ("enforcement_mode", .str m.enforcementMode.value), ("feature_packet", m.featurePacket.dump)]

/-! ## Dumped names -/

theorem TypingCadenceFeatures.names_subset (m : TypingCadenceFeatures) :
    m.fields.map Prod.fst ⊆ allowedTypingFields := by
  show (TypingCadenceFeatures.fields {}).map Prod.fst ⊆ allowedTypingFields
  decide

theorem PointerBehaviorFeatures.names_subset (m : PointerBehaviorFeatures) :
    m.fields.map Prod.fst ⊆ allowedPointerFields := by
  show (PointerBehaviorFeatures.fields {}).map Prod.fst ⊆ allowedPointerFields
  decide

theorem ChallengeInteractionFeatures.names_subset (m : ChallengeInteractionFeatures) :
    m.fields.map Prod.fst ⊆ allowedChallengeFields := by
  show (ChallengeInteractionFeatures.fields {}).map Prod.fst ⊆ allowedChallengeFields
  decide

theorem SessionContinuityFeatures.names_subset (m : SessionContinuityFeatures) :
    m.fields.map Prod.fst ⊆ allowedSessionContinuityFields := by
  show (SessionContinuityFeatures.fields {}).map Prod.fst ⊆ allowedSessionContinuityFields
  decide

theorem EnvironmentFeatures.names_subset (m : EnvironmentFeatures) :
    m.fields.map Prod.fst ⊆ allowedEnvironmentFields := by
  show (EnvironmentFeatures.fields {}).map Prod.fst ⊆ allowedEnvironmentFields
  decide

theorem AgenticBehaviorFeatures.names_subset (m : AgenticBehaviorFeatures) :
    m.fields.map Prod.fst ⊆ allowedAgenticFields := by
  show (AgenticBehaviorFeatures.fields {}).map Prod.fst ⊆ allowedAgenticFields
  decide

theorem ExternalRiskProviderFeatures.names_subset (m : ExternalRiskProviderFeatures) :
    m.fields.map Prod.fst ⊆ allowedExternalRiskFields := by
  show (ExternalRiskProviderFeatures.fields ⟨"", ⟨0, by decide⟩, none, []⟩).map Prod.fst ⊆
    allowedExternalRiskFields
  decide

theorem InteractionFeaturePacket.names_subset
    (dumpModel : List (String × Json) → List (String × Json)) (m : InteractionFeaturePacket) :
    (m.fields dumpModel).map Prod.fst ⊆ allowedPacketTopLevel := by
  show (InteractionFeaturePacket.fields id {}).map Prod.fst ⊆ allowedPacketTopLevel
  decide

theorem InteractionFeaturePacket.names_nodup
    (dumpModel : List (String × Json) → List (String × Json)) (m : InteractionFeaturePacket) :
    ((m.fields dumpModel).map Prod.fst).Nodup := by
  show ((InteractionFeaturePacket.fields id {}).map Prod.fst).Nodup
  decide

end TruePresenceESE.Sdk
