import TruePresenceESE.Telegram.Response

/-! # Rewriting an action before it is executed

Safety escalation, community recommendation and the tenant's enforcement mode
rewrite the action in this order. Both contexts are arbitrary JSON, so each
conversion of one of their members can raise.
-/

namespace TruePresenceESE.Telegram

open PyValue

inductive HttpReply where
  | response (statusCode : Nat) (text : String)
  /-- A timeout or a network error. -/
  | transient (error : String)
  | failure (error : String)

/-- What the service reads from outside. -/
structure BotRuntime where
  py : Interpreter
  upper : String → String
  parseFloat : String → Option ℚ
  /-- `dict(value)` where the value is no mapping. -/
  toDict : Json → Except PyError Json
  environ : String → Option String
  /-- The stored bot token of a tenant, or the one in the environment. -/
  resolveToken : String → Option String
  now : ℚ
  utcNowIso : String
  /-- How the API answers the attempts of one call. -/
  http : Nat → HttpReply

/-! ## The action dictionary -/

structure ActionRecord where
  action : String
  reason : String
  confidence : ℚ
  threatCategories : List Json
  tenantId : Option String
  rateLimited : Bool
  enforcementMode : Option String := none
  intendedAction : Option String := none
  suppressedAction : Option String := none
  suppressionReason : Option String := none
  communityReasonCodes : Option (List Json) := none
  safetyEscalation : Bool := false
  safetyReasonCodes : Option (List Json) := none
  safetyEvidenceCard : Option Json := none
  evidenceCard : Option Json := none

def modelDump (action : TelegramAction) : ActionRecord where
  action := action.action
  reason := action.reason
  confidence := action.confidence
  threatCategories := action.threatCategories.map .str
  tenantId := action.tenantId
  rateLimited := action.rateLimited

/-! ## Enforcement mode -/

def allowedEnforcementModes : List String :=
  ["observe", "challenge_only", "review_required", "enforce"]

def safetyReviewActions : List String :=
  ["quarantine_message", "restrict_sender", "admin_review", "mandatory_safety_escalation"]

/-- `os.environ.get(name)` where an empty value counts as none. -/
def setting (rt : BotRuntime) (name : String) : Option String :=
  (rt.environ name).filter (· ≠ "")

def enforcementModeForTenant (rt : BotRuntime) (tenantId : String) : String :=
  let value := rt.py.lower (PyText.strip
    ((setting rt ("TELEGRAM_ENFORCEMENT_MODE_" ++ rt.upper tenantId)).getD
      ((setting rt "TELEGRAM_ENFORCEMENT_MODE").getD "observe")))
  if value ∈ allowedEnforcementModes then value else "observe"

def suppress (action : ActionRecord) (instead reason : String) : ActionRecord :=
  { action with
    action := instead
    suppressedAction := some action.action
    suppressionReason := some reason }

def applyEnforcementMode (mode : String) (action : ActionRecord) : ActionRecord :=
  let marked :=
    { action with enforcementMode := some mode, intendedAction := some action.action }
  if action.safetyEscalation ∧ action.action ∈ safetyReviewActions then marked
  else if mode = "enforce" then marked
  else if action.action = "allow" then marked
  else if mode = "observe" then
    suppress marked "allow" "telegram_enforcement_mode_observe"
  else if mode = "challenge_only" ∧ action.action ∈ ["ban", "kick", "block"] then
    suppress marked "challenge" "telegram_enforcement_mode_challenge_only"
  else if mode = "review_required" ∧ action.action ∈ ["ban", "kick", "block"] then
    suppress marked "alert_admin" "telegram_enforcement_mode_review_required"
  else marked

theorem enforcementModeForTenant_mem (rt : BotRuntime) (tenantId : String) :
    enforcementModeForTenant rt tenantId ∈ allowedEnforcementModes := by
  unfold enforcementModeForTenant
  dsimp only
  split
  · assumption
  · simp [allowedEnforcementModes]

/-! ## Contexts -/

/-- A mapping in the event's context, empty where something else stands. -/
def contextField (event : Json) (name : String) : Json :=
  match event.get? "context" with
  | some (.obj fields) =>
      match (Json.obj fields).get? name with
      | some (.obj members) => .obj members
      | _ => .obj []
  | _ => .obj []

/-- `list(mapping.get("reason_codes", []))` -/
def reasonCodesOf (mapping : Json) : Except PyError (List Json) :=
  match mapping.get? "reason_codes" with
  | none => .ok []
  | some value => (iterate value).elim (.error .typeError) .ok

/-- `float(mapping.get("confidence") or 0.0)` -/
def confidenceOf (rt : BotRuntime) (mapping : Json) : Except PyError ℚ :=
  match mapping.get? "confidence" with
  | some value => if PyValue.truthy value then toFloat rt.parseFloat value else .ok 0
  | none => .ok 0

/-- The loop's step: a confidence of the wrong type or form is passed over, one
out of range is not. -/
def raiseScore (rt : BotRuntime) (score : ℚ) (signal : Json) : Except PyError ℚ :=
  match signal with
  | .obj _ =>
      match confidenceOf rt signal with
      | .ok confidence => .ok (max score confidence)
      | .error .typeError => .ok score
      | .error .valueError => .ok score
      | .error e => .error e
  | _ => .ok score

def communityRiskScore (rt : BotRuntime) (community : Json) : Except PyError ℚ :=
  match community.get? "detector_signals" with
  | some (.arr signals) => signals.foldlM (raiseScore rt) 0
  | _ => .ok 0

def applyTelegramCommunityRecommendation (rt : BotRuntime) (action : ActionRecord)
    (event : Json) : Except PyError ActionRecord := do
  let community := contextField event "telegram_community"
  let reasonCodes ← reasonCodesOf community
  let riskScore ← communityRiskScore rt community
  if reasonCodes.isEmpty ∨ riskScore < 0.65 then return action
  let threats ← fromKeys (action.threatCategories ++ reasonCodes)
  let upgraded :=
    { action with
      communityReasonCodes := some reasonCodes
      confidence := max action.confidence riskScore
      threatCategories := threats }
  if upgraded.action = "allow" then
    let texts ← joinTexts (reasonCodes.take 3)
    return { upgraded with
      action := "alert_admin"
      reason := "Telegram community behavior review: " ++ texts }
  return upgraded

/-- `safety.get("recommended_action") in _SAFETY_REVIEW_ACTIONS`, which a
container cannot be asked. -/
def recommendedSafetyAction (safety : Json) : Except PyError (Option String) :=
  match safety.get? "recommended_action" with
  | some (.str name) => .ok (if name ∈ safetyReviewActions then some name else none)
  | some (.arr _) => .error .typeError
  | some (.obj _) => .error .typeError
  | _ => .ok none

/-- The context's own confidence, else the card's, which is then asked for it. -/
def safetyConfidence (rt : BotRuntime) (safety evidenceCard : Json) : Except PyError ℚ :=
  match (safety.get? "confidence").filter PyValue.truthy with
  | some value => toFloat rt.parseFloat value
  | none =>
      match evidenceCard with
      | .obj fields => confidenceOf rt (.obj fields)
      | _ => .error .attributeError

def asDict (rt : BotRuntime) : Json → Except PyError Json
  | .obj fields => .ok (.obj fields)
  | value => rt.toDict value

def applyTelegramSafetyEscalation (rt : BotRuntime) (action : ActionRecord) (event : Json) :
    Except PyError ActionRecord := do
  let safety := contextField event "telegram_safety"
  let reasonCodes ← reasonCodesOf safety
  if reasonCodes.isEmpty then return action
  let some recommended ← recommendedSafetyAction safety | return action
  let evidenceCard := (safety.get? "evidence_card").getD (.obj [])
  let confidence ← safetyConfidence rt safety evidenceCard
  let texts ← joinTexts (reasonCodes.take 3)
  let card ← asDict rt evidenceCard
  let threats ← fromKeys (action.threatCategories ++ reasonCodes)
  return { action with
    action := recommended
    reason := "Telegram safety escalation: " ++ texts
    confidence := max action.confidence confidence
    safetyEscalation := true
    safetyReasonCodes := some reasonCodes
    safetyEvidenceCard := some card
    threatCategories := threats }

end TruePresenceESE.Telegram
