import TruePresenceESE.Lib.Dict
import TruePresenceESE.Lib.PyValue
import TruePresenceESE.Lib.Rounding

/-! # From evaluation result to Telegram action

`buildResponse` maps a result to an enforcement action and keeps the table of
recent bans. The table is module-global, so it is threaded from call to call.
-/

namespace TruePresenceESE.Telegram

/-- The members of an evaluation result; one that is absent is `none`. -/
structure EvaluationResult where
  state : Option String
  decision : Option String
  confidence : Option ℚ
  humanProbability : Option ℚ
  threatCategories : Option (List String)
  reasonCodes : Option (List String)
  riskFactors : Option (List String)
  blockReason : Option String

structure TelegramAction where
  action : String
  reason : String
  confidence : ℚ
  threatCategories : List String
  tenantId : Option String
  rateLimited : Bool

/-! ## The table of bans -/

/-- A key of the table: texts and numbers never compare equal. -/
inductive BanKey where
  | text (s : String)
  | number (n : ℤ)
  deriving DecidableEq

abbrev BanActions := Dict BanKey ℚ

def banCooldownSeconds : ℚ := 60

/-- The key that is looked up, `f"{tenant_id}:{user_id}"`. -/
def banKey (tenantId : Option String) (userId : ℤ) : BanKey :=
  .text (tenantId.getD "None" ++ ":" ++ toString userId)

/-- The entry that is written, under the user id alone. -/
def recordBan (bans : BanActions) (now : ℚ) : Option ℤ → BanActions
  | none => bans
  | some userId => bans.set (.number userId) now

def isRateLimited (bans : BanActions) (now : ℚ) (tenantId : Option String) :
    Option ℤ → Bool
  | none => false
  | some userId => now - (bans.get? (banKey tenantId userId)).getD 0 < banCooldownSeconds

/-! ## The mapping -/

def criticalFactors : List String := ["child_exploitation", "illegal_content"]

def policyFactors : List String :=
  ["copyright_violation", "torrent_sharing", "crypto_mining", "remote_access"]

/-- Whether a threat category or a reason code is one of the factors. -/
def hasFactor (evaluation : EvaluationResult) (factors : List String) : Bool :=
  (evaluation.threatCategories.getD []).any (factors.contains ·) ||
    (evaluation.reasonCodes.getD []).any (factors.contains ·)

def orElse (text default : String) : String := if text = "" then default else text

/-- `f"{q:.0%}"` -/
def percent (q : ℚ) : String := toString (Rounding.roundHalfEven (q * 100)) ++ "%"

def riskFactorsText (py : Interpreter) (evaluation : EvaluationResult) : String :=
  py.repr (.arr ((evaluation.riskFactors.getD []).map .str))

/-- The rules behind the rate limit, by what they do. -/
inductive Rule where
  | criticalBan
  | policyBan
  | policyKick
  | eject
  | restrict
  | stepUp
  | observe
  | blockBan
  | blockKick
  | challenge
  | review
  | allow
  deriving DecidableEq

/-- The first rule that fits. -/
def firstRule (evaluation : EvaluationResult) : Rule :=
  let state := evaluation.state
  let decision := evaluation.decision.getD "allow"
  let confidence := evaluation.confidence.getD 0
  if hasFactor evaluation criticalFactors then .criticalBan
  else if hasFactor evaluation policyFactors ∧ 0.8 < confidence then .policyBan
  else if hasFactor evaluation policyFactors ∧ 0.5 < confidence then .policyKick
  else if state = some "EJECT" then .eject
  else if state = some "RESTRICT" then .restrict
  else if state = some "STEP_UP_AUTH" then .stepUp
  else if state = some "OBSERVE" then .observe
  else if decision = "block" ∧ 0.8 < confidence then .blockBan
  else if decision = "block" ∧ 0.6 < confidence then .blockKick
  else if decision = "challenge" then .challenge
  else if decision = "review" then .review
  else .allow

/-- What follows the rate limit. Each rule that bans also records the ban. -/
def applyRules (py : Interpreter) (bans : BanActions) (now : ℚ) (evaluation : EvaluationResult)
    (tenantId : Option String) (userId : Option ℤ) : TelegramAction × BanActions :=
  let confidence := evaluation.confidence.getD 0
  let humanProb := percent (evaluation.humanProbability.getD (1 / 2))
  let threats := evaluation.threatCategories.getD []
  let blockReason := evaluation.blockReason.getD ""
  match firstRule evaluation with
  | .criticalBan =>
      (⟨"ban", "CRITICAL SECURITY VIOLATION: " ++ orElse blockReason "Illegal content detected",
        confidence, threats, tenantId, false⟩, recordBan bans now userId)
  | .policyBan =>
      (⟨"ban", "Policy Violation: " ++ orElse blockReason "Repeated policy breach",
        confidence, threats, tenantId, false⟩, recordBan bans now userId)
  | .policyKick =>
      (⟨"kick", "Policy Warning: " ++ orElse blockReason "Suspicious activity",
        confidence, threats, tenantId, false⟩, bans)
  | .eject =>
      (⟨"ban", orElse blockReason "Deterministic policy violation",
        confidence, threats, tenantId, false⟩, recordBan bans now userId)
  | .restrict =>
      (⟨"kick", orElse blockReason "Restricted pending further review",
        confidence, threats, tenantId, false⟩, bans)
  | .stepUp =>
      (⟨"challenge", "Additional verification required", confidence, [], tenantId, false⟩, bans)
  | .observe =>
      (⟨"allow", "Allowed with monitoring", confidence, [], tenantId, false⟩, bans)
  | .blockBan =>
      (⟨"ban", orElse blockReason ("Bot detected (" ++ humanProb ++ " human probability)"),
        confidence, [], tenantId, false⟩, recordBan bans now userId)
  | .blockKick =>
      (⟨"kick", orElse blockReason ("Suspicious (" ++ humanProb ++ " human probability)"),
        confidence, [], tenantId, false⟩, bans)
  | .challenge =>
      (⟨"challenge", "Verification required", confidence, [], tenantId, false⟩, bans)
  | .review =>
      (⟨"alert_admin", "Review needed - " ++ riskFactorsText py evaluation,
        confidence, [], tenantId, false⟩, bans)
  | .allow => (⟨"allow", "", confidence, [], tenantId, false⟩, bans)

def buildResponse (py : Interpreter) (bans : BanActions) (now : ℚ) (evaluation : EvaluationResult)
    (tenantId : Option String) (userId : Option ℤ) : TelegramAction × BanActions :=
  if isRateLimited bans now tenantId userId then
    (⟨"alert_admin", "Rate-limited: " ++ riskFactorsText py evaluation,
      evaluation.confidence.getD 0, [], tenantId, true⟩, bans)
  else
    applyRules py bans now evaluation tenantId userId

/-! ## What the rules decide -/

/-- The results the rules map to a ban. -/
def determinesBan (evaluation : EvaluationResult) : Prop :=
  let confidence := evaluation.confidence.getD 0
  let state := evaluation.state
  hasFactor evaluation criticalFactors ∨
    (hasFactor evaluation policyFactors ∧ 0.8 < confidence) ∨
    (¬(hasFactor evaluation policyFactors ∧ 0.5 < confidence) ∧
      (state = some "EJECT" ∨
        (state ∉ [some "RESTRICT", some "STEP_UP_AUTH", some "OBSERVE"] ∧
          evaluation.decision.getD "allow" = "block" ∧ 0.8 < confidence)))

def Rule.bans : Rule → Bool
  | .criticalBan | .policyBan | .eject | .blockBan => true
  | .policyKick | .restrict | .stepUp | .observe | .blockKick | .challenge | .review | .allow =>
      false

private theorem Rule.bans_ite {c : Prop} [Decidable c] {r r' : Rule} :
    (if c then r else r').bans ↔ (c ∧ r.bans) ∨ (¬c ∧ r'.bans) := by
  split <;> simp_all

theorem firstRule_bans_iff (evaluation : EvaluationResult) :
    (firstRule evaluation).bans ↔ determinesBan evaluation := by
  simp only [firstRule, Rule.bans_ite]
  simp only [Rule.bans, Bool.false_eq_true, and_true, and_false, or_false, determinesBan,
    List.mem_cons, List.not_mem_nil, not_or]
  tauto

/-- A result is a ban that is recorded, or no ban and nothing is recorded. -/
def RecordsBan (bans : BanActions) (now : ℚ) (userId : Option ℤ)
    (result : TelegramAction × BanActions) : Prop :=
  result.2 = if result.1.action = "ban" then recordBan bans now userId else bans

variable {py : Interpreter} {bans : BanActions} {now : ℚ} {evaluation : EvaluationResult}
  {tenantId : Option String} {userId : Option ℤ}

theorem applyRules_ban_iff :
    (applyRules py bans now evaluation tenantId userId).1.action = "ban" ↔
      determinesBan evaluation := by
  rw [← firstRule_bans_iff]
  unfold applyRules
  cases firstRule evaluation <;> simp [Rule.bans]

theorem applyRules_records :
    RecordsBan bans now userId (applyRules py bans now evaluation tenantId userId) := by
  unfold applyRules
  cases firstRule evaluation <;> simp [RecordsBan]

theorem buildResponse_records :
    RecordsBan bans now userId (buildResponse py bans now evaluation tenantId userId) := by
  unfold buildResponse
  split
  · simp [RecordsBan]
  · exact applyRules_records

end TruePresenceESE.Telegram
