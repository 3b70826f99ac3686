import TruePresenceESE.Engine.Packet

/-! # The four roles and their reports

Each role reads its signals as numbers and answers with a dictionary. The
normaliser turns the answers into reports and appends a review of how far the
roles disagree.
-/

namespace TruePresenceESE.Engine

open PyValue JsonDict

/-! ## Reading signals -/

def exceeds (signals : JsonDict) (key : String) (default bound : ℚ) : Except PyError Bool :=
  (number (signals.getOr key (.num default))).map (decide <| bound < ·)

def below (signals : JsonDict) (key : String) (default bound : ℚ) : Except PyError Bool :=
  (number (signals.getOr key (.num default))).map (decide <| · < bound)

/-- `left and right` -/
def both (left right : Except PyError Bool) : Except PyError Bool := do
  if ← left then right else return false

/-- `left or right` -/
def either (left right : Except PyError Bool) : Except PyError Bool := do
  if ← left then return true else right

/-! ## Liveness -/

def livenessRole (signals : JsonDict) (temporalDrift : ℚ) : Except PyError JsonDict := do
  let score := signals.getOr "liveness" (.num 0)
  let liveness ← floatOperand score
  let confidence := min 1 (liveness + (if temporalDrift < 0.1 then 0.2 else 0))
  return ofFields [
    ("role", .str "liveness"),
    ("human_probability", score),
    ("confidence", .num confidence),
    ("finding", .str (if 0.6 < liveness then "presence_confirmed" else "presence_uncertain")),
    ("impact", .str (if 0.6 < liveness then "positive" else "neutral"))]

/-! ## Adversarial -/

/-- A check with its finding and the threat category it confirms. -/
structure Indicator where
  finding : String
  threat : Option String
  check : Except PyError Bool

def adversarialIndicators (signals : JsonDict) : List Indicator := [
  ⟨"unnaturally_consistent_timing", none, exceeds signals "optimization_risk" 0 0.7⟩,
  ⟨"contradictory_presence_signals", none,
    both (exceeds signals "liveness" 0 0.8) (exceeds signals "ai_mediation" 0 0.5)⟩,
  ⟨"low_interaction_entropy", none, below signals "mouse_entropy" 0 0.1⟩,
  ⟨"mirrored_content_detected", some "mirrors_userbots",
    both (exceeds signals "message_velocity" 0 50) (exceeds signals "content_similarity" 0 0.9)⟩,
  ⟨"high_resource_usage_pattern", some "crypto_miners",
    both (exceeds signals "cpu_usage" 0 80) (below signals "network_entropy" 0.5 0.3)⟩,
  ⟨"copyright_content_detected", some "dmca_violations",
    .ok (truthy (signals.getOr "copyright_indicators" (.arr [])))⟩,
  ⟨"torrent_activity_detected", some "torrent_aggregators",
    either (exceeds signals "torrent_indicators" 0 0.5) (exceeds signals "p2p_pattern" 0 0.7)⟩,
  ⟨"remote_access_detected", some "vnc_virtual_desktops",
    either (exceeds signals "vnc_indicators" 0 0.3)
      (exceeds signals "remote_access_pattern" 0 0.6)⟩,
  ⟨"illegal_content_detected", some "illegal_content",
    either (.ok (truthy (signals.getOr "illegal_indicators" (.arr []))))
      (exceeds signals "fraud_pattern" 0 0.8)⟩]

/-- The indicators whose check holds. -/
def raisedIndicators : List Indicator → Except PyError (List Indicator)
  | [] => .ok []
  | indicator :: rest => do
      let holds ← indicator.check
      let raised ← raisedIndicators rest
      return if holds then indicator :: raised else raised

def threatCategories (raised : List Indicator) : List String := raised.filterMap (·.threat)

def severityOf (raised : List Indicator) : ℚ :=
  if "illegal_content" ∈ threatCategories raised then 1
  else min 1 (raised.length * 0.15 + (threatCategories raised).length * 0.2)

def blockReason (threats findings : List String) : String :=
  if "illegal_content" ∈ threats then "Illegal content detected - permanent ban"
  else if "crypto_miners" ∈ threats then "Crypto mining detected - resource abuse"
  else if "dmca_violations" ∈ threats then "Copyright violation detected - DMCA"
  else if "torrent_aggregators" ∈ threats then "Torrent activity detected - piracy"
  else if "vnc_virtual_desktops" ∈ threats then "Unauthorized remote access detected"
  else if "mirrors_userbots" ∈ threats then "Spam mirror/userbot detected"
  else if findings ≠ [] then "Bot-like behavior detected"
  else "Unknown threat"

def adversarialRole (signals : JsonDict) : Except PyError JsonDict := do
  let raised ← raisedIndicators (adversarialIndicators signals)
  let findings := raised.map (·.finding)
  let threats := threatCategories raised
  let severity := severityOf raised
  return ofFields [
    ("role", .str "adversarial"),
    ("human_probability", .num (1 - severity)),
    ("bot_probability", .num severity),
    ("confidence", .num (min 1 (0.5 + severity * 0.5))),
    ("findings", .arr (findings.map .str)),
    ("threat_categories", .arr (threats.map .str)),
    ("severity", .num severity),
    ("block_reason", .str (blockReason threats findings)),
    ("impact", .str (if findings ≠ [] then "negative" else "neutral"))]

/-! ## Mediation and relay -/

/-- The two roles that take one risk signal at its word. -/
def riskRole (role signal scoreField : String) (bound : ℚ) (found clear : String)
    (signals : JsonDict) : Except PyError JsonDict := do
  let score := signals.getOr signal (.num 0)
  let risk ← floatOperand score
  return ofFields [
    ("role", .str role),
    ("human_probability", .num (1 - risk)),
    (scoreField, score),
    ("confidence", .num (min 1 (0.5 + risk * 0.5))),
    ("finding", .str (if bound < risk then found else clear)),
    ("impact", .str (if bound < risk then "negative" else "neutral"))]

def mediationRole (signals : JsonDict) : Except PyError JsonDict :=
  riskRole "mediation" "ai_mediation" "ai_mediation_score" 0.5 "ai_assisted" "human_origin" signals

def relayRole (signals : JsonDict) : Except PyError JsonDict :=
  riskRole "relay" "relay_risk" "relay_risk" 0.6 "automated_tool" "direct_interaction" signals

/-- The answers of the roles under their names. -/
def roleOutputs (signals : JsonDict) (temporalDrift : ℚ) :
    Except PyError (List (String × JsonDict)) := do
  let liveness ← livenessRole signals temporalDrift
  let adversarial ← adversarialRole signals
  let mediation ← mediationRole signals
  let relay ← relayRole signals
  return [("liveness", liveness), ("adversarial", adversarial), ("mediation", mediation),
    ("relay", relay)]

/-! ## Reports -/

structure RoleReport where
  reportId : Json
  role : String
  summary : Json
  confidence : Json
  humanProbability : Json
  findings : List String
  metadata : JsonDict

/-- What normalising reads from outside: texts of values, `float` on texts, `dict`
on values that are no mapping, and a fresh id for each report. -/
structure ReportHost where
  py : Interpreter
  parseFloat : String → Option ℚ
  toDict : Json → Except PyError JsonDict
  reportId : String → String

def ReportHost.dictOf (host : ReportHost) : Json → Except PyError JsonDict
  | .obj fields => .ok (ofFields fields)
  | value => host.toDict value

def flattenFindings (py : Interpreter) (raw : JsonDict) : Except PyError (List String) := do
  let finding := raw.get "finding"
  let single := if truthy finding then [str py finding] else []
  let findings ← listOf (orElse (raw.getOr "findings" (.arr [])) (.arr []))
  let threats ← listOf (orElse (raw.getOr "threat_categories" (.arr [])) (.arr []))
  return (single ++ findings.map (str py) ++ threats.map (str py)).eraseDups

def normalizeSingleReport (host : ReportHost) (role : String) (raw : JsonDict) :
    Except PyError RoleReport := do
  let findings ← flattenFindings host.py raw
  let joined := String.intercalate ", " findings
  let confidence ← toFloat host.parseFloat (raw.getOr "confidence" (.num 0.5))
  let metadata ← host.dictOf (raw.getOr "metadata" (.obj []))
  return {
    reportId := orElse (raw.get "report_id") (.str ("report:" ++ role ++ ":" ++ host.reportId role))
    role := role
    summary := orElse (orElse (orElse (raw.get "summary") (raw.get "finding")) (.str joined))
      (.str (role ++ " completed without a structured summary."))
    confidence := .num confidence
    humanProbability := raw.get "human_probability"
    findings := findings
    metadata := metadata.set "raw_role_output" raw.toJson }

/-! ## The integrity review -/

/-- `max(values) - min(values)`, zero for none. -/
def spread : List ℚ → ℚ
  | [] => 0
  | q :: rest => rest.foldl max q - rest.foldl min q

/-- The numbers among the reports' probabilities. -/
def givenProbabilities (reports : List RoleReport) : Except PyError (List ℚ) :=
  ((reports.map (·.humanProbability)).filter (!isNone ·)).mapM number

def unsupportedClaims (challengeStatus : Json) (report : RoleReport) :
    Except PyError (List String) := do
  let confident ← (number report.confidence).map (decide <| (0.9 : ℚ) < ·)
  let unfounded := if confident && report.findings.isEmpty then
    [report.role ++ ":high_confidence_without_findings"] else []
  if isText "passed" challengeStatus && !isNone report.humanProbability then
    let probability ← number report.humanProbability
    return unfounded ++ if probability < 0.2 then
      [report.role ++ ":contradicts_passed_challenge"] else []
  return unfounded

def reasoningIntegrityReview (host : ReportHost) (reports : List RoleReport)
    (challengeStatus : Json) : Except PyError RoleReport := do
  let probabilities ← givenProbabilities reports
  let disagreement := spread probabilities
  let claims ← reports.mapM (unsupportedClaims challengeStatus)
  let unsupported := claims.flatten
  let role := "reasoning_integrity_reviewer"
  return {
    reportId := .str ("report:" ++ role ++ ":" ++ host.reportId role)
    role := role
    summary := .str ("Reviewed whether role conclusions are supported by the current evidence " ++
      "packet and argument graph.")
    confidence := .num (max 0.4 (min 0.95 (0.55 + disagreement / 2)))
    humanProbability := .null
    findings := (if unsupported = [] then [] else ["unsupported_inference_detected"]) ++
      (if 0.5 < disagreement then ["material_role_disagreement"] else [])
    metadata := ofFields [("disagreement_score", .num disagreement),
      ("unsupported_claims", .arr (unsupported.map .str))] }

def normalizeRoleReports (host : ReportHost) (outputs : List (String × JsonDict))
    (challengeStatus : Json) : Except PyError (List RoleReport) := do
  let reports ← outputs.mapM fun output => normalizeSingleReport host output.1 output.2
  let review ← reasoningIntegrityReview host reports challengeStatus
  return reports ++ [review]

/-- Running the ensemble on a packet's signals. -/
def ensembleReports (host : ReportHost) (packet : EvidencePacket) (temporalDrift : ℚ) :
    Except PyError (List RoleReport) := do
  let outputs ← roleOutputs packet.signals temporalDrift
  normalizeRoleReports host outputs (packet.challengeData.get "status")

end TruePresenceESE.Engine
