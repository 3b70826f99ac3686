import TruePresenceESE.Telegram.Enforcement

/-! # The community evidence card

Built from the event's community context, the evaluation and the action, as the
card the admins see. Members of the context are copied as they are; a
confidence that is no number makes the build fail.
-/

namespace TruePresenceESE.Telegram

open PyValue

/-- The decision with the packet it rests on. -/
structure Decision where
  decisionId : String
  packetId : String
  tenantId : String
  state : String
  recommendedEnforcement : String
  confidence : ℚ
  humanProbability : ℚ
  reasonCodes : List String

def dictOrEmpty : Option Json → Json
  | some (.obj fields) => .obj fields
  | _ => .obj []

/-- `values = source.get("reason_codes")`, or the codes under `final`. -/
def codeValues (source : Json) : Option Json :=
  match source.get? "reason_codes" with
  | some .null | none =>
      match source.get? "final" with
      | some (.obj fields) => (Json.obj fields).get? "reason_codes"
      | _ => none
  | some value => some value

/-- The texts of the codes of one source; a falsy value has none. -/
def codeTexts (py : Interpreter) (source : Json) : Except PyError (List String) :=
  match (codeValues source).filter PyValue.truthy with
  | none => .ok []
  | some value => (iterate value).elim (.error .typeError) fun items => .ok (items.map (str py))

/-- The action dictionary has neither codes nor a final result of its own. -/
def reasonCodesFrom (py : Interpreter) (community : Json) (decision : Decision) :
    Except PyError (List String) :=
  (codeTexts py community).map fun texts => (texts ++ decision.reasonCodes).eraseDups

def signalSummary (signal : Json) : Json :=
  let field name := (signal.get? name).getD .null
  .obj [("reason_code", field "reason_code"), ("severity", field "severity"),
    ("confidence", field "confidence"), ("contribution_target", field "contribution_target"),
    ("category", field "category"), ("explanation", field "explanation")]

def isDict : Json → Bool
  | .obj _ => true
  | _ => false

def detectorSignalSummaries : Option Json → List Json
  | some (.arr signals) => (signals.filter isDict).map signalSummary
  | _ => []

def riskLevel (score : ℚ) : String :=
  if 0.75 ≤ score then "high" else if 0.5 ≤ score then "medium" else "low"

/-- The greatest confidence of the signals, zero where there is none. -/
def detectorConfidence (rt : BotRuntime) (signals : List Json) : Except PyError ℚ :=
  match signals with
  | [] => .ok 0
  | first :: rest => do
      let confidence ← confidenceOf rt first
      rest.foldlM (fun best signal => (confidenceOf rt signal).map (max best)) confidence

def buildTelegramCommunityEvidenceCard (rt : BotRuntime) (event : Json) (action : ActionRecord)
    (decision : Decision) : Except PyError Json := do
  let context := dictOrEmpty (event.get? "context")
  let .obj community := (context.get? "telegram_community").getD (.obj [])
    | throw .attributeError
  let features := dictOrEmpty ((Json.obj community).get? "features")
  let signals := detectorSignalSummaries ((Json.obj community).get? "detector_signals")
  let reasonCodes ← reasonCodesFrom rt.py (.obj community) decision
  let ofSignals ← detectorConfidence rt signals
  let confidence := max (max action.confidence decision.confidence) ofSignals
  let score := Json.num (Rounding.roundTo 3 confidence)
  return .obj [("surface", .str "telegram"),
    ("risk", .obj [("score", score), ("level", .str (riskLevel confidence))]),
    ("confidence", score),
    ("reason_codes", .arr (reasonCodes.map .str)),
    ("timestamps", .obj [("event_timestamp", (event.get? "timestamp").getD .null),
      ("created_at", .str rt.utcNowIso)]),
    ("recommended_action", .str action.action),
    ("feature_summaries", features),
    ("detector_signals", .arr signals),
    ("actor_refs", .obj [("user_id", (context.get? "user_id").getD .null),
      ("group_id", (context.get? "group_id").getD .null)]),
    ("privacy_boundary", .str "metadata_only_no_content_preview")]

end TruePresenceESE.Telegram
