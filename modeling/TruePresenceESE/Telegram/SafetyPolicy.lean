import TruePresenceESE.Lib.NoisyOr
import TruePresenceESE.Lib.Rounding
import TruePresenceESE.Sdk.Validation

/-! # Safety escalation of media behavior

The policy looks at derived media behavior only and at a risk that an external provider may
report. What it finds becomes an escalation with an evidence card.
-/

namespace TruePresenceESE.Telegram

open Sdk Rounding

/-! ## Features and signals -/

/-- References are copied into the card and never looked into. -/
structure TelegramSafetyFeatures where
  chatId : Json
  messageId : Json
  senderId : Json
  eventTimestamp : Json
  eventType : String := "message"
  mediaPresent : Bool
  joinToFirstMediaMs : Option ℚ
  mediaCountWindow : ℕ
  mediaBurstCount : ℕ
  synchronizedMediaPeerCount : ℕ
  groupHopCount : ℕ
  accountAgeDays : Option ℕ
  rapidDeleteRepostCount : ℕ := 0

structure SafetySignal where
  reasonCode : String
  severity : String
  confidence : ℚ
  explanation : String

/-- The severity follows the confidence. -/
def safetySignal (reasonCode : String) (confidence : ℚ) (explanation : String) : SafetySignal :=
  ⟨reasonCode, if 0.85 ≤ confidence then "critical" else "high", confidence, explanation⟩

def highRiskCodes : List String :=
  ["instant_media_post_after_join", "media_burst_pattern", "coordinated_media_distribution_cluster"]

/-- The signals before the one that depends on them. -/
def mediaSignals (f : TelegramSafetyFeatures) : List SafetySignal :=
  (if f.joinToFirstMediaMs.any (· ≤ 5000) then
    [safetySignal "instant_media_post_after_join"
      (if f.joinToFirstMediaMs.any (· ≤ 1500) then 0.86 else 0.74)
      "Media was posted shortly after the account joined the group."]
  else []) ++
  (if 3 ≤ f.mediaCountWindow ∧ 2 ≤ f.mediaBurstCount then
    [safetySignal "media_burst_pattern" (if 4 ≤ f.mediaCountWindow then 0.88 else 0.8)
      "Multiple media messages appeared in a compact rolling window."]
  else []) ++
  (if 2 ≤ f.rapidDeleteRepostCount then
    [safetySignal "rapid_delete_repost_pattern" (if f.rapidDeleteRepostCount < 4 then 0.84 else 0.9)
      "Delete/repost metadata indicates repeated media redistribution behavior."]
  else []) ++
  (if 2 ≤ f.synchronizedMediaPeerCount then
    [safetySignal "coordinated_media_distribution_cluster"
      (if f.synchronizedMediaPeerCount < 4 then 0.82 else 0.9)
      "Several distinct peers distributed media within a tight time cluster."]
  else []) ++
  if 3 ≤ f.groupHopCount then
    [⟨"repeat_group_hopping_pattern", "high", if f.groupHopCount < 5 then 0.72 else 0.82,
      "The account appears across several groups in recent metadata."⟩]
  else []

def evaluateTelegramSafetyPolicy (f : TelegramSafetyFeatures) : List SafetySignal :=
  if f.mediaPresent then
    let signals := mediaSignals f
    let highRiskBehavior := signals.any fun s => highRiskCodes.contains s.reasonCode
    if f.accountAgeDays.any (· ≤ 30) ∧ highRiskBehavior then
      signals ++ [⟨"new_account_high_risk_media_behavior", "critical", 0.86,
        "A new account is associated with high-risk media distribution metadata."⟩]
    else signals
  else []

/-! ## Escalation -/

/-- What a lawful provider reports, without any content. -/
structure ProviderRiskSignal where
  providerId : String
  providerReferenceId : String
  outcome : String
  riskScore : UnitInterval
  confidence : Option UnitInterval

structure SafetyEscalation where
  reasonCodes : List String
  riskScore : ℚ
  confidence : ℚ
  riskLabel : String
  recommendedAction : String
  evidenceCard : Json
  detectorSignals : List SafetySignal

def recommendedAction (score : ℚ) (reasonCount : ℕ) (provider : Option ProviderRiskSignal) : String :=
  if provider.any (0.85 ≤ ·.riskScore.val) then "mandatory_safety_escalation"
  else if 0.85 ≤ score ∨ (0.8 ≤ score ∧ 2 ≤ reasonCount) then "mandatory_safety_escalation"
  else if 0.8 ≤ score then "restrict_sender"
  else if 0.75 ≤ score then "admin_review"
  else if 0.65 ≤ score then "quarantine_message"
  else "admin_review"

def providerAssessmentConfidence : Option ProviderRiskSignal → ℚ
  | none => 0
  | some provider =>
      match provider.confidence with
      | some confidence => confidence.val
      | none => min 0.55 provider.riskScore.val

/-- Two references beside the media are the least that corroborates. -/
def hasSufficientMetadata (f : TelegramSafetyFeatures) (provider : Option ProviderRiskSignal) : Bool :=
  let references := [f.chatId, f.messageId, f.senderId, f.eventTimestamp]
  let present := references.countP (fun | .null => false | _ => true) +
    if provider.any (·.providerReferenceId ≠ "") then 1 else 0
  f.mediaPresent && 3 ≤ present

def reasonCorroborationBonus (reasonCodes : List String) (f : TelegramSafetyFeatures)
    (provider : Option ProviderRiskSignal) : ℚ :=
  if hasSufficientMetadata f provider then
    min 0.12 ((reasonCodes.eraseDups.length - 1 : ℕ) * 0.04)
  else 0

/-- The greatest confidence, zero where there is none. -/
def greatestConfidence (signals : List SafetySignal) : ℚ :=
  match signals.map SafetySignal.confidence with
  | [] => 0
  | first :: rest => rest.foldl max first

def assessmentConfidence (signals : List SafetySignal) (provider : Option ProviderRiskSignal)
    (reasonCodes : List String) (f : TelegramSafetyFeatures) : ℚ :=
  NoisyOr.clamp (max (greatestConfidence signals) (providerAssessmentConfidence provider) +
    reasonCorroborationBonus reasonCodes f provider)

def riskLabelForScore (score : ℚ) : String :=
  if 0.85 ≤ score then "critical" else if 0.65 ≤ score then "high"
  else if 0.4 ≤ score then "medium" else "low"

/-- Fields that are `None` are left out; the id is drawn afresh. -/
def buildSafetyEvidenceCard (evidenceId : String) (f : TelegramSafetyFeatures)
    (reasonCodes : List String) (riskScore confidence : ℚ) (action : String)
    (provider : Option ProviderRiskSignal) : Json :=
  let score := NoisyOr.clamp riskScore
  let reference (name : String) : Json → List (String × Json)
    | .null => []
    | value => [(name, value)]
  let text (name : String) (value : Option String) : List (String × Json) :=
    (value.map fun s => (name, Json.str s)).toList
  .obj ([("evidence_id", .str evidenceId)] ++ reference "chat_id" f.chatId ++
    reference "message_id" f.messageId ++ reference "sender_id" f.senderId ++
    [("timestamps", .obj [("event_timestamp", f.eventTimestamp)]),
      ("media_present", .bool f.mediaPresent), ("event_type", .str f.eventType),
      ("reason_codes", .arr (reasonCodes.eraseDups.map .str)),
      ("risk", .obj [("score", .num (roundTo 3 score)), ("label", .str (riskLabelForScore score))]),
      ("confidence", .num (roundTo 3 (NoisyOr.clamp confidence))),
      ("risk_label", .str (riskLabelForScore score)), ("recommended_action", .str action)] ++
    text "provider_reference_id" (provider.map (·.providerReferenceId)) ++
    text "provider_outcome" (provider.map (·.outcome)))

def providerSafetySignal (provider : ProviderRiskSignal) : SafetySignal where
  reasonCode := "new_account_high_risk_media_behavior"
  severity := if 0.85 ≤ provider.riskScore.val then "critical" else "high"
  confidence := providerAssessmentConfidence (some provider)
  explanation := "Lawful provider supplied a high-risk media reference outcome."

def evaluateTelegramSafetyEscalation (evidenceId : String) (f : TelegramSafetyFeatures)
    (provider : Option ProviderRiskSignal) : Option SafetyEscalation :=
  let policySignals := evaluateTelegramSafetyPolicy f
  let signals := policySignals ++
    (provider.filter (0.65 ≤ ·.riskScore.val)).toList.map providerSafetySignal
  let reasonCodes := (signals.map SafetySignal.reasonCode).eraseDups
  if reasonCodes.isEmpty then none
  else
    let score := max (greatestConfidence policySignals)
      ((provider.map (·.riskScore.val)).getD 0)
    let confidence := assessmentConfidence signals provider reasonCodes f
    let action := recommendedAction score reasonCodes.length provider
    some
      { reasonCodes := reasonCodes
        riskScore := score
        confidence := confidence
        riskLabel := riskLabelForScore score
        recommendedAction := action
        evidenceCard := buildSafetyEvidenceCard evidenceId f reasonCodes score confidence action provider
        detectorSignals := signals }

/-! ## The context -/

def SafetySignal.dump (s : SafetySignal) : Json :=
  .obj [("reason_code", .str s.reasonCode), ("severity", .str s.severity),
    ("confidence", .num s.confidence), ("explanation", .str s.explanation)]

def lowRisk : Json := .obj [("score", .num 0), ("label", .str "low")]

/-- `_safety_context` -/
def safetyContext (escalation : Option SafetyEscalation) (f : TelegramSafetyFeatures) : Json :=
  match escalation with
  | none =>
      .obj [("reason_codes", .arr []), ("recommended_action", .null), ("risk", lowRisk),
        ("evidence_card", .obj [("chat_id", f.chatId), ("message_id", f.messageId),
          ("sender_id", f.senderId), ("timestamps", .obj [("event_timestamp", f.eventTimestamp)]),
          ("media_present", .bool f.mediaPresent), ("event_type", .str f.eventType),
          ("reason_codes", .arr []), ("risk", lowRisk), ("confidence", .num 0),
          ("risk_label", .str "low"), ("recommended_action", .null)])]
  | some escalation =>
      .obj [("reason_codes", .arr (escalation.reasonCodes.map .str)),
        ("recommended_action", .str escalation.recommendedAction),
        ("risk", .obj [("score", .num (roundTo 3 escalation.riskScore)),
          ("label", .str escalation.riskLabel)]),
        ("confidence", .num (roundTo 3 escalation.confidence)),
        ("detector_signals", .arr (escalation.detectorSignals.map SafetySignal.dump)),
        ("evidence_card", escalation.evidenceCard)]

end TruePresenceESE.Telegram
