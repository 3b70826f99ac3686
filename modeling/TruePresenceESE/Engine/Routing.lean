import TruePresenceESE.Engine.Synthesis

/-! # Argument graphs and tiers

The argument graph collects references to the feature groups that speak for its
claims. The tier is chosen from the packet alone, and from one member of the context.
-/

namespace TruePresenceESE.Engine

open PyValue JsonDict

/-! ## The argument graph -/

structure Claim where
  claimId : String
  claimType : String
  label : String
  evidenceRefs : List String

structure ArgumentGraph where
  claims : List Claim
  supportEdges : List (String × String)
  attackEdges : List (String × String)

def refsWhen (condition : Bool) (ref : String) : List String := if condition then [ref] else []

def buildArgumentGraph (packet : EvidencePacket) : Except PyError ArgumentGraph := do
  let status := packet.challengeData.get "status"
  let passed := isText "passed" status
  let failed ← if passed then .ok false else memberOf ["failed", "deterministic_failure"] status
  return {
    claims := [
      ⟨"human_presence_supported", "presence",
        "Actor appears to be a legitimate human participant", []⟩,
      ⟨"automation_pattern_supported", "risk",
        "Observed patterns support automation or non-human behavior",
        refsWhen (truthy (packet.timingFeatures.get "constant_latency_pattern")) "timing_features" ++
          refsWhen (truthy (packet.behavioralFeatures.get "automation_pattern"))
            "behavioral_features"⟩,
      ⟨"challenge_success_supported", "challenge", "Challenge result supports human continuity",
        refsWhen passed "challenge_data"⟩,
      ⟨"challenge_failure_supported", "challenge",
        "Challenge result undermines human continuity", refsWhen failed "challenge_data"⟩,
      ⟨"identity_cluster_risk_supported", "identity",
        "Cross-session identity graph indicates elevated cluster risk",
        refsWhen (truthy (packet.identityRefs.get "cluster_risk")) "identity_refs"⟩,
      ⟨"policy_step_up_required", "policy",
        "Tenant or flow policy requires step-up verification",
        refsWhen (truthy (packet.policyContext.get "require_step_up")) "policy_context"⟩]
    supportEdges := [("challenge_success_supported", "human_presence_supported"),
      ("identity_cluster_risk_supported", "automation_pattern_supported")]
    attackEdges := [("challenge_failure_supported", "human_presence_supported"),
      ("automation_pattern_supported", "human_presence_supported"),
      ("policy_step_up_required", "human_presence_supported")] }

/-! ## Tiers -/

/-- `set(value)` -/
def setOf (value : Json) : Except PyError (List HashKey) := do
  let items ← listOf value
  items.mapM fun item => (hashKey item).elim (.error .typeError) .ok

def blatantThreats : List HashKey := [.text "illegal_content", .text "child_exploitation"]

def chooseTier (packet : EvidencePacket) (context : JsonDict) : Except PyError Tier := do
  let threats ← setOf (packet.riskContext.getOr "threats_detected" (.arr []))
  if truthy (packet.provenance.get "invalid_attestation") then return .tier0
  if truthy (packet.behavioralFeatures.get "known_automation_fingerprint") then return .tier0
  if truthy (packet.riskContext.get "impossible_event_sequence") then return .tier0
  if isText "deterministic_failure" (packet.challengeData.get "status") then return .tier0
  if blatantThreats.any (threats.contains ·) then return .tier0
  if truthy (packet.policyContext.get "high_value_flow") then return .tier2
  if isText "high" (packet.identityRefs.get "cluster_risk") then return .tier2
  if truthy (context.get "force_tier2") then return .tier2
  return .tier1

/-- Off tier 0 a cluster with the label is on tier 2. -/
theorem chooseTier_of_high {packet : EvidencePacket} {context : JsonDict} {tier : Tier}
    (hhigh : packet.identityRefs.get "cluster_risk" = .str "high") (htier : tier ≠ .tier0)
    (h : chooseTier packet context = .ok tier) : tier = .tier2 := by
  obtain ⟨threats, -, h⟩ := Fallible.bind_eq_ok_iff.mp h
  have hlabel : isText "high" (packet.identityRefs.get "cluster_risk") = true := by
    rw [hhigh]
    rfl
  simp only [hlabel, if_true] at h
  split_ifs at h <;> first | exact absurd (Except.ok.inj h).symm htier | exact (Except.ok.inj h).symm

end TruePresenceESE.Engine
