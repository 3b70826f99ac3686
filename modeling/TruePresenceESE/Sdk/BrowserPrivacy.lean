import TruePresenceESE.Lib.Json
import TruePresenceESE.Lib.Text

/-! # The browser SDK's privacy guard

The client strips a payload to the allowlists, prunes empty values and asserts
that no raw field is left. Objects are lists of own enumerable properties in
property order; assigning `__proto__` sets the prototype and creates no own
property.
-/

namespace TruePresenceESE.Sdk.Browser

/-! ## Tables -/

def disallowedRawFields : List String :=
  ["card_number", "cardnumber", "freeform_content", "freeformcontent", "key", "key_values",
    "keyvalues", "keys", "message_body", "messagebody", "password", "raw_text", "rawtext", "ssn",
    "text", "typed_text", "typedtext", "value", "answer", "body", "caption", "comment", "content",
    "description", "field_value", "file_url", "fileurl", "input_value", "media_url", "mediaurl",
    "message", "prompt", "raw_input", "raw_value", "response", "transcript", "user_input"]

def rawContentFragments : List String :=
  ["card_number", "cardnumber", "credit", "creditcard", "cvc", "cvv", "freeform", "message_body",
    "password", "raw_", "social_security", "ssn", "typed_"]

def allowedTypingFields : List String :=
  ["characters_per_minute", "correction_count", "correction_rate", "focus_to_first_input_ms",
    "inter_key_interval_stddev_ms", "last_input_to_submit_ms", "mean_inter_key_interval_ms",
    "paste_count", "prompt_render_to_first_input_ms", "typing_duration_ms"]

def allowedChallengeFields : List String :=
  ["challenge_type", "correction_count", "expected_reading_time_ms", "paste_count",
    "prompt_render_to_first_input_ms", "response_latency_ms", "submitted_exactly",
    "typing_duration_ms"]

def allowedPointerFields : List String :=
  ["click_count", "click_hesitation_ms", "pointer_entropy", "pointer_movement_count",
    "scroll_cadence_score"]

def allowedEnvironmentFields : List String :=
  ["automation_framework_hint", "headless_browser_hint", "reduced_motion_enabled",
    "timezone_offset_minutes", "viewport_height", "viewport_width", "webdriver_detected"]

def allowedAgenticFields : List String :=
  ["action_burst_count", "burst_interval_stddev_ms", "exploratory_action_count",
    "idle_to_action_latency_ms", "large_instant_delta_count", "mean_burst_interval_ms",
    "route_directness_score", "structured_retry_count", "submit_after_instant_input_ms",
    "validation_repair_count"]

def allowedSessionContinuityFields : List String :=
  ["focus_blur_count", "navigation_count", "prior_interaction_count",
    "same_device_session_count", "session_age_ms"]

def allowedPageContextFields : List String :=
  ["hostname", "pathname", "referrer_present", "visibility_state"]

def allowedTypingSummaryFields : List String :=
  ["delete_key_count", "input_event_count", "last_input_to_submit_ms",
    "max_inter_key_interval_ms", "min_inter_key_interval_ms", "tracked_field_count"]

def allowedMetadataFields : List String :=
  ["mode", "sdk_version", "tracked_field_count", "typing_summary"]

def allowedExternalRiskProviderFields : List String :=
  ["confidence", "provider_id", "reason_codes", "risk_score"]

def allowedPacketFields : List String :=
  ["agentic", "challenge", "environment", "external_risk_provider", "metadata", "page_context",
    "pointer", "session_continuity", "session_id", "site_id", "surface", "tenant_id", "typing"]

def allowedRequestFields : List String :=
  ["enforcement_mode", "feature_packet", "session_id", "tenant_id"]

def sectionAllowlists : List (String × List String) :=
  [("agentic", allowedAgenticFields), ("typing", allowedTypingFields),
    ("challenge", allowedChallengeFields), ("pointer", allowedPointerFields),
    ("environment", allowedEnvironmentFields), ("page_context", allowedPageContextFields),
    ("session_continuity", allowedSessionContinuityFields)]

/-! ## Keys -/

/-- White space and line terminators: what `trim` removes and `\s` matches. -/
def isBlank (c : Char) : Bool :=
  let n := c.toNat
  (0x09 ≤ n && n ≤ 0x0d) || n == 0x20 || n == 0xa0 || n == 0x1680 || (0x2000 ≤ n && n ≤ 0x200a)
    || n == 0x2028 || n == 0x2029 || n == 0x202f || n == 0x205f || n == 0x3000 || n == 0xfeff

/-- `key.trim().toLowerCase().replace(/[-\s]/g, "_")` -/
def normalizeKey (key : String) : String :=
  String.ofList (Text.replace (fun c => c = '-' || isBlank c) '_'
    (Text.lower (Text.strip isBlank key.toList)))

def isRawField (key : String) : Bool :=
  disallowedRawFields.contains (normalizeKey key)
    || rawContentFragments.any fun fragment =>
      Text.contains fragment.toList (normalizeKey key).toList

/-! ## Stripping -/

/-- `for (const [key, child] of Object.entries(value)) stripped[key] = f(key, child)`
with `continue` on the keys that are not kept. -/
def assignKept (keep : String → Bool) (f : String → Json → Json)
    (fields : List (String × Json)) : List (String × Json) :=
  (fields.filter fun p => keep p.1 && p.1 ≠ "__proto__").map fun p => (p.1, f p.1 p.2)

mutual

def globalStripRawContent : Json → Json
  | .arr items => .arr (globalStripItems items)
  | .obj fields => .obj (globalStripFields fields)
  | .null => .null
  | .bool b => .bool b
  | .num q => .num q
  | .str s => .str s

def globalStripItems : List Json → List Json
  | [] => []
  | item :: rest => globalStripRawContent item :: globalStripItems rest

def globalStripFields : List (String × Json) → List (String × Json)
  | [] => []
  | (key, child) :: rest =>
      if isRawField key || key = "__proto__" then globalStripFields rest
      else (key, globalStripRawContent child) :: globalStripFields rest

end

/-- The loop the closed strippers share: allowlisted keys that are not raw. -/
def stripFields (allowlist : List String) (handler : String → Json → Json)
    (fields : List (String × Json)) : List (String × Json) :=
  assignKept (fun key => !isRawField key && allowlist.contains (normalizeKey key))
    (fun key child => handler (normalizeKey key) child) fields

def stripSectionWith (handler : String → Json → Json) (allowlist : List String)
    (sectionValue : Json) : Json :=
  match sectionValue with
  | .obj fields => .obj (stripFields allowlist handler fields)
  | sectionValue => sectionValue

def stripSection (sectionValue : Json) (allowlist : List String) : Json :=
  stripSectionWith (fun _ => globalStripRawContent) allowlist sectionValue

def stripMetadata (metadata : Json) : Json :=
  stripSectionWith
    (fun normalized child =>
      if normalized = "typing_summary" then stripSection child allowedTypingSummaryFields
      else globalStripRawContent child)
    allowedMetadataFields metadata

def stripExternalRiskProvider (items : Json) : Json :=
  match items with
  | .arr items => .arr (items.map (stripSection · allowedExternalRiskProviderFields))
  | items => items

/-- The dispatch of a packet field to the stripper of its section. -/
def stripPacketField (normalized : String) (child : Json) : Json :=
  match sectionAllowlists.lookup normalized with
  | some allowlist => stripSection child allowlist
  | none =>
      if normalized = "metadata" then stripMetadata child
      else if normalized = "external_risk_provider" then stripExternalRiskProvider child
      else globalStripRawContent child

def stripFeaturePacket (packet : Json) : Json :=
  match packet with
  | .obj fields => .obj (stripFields allowedPacketFields stripPacketField fields)
  | packet => packet

def stripRequestField (normalized : String) (child : Json) : Json :=
  if normalized = "feature_packet" then stripFeaturePacket child
  else globalStripRawContent child

mutual

def stripRawContent : Json → Json
  | .arr items => .arr (stripRawContentItems items)
  | .obj fields => .obj (stripFields allowedRequestFields stripRequestField fields)
  | .null => .null
  | .bool b => .bool b
  | .num q => .num q
  | .str s => .str s

def stripRawContentItems : List Json → List Json
  | [] => []
  | item :: rest => stripRawContent item :: stripRawContentItems rest

end

/-! ## Pruning and the final assertion -/

def isNull : Json → Bool
  | .null => true
  | _ => false

mutual

def pruneUndefined : Json → Json
  | .arr items => .arr (pruneItems items)
  | .obj fields => .obj (pruneFields fields)
  | .null => .null
  | .bool b => .bool b
  | .num q => .num q
  | .str s => .str s

def pruneItems : List Json → List Json
  | [] => []
  | item :: rest => pruneUndefined item :: pruneItems rest

def pruneFields : List (String × Json) → List (String × Json)
  | [] => []
  | (key, child) :: rest =>
      if isNull child || key = "__proto__" then pruneFields rest
      else (key, pruneUndefined child) :: pruneFields rest

end

mutual

def assertPrivacySafePayload (path : String) : Json → Except String Unit
  | .arr items => assertItems path 0 items
  | .obj fields => assertFields path fields
  | .null => .ok ()
  | .bool _ => .ok ()
  | .num _ => .ok ()
  | .str _ => .ok ()

def assertItems (path : String) (index : Nat) : List Json → Except String Unit
  | [] => .ok ()
  | item :: rest =>
      match assertPrivacySafePayload (path ++ "[" ++ toString index ++ "]") item with
      | .error message => .error message
      | .ok () => assertItems path (index + 1) rest

def assertFields (path : String) : List (String × Json) → Except String Unit
  | [] => .ok ()
  | (key, child) :: rest =>
      let childPath := if path = "" then key else path ++ "." ++ key
      if isRawField key then
        .error ("Raw content field is not allowed in TruePresence payload: " ++ childPath)
      else
        match assertPrivacySafePayload childPath child with
        | .error message => .error message
        | .ok () => assertFields path rest

end

/-- Strip, prune and assert, as done to the base payload and again to the hook's result. -/
def safePayload (candidate : Json) : Except String Json :=
  match assertPrivacySafePayload "" (pruneUndefined (stripRawContent candidate)) with
  | .error message => .error message
  | .ok () => .ok (pruneUndefined (stripRawContent candidate))

/-- The values for which `hook(..) || base` takes the base payload. -/
def isFalsy : Json → Bool
  | .null => true
  | .bool b => !b
  | .num q => q = 0
  | .str s => s = ""
  | _ => false

/-- The hook receives a JSON clone of the base payload, which is the same value. -/
def buildEvaluationPayload (payload : Json) (beforeSend : Option (Json → Json)) :
    Except String Json :=
  match safePayload payload with
  | .error message => .error message
  | .ok safeBasePayload =>
      let candidate :=
        match beforeSend with
        | none => safeBasePayload
        | some hook =>
            if isFalsy (hook safeBasePayload) then safeBasePayload else hook safeBasePayload
      safePayload candidate

end TruePresenceESE.Sdk.Browser
