import TruePresenceESE.Lib.Json
import TruePresenceESE.Lib.Text

/-! # The server's privacy guard

Closed allowlists for the known sections and a raw-content denylist for every
key below them. A scanner returns the paths of its violations; the guard
accepts a payload when the whole scan returns none.
-/

namespace TruePresenceESE.Sdk

/-! ## Tables -/

def allowedTypingFields : List String :=
  ["characters_per_minute", "correction_count", "correction_rate", "focus_to_first_input_ms",
    "inter_key_interval_stddev_ms", "last_input_to_submit_ms", "mean_inter_key_interval_ms",
    "paste_count", "prompt_render_to_first_input_ms", "typing_duration_ms"]

def allowedChallengeFields : List String :=
  ["challenge_type", "correction_count", "expected_reading_time_ms", "paste_count",
    "prompt_render_to_first_input_ms", "response_latency_ms", "submitted_exactly",
    "typing_duration_ms"]

def allowedPointerFields : List String :=
  ["click_count", "click_hesitation_ms", "pointer_entropy", "pointer_movement_count",
    "scroll_cadence_score"]

def allowedEnvironmentFields : List String :=
  ["automation_framework_hint", "headless_browser_hint", "reduced_motion_enabled",
    "timezone_offset_minutes", "viewport_height", "viewport_width", "webdriver_detected"]

def allowedAgenticFields : List String :=
  ["action_burst_count", "burst_interval_stddev_ms", "exploratory_action_count",
    "idle_to_action_latency_ms", "large_instant_delta_count", "mean_burst_interval_ms",
    "route_directness_score", "structured_retry_count", "submit_after_instant_input_ms",
    "validation_repair_count"]

def allowedSessionContinuityFields : List String :=
  ["focus_blur_count", "navigation_count", "prior_interaction_count",
    "same_device_session_count", "session_age_ms"]

def allowedPageContextFields : List String :=
  ["hostname", "pathname", "referrer_present", "visibility_state"]

def allowedTypingSummaryFields : List String :=
  ["delete_key_count", "input_event_count", "last_input_to_submit_ms",
    "max_inter_key_interval_ms", "min_inter_key_interval_ms", "tracked_field_count"]

def allowedMetadataFields : List String :=
  ["mode", "sdk_version", "tracked_field_count", "typing_summary"]

def allowedExternalRiskFields : List String :=
  ["confidence", "provider_id", "reason_codes", "risk_score"]

/-- The sections with a field allowlist of their own. -/
def sectionAllowlists : List (String × List String) :=
  [("agentic", allowedAgenticFields), ("typing", allowedTypingFields),
    ("challenge", allowedChallengeFields), ("pointer", allowedPointerFields),
    ("environment", allowedEnvironmentFields), ("page_context", allowedPageContextFields),
    ("session_continuity", allowedSessionContinuityFields)]

def allowedPacketTopLevel : List String :=
  ["agentic", "challenge", "environment", "external_risk_provider", "metadata", "page_context",
    "pointer", "session_continuity", "session_id", "site_id", "surface", "tenant_id", "typing"]

def allowedRequestTopLevel : List String :=
  ["enforcement_mode", "feature_packet", "session_id", "tenant_id"]

def rawContentExact : List String :=
  ["card_number", "cardnumber", "freeform_content", "freeformcontent", "key", "key_values",
    "keyvalues", "keys", "message_body", "messagebody", "password", "raw_text", "rawtext", "ssn",
    "text", "typed_text", "typedtext", "value", "answer", "body", "caption", "comment", "content",
    "description", "field_value", "file_url", "fileurl", "input_value", "media_url", "mediaurl",
    "message", "prompt", "raw_input", "raw_value", "response", "transcript", "user_input"]

def rawContentFragments : List String :=
  ["card_number", "cardnumber", "credit", "creditcard", "cvc", "cvv", "freeform", "message_body",
    "password", "raw_", "social_security", "ssn", "typed_"]

def sensitiveDescriptorKeys : List String := ["input_type", "field_type", "autocomplete"]

def sensitiveInputTypes : List String :=
  ["cc-csc", "cc-exp", "cc-number", "credit-card", "file", "hidden", "payment", "password"]

/-! ## Keys -/

/-- The blanks `str.strip` removes. -/
def isBlank (c : Char) : Bool :=
  let n := c.toNat
  (0x09 ≤ n && n ≤ 0x0d) || (0x1c ≤ n && n ≤ 0x20) || n == 0x85 || n == 0xa0 || n == 0x1680
    || (0x2000 ≤ n && n ≤ 0x200a) || n == 0x2028 || n == 0x2029 || n == 0x202f || n == 0x205f
    || n == 0x3000

/-- `str(key).strip().lower().replace("-", "_")` -/
def normalizeKey (key : String) : String :=
  String.ofList (Text.replace (· = '-') '_' (Text.lower (Text.strip isBlank key.toList)))

/-- The denylist test on a key that is already normalised. -/
def isRawContentWord (normalized : String) : Bool :=
  rawContentExact.contains normalized
    || rawContentFragments.any fun fragment => Text.contains fragment.toList normalized.toList

def isRawContentKey (key : String) : Bool := isRawContentWord (normalizeKey key)

def isSensitiveFieldDescriptor (key : String) (value : Json) : Bool :=
  match value with
  | .str s =>
      sensitiveDescriptorKeys.contains (normalizeKey key)
        && sensitiveInputTypes.contains
          (String.ofList (Text.lower (Text.strip isBlank s.toList)))
  | _ => false

/-! ## Scanners -/

mutual

def globalScan (path : String) : Json → List String
  | .obj fields => globalScanFields path fields
  | .arr items => globalScanItems path 0 items
  | .null => []
  | .bool _ => []
  | .num _ => []
  | .str _ => []

def globalScanFields (path : String) : List (String × Json) → List String
  | [] => []
  | (rawKey, rawValue) :: rest =>
      let childPath := if path = "" then rawKey else path ++ "." ++ rawKey
      (if isRawContentKey rawKey || isSensitiveFieldDescriptor rawKey rawValue then [childPath]
        else globalScan childPath rawValue) ++ globalScanFields path rest

def globalScanItems (path : String) (index : Nat) : List Json → List String
  | [] => []
  | item :: rest =>
      globalScan (path ++ "[" ++ toString index ++ "]") item
        ++ globalScanItems path (index + 1) rest

end

/-- The loop the closed scanners share. A rejected key ends its branch, a key off
the allowlist is a violation whose value is still searched, and any other
value is handed on with its normalised key. -/
def scanFields (reject : String → Json → Bool) (allowlist : List String)
    (descend : String → String → Json → List String) (childPrefix : String)
    (fields : List (String × Json)) : List String :=
  fields.flatMap fun (rawKey, rawValue) =>
    let childPath := childPrefix ++ rawKey
    if reject rawKey rawValue then [childPath]
    else if normalizeKey rawKey ∉ allowlist then childPath :: globalScan childPath rawValue
    else descend (normalizeKey rawKey) childPath rawValue

def rejectsField (rawKey : String) (rawValue : Json) : Bool :=
  isRawContentKey rawKey || isSensitiveFieldDescriptor rawKey rawValue

def rejectsKey (rawKey : String) (_ : Json) : Bool := isRawContentKey rawKey

def scanSection (sectionValue : Json) (allowlist : List String) (path : String) : List String :=
  match sectionValue with
  | .obj fields => scanFields rejectsField allowlist (fun _ => globalScan) (path ++ ".") fields
  | _ => []

def scanExternalRiskItem (path : String) : Json × Nat → List String
  | (.obj fields, index) =>
      scanFields rejectsKey allowedExternalRiskFields (fun _ => globalScan)
        (path ++ "[" ++ toString index ++ "].") fields
  | _ => []

def scanExternalRiskList (items : Json) (path : String) : List String :=
  match items with
  | .arr items => items.zipIdx.flatMap (scanExternalRiskItem path)
  | _ => []

def scanMetadata (metadata : Json) (path : String) : List String :=
  match metadata with
  | .obj fields =>
      scanFields rejectsField allowedMetadataFields
        (fun normalized childPath rawValue =>
          if normalized = "typing_summary" then
            scanSection rawValue allowedTypingSummaryFields childPath
          else globalScan childPath rawValue)
        (path ++ ".") fields
  | _ => []

/-- The dispatch of a packet field to the scanner of its section. -/
def scanPacketField (normalized childPath : String) (rawValue : Json) : List String :=
  match sectionAllowlists.lookup normalized with
  | some allowlist => scanSection rawValue allowlist childPath
  | none =>
      if normalized = "metadata" then scanMetadata rawValue childPath
      else if normalized = "external_risk_provider" then scanExternalRiskList rawValue childPath
      else globalScan childPath rawValue

def scanFeaturePacket (packet : Json) (path : String) : List String :=
  match packet with
  | .obj fields => scanFields rejectsKey allowedPacketTopLevel scanPacketField (path ++ ".") fields
  | _ => []

def scanRequest (payload : Json) : List String :=
  match payload with
  | .obj fields =>
      scanFields rejectsKey allowedRequestTopLevel
        (fun normalized childPath rawValue =>
          if normalized = "feature_packet" then scanFeaturePacket rawValue childPath
          else globalScan childPath rawValue)
        "" fields
  | _ => globalScan "" payload

/-! ## The guard -/

-- the order in which `sorted` lists the paths
local instance pathsLe_trans : IsTrans String (· ≤ ·) := inferInstance
local instance pathsLe_antisymm : @Std.Antisymm String (· ≤ ·) := inferInstance

def raiseIfViolations (violations : List String) : Except String Unit :=
  if violations = [] then .ok ()
  else .error ("Raw or disallowed fields are not accepted in TruePresence SDK payloads: "
    ++ String.intercalate ", " (violations.toFinset.sort (· ≤ ·)))

def ensurePrivacySafePayload (payload : Json) : Except String Unit :=
  raiseIfViolations (scanRequest payload)

def ensurePrivacySafeFeaturePacket (packet : Json) : Except String Unit :=
  raiseIfViolations (scanFeaturePacket packet "feature_packet")

/-! ## Table facts -/

/-- Every key the closed scanners let pass. -/
def allowedWords : List String :=
  allowedRequestTopLevel ++ allowedPacketTopLevel ++ allowedMetadataFields
    ++ allowedTypingSummaryFields ++ allowedExternalRiskFields
    ++ sectionAllowlists.flatMap Prod.snd

theorem allowedRequestTopLevel_subset : allowedRequestTopLevel ⊆ allowedWords :=
  fun _ h => by simp [allowedWords, h]

theorem allowedPacketTopLevel_subset : allowedPacketTopLevel ⊆ allowedWords :=
  fun _ h => by simp [allowedWords, h]

theorem allowedMetadataFields_subset : allowedMetadataFields ⊆ allowedWords :=
  fun _ h => by simp [allowedWords, h]

theorem allowedTypingSummaryFields_subset : allowedTypingSummaryFields ⊆ allowedWords :=
  fun _ h => by simp [allowedWords, h]

theorem allowedExternalRiskFields_subset : allowedExternalRiskFields ⊆ allowedWords :=
  fun _ h => by simp [allowedWords, h]

/-- No allowlist names raw content or a field descriptor. -/
theorem allowedWords_clean :
    ∀ word ∈ allowedWords, isRawContentWord word = false ∧ word ∉ sensitiveDescriptorKeys := by
  decide +kernel

theorem subset_allowedWords_of_lookup {normalized : String} {allowlist : List String}
    (h : sectionAllowlists.lookup normalized = some allowlist) : allowlist ⊆ allowedWords := by
  intro word hw
  obtain ⟨before, after, hsplit, -⟩ := List.lookup_eq_some_iff.mp h
  have hmem : (normalized, allowlist) ∈ sectionAllowlists := by
    rw [hsplit]
    exact List.mem_append_right _ List.mem_cons_self
  exact List.mem_append_right _ (List.mem_flatMap.mpr ⟨_, hmem, hw⟩)

theorem isRawContentKey_of_allowed {key : String} (h : normalizeKey key ∈ allowedWords) :
    isRawContentKey key = false := (allowedWords_clean _ h).1

theorem rejectsField_of_allowed {key : String} (h : normalizeKey key ∈ allowedWords)
    (value : Json) : rejectsField key value = false := by
  have hdescriptor : isSensitiveFieldDescriptor key value = false := by
    unfold isSensitiveFieldDescriptor
    split
    · simp [(allowedWords_clean _ h).2]
    · rfl
  rw [rejectsField, isRawContentKey_of_allowed h, hdescriptor]
  rfl

/-! ## Words -/

def isWordChar (c : Char) : Bool :=
  let n := c.toNat
  (0x61 ≤ n && n ≤ 0x7a) || n == 0x5f

/-- Lower-case letters and underscores only, as in every table of the guards. -/
def IsWord (s : String) : Prop := ∀ c ∈ s.toList, isWordChar c = true

theorem isWord_of_allowed {word : String} (h : word ∈ allowedWords) : IsWord word := by
  have hall : (allowedWords.all fun word => word.toList.all isWordChar) = true := by
    decide +kernel
  exact List.all_eq_true.mp (List.all_eq_true.mp hall word h)

/-- A word is its own normal form. -/
theorem normalizeKey_of_isWord {key : String} (h : IsWord key) : normalizeKey key = key := by
  have hblank : ∀ c ∈ key.toList, isBlank c = false := by
    intro c hc
    have hword := h c hc
    simp only [isWordChar, isBlank, Bool.or_eq_true, Bool.and_eq_true, decide_eq_true_eq,
      beq_iff_eq, Bool.or_eq_false_iff, Bool.and_eq_false_iff, decide_eq_false_iff_not,
      beq_eq_false_iff_ne] at hword ⊢
    omega
  have hstrip : Text.strip isBlank key.toList = key.toList := by
    exact Text.strip_eq_self hblank
  have hlower : Text.lower key.toList = key.toList := by
    apply Text.lower_eq_self
    intro c hc
    have hword := h c hc
    simp only [isWordChar, Bool.or_eq_true, Bool.and_eq_true, decide_eq_true_eq,
      beq_iff_eq] at hword
    rw [Text.lowerChar, if_neg (by omega), if_neg (by omega), if_neg (by omega)]
  have hreplace : Text.replace (· = '-') '_' key.toList = key.toList := by
    apply Text.replace_eq_self
    intro c hc
    rw [decide_eq_false_iff_not]
    rintro rfl
    exact absurd (h '-' hc) (by decide)
  rw [normalizeKey, hstrip, hlower, hreplace, String.ofList_toList]

theorem normalizeKey_of_allowed {word : String} (h : word ∈ allowedWords) :
    normalizeKey word = word := normalizeKey_of_isWord (isWord_of_allowed h)

/-! ## What the scanners accept -/

/-- No field at any depth is rejected by the global scan. -/
def GlobalClean (value : Json) : Prop :=
  ∀ p ∈ value.entries, rejectsField p.1 p.2 = false

/-- An object's fields, if it is one, are allowed and globally clean below. -/
def SectionClean (allowlist : List String) (value : Json) : Prop :=
  ∀ fields, value = .obj fields →
    ∀ p ∈ fields, normalizeKey p.1 ∈ allowlist ∧ GlobalClean p.2

def ExternalRiskClean (items : Json) : Prop :=
  ∀ list, items = .arr list → ∀ item ∈ list, SectionClean allowedExternalRiskFields item

def MetadataFieldClean (normalized : String) (value : Json) : Prop :=
  if normalized = "typing_summary" then SectionClean allowedTypingSummaryFields value
  else GlobalClean value

def MetadataClean (metadata : Json) : Prop :=
  ∀ fields, metadata = .obj fields → ∀ p ∈ fields, normalizeKey p.1 ∈ allowedMetadataFields ∧
    MetadataFieldClean (normalizeKey p.1) p.2

/-- What the scanner of one packet field accepts. -/
def PacketFieldClean (normalized : String) (value : Json) : Prop :=
  match sectionAllowlists.lookup normalized with
  | some allowlist => SectionClean allowlist value
  | none =>
      if normalized = "metadata" then MetadataClean value
      else if normalized = "external_risk_provider" then ExternalRiskClean value
      else GlobalClean value

def PacketClean (packet : Json) : Prop :=
  ∀ fields, packet = .obj fields → ∀ p ∈ fields, normalizeKey p.1 ∈ allowedPacketTopLevel ∧
    PacketFieldClean (normalizeKey p.1) p.2

def RequestFieldClean (normalized : String) (value : Json) : Prop :=
  if normalized = "feature_packet" then PacketClean value else GlobalClean value

def RequestClean (payload : Json) : Prop :=
  match payload with
  | .obj fields => ∀ p ∈ fields, normalizeKey p.1 ∈ allowedRequestTopLevel ∧
      RequestFieldClean (normalizeKey p.1) p.2
  | payload => GlobalClean payload

private theorem globalScanFields_eq_nil_iff {fields : List (String × Json)} {path : String}
    (h : ∀ p ∈ fields, ∀ path, globalScan path p.2 = [] ↔ GlobalClean p.2) :
    globalScanFields path fields = [] ↔
      ∀ p ∈ fields, rejectsField p.1 p.2 = false ∧ GlobalClean p.2 := by
  induction fields with
  | nil => simp [globalScanFields]
  | cons p rest ih =>
      obtain ⟨key, value⟩ := p
      have hrest := ih fun p hp => h p (List.mem_cons_of_mem _ hp)
      have hvalue := h (key, value) List.mem_cons_self
      rw [globalScanFields, List.append_eq_nil_iff, hrest, List.forall_mem_cons]
      refine and_congr_left fun _ => ?_
      cases hreject : rejectsField key value with
      | true =>
          rw [rejectsField] at hreject
          simp [hreject]
      | false =>
          rw [rejectsField] at hreject
          simp only [hreject, Bool.false_eq_true, if_false, true_and]
          exact hvalue _

private theorem globalScanItems_eq_nil_iff {items : List Json} {path : String} {index : Nat}
    (h : ∀ v ∈ items, ∀ path, globalScan path v = [] ↔ GlobalClean v) :
    globalScanItems path index items = [] ↔ ∀ v ∈ items, GlobalClean v := by
  induction items generalizing index with
  | nil => simp [globalScanItems]
  | cons v rest ih =>
      rw [globalScanItems, List.append_eq_nil_iff, ih fun v hv => h v (List.mem_cons_of_mem _ hv),
        List.forall_mem_cons, h v List.mem_cons_self]

theorem globalClean_arr_iff {items : List Json} :
    GlobalClean (.arr items) ↔ ∀ v ∈ items, GlobalClean v := by
  simp only [GlobalClean, Json.mem_entries_arr]
  constructor
  · exact fun h v hv p hp => h p ⟨v, hv, hp⟩
  · intro h p hp
    obtain ⟨v, hv, hp⟩ := hp
    exact h v hv p hp

theorem globalClean_obj_iff {fields : List (String × Json)} :
    GlobalClean (.obj fields) ↔
      ∀ p ∈ fields, rejectsField p.1 p.2 = false ∧ GlobalClean p.2 := by
  simp only [GlobalClean, Json.mem_entries_obj]
  constructor
  · exact fun h p hp => ⟨h p ⟨p, hp, .inl rfl⟩, fun q hq => h q ⟨p, hp, .inr hq⟩⟩
  · rintro h p ⟨f, hf, rfl | hp⟩
    · exact (h _ hf).1
    · exact (h f hf).2 p hp

theorem globalScan_eq_nil_iff (path : String) (value : Json) :
    globalScan path value = [] ↔ GlobalClean value := by
  induction value using Json.tree_induction generalizing path with
  | null => simp [globalScan, GlobalClean]
  | bool b => simp [globalScan, GlobalClean]
  | num q => simp [globalScan, GlobalClean]
  | str s => simp [globalScan, GlobalClean]
  | arr items ih =>
      rw [globalScan, globalScanItems_eq_nil_iff fun v hv path => ih v hv path, globalClean_arr_iff]
  | obj fields ih =>
      rw [globalScan, globalScanFields_eq_nil_iff fun p hp path => ih p hp path,
        globalClean_obj_iff]

theorem rejectsField_of_rejectsKey {key : String} {value : Json}
    (h : rejectsKey key value = true) : rejectsField key value = true := by
  rw [rejectsKey] at h
  rw [rejectsField, h]
  rfl

/-- The shared loop accepts exactly the allowed fields whose values its
continuation accepts. The rejection test adds nothing on an allowlist. -/
theorem scanFields_eq_nil_iff {reject : String → Json → Bool} {allowlist : List String}
    {descend : String → String → Json → List String} (Clean : String → Json → Prop)
    (hreject : ∀ {key value}, reject key value = true → rejectsField key value = true)
    (hallowed : allowlist ⊆ allowedWords)
    (hdescend : ∀ normalized path value,
      descend normalized path value = [] ↔ Clean normalized value)
    (childPrefix : String) (fields : List (String × Json)) :
    scanFields reject allowlist descend childPrefix fields = [] ↔
      ∀ p ∈ fields, normalizeKey p.1 ∈ allowlist ∧ Clean (normalizeKey p.1) p.2 := by
  rw [scanFields, List.flatMap_eq_nil_iff]
  refine forall₂_congr fun p _ => ?_
  obtain ⟨key, value⟩ := p
  by_cases hkey : normalizeKey key ∈ allowlist
  · have hfalse : reject key value = false := by
      rw [Bool.eq_false_iff]
      intro htrue
      have hfield := hreject htrue
      rw [rejectsField_of_allowed (hallowed hkey)] at hfield
      exact Bool.false_ne_true hfield
    simp [hfalse, hkey, hdescend]
  · cases hrejected : reject key value <;> simp [hrejected, hkey]

theorem scanSection_eq_nil_iff {allowlist : List String} (h : allowlist ⊆ allowedWords)
    (value : Json) (path : String) :
    scanSection value allowlist path = [] ↔ SectionClean allowlist value := by
  cases value with
  | obj fields =>
      rw [scanSection, scanFields_eq_nil_iff (fun _ => GlobalClean) id h
        (fun _ => globalScan_eq_nil_iff)]
      simp [SectionClean]
  | _ => simp [scanSection, SectionClean]

theorem scanExternalRiskList_eq_nil_iff (items : Json) (path : String) :
    scanExternalRiskList items path = [] ↔ ExternalRiskClean items := by
  have hitem : ∀ item index, scanExternalRiskItem path (item, index) = [] ↔
      SectionClean allowedExternalRiskFields item := by
    intro item index
    cases item with
    | obj fields =>
        rw [scanExternalRiskItem, scanFields_eq_nil_iff (fun _ => GlobalClean)
          rejectsField_of_rejectsKey allowedExternalRiskFields_subset
          (fun _ => globalScan_eq_nil_iff)]
        simp [SectionClean]
    | _ => simp [scanExternalRiskItem, SectionClean]
  cases items with
  | arr list =>
      simp only [scanExternalRiskList, List.flatMap_eq_nil_iff, ExternalRiskClean, Json.arr.injEq]
      constructor
      · rintro h _ rfl item hi
        obtain ⟨index, hindex, rfl⟩ := List.mem_iff_getElem.mp hi
        exact (hitem _ index).mp (h (list[index], index) (List.mk_mem_zipIdx_iff_getElem?.mpr
          (List.getElem?_eq_getElem hindex)))
      · rintro h ⟨item, index⟩ hi
        have hget := List.mk_mem_zipIdx_iff_getElem?.mp hi
        exact (hitem item index).mpr (h list rfl item (List.mem_of_getElem? hget))
  | _ => simp [scanExternalRiskList, ExternalRiskClean]

theorem scanMetadata_eq_nil_iff (metadata : Json) (path : String) :
    scanMetadata metadata path = [] ↔ MetadataClean metadata := by
  cases metadata with
  | obj fields =>
      rw [scanMetadata, scanFields_eq_nil_iff MetadataFieldClean id
        allowedMetadataFields_subset]
      · simp [MetadataClean]
      · intro normalized path value
        unfold MetadataFieldClean
        split
        · exact scanSection_eq_nil_iff allowedTypingSummaryFields_subset value path
        · exact globalScan_eq_nil_iff path value
  | _ => simp [scanMetadata, MetadataClean]

theorem scanPacketField_eq_nil_iff (normalized childPath : String) (value : Json) :
    scanPacketField normalized childPath value = [] ↔ PacketFieldClean normalized value := by
  unfold scanPacketField PacketFieldClean
  cases hlookup : sectionAllowlists.lookup normalized with
  | some allowlist =>
      exact scanSection_eq_nil_iff (subset_allowedWords_of_lookup hlookup) value childPath
  | none =>
      dsimp only
      split
      · exact scanMetadata_eq_nil_iff value childPath
      · split
        · exact scanExternalRiskList_eq_nil_iff value childPath
        · exact globalScan_eq_nil_iff childPath value

theorem scanFeaturePacket_eq_nil_iff (packet : Json) (path : String) :
    scanFeaturePacket packet path = [] ↔ PacketClean packet := by
  cases packet with
  | obj fields =>
      rw [scanFeaturePacket, scanFields_eq_nil_iff PacketFieldClean rejectsField_of_rejectsKey
        allowedPacketTopLevel_subset scanPacketField_eq_nil_iff]
      simp [PacketClean]
  | _ => simp [scanFeaturePacket, PacketClean]

theorem scanRequest_eq_nil_iff (payload : Json) : scanRequest payload = [] ↔ RequestClean payload := by
  cases payload with
  | obj fields =>
      rw [scanRequest, scanFields_eq_nil_iff RequestFieldClean rejectsField_of_rejectsKey
        allowedRequestTopLevel_subset]
      · simp [RequestClean]
      · intro normalized path value
        unfold RequestFieldClean
        split
        · exact scanFeaturePacket_eq_nil_iff value path
        · exact globalScan_eq_nil_iff path value
  | _ => exact globalScan_eq_nil_iff _ _

theorem raiseIfViolations_eq_ok_iff {violations : List String} :
    raiseIfViolations violations = .ok () ↔ violations = [] := by
  unfold raiseIfViolations
  split <;> simp_all

/-- The guard accepts exactly the clean payloads. -/
theorem ensurePrivacySafePayload_eq_ok_iff (payload : Json) :
    ensurePrivacySafePayload payload = .ok () ↔ RequestClean payload :=
  raiseIfViolations_eq_ok_iff.trans (scanRequest_eq_nil_iff payload)

theorem ensurePrivacySafeFeaturePacket_eq_ok_iff (packet : Json) :
    ensurePrivacySafeFeaturePacket packet = .ok () ↔ PacketClean packet :=
  raiseIfViolations_eq_ok_iff.trans (scanFeaturePacket_eq_nil_iff packet "feature_packet")

end TruePresenceESE.Sdk
