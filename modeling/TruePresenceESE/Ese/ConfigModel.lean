import TruePresenceESE.Lib.Records
import TruePresenceESE.Ese.TaskTemplates
import TruePresenceESE.Ese.Prompts

/-! # The model of a config

A config is a record of sections, each with its own fields and with keys of any other name
beside them. Fields are checked one by one; once all of them have passed, the sections are
checked against each other.
-/

namespace TruePresenceESE.Ese

open PyText Records Checked

/-! ## The host -/

/-- What pydantic makes of a value where a field expects another type. A value of the type
is taken as it is. -/
structure Pydantic where
  str : PyData → Checked String
  bool : PyData → Checked Bool
  int : PyData → Checked ℤ
  float : PyData → Checked FloatData
  list : PyData → Checked (List PyData)
  str_str : ∀ s, str (.str s) = .ok s
  bool_bool : ∀ b, bool (.bool b) = .ok b
  int_int : ∀ n, int (.int n) = .ok n
  float_float : ∀ x, float (.float x) = .ok x
  list_list : ∀ items, list (.list items) = .ok items

structure ModelHost where
  py : Interpreter
  lowersAscii : LowersAscii py
  pydantic : Pydantic
  /-- `str(value)` where the value is no text. -/
  shown : PyData → String

def ModelHost.text (host : ModelHost) : PyData → String
  | .str s => s
  | value => host.shown value

/-! ## Texts and numbers -/

def nonEmptyText (text : String) : Except String CleanText :=
  if h : strip text = "" then .error "must be a non-empty string"
  else .ok ⟨strip text, strip_strip text, h⟩

def CleanText.data (clean : CleanText) : PyData := .str clean.text

/-- A validator that raises `ValueError`. -/
def validated {α : Type} : Except String α → Checked α
  | .ok a => .ok a
  | .error msg => valueError msg

section
variable (host : ModelHost)

def cleanString (value : PyData) : Checked CleanText :=
  (host.pydantic.str value).also fun text => validated (nonEmptyText text)

def positiveInt (value : PyData) : Checked { n : ℤ // 0 < n } :=
  (host.pydantic.int value).also fun n =>
    if h : 0 < n then .ok ⟨n, h⟩ else valueError "must be > 0"

def nonNegativeInt (value : PyData) : Checked { n : ℤ // 0 ≤ n } :=
  (host.pydantic.int value).also fun n =>
    if h : 0 ≤ n then .ok ⟨n, h⟩ else valueError "must be >= 0"

def positiveFloat (value : PyData) : Checked { x : FloatData // x.isNonpos = false } :=
  (host.pydantic.float value).also fun x =>
    if h : x.isNonpos = false then .ok ⟨x, h⟩ else valueError "must be > 0"

end

/-! ## Lists of roles -/

structure RoleNames where
  names : List CleanText
  nodup : names.Nodup

def RoleNames.data (roles : RoleNames) : PyData := .list (roles.names.map CleanText.data)

def pairItems : PyData → Option (List PyData)
  | .list items => some items
  | .tuple items => some items
  | _ => none

def normalizePairEntry (pair : PyData) : Except String (CleanText × CleanText) :=
  match pairItems pair with
  | some [.str left, .str right] =>
      match nonEmptyText left, nonEmptyText right with
      | .ok left, .ok right => .ok (left, right)
      | _, _ => .error "pair entries must be non-empty strings"
  | some [_, _] => .error "pair entries must be strings"
  | _ => .error "each pair must contain exactly two role names"

def normalizeRolePairs : PyData → Except String (List (CleanText × CleanText))
  | .none => .ok []
  | .list pairs => pairs.mapM normalizePairEntry
  | _ => .error "must be a list of role name pairs"

def pairsData (pairs : List (CleanText × CleanText)) : PyData :=
  .list (pairs.map fun pair => .tuple [pair.1.data, pair.2.data])

/-- The roles that have not been seen, each of them once. -/
def normalizeRoleItems (seen : List CleanText) : List PyData → Except String (List CleanText)
  | [] => .ok []
  | .str text :: rest =>
      match nonEmptyText text with
      | .error _ => .error "role entries must be non-empty strings"
      | .ok role =>
          if role ∈ seen then normalizeRoleItems seen rest
          else (normalizeRoleItems (role :: seen) rest).map (role :: ·)
  | _ :: _ => .error "role entries must be strings"

theorem normalizeRoleItems_nodup {seen roles : List CleanText} {items : List PyData}
    (h : normalizeRoleItems seen items = .ok roles) :
    roles.Nodup ∧ ∀ role ∈ roles, role ∉ seen := by
  induction items generalizing seen roles with
  | nil =>
      cases h
      simp
  | cons item rest ih =>
      unfold normalizeRoleItems at h
      split at h
      · next hnil => cases hnil
      · next text rest' heq =>
          cases heq
          split at h
          · cases h
          · next role hrole =>
              split at h
              · exact ih h
              · next hseen =>
                  obtain ⟨tail, htail, rfl⟩ := Fallible.map_eq_ok_iff.mp h
                  obtain ⟨hnodup, hfresh⟩ := ih htail
                  refine ⟨List.nodup_cons.mpr ⟨fun hmem => hfresh role hmem (by simp), hnodup⟩, ?_⟩
                  rw [List.forall_mem_cons]
                  exact ⟨hseen, fun other hother hin =>
                    hfresh other hother (List.mem_cons_of_mem role hin)⟩
      · cases h

def normalizeRoleList : PyData → Except String RoleNames
  | .none => .ok ⟨[], List.nodup_nil⟩
  | .list items =>
      match h : normalizeRoleItems [] items with
      | .ok roles => .ok ⟨roles, (normalizeRoleItems_nodup h).1⟩
      | .error msg => .error msg
  | _ => .error "must be a list of role names"

def cleanRoleOrder (seen : List CleanText) : List String → Except String (List CleanText)
  | [] => .ok []
  | text :: rest =>
      match nonEmptyText text with
      | .error _ => .error "role_order entries must be non-empty strings"
      | .ok role =>
          if role ∈ seen then .error ("role_order contains duplicate role '" ++ role.text ++ "'")
          else (cleanRoleOrder (role :: seen) rest).map (role :: ·)

theorem cleanRoleOrder_nodup {seen roles : List CleanText} {texts : List String}
    (h : cleanRoleOrder seen texts = .ok roles) :
    roles.Nodup ∧ ∀ role ∈ roles, role ∉ seen := by
  induction texts generalizing seen roles with
  | nil =>
      cases h
      simp
  | cons text rest ih =>
      unfold cleanRoleOrder at h
      split at h
      · cases h
      · next role hrole =>
          split at h
          · cases h
          · next hseen =>
              obtain ⟨tail, htail, rfl⟩ := Fallible.map_eq_ok_iff.mp h
              obtain ⟨hnodup, hfresh⟩ := ih htail
              refine ⟨List.nodup_cons.mpr ⟨fun hmem => hfresh role hmem (by simp), hnodup⟩, ?_⟩
              rw [List.forall_mem_cons]
              exact ⟨hseen, fun other hother hin =>
                hfresh other hother (List.mem_cons_of_mem role hin)⟩

def validateRoleOrderShape (texts : List String) : Except String RoleNames :=
  match h : cleanRoleOrder [] texts with
  | .ok roles => .ok ⟨roles, (cleanRoleOrder_nodup h).1⟩
  | .error msg => .error msg

/-! ## Choices -/

inductive ConfigMode where
  | ensemble
  | solo
  deriving DecidableEq

def ConfigMode.text : ConfigMode → String
  | .ensemble => "ensemble"
  | .solo => "solo"

def ReviewIsolation.text : ReviewIsolation → String
  | .framed => "framed"
  | .implementationOnly => "implementation_only"
  | .scopeOnly => "scope_only"
  | .scopeAndImplementation => "scope_and_implementation"

section
variable (host : ModelHost)

/-- `str(value or default).strip().lower()` -/
def choiceText (default : String) (value : PyData) : String :=
  host.py.lower (strip (if value.truthy then host.text value else default))

def normalizeMode (value : PyData) : Checked ConfigMode :=
  match choiceText host "ensemble" value with
  | "ensemble" => .ok .ensemble
  | "solo" => .ok .solo
  | _ => valueError "must be either 'ensemble' or 'solo'"

def validateReviewIsolation (value : PyData) : Checked ReviewIsolation :=
  match choiceText host "scope_and_implementation" value with
  | "framed" => .ok .framed
  | "implementation_only" => .ok .implementationOnly
  | "scope_only" => .ok .scopeOnly
  | "scope_and_implementation" => .ok .scopeAndImplementation
  | _ => valueError
      "must be one of framed, implementation_only, scope_and_implementation, scope_only"

abbrev AdapterName := { name : CleanText // adapterFormat name.text = true }

def validateAdapter (value : PyData) : Checked AdapterName :=
  (cleanString host value).also fun name =>
    if h : adapterFormat name.text = true then .ok ⟨name, h⟩
    else valueError ("must be one of \x7b'dry-run', 'openai', 'local', 'custom_api'\x7d or use " ++
      "'module:function' format")

end

/-! ## Sections -/

def providerKnownFields : List String := ["name", "model", "api_key_env", "base_url"]

structure ProviderConfig where
  name : CleanText
  model : CleanText
  apiKeyEnv : Option CleanText
  baseUrl : Option CleanText
  extra : Extra providerKnownFields

def roleKnownFields : List String := ["provider", "model", "temperature", "prompt"]

structure RoleConfig where
  provider : Option CleanText
  model : Option CleanText
  temperature : Option FloatData
  prompt : Option CleanText
  extra : Extra roleKnownFields

def constraintKnownFields : List String :=
  ["disallow_same_model_pairs", "require_roles", "minimum_distinct_models",
    "minimum_specialist_roles", "disallow_same_provider_pairs", "require_json_for_roles"]

structure ConstraintsConfig where
  disallowSameModelPairs : List (CleanText × CleanText)
  requireRoles : RoleNames
  minimumDistinctModels : Option { n : ℤ // 0 < n }
  minimumSpecialistRoles : Option { n : ℤ // 0 ≤ n }
  disallowSameProviderPairs : List (CleanText × CleanText)
  requireJsonForRoles : RoleNames
  extra : Extra constraintKnownFields

def inputKnownFields : List String := ["scope", "prompt"]

structure InputConfig where
  scope : Option CleanText
  prompt : Option CleanText
  extra : Extra inputKnownFields

def outputKnownFields : List String := ["artifacts_dir", "enforce_json"]

structure OutputConfig where
  artifactsDir : CleanText
  enforceJson : Bool
  extra : Extra outputKnownFields

def gatingKnownFields : List String := ["fail_on_high"]

structure GatingConfig where
  failOnHigh : Bool
  extra : Extra gatingKnownFields

def openAIKnownFields : List String := ["base_url"]

structure OpenAIRuntimeConfig where
  baseUrl : CleanText
  extra : Extra openAIKnownFields

def customAPIKnownFields : List String := ["base_url"]

structure CustomAPIRuntimeConfig where
  baseUrl : Option CleanText
  extra : Extra customAPIKnownFields

def localKnownFields : List String := ["base_url", "use_openai_compat_auth"]

structure LocalRuntimeConfig where
  baseUrl : CleanText
  useOpenaiCompatAuth : Bool
  extra : Extra localKnownFields

def runtimeKnownFields : List String :=
  ["adapter", "timeout_seconds", "max_retries", "retry_backoff_seconds", "max_output_tokens",
    "review_isolation", "openai", "custom_api", "local"]

structure RuntimeConfig where
  adapter : AdapterName
  timeoutSeconds : { x : FloatData // x.isNonpos = false }
  maxRetries : { n : ℤ // 0 ≤ n }
  retryBackoffSeconds : { x : FloatData // x.isNonpos = false }
  maxOutputTokens : Option { n : ℤ // 0 < n }
  reviewIsolation : ReviewIsolation
  openai : OpenAIRuntimeConfig
  customApi : Option CustomAPIRuntimeConfig
  «local» : LocalRuntimeConfig
  extra : Extra runtimeKnownFields

def configVersion : ℤ := 1

def configKnownFields : List String :=
  ["version", "mode", "strict_config", "provider", "roles", "role_order", "constraints", "input",
    "output", "gating", "runtime"]

structure ESEConfig where
  version : { n : ℤ // n = configVersion }
  mode : ConfigMode
  strictConfig : Bool
  provider : ProviderConfig
  roles : List (String × RoleConfig)
  roleOrder : Option RoleNames
  constraints : ConstraintsConfig
  input : InputConfig
  output : OutputConfig
  gating : GatingConfig
  runtime : RuntimeConfig
  extra : Extra configKnownFields

end TruePresenceESE.Ese
