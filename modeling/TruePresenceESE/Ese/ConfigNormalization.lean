import TruePresenceESE.Ese.ConfigValidation
import TruePresenceESE.Ese.Pipeline

/-! # Normalised configs

A config that has been validated, written and perhaps stored is read as it was: every value
of a field is one that its own check leaves alone, and what the sections have to agree on
does not change. Only the empty default of `roles` does not pass its check.
-/

namespace TruePresenceESE.Ese

open PyText Records Checked
open PyData (Carries)
open PosixPath (join)

/-! ## Values -/

section
variable {host : ModelHost} {t : PyData → PyData} (ht : Carries t)

theorem nonEmptyText_clean (clean : CleanText) : nonEmptyText clean.text = .ok clean := by
  have hne : strip clean.text ≠ "" := by
    rw [clean.stripped]
    exact clean.ne_empty
  rw [nonEmptyText, dif_neg hne, Except.ok.injEq]
  exact CleanText.ext clean.stripped

include ht

theorem cleanString_carried (clean : CleanText) : cleanString host (t clean.data) = .ok clean := by
  rw [CleanText.data, ht.str, cleanString, host.pydantic.str_str]
  simp only [also, nonEmptyText_clean, validated]

theorem positiveInt_carried (n : { n : ℤ // 0 < n }) :
    positiveInt host (t (.int n.val)) = .ok n := by
  rw [ht.int, positiveInt, host.pydantic.int_int]
  exact dif_pos n.property

theorem nonNegativeInt_carried (n : { n : ℤ // 0 ≤ n }) :
    nonNegativeInt host (t (.int n.val)) = .ok n := by
  rw [ht.int, nonNegativeInt, host.pydantic.int_int]
  exact dif_pos n.property

theorem positiveFloat_carried (x : { x : FloatData // x.isNonpos = false }) :
    positiveFloat host (t (.float x.val)) = .ok x := by
  rw [ht.float, positiveFloat, host.pydantic.float_float]
  exact dif_pos x.property

theorem bool_carried (b : Bool) : host.pydantic.bool (t (.bool b)) = .ok b := by
  rw [ht.bool, host.pydantic.bool_bool]

theorem validateVersion_carried (n : { n : ℤ // n = configVersion }) :
    validateVersion host (t (.int n.val)) = .ok n := by
  rw [ht.int, validateVersion, host.pydantic.int_int]
  exact dif_pos n.property

theorem validateAdapter_carried (adapter : AdapterName) :
    validateAdapter host (t adapter.val.data) = .ok adapter := by
  rw [validateAdapter, cleanString_carried ht]
  exact dif_pos adapter.property

/-- A choice in lower case is read as it stands. -/
theorem choiceText_carried {default text : String} (hne : text ≠ "") (hstrip : strip text = text)
    (hascii : text.toList.all (·.toNat < 128) = true) (hlower : asciiLower text = text) :
    choiceText host default (t (.str text)) = text := by
  have htruthy : (PyData.str text).truthy = true := by simp [PyData.truthy, hne]
  have hchars : ∀ c ∈ text.toList, c.toNat < 128 := by simpa using hascii
  rw [ht.str, choiceText, htruthy, if_pos rfl, ModelHost.text, hstrip,
    host.lowersAscii text hchars, hlower]

theorem normalizeMode_carried (mode : ConfigMode) :
    normalizeMode host (t (.str mode.text)) = .ok mode := by
  have htext : choiceText host "ensemble" (t (.str mode.text)) = mode.text := by
    cases mode <;>
      exact choiceText_carried ht (by decide) (by decide) (by decide +kernel) (by decide +kernel)
  rw [normalizeMode, htext]
  cases mode <;> rfl

theorem validateReviewIsolation_carried (isolation : ReviewIsolation) :
    validateReviewIsolation host (t (.str isolation.text)) = .ok isolation := by
  have htext : choiceText host "scope_and_implementation" (t (.str isolation.text)) =
      isolation.text := by
    cases isolation <;>
      exact choiceText_carried ht (by decide) (by decide) (by decide +kernel) (by decide +kernel)
  rw [validateReviewIsolation, htext]
  cases isolation <;> rfl

/-! ## Lists -/

theorem normalizePairEntry_carried (pair : CleanText × CleanText) :
    normalizePairEntry (t (.tuple [pair.1.data, pair.2.data])) = .ok pair := by
  have hitems : pairItems (t (.tuple [pair.1.data, pair.2.data])) =
      some [.str pair.1.text, .str pair.2.text] := by
    have hmap : [pair.1.data, pair.2.data].map t = [.str pair.1.text, .str pair.2.text] := by
      simp only [List.map_cons, List.map_nil, CleanText.data, ht.str]
    rcases ht.tuple [pair.1.data, pair.2.data] with heq | heq <;> rw [heq, hmap] <;> rfl
  rw [normalizePairEntry, hitems]
  simp only [nonEmptyText_clean]

theorem normalizeRolePairs_carried (pairs : List (CleanText × CleanText)) :
    validated (normalizeRolePairs (t (pairsData pairs))) = .ok pairs := by
  have hall : ((pairs.map fun pair => PyData.tuple [pair.1.data, pair.2.data]).map t).mapM
      normalizePairEntry = .ok pairs := by
    induction pairs with
    | nil => rfl
    | cons pair rest ih =>
        rw [List.map_cons, List.map_cons, List.mapM_cons, normalizePairEntry_carried ht, ih]
        rfl
  rw [pairsData, ht.list, normalizeRolePairs, hall]
  rfl

theorem normalizeRoleItems_carried {seen roles : List CleanText} (hnodup : roles.Nodup)
    (hfresh : ∀ role ∈ roles, role ∉ seen) :
    normalizeRoleItems seen ((roles.map CleanText.data).map t) = .ok roles := by
  induction roles generalizing seen with
  | nil => rfl
  | cons role rest ih =>
      rw [List.nodup_cons] at hnodup
      rw [List.forall_mem_cons] at hfresh
      have hrest : ∀ other ∈ rest, other ∉ role :: seen := by
        intro other hother hmem
        rcases List.mem_cons.mp hmem with rfl | hmem
        · exact hnodup.1 hother
        · exact hfresh.2 other hother hmem
      rw [List.map_cons, List.map_cons, CleanText.data, ht.str, normalizeRoleItems]
      simp only [nonEmptyText_clean, if_neg hfresh.1, ih hnodup.2 hrest]
      rfl

theorem normalizeRoleList_carried (roles : RoleNames) :
    validated (normalizeRoleList (t roles.data)) = .ok roles := by
  have hfresh : ∀ role ∈ roles.names, role ∉ ([] : List CleanText) := by simp
  have hitems := normalizeRoleItems_carried ht roles.nodup hfresh
  rw [RoleNames.data, ht.list]
  unfold normalizeRoleList
  dsimp only
  split
  · next names hnames =>
      rw [hitems] at hnames
      cases hnames
      rfl
  · next msg herror =>
      rw [hitems] at herror
      cases herror

omit ht in
theorem cleanRoleOrder_clean {seen roles : List CleanText} (hnodup : roles.Nodup)
    (hfresh : ∀ role ∈ roles, role ∉ seen) :
    cleanRoleOrder seen (roles.map CleanText.text) = .ok roles := by
  induction roles generalizing seen with
  | nil => rfl
  | cons role rest ih =>
      rw [List.nodup_cons] at hnodup
      rw [List.forall_mem_cons] at hfresh
      have hrest : ∀ other ∈ rest, other ∉ role :: seen := by
        intro other hother hmem
        rcases List.mem_cons.mp hmem with rfl | hmem
        · exact hnodup.1 hother
        · exact hfresh.2 other hother hmem
      rw [List.map_cons, cleanRoleOrder]
      simp only [nonEmptyText_clean, if_neg hfresh.1, ih hnodup.2 hrest]
      rfl

theorem readRoleOrder_carried (roles : RoleNames) : readRoleOrder host (t roles.data) = .ok roles := by
  have htexts : ∀ (names : List CleanText) (k : ℕ),
      traverse (fun item : PyData × ℕ => toString item.2) (fun item => host.pydantic.str item.1)
        (((names.map CleanText.data).map t).zipIdx k) = .ok (names.map CleanText.text) := by
    intro names
    induction names with
    | nil => exact fun _ => rfl
    | cons name rest ih =>
        intro k
        rw [List.map_cons, List.map_cons, List.zipIdx_cons, Records.traverse, ih, CleanText.data, ht.str,
          host.pydantic.str_str]
        rfl
  have hfresh : ∀ role ∈ roles.names, role ∉ ([] : List CleanText) := by simp
  have horder := cleanRoleOrder_clean roles.nodup hfresh
  rw [readRoleOrder, RoleNames.data, ht.list, host.pydantic.list_list]
  simp only [also, htexts]
  unfold validateRoleOrderShape
  split
  · next names hnames =>
      rw [horder] at hnames
      cases hnames
      rfl
  · next msg herror =>
      rw [horder] at herror
      cases herror

end

/-! ## Sections -/

section
variable (t : PyData → PyData)

def ProviderConfig.carried (provider : ProviderConfig) : ProviderConfig :=
  { provider with extra := provider.extra.carried t }

def RoleConfig.carried (role : RoleConfig) : RoleConfig :=
  { role with extra := role.extra.carried t }

def ConstraintsConfig.carried (constraints : ConstraintsConfig) : ConstraintsConfig :=
  { constraints with extra := constraints.extra.carried t }

def InputConfig.carried (input : InputConfig) : InputConfig :=
  { input with extra := input.extra.carried t }

def OutputConfig.carried (output : OutputConfig) : OutputConfig :=
  { output with extra := output.extra.carried t }

def GatingConfig.carried (gating : GatingConfig) : GatingConfig :=
  { gating with extra := gating.extra.carried t }

def OpenAIRuntimeConfig.carried (runtime : OpenAIRuntimeConfig) : OpenAIRuntimeConfig :=
  { runtime with extra := runtime.extra.carried t }

def CustomAPIRuntimeConfig.carried (runtime : CustomAPIRuntimeConfig) : CustomAPIRuntimeConfig :=
  { runtime with extra := runtime.extra.carried t }

def LocalRuntimeConfig.carried (runtime : LocalRuntimeConfig) : LocalRuntimeConfig :=
  { runtime with extra := runtime.extra.carried t }

def RuntimeConfig.carried (runtime : RuntimeConfig) : RuntimeConfig :=
  { runtime with
    openai := runtime.openai.carried t
    customApi := runtime.customApi.map (CustomAPIRuntimeConfig.carried t)
    «local» := runtime.local.carried t
    extra := runtime.extra.carried t }

def carriedRoles (roles : List (String × RoleConfig)) : List (String × RoleConfig) :=
  roles.map fun entry => (entry.1, entry.2.carried t)

def ESEConfig.carried (config : ESEConfig) : ESEConfig :=
  { config with
    provider := config.provider.carried t
    roles := carriedRoles t config.roles
    constraints := config.constraints.carried t
    input := config.input.carried t
    output := config.output.carried t
    gating := config.gating.carried t
    runtime := config.runtime.carried t
    extra := config.extra.carried t }

end

section
variable {host : ModelHost} {t : PyData → PyData} (ht : Carries t)
include ht

/-- An optional text of a record is read as it was written. -/
theorem optionalText_carried {names : List String} {known : List (String × PyData)}
    {extra : Extra names} {name : String} {text : Option CleanText}
    (hnames : known.map Prod.fst = names) (hnodup : names.Nodup)
    (hmem : (name, optionalData CleanText.data text) ∈ known) :
    optional (carriedFields t known extra) name (cleanString host) = .ok text := by
  have hread := @optional_carried _ t _ _ extra _ _ ht hnames hnodup _ (cleanString host) text id
    hmem (fun _ => rfl) (cleanString_carried ht)
  rwa [Option.map_id, id] at hread

theorem provider_carried (provider : ProviderConfig) :
    record "ProviderConfig" (ProviderConfig.read host) (t (dump provider.known provider.extra)) =
      .ok (provider.carried t) := by
  have hnames : provider.known.map Prod.fst = providerKnownFields := rfl
  have hnodup : providerKnownFields.Nodup := by decide
  have hname : required (carriedFields t provider.known provider.extra) "name"
      (cleanString host) = .ok provider.name :=
    required_carried hnames hnodup (by simp [ProviderConfig.known]) rfl (cleanString_carried ht _)
  have hmodel : required (carriedFields t provider.known provider.extra) "model"
      (cleanString host) = .ok provider.model :=
    required_carried hnames hnodup (by simp [ProviderConfig.known]) rfl (cleanString_carried ht _)
  have hkey : optional (carriedFields t provider.known provider.extra) "api_key_env"
      (cleanString host) = .ok provider.apiKeyEnv :=
    optionalText_carried ht hnames hnodup (by simp [ProviderConfig.known])
  have hurl : optional (carriedFields t provider.known provider.extra) "base_url"
      (cleanString host) = .ok provider.baseUrl :=
    optionalText_carried ht hnames hnodup (by simp [ProviderConfig.known])
  rw [carries_dump ht, record, ProviderConfig.read, hname, hmodel, hkey, hurl, extra_carried hnames]
  rfl

theorem role_carried (role : RoleConfig) :
    record "RoleConfig" (RoleConfig.read host) (t (dump role.known role.extra)) =
      .ok (role.carried t) := by
  have hnames : role.known.map Prod.fst = roleKnownFields := rfl
  have hnodup : roleKnownFields.Nodup := by decide
  have hprovider : optional (carriedFields t role.known role.extra) "provider"
      (cleanString host) = .ok role.provider :=
    optionalText_carried ht hnames hnodup (by simp [RoleConfig.known])
  have hmodel : optional (carriedFields t role.known role.extra) "model"
      (cleanString host) = .ok role.model :=
    optionalText_carried ht hnames hnodup (by simp [RoleConfig.known])
  have hfloat : ∀ x, host.pydantic.float (t (.float x)) = .ok (id x) := by
    intro x
    rw [ht.float, host.pydantic.float_float, id]
  have htemperature : optional (carriedFields t role.known role.extra) "temperature"
      host.pydantic.float = .ok (role.temperature.map id) :=
    optional_carried ht hnames hnodup (by simp [RoleConfig.known]) (fun _ => rfl) hfloat
  have hprompt : optional (carriedFields t role.known role.extra) "prompt"
      (cleanString host) = .ok role.prompt :=
    optionalText_carried ht hnames hnodup (by simp [RoleConfig.known])
  rw [carries_dump ht, record, RoleConfig.read, hprovider, hmodel, htemperature, hprompt,
    extra_carried hnames, Option.map_id]
  rfl

theorem constraints_carried (constraints : ConstraintsConfig) :
    record "ConstraintsConfig" (ConstraintsConfig.read host)
      (t (dump constraints.known constraints.extra)) = .ok (constraints.carried t) := by
  have hnames : constraints.known.map Prod.fst = constraintKnownFields := rfl
  have hnodup : constraintKnownFields.Nodup := by decide
  have hpairs : ∀ name pairs, (name, pairsData pairs) ∈ constraints.known →
      defaulted (carriedFields t constraints.known constraints.extra) name []
        (fun value => validated (normalizeRolePairs value)) = .ok pairs := by
    intro name pairs hmem
    exact defaulted_carried hnames hnodup hmem rfl (normalizeRolePairs_carried ht pairs)
  have hroles : ∀ name (roles : RoleNames), (name, roles.data) ∈ constraints.known →
      defaulted (carriedFields t constraints.known constraints.extra) name ⟨[], List.nodup_nil⟩
        (fun value => validated (normalizeRoleList value)) = .ok roles := by
    intro name roles hmem
    exact defaulted_carried hnames hnodup hmem rfl (normalizeRoleList_carried ht roles)
  have hdistinct : optional (carriedFields t constraints.known constraints.extra)
      "minimum_distinct_models" (positiveInt host) =
        .ok (constraints.minimumDistinctModels.map id) :=
    optional_carried ht hnames hnodup (by simp [ConstraintsConfig.known]) (fun _ => rfl)
      (positiveInt_carried ht)
  have hspecialists : optional (carriedFields t constraints.known constraints.extra)
      "minimum_specialist_roles" (nonNegativeInt host) =
        .ok (constraints.minimumSpecialistRoles.map id) :=
    optional_carried ht hnames hnodup (by simp [ConstraintsConfig.known]) (fun _ => rfl)
      (nonNegativeInt_carried ht)
  rw [carries_dump ht, record, ConstraintsConfig.read,
    hpairs "disallow_same_model_pairs" constraints.disallowSameModelPairs
      (by simp [ConstraintsConfig.known]),
    hroles "require_roles" constraints.requireRoles (by simp [ConstraintsConfig.known]),
    hdistinct, hspecialists,
    hpairs "disallow_same_provider_pairs" constraints.disallowSameProviderPairs
      (by simp [ConstraintsConfig.known]),
    hroles "require_json_for_roles" constraints.requireJsonForRoles
      (by simp [ConstraintsConfig.known]), extra_carried hnames,
    Option.map_id, Option.map_id]
  rfl

theorem input_carried (input : InputConfig) :
    record "InputConfig" (InputConfig.read host) (t (dump input.known input.extra)) =
      .ok (input.carried t) := by
  have hnames : input.known.map Prod.fst = inputKnownFields := rfl
  have hnodup : inputKnownFields.Nodup := by decide
  have hscope : optional (carriedFields t input.known input.extra) "scope" (cleanString host) =
      .ok input.scope :=
    optionalText_carried ht hnames hnodup (by simp [InputConfig.known])
  have hprompt : optional (carriedFields t input.known input.extra) "prompt" (cleanString host) =
      .ok input.prompt :=
    optionalText_carried ht hnames hnodup (by simp [InputConfig.known])
  rw [carries_dump ht, record, InputConfig.read, hscope, hprompt, extra_carried hnames]
  rfl

theorem output_carried (output : OutputConfig) :
    record "OutputConfig" (OutputConfig.read host) (t (dump output.known output.extra)) =
      .ok (output.carried t) := by
  have hnames : output.known.map Prod.fst = outputKnownFields := rfl
  have hnodup : outputKnownFields.Nodup := by decide
  have hdir : defaulted (carriedFields t output.known output.extra) "artifacts_dir"
      defaultArtifactsDir (cleanString host) = .ok output.artifactsDir :=
    defaulted_carried hnames hnodup (by simp [OutputConfig.known]) rfl (cleanString_carried ht _)
  have hjson : defaulted (carriedFields t output.known output.extra) "enforce_json" true
      host.pydantic.bool = .ok output.enforceJson :=
    defaulted_carried hnames hnodup (by simp [OutputConfig.known]) rfl (bool_carried ht _)
  rw [carries_dump ht, record, OutputConfig.read, hdir, hjson, extra_carried hnames]
  rfl

theorem gating_carried (gating : GatingConfig) :
    record "GatingConfig" (GatingConfig.read host) (t (dump gating.known gating.extra)) =
      .ok (gating.carried t) := by
  have hnames : gating.known.map Prod.fst = gatingKnownFields := rfl
  have hnodup : gatingKnownFields.Nodup := by decide
  have hfail : defaulted (carriedFields t gating.known gating.extra) "fail_on_high" true
      host.pydantic.bool = .ok gating.failOnHigh :=
    defaulted_carried hnames hnodup (by simp [GatingConfig.known]) rfl (bool_carried ht _)
  rw [carries_dump ht, record, GatingConfig.read, hfail, extra_carried hnames]
  rfl

theorem openAI_carried (runtime : OpenAIRuntimeConfig) :
    record "OpenAIRuntimeConfig" (OpenAIRuntimeConfig.read host)
      (t (dump runtime.known runtime.extra)) = .ok (runtime.carried t) := by
  have hnames : runtime.known.map Prod.fst = openAIKnownFields := rfl
  have hurl : defaulted (carriedFields t runtime.known runtime.extra) "base_url" openAIBaseUrl
      (cleanString host) = .ok runtime.baseUrl :=
    defaulted_carried hnames (by decide) (by simp [OpenAIRuntimeConfig.known]) rfl
      (cleanString_carried ht _)
  rw [carries_dump ht, record, OpenAIRuntimeConfig.read, hurl, extra_carried hnames]
  rfl

theorem customAPI_carried (runtime : CustomAPIRuntimeConfig) :
    record "CustomAPIRuntimeConfig" (CustomAPIRuntimeConfig.read host) (t runtime.data) =
      .ok (runtime.carried t) := by
  have hnames : runtime.known.map Prod.fst = customAPIKnownFields := rfl
  have hurl : optional (carriedFields t runtime.known runtime.extra) "base_url"
      (cleanString host) = .ok runtime.baseUrl :=
    optionalText_carried ht hnames (by decide) (by simp [CustomAPIRuntimeConfig.known])
  rw [CustomAPIRuntimeConfig.data, carries_dump ht, record, CustomAPIRuntimeConfig.read, hurl,
    extra_carried hnames]
  rfl

theorem local_carried (runtime : LocalRuntimeConfig) :
    record "LocalRuntimeConfig" (LocalRuntimeConfig.read host)
      (t (dump runtime.known runtime.extra)) = .ok (runtime.carried t) := by
  have hnames : runtime.known.map Prod.fst = localKnownFields := rfl
  have hnodup : localKnownFields.Nodup := by decide
  have hurl : defaulted (carriedFields t runtime.known runtime.extra) "base_url" localBaseUrl
      (cleanString host) = .ok runtime.baseUrl :=
    defaulted_carried hnames hnodup (by simp [LocalRuntimeConfig.known]) rfl (cleanString_carried ht _)
  have hauth : defaulted (carriedFields t runtime.known runtime.extra) "use_openai_compat_auth" true
      host.pydantic.bool = .ok runtime.useOpenaiCompatAuth :=
    defaulted_carried hnames hnodup (by simp [LocalRuntimeConfig.known]) rfl (bool_carried ht _)
  rw [carries_dump ht, record, LocalRuntimeConfig.read, hurl, hauth, extra_carried hnames]
  rfl

theorem runtime_carried (runtime : RuntimeConfig) :
    record "RuntimeConfig" (RuntimeConfig.read host) (t (dump runtime.known runtime.extra)) =
      .ok (runtime.carried t) := by
  have hnames : runtime.known.map Prod.fst = runtimeKnownFields := rfl
  have hnodup : runtimeKnownFields.Nodup := by decide
  have hadapter : defaulted (carriedFields t runtime.known runtime.extra) "adapter"
      defaultAdapter (validateAdapter host) = .ok runtime.adapter :=
    defaulted_carried hnames hnodup (by simp [RuntimeConfig.known]) rfl (validateAdapter_carried ht _)
  have htimeout : defaulted (carriedFields t runtime.known runtime.extra) "timeout_seconds"
      defaultRuntime.timeoutSeconds (positiveFloat host) = .ok runtime.timeoutSeconds :=
    defaulted_carried hnames hnodup (by simp [RuntimeConfig.known]) rfl (positiveFloat_carried ht _)
  have hretries : defaulted (carriedFields t runtime.known runtime.extra) "max_retries"
      defaultRuntime.maxRetries (nonNegativeInt host) = .ok runtime.maxRetries :=
    defaulted_carried hnames hnodup (by simp [RuntimeConfig.known]) rfl (nonNegativeInt_carried ht _)
  have hbackoff : defaulted (carriedFields t runtime.known runtime.extra) "retry_backoff_seconds"
      defaultRuntime.retryBackoffSeconds (positiveFloat host) = .ok runtime.retryBackoffSeconds :=
    defaulted_carried hnames hnodup (by simp [RuntimeConfig.known]) rfl (positiveFloat_carried ht _)
  have htokens : optional (carriedFields t runtime.known runtime.extra) "max_output_tokens"
      (positiveInt host) = .ok (runtime.maxOutputTokens.map id) :=
    optional_carried ht hnames hnodup (by simp [RuntimeConfig.known]) (fun _ => rfl)
      (positiveInt_carried ht)
  have hisolation : defaulted (carriedFields t runtime.known runtime.extra) "review_isolation"
      .scopeAndImplementation (validateReviewIsolation host) = .ok runtime.reviewIsolation :=
    defaulted_carried hnames hnodup (by simp [RuntimeConfig.known]) rfl
      (validateReviewIsolation_carried ht _)
  have hopenai : defaulted (carriedFields t runtime.known runtime.extra) "openai" defaultOpenAI
      (record "OpenAIRuntimeConfig" (OpenAIRuntimeConfig.read host)) =
        .ok (runtime.openai.carried t) :=
    defaulted_carried hnames hnodup (by simp [RuntimeConfig.known]) rfl (openAI_carried ht _)
  have hcustom : optional (carriedFields t runtime.known runtime.extra) "custom_api"
      (record "CustomAPIRuntimeConfig" (CustomAPIRuntimeConfig.read host)) =
        .ok (runtime.customApi.map (CustomAPIRuntimeConfig.carried t)) :=
    optional_carried ht hnames hnodup (by simp [RuntimeConfig.known]) (fun _ => rfl)
      (customAPI_carried ht)
  have hlocal : defaulted (carriedFields t runtime.known runtime.extra) "local" defaultLocal
      (record "LocalRuntimeConfig" (LocalRuntimeConfig.read host)) =
        .ok (runtime.local.carried t) :=
    defaulted_carried hnames hnodup (by simp [RuntimeConfig.known]) rfl (local_carried ht _)
  rw [carries_dump ht, record, RuntimeConfig.read, hadapter, htimeout, hretries, hbackoff, htokens,
    hisolation, hopenai, hcustom, hlocal, extra_carried hnames, Option.map_id]
  rfl

/-! ## Roles -/

theorem readRole_carried (entry : String × RoleConfig) :
    readRole host (.text entry.1, t (dump entry.2.known entry.2.extra)) =
      .ok (entry.1, entry.2.carried t) := by
  rw [readRole, role_carried ht]
  rfl

theorem traverse_roles_carried (roles : List (String × RoleConfig)) :
    Records.traverse (fun entry => entry.1.shown) (readRole host)
      (roles.map fun entry => (PyKey.text entry.1, t (dump entry.2.known entry.2.extra))) =
        .ok (carriedRoles t roles) :=
  traverse_map_ok fun entry _ => readRole_carried ht entry

theorem carries_rolesData (roles : List (String × RoleConfig)) : t (rolesData roles) =
    .dict (roles.map fun entry => (.text entry.1, t (dump entry.2.known entry.2.extra))) := by
  rw [rolesData, ht.dict, List.map_map]
  rfl

/-- Written roles are read again if there are any. -/
theorem readRolesField_carried (roles : List (String × RoleConfig)) :
    readRolesField host (t (rolesData roles)) =
      if roles = [] then valueError "must include at least one configured role"
      else .ok (carriedRoles t roles) := by
  have hempty : carriedRoles t roles = [] ↔ roles = [] := List.map_eq_nil_iff
  rw [carries_rolesData ht, readRolesField, traverse_roles_carried ht]
  simp only [also, hempty]

/-! ## The whole config -/

/-- A written config is read again if it has roles. -/
theorem config_carried (config : ESEConfig) (hroles : config.roles ≠ []) :
    ESEConfig.read host (carriedFields t config.known config.extra) = .ok (config.carried t) := by
  have hnames : config.known.map Prod.fst = configKnownFields := rfl
  have hnodup : configKnownFields.Nodup := by decide
  have hversion : defaulted (carriedFields t config.known config.extra) "version"
      ⟨configVersion, rfl⟩ (validateVersion host) = .ok config.version :=
    defaulted_carried hnames hnodup (by simp [ESEConfig.known]) rfl (validateVersion_carried ht _)
  have hmode : defaulted (carriedFields t config.known config.extra) "mode" .ensemble
      (normalizeMode host) = .ok config.mode :=
    defaulted_carried hnames hnodup (by simp [ESEConfig.known]) rfl (normalizeMode_carried ht _)
  have hstrict : defaulted (carriedFields t config.known config.extra) "strict_config" false
      host.pydantic.bool = .ok config.strictConfig :=
    defaulted_carried hnames hnodup (by simp [ESEConfig.known]) rfl (bool_carried ht _)
  have hprovider : required (carriedFields t config.known config.extra) "provider"
      (record "ProviderConfig" (ProviderConfig.read host)) = .ok (config.provider.carried t) :=
    required_carried hnames hnodup (by simp [ESEConfig.known]) rfl (provider_carried ht _)
  have hread : readRolesField host (t (rolesData config.roles)) =
      .ok (carriedRoles t config.roles) := by
    rw [readRolesField_carried ht, if_neg hroles]
  have hrolesField : defaulted (carriedFields t config.known config.extra) "roles" []
      (readRolesField host) = .ok (carriedRoles t config.roles) :=
    defaulted_carried hnames hnodup (by simp [ESEConfig.known]) rfl hread
  have horder : optional (carriedFields t config.known config.extra) "role_order"
      (readRoleOrder host) = .ok (config.roleOrder.map id) :=
    optional_carried ht hnames hnodup (by simp [ESEConfig.known]) (fun _ => rfl)
      (readRoleOrder_carried ht)
  have hconstraints : defaulted (carriedFields t config.known config.extra) "constraints"
      defaultConstraints (record "ConstraintsConfig" (ConstraintsConfig.read host)) =
        .ok (config.constraints.carried t) :=
    defaulted_carried hnames hnodup (by simp [ESEConfig.known]) rfl (constraints_carried ht _)
  have hinput : defaulted (carriedFields t config.known config.extra) "input" defaultInput
      (record "InputConfig" (InputConfig.read host)) = .ok (config.input.carried t) :=
    defaulted_carried hnames hnodup (by simp [ESEConfig.known]) rfl (input_carried ht _)
  have houtput : defaulted (carriedFields t config.known config.extra) "output" defaultOutput
      (record "OutputConfig" (OutputConfig.read host)) = .ok (config.output.carried t) :=
    defaulted_carried hnames hnodup (by simp [ESEConfig.known]) rfl (output_carried ht _)
  have hgating : defaulted (carriedFields t config.known config.extra) "gating" defaultGating
      (record "GatingConfig" (GatingConfig.read host)) = .ok (config.gating.carried t) :=
    defaulted_carried hnames hnodup (by simp [ESEConfig.known]) rfl (gating_carried ht _)
  have hruntime : defaulted (carriedFields t config.known config.extra) "runtime" defaultRuntime
      (record "RuntimeConfig" (RuntimeConfig.read host)) = .ok (config.runtime.carried t) :=
    defaulted_carried hnames hnodup (by simp [ESEConfig.known]) rfl (runtime_carried ht _)
  rw [ESEConfig.read, hversion, hmode, hstrict, hprovider, hrolesField, horder, hconstraints, hinput,
    houtput, hgating, hruntime, extra_carried hnames, Option.map_id]
  rfl

omit ht in
/-- What the field `roles` is read as. -/
theorem roles_of_read {fields : Fields} {config : ESEConfig}
    (h : ESEConfig.read host fields = .ok config) :
    defaulted fields "roles" [] (readRolesField host) = .ok config.roles := by
  unfold ESEConfig.read at h
  obtain ⟨_, extra, h, -, h11⟩ := seq_eq_ok_iff.mp h
  obtain ⟨_, runtime, h, -, h10⟩ := seq_eq_ok_iff.mp h
  obtain ⟨_, gating, h, -, h9⟩ := seq_eq_ok_iff.mp h
  obtain ⟨_, output, h, -, h8⟩ := seq_eq_ok_iff.mp h
  obtain ⟨_, input, h, -, h7⟩ := seq_eq_ok_iff.mp h
  obtain ⟨_, constraints, h, -, h6⟩ := seq_eq_ok_iff.mp h
  obtain ⟨_, roleOrder, h, -, h5⟩ := seq_eq_ok_iff.mp h
  obtain ⟨_, roles, h, hroles, h4⟩ := seq_eq_ok_iff.mp h
  obtain ⟨_, provider, h, -, h3⟩ := seq_eq_ok_iff.mp h
  obtain ⟨_, strictConfig, h, -, h2⟩ := seq_eq_ok_iff.mp h
  obtain ⟨_, mode, h, -, h1⟩ := seq_eq_ok_iff.mp h
  obtain ⟨version, -, h0⟩ := map_eq_ok_iff.mp h
  subst h0 h1 h2 h3 h4 h5 h6 h7 h8 h9 h10 h11
  exact hroles

/-- Without roles it is not. -/
theorem roles_of_read_carried {config config' : ESEConfig}
    (h : ESEConfig.read host (carriedFields t config.known config.extra) = .ok config') :
    config.roles ≠ [] := by
  intro hempty
  have hnames : config.known.map Prod.fst = configKnownFields := rfl
  have hmem : ("roles", rolesData config.roles) ∈ config.known := by simp [ESEConfig.known]
  have hfield := roles_of_read h
  rw [defaulted, field_carried hnames (by decide) hmem, readRolesField_carried ht,
    if_pos hempty] at hfield
  cases hfield

end

/-- Roles are there exactly if they are given. -/
theorem roles_given_iff {host : ModelHost} {fields : Fields} {config : ESEConfig}
    (h : ESEConfig.read host fields = .ok config) :
    config.roles ≠ [] ↔ (fields.lookup (.text "roles")).isSome := by
  have hroles := roles_of_read h
  rw [defaulted, field] at hroles
  cases hlookup : fields.lookup (.text "roles") with
  | none =>
      rw [hlookup] at hroles
      have hempty : config.roles = [] := (Checked.ok.inj hroles).symm
      simp [hempty]
  | some value =>
      rw [hlookup] at hroles
      have hread := within_eq_ok_iff.mp hroles
      have hne : config.roles ≠ [] := by
        cases value with
        | dict entries =>
            obtain ⟨roles, -, hcheck⟩ := also_eq_ok_iff.mp hread
            split at hcheck
            · cases hcheck
            · next hne => exact Checked.ok.inj hcheck ▸ hne
        | _ => cases hread
      simp [hne]

/-! ## What the sections agree on -/

section
variable (t : PyData → PyData) (config : ESEConfig)

theorem roleKeys_carried : (config.carried t).roleKeys = config.roleKeys := by
  show ((config.roles.map fun entry => (entry.1, entry.2.carried t)).map Prod.fst) = _
  rw [List.map_map]
  rfl

theorem roleProviders_carried (py : Interpreter) :
    (config.carried t).roleProviders py = config.roleProviders py := by
  show ((config.roles.map fun entry => (entry.1, entry.2.carried t)).map _) = _
  rw [List.map_map]
  rfl

theorem checkEnforceJson_carried :
    checkEnforceJson (config.carried t) = checkEnforceJson config := by
  unfold checkEnforceJson
  rw [roleKeys_carried]
  rfl

theorem checkRoleOrder_carried : checkRoleOrder (config.carried t) = checkRoleOrder config := by
  unfold checkRoleOrder
  rw [roleKeys_carried]
  rfl

theorem incompatibleRoles_carried (py : Interpreter) (expected : String) :
    incompatibleRoles (config.carried t) py expected = incompatibleRoles config py expected := by
  rw [incompatibleRoles, roleProviders_carried, incompatibleRoles]

theorem checkAdapter_carried (py : Interpreter) :
    checkAdapter (config.carried t) py = checkAdapter config py := by
  have hsame : ∀ adapter, checkSameProvider (config.carried t) py adapter =
      checkSameProvider config py adapter := by
    intro adapter
    rw [checkSameProvider, incompatibleRoles_carried, checkSameProvider]
    rfl
  have hurl : (config.carried t).runtime.customApi.bind CustomAPIRuntimeConfig.baseUrl =
      config.runtime.customApi.bind CustomAPIRuntimeConfig.baseUrl := by
    show (config.runtime.customApi.map _).bind _ = _
    cases config.runtime.customApi <;> rfl
  have hcustom : checkCustomApi (config.carried t) py = checkCustomApi config py := by
    rw [checkCustomApi, hurl, incompatibleRoles_carried, checkCustomApi]
    rfl
  rw [checkAdapter, hsame, hsame, hcustom, checkAdapter]
  rfl

theorem extra_items_carried {names : List String} {extra : Extra names} (hempty : extra.items = []) :
    (extra.carried t).items = [] := by
  have hitems : (extra.carried t).items = (present extra.items).map fun p => (p.1, t p.2) := rfl
  rw [hitems, hempty]
  rfl

theorem mem_sortedNames_carried {names : List String} {extra : Extra names} {key : String}
    (h : key ∈ sortedNames (extra.carried t)) : key ∈ sortedNames extra := by
  rw [sortedNames, List.mem_mergeSort, List.mem_map] at h ⊢
  obtain ⟨p, hp, rfl⟩ := h
  obtain ⟨q, hq, rfl⟩ := List.mem_map.mp hp
  exact ⟨q, (List.mem_filter.mp hq).1, rfl⟩

theorem disallowed_carried {role : RoleConfig} (h : role.disallowed = []) :
    (role.carried t).disallowed = [] := by
  rw [RoleConfig.disallowed, List.filter_eq_nil_iff] at h ⊢
  intro key hkey
  exact h key (mem_sortedNames_carried t hkey)

/-- A strict config has no other keys, and none appear. -/
theorem checkStrictConfig_carried (h : checkStrictConfig config = .ok ()) :
    checkStrictConfig (config.carried t) = .ok () := by
  unfold checkStrictConfig at h ⊢
  dsimp only at h ⊢
  split at h
  · next hstrict => exact if_pos hstrict
  · next hstrict =>
      split at h
      · cases h
      · next hextra =>
          split at h
          · cases h
          · next hinvalid =>
              have hitems : (config.carried t).extra.items = [] :=
                extra_items_carried t (not_not.mp hextra)
              have hroles : (config.carried t).roles.filter
                  (fun entry => entry.2.disallowed ≠ []) = [] := by
                rw [not_not, List.filter_eq_nil_iff] at hinvalid
                rw [List.filter_eq_nil_iff]
                intro entry hentry
                obtain ⟨given, hgiven, rfl⟩ := List.mem_map.mp hentry
                have hnone : given.2.disallowed = [] := by simpa using hinvalid given hgiven
                simp [disallowed_carried t hnone]
              have hstrict' : ¬ (config.carried t).strictConfig = false := hstrict
              rw [if_neg hstrict', if_neg (not_not.mpr hitems), if_neg (not_not.mpr hroles)]

/-- The sections still agree. -/
theorem validateAdapterContract_carried {py : Interpreter}
    (h : validateAdapterContract config py = .ok ()) :
    validateAdapterContract (config.carried t) py = .ok () := by
  have hstrict : checkStrictConfig config = .ok () := by
    unfold validateAdapterContract at h
    cases hjson : checkEnforceJson config with
    | error msg =>
        rw [hjson] at h
        cases h
    | ok u =>
        cases hcheck : checkStrictConfig config with
        | error msg =>
            rw [hjson, hcheck] at h
            cases h
        | ok u => rfl
  rw [← h, validateAdapterContract, validateAdapterContract, checkEnforceJson_carried,
    checkStrictConfig_carried t config hstrict, checkRoleOrder_carried, checkAdapter_carried,
    hstrict]

end

/-! ## Writing what was read -/

section
variable {t : PyData → PyData} (ht : Carries t)
include ht

theorem provider_data_carried (provider : ProviderConfig) :
    t (dump (provider.carried t).known (provider.carried t).extra) =
      t (dump provider.known provider.extra) :=
  dump_carried ht rfl

theorem role_data_carried (role : RoleConfig) :
    t (dump (role.carried t).known (role.carried t).extra) = t (dump role.known role.extra) :=
  dump_carried ht rfl

theorem customAPI_data_carried (runtime : CustomAPIRuntimeConfig) :
    t (runtime.carried t).data = t runtime.data :=
  dump_carried ht rfl

theorem runtime_data_carried (runtime : RuntimeConfig) :
    t (dump (runtime.carried t).known (runtime.carried t).extra) =
      t (dump runtime.known runtime.extra) := by
  refine dump_carried ht ?_
  have hopenai : t (dump (runtime.openai.carried t).known (runtime.openai.carried t).extra) =
      t (dump runtime.openai.known runtime.openai.extra) := dump_carried ht rfl
  have hlocal : t (dump (runtime.local.carried t).known (runtime.local.carried t).extra) =
      t (dump runtime.local.known runtime.local.extra) := dump_carried ht rfl
  have hcustom : t (optionalData CustomAPIRuntimeConfig.data
      (runtime.customApi.map (CustomAPIRuntimeConfig.carried t))) =
        t (optionalData CustomAPIRuntimeConfig.data runtime.customApi) := by
    cases runtime.customApi with
    | none => rfl
    | some custom => exact customAPI_data_carried ht custom
  simp only [RuntimeConfig.known, RuntimeConfig.carried, List.map_cons, List.map_nil, hopenai, hlocal,
    hcustom]

theorem roles_data_carried (roles : List (String × RoleConfig)) :
    t (rolesData (carriedRoles t roles)) = t (rolesData roles) := by
  rw [carries_rolesData ht, carries_rolesData ht, carriedRoles, List.map_map]
  refine congrArg _ (List.map_congr_left fun entry _ => ?_)
  exact Prod.ext rfl (role_data_carried ht entry.2)

/-- A config read from what was written is written as before. -/
theorem data_carried (config : ESEConfig) : t (config.carried t).data = t config.data := by
  refine dump_carried ht ?_
  have hconstraints : t (dump (config.constraints.carried t).known
      (config.constraints.carried t).extra) =
        t (dump config.constraints.known config.constraints.extra) := dump_carried ht rfl
  have hinput : t (dump (config.input.carried t).known (config.input.carried t).extra) =
      t (dump config.input.known config.input.extra) := dump_carried ht rfl
  have houtput : t (dump (config.output.carried t).known (config.output.carried t).extra) =
      t (dump config.output.known config.output.extra) := dump_carried ht rfl
  have hgating : t (dump (config.gating.carried t).known (config.gating.carried t).extra) =
      t (dump config.gating.known config.gating.extra) := dump_carried ht rfl
  simp only [ESEConfig.known, ESEConfig.carried, List.map_cons, List.map_nil,
    provider_data_carried ht, roles_data_carried ht, hconstraints, hinput, houtput, hgating,
    runtime_data_carried ht]

end

/-! ## Validating and loading once more -/

/-- The config of an accepted dictionary: its fields are read, and its sections agree. -/
theorem validateConfig_eq_ok_iff {host : ModelHost} {cfg : Fields} {source : String}
    {out : PyData} :
    validateConfig host cfg source = .ok out ↔
      ∃ config, ESEConfig.read host cfg = .ok config ∧
        validateAdapterContract config host.py = .ok () ∧ config.data = out := by
  have hvalidate : ∀ config, ESEConfig.validate host cfg = .ok config ↔
      ESEConfig.read host cfg = .ok config ∧
        validateAdapterContract config host.py = .ok () := by
    intro config
    rw [ESEConfig.validate, also_eq_ok_iff]
    constructor
    · rintro ⟨config', hread, h⟩
      obtain ⟨u, hu, rfl⟩ := map_eq_ok_iff.mp h
      refine ⟨hread, ?_⟩
      cases hcheck : validateAdapterContract config' host.py with
      | ok u => rfl
      | error msg =>
          rw [hcheck] at hu
          cases hu
    · rintro ⟨hread, hcheck⟩
      refine ⟨config, hread, ?_⟩
      rw [hcheck]
      rfl
  unfold validateConfig
  constructor
  · intro h
    split at h
    · next config hconfig =>
        obtain ⟨hread, hcheck⟩ := (hvalidate config).mp hconfig
        exact ⟨config, hread, hcheck, Except.ok.inj h⟩
    · cases h
  · rintro ⟨config, hread, hcheck, rfl⟩
    rw [(hvalidate config).mpr ⟨hread, hcheck⟩]

/-- The fields of a written config. -/
def writtenFields (config : ESEConfig) : Fields := carriedFields id config.known config.extra

theorem data_eq_dict (config : ESEConfig) : config.data = .dict (writtenFields config) :=
  carries_dump PyData.carries_id config.known config.extra

theorem writtenFields_ne_nil (config : ESEConfig) : writtenFields config ≠ [] := by
  have hversion : (PyKey.text "version", PyData.int config.version.val) ∈ writtenFields config := by
    rw [writtenFields, carriedFields, List.mem_map]
    refine ⟨("version", .int config.version.val), List.mem_filter.mpr ?_, rfl⟩
    exact ⟨List.mem_append_left _ List.mem_cons_self, rfl⟩
  exact List.ne_nil_of_mem hversion

/-- What is read of what was written is what was written, if there are roles, and nothing is
read if there are none. -/
theorem validateConfig_carried_iff {host : ModelHost} {t : PyData → PyData} (ht : Carries t)
    {config : ESEConfig} (hcontract : validateAdapterContract config host.py = .ok ())
    (source : String) :
    (∃ out, validateConfig host (carriedFields t config.known config.extra) source = .ok out ∧
        t out = t config.data) ↔ config.roles ≠ [] := by
  constructor
  · rintro ⟨out, hout, -⟩
    obtain ⟨config', hread, -⟩ := validateConfig_eq_ok_iff.mp hout
    exact roles_of_read_carried ht hread
  · intro hroles
    refine ⟨(config.carried t).data, ?_, data_carried ht config⟩
    exact validateConfig_eq_ok_iff.mpr ⟨_, config_carried ht config hroles,
      validateAdapterContract_carried t config hcontract, rfl⟩

/-- PyYAML reads back what it writes of the value, with lists for tuples. -/
def RoundTrips (files : ConfigFiles) (value : PyData) : Prop :=
  files.safeLoad (files.safeDump value) = .ok value.relist

/-- `validate_config` accepts the config it has returned, and returns it. -/
def Idempotent (host : ModelHost) (source : String) (out : PyData) : Prop :=
  ∃ fields, out = .dict fields ∧ validateConfig host fields source = .ok out

/-- The config comes back from the snapshot in the directory, with lists for tuples. -/
def SurvivesSnapshot (files : ConfigFiles) (disk : String → Option String) (artifactsDir : String)
    (out : PyData) : Prop :=
  let path := join artifactsDir configSnapshotName
  ∃ out', loadConfig files path (writeYaml files disk path out path) = .ok out' ∧
    out'.relist = out.relist

theorem idempotent_iff {host : ModelHost} {source : String} {config : ESEConfig}
    (hcontract : validateAdapterContract config host.py = .ok ()) :
    Idempotent host source config.data ↔ config.roles ≠ [] := by
  rw [← validateConfig_carried_iff PyData.carries_id hcontract source, Idempotent, data_eq_dict]
  constructor
  · rintro ⟨fields, hfields, hvalid⟩
    cases hfields
    exact ⟨_, hvalid, rfl⟩
  · rintro ⟨out, hvalid, hout⟩
    have hsame : out = .dict (writtenFields config) := hout
    exact ⟨_, rfl, hsame ▸ hvalid⟩

theorem survivesSnapshot_iff {files : ConfigFiles} {disk : String → Option String}
    {artifactsDir : String} {config : ESEConfig}
    (hcontract : validateAdapterContract config files.host.py = .ok ())
    (hyaml : RoundTrips files config.data) :
    SurvivesSnapshot files disk artifactsDir config.data ↔ config.roles ≠ [] := by
  have hrelist : config.data.relist =
      .dict (carriedFields PyData.relist config.known config.extra) :=
    carries_dump PyData.carries_relist config.known config.extra
  have htruthy : (PyData.dict (carriedFields PyData.relist config.known config.extra)).truthy =
      true := by
    have hne : carriedFields PyData.relist config.known config.extra ≠ [] := by
      intro hnil
      rw [carriedFields, List.map_eq_nil_iff] at hnil
      have hwritten := writtenFields_ne_nil config
      rw [writtenFields, carriedFields, hnil] at hwritten
      exact hwritten rfl
    simpa [PyData.truthy] using hne
  rw [← validateConfig_carried_iff PyData.carries_relist hcontract
    (join artifactsDir configSnapshotName), SurvivesSnapshot]
  rw [writeYaml, if_pos rfl, loadConfig, hyaml, hrelist]
  simp only [htruthy, if_true]

/-- **Validated configs.** What `validate_config` returns passes it unchanged, and comes back
from the snapshot of a run, if and only if the dictionary has the key `roles`. -/
theorem validateConfig_normal_iff (files : ConfigFiles) (cfg : Fields) (source again : String)
    (out : PyData) (disk : String → Option String) (artifactsDir : String)
    (hvalid : validateConfig files.host cfg source = .ok out) (hyaml : RoundTrips files out) :
    Idempotent files.host again out ∧ SurvivesSnapshot files disk artifactsDir out ↔
      (cfg.lookup (.text "roles")).isSome := by
  obtain ⟨config, hread, hcontract, rfl⟩ := validateConfig_eq_ok_iff.mp hvalid
  rw [idempotent_iff hcontract, survivesSnapshot_iff hcontract hyaml, and_self,
    roles_given_iff hread]

/-! ## Two configs -/

/-- Every value has to be of the type of its field. -/
def strictPydantic : Pydantic where
  str
    | .str s => .ok s
    | _ => fail "Input should be a valid string"
  bool
    | .bool b => .ok b
    | _ => fail "Input should be a valid boolean"
  int
    | .int n => .ok n
    | _ => fail "Input should be a valid integer"
  float
    | .float x => .ok x
    | _ => fail "Input should be a valid number"
  list
    | .list items => .ok items
    | _ => fail "Input should be a valid list"
  str_str _ := rfl
  bool_bool _ := rfl
  int_int _ := rfl
  float_float _ := rfl
  list_list _ := rfl

def strictHost : ModelHost where
  py := asciiExtensions.py
  lowersAscii _ _ := rfl
  pydantic := strictPydantic
  shown _ := ""

/-- Files where the one value is written as the text. -/
def filesWith (value : PyData) (yaml : String) : ConfigFiles where
  host := strictHost
  safeDump _ := yaml
  safeLoad text := if text = yaml then .ok value.relist else .error "ScannerError"

theorem roundTrips_filesWith (value : PyData) (yaml : String) :
    RoundTrips (filesWith value yaml) value := if_pos rfl

def openAIProvider : PyData := .dict [(.text "name", .str "openai"), (.text "model", .str "gpt-5")]

/-- The sections of a config that says nothing of them, from `input` on. -/
def quietSections : Fields :=
  [(.text "input", .dict []),
    (.text "output", .dict [(.text "artifacts_dir", .str "artifacts"),
      (.text "enforce_json", .bool true)]),
    (.text "gating", .dict [(.text "fail_on_high", .bool true)]),
    (.text "runtime", .dict [(.text "adapter", .str "dry-run"),
      (.text "timeout_seconds", .float (.finite 60)), (.text "max_retries", .int 2),
      (.text "retry_backoff_seconds", .float (.finite 1)),
      (.text "review_isolation", .str "scope_and_implementation"),
      (.text "openai", .dict [(.text "base_url", .str "https://api.openai.com/v1")]),
      (.text "local", .dict [(.text "base_url", .str "http://localhost:11434/v1"),
        (.text "use_openai_compat_auth", .bool true)])])]

/-- A whole config of roles and pairs of them. -/
def wholeConfig (roles : Fields) (pairs : List PyData) : PyData :=
  .dict ([(.text "version", .int 1), (.text "mode", .str "ensemble"),
    (.text "strict_config", .bool false), (.text "provider", openAIProvider),
    (.text "roles", .dict roles),
    (.text "constraints", .dict [(.text "disallow_same_model_pairs", .list pairs),
      (.text "require_roles", .list []), (.text "disallow_same_provider_pairs", .list []),
      (.text "require_json_for_roles", .list [])])] ++ quietSections)

def wholeYaml (roles pairs : String) : String :=
  "version: 1\nmode: ensemble\nstrict_config: false\n" ++
  "provider:\n  name: openai\n  model: gpt-5\n" ++ "roles:" ++ roles ++
  "constraints:\n  disallow_same_model_pairs:" ++ pairs ++
  "  require_roles: []\n  disallow_same_provider_pairs: []\n  require_json_for_roles: []\n" ++
  "input: \x7b\x7d\noutput:\n  artifacts_dir: artifacts\n  enforce_json: true\n" ++
  "gating:\n  fail_on_high: true\nruntime:\n  adapter: dry-run\n  timeout_seconds: 60.0\n" ++
  "  max_retries: 2\n  retry_backoff_seconds: 1.0\n" ++
  "  review_isolation: scope_and_implementation\n" ++
  "  openai:\n    base_url: https://api.openai.com/v1\n" ++
  "  local:\n    base_url: http://localhost:11434/v1\n    use_openai_compat_auth: true\n"

def pairedRoles : Fields := [(.text "architect", .dict [])]

def pairedFields : Fields :=
  [(.text "provider", openAIProvider), (.text "roles", .dict pairedRoles),
    (.text "constraints", .dict [(.text "disallow_same_model_pairs",
      .list [.list [.str "architect", .str "implementer"]])])]

def pairedConfig : PyData :=
  wholeConfig pairedRoles [.tuple [.str "architect", .str "implementer"]]

def pairedYaml : String :=
  wholeYaml "\n  architect: \x7b\x7d\n" "\n  - - architect\n    - implementer\n"

theorem validateConfig_normal_paired :
    Idempotent strictHost "<memory>" pairedConfig ∧
        SurvivesSnapshot (filesWith pairedConfig pairedYaml) (fun _ => none) "artifacts"
          pairedConfig ↔
      (pairedFields.lookup (.text "roles")).isSome :=
  validateConfig_normal_iff (filesWith pairedConfig pairedYaml) pairedFields "<memory>" "<memory>"
    pairedConfig (fun _ => none) "artifacts" (by with_unfolding_all rfl) (roundTrips_filesWith _ _)

def rolelessFields : Fields := [(.text "provider", openAIProvider)]

def rolelessConfig : PyData := wholeConfig [] []

def rolelessYaml : String := wholeYaml " \x7b\x7d\n" " []\n"

/-- The empty default of `roles` does not pass its own check. -/
theorem roleless_config_rejected :
    ¬ ∀ (files : ConfigFiles) (cfg : Fields) (source again : String) (out : PyData)
        (disk : String → Option String) (artifactsDir : String),
      validateConfig files.host cfg source = .ok out → RoundTrips files out →
        Idempotent files.host again out ∧ SurvivesSnapshot files disk artifactsDir out := by
  intro h
  have haccepted : validateConfig strictHost rolelessFields "<memory>" = .ok rolelessConfig := by
    with_unfolding_all rfl
  obtain ⟨⟨fields, hfields, hagain⟩, -⟩ := h (filesWith rolelessConfig rolelessYaml) rolelessFields
    "<memory>" "<memory>" rolelessConfig (fun _ => none) "artifacts" haccepted
    (roundTrips_filesWith _ _)
  have hrejected : validateConfig strictHost fields "<memory>" =
      .error (.validation ("Invalid ESE config at <memory>: " ++
        "roles: Value error, must include at least one configured role")) := by
    rw [rolelessConfig, wholeConfig, PyData.dict.injEq] at hfields
    rw [← hfields]
    with_unfolding_all rfl
  cases hrejected.symm.trans hagain

end TruePresenceESE.Ese
