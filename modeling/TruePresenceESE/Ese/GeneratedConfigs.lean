import TruePresenceESE.Lib.Lists
import TruePresenceESE.Ese.DoctorSoundness
import TruePresenceESE.Ese.TaskTemplates

/-! # The doctor on generated configs

A config from a template is checked by the doctor before it runs. The generator compares
model names as they are written, the doctor in lower case.
-/

namespace TruePresenceESE.Ese

open PyText PyValue

/-- The doctor's check of the same-model pairs finds nothing. -/
def SameModelPairsPass (host : DoctorHost) (cfg : Config) : Prop :=
  ∃ names table constraints, collectRoleNames cfg = .ok names ∧
    readRoles host.py cfg names = .ok table ∧ constraintsSection cfg = some constraints ∧
    modelPairViolations host constraints table = []

/-- What the doctor compares of a model name. -/
def comparedModel (py : Interpreter) (model : String) : String := py.lower (strip model)

/-! ## Tables -/

/-- A name in ASCII, without blanks around it. -/
def isCleanName (text : String) : Bool :=
  text.toList.all (·.toNat < 128) && strip text == text

theorem lower_clean {py : Interpreter} (hpy : LowersAscii py) {text : String}
    (h : isCleanName text = true) : py.lower text = asciiLower text := by
  rw [isCleanName, Bool.and_eq_true, List.all_eq_true] at h
  exact hpy text fun c hc => by simpa using h.1 c hc

theorem strip_clean {text : String} (h : isCleanName text = true) : strip text = text := by
  rw [isCleanName, Bool.and_eq_true, beq_iff_eq] at h
  exact h.2

theorem comparedModel_clean {py : Interpreter} (hpy : LowersAscii py) {text : String}
    (h : isCleanName text = true) : comparedModel py text = asciiLower text := by
  rw [comparedModel, strip_clean h, lower_clean hpy h]

def isProviderName (provider : String) : Bool :=
  isCleanName provider && !provider.toList.contains ':' && asciiLower provider ≠ "unknown" &&
    asciiLower provider ≠ "" && provider ≠ "custom_api"

/-- What holds of the listed providers and their models. -/
theorem commonModels_table : commonModelsByProvider.all (fun entry =>
    entry.2.all isCleanName && (entry.2.map asciiLower).Nodup && isProviderName entry.1) = true := by
  decide +kernel

theorem mem_commonModelsByProvider {provider : String} (h : 2 ≤ (commonModels provider).length) :
    (provider, commonModels provider) ∈ commonModelsByProvider := by
  cases hlookup : commonModelsByProvider.lookup provider with
  | none => simp [commonModels, hlookup] at h
  | some models =>
      obtain ⟨before, after, heq, -⟩ := List.lookup_eq_some_iff.mp hlookup
      rw [commonModels, hlookup, heq]
      exact List.mem_append_right _ List.mem_cons_self

theorem commonModels_ok {provider : String} (h : 2 ≤ (commonModels provider).length) :
    (∀ model ∈ commonModels provider, isCleanName model = true) ∧
      ((commonModels provider).map asciiLower).Nodup ∧ isProviderName provider = true := by
  have hentry := List.all_eq_true.mp commonModels_table _ (mem_commonModelsByProvider h)
  simpa [List.all_eq_true, and_assoc] using hentry

section
variable {py : Interpreter} {provider base : String}

theorem nodup_compared (hpy : LowersAscii py) (h : 2 ≤ (commonModels provider).length) :
    ((commonModels provider).map (comparedModel py)).Nodup := by
  obtain ⟨hclean, hnodup, -⟩ := commonModels_ok h
  rw [List.map_congr_left fun model hmodel => comparedModel_clean hpy (hclean model hmodel)]
  exact hnodup

theorem alternativeModels_ne_nil (hpy : LowersAscii py) (h : 2 ≤ (commonModels provider).length) :
    alternativeModels provider base ≠ [] := by
  have hnodup := (nodup_compared hpy h).of_map
  intro hnil
  rw [alternativeModels, List.filter_eq_nil_iff] at hnil
  match hcommon : commonModels provider, h with
  | first :: second :: rest, _ =>
      rw [hcommon] at hnil hnodup
      have hfirst : first = base := by simpa using hnil first (by simp)
      have hsecond : second = base := by simpa using hnil second (by simp)
      rw [hfirst, hsecond] at hnodup
      simp at hnodup

theorem nodup_alternatives (hpy : LowersAscii py) (h : 2 ≤ (commonModels provider).length) :
    ((alternativeModels provider base).map (comparedModel py)).Nodup :=
  (nodup_compared hpy h).sublist (List.filter_sublist.map _)

/-- With a single alternative the common model is a listed one. -/
theorem compared_ne_of_single (hpy : LowersAscii py) (h : 2 ≤ (commonModels provider).length)
    {a : String} (ha : alternativeModels provider base = [a]) :
    comparedModel py base ≠ comparedModel py a := by
  have hmem : a ∈ alternativeModels provider base := by
    rw [ha]
    exact List.mem_singleton_self _
  obtain ⟨hcommon, hne⟩ := List.mem_filter.mp hmem
  have hlisted : base ∈ commonModels provider := by
    by_contra hnot
    have hall : alternativeModels provider base = commonModels provider :=
      List.filter_eq_self.mpr fun model hmodel => by
        simpa using fun heq : model = base => hnot (heq ▸ hmodel)
    rw [← hall, ha] at h
    simp at h
  intro heq
  have hsame := List.inj_on_of_nodup_map (nodup_compared hpy h) hlisted hcommon heq
  simp [hsame] at hne

end

/-! ## Sections of a generated config -/

/-- At first every selected role has the common model. -/
theorem assigns_rolesForPreset (base preset : String) (selectedRoles : List String) :
    Assigns base selectedRoles (rolesForPreset preset selectedRoles)
      (baseModels base selectedRoles) := by
  have hget : ∀ role, (rolesForPreset preset selectedRoles).get? role =
      if role ∈ selectedRoles then some { temperature := (((roleDefaultsByPreset.lookup
        preset).getD []).lookup role).getD (2 / 10) } else none :=
    Dict.get?_update_map _ selectedRoles Dict.empty
  constructor
  · intro role
    rw [hget]
    by_cases hrole : role ∈ selectedRoles
    · simp [hrole]
    · simp [hrole]
  · funext role
    rw [assignedModel, hget, baseModels]
    by_cases hrole : role ∈ selectedRoles
    · simp [hrole]
    · simp [hrole]

/-- What the doctor reads off a generated config. -/
structure Generated (task : TaskConfig) (template : TaskTemplate) : Prop where
  source : task.source = templateSource template
  pairs : task.pairs = ensembleConstraints template.roles

section
variable {task : TaskConfig} {template : TaskTemplate}

theorem nodup_fields (h : Generated task template) : (task.fields.map Prod.fst).Nodup := by
  have hkeys : task.fields.map Prod.fst = ["version", "mode", "strict_config", "provider", "roles",
      "role_order", "constraints", "input", "output", "gating", "runtime", "preset",
      "install_profile", "template_key", "template_title"] := by
    rw [TaskConfig.fields, h.source]
    rfl
  rw [hkeys]
  decide

theorem get_toConfig (h : Generated task template) {key : String} {value : Json}
    (hmem : (key, value) ∈ task.fields) : task.toConfig.get key = value := by
  rw [TaskConfig.toConfig, JsonDict.get, JsonDict.getOr, JsonDict.ofFields,
    Dict.get?_update_of_mem _ (nodup_fields h) hmem]
  rfl

theorem get_provider (h : Generated task template) : task.toConfig.get "provider" =
    .obj ([("name", .str (strip task.providerName)), ("model", .str (strip task.model))] ++
      optionalText "api_key_env" task.apiKeyEnv ++ optionalText "base_url" task.providerBaseUrl) :=
  get_toConfig h (by simp [TaskConfig.fields])

theorem get_roles (h : Generated task template) : task.toConfig.get "roles" =
    .obj (task.roles.items.map fun entry => (entry.1, taskRoleJson entry.2)) :=
  get_toConfig h (by simp [TaskConfig.fields])

theorem get_constraints (h : Generated task template) : task.toConfig.get "constraints" =
    .obj [("disallow_same_model_pairs", .arr (task.pairs.map pairJson)),
      ("require_roles", .arr []), ("disallow_same_provider_pairs", .arr []),
      ("require_json_for_roles", .arr [])] :=
  get_toConfig h (by simp [TaskConfig.fields])

theorem roleOverride_provider (role : TaskRole) :
    roleOverride (taskRoleJson role) "provider" = .ok none := by
  rcases role with ⟨temperature, _ | prompt, _ | model⟩ <;> rfl

theorem roleOverride_model (role : TaskRole) (h : ∀ model ∈ role.model, strip model ≠ "") :
    roleOverride (taskRoleJson role) "model" =
      .ok (role.model.map fun model => .str (strip model)) := by
  have hgiven : ∀ temperature prompt model, strip model ≠ "" →
      roleOverride (taskRoleJson ⟨temperature, prompt, some model⟩) "model" =
        .ok (some (.str (strip model))) := by
    intro temperature prompt model hne
    have htruthy : truthy (.str (strip model)) = true := by simpa [truthy] using hne
    cases prompt with
    | none =>
        show Except.ok (if truthy (.str (strip model)) = true then _ else _) = _
        rw [if_pos htruthy]
        rfl
    | some prompt =>
        show Except.ok (if truthy (.str (strip model)) = true then _ else _) = _
        rw [if_pos htruthy]
        rfl
  rcases role with ⟨temperature, prompt, _ | model⟩
  · cases prompt <;> rfl
  · exact hgiven temperature prompt model (h model rfl)

theorem providerFields (h : Generated task template) :
    ∃ fields, mappingSection task.toConfig "provider" = some fields ∧
      fields.getOr "name" (.str "unknown") = .str (strip task.providerName) ∧
      fields.getOr "model" (.str "unknown") = .str (strip task.model) := by
  rw [mappingSection, get_provider h]
  refine ⟨_, rfl, ?_⟩
  rcases task.apiKeyEnv with _ | key
  · rcases task.providerBaseUrl with _ | url <;> exact ⟨rfl, rfl⟩
  · rcases task.providerBaseUrl with _ | url <;> exact ⟨rfl, rfl⟩

theorem roleSection (h : Generated task template) (role : String) :
    ((mappingSection task.toConfig "roles").getD Dict.empty).get role =
      ((task.roles.get? role).map taskRoleJson).getD .null := by
  rw [mappingSection, get_roles h, Option.getD_some, JsonDict.get, JsonDict.getOr,
    JsonDict.get?_ofFields_map]

/-- A role has its own model, or else that of the provider. -/
theorem resolveRoleModel_generated (h : Generated task template) {py : Interpreter}
    (hprovider : py.lower (strip (strip task.providerName)) ≠ "unknown") {role : String}
    {given : TaskRole} (hgiven : task.roles.get? role = some given)
    (hmodel : ∀ model ∈ given.model, strip model ≠ "") :
    resolveRoleModel py task.toConfig role =
      .ok (strip task.providerName ++ ":" ++ strip (given.model.getD task.model)) := by
  obtain ⟨fields, hfields, hname, hcommon⟩ := providerFields h
  have hown : (given.model.map fun model => Json.str (strip model)).getD (.str (strip task.model)) =
      .str (strip (given.model.getD task.model)) := by
    cases given.model <;> rfl
  unfold resolveRoleModel
  dsimp only
  rw [roleSection h, hgiven, Option.map_some, Option.getD_some, roleOverride_provider,
    roleOverride_model given hmodel, hfields, Option.getD_some, hname, hcommon]
  dsimp only [bind, Except.bind]
  rw [hown]
  exact if_neg fun hunknown => hprovider hunknown.1

theorem doctorRoleModel_generated (h : Generated task template) {py : Interpreter}
    (hprovider : py.lower (strip (strip task.providerName)) ≠ "unknown") {role : String}
    {given : TaskRole} (hgiven : task.roles.get? role = some given)
    (hmodel : ∀ model ∈ given.model, strip model ≠ "") :
    doctorRoleModel py task.toConfig role =
      .ok (strip task.providerName ++ ":" ++ strip (given.model.getD task.model)) := by
  unfold doctorRoleModel
  rw [configSection, get_provider h, resolveRoleModel_generated h hprovider hgiven hmodel]
  rfl

end

/-! ## Identities of one provider -/

theorem partitionColon_append {provider : String} (h : ':' ∉ provider.toList) (model : String) :
    partitionColon (provider ++ ":" ++ model) = (provider, model) := by
  have hlist : (provider ++ ":" ++ model).toList = provider.toList ++ ':' :: model.toList := by
    simp
  have hno : ∀ c ∈ provider.toList, decide (c ≠ ':') = true := by
    intro c hc
    exact decide_eq_true fun heq => h (heq ▸ hc)
  rw [partitionColon, hlist, List.takeWhile_append_of_pos hno, List.dropWhile_append_of_pos hno]
  simp

/-- Within a provider the identity says what the model name is in lower case. -/
theorem roleIdentity_eq_iff (py : Interpreter) {provider : String} (h : ':' ∉ provider.toList)
    (left right : String) :
    roleIdentity py (provider ++ ":" ++ left) = roleIdentity py (provider ++ ":" ++ right) ↔
      comparedModel py left = comparedModel py right := by
  have hcolon : ":".length = 1 := rfl
  unfold roleIdentity roleProvider comparedModel
  rw [partitionColon_append h, partitionColon_append h]
  dsimp only
  constructor
  · intro heq
    split at heq
    · split at heq
      · simp_all
      · have hlength := congrArg String.length heq
        simp only [String.length_append] at hlength
        omega
    · split at heq
      · have hlength := congrArg String.length heq
        simp only [String.length_append] at hlength
        omega
      · exact String.append_right_inj _ |>.mp heq
  · intro heq
    rw [heq]

/-! ## Role names and pairs -/

/-- The constraints of a generated config. -/
def generatedConstraints (pairs : List (String × String)) : JsonDict :=
  JsonDict.ofFields [("disallow_same_model_pairs", .arr (pairs.map pairJson)),
    ("require_roles", .arr []), ("disallow_same_provider_pairs", .arr []),
    ("require_json_for_roles", .arr [])]

theorem constraintList_model (pairs : List (String × String)) :
    constraintList (generatedConstraints pairs) "disallow_same_model_pairs" =
      .arr (pairs.map pairJson) := by
  show JsonDict.orElse (.arr (pairs.map pairJson)) (.arr []) = _
  cases pairs <;> rfl

theorem constraintList_provider (pairs : List (String × String)) :
    constraintList (generatedConstraints pairs) "disallow_same_provider_pairs" = .arr [] :=
  rfl

theorem flatMap_pairMembers (pairs : List (String × String)) :
    (pairs.map pairJson).flatMap pairMembers = pairs.flatMap fun pair => [.str pair.1, .str pair.2] := by
  rw [List.flatMap_map]
  rfl

section
variable {task : TaskConfig} {template : TaskTemplate}

theorem constraintsSection_generated (h : Generated task template) :
    constraintsSection task.toConfig = some (generatedConstraints task.pairs) := by
  rw [constraintsSection, get_constraints h]
  rfl

theorem constraintNames_generated (h : Generated task template) :
    constraintNames task.toConfig =
      .ok (task.pairs.flatMap fun pair => [.str pair.1, .str pair.2]) := by
  unfold constraintNames pairedNames
  rw [constraintsSection_generated h]
  dsimp only
  rw [constraintList_model, constraintList_provider]
  dsimp only [iterate]
  rw [flatMap_pairMembers]
  show Except.ok (_ ++ []) = _
  rw [List.append_nil]

theorem roleKeys_generated (h : Generated task template) :
    roleKeys task.toConfig = .ok ((JsonDict.ofFields
      (task.roles.items.map fun entry => (entry.1, taskRoleJson entry.2))).keys.map .str) := by
  rw [roleKeys, get_roles h]

/-- The doctor knows the roles of the template. -/
theorem collectRoleNames_generated (h : Generated task template)
    (hsections : ∀ role, (task.roles.get? role).isSome = true ↔ role ∈ template.roles)
    (hclean : ∀ role ∈ template.roles, strip role = role ∧ role ≠ "") :
    ∃ names, collectRoleNames task.toConfig = .ok names ∧
      ∀ role, role ∈ names ↔ role ∈ template.roles := by
  have hkeys : ∀ role, role ∈ (JsonDict.ofFields
      (task.roles.items.map fun entry => (entry.1, taskRoleJson entry.2))).keys ↔
        role ∈ template.roles := by
    intro role
    rw [← Dict.get?_isSome_iff, JsonDict.get?_ofFields_map, Option.isSome_map, hsections role]
  have hpairs : ∀ pair ∈ task.pairs, pair.1 ∈ template.roles ∧ pair.2 ∈ template.roles := by
    intro pair hpair
    rw [h.pairs] at hpair
    simpa using (List.mem_filter.mp hpair).2
  refine ⟨_, by rw [collectRoleNames, roleKeys_generated h, constraintNames_generated h]; rfl, ?_⟩
  intro role
  show role ∈ cleanNames _ ↔ _
  rw [mem_cleanNames]
  constructor
  · rintro ⟨-, s, hs, rfl⟩
    rw [List.mem_append] at hs
    have hmem : s ∈ template.roles := by
      cases hs with
      | inl hkey =>
          obtain ⟨key, hkey, heq⟩ := List.mem_map.mp hkey
          cases heq
          exact (hkeys s).mp hkey
      | inr hnamed =>
          obtain ⟨pair, hpair, hmember⟩ := List.mem_flatMap.mp hnamed
          simp only [List.mem_cons, Json.str.injEq, List.not_mem_nil, or_false] at hmember
          rcases hmember with rfl | rfl
          · exact (hpairs pair hpair).1
          · exact (hpairs pair hpair).2
    rw [(hclean s hmem).1]
    exact hmem
  · intro hrole
    refine ⟨(hclean role hrole).2, role, List.mem_append_left _ ?_, (hclean role hrole).1⟩
    exact List.mem_map_of_mem ((hkeys role).mpr hrole)

end

theorem normalizeRolePair_default : defaultDisallowSameModelPairs.all (fun pair =>
    (normalizeRolePair "constraints.disallow_same_model_pairs" (pairJson pair)).toOption =
      some (orderedPair pair.1 pair.2)) = true := by
  decide +kernel

/-- The generated pairs are baseline pairs. -/
theorem mem_mergedModelPairs_generated {pairs : List (String × String)}
    (h : ∀ pair ∈ pairs, pair ∈ defaultDisallowSameModelPairs) {pair : String × String} :
    pair ∈ mergedModelPairs (generatedConstraints pairs) ↔ pair ∈ baselinePairs := by
  unfold mergedModelPairs
  rw [List.mem_append, List.mem_filter]
  constructor
  · rintro (hbaseline | ⟨hconfigured, hnot⟩)
    · exact hbaseline
    · unfold constraintPairs at hconfigured
      rw [constraintList_model] at hconfigured
      dsimp only at hconfigured
      rw [Lists.mem_foldl_new, List.mem_filterMap] at hconfigured
      obtain ⟨result, hresult, hok⟩ := hconfigured.resolve_left List.not_mem_nil
      rw [List.map_map] at hresult
      obtain ⟨given, hgiven, rfl⟩ := List.mem_map.mp hresult
      have hnormal := List.all_eq_true.mp normalizeRolePair_default given (h given hgiven)
      rw [decide_eq_true_eq] at hnormal
      have heq : orderedPair given.1 given.2 = pair := by
        rw [Function.comp_apply] at hok
        exact Option.some.inj (hnormal.symm.trans hok)
      rw [← heq]
      exact List.mem_map_of_mem (h given hgiven)
  · exact .inl

/-! ## The check and the assignment -/

/-- Roles known under these names have different identities. -/
def IdentitiesDiffer (host : DoctorHost) (cfg : Config) (names : List String)
    (pair : String × String) : Prop :=
  pair.1 ∈ names → pair.2 ∈ names → ∀ left right, identityOf host cfg pair.1 = .ok left →
    identityOf host cfg pair.2 = .ok right → left ≠ right

theorem IdentitiesDiffer.symm {host : DoctorHost} {cfg : Config} {names : List String}
    {pair : String × String} (h : IdentitiesDiffer host cfg names pair) :
    IdentitiesDiffer host cfg names pair.swap :=
  fun hleft hright left right hl hr => (h hright hleft right left hr hl).symm

theorem forall_baselinePairs_iff {host : DoctorHost} {cfg : Config} {names : List String} :
    (∀ pair ∈ baselinePairs, IdentitiesDiffer host cfg names pair) ↔
      ∀ pair ∈ defaultDisallowSameModelPairs, IdentitiesDiffer host cfg names pair := by
  have hordered : ∀ pair : String × String,
      IdentitiesDiffer host cfg names (orderedPair pair.1 pair.2) ↔
        IdentitiesDiffer host cfg names pair := by
    intro pair
    unfold orderedPair
    split
    · exact Iff.rfl
    · exact ⟨fun h => h.symm, fun h => h.symm⟩
  unfold baselinePairs
  rw [List.forall_mem_map]
  exact forall₂_congr fun pair _ => hordered pair

section
variable {task : TaskConfig} {template : TaskTemplate} {host : DoctorHost}

theorem comparedModel_strip (py : Interpreter) (model : String) :
    comparedModel py (strip model) = comparedModel py model := by
  rw [comparedModel, comparedModel, strip_strip]

/-- What the doctor needs of a generated config to resolve its roles. -/
structure Resolvable (py : Interpreter) (task : TaskConfig) (template : TaskTemplate) : Prop
    extends Generated task template where
  known : py.lower (strip (strip task.providerName)) ≠ "unknown"
  noColon : ':' ∉ (strip task.providerName).toList
  sections : ∀ role, (task.roles.get? role).isSome = true ↔ role ∈ template.roles
  clean : ∀ role ∈ template.roles, strip role = role ∧ role ≠ ""
  models : ∀ role given, task.roles.get? role = some given → ∀ model ∈ given.model, strip model ≠ ""

theorem identityOf_generated (h : Resolvable host.py task template) {role model : String}
    (hmodel : assignedModel task.model task.roles role = some model) :
    identityOf host task.toConfig role =
      .ok (roleIdentity host.py (strip task.providerName ++ ":" ++ strip model)) := by
  obtain ⟨given, hgiven, rfl⟩ := Option.map_eq_some_iff.mp hmodel
  rw [identityOf, doctorRoleModel_generated h.toGenerated h.known hgiven (h.models role given hgiven)]
  rfl

theorem identitiesDiffer_iff (h : Resolvable host.py task template) {names : List String}
    (hnames : ∀ role, role ∈ names ↔ role ∈ template.roles) (pair : String × String) :
    IdentitiesDiffer host task.toConfig names pair ↔
      Apart (comparedModel host.py) (assignedModel task.model task.roles pair.1)
        (assignedModel task.model task.roles pair.2) := by
  have hknown : ∀ role, role ∈ names ↔ (assignedModel task.model task.roles role).isSome = true := by
    intro role
    rw [hnames, assignedModel_isSome, h.sections]
  have hcompare : ∀ a b : String,
      roleIdentity host.py (strip task.providerName ++ ":" ++ strip a) ≠
        roleIdentity host.py (strip task.providerName ++ ":" ++ strip b) ↔
      comparedModel host.py a ≠ comparedModel host.py b := by
    intro a b
    rw [ne_eq, roleIdentity_eq_iff _ h.noColon, comparedModel_strip, comparedModel_strip]
  constructor
  · intro hdiffer a ha b hb
    have hl := identityOf_generated h ha
    have hr := identityOf_generated h hb
    exact (hcompare a b).mp (hdiffer ((hknown _).mpr (Option.isSome_of_mem ha))
      ((hknown _).mpr (Option.isSome_of_mem hb)) _ _ hl hr)
  · intro hapart hleft hright left right hl hr
    obtain ⟨a, ha⟩ := Option.isSome_iff_exists.mp ((hknown _).mp hleft)
    obtain ⟨b, hb⟩ := Option.isSome_iff_exists.mp ((hknown _).mp hright)
    rw [identityOf_generated h ha, Except.ok.injEq] at hl
    rw [identityOf_generated h hb, Except.ok.injEq] at hr
    rw [← hl, ← hr]
    exact (hcompare a b).mpr (hapart a ha b hb)

/-- The check passes exactly when the assigned models come apart. -/
theorem sameModelPairsPass_iff (h : Resolvable host.py task template) :
    SameModelPairsPass host task.toConfig ↔
      Separate (comparedModel host.py) (assignedModel task.model task.roles) := by
  obtain ⟨names, hcollected, hnames⟩ := collectRoleNames_generated h.toGenerated h.sections h.clean
  have hconstraints := constraintsSection_generated h.toGenerated
  have heach : ∀ role ∈ names, ∃ entry,
      (doctorRoleModel host.py task.toConfig role).map (role, ·) = .ok entry := by
    intro role hrole
    obtain ⟨given, hgiven⟩ := Option.isSome_iff_exists.mp
      ((h.sections role).mpr ((hnames role).mp hrole))
    rw [doctorRoleModel_generated h.toGenerated h.known hgiven (h.models role given hgiven)]
    exact ⟨_, rfl⟩
  obtain ⟨models, hmodels, -⟩ := Fallible.exists_mapM_eq_ok heach
  have hread : readRoles host.py task.toConfig names = .ok ⟨names, models⟩ := by
    rw [readRoles, hmodels]
    rfl
  have hpairs : ∀ pair ∈ task.pairs, pair ∈ defaultDisallowSameModelPairs := by
    rw [h.pairs]
    exact fun pair hpair => List.mem_of_mem_filter hpair
  have hchecked : SameModelPairsPass host task.toConfig ↔
      modelPairViolations host (generatedConstraints task.pairs) ⟨names, models⟩ = [] := by
    constructor
    · rintro ⟨names', table, constraints, hcollected', hread', hconstraints', hnone⟩
      rw [hcollected] at hcollected'
      cases hcollected'
      rw [hread] at hread'
      cases hread'
      rw [hconstraints] at hconstraints'
      cases hconstraints'
      exact hnone
    · exact fun hnone => ⟨names, _, _, hcollected, hread, hconstraints, hnone⟩
  rw [hchecked, modelPairViolations_eq_nil_iff hread]
  calc (∀ pair ∈ mergedModelPairs (generatedConstraints task.pairs),
        IdentitiesDiffer host task.toConfig names pair)
      ↔ ∀ pair ∈ baselinePairs, IdentitiesDiffer host task.toConfig names pair :=
        forall_congr' fun pair => imp_congr_left (mem_mergedModelPairs_generated hpairs)
    _ ↔ ∀ pair ∈ defaultDisallowSameModelPairs, IdentitiesDiffer host task.toConfig names pair :=
        forall_baselinePairs_iff
    _ ↔ Separate (comparedModel host.py) (assignedModel task.model task.roles) :=
        forall₂_congr fun pair _ => identitiesDiffer_iff h hnames pair

end

/-! ## Building -/

section
variable {host : TaskHost} {request : TaskRequest} {task : TaskConfig}

/-- A draft whose roles come from a template. -/
structure Drafted (host : TaskHost) (request : TaskRequest) (task : TaskConfig)
    (template : TaskTemplate) : Prop where
  chosen : taskTemplate host request = .ok template
  source : task.source = templateSource template
  model : task.model = selectedModel request (cleanProvider host request) template.goalProfile
  providerName : cleanProvider host request ≠ "custom_api" →
    task.providerName = cleanProvider host request
  roles : task.roles = applySimpleModeModelDiversity (cleanProvider host request) task.model
    template.roles (rolesForPreset template.preset template.roles)
  pairs : task.pairs = ensembleConstraints template.roles

theorem drafted_of_ok (h : draftTaskConfig host request = .ok task)
    (hpack : cleanText request.packKey = "") (hbundle : cleanText request.bundleKey = "") :
    ∃ template, Drafted host request task template := by
  unfold draftTaskConfig at h
  split at h
  · cases h
  · obtain ⟨source, hsource, h⟩ := Fallible.bind_eq_ok_iff.mp h
    obtain ⟨mode, -, h⟩ := Fallible.bind_eq_ok_iff.mp h
    obtain ⟨context, -, h⟩ := Fallible.bind_eq_ok_iff.mp h
    obtain ⟨adapter, -, h⟩ := Fallible.bind_eq_ok_iff.mp h
    obtain ⟨runtimeBaseUrl, -, h⟩ := Fallible.bind_eq_ok_iff.mp h
    cases h
    unfold taskSource at hsource
    rw [hpack, hbundle] at hsource
    dsimp only at hsource
    split at hsource
    · cases hsource
    · rw [if_neg (by simp), if_neg (by simp)] at hsource
      obtain ⟨template, htemplate, rfl⟩ := Fallible.map_eq_ok_iff.mp hsource
      exact ⟨template,
        { chosen := htemplate
          source := rfl
          model := by dsimp only [templateSource]
          providerName := fun hne => if_neg hne
          roles := by dsimp only [templateSource]
          pairs := rfl }⟩

end

/-- What holds of the built-in templates. -/
theorem taskTemplates_table : taskTemplates.all (fun template =>
    template.roles.all (fun role => isCleanName role && role ≠ "") &&
      template.roles.contains "adversarial_reviewer" &&
      (template.roles.contains "architect" == template.roles.contains "implementer") &&
      (template.roles.contains "implementer" || template.roles.contains "security_auditor")) =
    true := by
  decide +kernel

structure BuiltinRoles (roles : List String) : Prop where
  clean : ∀ role ∈ roles, strip role = role ∧ role ≠ ""
  reviewer : "adversarial_reviewer" ∈ roles
  pair : "architect" ∈ roles ↔ "implementer" ∈ roles
  review : "implementer" ∉ roles → "security_auditor" ∈ roles

theorem builtinRoles_of_template {host : TaskHost} {request : TaskRequest}
    {template : TaskTemplate} (h : taskTemplate host request = .ok template) :
    BuiltinRoles template.roles := by
  have hmem : template ∈ taskTemplates := by
    unfold taskTemplate resolveTaskTemplate at h
    split at h
    next found hfound =>
      cases h
      exact List.mem_of_find?_eq_some hfound
    next => cases h
  have htable := List.all_eq_true.mp taskTemplates_table template hmem
  simp only [Bool.and_eq_true, List.all_eq_true, List.contains_iff_mem, beq_iff_eq,
    Bool.or_eq_true, decide_eq_true_eq] at htable
  obtain ⟨⟨⟨hclean, hreviewer⟩, hpair⟩, hreview⟩ := htable
  refine ⟨fun role hrole => ⟨strip_clean (hclean role hrole).1, (hclean role hrole).2⟩, hreviewer,
    ?_, fun hno => hreview.resolve_left hno⟩
  rw [← List.contains_iff_mem, hpair, List.contains_iff_mem]

theorem validateTaskConfig_eq_ok {py : Interpreter} {task : TaskConfig} {cfg : Config}
    (h : validateTaskConfig py task = .ok cfg) : cfg = task.toConfig ∧
      ∀ field ∈ task.requiredTexts, strip field.2 ≠ "" := by
  unfold validateTaskConfig at h
  dsimp only at h
  split at h
  · cases h
  · rename_i hnone
    split at h
    · cases h
    · cases h
      refine ⟨rfl, fun field hfield hblank => hnone ?_⟩
      intro hnil
      rw [TaskConfig.fieldErrors, List.append_eq_nil_iff, List.append_eq_nil_iff,
        List.filterMap_eq_nil_iff] at hnil
      have hfine := hnil.1.1 field hfield
      rw [if_pos hblank] at hfine
      cases hfine

/-- A listed provider is told from an unknown one. -/
theorem provider_ok {py : Interpreter} (hpy : LowersAscii py) {provider : String}
    (h : isProviderName provider = true) :
    strip provider = provider ∧ py.lower (strip (strip provider)) ≠ "unknown" ∧
      ':' ∉ provider.toList ∧ provider ≠ "custom_api" := by
  simp only [isProviderName, Bool.and_eq_true, decide_eq_true_eq, Bool.not_eq_true',
    List.contains_eq_mem, decide_eq_false_iff_not] at h
  obtain ⟨⟨⟨⟨hclean, hcolon⟩, hunknown⟩, -⟩, hcustom⟩ := h
  have hstrip := strip_clean hclean
  refine ⟨hstrip, ?_, hcolon, hcustom⟩
  rw [hstrip, hstrip, lower_clean hpy hclean]
  exact hunknown

theorem resolvable_of_drafted {host : TaskHost} {request : TaskRequest} {task : TaskConfig}
    {template : TaskTemplate} (hpy : LowersAscii host.py)
    (hcommon : 2 ≤ (commonModels (cleanProvider host request)).length)
    (h : Drafted host request task template) (hbuiltin : BuiltinRoles template.roles)
    (htexts : ∀ field ∈ task.requiredTexts, strip field.2 ≠ "") :
    Resolvable host.py task template := by
  obtain ⟨-, -, hprovider⟩ := commonModels_ok hcommon
  obtain ⟨hstrip, hknown, hcolon, hcustom⟩ := provider_ok hpy hprovider
  have hname := h.providerName hcustom
  constructor
  · exact ⟨h.source, h.pairs⟩
  · rw [hname]
    exact hknown
  · rw [hname, hstrip]
    exact hcolon
  · rw [h.roles]
    exact ((assigns_rolesForPreset task.model _ _).diverse hcommon).sections
  · exact hbuiltin.clean
  · intro role given hgiven model hmodel
    apply htexts ("roles." ++ role ++ ".model", model)
    unfold TaskConfig.requiredTexts
    apply List.mem_append_right
    rw [List.mem_flatMap]
    refine ⟨(role, given), Dict.get?_eq_some_iff.mp hgiven, List.mem_append_right _ ?_⟩
    exact List.mem_map.mpr ⟨model, Option.mem_toList.mpr hmodel, rfl⟩

/-- A config generated from a template passes the doctor's same-model pairs exactly when
the provider has enough models that the doctor tells apart from the chosen one. -/
theorem generated_config_passes_iff {host : TaskHost} {request : TaskRequest} {cfg : Config}
    (hpy : LowersAscii host.py)
    (hcommon : 2 ≤ (commonModels (cleanProvider host request)).length)
    (hpack : cleanText request.packKey = "") (hbundle : cleanText request.bundleKey = "")
    (h : buildTaskConfig host request = .ok cfg) :
    ∃ template, taskTemplate host request = .ok template ∧
      (SameModelPairsPass host.toDoctorHost cfg ↔
        EnoughAlternatives (comparedModel host.py)
          (selectedModel request (cleanProvider host request) template.goalProfile)
          (alternativeModels (cleanProvider host request)
            (selectedModel request (cleanProvider host request) template.goalProfile))
          template.roles) := by
  obtain ⟨task, htask, hvalid⟩ := Fallible.bind_eq_ok_iff.mp h
  obtain ⟨rfl, htexts⟩ := validateTaskConfig_eq_ok hvalid
  obtain ⟨template, hdrafted⟩ := drafted_of_ok htask hpack hbundle
  have hbuiltin := builtinRoles_of_template hdrafted.chosen
  refine ⟨template, hdrafted.chosen, ?_⟩
  rw [sameModelPairsPass_iff (resolvable_of_drafted hpy hcommon hdrafted hbuiltin htexts),
    hdrafted.roles, ← hdrafted.model,
    ((assigns_rolesForPreset task.model _ _).diverse hcommon).assigned]
  refine separate_diverse_iff (alternativeModels_ne_nil hpy hcommon) ?_
    (nodup_alternatives hpy hcommon) (fun a ha => compared_ne_of_single hpy hcommon ha)
    hbuiltin.reviewer hbuiltin.pair hbuiltin.review
  intro hmem
  simp [alternativeModels] at hmem

/-- A machine with ASCII texts, no credentials and nothing installed. -/
def asciiTask : TaskHost where
  toDoctorHost := asciiDoctor
  environ := fun _ => none
  packSource := fun _ => .error "Unknown config pack"
  bundleSource := fun _ => .error "Unknown application bundle"
  repoContext := fun _ => .error "Not a git repository"

theorem asciiTask_lowers : LowersAscii asciiTask.py := fun _ _ => rfl

def releaseRequest : TaskRequest := { scope := "Prepare the release" }

/-- The violations that the doctor finds with the model of each role. -/
def pairViolations (host : DoctorHost) (cfg : Config) : Except DoctorError (List String) := do
  let names ← collectRoleNames cfg
  let table ← readRoles host.py cfg names
  return (constraintsSection cfg).elim [] fun constraints => modelPairViolations host constraints table

theorem generated_config_passes_openai : ∃ cfg template,
    buildTaskConfig asciiTask releaseRequest = .ok cfg ∧
      taskTemplate asciiTask releaseRequest = .ok template ∧
      (SameModelPairsPass asciiTask.toDoctorHost cfg ↔
        EnoughAlternatives (comparedModel asciiTask.py)
          (selectedModel releaseRequest "openai" template.goalProfile)
          (alternativeModels "openai"
            (selectedModel releaseRequest "openai" template.goalProfile))
          template.roles) := by
  have hbuilt : (buildTaskConfig asciiTask releaseRequest).map (fun _ => ()) = .ok () := by
    decide +kernel
  obtain ⟨cfg, hcfg, -⟩ := Fallible.map_eq_ok_iff.mp hbuilt
  have hmodels : 2 ≤ (commonModels (cleanProvider asciiTask releaseRequest)).length := by
    decide +kernel
  have hpack : cleanText releaseRequest.packKey = "" := rfl
  have hbundle : cleanText releaseRequest.bundleKey = "" := rfl
  have hpasses := generated_config_passes_iff asciiTask_lowers hmodels hpack hbundle hcfg
  obtain ⟨template, htemplate, hpass⟩ := hpasses
  have hprovider : cleanProvider asciiTask releaseRequest = "openai" := by decide +kernel
  rw [hprovider] at hpass
  exact ⟨cfg, template, hcfg, htemplate, hpass⟩

/-- The two models of a provider are not enough for architect, implementer, reviewer and
auditor: the reviewers keep one model. -/
theorem default_models_rejected :
    ¬ ∀ (host : TaskHost) (request : TaskRequest) (cfg : Config), LowersAscii host.py →
      2 ≤ (commonModels (cleanProvider host request)).length →
      cleanText request.packKey = "" → cleanText request.bundleKey = "" →
      buildTaskConfig host request = .ok cfg → SameModelPairsPass host.toDoctorHost cfg := by
  intro hall
  let request : TaskRequest := { scope := "Add a settings page", provider := some "anthropic" }
  have hreported : (buildTaskConfig asciiTask request).map (fun cfg =>
      (pairViolations asciiDoctor cfg).toOption.elim 0 List.length) = .ok 1 := by
    decide +kernel
  obtain ⟨cfg, hcfg, hfound⟩ := Fallible.map_eq_ok_iff.mp hreported
  obtain ⟨names, table, constraints, hnames, htable, hconstraints, hnone⟩ :=
    hall asciiTask request cfg asciiTask_lowers (by decide +kernel) rfl rfl hcfg
  have hempty : pairViolations asciiDoctor cfg = .ok [] := by
    have hmap : (constraintsSection cfg).elim [] (fun constraints =>
        modelPairViolations asciiDoctor constraints table) = [] := by
      rw [hconstraints]
      exact hnone
    exact Fallible.bind_eq_ok_iff.mpr ⟨names, hnames,
      Fallible.bind_eq_ok_iff.mpr ⟨table, htable, congrArg Except.ok hmap⟩⟩
  rw [hempty] at hfound
  cases hfound

end TruePresenceESE.Ese
