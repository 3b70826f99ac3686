import TruePresenceESE.Ese.PackProjects
import TruePresenceESE.Ese.ConfigNormalization
import TruePresenceESE.Lib.Selection

/-! # Smoke tests of packs

A pack is tried out with a config made for it: each of its roles with the prompt of the
pack, and the models that its goal profile recommends. A pack project that loads passes the
test with the default provider.
-/

namespace TruePresenceESE.Ese

open PosixPath PyText Records Checked
open PyData (carries_id)

/-! ## The host -/

/-- What projects are loaded and their configs are validated with. -/
structure TestHost where
  projects : ProjectHost
  lowersAscii : LowersAscii projects.py
  /-- An absolute path names no home directory. -/
  keepsAbsolute : ∀ path, isAbs path = true → projects.expandUser path = path
  workingDir_names : ∀ s ∈ projects.workingDir, IsName s
  pydantic : Pydantic
  /-- Small integers are taken as floats. -/
  floatOfInt : pydantic.float (.int 60) = .ok (.finite 60)
  /-- `str(value)` where the value is no text. -/
  shown : PyData → String

def TestHost.model (host : TestHost) : ModelHost where
  py := host.projects.py
  lowersAscii := host.lowersAscii
  pydantic := host.pydantic
  shown := host.shown

/-! ## The config of a test -/

def defaultSmokeTestScope : String :=
  "Smoke test the external ESE pack for portability and config compatibility."

def recommendedModel (provider goalProfile : String) : Option String :=
  ((recommendedModelByProviderGoal.lookup provider).getD []).lookup goalProfile

def ConfigPack.roleOrder (pack : ConfigPack) : List String := pack.roles.map PackRole.key

/-- A dictionary with texts as keys. -/
def textDict (fields : List (String × PyData)) : PyData := .dict (textFields fields)

def TaskRole.fields (role : TaskRole) : List (String × PyData) :=
  [("temperature", .float (.finite role.temperature))] ++
    (role.prompt.map fun prompt => ("prompt", PyData.str prompt)).toList ++
    (role.model.map fun model => ("model", PyData.str model)).toList

/-- The roles of a pack, with other models where the defaults ask for them. -/
def smokeTestRoles (pack : ConfigPack) (provider model : String) : Dict String TaskRole :=
  applySimpleModeModelDiversity provider model pack.roleOrder
    (Dict.empty.update (pack.roles.map fun role =>
      (role.key, { temperature := role.temperature, prompt := some role.prompt })))

def constraintsData (pairs : List (String × String)) : PyData :=
  textDict [("disallow_same_model_pairs",
    .list (pairs.map fun pair => .list [.str pair.1, .str pair.2]))]

def smokeTestConfig (pack : ConfigPack) (provider model : String) : List (String × PyData) :=
  [("version", .int 1), ("mode", .str "ensemble"),
    ("provider", textDict [("name", .str provider), ("model", .str model)]),
    ("preset", .str pack.preset.text),
    ("role_order", .list (pack.roleOrder.map .str)),
    ("roles", textDict ((smokeTestRoles pack provider model).items.map fun entry =>
      (entry.1, textDict entry.2.fields))),
    ("input", textDict [("scope", .str defaultSmokeTestScope)]),
    ("output", textDict [("artifacts_dir", .str "artifacts"), ("enforce_json", .bool true)]),
    ("gating", textDict [("fail_on_high", .bool true)]),
    ("runtime", textDict [("adapter", .str "dry-run"), ("timeout_seconds", .int 60),
      ("max_retries", .int 2), ("retry_backoff_seconds", .float (.finite 1))]),
    ("install_profile", textDict [("kind", .str "pack"), ("pack", .str pack.key)]),
    ("constraints", constraintsData (ensembleConstraints pack.roleOrder))]

/-! ## The test -/

/-- What a test reports: the description of the project, and what it has been tried with. -/
structure PackSmoke where
  description : JsonDict
  provider : String
  model : String
  config : PyData

def ConfigFault.asSmokeTest : ConfigFault → ProjectError
  | .validation message =>
      .packProject ("Generated smoke-test config is invalid: " ++ message)
  | .escaped exception => .escaped exception

section
variable (host : TestHost) (disk : ProjectDisk)

def smokeTestPackProject (path : Option String) (provider : String) (model : Option String) :
    Except ProjectError PackSmoke := do
  let project ← loadPackProject host.projects disk path
  let provider ← (normalizeNonEmpty "provider" (.str provider)).mapError .packProject
  let cleanProvider := host.projects.py.lower provider.text
  let defaultModel := if model.getD "" = "" then
    (recommendedModel cleanProvider project.pack.goalProfile.text).getD "" else model.getD ""
  if defaultModel = "" then
    throw (.packProject ("No default smoke-test model is known for provider '" ++ cleanProvider ++
      "'. Pass --model explicitly."))
  let config ← (validateConfig host.model
    (textFields (smokeTestConfig project.pack cleanProvider defaultModel))
    (render project.manifestPath)).mapError ConfigFault.asSmokeTest
  let description ← describePackProject host.projects disk (some (render project.manifestPath))
  return ⟨description, cleanProvider, defaultModel, config⟩

end

/-! ## What a pack project that loads is like -/

/-- A role as it comes out of the normalisation of a mapping. -/
structure CleanRole (role : PackRole) : Prop where
  key_stripped : strip role.key = role.key
  key_ne_empty : role.key ≠ ""
  prompt_ne_blank : strip role.prompt ≠ ""

section
variable {host : ProjectHost} {disk : ProjectDisk} {path : Option String} {project : PackProject}

theorem normalizeRoleDefinition_clean {fields : JsonDict} {role : PackRole}
    (h : normalizeRoleDefinition host (.mapping fields) = .ok role) : CleanRole role := by
  obtain ⟨key, -, h⟩ := Fallible.bind_eq_ok_iff.mp h
  obtain ⟨responsibility, -, h⟩ := Fallible.bind_eq_ok_iff.mp h
  obtain ⟨prompt, -, h⟩ := Fallible.bind_eq_ok_iff.mp h
  obtain ⟨temperature, -, h⟩ := Fallible.bind_eq_ok_iff.mp h
  cases h
  exact ⟨key.stripped, key.ne_empty, by
    rw [prompt.stripped]
    exact prompt.ne_empty⟩

theorem readPackRole_mapping {manifestPath : Location} {entry : Json × ℕ}
    {read : Location × RawRole} (h : readPackRole host disk manifestPath entry = .ok read) :
    ∃ fields, read.2 = .mapping fields := by
  unfold readPackRole at h
  dsimp only at h
  split at h
  · obtain ⟨promptFile, -, h⟩ := Fallible.bind_eq_ok_iff.mp h
    split at h
    · cases h
    · cases h
    · split at h
      · cases h
      · cases h
        exact ⟨_, rfl⟩
    · cases h
  · cases h

theorem normalizeConfigPackDefinition_roles {raw : RawPack} {rawRoles : List RawRole}
    {pack : ConfigPack} (hraw : raw.roles = some rawRoles)
    (h : normalizeConfigPackDefinition host raw = .ok pack) :
    rawRoles.mapM (normalizeRoleDefinition host) = .ok pack.roles := by
  unfold normalizeConfigPackDefinition at h
  rw [hraw] at h
  obtain ⟨roles, hroles, h⟩ := Fallible.bind_eq_ok_iff.mp h
  split at h
  · cases h
  · split at h
    · cases h
    · obtain ⟨key, -, h⟩ := Fallible.bind_eq_ok_iff.mp h
      obtain ⟨title, -, h⟩ := Fallible.bind_eq_ok_iff.mp h
      obtain ⟨summary, -, h⟩ := Fallible.bind_eq_ok_iff.mp h
      obtain ⟨preset, -, h⟩ := Fallible.bind_eq_ok_iff.mp h
      obtain ⟨goalProfile, -, h⟩ := Fallible.bind_eq_ok_iff.mp h
      split at h
      · cases h
      · cases h
        exact hroles

theorem validatePackCompatibility_ok_iff {pack : ConfigPack} :
    validatePackCompatibility pack = .ok () ↔
      presetToGoalProfile.lookup pack.preset.text = some pack.goalProfile.text := by
  unfold validatePackCompatibility
  dsimp only
  constructor
  · intro h
    split at h
    · cases h
    · split at h
      · cases h
      · next goal hgoal =>
          split at h
          · cases h
          · next heq =>
              rw [hgoal, not_not.mp heq]
  · intro h
    have hknown : pack.goalProfile.text ∈ goalProfiles := by
      simp only [presetToGoalProfile, List.lookup_cons, List.lookup_nil] at h
      split at h
      · rw [← Option.some.inj h]
        decide
      · split at h
        · rw [← Option.some.inj h]
          decide
        · split at h
          · rw [← Option.some.inj h]
            decide
          · split at h
            · rw [← Option.some.inj h]
              decide
            · cases h
    rw [if_neg (not_not.mpr hknown), h]
    exact if_neg (not_not.mpr rfl)

/-- What an accepted pack project comes with. -/
structure LoadedPack (host : ProjectHost) (disk : ProjectDisk) (project : PackProject) : Prop where
  roles : ∀ role ∈ project.pack.roles, CleanRole role
  compatible : presetToGoalProfile.lookup project.pack.preset.text =
    some project.pack.goalProfile.text
  isFile : ∃ text, disk.get? project.manifestPath = some (.file text)
  again : ∀ {path : Option String}, resolvePackManifest host disk path = .ok project.manifestPath →
    loadPackProject host disk path = .ok project

theorem loadedPack_of_load (h : loadPackProject host disk path = .ok project) :
    LoadedPack host disk project := by
  have hwhole := h
  unfold loadPackProject at h
  obtain ⟨manifestPath, hpath, h⟩ := Fallible.bind_eq_ok_iff.mp h
  obtain ⟨manifest, hmanifest, h⟩ := Fallible.bind_eq_ok_iff.mp h
  split at h
  · obtain ⟨read, hread, h⟩ := Fallible.bind_eq_ok_iff.mp h
    obtain ⟨pack, hpack, h⟩ := Fallible.bind_eq_ok_iff.mp h
    obtain ⟨done, hvalid, h⟩ := Fallible.bind_eq_ok_iff.mp h
    cases h
    have hroles := normalizeConfigPackDefinition_roles rfl (Fallible.mapError_eq_ok_iff.mp hpack)
    refine ⟨?_, validatePackCompatibility_ok_iff.mp hvalid, ?_, ?_⟩
    · intro role hrole
      obtain ⟨raw, hraw, hnormal⟩ := Fallible.exists_of_mem_mapM hroles hrole
      obtain ⟨entry, hentry, rfl⟩ := List.mem_map.mp hraw
      obtain ⟨source, -, hsource⟩ := Fallible.exists_of_mem_mapM hread hentry
      obtain ⟨fields, hfields⟩ := readPackRole_mapping hsource
      rw [hfields] at hnormal
      exact normalizeRoleDefinition_clean hnormal
    · unfold readManifestYaml at hmanifest
      split at hmanifest
      · next text htext => exact ⟨_, htext⟩
      · cases hmanifest
      · cases hmanifest
    · intro other hother
      unfold loadPackProject at hwhole ⊢
      rw [hpath] at hwhole
      rw [hother]
      exact hwhole
  · cases h

end

section
variable (host : TestHost) {disk : ProjectDisk} {location : Location}

theorem candidatePath_render : candidatePath host.projects (some (render location)) =
    render location := by
  have hne : render location ≠ "" := by
    intro heq
    have habs := isAbs_render location
    rw [heq] at habs
    cases habs
  rw [candidatePath, Option.getD_some, if_neg hne, host.keepsAbsolute _ (isAbs_render location)]

theorem locate_render (hnames : ∀ s ∈ location, IsName s) :
    host.projects.locate (render location) = location := by
  rw [ProjectHost.locate, resolve_render hnames]

/-- A manifest is found under its own path. -/
theorem resolvePackManifest_file {text : Option String} (hnames : ∀ s ∈ location, IsName s)
    (h : disk.get? location = some (.file text)) :
    resolvePackManifest host.projects disk (some (render location)) = .ok location := by
  unfold resolvePackManifest
  rw [candidatePath_render]
  dsimp only
  rw [locate_render host hnames, h]

end

/-! ## The config of a test is valid -/

section
variable (host : ModelHost)

theorem cleanString_text {text : String} (h : strip text ≠ "") :
    cleanString host (.str text) = .ok ⟨strip text, strip_strip text, h⟩ := by
  rw [cleanString, host.pydantic.str_str, also, nonEmptyText, dif_neg h]
  rfl

end

/-! ### Roles -/

/-- A role of a test has a prompt, and a model at most of the tables. -/
structure TestRole (role : TaskRole) : Prop where
  prompt : ∃ prompt, role.prompt = some prompt ∧ strip prompt ≠ ""
  model : ∀ model, role.model = some model → strip model ≠ ""

/-- There is a section for each selected role and for no other. -/
structure TestRoles (selectedRoles : List String) (roles : Dict String TaskRole) : Prop where
  keys : ∀ key, key ∈ roles.keys ↔ key ∈ selectedRoles
  each : ∀ key role, roles.get? key = some role → TestRole role

theorem TestRoles.assignDistinct {baseModel role : String}
    {alternatives selectedRoles disallowWith : List String} {roles : Dict String TaskRole}
    (h : TestRoles selectedRoles roles) (halternatives : ∀ model ∈ alternatives, strip model ≠ "") :
    TestRoles selectedRoles
      (assignDistinct baseModel alternatives selectedRoles role disallowWith roles) := by
  unfold Ese.assignDistinct
  split
  · dsimp only
    split
    · next candidate section_ hfind hsection =>
        refine ⟨fun key => ?_, fun key other hother => ?_⟩
        · have hmem : role ∈ roles.keys := by
            by_contra hno
            rw [Dict.get?_eq_none_iff.mpr hno] at hsection
            cases hsection
          rw [Dict.mem_keys_set, ← h.keys key]
          constructor
          · rintro (rfl | hkey)
            · exact hmem
            · exact hkey
          · exact .inr
        · rw [Dict.get?_set] at hother
          split at hother
          · rw [Option.some.injEq] at hother
            subst hother
            refine ⟨(h.each role section_ hsection).prompt, ?_⟩
            intro model hmodel
            rw [Option.some.injEq] at hmodel
            subst hmodel
            exact halternatives _ (List.mem_of_find?_eq_some hfind)
          · exact h.each key other hother
    · exact h
  · exact h

theorem commonModels_ne_blank (provider : String) :
    ∀ model ∈ commonModels provider, strip model ≠ "" := by
  have hall : ∀ entry ∈ commonModelsByProvider, ∀ model ∈ entry.2, strip model ≠ "" := by
    decide +kernel
  intro model hmodel
  rw [commonModels] at hmodel
  cases hlookup : commonModelsByProvider.lookup provider with
  | none =>
      rw [hlookup] at hmodel
      cases hmodel
  | some models =>
      rw [hlookup] at hmodel
      obtain ⟨front, back, heq, -⟩ := List.lookup_eq_some_iff.mp hlookup
      exact hall (provider, models) (by rw [heq]; simp) model hmodel

theorem testRoles_smokeTestRoles {pack : ConfigPack} (hroles : ∀ role ∈ pack.roles, CleanRole role)
    (provider model : String) : TestRoles pack.roleOrder (smokeTestRoles pack provider model) := by
  have halternatives : ∀ other ∈ alternativeModels provider model, strip other ≠ "" :=
    fun other hother => commonModels_ne_blank provider other (List.mem_filter.mp hother).1
  let sections := pack.roles.map fun role =>
    (role.key, ({ temperature := role.temperature, prompt := some role.prompt } : TaskRole))
  have hkeys : sections.map Prod.fst = pack.roleOrder := by
    rw [List.map_map]
    rfl
  have hnodup : (sections.map Prod.fst).Nodup := by
    rw [hkeys]
    exact pack.roleKeys_nodup
  have hget : ∀ key role, (Dict.empty.update sections).get? key = some role ↔
      (key, role) ∈ sections := fun key role => Dict.get?_update_empty_iff hnodup
  have hbase : TestRoles pack.roleOrder (Dict.empty.update sections) := by
    refine ⟨fun key => ?_, fun key role hrole => ?_⟩
    · rw [Dict.mem_keys_update, hkeys]
      simp [Dict.keys]
    · obtain ⟨source, hsource, heq⟩ := List.mem_map.mp ((hget _ _).mp hrole)
      rw [Prod.mk.injEq] at heq
      obtain ⟨-, rfl⟩ := heq
      exact ⟨⟨source.prompt, rfl, (hroles source hsource).prompt_ne_blank⟩, fun model hmodel => by
        cases hmodel⟩
  unfold smokeTestRoles applySimpleModeModelDiversity
  split
  · exact hbase
  · exact (((hbase.assignDistinct halternatives).assignDistinct halternatives).assignDistinct
      halternatives).assignDistinct halternatives

/-! ### Sections -/

section
variable (host : TestHost)

theorem role_text {role : TaskRole} (h : TestRole role) :
    ∃ config, RoleConfig.read host.model (textFields role.fields) = .ok config := by
  obtain ⟨prompt, hprompt, hne⟩ := h.prompt
  obtain ⟨extra, hextra⟩ := exists_extra_text roleKnownFields role.fields
  have hmodel : ∃ model,
      optional (textFields role.fields) "model" (cleanString host.model) = .ok model := by
    cases hmodel : role.model with
    | none => exact ⟨none, optional_absent (by simp [TaskRole.fields, hprompt, hmodel, List.lookup])⟩
    | some model =>
        exact ⟨_, optional_text (by simp [TaskRole.fields, hprompt, hmodel, List.lookup])
          (fun heq => by cases heq) (cleanString_text host.model (h.model model hmodel))⟩
  obtain ⟨model, hmodel⟩ := hmodel
  have hprovider : optional (textFields role.fields) "provider" (cleanString host.model) =
      .ok none := by
    refine optional_absent ?_
    cases hmodel : role.model <;> simp [TaskRole.fields, hprompt, hmodel, List.lookup]
  have htemperature : optional (textFields role.fields) "temperature" host.model.pydantic.float =
      .ok (some (.finite role.temperature)) :=
    optional_text rfl (fun heq => by cases heq) (host.pydantic.float_float _)
  have hpromptRead : optional (textFields role.fields) "prompt" (cleanString host.model) =
      .ok (some ⟨strip prompt, strip_strip prompt, hne⟩) :=
    optional_text (by simp [TaskRole.fields, hprompt, List.lookup]) (fun heq => by cases heq)
      (cleanString_text host.model hne)
  rw [RoleConfig.read, hprovider, hmodel, htemperature, hpromptRead, hextra]
  exact ⟨_, rfl⟩

/-- The roles are read, under their keys. -/
theorem roles_text {selectedRoles : List String} {roles : Dict String TaskRole}
    (h : TestRoles selectedRoles roles) (hne : selectedRoles ≠ []) :
    ∃ out, readRolesField host.model (textDict (roles.items.map fun entry =>
        (entry.1, textDict entry.2.fields))) = .ok out ∧ out.map Prod.fst = roles.keys := by
  let fields := textFields (roles.items.map fun entry => (entry.1, textDict entry.2.fields))
  have heach : ∀ entry ∈ fields, ∃ config, readRole host.model entry = .ok config ∧
      entry.1.shown = config.1 := by
    intro entry hentry
    obtain ⟨p, hp, rfl⟩ := List.mem_map.mp hentry
    obtain ⟨item, hitem, rfl⟩ := List.mem_map.mp hp
    obtain ⟨config, hconfig⟩ := role_text host (h.each item.1 item.2 (Dict.get?_eq_some_iff.mpr hitem))
    refine ⟨(item.1, config), ?_, rfl⟩
    rw [readRole, textDict, record, hconfig]
    rfl
  obtain ⟨out, hout, hall⟩ := @exists_traverse _ _ (fun entry => entry.1.shown) _ _ _ heach
  have hkeys : out.map Prod.fst = roles.keys := by
    have hshown : fields.map (fun entry => entry.1.shown) = roles.keys := by
      show ((roles.items.map fun entry => (entry.1, textDict entry.2.fields)).map fun p =>
        (PyKey.text p.1, p.2)).map (fun entry => entry.1.shown) = roles.keys
      rw [List.map_map, List.map_map]
      rfl
    have hsame : List.Forall₂ Eq (fields.map fun entry => entry.1.shown) (out.map Prod.fst) :=
      List.forall₂_map_left_iff.mpr (List.forall₂_map_right_iff.mpr hall)
    rw [List.forall₂_eq_eq_eq] at hsame
    rw [← hsame, hshown]
  refine ⟨out, ?_, hkeys⟩
  have hout' : out ≠ [] := by
    rintro rfl
    obtain ⟨key, hkey⟩ := List.exists_mem_of_ne_nil _ hne
    have hmem := (h.keys key).mpr hkey
    rw [← hkeys] at hmem
    cases hmem
  show (traverse (fun entry => entry.1.shown) (readRole host.model) fields).also _ = _
  rw [hout]
  exact if_neg hout'

/-- The order of the roles is read as it stands. -/
theorem roleOrder_text {roleOrder : List String} (hnodup : roleOrder.Nodup)
    (hclean : ∀ key ∈ roleOrder, strip key = key ∧ key ≠ "") :
    ∃ order, readRoleOrder host.model (.list (roleOrder.map .str)) = .ok order ∧
      order.names.map CleanText.text = roleOrder := by
  let names : List CleanText := roleOrder.pmap (fun key h => ⟨key, h.1, h.2⟩) hclean
  have htexts : names.map CleanText.text = roleOrder := by
    simp [names, List.map_pmap]
  have hnames : names.Nodup := List.Nodup.of_map CleanText.text (by rwa [htexts])
  refine ⟨⟨names, hnames⟩, ?_, htexts⟩
  have hread := @readRoleOrder_carried host.model id carries_id ⟨names, hnames⟩
  rw [id, RoleNames.data] at hread
  rw [← hread, ← htexts, List.map_map]
  rfl

theorem rolePairs_text (selectedRoles : List String) :
    ∃ constraints, record "ConstraintsConfig" (ConstraintsConfig.read host.model)
      (constraintsData (ensembleConstraints selectedRoles)) = .ok constraints := by
  have htable : ∀ pair ∈ defaultDisallowSameModelPairs, strip pair.1 ≠ "" ∧ strip pair.2 ≠ "" := by
    decide
  let fields : List (String × PyData) := [("disallow_same_model_pairs",
    .list ((ensembleConstraints selectedRoles).map fun pair => .list [.str pair.1, .str pair.2]))]
  have hentries : ∀ entry ∈ (ensembleConstraints selectedRoles).map
      (fun pair => PyData.list [.str pair.1, .str pair.2]),
      ∃ pair, normalizePairEntry entry = .ok pair := by
    intro entry hentry
    obtain ⟨pair, hpair, rfl⟩ := List.mem_map.mp hentry
    obtain ⟨hleft, hright⟩ := htable pair (List.mem_filter.mp hpair).1
    refine ⟨(⟨strip pair.1, strip_strip _, hleft⟩, ⟨strip pair.2, strip_strip _, hright⟩), ?_⟩
    simp only [normalizePairEntry, pairItems, nonEmptyText, dif_neg hleft, dif_neg hright]
  obtain ⟨pairs, hpairs, -⟩ := Fallible.exists_mapM_eq_ok hentries
  obtain ⟨extra, hextra⟩ := exists_extra_text constraintKnownFields fields
  have hread : defaulted (textFields fields) "disallow_same_model_pairs" []
      (fun value => validated (normalizeRolePairs value)) = .ok pairs := by
    refine defaulted_text rfl ?_
    rw [normalizeRolePairs, hpairs, validated]
  show ∃ constraints, ConstraintsConfig.read host.model (textFields fields) = .ok constraints
  rw [ConstraintsConfig.read, hread, defaulted_absent rfl, optional_absent rfl,
    optional_absent rfl, defaulted_absent rfl, defaulted_absent rfl, hextra]
  exact ⟨_, rfl⟩

theorem runtime_text :
    ∃ runtime, record "RuntimeConfig" (RuntimeConfig.read host.model)
        (textDict [("adapter", .str "dry-run"), ("timeout_seconds", .int 60),
          ("max_retries", .int 2), ("retry_backoff_seconds", .float (.finite 1))]) = .ok runtime ∧
      runtime.adapter = defaultAdapter := by
  let fields : List (String × PyData) := [("adapter", .str "dry-run"), ("timeout_seconds", .int 60),
    ("max_retries", .int 2), ("retry_backoff_seconds", .float (.finite 1))]
  obtain ⟨extra, hextra⟩ := exists_extra_text runtimeKnownFields fields
  have hadapter : defaulted (textFields fields) "adapter" defaultAdapter
      (validateAdapter host.model) = .ok defaultAdapter :=
    defaulted_text rfl (validateAdapter_carried carries_id defaultAdapter)
  have htimeout : defaulted (textFields fields) "timeout_seconds" defaultRuntime.timeoutSeconds
      (positiveFloat host.model) = .ok ⟨.finite 60, by decide⟩ := by
    refine defaulted_text rfl ?_
    show (host.pydantic.float (.int 60)).also _ = _
    rw [host.floatOfInt, also, dif_pos (show (FloatData.finite 60).isNonpos = false by decide)]
  have hretries : defaulted (textFields fields) "max_retries" defaultRuntime.maxRetries
      (nonNegativeInt host.model) = .ok ⟨2, by decide⟩ :=
    defaulted_text rfl (nonNegativeInt_carried carries_id defaultRuntime.maxRetries)
  have hbackoff : defaulted (textFields fields) "retry_backoff_seconds"
      defaultRuntime.retryBackoffSeconds (positiveFloat host.model) =
        .ok ⟨.finite 1, by decide⟩ :=
    defaulted_text rfl (positiveFloat_carried carries_id ⟨.finite 1, by decide⟩)
  show ∃ runtime, RuntimeConfig.read host.model (textFields fields) = .ok runtime ∧ _
  rw [RuntimeConfig.read, hadapter, htimeout, hretries, hbackoff, optional_absent rfl,
    defaulted_absent rfl, defaulted_absent rfl, optional_absent rfl, defaulted_absent rfl, hextra]
  exact ⟨_, rfl, rfl⟩

/-- A config made for a test is read, and its parts agree. -/
structure TestRead (selectedRoles : List String) (config : ESEConfig) : Prop where
  strict : config.strictConfig = false
  enforced : config.output.enforceJson = true
  adapter : config.runtime.adapter = defaultAdapter
  keys : ∀ key, key ∈ config.roleKeys ↔ key ∈ selectedRoles
  order : ∃ order, config.roleOrder = some order ∧ order.names.map CleanText.text = selectedRoles

theorem smokeTestConfig_read {pack : ConfigPack} {provider model : String}
    (hroles : ∀ role ∈ pack.roles, CleanRole role) (hprovider : strip provider ≠ "")
    (hmodel : strip model ≠ "") :
    ∃ config, ESEConfig.read host.model (textFields (smokeTestConfig pack provider model)) =
      .ok config ∧ TestRead pack.roleOrder config := by
  have hclean : ∀ key ∈ pack.roleOrder, strip key = key ∧ key ≠ "" := by
    intro key hkey
    obtain ⟨role, hrole, rfl⟩ := List.mem_map.mp hkey
    exact ⟨(hroles role hrole).key_stripped, (hroles role hrole).key_ne_empty⟩
  have hne : pack.roleOrder ≠ [] := by
    intro hnil
    exact pack.roles_ne_nil (List.map_eq_nil_iff.mp hnil)
  have htest := testRoles_smokeTestRoles hroles provider model
  obtain ⟨roles, hrolesRead, hkeys⟩ := roles_text host htest hne
  obtain ⟨order, horder, htexts⟩ := roleOrder_text host pack.roleKeys_nodup hclean
  obtain ⟨constraints, hconstraints⟩ := rolePairs_text host pack.roleOrder
  obtain ⟨runtime, hruntime, hadapter⟩ := runtime_text host
  obtain ⟨extra, hextra⟩ := exists_extra_text configKnownFields (smokeTestConfig pack provider model)
  obtain ⟨providerExtra, hproviderExtra⟩ :=
    exists_extra_text providerKnownFields [("name", .str provider), ("model", .str model)]
  obtain ⟨inputExtra, hinputExtra⟩ :=
    exists_extra_text inputKnownFields [("scope", .str defaultSmokeTestScope)]
  obtain ⟨outputExtra, houtputExtra⟩ :=
    exists_extra_text outputKnownFields [("artifacts_dir", .str "artifacts"),
      ("enforce_json", .bool true)]
  obtain ⟨gatingExtra, hgatingExtra⟩ :=
    exists_extra_text gatingKnownFields [("fail_on_high", .bool true)]
  have hscope : strip defaultSmokeTestScope ≠ "" := by decide
  have hproviderRead : ProviderConfig.read host.model
      (textFields [("name", .str provider), ("model", .str model)]) =
        .ok ⟨⟨strip provider, strip_strip _, hprovider⟩, ⟨strip model, strip_strip _, hmodel⟩, none,
          none, providerExtra⟩ := by
    rw [ProviderConfig.read, required_text rfl (cleanString_text host.model hprovider),
      required_text rfl (cleanString_text host.model hmodel), optional_absent rfl,
      optional_absent rfl, hproviderExtra]
    rfl
  have hinputRead : InputConfig.read host.model
      (textFields [("scope", .str defaultSmokeTestScope)]) =
        .ok ⟨some ⟨strip defaultSmokeTestScope, strip_strip _, hscope⟩, none, inputExtra⟩ := by
    rw [InputConfig.read, optional_text rfl (fun heq => by cases heq)
      (cleanString_text host.model hscope), optional_absent rfl, hinputExtra]
    rfl
  have houtputRead : OutputConfig.read host.model
      (textFields [("artifacts_dir", .str "artifacts"), ("enforce_json", .bool true)]) =
        .ok ⟨defaultArtifactsDir, true, outputExtra⟩ := by
    rw [OutputConfig.read, defaulted_text rfl (cleanString_carried carries_id defaultArtifactsDir),
      defaulted_text rfl (bool_carried carries_id true), houtputExtra]
    rfl
  have hgatingRead : GatingConfig.read host.model (textFields [("fail_on_high", .bool true)]) =
      .ok ⟨true, gatingExtra⟩ := by
    rw [GatingConfig.read, defaulted_text rfl (bool_carried carries_id true), hgatingExtra]
    rfl
  refine ⟨⟨⟨configVersion, rfl⟩, .ensemble, false,
    ⟨⟨strip provider, strip_strip _, hprovider⟩, ⟨strip model, strip_strip _, hmodel⟩, none, none,
      providerExtra⟩, roles, some order, constraints,
    ⟨some ⟨strip defaultSmokeTestScope, strip_strip _, hscope⟩, none, inputExtra⟩,
    ⟨defaultArtifactsDir, true, outputExtra⟩, ⟨true, gatingExtra⟩, runtime, extra⟩, ?_,
    ⟨rfl, rfl, hadapter, ?_, order, rfl, htexts⟩⟩
  · rw [ESEConfig.read, defaulted_text rfl (validateVersion_carried carries_id ⟨configVersion, rfl⟩),
      defaulted_text rfl (normalizeMode_carried carries_id .ensemble), defaulted_absent rfl,
      required_text rfl hproviderRead, defaulted_text rfl hrolesRead,
      optional_text rfl (fun heq => by cases heq) horder, defaulted_text rfl hconstraints,
      defaulted_text rfl hinputRead, defaulted_text rfl houtputRead, defaulted_text rfl hgatingRead,
      defaulted_text rfl hruntime, hextra]
    rfl
  · intro key
    rw [← htest.keys key, ← hkeys]
    rfl

theorem lower_ascii {py : Interpreter} (hpy : LowersAscii py) {text : String}
    (h : (text.toList.all fun c => c.toNat < 128) = true) : py.lower text = asciiLower text :=
  hpy text fun c hc => by simpa using List.all_eq_true.mp h c hc

theorem testRead_contract {selectedRoles : List String} {config : ESEConfig}
    (h : TestRead selectedRoles config) :
    validateAdapterContract config host.projects.py = .ok () := by
  have hjson : checkEnforceJson config = .ok () := by
    simp [checkEnforceJson, h.enforced]
  have hstrict : checkStrictConfig config = .ok () := by
    simp [checkStrictConfig, h.strict]
  have horder : checkRoleOrder config = .ok () := by
    obtain ⟨order, horder, htexts⟩ := h.order
    have hunknown : selectedRoles.filter (fun role => role ∉ config.roleKeys) = [] := by
      rw [List.filter_eq_nil_iff]
      intro role hrole
      simpa using (h.keys role).mpr hrole
    have hmissing : config.roleKeys.filter (fun role => role ∉ selectedRoles) = [] := by
      rw [List.filter_eq_nil_iff]
      intro role hrole
      simpa using (h.keys role).mp hrole
    rw [checkRoleOrder, horder]
    simp only [htexts, hunknown, hmissing]
    rfl
  have hadapter : checkAdapter config host.projects.py = .ok () := by
    have hlower : host.projects.py.lower (strip config.runtime.adapter.val.text) = "dry-run" := by
      have hstrip : strip config.runtime.adapter.val.text = "dry-run" := by
        rw [h.adapter]
        decide
      rw [hstrip, lower_ascii host.lowersAscii (by decide)]
      decide
    rw [checkAdapter, hlower]
    rfl
  rw [validateAdapterContract, hjson, hstrict, horder, hadapter]
  rfl

/-- The config of a test of a pack is valid. -/
theorem smokeTestConfig_valid {pack : ConfigPack} {provider model : String}
    (hroles : ∀ role ∈ pack.roles, CleanRole role) (hprovider : strip provider ≠ "")
    (hmodel : strip model ≠ "") (source : String) :
    ∃ out, validateConfig host.model (textFields (smokeTestConfig pack provider model)) source =
      .ok out := by
  obtain ⟨config, hread, htest⟩ := smokeTestConfig_read host hroles hprovider hmodel
  refine ⟨config.data, ?_⟩
  have hvalid : ESEConfig.validate host.model (textFields (smokeTestConfig pack provider model)) =
      .ok config := by
    rw [ESEConfig.validate, hread]
    show (fun _ => config) <$> validated (validateAdapterContract config host.projects.py) = _
    rw [testRead_contract host htest]
    rfl
  rw [validateConfig, hvalid]

/-! ## Projects that load pass the test -/

theorem recommendedModel_openai {preset goal : String}
    (h : presetToGoalProfile.lookup preset = some goal) :
    ∃ model, recommendedModel "openai" goal = some model ∧ strip model ≠ "" := by
  have hall : ∀ entry ∈ presetToGoalProfile,
      ∃ model ∈ recommendedModel "openai" entry.2, strip model ≠ "" := by
    decide
  obtain ⟨front, back, heq, -⟩ := List.lookup_eq_some_iff.mp h
  obtain ⟨model, hmodel, hne⟩ := hall (preset, goal) (by rw [heq]; simp)
  exact ⟨model, hmodel, hne⟩

/-- A pack project that loads passes the smoke test with the default provider. -/
theorem smokeTestPackProject_ok {disk : ProjectDisk} {path : Option String} {project : PackProject}
    (h : loadPackProject host.projects disk path = .ok project)
    (hnames : ∀ s ∈ project.manifestPath, IsName s) :
    ∃ smoke, smokeTestPackProject host disk path "openai" none = .ok smoke := by
  have hloaded := loadedPack_of_load h
  obtain ⟨model, hmodel, hne⟩ := recommendedModel_openai hloaded.compatible
  have hlower : host.projects.py.lower "openai" = "openai" := by
    rw [lower_ascii host.lowersAscii (by decide)]
    decide
  have hprovider : (normalizeNonEmpty "provider" (.str "openai")).mapError ProjectError.packProject =
      .ok ⟨"openai", by decide, by decide⟩ := rfl
  obtain ⟨out, hvalid⟩ := @smokeTestConfig_valid host project.pack "openai" model hloaded.roles
    (by decide) hne (render project.manifestPath)
  obtain ⟨text, htext⟩ := hloaded.isFile
  have hagain := hloaded.again (resolvePackManifest_file host hnames htext)
  obtain ⟨description, hdescribed⟩ : ∃ description,
      describePackProject host.projects disk (some (render project.manifestPath)) =
        .ok description := by
    rw [describePackProject, hagain]
    exact ⟨_, rfl⟩
  have hne' : model ≠ "" := by
    rintro rfl
    exact hne (by decide)
  refine ⟨⟨description, "openai", model, out⟩, ?_⟩
  rw [smokeTestPackProject, h]
  show (_ >>= _) = _
  rw [hprovider]
  simp only [bind, Except.bind, hlower, Option.getD_none, if_true, hmodel, Option.getD_some,
    if_neg hne', hvalid, hdescribed, Except.mapError, pure, Except.pure]

end

end TruePresenceESE.Ese
