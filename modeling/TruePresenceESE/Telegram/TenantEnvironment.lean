import TruePresenceESE.Telegram.TenantVariables

/-! # The environment of a tenant

The adapter takes over the policy switches that the variables of its tenant state. It has no
pattern of any variable, and of a custom detector it has the name up to the first underscore.
-/

namespace TruePresenceESE.Telegram

/-! ## What is loaded -/

/-- `str.lower` leaves underscores. -/
def KeepsUnderscores (lower : String → String) : Prop :=
  ∀ text, '_' ∈ text.toList → '_' ∈ (lower text).toList

/-- The entry of every custom detector that is loaded. -/
def loadedEntry : ActiveDetector := ⟨.bool true, .arr [], .custom⟩

/-- Some variable is about a custom detector whose name begins with the part. -/
def StatesFirstPart (host : ConfigHost) (tenant name : String) : Prop :=
  ∃ full, StatesCustom host tenant full ∧ firstPart full = name

section
variable {host : ConfigHost} {tenants : Set String} {tenantId : String}

theorem isSome_loadCustomDetectors (h : DocumentedEnvironment host tenants)
    (htenant : host.upper tenantId ∈ tenants) {name : String} :
    ((loadCustomDetectors host tenantId).get? name).isSome ↔
      StatesFirstPart host (host.upper tenantId) name := by
  have hfold : loadCustomDetectors host tenantId =
      host.environ.items.foldl (customStep host (tenantStart (host.upper tenantId))) Dict.empty :=
    rfl
  rw [hfold, isSome_foldl_customStep, Dict.get?_empty]
  simp only [Option.isSome_none, Bool.false_eq_true, false_or]
  constructor
  · rintro ⟨p, hp, hstart, rfl⟩
    obtain ⟨full, suffix, hsuffix, hkey⟩ :=
      exists_customKey h htenant (List.mem_map_of_mem hp) hstart
    refine ⟨full, statesCustom_iff.mpr ⟨suffix, hsuffix, ?_⟩, ?_⟩
    · rw [← hkey]
      exact List.mem_map_of_mem hp
    · rw [hkey, customName_customKey hsuffix]
  · rintro ⟨full, hstates, rfl⟩
    obtain ⟨suffix, hsuffix, hkey⟩ := statesCustom_iff.mp hstates
    obtain ⟨p, hp, hpkey⟩ := List.mem_map.mp hkey
    refine ⟨p, hp, ?_, ?_⟩
    · rw [hpkey, toList_customKey]
      exact List.prefix_append _ _
    · rw [hpkey, customName_customKey hsuffix]

/-- No property is read under the name that is documented. -/
theorem undocumented_properties (hlower : KeepsUnderscores host.lower)
    (h : DocumentedEnvironment host tenants) (htenant : host.upper tenantId ∈ tenants)
    {name : String} {properties : JsonDict}
    (hget : (loadCustomDetectors host tenantId).get? name = some properties) {key : String}
    (hkey : '_' ∉ key.toList) : properties.get? key = none := by
  by_contra hsome
  rw [← ne_eq, Option.ne_none_iff_isSome] at hsome
  rcases properties_foldl_customStep hget hsome with ⟨earlier, hearlier, -⟩ | ⟨p, hp, hproperty⟩
  · cases hearlier
  · obtain ⟨hmem, hstart, -⟩ := hp
    obtain ⟨full, suffix, hsuffix, hfull⟩ :=
      exists_customKey h htenant (List.mem_map_of_mem hmem) hstart
    refine hkey ?_
    rw [← hproperty, property_name, hfull]
    apply hlower
    rw [String.toList_ofList]
    exact underscore_mem_rest hsuffix

theorem customDetector_toJson {properties : JsonDict} (hpatterns : properties.get? "patterns" = none)
    (henabled : properties.get? "enabled" = none) :
    customDetector properties.toJson = .ok loadedEntry := by
  have hnone : ∀ {key : String}, properties.get? key = none →
      (Json.obj properties.items).get? key = none := by
    intro key hkey
    cases hget : (Json.obj properties.items).get? key with
    | none => rfl
    | some value =>
        rw [Json.get?_obj_iff properties.nodup, ← Dict.get?_eq_some_iff, hkey] at hget
        cases hget
  rw [JsonDict.toJson, customDetector, hnone hpatterns, hnone henabled]
  rfl

/-- What is loaded of the switch of one policy. -/
def switchStep (host : ConfigHost) (tenant : String) (detectors : JsonDict) (policy : String) :
    JsonDict :=
  match valueOf host (.policyEnabled policy tenant) with
  | some text => detectors.set policy (.obj [("enabled", .bool (host.lower text = "true"))])
  | none => detectors

theorem get?_switchStep_ne {tenant : String} {detectors : JsonDict} {policy other : String}
    (h : policy ≠ other) :
    (switchStep host tenant detectors policy).get? other = detectors.get? other := by
  rw [switchStep]
  split
  · exact Dict.get?_set_ne _ _ h
  · rfl

theorem get?_foldl_switchStep {tenant : String} {policies : List String} (hnodup : policies.Nodup)
    {policy : String} (hpolicy : policy ∈ policies) {detectors : JsonDict} :
    (policies.foldl (switchStep host tenant) detectors).get? policy =
      ((valueOf host (.policyEnabled policy tenant)).map fun text =>
        .obj [("enabled", .bool (host.lower text = "true"))]).or (detectors.get? policy) := by
  have hkept : ∀ {rest : List String} {detectors : JsonDict}, policy ∉ rest →
      (rest.foldl (switchStep host tenant) detectors).get? policy = detectors.get? policy := by
    intro rest
    induction rest with
    | nil => exact fun _ => rfl
    | cons first rest ih =>
        intro detectors hnot
        rw [List.mem_cons, not_or] at hnot
        rw [List.foldl_cons, ih hnot.2, get?_switchStep_ne (Ne.symm hnot.1)]
  induction policies generalizing detectors with
  | nil => cases hpolicy
  | cons first rest ih =>
      rw [List.nodup_cons] at hnodup
      rw [List.foldl_cons]
      rcases List.mem_cons.mp hpolicy with rfl | hrest
      · rw [hkept hnodup.1, switchStep]
        cases valueOf host (.policyEnabled policy tenant) with
        | none => rfl
        | some text => exact Dict.get?_set_self _ _ _
      · have hne : first ≠ policy := by
          rintro rfl
          exact hnodup.1 hrest
        rw [ih hnodup.2 hrest, get?_switchStep_ne hne]

/-- A policy switch is read where it is stated. -/
theorem get?_loadDetectors {policy : String} (h : policy ∈ configurableDetectors) :
    (loadDetectors host tenantId).get? policy =
      (valueOf host (.policyEnabled policy (host.upper tenantId))).map fun text =>
        .obj [("enabled", .bool (host.lower text = "true"))] := by
  have hfold : loadDetectors host tenantId =
      configurableDetectors.foldl (switchStep host (host.upper tenantId)) Dict.empty := rfl
  rw [hfold, get?_foldl_switchStep (by decide) h, Dict.get?_empty, Option.or_none]

/-- The entry of a policy detector that is loaded: the switch that is stated, and the built-in
patterns. -/
def loadedPolicy (host : ConfigHost) (tenant policy : String) (builtin : List String) :
    ActiveDetector where
  enabled := .bool (statedEnabled host (valueOf host (.policyEnabled policy tenant)))
  patterns := strs builtin
  tier := .policy

theorem policyDetector_loaded {p : String × List String} (h : p ∈ policyDetectors) :
    policyDetector p.2 (((loadTenantConfig host tenantId).detectors.get? p.1).getD (.obj [])) =
      .ok (loadedPolicy host (host.upper tenantId) p.1 p.2) := by
  have hnames : policyDetectors.map Prod.fst = configurableDetectors := rfl
  have hread : (loadTenantConfig host tenantId).detectors.get? p.1 =
      (valueOf host (.policyEnabled p.1 (host.upper tenantId))).map fun text =>
        .obj [("enabled", .bool (host.lower text = "true"))] :=
    get?_loadDetectors (hnames ▸ List.mem_map_of_mem h)
  rw [hread, loadedPolicy, statedEnabled]
  cases valueOf host (.policyEnabled p.1 (host.upper tenantId)) <;>
    simp [policyDetector, Json.get?, strs]

/-! ## The table -/

/-- The table of an adapter: custom detectors, then policies, then the core. -/
structure LoadedTable (host : ConfigHost) (tenant : String) (table : Dict String ActiveDetector) :
    Prop where
  customs : ∀ name, StatesFirstPart host tenant name → table.get? name = some loadedEntry
  policies : ∀ p ∈ policyDetectors,
    table.get? p.1 = some (loadedPolicy host tenant p.1 p.2)
  others : ∀ name entry, table.get? name = some entry →
    (StatesFirstPart host tenant name ∧ entry = loadedEntry) ∨
      (∃ p ∈ policyDetectors, entry = loadedPolicy host tenant p.1 p.2) ∨
      ∃ p ∈ coreDetectors, entry = ⟨.bool true, strs p.2, .core⟩

theorem underscore_mem_policy {p : String × List String} (h : p ∈ policyDetectors) :
    '_' ∈ p.1.toList := by
  revert p
  decide

theorem core_of_coreTable {name : String} {entry : ActiveDetector}
    (h : coreTable.get? name = some entry) :
    ∃ p ∈ coreDetectors, entry = ⟨.bool true, strs p.2, .core⟩ := by
  have hname : name ∈ coreDetectors.map Prod.fst := by
    by_contra hnot
    have hnone : coreTable.get? name = none := by
      rw [coreTable, Dict.get?_eq_none_iff]
      exact hnot
    rw [hnone] at h
    cases h
  obtain ⟨⟨name, patterns⟩, hp, rfl⟩ := List.mem_map.mp hname
  rw [coreTable_get? hp, Option.some.injEq] at h
  exact ⟨_, hp, h.symm⟩

theorem exists_loadedTable (hlower : KeepsUnderscores host.lower)
    (h : DocumentedEnvironment host tenants) (htenant : host.upper tenantId ∈ tenants) :
    ∃ table, configureDetectors (loadTenantConfig host tenantId) = .ok table ∧
      LoadedTable host (host.upper tenantId) table := by
  obtain ⟨withPolicy, hpolicy⟩ := @Dict.exists_updateM _ _ _ _ _
    (fun name patterns => (policyDetector patterns
      (((loadTenantConfig host tenantId).detectors.get? name).getD (.obj []))).map some)
    policyDetectors (fun p hp => ⟨_, by rw [policyDetector_loaded hp]; rfl⟩) coreTable
  have hcustoms : ∀ name, (loadTenantConfig host tenantId).customDetectors.get? name =
      ((loadCustomDetectors host tenantId).get? name).map JsonDict.toJson :=
    fun name => Dict.get?_mapValues _ _ name
  have hentry : ∀ name entry, (loadTenantConfig host tenantId).customDetectors.get? name =
      some entry → customDetector entry = .ok loadedEntry := by
    intro name entry hget
    rw [hcustoms, Option.map_eq_some_iff] at hget
    obtain ⟨properties, hproperties, rfl⟩ := hget
    exact customDetector_toJson
      (undocumented_properties hlower h htenant hproperties (by decide))
      (undocumented_properties hlower h htenant hproperties (by decide))
  obtain ⟨table, htable⟩ := @Dict.exists_updateM _ _ _ _ _
    (fun _ entry => (customDetector entry).map some)
    (loadTenantConfig host tenantId).customDetectors.items
    (fun p hp => ⟨_, by rw [hentry _ _ (Dict.get?_eq_some_iff.mpr hp)]; rfl⟩) withPolicy
  have hstated : ∀ name, name ∈ (loadTenantConfig host tenantId).customDetectors.keys ↔
      StatesFirstPart host (host.upper tenantId) name := by
    intro name
    rw [← isSome_loadCustomDetectors h htenant, ← not_iff_not, ← Dict.get?_eq_none_iff, hcustoms,
      Option.map_eq_none_iff, Option.not_isSome_iff_eq_none]
  have hcustom : ∀ name, StatesFirstPart host (host.upper tenantId) name →
      table.get? name = some loadedEntry := by
    intro name hname
    obtain ⟨⟨name, entry⟩, hmem, rfl⟩ := List.mem_map.mp ((hstated name).mpr hname)
    obtain ⟨written, hwritten, hread⟩ := Dict.get?_updateM_of_mem
      (loadTenantConfig host tenantId).customDetectors.nodup htable hmem
    rw [hentry _ _ (Dict.get?_eq_some_iff.mpr hmem)] at hwritten
    cases hwritten
    exact hread
  have hwithPolicy : ∀ p ∈ policyDetectors,
      withPolicy.get? p.1 = some (loadedPolicy host (host.upper tenantId) p.1 p.2) := by
    intro p hp
    obtain ⟨written, hwritten, hread⟩ := Dict.get?_updateM_of_mem (by decide) hpolicy hp
    rw [policyDetector_loaded hp] at hwritten
    cases hwritten
    exact hread
  refine ⟨table, Fallible.bind_eq_ok_iff.mpr ⟨withPolicy, hpolicy, htable⟩, hcustom, ?_, ?_⟩
  · intro p hp
    rw [← hwithPolicy p hp]
    refine Dict.get?_updateM_of_notMem htable fun hmem => ?_
    obtain ⟨full, -, hfull⟩ := (hstated p.1).mp hmem
    exact underscore_notMem_firstPart full (hfull ▸ underscore_mem_policy hp)
  · intro name entry hget
    by_cases hname : StatesFirstPart host (host.upper tenantId) name
    · rw [hcustom name hname, Option.some.injEq] at hget
      exact .inl ⟨hname, hget.symm⟩
    · rw [Dict.get?_updateM_of_notMem htable fun hmem => hname ((hstated name).mp hmem)] at hget
      by_cases hmem : name ∈ policyDetectors.map Prod.fst
      · obtain ⟨p, hp, rfl⟩ := List.mem_map.mp hmem
        rw [hwithPolicy p hp, Option.some.injEq] at hget
        exact .inr (.inl ⟨p, hp, hget.symm⟩)
      · rw [Dict.get?_updateM_of_notMem hpolicy hmem] at hget
        exact .inr (.inr (core_of_coreTable hget))

end

/-! ## The adapter -/

/-- `re.compile` accepts the joined patterns of every built-in detector. -/
def CompilesBuiltins (rt : TextRuntime) : Prop :=
  ∀ p ∈ coreDetectors ++ policyDetectors,
    ∃ pattern, rt.compile (String.intercalate "|" p.2) = .ok pattern

section
variable {rt : TextRuntime} {host : ConfigHost} {tenants : Set String} {tenantId : String}

theorem compileEntry_strs (hcompiles : CompilesBuiltins rt) {p : String × List String}
    (h : p ∈ coreDetectors ++ policyDetectors) (enabled : Bool) (tier : Tier) :
    ∃ compiled, compileEntry rt ⟨.bool enabled, strs p.2, tier⟩ = .ok compiled := by
  obtain ⟨pattern, hpattern⟩ := hcompiles p h
  rw [compileEntry]
  split
  · exact ⟨some pattern, by rw [joinPatterns_strs]; simp only [hpattern]; rfl⟩
  · exact ⟨none, rfl⟩

theorem compileEntry_loadedTable (hcompiles : CompilesBuiltins rt) {tenant : String}
    {table : Dict String ActiveDetector} (htable : LoadedTable host tenant table) {name : String}
    {entry : ActiveDetector} (hget : table.get? name = some entry) :
    ∃ compiled, compileEntry rt entry = .ok compiled := by
  rcases htable.others name entry hget with ⟨-, rfl⟩ | ⟨p, hp, rfl⟩ | ⟨p, hp, rfl⟩
  · exact ⟨none, rfl⟩
  · exact compileEntry_strs hcompiles (List.mem_append_right _ hp) _ _
  · exact compileEntry_strs hcompiles (List.mem_append_left _ hp) _ _

theorem exists_loadedAdapter (hcompiles : CompilesBuiltins rt)
    (hlower : KeepsUnderscores host.lower) (h : DocumentedEnvironment host tenants)
    (htenant : host.upper tenantId ∈ tenants) :
    ∃ adapter, buildAdapter rt (loadTenantConfig host tenantId) = .ok adapter ∧
      LoadedTable host (host.upper tenantId) adapter.activeDetectors := by
  obtain ⟨table, hconfigured, htable⟩ := exists_loadedTable hlower h htenant
  obtain ⟨compiled, hcompiled⟩ := @Dict.exists_updateM _ _ _ _ _
    (fun _ entry => compileEntry rt entry) table.items
    (fun p hp => compileEntry_loadedTable hcompiles htable (Dict.get?_eq_some_iff.mpr hp))
    Dict.empty
  refine ⟨⟨table, compiled⟩, ?_, htable⟩
  exact Fallible.bind_eq_ok_iff.mpr
    ⟨table, hconfigured, Fallible.bind_eq_ok_iff.mpr ⟨compiled, hcompiled, rfl⟩⟩

theorem statedPatterns_eq_nil_iff {value : Option String} :
    statedPatterns host value = [] ↔ ∀ text ∈ value, host.loads text = some (.arr []) := by
  cases value with
  | none => simp [statedPatterns]
  | some text =>
      rw [statedPatterns]
      split
      · next items hitems => simp [hitems]
      · next hother =>
          have hne : host.loads text ≠ some (.arr []) := hother []
          simp [hne]

theorem statedEnabled_iff {value : Option String} :
    statedEnabled host value = true ↔ ∀ text ∈ value, host.lower text = "true" := by
  cases value <;> simp [statedEnabled]

section
variable {tenant : String}

theorem policyEntryStated_eq_iff {p : String × List String} :
    loadedPolicy host tenant p.1 p.2 = policyEntryStated host tenant p.1 p.2 ↔
      ∀ text ∈ valueOf host (.policyPatterns p.1 tenant), host.loads text = some (.arr []) := by
  rw [← statedPatterns_eq_nil_iff]
  simp [loadedPolicy, policyEntryStated, strs]

theorem customEntryStated_eq_iff {name : String} :
    loadedEntry = customEntryStated host tenant name ↔
      (∀ text ∈ valueOf host (.customPatterns tenant name), host.loads text = some (.arr [])) ∧
        ∀ text ∈ valueOf host (.customEnabled tenant name), host.lower text = "true" := by
  rw [← statedPatterns_eq_nil_iff, ← statedEnabled_iff]
  simp only [loadedEntry, customEntryStated, ActiveDetector.mk.injEq, Json.bool.injEq,
    Json.arr.injEq, and_true]
  rw [and_comm, eq_comm, @eq_comm _ true]

/-- A loaded table has what is stated exactly if the variables state nothing but switches. -/
theorem hasWhatIsStated_iff {adapter : TelegramAdapter rt}
    (h : LoadedTable host tenant adapter.activeDetectors) :
    HasWhatIsStated host tenant adapter ↔ StatesSwitchesOnly host tenant := by
  constructor
  · intro hstated
    have hcustom : ∀ name, StatesCustom host tenant name →
        StatesFirstPart host tenant name ∧ loadedEntry = customEntryStated host tenant name := by
      intro name hname
      obtain ⟨hget, htier⟩ := (hstated.customs name _).mpr ⟨hname, rfl⟩
      rcases h.others name _ hget with ⟨hfirst, hentry⟩ | ⟨p, -, hentry⟩ | ⟨p, -, hentry⟩
      · exact ⟨hfirst, hentry.symm⟩
      · rw [hentry] at htier
        cases htier
      · rw [hentry] at htier
        cases htier
    refine ⟨?_, ?_, ?_, ?_⟩
    · intro p hp
      apply policyEntryStated_eq_iff.mp
      have hboth := hstated.policies p hp
      rw [h.policies p hp, Option.some.injEq] at hboth
      exact hboth
    · intro name hname
      obtain ⟨⟨full, -, rfl⟩, -⟩ := hcustom name hname
      exact underscore_notMem_firstPart full
    · intro name text htext
      have hname : StatesCustom host tenant name := .inl (Option.isSome_of_mem htext)
      exact (customEntryStated_eq_iff.mp (hcustom name hname).2).1 text htext
    · intro name text htext
      have hname : StatesCustom host tenant name := .inr (Option.isSome_of_mem htext)
      exact (customEntryStated_eq_iff.mp (hcustom name hname).2).2 text htext
  · intro honly
    have hentry : ∀ name, loadedEntry = customEntryStated host tenant name := fun name =>
      customEntryStated_eq_iff.mpr ⟨honly.customPatterns name, honly.customEnabled name⟩
    refine ⟨?_, ?_⟩
    · intro p hp
      rw [h.policies p hp, policyEntryStated_eq_iff.mpr (honly.policyPatterns p hp)]
    · intro name entry
      constructor
      · rintro ⟨hget, htier⟩
        rcases h.others name entry hget with ⟨⟨full, hfull, rfl⟩, rfl⟩ | ⟨p, -, rfl⟩ | ⟨p, -, rfl⟩
        · rw [firstPart_eq_iff.mpr (honly.customNames full hfull)]
          exact ⟨hfull, hentry full⟩
        · cases htier
        · cases htier
      · rintro ⟨hname, rfl⟩
        have hfirst := firstPart_eq_iff.mpr (honly.customNames name hname)
        rw [h.customs name ⟨name, hname, hfirst⟩, hentry name]
        exact ⟨rfl, rfl⟩

end

/-- **Tenant environments.** Over documented variables the adapter of a tenant has what they
state if and only if they state no pattern, switch no custom detector off, and name none with
an underscore. -/
theorem tenant_environment_iff (hcompiles : CompilesBuiltins rt)
    (hlower : KeepsUnderscores host.lower) (h : DocumentedEnvironment host tenants)
    (htenant : host.upper tenantId ∈ tenants) :
    (∃ adapter, buildAdapter rt (loadTenantConfig host tenantId) = .ok adapter ∧
        HasWhatIsStated host (host.upper tenantId) adapter) ↔
      StatesSwitchesOnly host (host.upper tenantId) := by
  obtain ⟨adapter, hadapter, htable⟩ := exists_loadedAdapter hcompiles hlower h htenant
  rw [← hasWhatIsStated_iff htable]
  constructor
  · rintro ⟨adapter', hadapter', hstated⟩
    rw [hadapter, Except.ok.injEq] at hadapter'
    rw [hadapter']
    exact hstated
  · intro hstated
    exact ⟨adapter, hadapter, hstated⟩

end

/-! ## Two tenants -/

/-- A machine of ASCII texts, and one array of patterns that it decodes. -/
def asciiEnvironment (given : List (String × String)) : ConfigHost where
  environ := Dict.empty.update given
  upper := fun text => String.ofList (text.toList.map Char.toUpper)
  lower := fun text => String.ofList (text.toList.map Char.toLower)
  parseFloat := fun _ => none
  loads := fun text =>
    if text = "[\"company.*secrets\"]" then some (.arr [.str "company.*secrets"]) else none
  toDict := fun _ => .error "object is not iterable"

theorem ascii_keepsUnderscores (given : List (String × String)) :
    KeepsUnderscores (asciiEnvironment given).lower := by
  intro text htext
  have hlower : Char.toLower '_' = '_' := by decide
  rw [asciiEnvironment, String.toList_ofList, List.mem_map]
  exact ⟨'_', htext, hlower⟩

theorem textPatterns_compilesBuiltins : CompilesBuiltins textPatterns := by
  intro p hp
  have hlast : (String.intercalate "|" p.2).toList.getLast? ≠ some '(' := by
    revert p
    decide +kernel
  exact ⟨_, if_neg hlast⟩

def documentedTenants : Set String := {"CLIENT1", "ENTERPRISE"}

theorem documentedTenants_apart : ∀ a ∈ documentedTenants, ∀ b ∈ documentedTenants,
    ¬ (a ++ "_").toList <+: b.toList := by
  intro a ha b hb
  rcases ha with rfl | rfl <;> rcases hb with rfl | rfl <;> decide

def brandEnabled : TenantVariable := .customEnabled "ENTERPRISE" "BRAND_PROTECTION"

def brandPatterns : TenantVariable := .customPatterns "ENTERPRISE" "BRAND_PROTECTION"

/-- One tenant switches copyright detection off, the other one brands its detector. -/
def documentedVariables : List (String × String) :=
  [("DETECTOR_COPYRIGHT_VIOLATION_ENABLED_CLIENT1", "false"),
    ("CUSTOM_DETECTOR_ENTERPRISE_BRAND_PROTECTION_PATTERNS", "[\"company.*secrets\"]"),
    ("CUSTOM_DETECTOR_ENTERPRISE_BRAND_PROTECTION_ENABLED", "true")]

theorem documentedVariables_documented :
    DocumentedEnvironment (asciiEnvironment documentedVariables) documentedTenants := by
  refine ⟨?_, documentedTenants_apart⟩
  have hkeys : (asciiEnvironment documentedVariables).environ.keys =
      documentedVariables.map Prod.fst := by decide
  rw [hkeys]
  intro key hkey
  simp only [documentedVariables, List.map_cons, List.map_nil, List.mem_cons, List.not_mem_nil,
    or_false] at hkey
  rcases hkey with rfl | rfl | rfl
  · exact ⟨.policyEnabled "copyright_violation" "CLIENT1", .inl rfl, by decide⟩
  · exact ⟨brandPatterns, .inr rfl, by decide⟩
  · exact ⟨brandEnabled, .inr rfl, by decide⟩

theorem client_upper : (asciiEnvironment documentedVariables).upper "client1" = "CLIENT1" := by
  decide

theorem enterprise_upper :
    (asciiEnvironment documentedVariables).upper "enterprise" = "ENTERPRISE" := by
  decide

theorem tenant_environment_client :
    (∃ adapter, buildAdapter textPatterns
          (loadTenantConfig (asciiEnvironment documentedVariables) "client1") = .ok adapter ∧
        HasWhatIsStated (asciiEnvironment documentedVariables)
          ((asciiEnvironment documentedVariables).upper "client1") adapter) ↔
      StatesSwitchesOnly (asciiEnvironment documentedVariables)
        ((asciiEnvironment documentedVariables).upper "client1") :=
  tenant_environment_iff textPatterns_compilesBuiltins (ascii_keepsUnderscores _)
    documentedVariables_documented (by rw [client_upper]; exact .inl rfl)

/-- The documented custom detector is not loaded. -/
theorem brand_detector_unread :
    ¬ ∀ (rt : TextRuntime) (host : ConfigHost) (tenants : Set String) (tenantId : String),
      CompilesBuiltins rt → KeepsUnderscores host.lower → DocumentedEnvironment host tenants →
        host.upper tenantId ∈ tenants →
          ∃ adapter, buildAdapter rt (loadTenantConfig host tenantId) = .ok adapter ∧
            HasWhatIsStated host (host.upper tenantId) adapter := by
  intro h
  have htenant : (asciiEnvironment documentedVariables).upper "enterprise" ∈ documentedTenants := by
    rw [enterprise_upper]
    exact .inr rfl
  obtain ⟨adapter, hadapter, hstated⟩ := h textPatterns (asciiEnvironment documentedVariables)
    documentedTenants "enterprise" textPatterns_compilesBuiltins (ascii_keepsUnderscores _)
    documentedVariables_documented htenant
  obtain ⟨adapter', hadapter', htable⟩ := exists_loadedAdapter textPatterns_compilesBuiltins
    (ascii_keepsUnderscores _) documentedVariables_documented htenant
  rw [hadapter, Except.ok.injEq] at hadapter'
  rw [← hadapter'] at htable
  have honly := (hasWhatIsStated_iff htable).mp hstated
  rw [enterprise_upper] at honly
  have hbrand : StatesCustom (asciiEnvironment documentedVariables) "ENTERPRISE"
      "BRAND_PROTECTION" := by
    left
    decide
  exact honly.customNames "BRAND_PROTECTION" hbrand (by decide)

end TruePresenceESE.Telegram
