import TruePresenceESE.Lib.Fallible
import TruePresenceESE.Lib.JsonDict
import TruePresenceESE.Telegram.Detectors

/-! # Tenant configurations of the service

Configuration, adapter and guard adapter of a tenant stand in three tables. They are
filled from the environment on first use and replaced one after the other by an update.
-/

namespace TruePresenceESE.Telegram

open PyValue JsonDict

/-! ## Loading from the environment -/

/-- What loading and converting a configuration read from outside. -/
structure ConfigHost where
  environ : Dict String String
  upper : String → String
  lower : String → String
  parseFloat : String → Option ℚ
  loads : String → Option Json
  /-- `dict(value)` where the value is no mapping. -/
  toDict : Json → Except String JsonDict

def configurableDetectors : List String :=
  ["copyright_violation", "torrent_sharing", "crypto_mining", "remote_access"]

def defaultThresholds : JsonDict :=
  ofFields [("ban", .num 0.8), ("kick", .num 0.6), ("review", .num 0.4)]

/-- The part of a key behind its first underscores. -/
def afterUnderscores : Nat → List Char → List Char
  | 0, chars => chars
  | count + 1, chars => afterUnderscores count ((chars.dropWhile (· ≠ '_')).drop 1)

section
variable (host : ConfigHost) (tenantId : String)

def loadDetectors : JsonDict :=
  configurableDetectors.foldl
    (fun detectors detector =>
      match host.environ.get? ("DETECTOR_" ++ host.upper detector ++ "_ENABLED_" ++
          host.upper tenantId) with
      | some value =>
          detectors.set detector (.obj [("enabled", .bool (host.lower value = "true"))])
      | none => detectors)
    Dict.empty

/-- One variable of a custom detector; its patterns may be written as JSON. -/
def customProperty (key value : String) : String × Json :=
  let prop := host.lower (String.ofList (afterUnderscores 3 key.toList))
  if prop = "patterns" then (prop, (host.loads value).getD (.arr [.str value]))
  else (prop, .str value)

def loadCustomDetectors : Dict String JsonDict :=
  let start := ("CUSTOM_DETECTOR_" ++ host.upper tenantId ++ "_").toList
  host.environ.items.foldl
    (fun detectors (key, value) =>
      if start.isPrefixOf key.toList then
        let name := String.ofList ((key.toList.drop start.length).takeWhile (· ≠ '_'))
        let property := customProperty host key value
        detectors.set name (((detectors.get? name).getD Dict.empty).set property.1 property.2)
      else detectors)
    Dict.empty

def loadThresholds : JsonDict :=
  ["ban", "kick", "review"].foldl
    (fun thresholds threshold =>
      match (host.environ.get? ("THRESHOLD_" ++ host.upper threshold ++ "_" ++
          host.upper tenantId)).bind host.parseFloat with
      | some value => thresholds.set threshold (.num value)
      | none => thresholds)
    defaultThresholds

def loadTenantConfig : TenantConfig where
  detectors := loadDetectors host tenantId
  customDetectors := (loadCustomDetectors host tenantId).items.foldl
    (fun d p => d.set p.1 p.2.toJson) Dict.empty
  responseThresholds := loadThresholds host tenantId

end

/-! ## The three tables -/

section Runtime
variable (rt : TextRuntime)

/-- A guard adapter is kept as the adapter it answers through. -/
structure Tenants where
  configs : Dict String TenantConfig
  adapters : Dict String (TelegramAdapter rt)
  guardAdapters : Dict String (TelegramAdapter rt)

end Runtime

variable {rt : TextRuntime}

namespace Tenants

def setConfig (s : Tenants rt) (tenantId : String) (config : TenantConfig) : Tenants rt :=
  { s with configs := s.configs.set tenantId config }

def setAdapter (s : Tenants rt) (tenantId : String) (adapter : TelegramAdapter rt) : Tenants rt :=
  { s with
    adapters := s.adapters.set tenantId adapter
    guardAdapters := s.guardAdapters.set tenantId adapter }

end Tenants

/-- The configuration of a tenant, loaded where there is none yet. -/
def configOf (host : ConfigHost) (s : Tenants rt) (tenantId : String) : TenantConfig :=
  (s.configs.get? tenantId).getD (loadTenantConfig host tenantId)

def ensureTenant (host : ConfigHost) (s : Tenants rt) (tenantId : String) :
    Except String Unit × Tenants rt :=
  let config := configOf host s tenantId
  let loaded := if (s.configs.get? tenantId).isSome then s else s.setConfig tenantId config
  if (s.adapters.get? tenantId).isSome then (.ok (), loaded)
  else
    match buildAdapter rt config with
    | .ok adapter => (.ok (), loaded.setAdapter tenantId adapter)
    | .error e => (.error e, loaded)

/-- `dict(config.get(key) or {})` -/
def sectionOf (host : ConfigHost) (config : JsonDict) (key : String) : Except String JsonDict :=
  let value := config.get key
  if PyValue.truthy value then
    match value with
    | .obj fields => .ok (ofFields fields)
    | other => host.toDict other
  else .ok Dict.empty

def normalizedConfig (host : ConfigHost) (current : TenantConfig) (config : JsonDict) :
    Except String TenantConfig := do
  let detectors ← sectionOf host config "detectors"
  let customDetectors ← sectionOf host config "custom_detectors"
  let responseThresholds ← sectionOf host config "response_thresholds"
  return ⟨detectors, customDetectors, current.responseThresholds.update responseThresholds.items⟩

/-- The configuration is stored before its adapter is built. -/
def updateTenantConfig (host : ConfigHost) (s : Tenants rt) (tenantId : String)
    (config : JsonDict) : Except String TenantConfig × Tenants rt :=
  match ensureTenant host s tenantId with
  | (.error e, ensured) => (.error e, ensured)
  | (.ok _, ensured) =>
      match normalizedConfig host (configOf host ensured tenantId) config with
      | .error e => (.error e, ensured)
      | .ok normalized =>
          let stored := ensured.setConfig tenantId normalized
          match buildAdapter rt normalized with
          | .error e => (.error e, stored)
          | .ok adapter => (.ok normalized, stored.setAdapter tenantId adapter)

/-- A new service has its own tenant only; it comes about where the adapter builds. -/
def newTenants (host : ConfigHost) (tenantId : String) : Except String (Tenants rt) := do
  let config := loadTenantConfig host tenantId
  let adapter ← buildAdapter rt config
  return ⟨Dict.empty.set tenantId config, Dict.empty.set tenantId adapter,
    Dict.empty.set tenantId adapter⟩

/-! ## Consistency -/

/-- What the three tables hold for a tenant. -/
def Tenants.entries (s : Tenants rt) (tenantId : String) :
    Option TenantConfig × Option (TelegramAdapter rt) × Option (TelegramAdapter rt) :=
  (s.configs.get? tenantId, s.adapters.get? tenantId, s.guardAdapters.get? tenantId)

def Builds (rt : TextRuntime) (config : TenantConfig) : Prop :=
  ∃ adapter, buildAdapter rt config = .ok adapter

/-- Nothing, or a configuration with the adapter that is built from it. -/
def EntryConsistent (rt : TextRuntime)
    (entry : Option TenantConfig × Option (TelegramAdapter rt) × Option (TelegramAdapter rt)) :
    Prop :=
  entry = (none, none, none) ∨
    ∃ config adapter, buildAdapter rt config = .ok adapter ∧
      entry = (some config, some adapter, some adapter)

def Consistent (s : Tenants rt) : Prop := ∀ tenantId, EntryConsistent rt (s.entries tenantId)

/-- The tenant has an adapter, or the one for its configuration can be built. -/
def Loads (host : ConfigHost) (s : Tenants rt) (tenantId : String) : Prop :=
  (s.adapters.get? tenantId).isSome ∨ Builds rt (configOf host s tenantId)

section
variable {host : ConfigHost} {s : Tenants rt} {tenantId other : String} {config : TenantConfig}
  {adapter : TelegramAdapter rt} {given : JsonDict}

theorem entries_setConfig : (s.setConfig tenantId config).entries other =
    if tenantId = other then (some config, (s.entries other).2) else s.entries other := by
  unfold Tenants.entries Tenants.setConfig
  rw [Dict.get?_set]
  split <;> rfl

theorem entries_setAdapter : (s.setAdapter tenantId adapter).entries other =
    if tenantId = other then ((s.entries other).1, some adapter, some adapter)
    else s.entries other := by
  unfold Tenants.entries Tenants.setAdapter
  rw [Dict.get?_set, Dict.get?_set]
  split <;> rfl

/-- Other tenants' entries stay as they are. -/
theorem ensureTenant_entries_ne (h : tenantId ≠ other) :
    (ensureTenant host s tenantId).2.entries other = s.entries other := by
  have hloaded : (if (s.configs.get? tenantId).isSome then s
      else s.setConfig tenantId (configOf host s tenantId)).entries other = s.entries other := by
    split
    · rfl
    · rw [entries_setConfig, if_neg h]
  unfold ensureTenant
  dsimp only
  split
  · exact hloaded
  · split
    · rw [entries_setAdapter, if_neg h]
      exact hloaded
    · exact hloaded

/-- What a call does for a tenant depends on the entries of that tenant. -/
theorem ensureTenant_congr {s' : Tenants rt} (h : s.entries tenantId = s'.entries tenantId) :
    (ensureTenant host s tenantId).1 = (ensureTenant host s' tenantId).1 ∧
      (ensureTenant host s tenantId).2.entries tenantId =
        (ensureTenant host s' tenantId).2.entries tenantId := by
  have hentries := h
  simp only [Tenants.entries, Prod.mk.injEq] at h
  obtain ⟨hconfig, hadapter, -⟩ := h
  have hof : configOf host s tenantId = configOf host s' tenantId := by
    rw [configOf, configOf, hconfig]
  have hloaded : (if (s.configs.get? tenantId).isSome then s
      else s.setConfig tenantId (configOf host s tenantId)).entries tenantId =
        (if (s'.configs.get? tenantId).isSome then s'
          else s'.setConfig tenantId (configOf host s' tenantId)).entries tenantId := by
    rw [hconfig, hof]
    split
    · exact hentries
    · rw [entries_setConfig, entries_setConfig, if_pos rfl, if_pos rfl, hentries]
  unfold ensureTenant
  dsimp only
  rw [hadapter, hof] at *
  split
  · exact ⟨rfl, hloaded⟩
  · split
    · refine ⟨rfl, ?_⟩
      rw [entries_setAdapter, entries_setAdapter, if_pos rfl, if_pos rfl, hloaded]
    · exact ⟨rfl, hloaded⟩

/-- Storing a configuration with the adapter built from it. -/
theorem Consistent.store (hs : Consistent s) (hbuilt : buildAdapter rt config = .ok adapter) :
    Consistent ((s.setConfig tenantId config).setAdapter tenantId adapter) := by
  intro other
  rw [entries_setAdapter, entries_setConfig]
  split
  · exact .inr ⟨config, adapter, hbuilt, rfl⟩
  · exact hs other

/-- In a consistent state a tenant is loaded or absent altogether. -/
theorem Consistent.cases (hs : Consistent s) (tenantId : String) :
    s.entries tenantId = (none, none, none) ∨
      ∃ config adapter, buildAdapter rt config = .ok adapter ∧
        s.configs.get? tenantId = some config ∧ s.adapters.get? tenantId = some adapter ∧
        s.guardAdapters.get? tenantId = some adapter := by
  rcases hs tenantId with hnone | ⟨config, adapter, hbuilt, hentry⟩
  · exact .inl hnone
  · simp only [Tenants.entries, Prod.mk.injEq] at hentry
    exact .inr ⟨config, adapter, hbuilt, hentry⟩

theorem ensureTenant_loaded (hs : Consistent s) (hadapter : (s.adapters.get? tenantId).isSome) :
    ensureTenant host s tenantId = (.ok (), s) := by
  rcases hs.cases tenantId with hnone | ⟨config, adapter, -, hconfig, -, -⟩
  · simp only [Tenants.entries, Prod.mk.injEq] at hnone
    rw [hnone.2.1] at hadapter
    cases hadapter
  · unfold ensureTenant
    simp only [hconfig, hadapter, Option.isSome_some, if_true]

/-- A tenant that is absent gets its loaded configuration, whether or not it builds. -/
theorem ensureTenant_absent (hnone : s.entries tenantId = (none, none, none)) :
    ensureTenant host s tenantId =
      match buildAdapter rt (configOf host s tenantId) with
      | .ok adapter =>
          (.ok (), (s.setConfig tenantId (configOf host s tenantId)).setAdapter tenantId adapter)
      | .error e => (.error e, s.setConfig tenantId (configOf host s tenantId)) := by
  simp only [Tenants.entries, Prod.mk.injEq] at hnone
  unfold ensureTenant
  rw [hnone.1, hnone.2.1]
  rfl

theorem ensureTenant_ok (hs : Consistent s) (hloads : Loads host s tenantId) :
    (ensureTenant host s tenantId).1 = .ok () ∧
      Consistent (ensureTenant host s tenantId).2 ∧
      configOf host (ensureTenant host s tenantId).2 tenantId = configOf host s tenantId ∧
      ((ensureTenant host s tenantId).2.adapters.get? tenantId).isSome := by
  by_cases hadapter : (s.adapters.get? tenantId).isSome
  · rw [ensureTenant_loaded hs hadapter]
    exact ⟨rfl, hs, rfl, hadapter⟩
  · obtain ⟨adapter, hbuilt⟩ := hloads.resolve_left hadapter
    rcases hs.cases tenantId with hnone | ⟨_, _, -, -, hsome, -⟩
    · rw [ensureTenant_absent hnone, hbuilt]
      refine ⟨rfl, hs.store hbuilt, ?_, by simp [Tenants.setAdapter]⟩
      rw [configOf]
      simp [Tenants.setAdapter, Tenants.setConfig]
    · exact absurd (by rw [hsome]; rfl) hadapter

/-- An update that converts stores a configuration that is built or not. -/
theorem updateTenantConfig_ok (hs : Consistent s) (hloads : Loads host s tenantId)
    {normalized : TenantConfig}
    (hnormalized : normalizedConfig host (configOf host s tenantId) given = .ok normalized)
    (hbuilds : Builds rt normalized) : Consistent (updateTenantConfig host s tenantId given).2 := by
  obtain ⟨hok, hensured, hconfig, -⟩ := ensureTenant_ok hs hloads
  obtain ⟨adapter, hbuilt⟩ := hbuilds
  cases hensure : ensureTenant host s tenantId with
  | mk result ensured =>
      rw [hensure] at hok hensured hconfig
      dsimp only at hok hensured hconfig
      subst hok
      unfold updateTenantConfig
      rw [hensure]
      simp only [hconfig, hnormalized, hbuilt]
      exact hensured.store hbuilt

theorem updateTenantConfig_unconverted (hs : Consistent s) (hloads : Loads host s tenantId)
    {e : String} (hnormalized : normalizedConfig host (configOf host s tenantId) given = .error e) :
    updateTenantConfig host s tenantId given = (.error e, (ensureTenant host s tenantId).2) := by
  obtain ⟨hok, -, hconfig, -⟩ := ensureTenant_ok hs hloads
  cases hensure : ensureTenant host s tenantId with
  | mk result ensured =>
      rw [hensure] at hok hconfig
      dsimp only at hok hconfig
      subst hok
      unfold updateTenantConfig
      rw [hensure]
      simp only [hconfig, hnormalized]

theorem ensureTenant_config_isSome :
    ((ensureTenant host s tenantId).2.configs.get? tenantId).isSome := by
  have hloaded : ((if (s.configs.get? tenantId).isSome then s
      else s.setConfig tenantId (configOf host s tenantId)).configs.get? tenantId).isSome := by
    split
    · assumption
    · simp [Tenants.setConfig]
  unfold ensureTenant
  dsimp only
  split
  · exact hloaded
  · split
    · exact hloaded
    · exact hloaded

/-- Any update leaves a configuration behind. -/
theorem updateTenantConfig_config_isSome :
    ((updateTenantConfig host s tenantId given).2.configs.get? tenantId).isSome := by
  have hensured := @ensureTenant_config_isSome _ host s tenantId
  unfold updateTenantConfig
  split
  · rename_i hensure
    rw [hensure] at hensured
    exact hensured
  · rename_i hensure
    rw [hensure] at hensured
    split
    · exact hensured
    · dsimp only
      split <;> simp [Tenants.setConfig, Tenants.setAdapter]

theorem updateTenantConfig_entries_ne (h : tenantId ≠ other) :
    (updateTenantConfig host s tenantId given).2.entries other = s.entries other := by
  have hensured := @ensureTenant_entries_ne _ host s tenantId other h
  unfold updateTenantConfig
  split
  · rename_i hensure
    rw [hensure] at hensured
    exact hensured
  · rename_i hensure
    rw [hensure] at hensured
    split
    · exact hensured
    · dsimp only
      split
      · rw [entries_setConfig, if_neg h]
        exact hensured
      · rw [entries_setAdapter, if_neg h, entries_setConfig, if_neg h]
        exact hensured

theorem updateTenantConfig_congr {s' : Tenants rt} (h : s.entries tenantId = s'.entries tenantId) :
    (updateTenantConfig host s tenantId given).1 = (updateTenantConfig host s' tenantId given).1 ∧
      (updateTenantConfig host s tenantId given).2.entries tenantId =
        (updateTenantConfig host s' tenantId given).2.entries tenantId := by
  obtain ⟨hresult, hentries⟩ := @ensureTenant_congr _ host _ _ _ h
  unfold updateTenantConfig
  cases hs : ensureTenant host s tenantId with
  | mk result ensured =>
      cases hs' : ensureTenant host s' tenantId with
      | mk result' ensured' =>
          rw [hs, hs'] at hresult hentries
          dsimp only at hresult hentries
          subst hresult
          have hget : ensured.configs.get? tenantId = ensured'.configs.get? tenantId :=
            congrArg Prod.fst hentries
          have hconfig : configOf host ensured tenantId = configOf host ensured' tenantId := by
            rw [configOf, configOf, hget]
          cases result with
          | error e => exact ⟨rfl, hentries⟩
          | ok _ =>
              dsimp only
              rw [hconfig]
              split
              · exact ⟨rfl, hentries⟩
              · split
                · refine ⟨rfl, ?_⟩
                  rw [entries_setConfig, entries_setConfig, if_pos rfl, if_pos rfl, hentries]
                · refine ⟨rfl, ?_⟩
                  rw [entries_setAdapter, entries_setAdapter, if_pos rfl, if_pos rfl,
                    entries_setConfig, entries_setConfig, if_pos rfl, if_pos rfl]

/-- A rejected update changes nothing exactly where the tenant was loaded and a section
could not be converted. -/
theorem updateTenantConfig_atomic_iff (hs : Consistent s) {e : String}
    (h : (updateTenantConfig host s tenantId given).1 = .error e) :
    (updateTenantConfig host s tenantId given).2.entries tenantId = s.entries tenantId ↔
      (s.adapters.get? tenantId).isSome ∧
        ∃ e, normalizedConfig host (configOf host s tenantId) given = .error e := by
  rcases hs.cases tenantId with hnone | ⟨config, adapter, hbuilt, hconfig, hadapter, hguard⟩
  · have hsome := @updateTenantConfig_config_isSome _ host s tenantId given
    rw [hnone]
    simp only [Tenants.entries, Prod.mk.injEq] at hnone ⊢
    rw [hnone.2.1]
    refine ⟨fun heq => ?_, fun hloaded => ?_⟩
    · rw [heq.1] at hsome
      cases hsome
    · cases hloaded.1
  · have hloaded : (s.adapters.get? tenantId).isSome := by rw [hadapter]; rfl
    cases hnormalized : normalizedConfig host (configOf host s tenantId) given with
    | error e' =>
        rw [updateTenantConfig_unconverted hs (.inl hloaded) hnormalized,
          ensureTenant_loaded hs hloaded]
        exact ⟨fun _ => ⟨hloaded, e', rfl⟩, fun _ => rfl⟩
    | ok normalized =>
        refine ⟨fun heq => ?_, fun hloaded => by obtain ⟨-, e', he⟩ := hloaded; cases he⟩
        unfold updateTenantConfig at h heq
        rw [ensureTenant_loaded hs hloaded] at h heq
        simp only [hnormalized] at h heq
        cases hbuild : buildAdapter rt normalized with
        | ok replaced =>
            rw [hbuild] at h
            cases h
        | error e' =>
            rw [hbuild] at heq
            dsimp only at heq
            rw [entries_setConfig, if_pos rfl, Tenants.entries, hconfig] at heq
            cases heq
            rw [hbuilt] at hbuild
            cases hbuild

end

/-! ## Runs -/

inductive TenantOp where
  | ensure (tenantId : String)
  | update (tenantId : String) (config : JsonDict)

def applyOp (host : ConfigHost) (s : Tenants rt) : TenantOp → Tenants rt
  | .ensure tenantId => (ensureTenant host s tenantId).2
  | .update tenantId config => (updateTenantConfig host s tenantId config).2

/-- Every configuration that the call reaches for an adapter with is one that builds. -/
def OpBuilds (host : ConfigHost) (s : Tenants rt) : TenantOp → Prop
  | .ensure tenantId => Loads host s tenantId
  | .update tenantId config => Loads host s tenantId ∧
      ∀ normalized, normalizedConfig host (configOf host s tenantId) config = .ok normalized →
        Builds rt normalized

/-- The states of a service whose calls all meet the condition. -/
inductive BuildingRun (rt : TextRuntime) : Tenants rt → Prop where
  | start {host : ConfigHost} {tenantId : String} {s : Tenants rt}
      (h : newTenants host tenantId = .ok s) : BuildingRun rt s
  | step {s : Tenants rt} (host : ConfigHost) (op : TenantOp) (hs : BuildingRun rt s)
      (hbuilds : OpBuilds host s op) : BuildingRun rt (applyOp host s op)

theorem newTenants_consistent {host : ConfigHost} {tenantId : String} {s : Tenants rt}
    (h : newTenants host tenantId = .ok s) : Consistent s := by
  obtain ⟨adapter, hbuilt, h⟩ := Fallible.bind_eq_ok_iff.mp h
  cases h
  intro other
  simp only [Tenants.entries, Dict.get?_set]
  split
  · exact .inr ⟨_, adapter, hbuilt, rfl⟩
  · exact .inl rfl

theorem applyOp_consistent {host : ConfigHost} {s : Tenants rt} {op : TenantOp}
    (hs : Consistent s) (hbuilds : OpBuilds host s op) : Consistent (applyOp host s op) := by
  cases op with
  | ensure tenantId => exact (ensureTenant_ok hs hbuilds).2.1
  | update tenantId config =>
      obtain ⟨hloads, hbuilds⟩ := hbuilds
      cases hnormalized : normalizedConfig host (configOf host s tenantId) config with
      | ok normalized => exact updateTenantConfig_ok hs hloads hnormalized (hbuilds _ hnormalized)
      | error e =>
          rw [applyOp, updateTenantConfig_unconverted hs hloads hnormalized]
          exact (ensureTenant_ok hs hloads).2.1

theorem BuildingRun.consistent {s : Tenants rt} (h : BuildingRun rt s) : Consistent s := by
  induction h with
  | start h => exact newTenants_consistent h
  | step host op _ hbuilds ih => exact applyOp_consistent ih hbuilds

/-- Along such a run every tenant's adapter is the one built from its configuration, and
a rejected update leaves a loaded tenant as it was just where a section did not convert. -/
theorem configuration_updates_atomic {s : Tenants rt} (h : BuildingRun rt s) :
    Consistent s ∧ ∀ host tenantId given e,
      (updateTenantConfig host s tenantId given).1 = .error e →
        ((updateTenantConfig host s tenantId given).2.entries tenantId = s.entries tenantId ↔
          (s.adapters.get? tenantId).isSome ∧
            ∃ e, normalizedConfig host (configOf host s tenantId) given = .error e) :=
  ⟨h.consistent, fun _ _ _ _ herror => updateTenantConfig_atomic_iff h.consistent herror⟩

/-! ## An unterminated pattern -/

/-- Patterns are kept as texts; an open bracket at the end does not compile. -/
def textPatterns : TextRuntime where
  Pattern := String
  Match := String
  lower := id
  compile := fun pattern =>
    if pattern.toList.getLast? = some '(' then .error "missing ), unterminated subpattern"
    else .ok pattern
  findall := fun _ _ => []

def emptyEnvironment : ConfigHost where
  environ := Dict.empty
  upper := id
  lower := id
  parseFloat := fun _ => none
  loads := fun _ => none
  toDict := fun _ => .error "object is not iterable"

def unterminatedConfig : JsonDict :=
  ofFields [("detectors", .obj [("copyright_violation", .obj [("patterns", .arr [.str "("])])])]

def afterUnterminated (s : Tenants textPatterns) : Except String TenantConfig × Tenants textPatterns :=
  updateTenantConfig emptyEnvironment s "default" unterminatedConfig

/-- The update that fails is the configuration from then on, and no adapter can be built
for it. -/
def keepsUnterminated (s : Tenants textPatterns) : Bool :=
  !(afterUnterminated s).1.isOk &&
    ((s.configs.get? "default").map fun config => config.detectors.size) == some 0 &&
    (((afterUnterminated s).2.configs.get? "default").map fun config =>
      config.detectors.size) == some 1 &&
    (((afterUnterminated s).2.configs.get? "default").map fun config =>
      (buildAdapter textPatterns config).isOk) == some false

theorem newTenants_keepsUnterminated :
    ∃ s : Tenants textPatterns, newTenants emptyEnvironment "default" = .ok s ∧
      keepsUnterminated s = true := by
  have hrun : (newTenants emptyEnvironment "default" : Except String
      (Tenants textPatterns)).toOption.any keepsUnterminated = true := by
    decide +kernel
  obtain ⟨s, hs, hkeeps⟩ := (Option.any_eq_true _ _).mp hrun
  exact ⟨s, Fallible.toOption_eq_some_iff.mp hs, hkeeps⟩

theorem configuration_updates_atomic_fresh :
    ∃ s : Tenants textPatterns, newTenants emptyEnvironment "default" = .ok s ∧ Consistent s ∧
      ∀ host tenantId given e, (updateTenantConfig host s tenantId given).1 = .error e →
        ((updateTenantConfig host s tenantId given).2.entries tenantId = s.entries tenantId ↔
          (s.adapters.get? tenantId).isSome ∧
            ∃ e, normalizedConfig host (configOf host s tenantId) given = .error e) := by
  obtain ⟨s, hs, -⟩ := newTenants_keepsUnterminated
  exact ⟨s, hs, configuration_updates_atomic (.start hs)⟩

/-- The update is rejected, and the service reports it all the same. -/
theorem rejected_update_reported :
    ∃ s : Tenants textPatterns, newTenants emptyEnvironment "default" = .ok s ∧
      (∃ e, (afterUnterminated s).1 = .error e) ∧
      (afterUnterminated s).2.entries "default" ≠ s.entries "default" ∧
      ¬ Consistent (afterUnterminated s).2 := by
  obtain ⟨s, hs, hkeeps⟩ := newTenants_keepsUnterminated
  simp only [keepsUnterminated, Bool.and_eq_true, beq_iff_eq, Bool.not_eq_true'] at hkeeps
  obtain ⟨⟨⟨hraises, hbefore⟩, hafter⟩, hbuild⟩ := hkeeps
  refine ⟨s, hs, ?_, ?_, ?_⟩
  · cases hresult : (afterUnterminated s).1 with
    | error e => exact ⟨e, rfl⟩
    | ok config => rw [hresult] at hraises; cases hraises
  · intro heq
    simp only [Tenants.entries, Prod.mk.injEq] at heq
    rw [heq.1, hbefore] at hafter
    cases hafter
  · intro hconsistent
    rcases hconsistent.cases "default" with hnone | ⟨config, adapter, hbuilt, hconfig, -, -⟩
    · simp only [Tenants.entries, Prod.mk.injEq] at hnone
      rw [hnone.1] at hafter
      cases hafter
    · rw [hconfig, Option.map_some, hbuilt] at hbuild
      cases hbuild

end TruePresenceESE.Telegram
