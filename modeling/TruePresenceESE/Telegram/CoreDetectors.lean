import TruePresenceESE.Lib.Fallible
import TruePresenceESE.Telegram.Detectors

/-! # The core detectors under tenant configuration

The core entries are written first, so a custom entry of the same name
replaces one. They stay in force exactly when no tenant entry does so, or only
with an enabled copy of the built-in patterns.
-/

namespace TruePresenceESE.Telegram

/-! ## The table and its compilation -/

theorem core_not_policy {p : String × List String} (h : p ∈ coreDetectors) :
    p.1 ∉ policyDetectors.map Prod.fst := by
  revert p
  decide

theorem core_ne_mirrors {p : String × List String} (h : p ∈ coreDetectors) :
    p.1 ≠ "mirrors_userbots" := by
  revert p
  decide

theorem coreTable_get? {name : String} {patterns : List String}
    (h : (name, patterns) ∈ coreDetectors) :
    coreTable.get? name = some ⟨.bool true, strs patterns, .core⟩ := by
  simp only [coreDetectors, List.mem_cons, List.not_mem_nil, or_false, Prod.mk.injEq] at h
  rcases h with ⟨rfl, rfl⟩ | ⟨rfl, rfl⟩ <;> simp [coreTable, coreDetectors, Dict.get?_set]

/-- A core name carries the built-in entry unless a custom entry replaces it. -/
theorem configureDetectors_get?_core {config : TenantConfig} {table : Dict String ActiveDetector}
    (h : configureDetectors config = .ok table) {name : String} {patterns : List String}
    (hcore : (name, patterns) ∈ coreDetectors) :
    (config.customDetectors.get? name = none ∧
        table.get? name = some ⟨.bool true, strs patterns, .core⟩) ∨
      ∃ entry detector, config.customDetectors.get? name = some entry ∧
        customDetector entry = .ok detector ∧ table.get? name = some detector := by
  obtain ⟨withPolicy, hpolicy, hcustom⟩ := Fallible.bind_eq_ok_iff.mp h
  have hbuiltin : withPolicy.get? name = some ⟨.bool true, strs patterns, .core⟩ := by
    rw [Dict.get?_updateM_of_notMem hpolicy (core_not_policy hcore)]
    exact coreTable_get? hcore
  cases hentry : config.customDetectors.get? name with
  | none =>
      have hnot : name ∉ config.customDetectors.items.map Prod.fst := by
        exact Dict.get?_eq_none_iff.mp hentry
      rw [Dict.get?_updateM_of_notMem hcustom hnot]
      exact .inl ⟨rfl, hbuiltin⟩
  | some entry =>
      obtain ⟨written, hwritten, hread⟩ := Dict.get?_updateM_of_mem config.customDetectors.nodup
        hcustom (Dict.get?_eq_some_iff.mp hentry)
      obtain ⟨detector, hdetector, rfl⟩ := Fallible.map_eq_ok_iff.mp hwritten
      exact .inr ⟨entry, detector, rfl, hdetector, by simpa using hread⟩

variable {rt : TextRuntime}

theorem buildAdapter_eq_ok {config : TenantConfig} {adapter : TelegramAdapter rt}
    (h : buildAdapter rt config = .ok adapter) :
    configureDetectors config = .ok adapter.activeDetectors ∧
      ∀ name entry, adapter.activeDetectors.get? name = some entry →
        compileEntry rt entry = .ok (adapter.compiledPatterns.get? name) := by
  obtain ⟨table, htable, hrest⟩ := Fallible.bind_eq_ok_iff.mp h
  obtain ⟨compiled, hcompiled, hadapter⟩ := Fallible.bind_eq_ok_iff.mp hrest
  cases hadapter
  refine ⟨htable, fun name entry hentry => ?_⟩
  obtain ⟨pattern, hpattern, hread⟩ := Dict.get?_updateM_of_mem table.nodup hcompiled
    (Dict.get?_eq_some_iff.mp hentry)
  rw [hpattern, hread]
  simp

/-! ## Reported threats -/

/-- The detector is enabled, compiled and matches often enough. -/
def Reports (adapter : TelegramAdapter rt) (textLower name : String) (entry : ActiveDetector) :
    Prop :=
  truthy entry.enabled = true ∧ ∃ pattern, adapter.compiledPatterns.get? name = some pattern ∧
    0.5 ≤ matchScore rt (rt.findall pattern textLower)

theorem mem_analyzeDetector_iff {adapter : TelegramAdapter rt} {textLower : String}
    {results : ThreatAnalysis rt} {name threat : String} {entry : ActiveDetector} :
    threat ∈ (analyzeDetector adapter textLower results (name, entry)).threatsDetected ↔
      threat ∈ results.threatsDetected ∨
        threat = name ∧ Reports adapter textLower name entry := by
  unfold analyzeDetector
  cases henabled : truthy entry.enabled with
  | false => simp [Reports, henabled]
  | true =>
      cases hpattern : adapter.compiledPatterns.get? name with
      | none => simp [Reports, hpattern]
      | some pattern =>
          simp only [if_true, Reports, henabled, hpattern, Option.some.injEq, exists_eq_left',
            true_and]
          by_cases hscore : 0.5 ≤ matchScore rt (rt.findall pattern textLower)
          · have hpos : 0 < matchScore rt (rt.findall pattern textLower) :=
              lt_of_lt_of_le (by norm_num) hscore
            cases entry.tier <;> simp [hscore, hpos]
          · cases entry.tier <;> simp [hscore]

theorem mem_analyzeDetectors_iff {adapter : TelegramAdapter rt} {textLower threat : String}
    {items : List (String × ActiveDetector)} {results : ThreatAnalysis rt} :
    threat ∈ (items.foldl (analyzeDetector adapter textLower) results).threatsDetected ↔
      threat ∈ results.threatsDetected ∨
        ∃ entry, (threat, entry) ∈ items ∧ Reports adapter textLower threat entry := by
  induction items generalizing results with
  | nil => simp
  | cons p rest ih =>
      obtain ⟨name, entry⟩ := p
      rw [List.foldl_cons, ih, mem_analyzeDetector_iff, or_assoc]
      refine or_congr_right ⟨?_, ?_⟩
      · rintro (⟨rfl, hreports⟩ | ⟨other, hmem, hreports⟩)
        · exact ⟨entry, List.mem_cons_self, hreports⟩
        · exact ⟨other, List.mem_cons_of_mem _ hmem, hreports⟩
      · rintro ⟨other, hmem, hreports⟩
        rcases List.mem_cons.mp hmem with heq | hrest
        · cases heq
          exact .inl ⟨rfl, hreports⟩
        · exact .inr ⟨other, hrest, hreports⟩

theorem mem_threatsDetected_iff {adapter : TelegramAdapter rt} {text threat : String}
    {contentSimilarity : ℚ} (hthreat : threat ≠ "mirrors_userbots") :
    threat ∈ (analyzeContent adapter text contentSimilarity).threatsDetected ↔
      ∃ entry, adapter.activeDetectors.get? threat = some entry ∧
        Reports adapter (rt.lower text) threat entry := by
  have hfold := @mem_analyzeDetectors_iff rt adapter (rt.lower text) threat
    adapter.activeDetectors.items ⟨[], Dict.empty, Dict.empty⟩
  simp only [List.not_mem_nil, false_or] at hfold
  simp only [Dict.get?_eq_some_iff, ← hfold]
  unfold analyzeContent
  dsimp only
  split
  · simp [hthreat]
  · rfl

/-! ## When the core detectors stay in force -/

/-- The entry a tenant may put under a core name: enabled, with the built-in patterns. -/
def KeepsBuiltin (patterns : List String) (entry : Json) : Prop :=
  truthy ((entry.get? "enabled").getD (.bool true)) = true ∧
    (entry.get? "patterns").getD (.arr []) = strs patterns

/-- No custom entry replaces a core detector by anything else. -/
def CoreIntact (config : TenantConfig) : Prop :=
  ∀ p ∈ coreDetectors, ∀ entry, config.customDetectors.get? p.1 = some entry →
    KeepsBuiltin p.2 entry

/-- Both core detectors are enabled with their built-in patterns. -/
def CoreEnabled (adapter : TelegramAdapter rt) : Prop :=
  ∀ p ∈ coreDetectors, ∃ entry, adapter.activeDetectors.get? p.1 = some entry ∧
    truthy entry.enabled = true ∧ entry.patterns = strs p.2

theorem customDetector_eq_ok {entry : Json} {detector : ActiveDetector}
    (h : customDetector entry = .ok detector) :
    detector.enabled = (entry.get? "enabled").getD (.bool true) ∧
      detector.patterns = (entry.get? "patterns").getD (.arr []) := by
  cases entry with
  | obj fields =>
      cases h
      exact ⟨rfl, rfl⟩
  | _ => simp [customDetector] at h

theorem coreEnabled_iff {config : TenantConfig} {adapter : TelegramAdapter rt}
    (h : buildAdapter rt config = .ok adapter) : CoreEnabled adapter ↔ CoreIntact config := by
  obtain ⟨hconfigure, -⟩ := buildAdapter_eq_ok h
  refine forall₂_congr fun p hp => ?_
  obtain ⟨name, patterns⟩ := p
  rcases configureDetectors_get?_core hconfigure hp with
    ⟨hnone, hbuiltin⟩ | ⟨entry, detector, hentry, hdetector, hread⟩
  · simp [hnone, hbuiltin, truthy]
  · obtain ⟨henabled, hpatterns⟩ := customDetector_eq_ok hdetector
    simp [hentry, hread, KeepsBuiltin, henabled, hpatterns]

/-- An enabled copy of the built-in patterns compiles and matches as the built-in does. -/
theorem coreEnabled_reports {config : TenantConfig} {adapter baseline : TelegramAdapter rt}
    (h : buildAdapter rt config = .ok adapter) (hbaseline : buildAdapter rt emptyConfig = .ok baseline)
    (hcore : CoreEnabled adapter) {p : String × List String} (hp : p ∈ coreDetectors)
    {text : String} {contentSimilarity : ℚ}
    (hreported : p.1 ∈ (analyzeContent baseline text contentSimilarity).threatsDetected) :
    p.1 ∈ (analyzeContent adapter text contentSimilarity).threatsDetected := by
  have hname := core_ne_mirrors hp
  have hbaselineCore : CoreEnabled baseline :=
    (coreEnabled_iff hbaseline).mpr (by simp [CoreIntact, emptyConfig])
  rw [mem_threatsDetected_iff hname] at hreported ⊢
  obtain ⟨builtin, hbuiltin, -, hreports⟩ := hreported
  obtain ⟨entry, hentry, henabled, hpatterns⟩ := hcore p hp
  obtain ⟨builtin', hbuiltin', henabled', hpatterns'⟩ := hbaselineCore p hp
  rw [hbuiltin] at hbuiltin'
  cases hbuiltin'
  have hcompiled := (buildAdapter_eq_ok h).2 _ _ hentry
  have hcompiled' := (buildAdapter_eq_ok hbaseline).2 _ _ hbuiltin
  have hsame : compileEntry rt entry = compileEntry rt builtin := by
    simp only [compileEntry, henabled, henabled', hpatterns, hpatterns']
  rw [hsame, hcompiled'] at hcompiled
  refine ⟨entry, hentry, henabled, ?_⟩
  rwa [← Except.ok.inj hcompiled]

/-- The core detectors are in force, and report whatever they report without
any configuration, if and only if no custom entry takes their place. -/
theorem core_in_force_iff (rt : TextRuntime) (config : TenantConfig)
    (adapter baseline : TelegramAdapter rt) (hbuild : buildAdapter rt config = .ok adapter)
    (hbaseline : buildAdapter rt emptyConfig = .ok baseline) :
    (CoreEnabled adapter ∧ ∀ text contentSimilarity, ∀ p ∈ coreDetectors,
        p.1 ∈ (analyzeContent baseline text contentSimilarity).threatsDetected →
        p.1 ∈ (analyzeContent adapter text contentSimilarity).threatsDetected) ↔
      CoreIntact config := by
  rw [← coreEnabled_iff hbuild]
  exact and_iff_left_of_imp fun hcore _ _ _ hp => coreEnabled_reports hbuild hbaseline hcore hp

/-! ## A run -/

/-- A runtime for texts whose only matches are the word of one core pattern. -/
def cardingRuntime : TextRuntime where
  Pattern := String
  Match := List Char
  lower text := String.ofList (Text.lower text.toList)
  compile joined := .ok joined
  findall pattern text :=
    if Text.contains r"\bcarding\b".toList pattern.toList then
      (text.toList.splitOn ' ').filter (· = "carding".toList)
    else []

def builtAdapter (config : TenantConfig) : TelegramAdapter cardingRuntime :=
  match buildAdapter cardingRuntime config with
  | .ok adapter => adapter
  | .error _ => ⟨Dict.empty, Dict.empty⟩

theorem buildAdapter_builtAdapter {config : TenantConfig}
    (h : (buildAdapter cardingRuntime config).toBool = true) :
    buildAdapter cardingRuntime config = .ok (builtAdapter config) := by
  unfold builtAdapter
  cases hbuild : buildAdapter cardingRuntime config with
  | error message => simp [hbuild, Except.toBool] at h
  | ok adapter => rfl

/-- A policy detector switched off and a custom one added. -/
def brandConfig : TenantConfig where
  detectors := Dict.empty.set "copyright_violation" (.obj [("enabled", .bool false)])
  customDetectors := Dict.empty.set "brand" (.obj [("patterns", strs ["cheap.*clone"])])
  responseThresholds := Dict.empty

theorem core_in_force_of_brand :
    (CoreEnabled (builtAdapter brandConfig) ∧ ∀ text contentSimilarity, ∀ p ∈ coreDetectors,
        p.1 ∈ (analyzeContent (builtAdapter emptyConfig) text contentSimilarity).threatsDetected →
        p.1 ∈ (analyzeContent (builtAdapter brandConfig) text contentSimilarity).threatsDetected) ↔
      CoreIntact brandConfig :=
  core_in_force_iff cardingRuntime brandConfig (builtAdapter brandConfig) (builtAdapter emptyConfig)
    (buildAdapter_builtAdapter (by decide +kernel)) (buildAdapter_builtAdapter (by decide +kernel))

/-- An entry under a core name, as the configuration route accepts it. -/
def disablingConfig : TenantConfig where
  detectors := Dict.empty
  customDetectors := Dict.empty.set "illegal_content" (.obj [("enabled", .bool false)])
  responseThresholds := Dict.empty

theorem custom_entry_disables_core :
    buildAdapter cardingRuntime disablingConfig = .ok (builtAdapter disablingConfig) ∧
      buildAdapter cardingRuntime emptyConfig = .ok (builtAdapter emptyConfig) ∧
      "illegal_content" ∈
        (analyzeContent (builtAdapter emptyConfig) "carding carding" 0).threatsDetected ∧
      "illegal_content" ∉
        (analyzeContent (builtAdapter disablingConfig) "carding carding" 0).threatsDetected := by
  have hbuild : buildAdapter cardingRuntime disablingConfig = .ok (builtAdapter disablingConfig) :=
    buildAdapter_builtAdapter (by decide +kernel)
  have hbaseline : buildAdapter cardingRuntime emptyConfig = .ok (builtAdapter emptyConfig) :=
    buildAdapter_builtAdapter (by decide +kernel)
  refine ⟨hbuild, hbaseline, ?_, ?_⟩
  · obtain ⟨hconfigure, hcompile⟩ := buildAdapter_eq_ok hbaseline
    rw [mem_threatsDetected_iff (by decide)]
    rcases configureDetectors_get?_core hconfigure (List.mem_cons_of_mem _ List.mem_cons_self) with
      ⟨-, hbuiltin⟩ | ⟨entry, -, hentry, -⟩
    · exact ⟨_, hbuiltin, rfl, _, (Except.ok.inj (hcompile _ _ hbuiltin)).symm, by decide +kernel⟩
    · simp [emptyConfig] at hentry
  · rw [mem_threatsDetected_iff (by decide)]
    rintro ⟨entry, hentry, henabled, -⟩
    rcases configureDetectors_get?_core (buildAdapter_eq_ok hbuild).1
      (List.mem_cons_of_mem _ List.mem_cons_self) with
      ⟨hnone, -⟩ | ⟨override, detector, hoverride, hdetector, hread⟩
    · simp [disablingConfig] at hnone
    · rw [disablingConfig, Dict.get?_set_self, Option.some.injEq] at hoverride
      rw [hentry, Option.some.injEq] at hread
      rw [hread, (customDetector_eq_ok hdetector).1, ← hoverride] at henabled
      exact absurd henabled (by decide)

end TruePresenceESE.Telegram
