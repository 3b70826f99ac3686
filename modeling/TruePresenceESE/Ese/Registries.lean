import TruePresenceESE.Ese.ExtensionContracts
import TruePresenceESE.Ese.RunReport

/-! # Looking up integrations and report exporters

Both registries list their definitions under the keys they were registered with. A key
that is looked up is trimmed and lower-cased first.
-/

namespace TruePresenceESE.Ese

open PyText PyValue

/-! ## The registries -/

def integrationKind : ExtensionKind where
  label := "integration"
  extensionName := "integration"
  extras := []
  notCallable := "Integration definitions must provide a callable 'publish'"
  notADefinition := "Integrations must return IntegrationDefinition, a mapping, or a callable"

def reportExporterKind : ExtensionKind where
  label := "report exporter"
  extensionName := "report exporter"
  extras := [("content_type", fun _ => "text/plain; charset=utf-8"),
    ("default_filename", fun fallbackKey => "ese_report." ++ fallbackKey ++ ".txt")]
  notCallable := "Report exporter definitions must provide a callable 'render'"
  notADefinition :=
    "Report exporters must return ReportExporterDefinition, a mapping, or a callable"

inductive LookupError where
  /-- The key is blank or unknown. -/
  | invalidKey (message : String)
  | discovery (error : ExtensionError)
  deriving DecidableEq

section
variable {γ : Type} (host : ExtensionHost)

def cleanKey (label key : String) : Except LookupError CleanText :=
  (normalizeNonEmpty label (.str key)).mapError .invalidKey

/-- The loop of both lookups. -/
def findListed (unknown : String) (listed : List (Definition γ)) (clean : CleanText) :
    Except LookupError (Definition γ) :=
  match listed.find? fun d => d.key.text = host.py.lower clean.text with
  | some d => .ok d
  | none => .error (.invalidKey unknown)

def supportedKeys (listed : List (Definition γ)) : String :=
  String.intercalate ", " (listed.map fun d => d.key.text)

def listIntegrations (entries : List (EntryPoint γ)) :
    Except ExtensionError (List (Definition γ)) :=
  (discover host integrationKind entries).map Prod.fst

def resolveIntegration (entries : List (EntryPoint γ)) (key : String) :
    Except LookupError (Definition γ) := do
  let clean ← cleanKey "integration key" key
  let listed ← (listIntegrations host entries).mapError .discovery
  findListed host ("Unknown integration '" ++ key ++ "'. Installed integrations: " ++
    orDefault (supportedKeys listed) "none") listed clean

def builtinExporter (key title summary contentType defaultFilename : CleanText) (render : γ) :
    Definition γ :=
  ⟨key, title, summary, [contentType, defaultFilename], expectedVersion, render⟩

def builtinReportExporters (renderSarif renderJunit : γ) : List (Definition γ) :=
  [builtinExporter ⟨"sarif", by decide, by decide⟩ ⟨"SARIF", by decide, by decide⟩
      ⟨"Static Analysis Results Interchange Format for code scanning ingestion.", by decide,
        by decide⟩
      ⟨"application/sarif+json; charset=utf-8", by decide, by decide⟩
      ⟨"ese_report.sarif.json", by decide, by decide⟩ renderSarif,
    builtinExporter ⟨"junit", by decide, by decide⟩ ⟨"JUnit", by decide, by decide⟩
      ⟨"JUnit XML for CI test-report style ingestion.", by decide, by decide⟩
      ⟨"application/xml; charset=utf-8", by decide, by decide⟩
      ⟨"ese_report.junit.xml", by decide, by decide⟩ renderJunit]

/-- The built-in exporters come first, so no package replaces them. -/
def listReportExporters (renderSarif renderJunit : γ) (entries : List (EntryPoint γ)) :
    Except ExtensionError (List (Definition γ)) :=
  (discover host reportExporterKind entries).map fun found =>
    registered (builtinReportExporters renderSarif renderJunit ++ found.1)

def resolveReportExporter (renderSarif renderJunit : γ) (entries : List (EntryPoint γ))
    (key : String) : Except LookupError (Definition γ) := do
  let clean ← cleanKey "report exporter format" key
  let listed ← (listReportExporters host renderSarif renderJunit entries).mapError .discovery
  findListed host ("Unknown export format '" ++ key ++ "'. Supported formats: " ++
    supportedKeys listed) listed clean

end

/-! ## What is listed -/

section
variable {γ : Type} {host : ExtensionHost} {kind : ExtensionKind}

/-- The definitions that entry points provide. -/
def provided (host : ExtensionHost) (kind : ExtensionKind) (entries : List (EntryPoint γ)) :
    List (Definition γ) :=
  entries.filterMap fun entry => match loadEntry host kind entry with
    | .ok (.inr definition) => some definition
    | _ => none

theorem filterMap_getRight?_loaded {entries : List (EntryPoint γ)}
    {loaded : List (LoadFailure ⊕ Definition γ)}
    (h : entries.mapM (loadEntry host kind) = .ok loaded) :
    loaded.filterMap Sum.getRight? = provided host kind entries := by
  have heach := Fallible.forall₂_of_mapM_ok h
  clear h
  induction heach with
  | nil => rfl
  | @cons entry outcome _ _ hentry _ ih =>
      unfold provided at ih ⊢
      rw [List.filterMap_cons, List.filterMap_cons, ih, hentry]
      cases outcome <;> rfl

theorem discover_ok {entries : List (EntryPoint γ)} {listed : List (Definition γ)}
    {failures : List LoadFailure} (h : discover host kind entries = .ok (listed, failures)) :
    listed = registered (provided host kind entries) := by
  obtain ⟨loaded, hloaded, h⟩ := Fallible.bind_eq_ok_iff.mp h
  cases h
  rw [filterMap_getRight?_loaded hloaded]

/-- Without a failure every entry point has a definition. -/
theorem loaded_of_discover {entries : List (EntryPoint γ)} {listed : List (Definition γ)}
    (h : discover host kind entries = .ok (listed, [])) {entry : EntryPoint γ}
    (hentry : entry ∈ entries) : ∃ d, loadEntry host kind entry = .ok (.inr d) := by
  obtain ⟨loaded, hloaded, h⟩ := Fallible.bind_eq_ok_iff.mp h
  obtain ⟨-, hnone⟩ := Prod.mk.inj (Except.ok.inj h)
  obtain ⟨outcome, hmem, houtcome⟩ := Fallible.exists_result_of_mapM hloaded hentry
  cases outcome with
  | inr d => exact ⟨d, houtcome⟩
  | inl failure =>
      have hfailure : failure ∈ loaded.filterMap Sum.getLeft? :=
        List.mem_filterMap.mpr ⟨_, hmem, rfl⟩
      rw [hnone] at hfailure
      cases hfailure

theorem mem_provided {entries : List (EntryPoint γ)} {d : Definition γ} :
    d ∈ provided host kind entries ↔ ∃ entry ∈ entries, loadEntry host kind entry = .ok (.inr d) := by
  rw [provided, List.mem_filterMap]
  constructor
  · rintro ⟨entry, hentry, hd⟩
    split at hd
    · cases hd
      exact ⟨entry, hentry, ‹_›⟩
    · cases hd
  · rintro ⟨entry, hentry, hd⟩
    exact ⟨entry, hentry, by rw [hd]⟩

theorem mem_registered {definitions : List (Definition γ)} {d : Definition γ} :
    d ∈ registered definitions ↔
      definitions.find? (fun e => e.key.text = d.key.text) = some d := by
  rw [registered, Dict.mem_sortedValues]
  constructor
  · rintro ⟨k, -, hget⟩
    obtain ⟨-, hkey⟩ := Dict.of_get?_firstBy _ hget
    rw [Dict.get?_firstBy] at hget
    rw [← hget, hkey]
  · intro hfind
    refine ⟨d.key.text, ?_, by rw [Dict.get?_firstBy, hfind]⟩
    rw [Dict.mem_keys_firstBy]
    exact ⟨d, List.mem_of_find?_eq_some hfind, rfl⟩

/-- One definition is listed for each key. -/
theorem registered_inj {definitions : List (Definition γ)} {d e : Definition γ}
    (hd : d ∈ registered definitions) (he : e ∈ registered definitions)
    (hkey : d.key.text = e.key.text) : d = e := by
  rw [mem_registered] at hd he
  rw [hkey, he] at hd
  exact (Option.some.inj hd).symm

/-- Every key that is provided is listed. -/
theorem exists_registered {definitions : List (Definition γ)} {d : Definition γ}
    (h : d ∈ definitions) : ∃ e ∈ registered definitions, e.key.text = d.key.text := by
  have hsome : (definitions.find? fun e => e.key.text = d.key.text).isSome = true := by
    rw [List.find?_isSome]
    exact ⟨d, h, by simp⟩
  obtain ⟨e, he⟩ := Option.isSome_iff_exists.mp hsome
  have hkey : e.key.text = d.key.text := by simpa using List.find?_some he
  exact ⟨e, mem_registered.mpr (by rw [hkey, he]), hkey⟩

theorem mem_of_mem_registered {definitions : List (Definition γ)} {d : Definition γ}
    (h : d ∈ registered definitions) : d ∈ definitions :=
  List.mem_of_find?_eq_some (mem_registered.mp h)

/-- A property of the key holds of what is registered last as of all that is registered. -/
theorem forall_append_registered {builtins definitions : List (Definition γ)} {p : String → Prop} :
    (∀ d ∈ builtins ++ registered definitions, p d.key.text) ↔
      ∀ d ∈ builtins ++ definitions, p d.key.text := by
  constructor
  · intro h d hd
    cases List.mem_append.mp hd with
    | inl hbuiltin => exact h d (List.mem_append_left _ hbuiltin)
    | inr hdefinition =>
        obtain ⟨e, he, hkey⟩ := exists_registered hdefinition
        rw [← hkey]
        exact h e (List.mem_append_right _ he)
  · intro h d hd
    cases List.mem_append.mp hd with
    | inl hbuiltin => exact h d (List.mem_append_left _ hbuiltin)
    | inr hlisted => exact h d (List.mem_append_right _ (mem_of_mem_registered hlisted))

/-! ## Complete lookup -/

/-- Each listed definition is found under its key, and no other key leads to it or to
two of them. -/
structure LookupComplete (host : ExtensionHost) (listed : List (Definition γ))
    (resolve : String → Except LookupError (Definition γ)) : Prop where
  resolves : ∀ d ∈ listed, resolve d.key.text = .ok d
  distinct : ∀ d ∈ listed, ∀ e ∈ listed,
    host.py.lower (strip d.key.text) = host.py.lower (strip e.key.text) → d = e

theorem cleanKey_clean (label : String) (clean : CleanText) :
    cleanKey label clean.text = .ok clean := by
  rw [cleanKey, normalizeNonEmpty_clean]
  rfl

theorem findListed_eq_ok_iff {unknown : String} {listed : List (Definition γ)}
    {clean : CleanText} {d : Definition γ} :
    findListed host unknown listed clean = .ok d ↔
      listed.find? (fun e => e.key.text = host.py.lower clean.text) = some d := by
  unfold findListed
  cases listed.find? fun e => e.key.text = host.py.lower clean.text with
  | none => simp
  | some e => simp

theorem lookupComplete_iff {label : String} {unknown : String → String}
    {definitions : List (Definition γ)} :
    LookupComplete host (registered definitions) (fun key => cleanKey label key >>=
        findListed host (unknown key) (registered definitions)) ↔
      ∀ d ∈ definitions, host.py.lower d.key.text = d.key.text := by
  have hresolve : ∀ d e : Definition γ, (cleanKey label d.key.text >>=
      findListed host (unknown d.key.text) (registered definitions)) = .ok e ↔
        (registered definitions).find? (fun c => c.key.text = host.py.lower d.key.text) =
          some e := by
    intro d e
    rw [cleanKey_clean]
    exact findListed_eq_ok_iff
  constructor
  · intro h d hd
    obtain ⟨e, he, hkey⟩ := exists_registered hd
    have hfind := (hresolve e e).mp (h.resolves e he)
    have hlower : e.key.text = host.py.lower e.key.text := by simpa using List.find?_some hfind
    rw [← hkey, ← hlower]
  · intro hlower
    have hlisted : ∀ d ∈ registered definitions, host.py.lower d.key.text = d.key.text :=
      fun d hd => hlower d (mem_of_mem_registered hd)
    constructor
    · intro d hd
      rw [hresolve, hlisted d hd]
      have hsome : ((registered definitions).find? fun e => e.key.text = d.key.text).isSome = true := by
        rw [List.find?_isSome]
        exact ⟨d, hd, by simp⟩
      obtain ⟨e, he⟩ := Option.isSome_iff_exists.mp hsome
      have hkey : e.key.text = d.key.text := by simpa using List.find?_some he
      rw [he, registered_inj (List.mem_of_find?_eq_some he) hd hkey]
    · intro d hd e he heq
      rw [d.key.stripped, e.key.stripped, hlisted d hd, hlisted e he] at heq
      exact registered_inj hd he heq

end

/-- Lookup is complete in either registry exactly when every key is written in lower case. -/
theorem registry_lookup_complete_iff {γ : Type} (host : ExtensionHost) (renderSarif renderJunit : γ)
    (integrations exporters : List (EntryPoint γ)) :
    (∀ listed, listIntegrations host integrations = .ok listed →
        (LookupComplete host listed (resolveIntegration host integrations) ↔
          ∀ d ∈ provided host integrationKind integrations,
            host.py.lower d.key.text = d.key.text)) ∧
      ∀ listed, listReportExporters host renderSarif renderJunit exporters = .ok listed →
        (LookupComplete host listed
            (resolveReportExporter host renderSarif renderJunit exporters) ↔
          ∀ d ∈ builtinReportExporters renderSarif renderJunit ++
              provided host reportExporterKind exporters,
            host.py.lower d.key.text = d.key.text) := by
  constructor
  · intro listed hlisted
    have hresolve : resolveIntegration host integrations = fun key =>
        cleanKey "integration key" key >>= findListed host ("Unknown integration '" ++ key ++
          "'. Installed integrations: " ++ orDefault (supportedKeys listed) "none") listed := by
      funext key
      rw [resolveIntegration, hlisted]
      rfl
    obtain ⟨⟨found, failures⟩, hfound, rfl⟩ := Fallible.map_eq_ok_iff.mp hlisted
    rw [hresolve, discover_ok hfound]
    exact lookupComplete_iff
  · intro listed hlisted
    have hresolve : resolveReportExporter host renderSarif renderJunit exporters = fun key =>
        cleanKey "report exporter format" key >>= findListed host ("Unknown export format '" ++
          key ++ "'. Supported formats: " ++ supportedKeys listed) listed := by
      funext key
      rw [resolveReportExporter, hlisted]
      rfl
    obtain ⟨⟨found, failures⟩, hfound, rfl⟩ := Fallible.map_eq_ok_iff.mp hlisted
    rw [hresolve, discover_ok hfound, lookupComplete_iff]
    exact forall_append_registered (p := fun key => host.py.lower key = key)

/-- A machine whose texts are ASCII. -/
def asciiExtensions : ExtensionHost where
  py :=
    { loads := fun _ => none
      dumps := fun _ => ""
      repr := fun _ => ""
      isAlnum := Char.isAlphanum
      lower := fun text => String.ofList (text.toList.map Char.toLower)
      lower_empty := rfl }
  capitalize := id

/-- A package that names its integration. -/
def namedIntegration {γ : Type} (key : String) (publisher : γ) : EntryPoint γ where
  name := .str "chat"
  load := .returns (.plain (.mapping
    { key := .str key
      title := .null
      summary := .str "Posts to the team chat."
      extras := []
      contractVersion := .absent
      callable := some publisher }))

def listedKeys (listed : List (Definition Unit)) : List String := listed.map fun d => d.key.text

theorem listedKeys_slack :
    (listIntegrations asciiExtensions [namedIntegration "slack" ()]).map listedKeys =
      .ok ["slack"] := by
  decide +kernel

theorem registry_lookup_complete_slack : ∃ listed,
    listIntegrations asciiExtensions [namedIntegration "slack" ()] = .ok listed ∧
      (LookupComplete asciiExtensions listed
          (resolveIntegration asciiExtensions [namedIntegration "slack" ()]) ↔
        ∀ d ∈ provided asciiExtensions integrationKind [namedIntegration "slack" ()],
          asciiExtensions.py.lower d.key.text = d.key.text) := by
  obtain ⟨listed, hlisted, -⟩ := Fallible.map_eq_ok_iff.mp listedKeys_slack
  exact ⟨listed, hlisted, (registry_lookup_complete_iff asciiExtensions () () _ []).1 listed hlisted⟩

/-- "Slack" is listed and looked up as "slack". -/
theorem mixed_case_key_unresolved :
    ¬ ∀ (host : ExtensionHost) (entries : List (EntryPoint Unit)) (listed : List (Definition Unit)),
      listIntegrations host entries = .ok listed →
        LookupComplete host listed (resolveIntegration host entries) := by
  intro hcomplete
  have hkeys : (listIntegrations asciiExtensions [namedIntegration "Slack" ()]).map listedKeys =
      .ok ["Slack"] := by
    decide +kernel
  obtain ⟨listed, hlisted, heq⟩ := Fallible.map_eq_ok_iff.mp hkeys
  have hmem : "Slack" ∈ listedKeys listed := by
    rw [heq]
    exact List.mem_singleton_self _
  obtain ⟨d, hd, hkey⟩ := List.mem_map.mp hmem
  have hresolves := (hcomplete _ _ _ hlisted).resolves d hd
  have hunknown : (resolveIntegration asciiExtensions [namedIntegration "Slack" ()]
      "Slack").isOk = false := by
    decide +kernel
  rw [hkey] at hresolves
  rw [hresolves] at hunknown
  cases hunknown

end TruePresenceESE.Ese
