import TruePresenceESE.Ese.PackProjects
import TruePresenceESE.Ese.ExtensionContracts

/-! # Starter projects

A starter is a manifest that names a pack, states the key of that pack once more, and lists
the extensions that come with it. Its application bundle carries the stated key, under
which the pack is looked up once it is installed. Nothing compares the two statements, and
nothing compares the keys of a list.
-/

namespace TruePresenceESE.Ese

open PosixPath PyText PyValue

/-! ## Keys -/

/-- `[a-z0-9]` -/
def isKeyChar (c : Char) : Bool := ('a' ≤ c && c ≤ 'z') || ('0' ≤ c && c ≤ '9')

/-- `re.sub(r"[^a-z0-9]+", "-", …)`: a run is replaced at its first character. -/
def dashRuns (inRun : Bool) : List Char → List Char
  | [] => []
  | c :: rest =>
      if isKeyChar c then c :: dashRuns false rest
      else if inRun then dashRuns true rest
      else '-' :: dashRuns true rest

/-- The text of a key, which is empty where there is no letter or digit. -/
def collapsedKey (py : Interpreter) (value : String) : List Char :=
  Text.strip (· = '-') (dashRuns false (py.lower (strip value)).toList)

/-- A key that `_clean_key` has passed. -/
structure StarterKey where
  text : String
  plain : ∀ c ∈ text.toList, isKeyChar c = true ∨ c = '-'
  ne_empty : text ≠ ""

instance : DecidableEq StarterKey := fun key other =>
  decidable_of_iff (key.text = other.text)
    ⟨fun h => by cases key; cases other; cases h; rfl, congrArg StarterKey.text⟩

theorem mem_dashRuns {inRun : Bool} {cs : List Char} {c : Char} (h : c ∈ dashRuns inRun cs) :
    isKeyChar c = true ∨ c = '-' := by
  induction cs generalizing inRun with
  | nil => cases h
  | cons d rest ih =>
      rw [dashRuns] at h
      split at h
      · next hkey =>
          rcases List.mem_cons.mp h with rfl | h
          · exact .inl hkey
          · exact ih h
      · split at h
        · exact ih h
        · rcases List.mem_cons.mp h with rfl | h
          · exact .inr rfl
          · exact ih h

theorem mem_collapsedKey {py : Interpreter} {value : String} {c : Char}
    (h : c ∈ collapsedKey py value) : isKeyChar c = true ∨ c = '-' := by
  obtain ⟨front, back, hsplit, -⟩ := Text.exists_strip (· = '-')
    (dashRuns false (py.lower (strip value)).toList)
  apply mem_dashRuns
  rw [hsplit]
  exact List.mem_append_left back (List.mem_append_right front h)

def cleanStarterKey (py : Interpreter) (value : String) : Except ProjectError StarterKey :=
  if h : collapsedKey py value = [] then
    .error (.starterProject "Starter key must contain at least one ASCII letter or digit.")
  else .ok ⟨String.ofList (collapsedKey py value),
    fun c hc => mem_collapsedKey (by simpa using hc), by simpa using h⟩

/-! ## Starter manifests -/

def applicationBundleManifestName : String := "ese_application.yaml"

def starterManifestName : String := "ese_starter.yaml"

def manifestNames : List String := [applicationBundleManifestName, starterManifestName]

structure StarterExtensionManifestEntry where
  key : CleanText
  module : CleanText
  file : Location

structure StarterProject where
  manifestPath : Location
  contractVersion : ℤ
  key : StarterKey
  title : CleanText
  summary : CleanText
  packageName : CleanText
  packKey : StarterKey
  packManifestPath : Location
  policyChecks : List StarterExtensionManifestEntry
  reportExporters : List StarterExtensionManifestEntry
  artifactViews : List StarterExtensionManifestEntry
  integrations : List StarterExtensionManifestEntry

/-- `[A-Za-z_][A-Za-z0-9_]*` -/
def isPackageName (name : String) : Bool :=
  let isStart (c : Char) : Bool := ('A' ≤ c && c ≤ 'Z') || ('a' ≤ c && c ≤ 'z') || c == '_'
  match name.toList with
  | [] => false
  | first :: rest => isStart first && rest.all fun c => isStart c || ('0' ≤ c && c ≤ '9')

def starterText (label : String) (value : Json) : Except ProjectError CleanText :=
  (normalizeNonEmpty label value).mapError .value

def validatePackageName (name : CleanText) : Except ProjectError CleanText :=
  if isPackageName name.text then .ok name
  else .error (.starterProject ("Starter package names must start with a letter or underscore " ++
    "and contain only letters, digits, and underscores."))

section
variable (host : ProjectHost) (disk : ProjectDisk)

/-- One manifest for each directory; that of an application takes the place of that of a
starter. -/
def dedupedManifests (matched : List Location) : List Location :=
  let deduped := matched.foldl (fun deduped item =>
      let deduped := deduped.setNew item.dropLast item
      match deduped.get? item.dropLast with
      | some current =>
          if current.getLast? = some starterManifestName.toList ∧
              item.getLast? = some applicationBundleManifestName.toList then
            deduped.set item.dropLast item
          else deduped
      | none => deduped) (Dict.empty : Dict Location Location)
  deduped.items.map Prod.snd

def resolveStarterManifest (path : Option String) : Except ProjectError Location :=
  let candidate := candidatePath host path
  let root := host.locate candidate
  let names := String.intercalate " or " manifestNames
  match disk.get? root with
  | none => .error (.starterProject ("Starter path does not exist: " ++ pathText candidate))
  | some (.file _) => .ok root
  | some .special => .error (.starterProject
      ("Starter path must be a directory or manifest file: " ++ pathText candidate))
  | some .directory =>
      match dedupedManifests (manifestNames.flatMap (manifestsNamed disk root)) with
      | [] => .error (.starterProject
          ("No " ++ names ++ " manifest found under " ++ render root ++ "."))
      | [manifest] => .ok manifest
      | manifests => .error (.starterProject ("Multiple " ++ names ++
          " manifests found under " ++ render root ++ ": " ++
          String.intercalate ", " (manifests.map (shownBelow candidate root))))

def normalizeManifestEntry (manifestPath : Location) (label : String) (value : Json) :
    Except ProjectError StarterExtensionManifestEntry := do
  let .obj fields := value
    | throw (.starterProject (label ++ " entries must be mappings"))
  let entry := JsonDict.ofFields fields
  let key ← starterText (label ++ " key") (entry.get "key")
  let module ← starterText (label ++ " module") (entry.get "module")
  let fileText ← starterText (label ++ " file") (entry.get "file")
  let filePath := resolve manifestPath.dropLast fileText.text
  if (disk.get? filePath).isNone then
    throw (.starterProject (label ++ " file does not exist: " ++ render filePath))
  return ⟨key, module, filePath⟩

def normalizeManifestEntries (manifestPath : Location) (label : String) :
    Json → Except ProjectError (List StarterExtensionManifestEntry)
  | .null => .ok []
  | .arr entries => entries.mapM (normalizeManifestEntry disk manifestPath label)
  | _ => .error (.starterProject (label ++ " must be a list"))

/-- An invalid pack makes the starter invalid. -/
def packInvalid : ProjectError → ProjectError
  | .packProject message => .starterProject ("starter pack is invalid: " ++ message)
  | error => error

def loadStarterProject (path : Option String) : Except ProjectError StarterProject := do
  let manifestPath ← resolveStarterManifest host disk path
  let manifest ← readManifestYaml host disk .starterProject "Manifest" manifestPath
  let version ← (normalizeContractVersion "starter bundle"
    (versionField (manifest.get "contract_version"))).mapError .value
  let key ← starterText "starter key" (manifest.get "key")
  let key ← cleanStarterKey host.py key.text
  let title ← starterText "starter title" (manifest.get "title")
  let summary ← starterText "starter summary" (manifest.get "summary")
  let packageName ← starterText "starter package_name" (manifest.get "package_name")
  let packageName ← validatePackageName packageName
  let .obj packFields := manifest.get "pack"
    | throw (.starterProject "starter manifest must include a pack section")
  let packSection := JsonDict.ofFields packFields
  let packKey ← starterText "starter pack key" (packSection.get "key")
  let packKey ← cleanStarterKey host.py packKey.text
  let packFile ← starterText "starter pack manifest"
    (packSection.getOr "manifest" (.str packManifestName))
  let packManifestPath := resolve manifestPath.dropLast packFile.text
  let _ ← (describePackProject host disk (some (render packManifestPath))).mapError packInvalid
  let entries := fun label =>
    normalizeManifestEntries disk manifestPath label (manifest.get label)
  let policyChecks ← entries "policy_checks"
  let reportExporters ← entries "report_exporters"
  let artifactViews ← entries "artifact_views"
  let integrations ← entries "integrations"
  return ⟨manifestPath, version, key, title, summary, packageName, packKey, packManifestPath,
    policyChecks, reportExporters, artifactViews, integrations⟩

/-! ## Application bundles -/

structure ApplicationBundleDefinition where
  key : String
  title : String
  summary : String
  packageName : String
  packKey : String
  policyChecks : List String
  reportExporters : List String
  artifactViews : List String
  integrations : List String
  contractVersion : ℤ

def exportedKeys (entries : List StarterExtensionManifestEntry) : List String :=
  entries.map fun entry => entry.key.text

def StarterProject.bundle (project : StarterProject) : ApplicationBundleDefinition where
  key := project.key.text
  title := project.title.text
  summary := project.summary.text
  packageName := project.packageName.text
  packKey := project.packKey.text
  policyChecks := exportedKeys project.policyChecks
  reportExporters := exportedKeys project.reportExporters
  artifactViews := exportedKeys project.artifactViews
  integrations := exportedKeys project.integrations
  contractVersion := project.contractVersion

def loadApplicationBundleFromManifest (path : Option String) :
    Except ProjectError ApplicationBundleDefinition :=
  (loadStarterProject host disk path).map StarterProject.bundle

end

/-! ## Self-consistency -/

/-- The entry points of packs once only this project is installed: one, under any name,
that loads the pack of the project. -/
def installedOnly (host : ProjectHost) (disk : ProjectDisk) (packManifestPath : Location)
    (name : CleanText) : List PackEntryPoint :=
  [{ name := .str name.text
     load := .returns (.factory (
      match loadPackProject host disk (some (render packManifestPath)) with
      | .ok loaded => .returns (.single loaded.pack.raw)
      | .error error => .raises error.text)) }]

/-- The bundle leads to the pack of the project, and its lists repeat no key. -/
structure SelfConsistent (host : ProjectHost) (disk : ProjectDisk) (packManifestPath : Location)
    (bundle : ApplicationBundleDefinition) : Prop where
  pack : ∃ loaded, loadPackProject host disk (some (render packManifestPath)) = .ok loaded ∧
    bundle.packKey = loaded.pack.key ∧ ∀ name, getConfigPack host
      (installedOnly host disk packManifestPath name) bundle.packKey = .ok loaded.pack
  policyChecks : bundle.policyChecks.Nodup
  reportExporters : bundle.reportExporters.Nodup
  artifactViews : bundle.artifactViews.Nodup
  integrations : bundle.integrations.Nodup

def packSectionOf (manifest : JsonDict) : JsonDict :=
  match manifest.get "pack" with
  | .obj fields => JsonDict.ofFields fields
  | _ => Dict.empty

/-- The two keys that the manifests state for the pack come to the same. -/
def StatedKeysAgree (py : Interpreter) (manifest packManifest : JsonDict) : Prop :=
  ∃ stated text, (packSectionOf manifest).get "key" = .str stated ∧
    packManifest.get "key" = .str text ∧
    String.ofList (collapsedKey py stated) = py.lower (strip text)

/-- The trimmed key of an extension. -/
def statedKey : Json → Option String
  | .obj fields =>
      match (JsonDict.ofFields fields).get "key" with
      | .str text => some (strip text)
      | _ => none
  | _ => none

def statedKeys : Json → List String
  | .arr entries => entries.filterMap statedKey
  | _ => []

def extensionLists : List String :=
  ["policy_checks", "report_exporters", "artifact_views", "integrations"]

section
variable {host : ProjectHost} {disk : ProjectDisk} {path : Option String}

theorem cleanStarterKey_ok {value : String} {key : StarterKey}
    (h : cleanStarterKey host.py value = .ok key) :
    key.text = String.ofList (collapsedKey host.py value) := by
  unfold cleanStarterKey at h
  split at h
  · cases h
  · cases h
    rfl

theorem collapsedKey_strip (py : Interpreter) (value : String) :
    collapsedKey py (strip value) = collapsedKey py value := by
  rw [collapsedKey, collapsedKey, strip_strip]

theorem normalizeManifestEntry_key {manifestPath : Location} {label : String} {value : Json}
    {entry : StarterExtensionManifestEntry}
    (h : normalizeManifestEntry disk manifestPath label value = .ok entry) :
    statedKey value = some entry.key.text := by
  unfold normalizeManifestEntry at h
  split at h
  · next fields =>
      obtain ⟨key, hkey, h⟩ := Fallible.bind_eq_ok_iff.mp h
      obtain ⟨module, -, h⟩ := Fallible.bind_eq_ok_iff.mp h
      obtain ⟨fileText, -, h⟩ := Fallible.bind_eq_ok_iff.mp h
      dsimp only at h
      split at h
      · cases h
      · cases h
        obtain ⟨text, htext, hclean⟩ :=
          normalizeNonEmpty_ok_iff.mp (Fallible.mapError_eq_ok_iff.mp hkey)
        rw [statedKey, htext, hclean]
  · cases h

/-- What a list exports are the keys it states. -/
theorem exportedKeys_eq {manifestPath : Location} {label : String} {value : Json}
    {entries : List StarterExtensionManifestEntry}
    (h : normalizeManifestEntries disk manifestPath label value = .ok entries) :
    exportedKeys entries = statedKeys value := by
  unfold normalizeManifestEntries at h
  split at h
  · cases h
    rfl
  · next items =>
      show exportedKeys entries = items.filterMap statedKey
      induction items generalizing entries with
      | nil =>
          cases h
          rfl
      | cons item rest ih =>
          rw [List.mapM_cons] at h
          obtain ⟨entry, hentry, h⟩ := Fallible.bind_eq_ok_iff.mp h
          obtain ⟨others, hothers, h⟩ := Fallible.bind_eq_ok_iff.mp h
          cases h
          rw [List.filterMap_cons, normalizeManifestEntry_key hentry]
          dsimp only
          rw [← ih hothers]
          rfl
  · cases h

/-- What an accepted starter was read from. -/
structure StarterSource (host : ProjectHost) (disk : ProjectDisk) (project : StarterProject)
    (manifest : JsonDict) (stated : String) : Prop where
  read : readManifestYaml host disk .starterProject "Manifest" project.manifestPath = .ok manifest
  key : (packSectionOf manifest).get "key" = .str stated
  packKey : project.packKey.text = String.ofList (collapsedKey host.py stated)
  described : ∃ loaded,
    loadPackProject host disk (some (render project.packManifestPath)) = .ok loaded
  policyChecks : exportedKeys project.policyChecks = statedKeys (manifest.get "policy_checks")
  reportExporters :
    exportedKeys project.reportExporters = statedKeys (manifest.get "report_exporters")
  artifactViews : exportedKeys project.artifactViews = statedKeys (manifest.get "artifact_views")
  integrations : exportedKeys project.integrations = statedKeys (manifest.get "integrations")

theorem starterSource_of_load {project : StarterProject}
    (h : loadStarterProject host disk path = .ok project) :
    ∃ manifest stated, StarterSource host disk project manifest stated := by
  unfold loadStarterProject at h
  obtain ⟨manifestPath, -, h⟩ := Fallible.bind_eq_ok_iff.mp h
  obtain ⟨manifest, hmanifest, h⟩ := Fallible.bind_eq_ok_iff.mp h
  obtain ⟨version, -, h⟩ := Fallible.bind_eq_ok_iff.mp h
  obtain ⟨keyText, -, h⟩ := Fallible.bind_eq_ok_iff.mp h
  obtain ⟨key, -, h⟩ := Fallible.bind_eq_ok_iff.mp h
  obtain ⟨title, -, h⟩ := Fallible.bind_eq_ok_iff.mp h
  obtain ⟨summary, -, h⟩ := Fallible.bind_eq_ok_iff.mp h
  obtain ⟨packageText, -, h⟩ := Fallible.bind_eq_ok_iff.mp h
  obtain ⟨packageName, -, h⟩ := Fallible.bind_eq_ok_iff.mp h
  split at h
  · next packFields hpack =>
      obtain ⟨statedKey, hstated, h⟩ := Fallible.bind_eq_ok_iff.mp h
      obtain ⟨packKey, hpackKey, h⟩ := Fallible.bind_eq_ok_iff.mp h
      obtain ⟨packFile, -, h⟩ := Fallible.bind_eq_ok_iff.mp h
      obtain ⟨description, hdescribed, h⟩ := Fallible.bind_eq_ok_iff.mp h
      obtain ⟨policyChecks, hpolicyChecks, h⟩ := Fallible.bind_eq_ok_iff.mp h
      obtain ⟨reportExporters, hreportExporters, h⟩ := Fallible.bind_eq_ok_iff.mp h
      obtain ⟨artifactViews, hartifactViews, h⟩ := Fallible.bind_eq_ok_iff.mp h
      obtain ⟨integrations, hintegrations, h⟩ := Fallible.bind_eq_ok_iff.mp h
      cases h
      obtain ⟨stated, hkey, hclean⟩ :=
        normalizeNonEmpty_ok_iff.mp (Fallible.mapError_eq_ok_iff.mp hstated)
      obtain ⟨loaded, hloaded, -⟩ :=
        Fallible.bind_eq_ok_iff.mp (Fallible.mapError_eq_ok_iff.mp hdescribed)
      refine ⟨manifest, stated, hmanifest, ?_, ?_, ⟨loaded, hloaded⟩,
        exportedKeys_eq hpolicyChecks, exportedKeys_eq hreportExporters,
        exportedKeys_eq hartifactViews, exportedKeys_eq hintegrations⟩
      · rw [packSectionOf, hpack]
        exact hkey
      · rw [cleanStarterKey_ok hpackKey, hclean, collapsedKey_strip]
  · cases h

theorem toNat_of_plain {c : Char} (h : isKeyChar c = true ∨ c = '-') :
    c.toNat = 45 ∨ 48 ≤ c.toNat ∧ c.toNat ≤ 57 ∨ 97 ≤ c.toNat ∧ c.toNat ≤ 122 := by
  rcases h with h | rfl
  · simp only [isKeyChar, Bool.or_eq_true, Bool.and_eq_true, decide_eq_true_eq] at h
    rcases h with ⟨hlow, hhigh⟩ | ⟨hlow, hhigh⟩
    · exact .inr (.inr ⟨hlow, hhigh⟩)
    · exact .inr (.inl ⟨hlow, hhigh⟩)
  · exact .inl rfl

theorem isSpace_of_plain {c : Char} (h : isKeyChar c = true ∨ c = '-') : isSpace c = false := by
  have hrange := toNat_of_plain h
  simp only [isSpace, Bool.or_eq_false_iff, Bool.and_eq_false_iff, decide_eq_false_iff_not,
    beq_eq_false_iff_ne]
  omega

theorem plain_ascii {c : Char} (h : isKeyChar c = true ∨ c = '-') :
    c.toNat < 128 ∧ c.toLower = c := by
  have hrange := toNat_of_plain h
  refine ⟨by omega, ?_⟩
  rw [Char.toLower, dif_neg]
  rintro ⟨hlow, hhigh⟩
  have hupper : 65 ≤ c.toNat ∧ c.toNat ≤ 90 := ⟨hlow, hhigh⟩
  omega

theorem strip_starterKey (key : StarterKey) : strip key.text = key.text := by
  rw [strip, Text.strip_eq_self, String.ofList_toList]
  intro c hc
  exact isSpace_of_plain (key.plain c hc)

theorem lower_starterKey (hlower : LowersAscii host.py) (key : StarterKey) :
    host.py.lower key.text = key.text := by
  rw [hlower key.text fun c hc => (plain_ascii (key.plain c hc)).1, asciiLower,
    List.map_congr_left fun c hc => (plain_ascii (key.plain c hc)).2, List.map_id',
    String.ofList_toList]

/-- The pack of the project is found under a stated key that is its own. -/
theorem getConfigPack_installedOnly (hlower : LowersAscii host.py) {packManifestPath : Location}
    {key : StarterKey} {loaded : PackProject}
    (hloaded : loadPackProject host disk (some (render packManifestPath)) = .ok loaded)
    (hkey : key.text = loaded.pack.key) (name : CleanText) :
    getConfigPack host (installedOnly host disk packManifestPath name) key.text =
      .ok loaded.pack := by
  let clean : CleanText := ⟨key.text, strip_starterKey key, key.ne_empty⟩
  have hpack := @normalizeConfigPackDefinition_raw host loaded.pack clean hkey
    (hkey ▸ lower_starterKey hlower key)
  unfold installedOnly
  rw [hloaded]
  exact @getConfigPack_single host loaded.pack name clean _ hpack
    ((lower_starterKey hlower key).trans hkey)

/-- An accepted starter is self-consistent exactly if the keys that the two manifests state
for the pack come to the same and no list states a key twice. -/
theorem starter_self_consistent_iff (hlower : LowersAscii host.py) {project : StarterProject}
    (h : loadStarterProject host disk path = .ok project) :
    (∃ bundle, loadApplicationBundleFromManifest host disk path = .ok bundle ∧
        SelfConsistent host disk project.packManifestPath bundle) ↔
      ∃ manifest packManifestPath packManifest,
        readManifestYaml host disk .starterProject "Manifest" project.manifestPath =
          .ok manifest ∧
        resolvePackManifest host disk (some (render project.packManifestPath)) =
          .ok packManifestPath ∧
        readManifestYaml host disk .packProject "manifest" packManifestPath = .ok packManifest ∧
        StatedKeysAgree host.py manifest packManifest ∧
        ∀ label ∈ extensionLists, (statedKeys (manifest.get label)).Nodup := by
  obtain ⟨manifest, stated, hsource⟩ := starterSource_of_load h
  obtain ⟨loaded, hloaded⟩ := hsource.described
  obtain ⟨packManifest, text, hresolved, hread, htext, hpackKey⟩ := loadPackProject_ok hloaded
  have hbundle : loadApplicationBundleFromManifest host disk path = .ok project.bundle := by
    rw [loadApplicationBundleFromManifest, h]
    rfl
  constructor
  · rintro ⟨bundle, hok, hconsistent⟩
    rw [hbundle] at hok
    cases hok
    obtain ⟨loaded', hloaded', hkey, -⟩ := hconsistent.pack
    rw [hloaded] at hloaded'
    cases hloaded'
    refine ⟨manifest, loaded.manifestPath, packManifest, hsource.read, hresolved, hread,
      ⟨stated, text, hsource.key, htext, ?_⟩, ?_⟩
    · rw [← hsource.packKey, ← hpackKey]
      exact hkey
    · simp only [extensionLists, List.forall_mem_cons, List.not_mem_nil, false_implies,
        implies_true, and_true]
      rw [← hsource.policyChecks, ← hsource.reportExporters, ← hsource.artifactViews,
        ← hsource.integrations]
      exact ⟨hconsistent.policyChecks, hconsistent.reportExporters, hconsistent.artifactViews,
        hconsistent.integrations⟩
  · rintro ⟨manifest', packManifestPath', packManifest', hread', hresolved', hreadPack',
      ⟨stated', text', hkey', htext', hagree⟩, hlists⟩
    rw [hsource.read] at hread'
    cases hread'
    rw [hresolved] at hresolved'
    cases hresolved'
    rw [hread] at hreadPack'
    cases hreadPack'
    rw [hsource.key] at hkey'
    cases hkey'
    rw [htext] at htext'
    cases htext'
    have hkey : project.packKey.text = loaded.pack.key := by
      rw [hsource.packKey, hagree, hpackKey]
    simp only [extensionLists, List.forall_mem_cons, List.not_mem_nil, false_implies,
      implies_true, and_true] at hlists
    rw [← hsource.policyChecks, ← hsource.reportExporters, ← hsource.artifactViews,
      ← hsource.integrations] at hlists
    exact ⟨project.bundle, hbundle,
      { pack := ⟨loaded, hloaded, hkey, getConfigPack_installedOnly hlower hloaded hkey⟩
        policyChecks := hlists.1
        reportExporters := hlists.2.1
        artifactViews := hlists.2.2.1
        integrations := hlists.2.2.2 }⟩

end

/-! ## A key with an underscore -/

/-- A host for a starter manifest and a pack manifest with one role. -/
def manifestHost (starter pack : Json) : ProjectHost where
  py := asciiExtensions.py
  workingDir := []
  expandUser := id
  safeLoad := fun text => .ok (if text = "starter" then starter else pack)
  osError := fun _ => ""
  parseFloat := fun _ => none
  floatError := fun _ => ""

def starterDisk : ProjectDisk :=
  Dict.empty.update [(["s".toList, starterManifestName.toList], .file (some "starter")),
    (["s".toList, packManifestName.toList], .file (some "pack")),
    (["s".toList, "analyst.md".toList], .file (some "Analyze."))]

def starterManifest (packKey : String) : Json :=
  .obj [("key", .str "release"), ("title", .str "Release"), ("summary", .str "Releases."),
    ("package_name", .str "release_starter"), ("pack", .obj [("key", .str packKey)])]

def packManifest (packKey : String) : Json :=
  .obj [("key", .str packKey), ("title", .str "Release"), ("summary", .str "Releases."),
    ("preset", .str "strict"), ("goal_profile", .str "high-quality"),
    ("roles", .arr [.obj [("key", .str "analyst"), ("responsibility", .str "Analyze."),
      ("prompt_file", .str "analyst.md")]])]

def releaseHost (packKey : String) : ProjectHost :=
  manifestHost (starterManifest packKey) (packManifest packKey)

def starterPath : String := "/s/ese_starter.yaml"

theorem releaseHost_lowersAscii (packKey : String) : LowersAscii (releaseHost packKey).py :=
  fun _ _ => rfl

def statedPack (project : StarterProject) : String × Location :=
  (project.packKey.text, project.packManifestPath)

theorem releaseGate_read :
    (loadStarterProject (releaseHost "release-gate") starterDisk (some starterPath)).toOption.map
      statedPack = some ("release-gate", ["s".toList, packManifestName.toList]) := by
  decide +kernel

theorem starter_self_consistent_releaseGate : ∃ project,
    loadStarterProject (releaseHost "release-gate") starterDisk (some starterPath) = .ok project ∧
      ((∃ bundle, loadApplicationBundleFromManifest (releaseHost "release-gate") starterDisk
            (some starterPath) = .ok bundle ∧
          SelfConsistent (releaseHost "release-gate") starterDisk project.packManifestPath bundle) ↔
        ∃ manifest packManifestPath packManifest,
          readManifestYaml (releaseHost "release-gate") starterDisk .starterProject "Manifest"
            project.manifestPath = .ok manifest ∧
          resolvePackManifest (releaseHost "release-gate") starterDisk
            (some (render project.packManifestPath)) = .ok packManifestPath ∧
          readManifestYaml (releaseHost "release-gate") starterDisk .packProject "manifest"
            packManifestPath = .ok packManifest ∧
          StatedKeysAgree (releaseHost "release-gate").py manifest packManifest ∧
          ∀ label ∈ extensionLists, (statedKeys (manifest.get label)).Nodup) := by
  obtain ⟨project, hproject, -⟩ := Option.map_eq_some_iff.mp releaseGate_read
  have hload := Fallible.toOption_eq_some_iff.mp hproject
  exact ⟨project, hload, starter_self_consistent_iff (releaseHost_lowersAscii _) hload⟩

/-- Both manifests state "release_gate", and the starter looks for "release-gate". -/
theorem underscored_key_unfound :
    ¬ ∀ (host : ProjectHost) (disk : ProjectDisk) (path : Option String) (project : StarterProject),
      LowersAscii host.py → loadStarterProject host disk path = .ok project →
        ∃ bundle, loadApplicationBundleFromManifest host disk path = .ok bundle ∧
          SelfConsistent host disk project.packManifestPath bundle := by
  intro hall
  have hread : (loadStarterProject (releaseHost "release_gate") starterDisk
      (some starterPath)).toOption.map statedPack =
        some ("release-gate", ["s".toList, packManifestName.toList]) := by
    decide +kernel
  have hpack : (loadPackProject (releaseHost "release_gate") starterDisk
      (some (render ["s".toList, packManifestName.toList]))).toOption.map (·.pack.key) =
        some "release_gate" := by
    decide +kernel
  obtain ⟨project, hproject, hstated⟩ := Option.map_eq_some_iff.mp hread
  have hload := Fallible.toOption_eq_some_iff.mp hproject
  rw [statedPack, Prod.mk.injEq] at hstated
  obtain ⟨bundle, hbundle, hconsistent⟩ := hall _ _ _ project (releaseHost_lowersAscii _) hload
  obtain ⟨loaded, hloaded, hkey, -⟩ := hconsistent.pack
  rw [loadApplicationBundleFromManifest, hload] at hbundle
  cases hbundle
  rw [hstated.2] at hloaded
  rw [hloaded] at hpack
  have hsame : project.packKey.text = loaded.pack.key := hkey
  rw [hstated.1] at hsame
  have hunderscored : loaded.pack.key = "release_gate" := Option.some.inj hpack
  rw [hunderscored] at hsame
  revert hsame
  decide

end TruePresenceESE.Ese
