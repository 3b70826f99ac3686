import TruePresenceESE.Ese.Registries
import TruePresenceESE.Lib.Fallible
import TruePresenceESE.Lib.PosixPath

/-! # Config packs and their projects

A pack project is a manifest with prompt files next to it. The manifest is looked for below
a directory, read, and turned into the definition of a pack. Installed packs are found
through entry points and looked up by their key in lower case.
-/

namespace TruePresenceESE.Ese

open PosixPath PyText PyValue

/-! ## The disk -/

inductive Node where
  /-- What text mode reads; there is no text if the bytes are no UTF-8. -/
  | file (text : Option String)
  | directory
  | special

abbrev ProjectDisk := Dict Location Node

inductive YamlFailure where
  /-- `yaml.YAMLError` -/
  | yamlError (text : String)
  | other (exception : String)

/-- What the loaders of projects are run with. -/
structure ProjectHost where
  py : Interpreter
  workingDir : Location
  expandUser : String → String
  safeLoad : String → Except YamlFailure Json
  /-- The text of the `OSError` raised for a file that cannot be read. -/
  osError : Location → String
  parseFloat : String → Option ℚ
  /-- The text of the `TypeError` or `ValueError` that `float` raises. -/
  floatError : Json → String

inductive ProjectError where
  | packProject (message : String)
  | starterProject (message : String)
  | value (message : String)
  | escaped (exception : String)
  deriving DecidableEq

def ProjectError.text : ProjectError → String
  | .packProject message => message
  | .starterProject message => message
  | .value message => message
  | .escaped exception => exception

def skipDiscoveryParts : List String :=
  [".git", ".hg", ".mypy_cache", ".pytest_cache", ".ruff_cache", ".svn", ".venv", "__pycache__",
    "node_modules", "venv"]

/-- `sorted(root.rglob(name))` without what lies in skipped directories. -/
def manifestsNamed (disk : ProjectDisk) (root : Location) (name : String) : List Location :=
  (disk.keys.filter fun location =>
    root.isPrefixOf location && location.length ≠ root.length &&
      location.getLast? == some name.toList &&
      !(location.drop root.length).any fun part =>
        String.ofList part ∈ skipDiscoveryParts).mergeSort fun a b => a ≤ b

/-- A path below the root as it is printed. -/
def shownBelow (candidate : String) (root location : Location) : String :=
  pathText (join candidate (String.ofList (List.intercalate ['/'] (location.drop root.length))))

section
variable (host : ProjectHost) (disk : ProjectDisk)

/-- `Path(path or ".").expanduser()`, as text. -/
def candidatePath (path : Option String) : String :=
  host.expandUser (if path.getD "" = "" then "." else path.getD "")

def ProjectHost.locate (path : String) : Location := resolve host.workingDir path

/-- Reading a manifest, where `fail` is the error class and `word` begins its texts. -/
def readManifestYaml (fail : String → ProjectError) (word : String) (location : Location) :
    Except ProjectError JsonDict :=
  match disk.get? location with
  | some (.file (some text)) =>
      match host.safeLoad text with
      | .ok (.obj fields) => .ok (JsonDict.ofFields fields)
      | .ok _ => .error (fail (word ++ " " ++ render location ++ " must be a mapping"))
      | .error (.yamlError err) =>
          .error (fail ("Manifest " ++ render location ++ " is not valid YAML: " ++ err))
      | .error (.other exception) => .error (.escaped exception)
  | some (.file none) => .error (.escaped "UnicodeDecodeError")
  | _ => .error (fail ("Could not read manifest " ++ render location ++ ": " ++
      host.osError location))

end

/-! ## Definitions of packs -/

def configPackEntryPointGroup : String := "ese.config_packs"

structure PackRole where
  key : String
  responsibility : String
  prompt : String
  temperature : ℚ

structure ConfigPack where
  key : String
  title : CleanText
  summary : CleanText
  preset : CleanText
  goalProfile : CleanText
  roles : List PackRole
  contractVersion : ℤ
  roles_ne_nil : roles ≠ []
  roleKeys_nodup : (roles.map PackRole.key).Nodup
  version_expected : contractVersion = expectedVersion

inductive RawRole where
  | definition (role : PackRole)
  | mapping (fields : JsonDict)
  | other

/-- The fields of a pack as they are provided; there are no roles if they cannot be
iterated over. -/
structure RawPack where
  key : Json
  title : Json
  summary : Json
  preset : Json
  goalProfile : Json
  roles : Option (List RawRole)
  contractVersion : VersionField

def ConfigPack.raw (pack : ConfigPack) : RawPack where
  key := .str pack.key
  title := .str pack.title.text
  summary := .str pack.summary.text
  preset := .str pack.preset.text
  goalProfile := .str pack.goalProfile.text
  roles := some (pack.roles.map .definition)
  contractVersion := .integer pack.contractVersion

/-- What a normalisation raises. -/
inductive PackFault where
  /-- `TypeError` or `ValueError` -/
  | rejected (message : String)
  /-- `OverflowError` -/
  | overflow

def PackFault.text : PackFault → String
  | .rejected message => message
  | .overflow => "int too large to convert to float"

/-- The first key that occurs a second time. -/
def firstRepeated (seen : List String) : List String → Option String
  | [] => none
  | key :: rest => if key ∈ seen then some key else firstRepeated (key :: seen) rest

theorem nodup_of_firstRepeated {seen keys : List String} (h : firstRepeated seen keys = none) :
    keys.Nodup ∧ ∀ key ∈ keys, key ∉ seen := by
  induction keys generalizing seen with
  | nil => exact ⟨List.nodup_nil, by simp⟩
  | cons key rest ih =>
      rw [firstRepeated] at h
      split at h
      · cases h
      · next hkey =>
          obtain ⟨hnodup, hseen⟩ := ih h
          have hrest : key ∉ rest := fun hmem => hseen key hmem List.mem_cons_self
          refine ⟨List.nodup_cons.mpr ⟨hrest, hnodup⟩, ?_⟩
          rw [List.forall_mem_cons]
          exact ⟨hkey, fun k hk hmem => hseen k hk (List.mem_cons_of_mem key hmem)⟩

theorem firstRepeated_of_nodup {seen keys : List String} (hnodup : keys.Nodup)
    (hseen : ∀ key ∈ keys, key ∉ seen) : firstRepeated seen keys = none := by
  induction keys generalizing seen with
  | nil => rfl
  | cons key rest ih =>
      rw [List.nodup_cons] at hnodup
      rw [List.forall_mem_cons] at hseen
      rw [firstRepeated, if_neg hseen.1]
      apply ih hnodup.2
      intro k hk hmem
      rcases List.mem_cons.mp hmem with heq | hmem
      · exact hnodup.1 (heq ▸ hk)
      · exact hseen.2 k hk hmem

section
variable (host : ProjectHost)

def roleTemperature (value : Json) : Except PackFault ℚ :=
  match toFloat host.parseFloat value with
  | .ok q => .ok q
  | .error .overflowError => .error .overflow
  | .error _ => .error (.rejected (host.floatError value))

def packText (label : String) (value : Json) : Except PackFault CleanText :=
  (normalizeNonEmpty label value).mapError .rejected

def normalizeRoleDefinition : RawRole → Except PackFault PackRole
  | .definition role => .ok role
  | .mapping fields => do
      let key ← packText "pack role key" (fields.get "key")
      let responsibility ← packText "pack role responsibility" (fields.get "responsibility")
      let prompt ← packText "pack role prompt" (fields.get "prompt")
      let temperature ← roleTemperature host (fields.getOr "temperature" (.num (1 / 5)))
      return ⟨key.text, responsibility.text, prompt.text, temperature⟩
  | .other =>
      .error (.rejected "Pack roles must be PackRoleDefinition instances or mappings")

theorem normalizeContractVersion_expected {name : String} {field : VersionField} {version : ℤ}
    (h : normalizeContractVersion name field = .ok version) : version = expectedVersion := by
  unfold normalizeContractVersion at h
  split at h
  · cases h
    rfl
  · cases h
  · split at h
    · next heq =>
        cases h
        exact heq
    · cases h

def normalizeConfigPackDefinition (raw : RawPack) : Except PackFault ConfigPack := do
  let some rawRoles := raw.roles
    | throw (.rejected "config pack roles must be an iterable of role definitions")
  let roles ← rawRoles.mapM (normalizeRoleDefinition host)
  if hne : roles = [] then throw (.rejected "config pack roles must not be empty")
  else
    match hkeys : firstRepeated [] (roles.map PackRole.key) with
    | some key =>
        throw (.rejected ("config pack roles contain duplicate key '" ++ key ++ "'"))
    | none => do
        let key ← packText "config pack key" raw.key
        let title ← packText "config pack title" raw.title
        let summary ← packText "config pack summary" raw.summary
        let preset ← packText "config pack preset" raw.preset
        let goalProfile ← packText "config pack goal profile" raw.goalProfile
        match hversion : normalizeContractVersion "config pack" raw.contractVersion with
        | .error message => throw (.rejected message)
        | .ok version =>
            return ⟨host.py.lower key.text, title, summary, preset, goalProfile, roles, version, hne,
              (nodup_of_firstRepeated hkeys).1, normalizeContractVersion_expected hversion⟩

end

/-! ## Installed packs -/

/-- What an iterable of packs gives. -/
inductive PackItem where
  | pack (raw : RawPack)
  | other

inductive PackProvider where
  | single (raw : RawPack)
  /-- The items, and how iterating over them ends. -/
  | many (items : List PackItem) (finish : Outcome Unit)
  | other

inductive PackEntryValue where
  | plain (provider : PackProvider)
  | factory (call : Outcome PackProvider)

structure PackEntryPoint where
  /-- `getattr(entry_point, "name", …)` -/
  name : Json
  load : Outcome PackEntryValue

structure ConfigPackLoadFailure where
  entryPoint : CleanText
  error : String

section
variable (host : ProjectHost)

def iterPackItems (finish : Outcome Unit) : List PackItem → List ConfigPack × Outcome Unit
  | [] => ([], finish)
  | .other :: _ => ([], .raises
      "Config pack providers must return ConfigPackDefinition instances or mappings")
  | .pack raw :: rest =>
      match normalizeConfigPackDefinition host raw with
      | .error fault => ([], .raises fault.text)
      | .ok pack =>
          let (packs, ending) := iterPackItems finish rest
          (pack :: packs, ending)

/-- The packs that a value gives before it ends or raises. -/
def iterLoadedPackDefinitions : PackProvider → List ConfigPack × Outcome Unit
  | .single raw => iterPackItems host (.returns ()) [.pack raw]
  | .many items finish => iterPackItems host finish items
  | .other => ([], .raises
      "Config pack providers must return a pack definition or an iterable of definitions")

def loadPackEntry (entry : PackEntryPoint) :
    Except ExtensionError (List ConfigPack × Option ConfigPackLoadFailure) := do
  let name ← (normalizeNonEmpty "entry point name" entry.name).mapError .invalidEntryPoint
  let provided : Outcome PackProvider :=
    match entry.load with
    | .returns (.plain provider) => .returns provider
    | .returns (.factory call) => call
    | .raises message => .raises message
    | .exits exception => .exits exception
  match provided with
  | .exits exception => throw (.exits exception)
  | .raises message => return ([], some ⟨name, message⟩)
  | .returns provider =>
      match iterLoadedPackDefinitions host provider with
      | (packs, .returns ()) => return (packs, none)
      | (packs, .raises message) => return (packs, some ⟨name, message⟩)
      | (_, .exits exception) => throw (.exits exception)

def discoverConfigPacks (entries : List PackEntryPoint) :
    Except ExtensionError (List ConfigPack × List ConfigPackLoadFailure) := do
  let loaded ← entries.mapM (loadPackEntry host)
  let byKey := Dict.firstBy ConfigPack.key (loaded.flatMap Prod.fst)
  return (byKey.sortedValues byKey.keys, loaded.filterMap Prod.snd)

/-- What a lookup raises: `KeyError`, or what discovery does. -/
def getConfigPack (entries : List PackEntryPoint) (key : String) :
    Except LookupError ConfigPack := do
  let (packs, _) ← (discoverConfigPacks host entries).mapError .discovery
  match packs.find? fun pack => pack.key = host.py.lower (strip key) with
  | some pack => return pack
  | none => throw (.invalidKey ("Unknown config pack '" ++ key ++
      "'. Install a pack exposing the '" ++ configPackEntryPointGroup ++ "' entry point group."))

end

/-! ## Pack projects -/

def packManifestName : String := "ese_pack.yaml"

def goalProfiles : List String := ["fast", "balanced", "high-quality", "security-heavy"]

def presetToGoalProfile : List (String × String) :=
  [("fast", "fast"), ("balanced", "balanced"), ("strict", "high-quality"),
    ("paranoid", "security-heavy")]

structure PackProject where
  manifestPath : Location
  pack : ConfigPack
  promptFiles : List Location

def versionField : Json → VersionField
  | .null => .absent
  | .num q => if q.den = 1 then .integer q.num else .other
  | _ => .other

def validatePackCompatibility (pack : ConfigPack) : Except ProjectError Unit :=
  let goal := pack.goalProfile.text
  let preset := pack.preset.text
  if goal ∉ goalProfiles then
    .error (.packProject ("Unsupported goal_profile '" ++ goal ++ "'. Expected one of: " ++
      String.intercalate ", " goalProfiles))
  else match presetToGoalProfile.lookup preset with
    | none => .error (.packProject ("Unsupported preset '" ++ preset ++ "'. Expected one of: " ++
        String.intercalate ", " ((presetToGoalProfile.map Prod.fst).mergeSort fun a b => a ≤ b)))
    | some expectedGoal =>
        if goal ≠ expectedGoal then
          .error (.packProject ("Pack preset '" ++ preset ++ "' expects goal_profile '" ++
            expectedGoal ++ "', but manifest declares '" ++ goal ++ "'."))
        else .ok ()

section
variable (host : ProjectHost) (disk : ProjectDisk)

def resolvePackManifest (path : Option String) : Except ProjectError Location :=
  let candidate := candidatePath host path
  let root := host.locate candidate
  match disk.get? root with
  | none => .error (.packProject ("Pack path does not exist: " ++ pathText candidate))
  | some (.file _) => .ok root
  | some .special => .error (.packProject
      ("Pack path must be a directory or manifest file: " ++ pathText candidate))
  | some .directory =>
      match manifestsNamed disk root packManifestName with
      | [] => .error (.packProject
          ("No " ++ packManifestName ++ " manifest found under " ++ render root ++ "."))
      | [manifest] => .ok manifest
      | manifests => .error (.packProject ("Multiple " ++ packManifestName ++
          " manifests found under " ++ render root ++ ": " ++
          String.intercalate ", " (manifests.map (shownBelow candidate root))))

/-- The prompt file of a role and the role that is normalised. -/
def readPackRole (manifestPath : Location) (entry : Json × ℕ) :
    Except ProjectError (Location × RawRole) := do
  let label := "roles[" ++ toString entry.2 ++ "]"
  let .obj fields := entry.1
    | throw (.packProject (label ++ " must be a mapping"))
  let role := JsonDict.ofFields fields
  let promptFile ← (normalizeNonEmpty (label ++ ".prompt_file")
    (role.get "prompt_file")).mapError .packProject
  let promptPath := resolve manifestPath.dropLast promptFile.text
  match disk.get? promptPath with
  | none => throw (.packProject
      (label ++ ".prompt_file points to a missing file: " ++ render promptPath))
  | some (.file none) => throw (.escaped "UnicodeDecodeError")
  | some (.file (some text)) =>
      if strip text = "" then
        throw (.packProject ("Prompt file must not be empty: " ++ render promptPath))
      else return (promptPath, .mapping (JsonDict.ofFields
        [("key", role.get "key"), ("responsibility", role.get "responsibility"),
          ("prompt", .str (strip text)), ("temperature", role.getOr "temperature" (.num (1 / 5)))]))
  | some _ => throw (.packProject
      ("Could not read prompt file " ++ render promptPath ++ ": " ++ host.osError promptPath))

def packManifestRaw (manifest : JsonDict) (roles : List RawRole) : RawPack where
  key := manifest.get "key"
  title := manifest.get "title"
  summary := manifest.get "summary"
  preset := manifest.get "preset"
  goalProfile := manifest.get "goal_profile"
  roles := some roles
  contractVersion := versionField (manifest.getOr "contract_version" (.num expectedVersion))

def PackFault.asProject : PackFault → ProjectError
  | .rejected message => .packProject message
  | .overflow => .escaped "OverflowError"

def loadPackProject (path : Option String) : Except ProjectError PackProject := do
  let manifestPath ← resolvePackManifest host disk path
  let manifest ← readManifestYaml host disk .packProject "manifest" manifestPath
  let .arr (first :: rest) := manifest.get "roles"
    | throw (.packProject "manifest roles must be a non-empty list")
  let roles ← ((first :: rest).zipIdx).mapM (readPackRole host disk manifestPath)
  let pack ← (normalizeConfigPackDefinition host
    (packManifestRaw manifest (roles.map Prod.snd))).mapError PackFault.asProject
  validatePackCompatibility pack
  return ⟨manifestPath, pack, roles.map Prod.fst⟩

def describePackProject (path : Option String) : Except ProjectError JsonDict := do
  let project ← loadPackProject host disk path
  return JsonDict.ofFields
    [("manifest_path", .str (render project.manifestPath)), ("pack_key", .str project.pack.key),
      ("title", .str project.pack.title.text), ("summary", .str project.pack.summary.text),
      ("preset", .str project.pack.preset.text),
      ("goal_profile", .str project.pack.goalProfile.text),
      ("contract_version", .num project.pack.contractVersion),
      ("role_count", .num project.pack.roles.length),
      ("roles", .arr (project.pack.roles.map fun role => .str role.key)),
      ("prompt_files", .arr (project.promptFiles.map fun file => .str (render file)))]

end

/-! ## What a pack is read from -/

section
variable {host : ProjectHost} {disk : ProjectDisk}

theorem normalizeNonEmpty_ok_iff {label : String} {value : Json} {clean : CleanText} :
    normalizeNonEmpty label value = .ok clean ↔ ∃ text, value = .str text ∧ clean.text = strip text := by
  unfold normalizeNonEmpty
  split
  · next text =>
      constructor
      · intro h
        split at h
        · cases h
        · cases h
          exact ⟨text, rfl, rfl⟩
      · rintro ⟨text', heq, hclean⟩
        cases heq
        have hne : strip text ≠ "" := hclean ▸ clean.ne_empty
        rw [dif_neg hne, Except.ok.injEq]
        exact CleanText.ext hclean.symm
  · next hother =>
      constructor
      · intro h
        cases h
      · rintro ⟨text, heq, -⟩
        exact absurd heq (hother text)

/-- The key of a pack is the provided text, trimmed and in lower case. -/
theorem normalizeConfigPackDefinition_key {raw : RawPack} {pack : ConfigPack}
    (h : normalizeConfigPackDefinition host raw = .ok pack) :
    ∃ text, raw.key = .str text ∧ pack.key = host.py.lower (strip text) := by
  unfold normalizeConfigPackDefinition at h
  split at h
  · obtain ⟨roles, -, h⟩ := Fallible.bind_eq_ok_iff.mp h
    split at h
    · cases h
    · split at h
      · cases h
      · obtain ⟨key, hkey, h⟩ := Fallible.bind_eq_ok_iff.mp h
        obtain ⟨title, -, h⟩ := Fallible.bind_eq_ok_iff.mp h
        obtain ⟨summary, -, h⟩ := Fallible.bind_eq_ok_iff.mp h
        obtain ⟨preset, -, h⟩ := Fallible.bind_eq_ok_iff.mp h
        obtain ⟨goalProfile, -, h⟩ := Fallible.bind_eq_ok_iff.mp h
        split at h
        · cases h
        · cases h
          obtain ⟨text, htext, hclean⟩ := normalizeNonEmpty_ok_iff.mp (Fallible.mapError_eq_ok_iff.mp hkey)
          exact ⟨text, htext, by rw [hclean]⟩
  · cases h

theorem mapM_definition (roles : List PackRole) :
    (roles.map RawRole.definition).mapM (normalizeRoleDefinition host) = .ok roles := by
  induction roles with
  | nil => rfl
  | cons role rest ih =>
      rw [List.map_cons, List.mapM_cons, ih]
      rfl

theorem packText_clean (label : String) (clean : CleanText) :
    packText label (.str clean.text) = .ok clean := by
  rw [packText, normalizeNonEmpty_clean]
  rfl

/-- Normalising changes a pack at most in its key. -/
theorem normalizeConfigPackDefinition_raw {pack : ConfigPack} {key : CleanText}
    (hkey : key.text = pack.key) (hlower : host.py.lower pack.key = pack.key) :
    normalizeConfigPackDefinition host pack.raw = .ok pack := by
  have hrepeated : firstRepeated [] (pack.roles.map PackRole.key) = none :=
    firstRepeated_of_nodup pack.roleKeys_nodup (by simp)
  have hversion : normalizeContractVersion "config pack" (.integer pack.contractVersion) =
      .ok pack.contractVersion := by
    rw [normalizeContractVersion, if_pos pack.version_expected]
  have hkeytext : packText "config pack key" (.str pack.key) = .ok key := by
    rw [← hkey]
    exact packText_clean _ key
  unfold normalizeConfigPackDefinition ConfigPack.raw
  simp only [mapM_definition, bind, Except.bind, dif_neg pack.roles_ne_nil]
  split
  · next repeated hsome =>
      rw [hrepeated] at hsome
      cases hsome
  · simp only [hkeytext, packText_clean]
    split
    · next message herror =>
        rw [hversion] at herror
        cases herror
    · next version hok =>
        rw [hversion] at hok
        cases hok
        simp only [pure, Except.pure, hkey, hlower]

/-- A single pack is found under its key. -/
theorem getConfigPack_single {pack : ConfigPack} {name key : CleanText} {raw : RawPack}
    (hpack : normalizeConfigPackDefinition host raw = .ok pack)
    (hkey : host.py.lower key.text = pack.key) :
    getConfigPack host [⟨.str name.text, .returns (.factory (.returns (.single raw)))⟩] key.text =
      .ok pack := by
  have hload : loadPackEntry host ⟨.str name.text, .returns (.factory (.returns (.single raw)))⟩ =
      .ok ([pack], none) := by
    unfold loadPackEntry iterLoadedPackDefinitions iterPackItems
    simp only [normalizeNonEmpty_clean, hpack]
    rfl
  have hdiscover : discoverConfigPacks host
      [⟨.str name.text, .returns (.factory (.returns (.single raw)))⟩] = .ok ([pack], []) := by
    unfold discoverConfigPacks
    rw [List.mapM_cons, hload]
    have hsorted : (Dict.firstBy ConfigPack.key [pack]).sortedValues
        (Dict.firstBy ConfigPack.key [pack]).keys = [pack] := by
      have hkeys : (Dict.firstBy ConfigPack.key [pack]).keys = [pack.key] := rfl
      rw [hkeys, Dict.sortedValues, List.mergeSort_singleton, List.filterMap_cons,
        Dict.get?_firstBy]
      simp
    show Except.ok ((Dict.firstBy ConfigPack.key [pack]).sortedValues
      (Dict.firstBy ConfigPack.key [pack]).keys, ([] : List ConfigPackLoadFailure)) = _
    rw [hsorted]
  unfold getConfigPack
  rw [hdiscover, key.stripped]
  simp only [Except.mapError, bind, Except.bind, List.find?_cons, hkey, decide_true]
  rfl

/-- What an accepted pack project was read from. -/
theorem loadPackProject_ok {path : Option String} {project : PackProject}
    (h : loadPackProject host disk path = .ok project) :
    ∃ manifest text, resolvePackManifest host disk path = .ok project.manifestPath ∧
      readManifestYaml host disk .packProject "manifest" project.manifestPath = .ok manifest ∧
      manifest.get "key" = .str text ∧ project.pack.key = host.py.lower (strip text) := by
  unfold loadPackProject at h
  obtain ⟨manifestPath, hpath, h⟩ := Fallible.bind_eq_ok_iff.mp h
  obtain ⟨manifest, hmanifest, h⟩ := Fallible.bind_eq_ok_iff.mp h
  split at h
  · obtain ⟨roles, -, h⟩ := Fallible.bind_eq_ok_iff.mp h
    obtain ⟨pack, hpack, h⟩ := Fallible.bind_eq_ok_iff.mp h
    obtain ⟨-, -, h⟩ := Fallible.bind_eq_ok_iff.mp h
    cases h
    obtain ⟨text, htext, hkey⟩ := normalizeConfigPackDefinition_key (Fallible.mapError_eq_ok_iff.mp hpack)
    exact ⟨manifest, text, hpath, hmanifest, htext, hkey⟩
  · cases h

end

end TruePresenceESE.Ese
