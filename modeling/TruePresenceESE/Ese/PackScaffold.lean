import TruePresenceESE.Ese.ScaffoldLayout
import TruePresenceESE.Ese.PackSmoke

/-! # Scaffolding packs

The arguments are cleaned, the directories are made, the files are written from templates,
and the manifest that has been written is loaded. That preset and goal profile fit together
is asked for the first time by the loading.
-/

namespace TruePresenceESE.Ese

open PosixPath PyText

/-! ## Manifests of packs -/

/-- A role as it is written: its entry in the manifest and the text of its prompt. -/
structure WrittenRole where
  key : String
  responsibility : String
  promptName : String
  prompt : String

def WrittenRole.promptFile (role : WrittenRole) : String := "prompts/" ++ role.promptName

def WrittenRole.entry (role : WrittenRole) : Json :=
  .obj [("key", .str role.key), ("responsibility", .str role.responsibility),
    ("prompt_file", .str role.promptFile), ("temperature", .num (1 / 5))]

/-- What a manifest of a pack says. -/
structure PackPayload where
  key : StarterKey
  title : String
  summary : String
  preset : String
  goal : String
  roles : List WrittenRole

def PackPayload.fields (payload : PackPayload) : List (String × Json) :=
  [("contract_version", .num expectedVersion), ("key", .str payload.key.text),
    ("title", .str payload.title), ("summary", .str payload.summary),
    ("preset", .str payload.preset), ("goal_profile", .str payload.goal),
    ("roles", .arr (payload.roles.map WrittenRole.entry))]

/-- Preset and goal profile fit together. -/
def PackPayload.Fits (payload : PackPayload) : Prop :=
  presetToGoalProfile.lookup (strip payload.preset) = some (strip payload.goal)

/-! ## Loading a manifest that has been written -/

/-- The texts of a role say something, and its prompt is a file. -/
structure WrittenRole.Stated (role : WrittenRole) : Prop where
  key : strip role.key ≠ ""
  responsibility : strip role.responsibility ≠ ""
  promptFile : strip role.promptFile = role.promptFile
  prompt : strip role.prompt ≠ ""

structure PackPayload.Stated (payload : PackPayload) : Prop where
  title : strip payload.title ≠ ""
  summary : strip payload.summary ≠ ""
  roles_ne_nil : payload.roles ≠ []
  roles : ∀ role ∈ payload.roles, role.Stated
  roleKeys_nodup : (payload.roles.map fun role => strip role.key).Nodup

/-- Manifest and prompts are there, and the manifest is read back as it was written. -/
structure PackOnDisk (host : ProjectHost) (disk : ProjectDisk) (manifestPath : Location)
    (payload : PackPayload) : Prop where
  manifest : ∃ text, disk.get? manifestPath = some (.file (some text)) ∧
    host.safeLoad text = .ok (.obj payload.fields)
  prompts : ∀ role ∈ payload.roles, ∃ text,
    disk.get? (resolve manifestPath.dropLast role.promptFile) = some (.file (some text)) ∧
      strip text ≠ ""

section
variable {host : ProjectHost} {disk : ProjectDisk} {manifestPath : Location}

theorem readManifestYaml_written {fail : String → ProjectError} {word text : String}
    {location : Location} {fields : List (String × Json)}
    (htext : disk.get? location = some (.file (some text)))
    (hload : host.safeLoad text = .ok (.obj fields)) :
    readManifestYaml host disk fail word location = .ok (JsonDict.ofFields fields) := by
  unfold readManifestYaml
  rw [htext]
  dsimp only
  rw [hload]

theorem packText_ok {label text : String} (h : strip text ≠ "") :
    packText label (.str text) = .ok ⟨strip text, strip_strip text, h⟩ := by
  rw [packText, normalizeNonEmpty, dif_neg h]
  rfl

/-- The fields of a role that has been written, with its prompt. -/
def WrittenRole.read (role : WrittenRole) (prompt : String) : JsonDict :=
  JsonDict.ofFields [("key", .str role.key), ("responsibility", .str role.responsibility),
    ("prompt", .str prompt), ("temperature", .num (1 / 5))]

theorem readPackRole_written {role : WrittenRole} {n : ℕ} {text : String} (h : role.Stated)
    (htext : disk.get? (resolve manifestPath.dropLast role.promptFile) = some (.file (some text)))
    (hprompt : strip text ≠ "") :
    readPackRole host disk manifestPath (role.entry, n) =
      .ok (resolve manifestPath.dropLast role.promptFile, .mapping (role.read (strip text))) := by
  have hne : role.promptFile ≠ "" := by
    intro hnil
    have hchars := congrArg String.toList hnil
    simp [WrittenRole.promptFile] at hchars
  have hname : (normalizeNonEmpty ("roles[" ++ toString n ++ "]" ++ ".prompt_file")
      (.str role.promptFile)).mapError ProjectError.packProject =
        .ok ⟨role.promptFile, h.promptFile, hne⟩ := by
    rw [normalizeNonEmpty_clean _ ⟨role.promptFile, h.promptFile, hne⟩]
    rfl
  unfold readPackRole WrittenRole.entry
  dsimp only
  show (_ >>= _) = _
  have hget : JsonDict.get (JsonDict.ofFields [("key", .str role.key),
      ("responsibility", .str role.responsibility), ("prompt_file", .str role.promptFile),
      ("temperature", .num (1 / 5))]) "prompt_file" = .str role.promptFile := rfl
  rw [hget, hname]
  dsimp only [bind, Except.bind]
  rw [htext]
  dsimp only
  rw [if_neg hprompt]
  rfl

theorem normalizeRoleDefinition_written {role : WrittenRole} {prompt : String} (h : role.Stated)
    (hprompt : strip prompt ≠ "") :
    normalizeRoleDefinition host (.mapping (role.read prompt)) =
      .ok ⟨strip role.key, strip role.responsibility, strip prompt, 1 / 5⟩ := by
  have htemperature : roleTemperature host (.num (1 / 5)) = .ok (1 / 5) := by
    rw [roleTemperature, PyValue.toFloat_small (by norm_num)]
  have hkey : (role.read prompt).get "key" = .str role.key := rfl
  have hresponsibility : (role.read prompt).get "responsibility" = .str role.responsibility := rfl
  have hpromptField : (role.read prompt).get "prompt" = .str prompt := rfl
  have htemperatureField :
      (role.read prompt).getOr "temperature" (.num (1 / 5)) = .num (1 / 5) := rfl
  unfold normalizeRoleDefinition
  dsimp only
  rw [hkey, hresponsibility, hpromptField, htemperatureField, packText_ok h.key,
    packText_ok h.responsibility, packText_ok hprompt, htemperature]
  rfl

/-- Roles that have been written are read, and come out under their keys. -/
theorem readRoles_written {roles : List WrittenRole} (hroles : ∀ role ∈ roles, role.Stated)
    (hprompts : ∀ role ∈ roles, ∃ text,
      disk.get? (resolve manifestPath.dropLast role.promptFile) = some (.file (some text)) ∧
        strip text ≠ "") (n : ℕ) :
    ∃ read clean, ((roles.map WrittenRole.entry).zipIdx n).mapM
        (readPackRole host disk manifestPath) = .ok read ∧
      (read.map Prod.snd).mapM (normalizeRoleDefinition host) = .ok clean ∧
      clean.map PackRole.key = roles.map fun role => strip role.key := by
  induction roles generalizing n with
  | nil => exact ⟨[], [], rfl, rfl, rfl⟩
  | cons role rest ih =>
      rw [List.forall_mem_cons] at hroles hprompts
      obtain ⟨text, htext, hprompt⟩ := hprompts.1
      obtain ⟨read, clean, hread, hclean, hkeys⟩ := ih hroles.2 hprompts.2 (n + 1)
      have hstrip : strip (strip text) ≠ "" := by rwa [strip_strip]
      refine ⟨(resolve manifestPath.dropLast role.promptFile, .mapping (role.read (strip text))) :: read,
        ⟨strip role.key, strip role.responsibility, strip (strip text), 1 / 5⟩ :: clean, ?_, ?_, ?_⟩
      · rw [List.map_cons, List.zipIdx_cons, List.mapM_cons,
          readPackRole_written hroles.1 htext hprompt, hread]
        rfl
      · rw [List.map_cons, List.mapM_cons, normalizeRoleDefinition_written hroles.1 hstrip, hclean]
        rfl
      · rw [List.map_cons, List.map_cons, hkeys]

/-- The preset and the goal profile of a pack are the provided texts, trimmed. -/
theorem normalizeConfigPackDefinition_texts {raw : RawPack} {pack : ConfigPack}
    (h : normalizeConfigPackDefinition host raw = .ok pack) :
    (∃ preset, raw.preset = .str preset ∧ pack.preset.text = strip preset) ∧
      ∃ goal, raw.goalProfile = .str goal ∧ pack.goalProfile.text = strip goal := by
  unfold normalizeConfigPackDefinition at h
  split at h
  · obtain ⟨roles, -, h⟩ := Fallible.bind_eq_ok_iff.mp h
    split at h
    · cases h
    · split at h
      · cases h
      · obtain ⟨key, -, h⟩ := Fallible.bind_eq_ok_iff.mp h
        obtain ⟨title, -, h⟩ := Fallible.bind_eq_ok_iff.mp h
        obtain ⟨summary, -, h⟩ := Fallible.bind_eq_ok_iff.mp h
        obtain ⟨preset, hpreset, h⟩ := Fallible.bind_eq_ok_iff.mp h
        obtain ⟨goalProfile, hgoal, h⟩ := Fallible.bind_eq_ok_iff.mp h
        split at h
        · cases h
        · cases h
          exact ⟨normalizeNonEmpty_ok_iff.mp (Fallible.mapError_eq_ok_iff.mp hpreset),
            normalizeNonEmpty_ok_iff.mp (Fallible.mapError_eq_ok_iff.mp hgoal)⟩
  · cases h

/-- A pack whose texts all say something is normalised. -/
theorem exists_normalizeConfigPackDefinition {raw : RawPack} {rawRoles : List RawRole}
    {roles : List PackRole} {key title summary preset goal : String}
    (hraw : raw = ⟨.str key, .str title, .str summary, .str preset, .str goal, some rawRoles,
      .integer expectedVersion⟩)
    (hroles : rawRoles.mapM (normalizeRoleDefinition host) = .ok roles) (hne : roles ≠ [])
    (hnodup : (roles.map PackRole.key).Nodup) (hkey : strip key ≠ "") (htitle : strip title ≠ "")
    (hsummary : strip summary ≠ "") (hpreset : strip preset ≠ "") (hgoal : strip goal ≠ "") :
    ∃ pack, normalizeConfigPackDefinition host raw = .ok pack ∧
      pack.preset.text = strip preset ∧ pack.goalProfile.text = strip goal := by
  have hrepeated : firstRepeated [] (roles.map PackRole.key) = none :=
    firstRepeated_of_nodup hnodup (by simp)
  have hversion : normalizeContractVersion "config pack" (.integer expectedVersion) =
      .ok expectedVersion := by
    rw [normalizeContractVersion, if_pos rfl]
  subst hraw
  unfold normalizeConfigPackDefinition
  simp only [hroles, bind, Except.bind, dif_neg hne]
  split
  · next repeated hsome =>
      rw [hrepeated] at hsome
      cases hsome
  · simp only [packText_ok hkey, packText_ok htitle, packText_ok hsummary, packText_ok hpreset,
      packText_ok hgoal]
    split
    · next message herror =>
        rw [hversion] at herror
        cases herror
    · exact ⟨_, rfl, rfl, rfl⟩

theorem lookup_ne_empty {preset goal : String}
    (h : presetToGoalProfile.lookup preset = some goal) : preset ≠ "" ∧ goal ≠ "" := by
  have hall : ∀ entry ∈ presetToGoalProfile, entry.1 ≠ "" ∧ entry.2 ≠ "" := by decide
  obtain ⟨front, back, heq, -⟩ := List.lookup_eq_some_iff.mp h
  exact hall (preset, goal) (by rw [heq]; simp)

/-- The preset and the goal profile that a pack project states fit together. -/
theorem loadPackProject_texts {path : Option String} {project : PackProject}
    (h : loadPackProject host disk path = .ok project) :
    ∃ manifest preset goal, resolvePackManifest host disk path = .ok project.manifestPath ∧
      readManifestYaml host disk .packProject "manifest" project.manifestPath = .ok manifest ∧
      manifest.get "preset" = .str preset ∧ manifest.get "goal_profile" = .str goal ∧
      presetToGoalProfile.lookup (strip preset) = some (strip goal) := by
  have hcompatible := (loadedPack_of_load h).compatible
  unfold loadPackProject at h
  obtain ⟨manifestPath, hpath, h⟩ := Fallible.bind_eq_ok_iff.mp h
  obtain ⟨manifest, hmanifest, h⟩ := Fallible.bind_eq_ok_iff.mp h
  split at h
  · obtain ⟨roles, -, h⟩ := Fallible.bind_eq_ok_iff.mp h
    obtain ⟨pack, hpack, h⟩ := Fallible.bind_eq_ok_iff.mp h
    obtain ⟨-, -, h⟩ := Fallible.bind_eq_ok_iff.mp h
    cases h
    obtain ⟨⟨preset, hpreset, hpresetText⟩, goal, hgoal, hgoalText⟩ :=
      normalizeConfigPackDefinition_texts (Fallible.mapError_eq_ok_iff.mp hpack)
    rw [hpresetText, hgoalText] at hcompatible
    exact ⟨manifest, preset, goal, hpath, hmanifest, hpreset, hgoal, hcompatible⟩
  · cases h

theorem loadPackProject_path {path : Option String} {project : PackProject}
    (h : loadPackProject host disk path = .ok project)
    (hpath : resolvePackManifest host disk path = .ok manifestPath) :
    project.manifestPath = manifestPath := by
  obtain ⟨-, -, -, hsame, -⟩ := loadPackProject_texts h
  rw [hpath] at hsame
  exact (Except.ok.inj hsame).symm

/-- A manifest that has been written is loaded exactly if its preset and its goal profile
fit together. -/
theorem loadPackProject_written_iff {path : Option String} {payload : PackPayload}
    (hpath : resolvePackManifest host disk path = .ok manifestPath) (hstated : payload.Stated)
    (hdisk : PackOnDisk host disk manifestPath payload) :
    (∃ project, loadPackProject host disk path = .ok project) ↔ payload.Fits := by
  obtain ⟨text, htext, hload⟩ := hdisk.manifest
  have hmanifest : readManifestYaml host disk .packProject "manifest" manifestPath =
      .ok (JsonDict.ofFields payload.fields) := readManifestYaml_written htext hload
  constructor
  · intro ⟨project, hproject⟩
    have hsame := loadPackProject_path hproject hpath
    obtain ⟨manifest, preset, goal, -, hread, hpreset, hgoal, hfit⟩ := loadPackProject_texts hproject
    rw [hsame, hmanifest] at hread
    cases hread
    cases hpreset
    cases hgoal
    exact hfit
  · intro hfit
    obtain ⟨hpreset, hgoal⟩ := lookup_ne_empty hfit
    obtain ⟨read, clean, hread, hclean, hkeys⟩ :=
      @readRoles_written host disk manifestPath _ hstated.roles hdisk.prompts 0
    have hentries : payload.roles.map WrittenRole.entry ≠ [] := fun hnil =>
      hstated.roles_ne_nil (List.map_eq_nil_iff.mp hnil)
    obtain ⟨first, rest, hroles⟩ := List.exists_cons_of_ne_nil hentries
    have hne : clean ≠ [] := by
      rintro rfl
      exact hstated.roles_ne_nil (List.map_eq_nil_iff.mp hkeys.symm)
    have hkey : strip payload.key.text ≠ "" := by
      rw [strip_starterKey]
      exact payload.key.ne_empty
    have hraw : packManifestRaw (JsonDict.ofFields payload.fields) (read.map Prod.snd) =
        ⟨.str payload.key.text, .str payload.title, .str payload.summary, .str payload.preset,
          .str payload.goal, some (read.map Prod.snd), .integer expectedVersion⟩ := rfl
    have hnodup : (clean.map PackRole.key).Nodup := by
      rw [hkeys]
      exact hstated.roleKeys_nodup
    obtain ⟨pack, hpack, hpresetText, hgoalText⟩ := exists_normalizeConfigPackDefinition hraw hclean
      hne hnodup hkey hstated.title hstated.summary hpreset hgoal
    have hvalid : validatePackCompatibility pack = .ok () := by
      rw [validatePackCompatibility_ok_iff, hpresetText, hgoalText]
      exact hfit
    have hlist : JsonDict.get (JsonDict.ofFields payload.fields) "roles" = .arr (first :: rest) := by
      rw [← hroles]
      rfl
    rw [hroles] at hread
    refine ⟨⟨manifestPath, pack, read.map Prod.fst⟩, ?_⟩
    unfold loadPackProject
    simp only [hpath, hmanifest, hlist, hread, hpack, hvalid, bind, Except.bind, Except.mapError, pure,
      Except.pure]

end

/-! ## The request for a pack -/

/-- What projects are scaffolded with. -/
structure ScaffoldHost where
  test : TestHost
  /-- What the system raises when it does not take a directory. -/
  refuses : Location → Option String
  safeDump : Json → String

def ScaffoldHost.target (host : ScaffoldHost) (request : ScaffoldRequest) : Location :=
  host.test.projects.locate (host.test.projects.expandUser request.targetDir)

def cleanPackKey (py : Interpreter) (value : String) : Except ProjectError StarterKey :=
  (cleanStarterKey py value).mapError fun _ =>
    .packProject "Pack key must contain at least one ASCII letter or digit."

def defaultPythonPackageName : StarterKey → String := defaultPackageName "pack"

def defaultDistributionName (key : StarterKey) : String := key.text ++ "-ese-pack"

def defaultPackSummary (py : Interpreter) (title : String) : String :=
  defaultSummary py "External ESE pack for " " workflows." title

def validatePythonPackageName : String → Except ProjectError PackageName :=
  cleanPackageName (.packProject ("Python package names must start with a letter or underscore " ++
    "and contain only letters, digits, and underscores."))

/-- The arguments of a scaffold for a pack once they are clean. -/
structure PackPlan where
  key : StarterKey
  title : String
  summary : String
  packageName : PackageName
  preset : CleanText
  goal : String
  deriving DecidableEq

/-- The texts made of the key clean it once more, which changes nothing. -/
def packPlan (py : Interpreter) (request : ScaffoldRequest) : Except ProjectError PackPlan := do
  let key ← cleanPackKey py request.key
  let title := textOr request.title (defaultPackTitle key)
  let summary := textOr request.summary (defaultPackSummary py title)
  let packageName ← validatePythonPackageName
    (textOr request.packageName (defaultPythonPackageName key))
  let preset ← (normalizeNonEmpty "preset" (.str request.preset)).mapError .packProject
  let goal := textOr request.goalProfile ((presetToGoalProfile.lookup preset.text).getD "")
  if goal = "" then
    throw (.packProject ("Unsupported preset '" ++ preset.text ++ "'. Expected one of: " ++
      String.intercalate ", " ((presetToGoalProfile.map Prod.fst).mergeSort fun a b => a ≤ b)))
  return ⟨key, title, summary, packageName, preset, goal⟩

/-! ## The files of a pack -/

def defaultRoleSpecs (key : StarterKey) (title : String) : List WrittenRole :=
  let stem := removeSuffix "_pack" (defaultPythonPackageName key)
  [{ key := stem ++ "_analyst"
     responsibility := "Analyze the scoped work from the " ++ title ++ " perspective."
     promptName := "analyst.md"
     prompt := "You are the primary analyst for the " ++ title ++ (" pack.\n\n" ++
       "Focus on the scoped task, identify the critical workstreams, list assumptions, " ++
       "and call out the highest-risk unknowns before implementation starts.") },
    { key := stem ++ "_reviewer"
      responsibility := "Challenge the " ++ title ++
        " analysis for gaps, risks, and missing evidence."
      promptName := "reviewer.md"
      prompt := "You are the adversarial reviewer for the " ++ title ++ (" pack.\n\n" ++
        "Inspect the scoped task and the analyst output, highlight weak assumptions, " ++
        "missing evidence, and operational or delivery blockers that would prevent safe " ++
        "execution.") }]

def PackPlan.payload (plan : PackPlan) : PackPayload where
  key := plan.key
  title := plan.title
  summary := plan.summary
  preset := plan.preset.text
  goal := plan.goal
  roles := defaultRoleSpecs plan.key plan.title

/-- The lines above the description. -/
def packProjectHead (key : StarterKey) : List String :=
  ["[build-system]",
    "requires = [\"setuptools>=69\", \"wheel\"]",
    "build-backend = \"setuptools.build_meta\"",
    "",
    "[project]",
    "name = \"" ++ defaultDistributionName key ++ "\"",
    "version = \"0.1.0\""]

/-- The lines below the description. -/
def packProjectTail (key : StarterKey) (package : PackageName) : List String :=
  ["readme = \"README.md\"",
    "requires-python = \">=3.10\"",
    "dependencies = [\"ese-cli>=1.0.0\"]",
    "",
    "[project.entry-points.\"ese.config_packs\"]",
    underscored key ++ " = \"" ++ package.text ++ ".pack:load_pack\"",
    "",
    "[tool.setuptools.packages.find]",
    "where = [\"src\"]",
    "",
    "[tool.setuptools.package-data]",
    "\"" ++ package.text ++ "\" = [\"" ++ packManifestName ++ "\", \"prompts/*.md\"]",
    ""]

def PackPlan.pyproject (plan : PackPlan) : String :=
  joinLines (packProjectHead plan.key ++ ("description = " ++ quoted plan.summary) ::
    packProjectTail plan.key plan.packageName)

def PackPlan.readme (plan : PackPlan) : String :=
  joinLines ["# " ++ plan.title, "", plan.summary, "", "## Development", "", "```bash",
    "pip install -e .", "ese pack validate .", "ese pack test .", "```", "",
    "Install the project into an environment with `ese-cli` to expose the pack through " ++
      "`ese packs`.", ""]

def packInit : String :=
  joinLines ["\"\"\"External ESE config pack.\"\"\"", "", "from .pack import load_pack", "",
    "__all__ = [\"load_pack\"]", ""]

def packLoader : String :=
  joinLines ["\"\"\"Entry point for the external ESE pack.\"\"\"", "", "from pathlib import Path", "",
    "from ese.pack_sdk import load_pack_definition_from_manifest", "", "", "def load_pack():",
    "    \"\"\"Return the ConfigPackDefinition exported by this package.\"\"\"",
    "    return load_pack_definition_from_manifest(Path(__file__).with_name(\"" ++
      packManifestName ++ "\"))", ""]

def PackPlan.files (host : ScaffoldHost) (plan : PackPlan) : List TemplateFile :=
  [⟨.target, "pyproject.toml", plan.pyproject⟩, ⟨.target, "README.md", plan.readme⟩,
    ⟨.package, "__init__.py", packInit⟩, ⟨.package, "pack.py", packLoader⟩,
    ⟨.package, packManifestName, host.safeDump (.obj plan.payload.fields)⟩] ++
  plan.payload.roles.map fun role => ⟨.prompts, role.promptName, role.prompt ++ "\n"⟩

/-! ## The scaffold -/

section
variable (host : ScaffoldHost) (disk : ProjectDisk) (request : ScaffoldRequest)

def scaffoldPackProject : Except ProjectError PackProject × ProjectDisk :=
  match packPlan host.test.projects.py request with
  | .error error => (.error error, disk)
  | .ok plan =>
      let target := host.target request
      match checkTarget .packProject "" disk target request.force with
      | .error error => (.error error, disk)
      | .ok () =>
          match writeProject host.refuses [target, packageDirectory target plan.packageName,
              promptsDirectory target plan.packageName] (fun _ disk => (none, disk))
              (placed target plan.packageName (plan.files host)) disk with
          | (some exception, disk') => (.error (.escaped exception), disk')
          | (none, disk') => (loadPackProject host.test.projects disk'
              (some (render (placeOf target plan.packageName (.package, packManifestName)))), disk')

/-- The description in the project file denotes the summary. -/
def PackPlan.Described (plan : PackPlan) (disk : ProjectDisk) (target : Location) : Prop :=
  Denotes QuotedText.toml disk (placeOf target plan.packageName (.target, "pyproject.toml"))
    (ended (packProjectHead plan.key) ++ "description = ") plan.summary
    ("\n" ++ joinLines (packProjectTail plan.key plan.packageName))

/-- No file is left, or the literals are right and the test accepts the project, by its
manifest and by its directory. -/
def PackSound : Prop :=
  match scaffoldPackProject host disk request with
  | (.error _, disk') => NoFileLeft disk disk'
  | (.ok project, disk') =>
      (∃ plan, packPlan host.test.projects.py request = .ok plan ∧
        plan.Described disk' (host.target request)) ∧
      ∀ location ∈ [project.manifestPath, host.target request], ∃ smoke,
        smokeTestPackProject host.test disk' (some (render location)) "openai" none = .ok smoke

/-- A dump is read back. -/
def ReadsBack (value : Json) : Prop :=
  host.test.projects.safeLoad (textMode (host.safeDump value)) = .ok value

end

/-- The manifest is accepted, the summary is plain, and the package is not skipped. -/
structure PackPlan.Works (plan : PackPlan) : Prop where
  fits : plan.payload.Fits
  summary : QuotedText.plain QuotedText.toml plan.summary.toList = true
  seen : plan.packageName.text ∉ skipDiscoveryParts

/-! ## What has been written is on the disk -/

section
variable {target : Location} {package : PackageName} {files : List TemplateFile}
  {disk disk' : ProjectDisk}

theorem resolve_promptFile {role : WrittenRole} {name : String}
    (hname : IsName role.promptName.toList) :
    resolve (placeOf target package (.package, name)).dropLast role.promptFile =
      placeOf target package (.prompts, role.promptName) := by
  have hprompts : IsName "prompts".toList := by unfold IsName; decide
  have habs : isAbs role.promptFile = false := by
    simp [isAbs, WrittenRole.promptFile]
  have hsegments : segments role.promptFile.toList = ["prompts".toList, role.promptName.toList] := by
    rw [WrittenRole.promptFile, String.toList_append]
    show segments ("prompts".toList ++ '/' :: role.promptName.toList) = _
    rw [segments_append_slash, segments_of_no_slash hprompts.1, segments_of_no_slash hname.1]
    rfl
  have hnames : ∀ s ∈ ["prompts".toList, role.promptName.toList], IsName s := by
    rw [List.forall_mem_cons, List.forall_mem_singleton]
    exact ⟨hprompts, hname⟩
  rw [resolve_of_not_isAbs habs, hsegments, placeOf, List.dropLast_concat, walk_names hnames]
  simp [placeOf, Place.location, packageDirectory, promptsDirectory]

theorem packOnDisk_written {host : ProjectHost} {payload : PackPayload} {dump : String}
    (hwritten : ProjectWritten disk disk' target (promptsDirectory target package)
      (placed target package files))
    (hmanifest : ⟨.package, packManifestName, dump⟩ ∈ files)
    (hread : host.safeLoad (textMode dump) = .ok (.obj payload.fields))
    (hprompts : ∀ role ∈ payload.roles, IsName role.promptName.toList ∧
      ∃ text, ⟨.prompts, role.promptName, text⟩ ∈ files ∧ strip text ≠ "") :
    PackOnDisk host disk' (placeOf target package (.package, packManifestName)) payload where
  manifest := ⟨_, hwritten.wrote _ (List.mem_map_of_mem hmanifest), hread⟩
  prompts role hrole := by
    obtain ⟨hname, text, hfile, htext⟩ := hprompts role hrole
    rw [resolve_promptFile hname]
    exact ⟨_, hwritten.wrote _ (List.mem_map_of_mem hfile), strip_textMode htext⟩

end

/-! ## What a plan says -/

/-- Keys of roles say something, and those of analysts and reviewers differ. -/
theorem strip_roleKeys {stem : String} (h : Blankless stem) :
    strip (stem ++ "_analyst") ≠ "" ∧ strip (stem ++ "_reviewer") ≠ "" ∧
      strip (stem ++ "_analyst") ≠ strip (stem ++ "_reviewer") := by
  have hanalyst : Blankless "_analyst" := by decide
  have hreviewer : Blankless "_reviewer" := by decide
  rw [(h.append hanalyst).strip_eq, (h.append hreviewer).strip_eq]
  refine ⟨?_, ?_, ?_⟩
  · intro hnil
    have hlength := congrArg (fun text => text.toList.length) hnil
    simp at hlength
  · intro hnil
    have hlength := congrArg (fun text => text.toList.length) hnil
    simp at hlength
  · intro heq
    have hchars := congrArg String.toList heq
    rw [String.toList_append, String.toList_append] at hchars
    exact absurd (List.append_cancel_left hchars) (by decide)

section
variable {py : Interpreter} {request : ScaffoldRequest} {plan : PackPlan}

theorem packPlan_ok (h : packPlan py request = .ok plan) :
    cleanStarterKey py request.key = .ok plan.key ∧ strip plan.title ≠ "" ∧
      strip plan.summary ≠ "" := by
  unfold packPlan at h
  obtain ⟨key, hkey, h⟩ := Fallible.bind_eq_ok_iff.mp h
  obtain ⟨packageName, -, h⟩ := Fallible.bind_eq_ok_iff.mp h
  obtain ⟨preset, -, h⟩ := Fallible.bind_eq_ok_iff.mp h
  dsimp only at h
  split at h
  · cases h
  · cases h
    have hclean := Fallible.mapError_eq_ok_iff.mp hkey
    refine ⟨hclean, strip_textOr _ (strip_defaultPackTitle hclean), strip_textOr _ ?_⟩
    rw [defaultPackSummary, defaultSummary]
    exact strip_append_ne_empty (strip_append_ne_empty (by decide) _) _

theorem blankless_roleStem (key : StarterKey) :
    Blankless (removeSuffix "_pack" (defaultPythonPackageName key)) :=
  (blankless_defaultPackageName (by decide) key).removeSuffix _

theorem defaultRoleSpecs_stated (key : StarterKey) (title : String) :
    ∀ role ∈ defaultRoleSpecs key title, role.Stated := by
  obtain ⟨hanalyst, hreviewer, -⟩ := strip_roleKeys (blankless_roleStem key)
  have hanalystFile : strip ("prompts/" ++ "analyst.md") = "prompts/" ++ "analyst.md" := by decide
  have hreviewerFile : strip ("prompts/" ++ "reviewer.md") = "prompts/" ++ "reviewer.md" := by decide
  have hprompts : strip "You are the primary analyst for the " ≠ "" ∧
      strip "You are the adversarial reviewer for the " ≠ "" := by
    decide
  unfold defaultRoleSpecs
  rw [List.forall_mem_cons, List.forall_mem_singleton]
  constructor
  · exact ⟨hanalyst, strip_append_ne_empty (strip_append_ne_empty (by decide) _) _, hanalystFile,
      strip_append_ne_empty (strip_append_ne_empty hprompts.1 _) _⟩
  · exact ⟨hreviewer, strip_append_ne_empty (strip_append_ne_empty (by decide) _) _, hreviewerFile,
      strip_append_ne_empty (strip_append_ne_empty hprompts.2 _) _⟩

theorem PackPlan.payload_stated (h : packPlan py request = .ok plan) : plan.payload.Stated where
  title := (packPlan_ok h).2.1
  summary := (packPlan_ok h).2.2
  roles_ne_nil := List.cons_ne_nil _ _
  roles := defaultRoleSpecs_stated plan.key plan.title
  roleKeys_nodup := by
    have hne := (strip_roleKeys (blankless_roleStem plan.key)).2.2
    show [_, _].Nodup
    simpa using hne

end

section
variable {host : ScaffoldHost} {plan : PackPlan}

/-- The files of a pack by their places and names. -/
def packFileNames : List (Place × String) :=
  [(.target, "pyproject.toml"), (.target, "README.md"), (.package, "__init__.py"),
    (.package, "pack.py"), (.package, packManifestName), (.prompts, "analyst.md"),
    (.prompts, "reviewer.md")]

theorem PackPlan.map_named_files : (plan.files host).map TemplateFile.named = packFileNames := rfl

theorem PackPlan.layout : Layout (plan.files host) where
  nodup := by
    rw [PackPlan.map_named_files]
    decide
  noDirectory := by
    rw [PackPlan.map_named_files]
    decide

theorem PackPlan.foundByName : FoundByName (plan.files host) packManifestName where
  mem := by
    rw [PackPlan.map_named_files]
    decide
  only := by
    rw [PackPlan.map_named_files]
    decide
  noDirectory := by decide
  seen := by decide

theorem PackPlan.onDisk {target : Location} {disk disk' : ProjectDisk}
    (hwritten : ProjectWritten disk disk' target (promptsDirectory target plan.packageName)
      (placed target plan.packageName (plan.files host)))
    (hread : ReadsBack host (.obj plan.payload.fields)) :
    PackOnDisk host.test.projects disk'
      (placeOf target plan.packageName (.package, packManifestName)) plan.payload := by
  have hstated := defaultRoleSpecs_stated plan.key plan.title
  have hmanifest : (⟨.package, packManifestName, host.safeDump (.obj plan.payload.fields)⟩ :
      TemplateFile) ∈ plan.files host := List.mem_append_left _ (by simp)
  refine packOnDisk_written hwritten hmanifest hread
    fun role hrole => ⟨?_, ?_⟩
  · have hanalyst : IsName "analyst.md".toList := by unfold IsName; decide
    have hreviewer : IsName "reviewer.md".toList := by unfold IsName; decide
    have hnames : ∀ role ∈ defaultRoleSpecs plan.key plan.title, IsName role.promptName.toList := by
      unfold defaultRoleSpecs
      rw [List.forall_mem_cons, List.forall_mem_singleton]
      exact ⟨hanalyst, hreviewer⟩
    exact hnames role hrole
  · exact ⟨role.prompt ++ "\n", List.mem_append_right _ (List.mem_map_of_mem hrole),
      strip_append_ne_empty (hstated role hrole).prompt _⟩

end

/-! ## Where a project is found again -/

section
variable {host : TestHost} {target : Location} {package : PackageName} {files : List TemplateFile}
  {disk disk' : ProjectDisk}

theorem reaches_target (hwritten : ProjectWritten disk disk' target
    (promptsDirectory target package) (placed target package files)) :
    disk'.get? target = some .directory :=
  hwritten.reaches target (prefix_promptsDirectory .target)

/-- A pack manifest is found in the directory of its project unless the package is skipped. -/
theorem resolvePackManifest_directory_iff (htarget : ∀ s ∈ target, IsName s)
    (hwritten : ProjectWritten disk disk' target (promptsDirectory target package)
      (placed target package files)) (hfound : FoundByName files packManifestName)
    {manifest : Location} :
    resolvePackManifest host.projects disk' (some (render target)) = .ok manifest ↔
      manifest = placeOf target package (.package, packManifestName) ∧
        package.text ∉ skipDiscoveryParts := by
  unfold resolvePackManifest
  rw [candidatePath_render]
  dsimp only
  rw [locate_render host htarget, reaches_target hwritten]
  dsimp only
  rw [manifestsNamed_placed hwritten hfound]
  by_cases hskip : package.text ∈ skipDiscoveryParts
  · rw [if_pos hskip]
    simp [hskip]
  · rw [if_neg hskip]
    simp [hskip, eq_comm]

end

/-! ## Packs -/

section
variable {host : ScaffoldHost} {disk disk' : ProjectDisk} {request : ScaffoldRequest}
  {plan : PackPlan} {target : Location}

/-- The description denotes the summary exactly if that is plain. -/
theorem PackPlan.described_iff (hplan : packPlan host.test.projects.py request = .ok plan)
    (hwritten : ProjectWritten disk disk' target (promptsDirectory target plan.packageName)
      (placed target plan.packageName (plan.files host))) :
    plan.Described disk' target ↔ QuotedText.plain QuotedText.toml plan.summary.toList = true := by
  have hfile : (⟨.target, "pyproject.toml", plan.pyproject⟩ : TemplateFile) ∈ plan.files host :=
    List.mem_append_left _ (by simp)
  have hwrote := hwritten.wrote _ (List.mem_map_of_mem hfile)
  have hback : packProjectTail plan.key plan.packageName ≠ [] := List.cons_ne_nil _ _
  have htext : plan.pyproject = ended (packProjectHead plan.key) ++ "description = " ++
      quoted plan.summary ++ ("\n" ++ joinLines (packProjectTail plan.key plan.packageName)) := by
    rw [PackPlan.pyproject, joinLines_append _ _ hback]
    simp only [String.append_assoc]
  have hne : plan.summary ≠ "" := by
    intro hnil
    exact (packPlan_ok hplan).2.2 (by rw [hnil]; decide)
  dsimp only at hwrote
  rw [htext] at hwrote
  exact denotes_iff_plain hwrote hne (by decide) (by decide)

theorem load_of_smokeTest {testHost : TestHost} {path : Option String} {provider : String}
    {model : Option String} {smoke : PackSmoke}
    (h : smokeTestPackProject testHost disk path provider model = .ok smoke) :
    ∃ project, loadPackProject testHost.projects disk path = .ok project := by
  obtain ⟨project, hproject, -⟩ := Fallible.bind_eq_ok_iff.mp h
  exact ⟨project, hproject⟩

theorem target_names (host : ScaffoldHost) (request : ScaffoldRequest) :
    ∀ s ∈ host.target request, IsName s :=
  isName_of_mem_resolve host.test.workingDir_names _

theorem isName_packManifestName : IsName packManifestName.toList := by
  unfold IsName
  decide

/-- What the loading of the manifest makes of files that have been written. -/
theorem packLoaded_iff (hfresh : FreshTarget disk target) (htarget : ∀ s ∈ target, IsName s)
    (hplan : packPlan host.test.projects.py request = .ok plan)
    (hwritten : ProjectWritten disk disk' target (promptsDirectory target plan.packageName)
      (placed target plan.packageName (plan.files host)))
    (hread : ReadsBack host (.obj plan.payload.fields)) :
    (match loadPackProject host.test.projects disk'
        (some (render (placeOf target plan.packageName (.package, packManifestName)))) with
      | .error _ => NoFileLeft disk disk'
      | .ok project =>
          (∃ plan, packPlan host.test.projects.py request = .ok plan ∧ plan.Described disk' target) ∧
          ∀ location ∈ [project.manifestPath, target], ∃ smoke,
            smokeTestPackProject host.test disk' (some (render location)) "openai" none =
              .ok smoke) ↔ plan.Works := by
  let manifest := placeOf target plan.packageName (.package, packManifestName)
  have hnames : ∀ s ∈ manifest, IsName s := names_placeOf htarget isName_packManifestName
  have hdisk := plan.onDisk hwritten hread
  obtain ⟨text, htext, -⟩ := hdisk.manifest
  have hresolve := @resolvePackManifest_file host.test disk' manifest (some text) hnames htext
  have hload := loadPackProject_written_iff hresolve (PackPlan.payload_stated hplan) hdisk
  cases hloaded : loadPackProject host.test.projects disk' (some (render manifest)) with
  | error error =>
      dsimp only
      have hfile : (⟨.target, "README.md", plan.readme⟩ : TemplateFile) ∈ plan.files host :=
        List.mem_append_left _ (by simp)
      refine iff_of_false (hwritten.leaves hfresh (List.mem_map_of_mem hfile) (prefix_placeOf _)) ?_
      intro hworks
      obtain ⟨project, hok⟩ := hload.mpr hworks.fits
      rw [hloaded] at hok
      cases hok
  | ok project =>
      dsimp only
      have hmanifest : project.manifestPath = manifest := loadPackProject_path hloaded hresolve
      have hdirectory := @resolvePackManifest_directory_iff host.test target plan.packageName
        (plan.files host) disk disk' htarget hwritten plan.foundByName manifest
      constructor
      · intro ⟨⟨plan', hplan', hdescribed⟩, htest⟩
        rw [hplan] at hplan'
        cases hplan'
        obtain ⟨smoke, hsmoke⟩ := htest target (by simp)
        obtain ⟨found, hfound⟩ := load_of_smokeTest hsmoke
        obtain ⟨-, -, -, hfoundPath, -⟩ := loadPackProject_texts hfound
        have hseen := (@resolvePackManifest_directory_iff host.test target plan.packageName
          (plan.files host) disk disk' htarget hwritten plan.foundByName _).mp hfoundPath
        exact ⟨hload.mp ⟨project, hloaded⟩,
          (PackPlan.described_iff hplan hwritten).mp hdescribed, hseen.2⟩
      · intro hworks
        refine ⟨⟨plan, hplan, (PackPlan.described_iff hplan hwritten).mpr hworks.summary⟩, ?_⟩
        rw [List.forall_mem_cons, List.forall_mem_singleton, hmanifest]
        have hagain : loadPackProject host.test.projects disk' (some (render target)) = .ok project := by
          refine (loadedPack_of_load hloaded).again ?_
          rw [hmanifest]
          exact hdirectory.mpr ⟨rfl, hworks.seen⟩
        have hpathNames : ∀ s ∈ project.manifestPath, IsName s := by
          rw [hmanifest]
          exact hnames
        exact ⟨smokeTestPackProject_ok host.test hloaded hpathNames,
          smokeTestPackProject_ok host.test hagain hpathNames⟩

/-- A scaffold of a pack is sound exactly if it refuses its arguments, or something is in
the way of its directories, or preset and goal profile fit together, the summary stands for
itself in TOML, and the package has not the name of a skipped directory. -/
theorem packSound_iff (hfresh : FreshTarget disk (host.target request))
    (hread : ∀ plan, packPlan host.test.projects.py request = .ok plan →
      ReadsBack host (.obj plan.payload.fields)) :
    PackSound host disk request ↔ ∀ plan, packPlan host.test.projects.py request = .ok plan →
      Blocked host.refuses disk (promptsDirectory (host.target request) plan.packageName) ∨
        plan.Works := by
  cases hplan : packPlan host.test.projects.py request with
  | error error =>
      have hscaffold : scaffoldPackProject host disk request = (.error error, disk) := by
        unfold scaffoldPackProject
        rw [hplan]
      rw [PackSound, hscaffold]
      exact iff_of_true (.refl disk) fun plan h => by cases h
  | ok plan =>
      let target := host.target request
      have hone : (∀ other, Except.ok plan = (Except.ok other : Except ProjectError PackPlan) →
          Blocked host.refuses disk (promptsDirectory target other.packageName) ∨ other.Works) ↔
            (Blocked host.refuses disk (promptsDirectory target plan.packageName) ∨ plan.Works) :=
        ⟨fun h => h plan rfl, fun h other heq => by cases heq; exact h⟩
      rw [hone]
      have hchain : ([target, packageDirectory target plan.packageName] ++
          [promptsDirectory target plan.packageName]).IsChain (· <+: ·) := by
        simp only [List.cons_append, List.nil_append, List.isChain_cons_cons, List.isChain_singleton,
          and_true]
        exact ⟨List.prefix_append _ _, prefix_promptsDirectory .package⟩
      have hcases := @writeProject_cases host.refuses disk target
        (promptsDirectory target plan.packageName)
        [target, packageDirectory target plan.packageName] (fun _ disk => (none, disk))
        (placed target plan.packageName (plan.files host)) hfresh (projectFiles_placed plan.layout)
        hchain fun _ _ _ _ => rfl
      have hscaffold : scaffoldPackProject host disk request =
          match writeProject host.refuses ([target, packageDirectory target plan.packageName] ++
              [promptsDirectory target plan.packageName]) (fun _ disk => (none, disk))
              (placed target plan.packageName (plan.files host)) disk with
          | (some exception, disk') => (.error (.escaped exception), disk')
          | (none, disk') => (loadPackProject host.test.projects disk'
              (some (render (placeOf target plan.packageName (.package, packManifestName)))),
                disk') := by
        unfold scaffoldPackProject
        rw [hplan]
        dsimp only
        rw [checkTarget_fresh hfresh]
        rfl
      rcases hcases with ⟨hfree, disk', hwrite, hwritten⟩ | ⟨hblocked, exception, disk', hwrite, hnone⟩
      · rw [hwrite] at hscaffold
        rw [PackSound, hscaffold, or_iff_right hfree,
          ← packLoaded_iff hfresh (target_names host request) hplan hwritten (hread plan hplan)]
        dsimp only
        cases loadPackProject host.test.projects disk'
          (some (render (placeOf target plan.packageName (.package, packManifestName)))) <;> rfl
      · rw [hwrite] at hscaffold
        rw [PackSound, hscaffold]
        exact iff_of_true hnone (.inl hblocked)

end

end TruePresenceESE.Ese
