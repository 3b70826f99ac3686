import TruePresenceESE.Ese.PackScaffold
import TruePresenceESE.Ese.StarterSmoke

/-! # Scaffolding starters

A starter is written like a pack, with modules for its extensions and two more manifests.
The title stands in literals of these modules, and the package is imported by the test.
Nothing asks beforehand whether preset and goal profile fit together.
-/

namespace TruePresenceESE.Ese

open PosixPath PyText

/-! ## The request for a starter -/

def defaultStarterPackageName : StarterKey → String := defaultPackageName "starter"

def defaultStarterSummary (py : Interpreter) (title : String) : String :=
  defaultSummary py "Starter vertical repository for ESE " " workflows." title

def validateStarterPackageName : String → Except ProjectError PackageName :=
  cleanPackageName (.starterProject ("Starter package names must start with a letter or " ++
    "underscore and contain only letters, digits, and underscores."))

/-- The arguments of a scaffold for a starter once they are clean. The preset is left as it is. -/
structure StarterPlan where
  key : StarterKey
  title : String
  summary : String
  packageName : PackageName
  preset : String
  goal : String
  deriving DecidableEq

def starterPlan (py : Interpreter) (request : ScaffoldRequest) :
    Except ProjectError StarterPlan := do
  let key ← cleanStarterKey py request.key
  let title := textOr request.title (defaultPackTitle key)
  let summary := textOr request.summary (defaultStarterSummary py title)
  let packageName ← validateStarterPackageName
    (textOr request.packageName (defaultStarterPackageName key))
  return ⟨key, title, summary, packageName, request.preset,
    textOr request.goalProfile "high-quality"⟩

/-! ## Manifests -/

def starterRoleSpecs (key : StarterKey) (title : String) : List WrittenRole :=
  [{ key := underscored key ++ "_analyst"
     responsibility := "Analyze the scoped work from the " ++ title ++ " perspective."
     promptName := "analyst.md"
     prompt := "You are the primary analyst for the " ++ title ++ (" starter.\n\n" ++
       "Analyze the scoped work, list risks, and call out the highest-leverage next steps.\n") },
    { key := underscored key ++ "_reviewer"
      responsibility := "Challenge the " ++ title ++
        " work for risk, evidence gaps, and blockers."
      promptName := "reviewer.md"
      prompt := "You are the adversarial reviewer for the " ++ title ++ (" starter.\n\n" ++
        "Challenge weak assumptions, missing evidence, and delivery blockers.\n") }]

def StarterPlan.payload (plan : StarterPlan) : PackPayload where
  key := plan.key
  title := plan.title
  summary := plan.summary
  preset := plan.preset
  goal := plan.goal
  roles := starterRoleSpecs plan.key plan.title

def StarterPart.suffix : StarterPart → String
  | .policyCheck => "safety"
  | .reportExporter => "csv"
  | .artifactView => "brief"
  | .integration => "bundle"

def StarterPart.moduleName : StarterPart → String
  | .policyCheck => "policy"
  | .reportExporter => "exporters"
  | .artifactView => "views"
  | .integration => "integration"

def StarterPart.loader : StarterPart → String
  | .policyCheck => "load_policy"
  | .reportExporter => "load_exporter"
  | .artifactView => "load_view"
  | .integration => "load_integration"

/-- What is put behind the title. -/
def StarterPart.titleWord : StarterPart → String
  | .policyCheck => "Safety"
  | .reportExporter => "CSV"
  | .artifactView => "Brief"
  | .integration => "Bundle"

def StarterPlan.partKey (plan : StarterPlan) (part : StarterPart) : String :=
  plan.key.text ++ "-" ++ part.suffix

def StarterPlan.module (plan : StarterPlan) (part : StarterPart) : String :=
  plan.packageName.text ++ "." ++ part.moduleName

def StarterPlan.reference (plan : StarterPlan) (part : StarterPart) : String :=
  plan.module part ++ ":" ++ part.loader

def StarterPart.fileName (part : StarterPart) : String := part.moduleName ++ ".py"

def StarterPlan.partEntry (plan : StarterPlan) (part : StarterPart) : Json :=
  .obj [("key", .str (plan.partKey part)), ("module", .str (plan.reference part)),
    ("file", .str part.fileName)]

def StarterPlan.fields (plan : StarterPlan) : List (String × Json) :=
  [("contract_version", .num expectedVersion), ("key", .str plan.key.text),
    ("title", .str plan.title), ("summary", .str plan.summary),
    ("package_name", .str plan.packageName.text),
    ("pack", .obj [("key", .str plan.key.text), ("manifest", .str packManifestName)]),
    ("policy_checks", .arr [plan.partEntry .policyCheck]),
    ("report_exporters", .arr [plan.partEntry .reportExporter]),
    ("artifact_views", .arr [plan.partEntry .artifactView]),
    ("integrations", .arr [plan.partEntry .integration])]

/-! ## The files of a starter -/

/-- The lines above the description. -/
def starterProjectHead (key : StarterKey) : List String :=
  ["[build-system]",
    "requires = [\"setuptools>=69\", \"wheel\"]",
    "build-backend = \"setuptools.build_meta\"",
    "",
    "[project]",
    "name = \"" ++ key.text ++ "-starter\"",
    "version = \"0.1.0\""]

/-- The lines of an entry point. -/
def entryPointLines (group suffix : String) (key : StarterKey) (package : PackageName)
    (reference : String) : List String :=
  ["[project.entry-points.\"" ++ group ++ "\"]",
    underscored key ++ suffix ++ " = \"" ++ package.text ++ "." ++ reference ++ "\"",
    ""]

/-- The lines below the description. -/
def starterProjectTail (key : StarterKey) (package : PackageName) : List String :=
  ["readme = \"README.md\"",
    "requires-python = \">=3.10\"",
    "dependencies = [\"ese-cli>=1.0.0\"]",
    ""] ++
  entryPointLines "ese.config_packs" "" key package "pack:load_pack" ++
  entryPointLines "ese.policy_checks" "_safety" key package "policy:load_policy" ++
  entryPointLines "ese.report_exporters" "_csv" key package "exporters:load_exporter" ++
  entryPointLines "ese.artifact_views" "_brief" key package "views:load_view" ++
  entryPointLines "ese.integrations" "_bundle" key package "integration:load_integration" ++
  entryPointLines "ese.application_bundles" "_application" key package
    "bundle:load_application_bundle" ++
  ["[tool.setuptools.packages.find]",
    "where = [\"src\"]",
    "",
    "[tool.setuptools.package-data]",
    "\"" ++ package.text ++ "\" = [\"" ++ packManifestName ++ "\", \"" ++
      applicationBundleManifestName ++ "\", \"" ++ starterManifestName ++ "\", \"prompts/*.md\"]",
    ""]

def StarterPlan.pyproject (plan : StarterPlan) : String :=
  joinLines (starterProjectHead plan.key ++ ("description = " ++ quoted plan.summary) ::
    starterProjectTail plan.key plan.packageName) ++ "\n"

def StarterPlan.readme (plan : StarterPlan) : String :=
  joinLines ["# " ++ plan.title ++ " Starter", "", plan.summary, "", "## Development", "", "```bash",
    "pip install -e .", "ese bundle validate .", "ese starter validate .", "ese pack validate .",
    "```", ""] ++ "\n"

def starterInit : String := "\"\"\"External ESE starter bundle.\"\"\"\n"

def starterBundle : String :=
  joinLines ["\"\"\"Entry point for the installed application bundle contract.\"\"\"", "",
    "from pathlib import Path", "",
    "from ese.application_bundles import load_application_bundle_from_manifest", "", "",
    "def load_application_bundle():",
    "    \"\"\"Return the application bundle exported by this package.\"\"\"",
    "    return load_application_bundle_from_manifest(Path(__file__).with_name(\"" ++
      applicationBundleManifestName ++ "\"))", ""]

def starterPackLoader : String :=
  joinLines ["\"\"\"Entry point for the external starter pack.\"\"\"", "", "from pathlib import Path",
    "", "from ese.pack_sdk import load_pack_definition_from_manifest", "", "", "def load_pack():",
    "    \"\"\"Return the ConfigPackDefinition exported by this starter.\"\"\"",
    "    return load_pack_definition_from_manifest(Path(__file__).with_name(\"" ++
      packManifestName ++ "\"))", ""]

/-- The lines of a module above the title. -/
def StarterPart.head (key : StarterKey) : StarterPart → List String
  | .policyCheck =>
      ["\"\"\"Starter safety policy.\"\"\"", "",
        "from ese.policy_checks import POLICY_ERROR, PolicyCheckDefinition", "", "",
        "def _check_scope(context):", "    if context.scope.strip():", "        return []",
        "    return [\x7b\"severity\": POLICY_ERROR, " ++
          "\"message\": \"Starter scope must not be empty.\"\x7d]", "", "",
        "def load_policy():", "    \"\"\"Return the starter policy check.\"\"\"",
        "    return PolicyCheckDefinition(", "        key=\"" ++ key.text ++ "-safety\","]
  | .reportExporter =>
      ["\"\"\"Starter report exporter.\"\"\"", "",
        "from ese.report_exporters import ReportExporterDefinition", "", "",
        "def _render_csv(report: dict) -> str:",
        "    return \"role,severity,title\\n\" + \"\\n\".join(",
        "        f\"\x7bitem.get('role', '')\x7d,\x7bitem.get('severity', '')\x7d," ++
          "\x7bitem.get('title', '')\x7d\"",
        "        for item in report.get(\"blockers\", [])", "    ) + \"\\n\"", "", "",
        "def load_exporter():", "    \"\"\"Return the starter CSV exporter.\"\"\"",
        "    return ReportExporterDefinition(", "        key=\"" ++ key.text ++ "-csv\","]
  | .artifactView =>
      ["\"\"\"Starter artifact view.\"\"\"", "",
        "from ese.artifact_views import ArtifactViewDefinition", "", "",
        "def _render_view(report: dict) -> str:",
        "    return \"# Starter Brief\\n\\n\" + str(report.get(\"scope\") or " ++
          "\"No scope recorded.\") + \"\\n\"", "", "",
        "def load_view():", "    \"\"\"Return the starter artifact view.\"\"\"",
        "    return ArtifactViewDefinition(", "        key=\"" ++ key.text ++ "-brief\","]
  | .integration =>
      ["\"\"\"Starter evidence integration.\"\"\"", "", "import json", "from pathlib import Path", "",
        "from ese.integrations import (", "    INTEGRATION_CONTRACT_VERSION,",
        "    PUBLISH_STATUS_DRY_RUN,", "    PUBLISH_STATUS_PUBLISHED,",
        "    IntegrationDefinition,", "    IntegrationPublishResult,", ")", "", "",
        "def _publish(context, request):",
        "    target = Path(request.target or context.artifacts_dir).resolve() / " ++
          "\"starter-evidence.json\"",
        "    if request.dry_run:", "        return IntegrationPublishResult(",
        "            integration_key=\"" ++ key.text ++ "-bundle\",",
        "            status=PUBLISH_STATUS_DRY_RUN,", "            location=str(target),",
        "            message=\"Previewed starter evidence bundle.\",",
        "            outputs=(str(target),),", "        )",
        "    target.parent.mkdir(parents=True, exist_ok=True)",
        "    target.write_text(json.dumps(\x7b\"scope\": context.report.get(\"scope\")\x7d, " ++
          "indent=2) + \"\\n\", encoding=\"utf-8\")",
        "    return IntegrationPublishResult(",
        "        integration_key=\"" ++ key.text ++ "-bundle\",",
        "        status=PUBLISH_STATUS_PUBLISHED,", "        location=str(target),",
        "        message=\"Published starter evidence bundle.\",",
        "        outputs=(str(target),),", "    )", "", "",
        "def load_integration():", "    \"\"\"Return the starter integration.\"\"\"",
        "    return IntegrationDefinition(", "        key=\"" ++ key.text ++ "-bundle\","]

/-- The lines of a module below the title. -/
def StarterPart.tail (key : StarterKey) : StarterPart → List String
  | .policyCheck =>
      ["        summary=\"Starter safety policy for scoped runs.\",", "        check=_check_scope,",
        "    )", ""]
  | .reportExporter =>
      ["        summary=\"Starter CSV export of blocker findings.\",",
        "        content_type=\"text/csv; charset=utf-8\",",
        "        default_filename=\"" ++ key.text ++ "_blockers.csv\",",
        "        render=_render_csv,", "    )", ""]
  | .artifactView =>
      ["        summary=\"Starter brief view for dashboard consumption.\",",
        "        format=\"md\",", "        render=_render_view,", "    )", ""]
  | .integration =>
      ["        summary=\"Starter evidence publishing integration.\",",
        "        publish=_publish,", "        contract_version=INTEGRATION_CONTRACT_VERSION,",
        "    )", ""]

/-- The title in a module. -/
def StarterPlan.partTitle (plan : StarterPlan) (part : StarterPart) : String :=
  plan.title ++ " " ++ part.titleWord

def StarterPlan.moduleText (plan : StarterPlan) (part : StarterPart) : String :=
  joinLines (part.head plan.key ++ ("        title=" ++ quoted (plan.partTitle part) ++ ",") ::
    part.tail plan.key)

def StarterPlan.moduleFile (plan : StarterPlan) (part : StarterPart) : TemplateFile :=
  ⟨.package, part.fileName, plan.moduleText part⟩

def StarterPlan.files (host : ScaffoldHost) (plan : StarterPlan) : List TemplateFile :=
  [⟨.target, "pyproject.toml", plan.pyproject⟩, ⟨.target, "README.md", plan.readme⟩,
    ⟨.package, "__init__.py", starterInit⟩, ⟨.package, "bundle.py", starterBundle⟩,
    ⟨.package, "pack.py", starterPackLoader⟩, plan.moduleFile .policyCheck,
    plan.moduleFile .reportExporter, plan.moduleFile .artifactView, plan.moduleFile .integration] ++
  (plan.payload.roles.map fun role => ⟨.prompts, role.promptName, role.prompt⟩) ++
  [⟨.package, packManifestName, host.safeDump (.obj plan.payload.fields)⟩,
    ⟨.package, applicationBundleManifestName, host.safeDump (.obj plan.fields)⟩,
    ⟨.package, starterManifestName, host.safeDump (.obj plan.fields)⟩]

/-! ## The scaffold -/

section
variable (host : ScaffoldHost) (python : PythonRuntime) (disk : ProjectDisk)
  (request : ScaffoldRequest)

def scaffoldStarterProject : Except ProjectError StarterProject × ProjectDisk :=
  match starterPlan host.test.projects.py request with
  | .error error => (.error error, disk)
  | .ok plan =>
      let target := host.target request
      match checkTarget .starterProject
          ". Pass force=True to allow scaffolding into a populated directory." disk target
          request.force with
      | .error error => (.error error, disk)
      | .ok () =>
          match writeProject host.refuses [promptsDirectory target plan.packageName]
              (fun path disk => makeDirectory host.refuses path.dropLast disk)
              (placed target plan.packageName (plan.files host)) disk with
          | (some exception, disk') => (.error (.escaped exception), disk')
          | (none, disk') => (loadStarterProject host.test.projects disk'
              (some (render (placeOf target plan.packageName (.package, starterManifestName)))),
                disk')

/-- The description in the project file denotes the summary. -/
def StarterPlan.Described (plan : StarterPlan) (disk : ProjectDisk) (target : Location) : Prop :=
  Denotes QuotedText.toml disk (placeOf target plan.packageName (.target, "pyproject.toml"))
    (ended (starterProjectHead plan.key) ++ "description = ") plan.summary
    ("\n" ++ joinLines (starterProjectTail plan.key plan.packageName) ++ "\n")

/-- The title in a module denotes the title of the request and the word of the part. -/
def StarterPlan.Titled (plan : StarterPlan) (disk : ProjectDisk) (target : Location)
    (part : StarterPart) : Prop :=
  Denotes (QuotedText.python python.characterNamed) disk
    (placeOf target plan.packageName (.package, part.fileName))
    (ended (part.head plan.key) ++ "        title=") (plan.partTitle part)
    (",\n" ++ joinLines (part.tail plan.key))

/-- No file is left, or the literals are right and the test accepts the project, by its
manifest and by its directory. -/
def StarterSound : Prop :=
  match scaffoldStarterProject host disk request with
  | (.error _, disk') => NoFileLeft disk disk'
  | (.ok project, disk') =>
      (∃ plan, starterPlan host.test.projects.py request = .ok plan ∧
        plan.Described disk' (host.target request) ∧
          ∀ part, plan.Titled python disk' (host.target request) part) ∧
      ∀ location ∈ [project.manifestPath, host.target request], ∃ smoke,
        smokeTestStarterProject host.test python disk' (some (render location)) "openai" none =
          .ok smoke

end

/-! ## What a plan says -/

section
variable {py : Interpreter} {request : ScaffoldRequest} {plan : StarterPlan}

theorem starterPlan_ok (h : starterPlan py request = .ok plan) :
    cleanStarterKey py request.key = .ok plan.key ∧ strip plan.title ≠ "" ∧
      strip plan.summary ≠ "" := by
  unfold starterPlan at h
  obtain ⟨key, hkey, h⟩ := Fallible.bind_eq_ok_iff.mp h
  obtain ⟨packageName, -, h⟩ := Fallible.bind_eq_ok_iff.mp h
  cases h
  refine ⟨hkey, strip_textOr _ (strip_defaultPackTitle hkey), strip_textOr _ ?_⟩
  rw [defaultStarterSummary, defaultSummary]
  exact strip_append_ne_empty (strip_append_ne_empty (by decide) _) _

theorem starterRoleSpecs_stated (key : StarterKey) (title : String) :
    ∀ role ∈ starterRoleSpecs key title, role.Stated := by
  obtain ⟨hanalyst, hreviewer, -⟩ := strip_roleKeys (blankless_underscored key)
  have hanalystFile : strip ("prompts/" ++ "analyst.md") = "prompts/" ++ "analyst.md" := by decide
  have hreviewerFile : strip ("prompts/" ++ "reviewer.md") = "prompts/" ++ "reviewer.md" := by decide
  have hprompts : strip "You are the primary analyst for the " ≠ "" ∧
      strip "You are the adversarial reviewer for the " ≠ "" := by
    decide
  unfold starterRoleSpecs
  rw [List.forall_mem_cons, List.forall_mem_singleton]
  constructor
  · exact ⟨hanalyst, strip_append_ne_empty (strip_append_ne_empty (by decide) _) _, hanalystFile,
      strip_append_ne_empty (strip_append_ne_empty hprompts.1 _) _⟩
  · exact ⟨hreviewer, strip_append_ne_empty (strip_append_ne_empty (by decide) _) _, hreviewerFile,
      strip_append_ne_empty (strip_append_ne_empty hprompts.2 _) _⟩

theorem StarterPlan.payload_stated (h : starterPlan py request = .ok plan) :
    plan.payload.Stated where
  title := (starterPlan_ok h).2.1
  summary := (starterPlan_ok h).2.2
  roles_ne_nil := List.cons_ne_nil _ _
  roles := starterRoleSpecs_stated plan.key plan.title
  roleKeys_nodup := by
    have hne := (strip_roleKeys (blankless_underscored plan.key)).2.2
    show [_, _].Nodup
    simpa using hne

theorem blankless_partKey (plan : StarterPlan) (part : StarterPart) :
    Blankless (plan.partKey part) := by
  have hdash : Blankless "-" := by decide
  have hsuffix : Blankless part.suffix := by cases part <;> decide
  exact ((blankless_key plan.key).append hdash).append hsuffix

theorem blankless_reference (plan : StarterPlan) (part : StarterPart) :
    Blankless (plan.reference part) := by
  have hdot : Blankless "." := by decide
  have hcolon : Blankless ":" := by decide
  have hmodule : Blankless part.moduleName := by cases part <;> decide
  have hloader : Blankless part.loader := by cases part <;> decide
  exact ((((blankless_packageName plan.packageName).append hdot).append hmodule).append
    hcolon).append hloader

theorem blankless_fileName (part : StarterPart) : Blankless part.fileName := by
  cases part <;> decide

end

/-- A text without blanks in which there is something. -/
def cleanOf (text : String) (h : Blankless text) (hne : text ≠ "") : CleanText :=
  ⟨text, h.strip_eq, hne⟩

section
variable {plan : StarterPlan} {target : Location} {disk : ProjectDisk}

theorem partKey_ne_empty (plan : StarterPlan) (part : StarterPart) : plan.partKey part ≠ "" := by
  intro hnil
  have hlength := congrArg (fun text => text.toList.length) hnil
  simp [StarterPlan.partKey] at hlength

theorem reference_ne_empty (plan : StarterPlan) (part : StarterPart) :
    plan.reference part ≠ "" := by
  intro hnil
  have hlength := congrArg (fun text => text.toList.length) hnil
  simp [StarterPlan.reference] at hlength

/-- The entry for a part as it is loaded. -/
def StarterPlan.entry (plan : StarterPlan) (target : Location) (part : StarterPart) :
    StarterExtensionManifestEntry where
  key := cleanOf (plan.partKey part) (blankless_partKey plan part) (partKey_ne_empty plan part)
  module := cleanOf (plan.reference part) (blankless_reference plan part)
    (reference_ne_empty plan part)
  file := placeOf target plan.packageName (.package, part.fileName)

theorem starterText_clean (label : String) (clean : CleanText) :
    starterText label (.str clean.text) = .ok clean := by
  rw [starterText, normalizeNonEmpty_clean]
  rfl

theorem resolve_fileName {name other : String} (hname : IsName name.toList) :
    resolve (placeOf target plan.packageName (.package, other)).dropLast name =
      placeOf target plan.packageName (.package, name) := by
  have habs : isAbs name = false := by
    rw [isAbs, beq_eq_false_iff_ne]
    intro hslash
    obtain ⟨rest, hrest⟩ := List.head?_eq_some_iff.mp hslash
    exact hname.1 (by rw [hrest]; simp)
  rw [resolve_of_not_isAbs habs, segments_of_no_slash hname.1, placeOf, List.dropLast_concat,
    walk_names (by simpa using hname)]
  rfl

theorem isName_fileName (part : StarterPart) : IsName part.fileName.toList := by
  unfold IsName
  cases part <;> decide

theorem normalizeManifestEntries_written {part : StarterPart} {name : String} (label : String)
    (hfile : disk.get? (placeOf target plan.packageName (.package, part.fileName)) ≠ none) :
    normalizeManifestEntries disk (placeOf target plan.packageName (.package, name)) label
      (.arr [plan.partEntry part]) = .ok [plan.entry target part] := by
  have hne : part.fileName ≠ "" := by cases part <;> decide
  have hkey : starterText (label ++ " key") (.str (plan.partKey part)) =
      .ok (plan.entry target part).key := starterText_clean _ (plan.entry target part).key
  have hmodule : starterText (label ++ " module") (.str (plan.reference part)) =
      .ok (plan.entry target part).module := starterText_clean _ (plan.entry target part).module
  have hfileText : starterText (label ++ " file") (.str part.fileName) =
      .ok (cleanOf part.fileName (blankless_fileName part) hne) :=
    starterText_clean _ (cleanOf part.fileName (blankless_fileName part) hne)
  have hsome : (disk.get? (placeOf target plan.packageName (.package, part.fileName))).isNone =
      false := by
    rw [Option.isNone_eq_false_iff, Option.isSome_iff_ne_none]
    exact hfile
  have hentry : normalizeManifestEntry disk (placeOf target plan.packageName (.package, name)) label
      (plan.partEntry part) = .ok (plan.entry target part) := by
    let fields : List (String × Json) := [("key", .str (plan.partKey part)),
      ("module", .str (plan.reference part)), ("file", .str part.fileName)]
    have hkeyField : (JsonDict.ofFields fields).get "key" = .str (plan.partKey part) := rfl
    have hmoduleField : (JsonDict.ofFields fields).get "module" = .str (plan.reference part) := rfl
    have hfileField : (JsonDict.ofFields fields).get "file" = .str part.fileName := rfl
    have hresolve := @resolve_fileName plan target part.fileName name (isName_fileName part)
    unfold normalizeManifestEntry StarterPlan.partEntry
    dsimp only
    rw [hkeyField, hmoduleField, hfileField, hkey, hmodule, hfileText]
    simp only [bind, Except.bind, cleanOf, hresolve, hsome, Bool.false_eq_true, if_false]
    rfl
  rw [normalizeManifestEntries, List.mapM_cons, hentry]
  rfl

/-- A starter as it is loaded from a manifest that has been written. -/
structure LoadedStarter (plan : StarterPlan) (target manifestPath : Location)
    (project : StarterProject) : Prop where
  manifestPath : project.manifestPath = manifestPath
  packageName : project.packageName.text = plan.packageName.text
  packManifestPath : project.packManifestPath =
    placeOf target plan.packageName (.package, packManifestName)
  parts : SingleParts project (plan.entry target) plan.module StarterPart.loader

/-- The manifest and the modules of the parts are there, and the manifest is read back. -/
structure StarterOnDisk (host : ProjectHost) (disk : ProjectDisk) (plan : StarterPlan)
    (target manifestPath : Location) : Prop where
  manifest : ∃ text, disk.get? manifestPath = some (.file (some text)) ∧
    host.safeLoad text = .ok (.obj plan.fields)
  parts : ∀ part : StarterPart,
    disk.get? (placeOf target plan.packageName (.package, part.fileName)) ≠ none

theorem partitionReference_reference (plan : StarterPlan) (part : StarterPart) :
    partitionReference (plan.reference part) = (plan.module part, some part.loader) := by
  have hcolon : ':' ∉ (plan.module part).toList := by
    rw [StarterPlan.module, String.toList_append, String.toList_append, List.mem_append,
      List.mem_append, not_or, not_or]
    refine ⟨⟨fun hmem => ?_, by decide⟩, by cases part <;> decide⟩
    have hrange := plan.packageName.toNat_range hmem
    simp at hrange
  have htake : ((plan.reference part).toList.takeWhile (· ≠ ':')) = (plan.module part).toList := by
    rw [StarterPlan.reference, String.toList_append, String.toList_append, List.append_assoc,
      List.takeWhile_append_of_pos]
    · simp
    · intro c hc
      have hne : c ≠ ':' := fun heq => hcolon (heq ▸ hc)
      simpa using hne
  have hdrop : (plan.reference part).toList.drop (plan.module part).toList.length =
      ':' :: part.loader.toList := by
    rw [StarterPlan.reference, String.toList_append, String.toList_append, List.append_assoc,
      List.drop_left]
    rfl
  unfold partitionReference
  simp only [htake, hdrop, String.ofList_toList]

theorem singleParts_entry {project : StarterProject}
    (hpolicy : project.policyChecks = [plan.entry target .policyCheck])
    (hexporter : project.reportExporters = [plan.entry target .reportExporter])
    (hview : project.artifactViews = [plan.entry target .artifactView])
    (hintegration : project.integrations = [plan.entry target .integration]) :
    SingleParts project (plan.entry target) plan.module StarterPart.loader where
  policyChecks := hpolicy
  reportExporters := hexporter
  artifactViews := hview
  integrations := hintegration
  reference := partitionReference_reference plan
  module_ne part := by
    intro hnil
    have hlength := congrArg (fun text => text.toList.length) hnil
    simp [StarterPlan.module] at hlength
  name_ne part := by cases part <;> decide

/-- A starter that has been written is loaded if its pack is. -/
theorem loadStarterProject_written {host : ProjectHost} {path : Option String}
    {request : ScaffoldRequest} {name : String} (hlower : LowersAscii host.py)
    (hplan : starterPlan host.py request = .ok plan)
    (hpath : resolveStarterManifest host disk path =
      .ok (placeOf target plan.packageName (.package, name)))
    (hdisk : StarterOnDisk host disk plan target
      (placeOf target plan.packageName (.package, name))) :
    ∃ project, LoadedStarter plan target (placeOf target plan.packageName (.package, name)) project ∧
      loadStarterProject host disk path = ((describePackProject host disk (some (render
        (placeOf target plan.packageName (.package, packManifestName))))).mapError packInvalid).map
          fun _ => project := by
  obtain ⟨hclean, htitle, hsummary⟩ := starterPlan_ok hplan
  obtain ⟨text, htext, hload⟩ := hdisk.manifest
  let manifest := JsonDict.ofFields plan.fields
  let packFields : List (String × Json) :=
    [("key", .str plan.key.text), ("manifest", .str packManifestName)]
  let key : CleanText := ⟨plan.key.text, strip_starterKey plan.key, plan.key.ne_empty⟩
  let title : CleanText := ⟨strip plan.title, strip_strip _, htitle⟩
  let summary : CleanText := ⟨strip plan.summary, strip_strip _, hsummary⟩
  let packageName : CleanText := cleanOf plan.packageName.text
    (blankless_packageName plan.packageName)
    (fun hnil => plan.packageName.ne_nil (String.toList_eq_nil_iff.mpr hnil))
  let packFile : CleanText := cleanOf packManifestName (by decide) (by decide)
  have hmanifest : readManifestYaml host disk .starterProject "Manifest"
      (placeOf target plan.packageName (.package, name)) = .ok manifest :=
    readManifestYaml_written htext hload
  have hversion : (normalizeContractVersion "starter bundle" (versionField
      (manifest.get "contract_version"))).mapError ProjectError.value = .ok expectedVersion := rfl
  have hkeyText : ∀ label, starterText label (.str plan.key.text) = .ok key := fun label =>
    starterText_clean label key
  have hkey : cleanStarterKey host.py key.text = .ok plan.key := cleanStarterKey_clean hlower hclean
  have htitleText : starterText "starter title" (.str plan.title) = .ok title := by
    rw [starterText, normalizeNonEmpty, dif_neg htitle]
    rfl
  have hsummaryText : starterText "starter summary" (.str plan.summary) = .ok summary := by
    rw [starterText, normalizeNonEmpty, dif_neg hsummary]
    rfl
  have hpackageText : starterText "starter package_name" (.str plan.packageName.text) =
      .ok packageName := starterText_clean _ packageName
  have hpackage : validatePackageName packageName = .ok packageName := by
    rw [validatePackageName]
    exact if_pos plan.packageName.valid
  have hpackText : starterText "starter pack manifest" (.str packManifestName) = .ok packFile :=
    starterText_clean _ packFile
  have hresolve : resolve (placeOf target plan.packageName (.package, name)).dropLast packFile.text =
      placeOf target plan.packageName (.package, packManifestName) :=
    resolve_fileName isName_packManifestName
  have hentries : ∀ part label, normalizeManifestEntries disk
      (placeOf target plan.packageName (.package, name)) label (.arr [plan.partEntry part]) =
        .ok [plan.entry target part] := fun part label =>
    normalizeManifestEntries_written label (hdisk.parts part)
  have hkeyField : manifest.get "key" = .str plan.key.text := rfl
  have htitleField : manifest.get "title" = .str plan.title := rfl
  have hsummaryField : manifest.get "summary" = .str plan.summary := rfl
  have hpackageField : manifest.get "package_name" = .str plan.packageName.text := rfl
  have hpackField : manifest.get "pack" = .obj packFields := rfl
  have hpolicyField : manifest.get "policy_checks" = .arr [plan.partEntry .policyCheck] := rfl
  have hexporterField :
      manifest.get "report_exporters" = .arr [plan.partEntry .reportExporter] := rfl
  have hviewField : manifest.get "artifact_views" = .arr [plan.partEntry .artifactView] := rfl
  have hintegrationField : manifest.get "integrations" = .arr [plan.partEntry .integration] := rfl
  have hpackKeyField : (JsonDict.ofFields packFields).get "key" = .str plan.key.text := rfl
  have hpackFileField : (JsonDict.ofFields packFields).getOr "manifest" (.str packManifestName) =
      .str packManifestName := rfl
  refine ⟨⟨placeOf target plan.packageName (.package, name), expectedVersion, plan.key, title, summary,
    packageName, plan.key, placeOf target plan.packageName (.package, packManifestName),
    [plan.entry target .policyCheck], [plan.entry target .reportExporter],
    [plan.entry target .artifactView], [plan.entry target .integration]⟩,
    ⟨rfl, rfl, rfl, singleParts_entry rfl rfl rfl rfl⟩, ?_⟩
  unfold loadStarterProject
  simp only [hpath, hmanifest, hversion, hkeyField, hkeyText, hkey, htitleField, htitleText,
    hsummaryField, hsummaryText, hpackageField, hpackageText, hpackage, hpackField, hpackKeyField,
    hpackFileField, hpackText, hresolve, hpolicyField, hexporterField, hviewField, hintegrationField,
    hentries, bind, Except.bind, pure, Except.pure]
  cases (describePackProject host disk (some (render
    (placeOf target plan.packageName (.package, packManifestName))))).mapError packInvalid <;> rfl

end

/-! ## What has been written is on the disk -/

section
variable {host : ScaffoldHost} {plan : StarterPlan} {target : Location} {disk disk' : ProjectDisk}

/-- The files of a starter by their places and names. -/
def starterFileNames : List (Place × String) :=
  [(.target, "pyproject.toml"), (.target, "README.md"), (.package, "__init__.py"),
    (.package, "bundle.py"), (.package, "pack.py"), (.package, "policy.py"),
    (.package, "exporters.py"), (.package, "views.py"), (.package, "integration.py"),
    (.prompts, "analyst.md"), (.prompts, "reviewer.md"), (.package, packManifestName),
    (.package, applicationBundleManifestName), (.package, starterManifestName)]

theorem StarterPlan.map_named_files :
    (plan.files host).map TemplateFile.named = starterFileNames := rfl

theorem StarterPlan.layout : Layout (plan.files host) where
  nodup := by
    rw [StarterPlan.map_named_files]
    decide
  noDirectory := by
    rw [StarterPlan.map_named_files]
    decide

theorem StarterPlan.foundByName {name : String} (hname : name ∈ manifestNames) :
    FoundByName (plan.files host) name := by
  have hall : ∀ name ∈ manifestNames, (.package, name) ∈ starterFileNames ∧
      (∀ named ∈ starterFileNames, named.2 = name → named = (.package, name)) ∧
        isPackageName name = false ∧ name ∉ skipDiscoveryParts := by
    decide
  obtain ⟨hmem, honly, hdirectory, hseen⟩ := hall name hname
  rw [← @StarterPlan.map_named_files host plan] at hmem honly
  exact ⟨hmem, honly, hdirectory, hseen⟩

theorem StarterPlan.packOnDisk
    (hwritten : ProjectWritten disk disk' target (promptsDirectory target plan.packageName)
      (placed target plan.packageName (plan.files host)))
    (hread : ReadsBack host (.obj plan.payload.fields)) :
    PackOnDisk host.test.projects disk'
      (placeOf target plan.packageName (.package, packManifestName)) plan.payload := by
  have hstated := starterRoleSpecs_stated plan.key plan.title
  have hmanifest : (⟨.package, packManifestName, host.safeDump (.obj plan.payload.fields)⟩ :
      TemplateFile) ∈ plan.files host := List.mem_append_right _ List.mem_cons_self
  refine packOnDisk_written hwritten hmanifest hread fun role hrole => ⟨?_, ?_⟩
  · have hanalyst : IsName "analyst.md".toList := by unfold IsName; decide
    have hreviewer : IsName "reviewer.md".toList := by unfold IsName; decide
    have hnames : ∀ role ∈ starterRoleSpecs plan.key plan.title, IsName role.promptName.toList := by
      unfold starterRoleSpecs
      rw [List.forall_mem_cons, List.forall_mem_singleton]
      exact ⟨hanalyst, hreviewer⟩
    exact hnames role hrole
  · exact ⟨role.prompt, List.mem_append_left _ (List.mem_append_right _ (List.mem_map_of_mem hrole)),
      (hstated role hrole).prompt⟩

theorem StarterPlan.moduleFile_mem (plan : StarterPlan) (part : StarterPart) :
    plan.moduleFile part ∈ plan.files host := by
  refine List.mem_append_left _ (List.mem_append_left _ ?_)
  cases part <;> simp

theorem StarterPlan.onDisk {name : String}
    (hwritten : ProjectWritten disk disk' target (promptsDirectory target plan.packageName)
      (placed target plan.packageName (plan.files host)))
    (hread : ReadsBack host (.obj plan.fields)) (hname : name ∈ manifestNames) :
    StarterOnDisk host.test.projects disk' plan target
      (placeOf target plan.packageName (.package, name)) where
  manifest := by
    have hmem : (⟨.package, name, host.safeDump (.obj plan.fields)⟩ : TemplateFile) ∈
        plan.files host := by
      refine List.mem_append_right _ (List.mem_cons_of_mem _ ?_)
      rw [manifestNames, List.mem_cons, List.mem_singleton] at hname
      rcases hname with rfl | rfl <;> simp
    exact ⟨_, hwritten.wrote _ (List.mem_map_of_mem hmem), hread⟩
  parts part := by
    have hwrote := hwritten.wrote _ (List.mem_map_of_mem (plan.moduleFile_mem part))
    exact fun hnone => by
      rw [StarterPlan.moduleFile] at hwrote
      dsimp only [TemplateFile.named] at hwrote
      rw [hnone] at hwrote
      cases hwrote

end

/-! ## Where a starter is found again -/

section
variable {host : TestHost} {target : Location} {package : PackageName} {files : List TemplateFile}
  {disk disk' : ProjectDisk} {location : Location}

theorem resolveStarterManifest_file {text : Option String} (hnames : ∀ s ∈ location, IsName s)
    (h : disk.get? location = some (.file text)) :
    resolveStarterManifest host.projects disk (some (render location)) = .ok location := by
  unfold resolveStarterManifest
  rw [candidatePath_render]
  dsimp only
  rw [locate_render host hnames, h]

/-- Of the two manifests in one directory, that of the application stays. -/
theorem dedupedManifests_pair {application starter directory : Location}
    (happlication : application.dropLast = directory) (hstarter : starter.dropLast = directory)
    (hlast : application.getLast? = some applicationBundleManifestName.toList) :
    dedupedManifests [application, starter] = [application] := by
  let one : Dict Location Location := Dict.empty.set directory application
  have hnames : applicationBundleManifestName.toList ≠ starterManifestName.toList := by decide
  have hone : one.get? directory = some application := Dict.get?_set_self _ _ _
  have hfirst : (Dict.empty : Dict Location Location).setNew directory application = one := rfl
  have hsecond : one.setNew directory starter = one := by
    rw [Dict.setNew, hone]
    rfl
  have hkept : ¬ application.getLast? = some starterManifestName.toList := by
    rw [hlast, Option.some.injEq]
    exact hnames
  unfold dedupedManifests
  simp only [List.foldl_cons, List.foldl_nil, happlication, hstarter, hfirst, hsecond, hone, hkept,
    false_and, if_false]
  rfl

/-- The application manifest is found in the directory of its project unless the package is
skipped. -/
theorem resolveStarterManifest_directory_iff (htarget : ∀ s ∈ target, IsName s)
    (hwritten : ProjectWritten disk disk' target (promptsDirectory target package)
      (placed target package files)) (hfound : ∀ name ∈ manifestNames, FoundByName files name)
    {manifest : Location} :
    resolveStarterManifest host.projects disk' (some (render target)) = .ok manifest ↔
      manifest = placeOf target package (.package, applicationBundleManifestName) ∧
        package.text ∉ skipDiscoveryParts := by
  have hmatched : manifestNames.flatMap (manifestsNamed disk' target) =
      if package.text ∈ skipDiscoveryParts then [] else
        [placeOf target package (.package, applicationBundleManifestName),
          placeOf target package (.package, starterManifestName)] := by
    rw [manifestNames, List.flatMap_cons, List.flatMap_cons, List.flatMap_nil,
      manifestsNamed_placed hwritten (hfound _ (by simp [manifestNames])),
      manifestsNamed_placed hwritten (hfound _ (by simp [manifestNames]))]
    split <;> rfl
  unfold resolveStarterManifest
  rw [candidatePath_render]
  dsimp only
  rw [locate_render host htarget, reaches_target hwritten]
  dsimp only
  rw [hmatched]
  by_cases hskip : package.text ∈ skipDiscoveryParts
  · rw [if_pos hskip]
    simp [hskip, dedupedManifests]
  · have hdeduped : dedupedManifests
        [placeOf target package (.package, applicationBundleManifestName),
          placeOf target package (.package, starterManifestName)] =
          [placeOf target package (.package, applicationBundleManifestName)] :=
      dedupedManifests_pair List.dropLast_concat List.dropLast_concat List.getLast?_concat
    rw [if_neg hskip, hdeduped]
    simp [hskip, eq_comm]

end

/-! ## Literals -/

section
variable {host : ScaffoldHost} {python : PythonRuntime} {request : ScaffoldRequest}
  {plan : StarterPlan} {target : Location} {disk disk' : ProjectDisk}

/-- The description denotes the summary exactly if that is plain. -/
theorem StarterPlan.described_iff (hplan : starterPlan host.test.projects.py request = .ok plan)
    (hwritten : ProjectWritten disk disk' target (promptsDirectory target plan.packageName)
      (placed target plan.packageName (plan.files host))) :
    plan.Described disk' target ↔ QuotedText.plain QuotedText.toml plan.summary.toList = true := by
  have hfile : (⟨.target, "pyproject.toml", plan.pyproject⟩ : TemplateFile) ∈ plan.files host :=
    List.mem_append_left _ (List.mem_append_left _ (by simp))
  have hwrote := hwritten.wrote _ (List.mem_map_of_mem hfile)
  have hback : starterProjectTail plan.key plan.packageName ≠ [] := List.cons_ne_nil _ _
  have htext : plan.pyproject = ended (starterProjectHead plan.key) ++ "description = " ++
      quoted plan.summary ++
        ("\n" ++ joinLines (starterProjectTail plan.key plan.packageName) ++ "\n") := by
    rw [StarterPlan.pyproject, joinLines_append _ _ hback]
    simp only [String.append_assoc]
  have hne : plan.summary ≠ "" := by
    intro hnil
    exact (starterPlan_ok hplan).2.2 (by rw [hnil]; decide)
  dsimp only at hwrote
  rw [htext] at hwrote
  exact denotes_iff_plain hwrote hne (by decide) (by decide)

/-- The title in a module is denoted exactly if the title is plain before a blank. -/
theorem StarterPlan.titled_iff
    (hwritten : ProjectWritten disk disk' target (promptsDirectory target plan.packageName)
      (placed target plan.packageName (plan.files host))) (part : StarterPart) :
    plan.Titled python disk' target part ↔
      QuotedText.plain (QuotedText.python python.characterNamed) (plan.title ++ " ").toList = true := by
  have hwrote := hwritten.wrote _ (List.mem_map_of_mem (plan.moduleFile_mem part))
  have hback : part.tail plan.key ≠ [] := by
    cases part <;> exact List.cons_ne_nil _ _
  have hcomma : ",\n" = "," ++ "\n" := rfl
  have htext : plan.moduleText part = ended (part.head plan.key) ++ "        title=" ++
      quoted (plan.partTitle part) ++ (",\n" ++ joinLines (part.tail plan.key)) := by
    rw [StarterPlan.moduleText, joinLines_append _ _ hback, hcomma]
    simp only [String.append_assoc]
  have hne : plan.partTitle part ≠ "" := by
    intro hnil
    have hlength := congrArg (fun text => text.toList.length) hnil
    simp [StarterPlan.partTitle] at hlength
  have hplain : QuotedText.plain (QuotedText.python python.characterNamed)
        (plan.partTitle part).toList =
      QuotedText.plain (QuotedText.python python.characterNamed) (plan.title ++ " ").toList := by
    have hword : ∀ c ∈ part.titleWord.toList, c ≠ '"' ∧ c ≠ '\\' ∧
        QuotedText.isPythonChar c = true := by
      cases part <;> simp [StarterPart.titleWord, QuotedText.isPythonChar]
    simp only [StarterPlan.partTitle, String.toList_append, List.append_assoc]
    exact QuotedText.plainFrom_append hword
  rw [StarterPlan.moduleFile] at hwrote
  dsimp only [TemplateFile.named] at hwrote
  rw [htext] at hwrote
  rw [← hplain]
  exact denotes_iff_plain hwrote hne rfl rfl

end

/-! ## Imports of what has been written -/

/-- How Python runs the modules of a plan, wherever its files are on a disk. -/
structure RunsGenerated (python : PythonRuntime) (host : ScaffoldHost) (plan : StarterPlan)
    (target : Location) : Prop where
  /-- A definition is made where the class is still loaded, the title is a literal, and the
  names that are imported are those of the standard library. -/
  runs : ∀ (part : StarterPart) (modules : List String) (disk : ProjectDisk),
    (∀ file ∈ placed target plan.packageName (plan.files host),
      disk.get? file.1 = some (.file (some (textMode file.2)))) →
    python.aheadOfPath plan.packageName.text = false →
    (part = .integration → plan.packageName.text ≠ "pathlib") →
    QuotedText.plain (QuotedText.python python.characterNamed) (plan.title ++ " ").toList = true →
    part.eseModule ∈ modules →
    ∃ modules', python.load modules (target ++ ["src".toList]) disk (plan.module part) part.loader =
        (.value ⟨some part, plan.partKey part, expectedVersion⟩, modules') ∧
      ∀ other : StarterPart, other.eseModule ∈ modules → other.eseModule ∈ modules'
  /-- There are no modules of the project in a module that is found ahead of it. -/
  ahead : python.aheadOfPath plan.packageName.text = true →
    ∀ (part : StarterPart) (modules : List String) (disk : ProjectDisk), ∃ error,
      (python.load modules (target ++ ["src".toList]) disk (plan.module part) part.loader).1 =
        .notImported error
  /-- A class that is loaded once more is another class. -/
  reloaded : ∀ (part : StarterPart) (modules : List String) (disk : ProjectDisk) (value : PartValue),
    (∀ file ∈ placed target plan.packageName (plan.files host),
      disk.get? file.1 = some (.file (some (textMode file.2)))) →
    part.eseModule ∉ modules →
    (python.load modules (target ++ ["src".toList]) disk (plan.module part) part.loader).1 =
      .value value → value.kind ≠ some part
  /-- A project in the place of `pathlib` has no `Path`. -/
  noPath : plan.packageName.text = "pathlib" → ∀ (modules : List String) (disk : ProjectDisk),
    (∀ file ∈ placed target plan.packageName (plan.files host),
      disk.get? file.1 = some (.file (some (textMode file.2)))) →
    ∃ error, (python.load modules (target ++ ["src".toList]) disk (plan.module .integration)
      StarterPart.integration.loader).1 = .notImported error

/-- A package whose modules can be imported without taking modules of ESE out. -/
structure Importable (python : PythonRuntime) (package : PackageName) : Prop where
  onPath : python.aheadOfPath package.text = false
  notEse : package.text ∉ ["e", "es", "ese"]
  notPathlib : package.text ≠ "pathlib"

theorem prefix_ese_iff {package : PackageName} :
    package.text.toList <+: "ese".toList ↔ package.text ∈ ["e", "es", "ese"] := by
  constructor
  · intro hprefix
    have hmem := (List.mem_inits _ _).mpr hprefix
    have hinits : "ese".toList.inits = ["".toList, "e".toList, "es".toList, "ese".toList] := rfl
    rw [hinits] at hmem
    simp only [List.mem_cons, List.not_mem_nil, or_false, String.toList_inj] at hmem ⊢
    exact hmem.resolve_left fun hnil => package.ne_nil (by rw [hnil]; rfl)
  · intro hmem
    simp only [List.mem_cons, List.not_mem_nil, or_false] at hmem
    rcases hmem with heq | heq | heq <;> rw [heq] <;> decide

section
variable {host : ScaffoldHost} {python : PythonRuntime} {plan : StarterPlan} {target : Location}
  {disk disk' : ProjectDisk}

/-- The extensions are imported exactly if the package is importable. -/
theorem partsLoad_iff (hruns : RunsGenerated python host plan target)
    (hfiles : ∀ file ∈ placed target plan.packageName (plan.files host),
      disk.get? file.1 = some (.file (some (textMode file.2))))
    (htitle : QuotedText.plain (QuotedText.python python.characterNamed)
      (plan.title ++ " ").toList = true) :
    PartsLoad python (target ++ ["src".toList]) disk (plan.entry target) plan.module
        StarterPart.loader (clearPackageModules plan.packageName.text python.modules) ↔
      Importable python plan.packageName := by
  constructor
  · intro hload
    obtain ⟨m₁, m₂, m₃, m₄, hpolicy, -, -, hintegration⟩ := hload
    refine ⟨?_, ?_, ?_⟩
    · by_contra hahead
      rw [Bool.not_eq_false] at hahead
      obtain ⟨error, hfail⟩ := hruns.ahead hahead .policyCheck _ disk
      rw [hpolicy] at hfail
      cases hfail
    · intro hese
      have hout : StarterPart.policyCheck.eseModule ∉
          clearPackageModules plan.packageName.text python.modules := by
        rw [mem_clearPackageModules_iff, not_and_not_right]
        intro _
        exact (prefix_ese_iff.mpr hese).trans ⟨".policy_checks".toList, rfl⟩
      exact hruns.reloaded .policyCheck _ disk _ hfiles hout (by rw [hpolicy]) rfl
    · intro hpathlib
      obtain ⟨error, hfail⟩ := hruns.noPath hpathlib m₃ disk hfiles
      rw [hintegration] at hfail
      cases hfail
  · intro himportable
    have hloaded : ∀ part : StarterPart,
        part.eseModule ∈ clearPackageModules plan.packageName.text python.modules := by
      intro part
      rw [mem_clearPackageModules_iff]
      refine ⟨python.eseLoaded part, fun hprefix => himportable.notEse ?_⟩
      refine prefix_ese_iff.mp (prefix_eseModule (fun hdot => ?_) hprefix)
      have hrange := plan.packageName.toNat_range hdot
      simp at hrange
    have hstep := fun part modules hmem => hruns.runs part modules disk hfiles himportable.onPath
      (fun _ => himportable.notPathlib) htitle hmem
    obtain ⟨m₁, hpolicy, hkeep₁⟩ := hstep .policyCheck _ (hloaded _)
    obtain ⟨m₂, hexporter, hkeep₂⟩ := hstep .reportExporter m₁ (hkeep₁ _ (hloaded _))
    obtain ⟨m₃, hview, hkeep₃⟩ := hstep .artifactView m₂ (hkeep₂ _ (hkeep₁ _ (hloaded _)))
    obtain ⟨m₄, hintegration, -⟩ :=
      hstep .integration m₃ (hkeep₃ _ (hkeep₂ _ (hkeep₁ _ (hloaded _))))
    exact ⟨m₁, m₂, m₃, m₄, hpolicy, hexporter, hview, hintegration⟩

end

/-! ## Starters -/

/-- The manifests are accepted, the texts stand for themselves, and the package is neither
skipped nor in the way of an import. -/
structure StarterPlan.Works (python : PythonRuntime) (plan : StarterPlan) : Prop where
  fits : plan.payload.Fits
  summary : QuotedText.plain QuotedText.toml plan.summary.toList = true
  title : QuotedText.plain (QuotedText.python python.characterNamed)
    (plan.title ++ " ").toList = true
  seen : plan.packageName.text ∉ skipDiscoveryParts
  importable : Importable python plan.packageName

theorem describePackProject_ok_iff {host : ProjectHost} {disk : ProjectDisk} {path : Option String} :
    (∃ description, describePackProject host disk path = .ok description) ↔
      ∃ project, loadPackProject host disk path = .ok project := by
  constructor
  · intro ⟨description, h⟩
    obtain ⟨project, hproject, -⟩ := Fallible.bind_eq_ok_iff.mp h
    exact ⟨project, hproject⟩
  · intro ⟨project, hproject⟩
    rw [describePackProject, hproject]
    exact ⟨_, rfl⟩

/-- What is on a disk once a starter has been written. -/
structure StarterWritten (host : ScaffoldHost) (plan : StarterPlan) (target : Location)
    (disk disk' : ProjectDisk) : Prop where
  names : ∀ s ∈ target, IsName s
  written : ProjectWritten disk disk' target (promptsDirectory target plan.packageName)
    (placed target plan.packageName (plan.files host))
  packRead : ReadsBack host (.obj plan.payload.fields)
  starterRead : ReadsBack host (.obj plan.fields)

section
variable {host : ScaffoldHost} {python : PythonRuntime} {request : ScaffoldRequest}
  {plan : StarterPlan} {target : Location} {disk disk' : ProjectDisk} {path : Option String}

theorem isName_manifestNames {name : String} (h : name ∈ manifestNames) : IsName name.toList := by
  rw [manifestNames, List.mem_cons, List.mem_singleton] at h
  unfold IsName
  rcases h with rfl | rfl <;> decide

/-- The pack of a starter is found under its own path. -/
theorem packOfStarter_path (h : StarterWritten host plan target disk disk') :
    resolvePackManifest host.test.projects disk' (some (render
        (placeOf target plan.packageName (.package, packManifestName)))) =
      .ok (placeOf target plan.packageName (.package, packManifestName)) := by
  obtain ⟨text, htext, -⟩ := (plan.packOnDisk h.written h.packRead).manifest
  exact resolvePackManifest_file host.test (names_placeOf h.names isName_packManifestName) htext

/-- A starter that is loaded is the one that has been written, and its pack fits. -/
theorem loadedStarter_of_load {project : StarterProject}
    (hplan : starterPlan host.test.projects.py request = .ok plan)
    (h : StarterWritten host plan target disk disk') {name : String} (hname : name ∈ manifestNames)
    (hpath : resolveStarterManifest host.test.projects disk' path =
      .ok (placeOf target plan.packageName (.package, name)))
    (hload : loadStarterProject host.test.projects disk' path = .ok project) :
    LoadedStarter plan target (placeOf target plan.packageName (.package, name)) project ∧
      plan.payload.Fits := by
  obtain ⟨written, hwritten, heq⟩ := loadStarterProject_written host.test.lowersAscii hplan hpath
    (plan.onDisk h.written h.starterRead hname)
  rw [hload] at heq
  obtain ⟨description, hdescribed, hsame⟩ := Fallible.map_eq_ok_iff.mp heq.symm
  rw [← hsame, ← loadPackProject_written_iff (packOfStarter_path h)
    (StarterPlan.payload_stated hplan) (plan.packOnDisk h.written h.packRead),
    ← describePackProject_ok_iff]
  exact ⟨hwritten, description, Fallible.mapError_eq_ok_iff.mp hdescribed⟩

/-- A starter whose pack fits is loaded. -/
theorem exists_loadedStarter (hplan : starterPlan host.test.projects.py request = .ok plan)
    (h : StarterWritten host plan target disk disk') {name : String} (hname : name ∈ manifestNames)
    (hpath : resolveStarterManifest host.test.projects disk' path =
      .ok (placeOf target plan.packageName (.package, name))) (hfits : plan.payload.Fits) :
    ∃ project, loadStarterProject host.test.projects disk' path = .ok project := by
  obtain ⟨project, -, hload⟩ := loadStarterProject_written host.test.lowersAscii hplan hpath
    (plan.onDisk h.written h.starterRead hname)
  rw [← loadPackProject_written_iff (packOfStarter_path h) (StarterPlan.payload_stated hplan)
    (plan.packOnDisk h.written h.packRead), ← describePackProject_ok_iff] at hfits
  obtain ⟨description, hdescribed⟩ := hfits
  rw [hload, hdescribed]
  exact ⟨project, rfl⟩

/-- Loading depends on a path by the manifest that it leads to. -/
theorem loadStarterProject_congr {projects : ProjectHost} {other : Option String}
    (h : resolveStarterManifest projects disk path = resolveStarterManifest projects disk other) :
    loadStarterProject projects disk path = loadStarterProject projects disk other := by
  unfold loadStarterProject
  rw [h]

theorem dropLast_dropLast_placeOf (package : PackageName) (name : String) :
    (placeOf target package (.package, name)).dropLast.dropLast = target ++ ["src".toList] := by
  have hdirectory : packageDirectory target package =
      target ++ ["src".toList] ++ [package.text.toList] := by
    rw [packageDirectory, List.append_assoc]
    rfl
  rw [placeOf, List.dropLast_concat, Place.location, hdirectory, List.dropLast_concat]

/-- A starter that is loaded passes the test exactly if its package is importable. -/
theorem smokeTest_loaded_iff (hruns : RunsGenerated python host plan target)
    (h : StarterWritten host plan target disk disk')
    (hplan : starterPlan host.test.projects.py request = .ok plan)
    (htitle : QuotedText.plain (QuotedText.python python.characterNamed)
      (plan.title ++ " ").toList = true)
    (hfits : plan.payload.Fits) {name : String} (hname : name ∈ manifestNames)
    (hpath : resolveStarterManifest host.test.projects disk' path =
      .ok (placeOf target plan.packageName (.package, name))) :
    (∃ smoke, smokeTestStarterProject host.test python disk' path "openai" none = .ok smoke) ↔
      Importable python plan.packageName := by
  obtain ⟨text, htext, -⟩ := (plan.onDisk h.written h.starterRead hname).manifest
  have hown := @resolveStarterManifest_file host.test disk' _ (some text)
    (names_placeOf h.names (isName_manifestNames hname)) htext
  obtain ⟨project, hload⟩ := exists_loadedStarter hplan h hname hpath hfits
  obtain ⟨hloaded, -⟩ := loadedStarter_of_load hplan h hname hpath hload
  have hagain : loadStarterProject host.test.projects disk'
      (some (render project.manifestPath)) = .ok project := by
    rw [hloaded.manifestPath, ← hload]
    exact loadStarterProject_congr (hown.trans hpath.symm)
  have hpackPath := packOfStarter_path h
  obtain ⟨pack, hpack⟩ := (loadPackProject_written_iff hpackPath (StarterPlan.payload_stated hplan)
    (plan.packOnDisk h.written h.packRead)).mpr hfits
  have hpackNames : ∀ s ∈ pack.manifestPath, IsName s := by
    rw [loadPackProject_path hpack hpackPath]
    exact names_placeOf h.names isName_packManifestName
  rw [← hloaded.packManifestPath] at hpack
  rw [smokeTestStarterProject_ok_iff hload hagain hloaded.parts
    (smokeTestPackProject_ok host.test hpack hpackNames), hloaded.manifestPath,
    dropLast_dropLast_placeOf, hloaded.packageName]
  exact partsLoad_iff hruns h.written.wrote htitle

theorem load_of_smokeTestStarter {provider : String} {model : Option String} {smoke : StarterSmoke}
    (h : smokeTestStarterProject host.test python disk path provider model = .ok smoke) :
    ∃ project, loadStarterProject host.test.projects disk path = .ok project := by
  obtain ⟨project, hproject, -⟩ := Fallible.bind_eq_ok_iff.mp h
  exact ⟨project, hproject⟩

/-- What an accepted starter was found under. -/
theorem loadStarterProject_path {projects : ProjectHost} {project : StarterProject}
    (h : loadStarterProject projects disk path = .ok project) :
    ∃ manifest, resolveStarterManifest projects disk path = .ok manifest := by
  obtain ⟨manifest, hmanifest, -⟩ := Fallible.bind_eq_ok_iff.mp h
  exact ⟨manifest, hmanifest⟩

/-- What the loading of the manifest makes of files that have been written. -/
theorem starterLoaded_iff (hfresh : FreshTarget disk target)
    (hruns : RunsGenerated python host plan target)
    (hplan : starterPlan host.test.projects.py request = .ok plan)
    (h : StarterWritten host plan target disk disk') :
    (match loadStarterProject host.test.projects disk'
        (some (render (placeOf target plan.packageName (.package, starterManifestName)))) with
      | .error _ => NoFileLeft disk disk'
      | .ok project =>
          (∃ plan, starterPlan host.test.projects.py request = .ok plan ∧
            plan.Described disk' target ∧ ∀ part, plan.Titled python disk' target part) ∧
          ∀ location ∈ [project.manifestPath, target], ∃ smoke,
            smokeTestStarterProject host.test python disk' (some (render location)) "openai" none =
              .ok smoke) ↔ plan.Works python := by
  let manifest := placeOf target plan.packageName (.package, starterManifestName)
  have hstarter : starterManifestName ∈ manifestNames := by simp [manifestNames]
  have happlication : applicationBundleManifestName ∈ manifestNames := by simp [manifestNames]
  obtain ⟨text, htext, -⟩ := (plan.onDisk h.written h.starterRead hstarter).manifest
  have hown := @resolveStarterManifest_file host.test disk' manifest (some text)
    (names_placeOf h.names (isName_manifestNames hstarter)) htext
  have hdirectory : ∀ found, resolveStarterManifest host.test.projects disk' (some (render target)) =
      .ok found ↔ found = placeOf target plan.packageName (.package, applicationBundleManifestName) ∧
        plan.packageName.text ∉ skipDiscoveryParts := fun found =>
    resolveStarterManifest_directory_iff h.names h.written fun name hname => plan.foundByName hname
  cases hloaded : loadStarterProject host.test.projects disk' (some (render manifest)) with
  | error error =>
      dsimp only
      have hfile : (⟨.target, "README.md", plan.readme⟩ : TemplateFile) ∈ plan.files host :=
        List.mem_append_left _ (List.mem_append_left _ (by simp))
      refine iff_of_false
        (h.written.leaves hfresh (List.mem_map_of_mem hfile) (prefix_placeOf _)) ?_
      intro hworks
      obtain ⟨project, hok⟩ := exists_loadedStarter hplan h hstarter hown hworks.fits
      rw [hloaded] at hok
      cases hok
  | ok project =>
      dsimp only
      obtain ⟨hwritten, hfits⟩ := loadedStarter_of_load hplan h hstarter hown hloaded
      have htest := fun htitle =>
        smokeTest_loaded_iff hruns h hplan htitle hfits hstarter hown
      rw [List.forall_mem_cons, List.forall_mem_singleton, hwritten.manifestPath]
      constructor
      · intro ⟨⟨plan', hplan', hdescribed, htitled⟩, hmanifest, smoke, hsmoke⟩
        rw [hplan] at hplan'
        cases hplan'
        have htitle := (StarterPlan.titled_iff h.written .policyCheck).mp (htitled .policyCheck)
        obtain ⟨found, hfound⟩ := load_of_smokeTestStarter hsmoke
        obtain ⟨place, hplace⟩ := loadStarterProject_path hfound
        exact ⟨hfits, (StarterPlan.described_iff hplan h.written).mp hdescribed, htitle,
          ((hdirectory place).mp hplace).2, (htest htitle).mp hmanifest⟩
      · intro hworks
        refine ⟨⟨plan, hplan, (StarterPlan.described_iff hplan h.written).mpr hworks.summary,
          fun part => (StarterPlan.titled_iff h.written part).mpr hworks.title⟩,
          (htest hworks.title).mpr hworks.importable, ?_⟩
        exact (smokeTest_loaded_iff hruns h hplan hworks.title hfits happlication
          ((hdirectory _).mpr ⟨rfl, hworks.seen⟩)).mpr hworks.importable

/-- A scaffold of a starter is sound exactly if it refuses its arguments, or something is in
the way of its directories, or what has been written works. -/
theorem starterSound_iff (hfresh : FreshTarget disk (host.target request))
    (hread : ∀ plan, starterPlan host.test.projects.py request = .ok plan →
      ReadsBack host (.obj plan.payload.fields) ∧ ReadsBack host (.obj plan.fields))
    (hruns : ∀ plan, starterPlan host.test.projects.py request = .ok plan →
      RunsGenerated python host plan (host.target request)) :
    StarterSound host python disk request ↔
      ∀ plan, starterPlan host.test.projects.py request = .ok plan →
        Blocked host.refuses disk (promptsDirectory (host.target request) plan.packageName) ∨
          plan.Works python := by
  cases hplan : starterPlan host.test.projects.py request with
  | error error =>
      have hscaffold : scaffoldStarterProject host disk request = (.error error, disk) := by
        unfold scaffoldStarterProject
        rw [hplan]
      rw [StarterSound, hscaffold]
      exact iff_of_true (.refl disk) fun plan h => by cases h
  | ok plan =>
      let target := host.target request
      have hone : (∀ other, Except.ok plan = (Except.ok other : Except ProjectError StarterPlan) →
          Blocked host.refuses disk (promptsDirectory target other.packageName) ∨
            other.Works python) ↔
          (Blocked host.refuses disk (promptsDirectory target plan.packageName) ∨
            plan.Works python) :=
        ⟨fun h => h plan rfl, fun h other heq => by cases heq; exact h⟩
      rw [hone]
      have hcases := @writeProject_cases host.refuses disk target
        (promptsDirectory target plan.packageName) []
        (fun path disk => makeDirectory host.refuses path.dropLast disk)
        (placed target plan.packageName (plan.files host)) hfresh (projectFiles_placed plan.layout)
        (by simp) fun _ _ hinside hreaches => makeDirectory_of_reaches hreaches hinside
      have hscaffold : scaffoldStarterProject host disk request =
          match writeProject host.refuses ([] ++ [promptsDirectory target plan.packageName])
              (fun path disk => makeDirectory host.refuses path.dropLast disk)
              (placed target plan.packageName (plan.files host)) disk with
          | (some exception, disk') => (.error (.escaped exception), disk')
          | (none, disk') => (loadStarterProject host.test.projects disk'
              (some (render (placeOf target plan.packageName (.package, starterManifestName)))),
                disk') := by
        unfold scaffoldStarterProject
        rw [hplan]
        dsimp only
        rw [checkTarget_fresh hfresh]
        rfl
      rcases hcases with ⟨hfree, disk', hwrite, hwritten⟩ | ⟨hblocked, exception, disk', hwrite, hnone⟩
      · rw [hwrite] at hscaffold
        rw [StarterSound, hscaffold, or_iff_right hfree,
          ← starterLoaded_iff hfresh (hruns plan hplan) hplan
            ⟨target_names host request, hwritten, (hread plan hplan).1, (hread plan hplan).2⟩]
        dsimp only
        cases loadStarterProject host.test.projects disk'
          (some (render (placeOf target plan.packageName (.package, starterManifestName)))) <;> rfl
      · rw [hwrite] at hscaffold
        rw [StarterSound, hscaffold]
        exact iff_of_true hnone (.inl hblocked)

end

end TruePresenceESE.Ese
