import TruePresenceESE.Ese.PackSmoke
import TruePresenceESE.Ese.StarterProjects

/-! # Smoke tests of starters

The pack of a starter is tested, and then each extension that its manifest lists is imported
from the sources of the project. What the extension returns has to be of the class that the
test has loaded itself, so it matters which modules are taken out before the imports.
-/

namespace TruePresenceESE.Ese

open PosixPath PyText

/-! ## Parts of a starter -/

inductive StarterPart where
  | policyCheck
  | reportExporter
  | artifactView
  | integration
  deriving DecidableEq

/-- The word for a part in the texts of errors. -/
def StarterPart.word : StarterPart → String
  | .policyCheck => "policy check"
  | .reportExporter => "report exporter"
  | .artifactView => "artifact view"
  | .integration => "integration"

def StarterPart.className : StarterPart → String
  | .policyCheck => "PolicyCheckDefinition"
  | .reportExporter => "ReportExporterDefinition"
  | .artifactView => "ArtifactViewDefinition"
  | .integration => "IntegrationDefinition"

/-- The module that defines the class. -/
def StarterPart.eseModule : StarterPart → String
  | .policyCheck => "ese.policy_checks"
  | .reportExporter => "ese.report_exporters"
  | .artifactView => "ese.artifact_views"
  | .integration => "ese.integrations"

/-! ## Python -/

/-- What a loader returns. There is a kind if it is of a class that the test has loaded. -/
structure PartValue where
  kind : Option StarterPart
  key : String
  contractVersion : ℤ

inductive PartLoad where
  | notImported (error : String)
  | undefined
  | notCallable
  | raised (error : String)
  /-- An exception that is not caught. -/
  | exits (exception : String)
  | value (value : PartValue)

structure PythonRuntime where
  /-- The names in `sys.modules` when a test begins. -/
  modules : List String
  eseLoaded : ∀ part : StarterPart, part.eseModule ∈ modules
  /-- Whether a module is built in or frozen, and so found ahead of the path. -/
  aheadOfPath : String → Bool
  /-- The characters that `\N{…}` names. -/
  characterNamed : List Char → Option Char
  /-- What an attribute of a module comes to when it is imported and called, by the loaded
  modules, the directory at the front of the path and the disk; and the modules then. -/
  load : List String → Location → ProjectDisk → String → String → PartLoad × List String

/-- What is left of the loaded modules: none whose name begins like the package. -/
def clearPackageModules (package : String) (modules : List String) : List String :=
  modules.filter fun name => !(package.toList.isPrefixOf name.toList)

section
variable (python : PythonRuntime) (sourceRoot : Location) (disk : ProjectDisk)

/-- `reference.partition(":")`, without the separator. -/
def partitionReference (reference : String) : String × Option String :=
  let module := reference.toList.takeWhile (· ≠ ':')
  match reference.toList.drop module.length with
  | [] => (String.ofList module, none)
  | _ :: name => (String.ofList module, some (String.ofList name))

def loadEntrypointReference (modules : List String) (reference label : String) :
    Except ProjectError (PartValue × List String) :=
  match partitionReference reference with
  | (_, none) => .error (.starterProject (label ++
      " module reference must use the form package.module:callable"))
  | (module, some name) =>
      if module = "" ∨ name = "" then .error (.starterProject (label ++
        " module reference must use the form package.module:callable"))
      else match python.load modules sourceRoot disk module name with
        | (.notImported err, _) => .error (.starterProject
            ("Could not import " ++ label ++ " module '" ++ module ++ "': " ++ err))
        | (.undefined, _) => .error (.starterProject
            (label ++ " module '" ++ module ++ "' does not define '" ++ name ++ "'"))
        | (.notCallable, _) => .error (.starterProject
            (label ++ " loader '" ++ reference ++ "' must be callable"))
        | (.raised err, _) => .error (.starterProject
            (label ++ " loader '" ++ reference ++ "' failed: " ++ err))
        | (.exits exception, _) => .error (.escaped exception)
        | (.value value, modules') => .ok (value, modules')

/-- An extension that is imported, and the modules then. -/
def loadPart (part : StarterPart) (modules : List String)
    (entry : StarterExtensionManifestEntry) : Except ProjectError (String × List String) := do
  let label := part.word ++ " '" ++ entry.key.text ++ "'"
  let (value, modules) ← loadEntrypointReference python sourceRoot disk modules entry.module.text label
  if value.kind ≠ some part then
    throw (.starterProject (label ++ " must load to " ++ part.className))
  if value.contractVersion ≠ expectedVersion then
    throw (.starterProject (label ++ " contract version " ++ toString value.contractVersion ++
      " is not supported"))
  if value.key ≠ entry.key.text then
    throw (.starterProject (part.word ++ " loader returned key '" ++ value.key ++
      "', expected '" ++ entry.key.text ++ "'"))
  return (value.key, modules)

def loadParts (part : StarterPart) : List StarterExtensionManifestEntry → List String →
    Except ProjectError (List String × List String)
  | [], modules => .ok ([], modules)
  | entry :: rest, modules => do
      let (key, modules) ← loadPart python sourceRoot disk part modules entry
      let (keys, modules) ← loadParts part rest modules
      return (key :: keys, modules)

end

/-! ## The test -/

def describeStarterProject (host : ProjectHost) (disk : ProjectDisk) (path : Option String) :
    Except ProjectError JsonDict := do
  let project ← loadStarterProject host disk path
  let keys := fun entries => Json.arr ((exportedKeys entries).map .str)
  return JsonDict.ofFields
    [("manifest_path", .str (render project.manifestPath)), ("starter_key", .str project.key.text),
      ("bundle_key", .str project.key.text), ("title", .str project.title.text),
      ("summary", .str project.summary.text), ("package_name", .str project.packageName.text),
      ("contract_version", .num project.contractVersion), ("pack_key", .str project.packKey.text),
      ("pack_manifest_path", .str (render project.packManifestPath)),
      ("policy_checks", keys project.policyChecks),
      ("report_exporters", keys project.reportExporters),
      ("artifact_views", keys project.artifactViews), ("integrations", keys project.integrations)]

/-- What a test reports. -/
structure StarterSmoke where
  description : JsonDict
  packSmoke : PackSmoke
  loaded : StarterPart → List String

section
variable (host : TestHost) (python : PythonRuntime) (disk : ProjectDisk)

def smokeTestStarterProject (path : Option String) (provider : String) (model : Option String) :
    Except ProjectError StarterSmoke := do
  let project ← loadStarterProject host.projects disk path
  let packSmoke ← smokeTestPackProject host disk (some (render project.packManifestPath)) provider model
  let sourceRoot := project.manifestPath.dropLast.dropLast
  let modules := clearPackageModules project.packageName.text python.modules
  let entries := loadParts python sourceRoot disk
  let (policyChecks, modules) ← entries .policyCheck project.policyChecks modules
  let (reportExporters, modules) ← entries .reportExporter project.reportExporters modules
  let (artifactViews, modules) ← entries .artifactView project.artifactViews modules
  let (integrations, _) ← entries .integration project.integrations modules
  let description ← describeStarterProject host.projects disk (some (render project.manifestPath))
  return ⟨description, packSmoke, fun part =>
    match part with
    | .policyCheck => policyChecks
    | .reportExporter => reportExporters
    | .artifactView => artifactViews
    | .integration => integrations⟩

end

/-! ## One extension of each kind -/

section
variable {python : PythonRuntime} {sourceRoot : Location} {disk : ProjectDisk} {part : StarterPart}
  {modules modules' : List String} {entry : StarterExtensionManifestEntry} {key : String}

theorem loadEntrypointReference_ok_iff {reference label module name : String} {value : PartValue}
    (hreference : partitionReference reference = (module, some name)) (hmodule : module ≠ "")
    (hname : name ≠ "") :
    loadEntrypointReference python sourceRoot disk modules reference label = .ok (value, modules') ↔
      python.load modules sourceRoot disk module name = (.value value, modules') := by
  unfold loadEntrypointReference
  rw [hreference]
  dsimp only
  rw [if_neg (by simp [hmodule, hname])]
  constructor
  · intro h
    split at h
    · cases h
    · cases h
    · cases h
    · cases h
    · cases h
    · next hload =>
        cases h
        exact hload
  · intro h
    rw [h]

/-- An extension passes exactly if it is imported from its module, and what it returns is of
the kind and has the key that the manifest states. -/
theorem loadPart_ok_iff {module name : String}
    (hreference : partitionReference entry.module.text = (module, some name))
    (hmodule : module ≠ "") (hname : name ≠ "") :
    loadPart python sourceRoot disk part modules entry = .ok (key, modules') ↔
      key = entry.key.text ∧ python.load modules sourceRoot disk module name =
        (.value ⟨some part, entry.key.text, expectedVersion⟩, modules') := by
  constructor
  · intro h
    obtain ⟨⟨value, loaded⟩, hvalue, h⟩ := Fallible.bind_eq_ok_iff.mp h
    have hload := (loadEntrypointReference_ok_iff hreference hmodule hname).mp hvalue
    dsimp only at h
    split at h
    · cases h
    · next hkind =>
        split at h
        · cases h
        · next hversion =>
            split at h
            · cases h
            · next hkey =>
                cases h
                obtain ⟨kind, key, version⟩ := value
                rw [ne_eq, not_not] at hkind hversion hkey
                dsimp only at hkind hversion hkey
                subst hkind hversion hkey
                exact ⟨rfl, hload⟩
  · intro ⟨hkey, hload⟩
    have hvalue : ∀ label, loadEntrypointReference python sourceRoot disk modules entry.module.text
        label = .ok (⟨some part, entry.key.text, expectedVersion⟩, modules') := fun label =>
      (loadEntrypointReference_ok_iff hreference hmodule hname).mpr hload
    subst hkey
    unfold loadPart
    dsimp only
    rw [hvalue]
    simp [bind, Except.bind, pure, Except.pure]

theorem loadParts_singleton_ok_iff {keys : List String} :
    loadParts python sourceRoot disk part [entry] modules = .ok (keys, modules') ↔
      ∃ key, loadPart python sourceRoot disk part modules entry = .ok (key, modules') ∧
        keys = [key] := by
  constructor
  · intro h
    obtain ⟨⟨key, loaded⟩, hkey, h⟩ := Fallible.bind_eq_ok_iff.mp h
    cases h
    exact ⟨key, hkey, rfl⟩
  · intro ⟨key, hkey, hkeys⟩
    subst hkeys
    rw [loadParts, hkey]
    rfl

end

/-! ## Modules that stay -/

section
variable {package : String} {modules : List String} {name : String}

theorem mem_clearPackageModules_iff :
    name ∈ clearPackageModules package modules ↔
      name ∈ modules ∧ ¬ package.toList <+: name.toList := by
  simp only [clearPackageModules, List.mem_filter, Bool.not_eq_true', Bool.eq_false_iff, ne_eq,
    List.isPrefixOf_iff_prefix]

/-- A name without dots that a module of ESE begins with is a beginning of `ese`. -/
theorem prefix_eseModule {part : StarterPart} (hdot : '.' ∉ package.toList)
    (h : package.toList <+: part.eseModule.toList) : package.toList <+: "ese".toList := by
  have hese : "ese.".toList <+: part.eseModule.toList := by
    cases part with
    | policyCheck => exact ⟨"policy_checks".toList, rfl⟩
    | reportExporter => exact ⟨"report_exporters".toList, rfl⟩
    | artifactView => exact ⟨"artifact_views".toList, rfl⟩
    | integration => exact ⟨"integrations".toList, rfl⟩
  rcases List.prefix_or_prefix_of_prefix h hese with hshort | hlong
  · have hconcat : "ese.".toList = "ese".toList ++ ['.'] := rfl
    rw [hconcat, List.prefix_concat_iff] at hshort
    rcases hshort with heq | hprefix
    · exact absurd (by rw [heq]; simp) hdot
    · exact hprefix
  · exact absurd (hlong.subset (by simp)) hdot

end

/-! ## Projects with one extension of each kind -/

/-- The lists of a project hold one extension each, with a module and a name to import. -/
structure SingleParts (project : StarterProject)
    (entry : StarterPart → StarterExtensionManifestEntry) (module name : StarterPart → String) :
    Prop where
  policyChecks : project.policyChecks = [entry .policyCheck]
  reportExporters : project.reportExporters = [entry .reportExporter]
  artifactViews : project.artifactViews = [entry .artifactView]
  integrations : project.integrations = [entry .integration]
  reference : ∀ part, partitionReference (entry part).module.text = (module part, some (name part))
  module_ne : ∀ part, module part ≠ ""
  name_ne : ∀ part, name part ≠ ""

/-- The extensions are imported one after the other, and return what is stated. -/
def PartsLoad (python : PythonRuntime) (sourceRoot : Location) (disk : ProjectDisk)
    (entry : StarterPart → StarterExtensionManifestEntry) (module name : StarterPart → String)
    (modules : List String) : Prop :=
  let loads := fun part before after => python.load before sourceRoot disk (module part) (name part) =
    (.value ⟨some part, (entry part).key.text, expectedVersion⟩, after)
  ∃ m₁ m₂ m₃ m₄, loads .policyCheck modules m₁ ∧ loads .reportExporter m₁ m₂ ∧
    loads .artifactView m₂ m₃ ∧ loads .integration m₃ m₄

section
variable {host : TestHost} {python : PythonRuntime} {disk : ProjectDisk} {path : Option String}
  {project : StarterProject} {entry : StarterPart → StarterExtensionManifestEntry}
  {module name : StarterPart → String} {provider : String} {model : Option String}

theorem loadParts_single_iff (hparts : SingleParts project entry module name) {part : StarterPart}
    {sourceRoot : Location} {modules modules' : List String} {keys : List String} :
    loadParts python sourceRoot disk part [entry part] modules = .ok (keys, modules') ↔
      keys = [(entry part).key.text] ∧ python.load modules sourceRoot disk (module part) (name part) =
        (.value ⟨some part, (entry part).key.text, expectedVersion⟩, modules') := by
  rw [loadParts_singleton_ok_iff]
  constructor
  · intro ⟨key, hpart, hkeys⟩
    obtain ⟨hkey, hload⟩ := (loadPart_ok_iff (hparts.reference part) (hparts.module_ne part)
      (hparts.name_ne part)).mp hpart
    exact ⟨by rw [hkeys, hkey], hload⟩
  · intro ⟨hkeys, hload⟩
    exact ⟨_, (loadPart_ok_iff (hparts.reference part) (hparts.module_ne part)
      (hparts.name_ne part)).mpr ⟨rfl, hload⟩, hkeys⟩

/-- A starter whose pack passes the test passes exactly if its extensions are imported. -/
theorem smokeTestStarterProject_ok_iff
    (hload : loadStarterProject host.projects disk path = .ok project)
    (hagain : loadStarterProject host.projects disk (some (render project.manifestPath)) = .ok project)
    (hparts : SingleParts project entry module name)
    (hpack : ∃ smoke, smokeTestPackProject host disk (some (render project.packManifestPath)) provider
      model = .ok smoke) :
    (∃ smoke, smokeTestStarterProject host python disk path provider model = .ok smoke) ↔
      PartsLoad python project.manifestPath.dropLast.dropLast disk entry module name
        (clearPackageModules project.packageName.text python.modules) := by
  obtain ⟨packSmoke, hpackSmoke⟩ := hpack
  constructor
  · intro ⟨smoke, h⟩
    unfold smokeTestStarterProject at h
    obtain ⟨project', hproject, h⟩ := Fallible.bind_eq_ok_iff.mp h
    rw [hload] at hproject
    cases hproject
    obtain ⟨packSmoke', -, h⟩ := Fallible.bind_eq_ok_iff.mp h
    obtain ⟨⟨policyChecks, m₁⟩, h₁, h⟩ := Fallible.bind_eq_ok_iff.mp h
    obtain ⟨⟨reportExporters, m₂⟩, h₂, h⟩ := Fallible.bind_eq_ok_iff.mp h
    obtain ⟨⟨artifactViews, m₃⟩, h₃, h⟩ := Fallible.bind_eq_ok_iff.mp h
    obtain ⟨⟨integrations, m₄⟩, h₄, -⟩ := Fallible.bind_eq_ok_iff.mp h
    rw [hparts.policyChecks] at h₁
    rw [hparts.reportExporters] at h₂
    rw [hparts.artifactViews] at h₃
    rw [hparts.integrations] at h₄
    exact ⟨m₁, m₂, m₃, m₄, ((loadParts_single_iff hparts).mp h₁).2,
      ((loadParts_single_iff hparts).mp h₂).2, ((loadParts_single_iff hparts).mp h₃).2,
      ((loadParts_single_iff hparts).mp h₄).2⟩
  · intro ⟨m₁, m₂, m₃, m₄, h₁, h₂, h₃, h₄⟩
    have hdescribed : ∃ description, describeStarterProject host.projects disk
        (some (render project.manifestPath)) = .ok description := by
      rw [describeStarterProject, hagain]
      exact ⟨_, rfl⟩
    obtain ⟨description, hdescription⟩ := hdescribed
    have hpolicy := (loadParts_single_iff hparts).mpr ⟨rfl, h₁⟩
    have hexporter := (loadParts_single_iff hparts).mpr ⟨rfl, h₂⟩
    have hview := (loadParts_single_iff hparts).mpr ⟨rfl, h₃⟩
    have hintegration := (loadParts_single_iff hparts).mpr ⟨rfl, h₄⟩
    rw [← hparts.policyChecks] at hpolicy
    rw [← hparts.reportExporters] at hexporter
    rw [← hparts.artifactViews] at hview
    rw [← hparts.integrations] at hintegration
    unfold smokeTestStarterProject
    simp only [hload, hpackSmoke, hpolicy, hexporter, hview, hintegration, hdescription, bind,
      Except.bind, pure, Except.pure]
    exact ⟨_, rfl⟩

end

end TruePresenceESE.Ese
