import TruePresenceESE.Ese.StarterScaffold

/-! # When scaffolding is sound

Both scaffolds put free texts between quotes as they are, and learn only from loading what
they have written that a preset and a goal profile do not go together. The files stay then.
-/

namespace TruePresenceESE.Ese

open PosixPath PyText Records Checked

/-- Both scaffolds are sound exactly for the requests whose clean arguments work, where a
directory can be made. -/
theorem scaffolding_sound_iff {host : ScaffoldHost} {python : PythonRuntime} {disk : ProjectDisk}
    {request : ScaffoldRequest} (hfresh : FreshTarget disk (host.target request))
    (hpack : ∀ plan, packPlan host.test.projects.py request = .ok plan →
      ReadsBack host (.obj plan.payload.fields))
    (hstarter : ∀ plan, starterPlan host.test.projects.py request = .ok plan →
      ReadsBack host (.obj plan.payload.fields) ∧ ReadsBack host (.obj plan.fields))
    (hruns : ∀ plan, starterPlan host.test.projects.py request = .ok plan →
      RunsGenerated python host plan (host.target request)) :
    (PackSound host disk request ↔ ∀ plan, packPlan host.test.projects.py request = .ok plan →
        Blocked host.refuses disk (promptsDirectory (host.target request) plan.packageName) ∨
          plan.Works) ∧
      (StarterSound host python disk request ↔
        ∀ plan, starterPlan host.test.projects.py request = .ok plan →
          Blocked host.refuses disk (promptsDirectory (host.target request) plan.packageName) ∨
            plan.Works python) :=
  ⟨packSound_iff hfresh hpack, starterSound_iff hfresh hstarter hruns⟩

/-! ## A demo -/

/-- Small integers are floats. -/
def laxPydantic : Pydantic := { strictPydantic with
  float := fun value =>
    match value with
    | .float x => .ok x
    | .int n => .ok (.finite n)
    | _ => fail "Input should be a valid number"
  float_float := fun _ => rfl }

section
variable (preset goal : CleanText)

def demoPackYaml : String :=
  joinLines ["contract_version: 1", "key: demo", "title: Demo",
    "summary: External ESE pack for demo workflows.", "preset: " ++ preset.text,
    "goal_profile: " ++ goal.text, "roles:", "- key: demo_analyst",
    "  responsibility: Analyze the scoped work from the Demo perspective.",
    "  prompt_file: prompts/analyst.md", "  temperature: 0.2", "- key: demo_reviewer",
    "  responsibility: Challenge the Demo analysis for gaps, risks, and missing evidence.",
    "  prompt_file: prompts/reviewer.md", "  temperature: 0.2", ""]

def demoStarterPackYaml : String :=
  joinLines ["contract_version: 1", "key: demo", "title: Demo",
    "summary: Starter vertical repository for ESE demo workflows.", "preset: " ++ preset.text,
    "goal_profile: " ++ goal.text, "roles:", "- key: demo_analyst",
    "  responsibility: Analyze the scoped work from the Demo perspective.",
    "  prompt_file: prompts/analyst.md", "  temperature: 0.2", "- key: demo_reviewer",
    "  responsibility: Challenge the Demo work for risk, evidence gaps, and blockers.",
    "  prompt_file: prompts/reviewer.md", "  temperature: 0.2", ""]

def demoStarterYaml : String :=
  joinLines ["contract_version: 1", "key: demo", "title: Demo",
    "summary: Starter vertical repository for ESE demo workflows.", "package_name: demo_starter",
    "pack:", "  key: demo", "  manifest: ese_pack.yaml", "policy_checks:", "- key: demo-safety",
    "  module: demo_starter.policy:load_policy", "  file: policy.py", "report_exporters:",
    "- key: demo-csv", "  module: demo_starter.exporters:load_exporter", "  file: exporters.py",
    "artifact_views:", "- key: demo-brief", "  module: demo_starter.views:load_view",
    "  file: views.py", "integrations:", "- key: demo-bundle",
    "  module: demo_starter.integration:load_integration", "  file: integration.py", ""]

def demoKey : StarterKey where
  text := "demo"
  plain := by simp [isKeyChar]
  ne_empty := by decide

def demoRequest : ScaffoldRequest where
  targetDir := "/demo"
  key := "demo"
  title := none
  summary := none
  packageName := none
  preset := preset.text
  goalProfile := some goal.text
  force := false

def demoPackPlan : PackPlan where
  key := demoKey
  title := "Demo"
  summary := "External ESE pack for demo workflows."
  packageName := ⟨"demo_pack", by decide⟩
  preset := preset
  goal := goal.text

def demoStarterPlan : StarterPlan where
  key := demoKey
  title := "Demo"
  summary := "Starter vertical repository for ESE demo workflows."
  packageName := ⟨"demo_starter", by decide⟩
  preset := preset.text
  goal := goal.text

/-- The dumps of the demo, told apart by the number of their fields and by the summary. -/
def demoDump : Json → String
  | .obj (_ :: _ :: _ :: (_, .str summary) :: rest) =>
      if rest.length = 6 then demoStarterYaml
      else if summary = (demoPackPlan preset goal).summary then demoPackYaml preset goal
      else demoStarterPackYaml preset goal
  | _ => ""

def demoLoad (text : String) : Except YamlFailure Json :=
  if text = demoPackYaml preset goal then .ok (.obj (demoPackPlan preset goal).payload.fields)
  else if text = demoStarterPackYaml preset goal then
    .ok (.obj (demoStarterPlan preset goal).payload.fields)
  else if text = demoStarterYaml then .ok (.obj (demoStarterPlan preset goal).fields)
  else .error (.yamlError "expected a manifest of the demo")

theorem root_names : ∀ segment ∈ ([] : Location), IsName segment := by
  simp

/-- No directory is refused. -/
def demoHost : ScaffoldHost where
  test :=
    { projects :=
        { py := asciiExtensions.py
          workingDir := []
          expandUser := id
          safeLoad := demoLoad preset goal
          osError := fun _ => ""
          parseFloat := fun _ => none
          floatError := fun _ => "" }
      lowersAscii := fun _ _ => rfl
      keepsAbsolute := fun _ _ => rfl
      workingDir_names := root_names
      pydantic := laxPydantic
      floatOfInt := rfl
      shown := fun _ => "" }
  refuses := fun _ => none
  safeDump := demoDump preset goal

/-- The arguments of the demo are clean, and its manifests are different texts. -/
structure DemoTold : Prop where
  packPlan : packPlan asciiExtensions.py (demoRequest preset goal) = .ok (demoPackPlan preset goal)
  starterPlan : starterPlan asciiExtensions.py (demoRequest preset goal) =
    .ok (demoStarterPlan preset goal)
  preset_noReturn : '\r' ∉ preset.text.toList
  goal_noReturn : '\r' ∉ goal.text.toList
  starterPack_ne : demoStarterPackYaml preset goal ≠ demoPackYaml preset goal
  starter_ne_pack : demoStarterYaml ≠ demoPackYaml preset goal
  starter_ne_starterPack : demoStarterYaml ≠ demoStarterPackYaml preset goal

end

section
variable {preset goal : CleanText}

theorem readsBack_demoPack (h : DemoTold preset goal) :
    ReadsBack (demoHost preset goal) (.obj (demoPackPlan preset goal).payload.fields) := by
  have hdump : demoDump preset goal (.obj (demoPackPlan preset goal).payload.fields) =
      demoPackYaml preset goal := by
    rw [PackPayload.fields, demoDump, if_neg (by simp)]
    exact if_pos rfl
  have htext : textMode (demoPackYaml preset goal) = demoPackYaml preset goal :=
    textMode_joinLines (by simp [h.preset_noReturn, h.goal_noReturn])
  have hload : demoLoad preset goal (demoPackYaml preset goal) =
      .ok (.obj (demoPackPlan preset goal).payload.fields) := by
    rw [demoLoad, if_pos rfl]
  unfold ReadsBack demoHost
  dsimp only
  rw [hdump, htext, hload]

theorem readsBack_demoStarterPack (h : DemoTold preset goal) :
    ReadsBack (demoHost preset goal) (.obj (demoStarterPlan preset goal).payload.fields) := by
  have hsummary : (demoStarterPlan preset goal).payload.summary ≠
      (demoPackPlan preset goal).summary := by
    simp [StarterPlan.payload, demoStarterPlan, demoPackPlan]
  have hdump : demoDump preset goal (.obj (demoStarterPlan preset goal).payload.fields) =
      demoStarterPackYaml preset goal := by
    rw [PackPayload.fields, demoDump, if_neg (by simp), if_neg hsummary]
  have htext : textMode (demoStarterPackYaml preset goal) = demoStarterPackYaml preset goal :=
    textMode_joinLines (by simp [h.preset_noReturn, h.goal_noReturn])
  have hload : demoLoad preset goal (demoStarterPackYaml preset goal) =
      .ok (.obj (demoStarterPlan preset goal).payload.fields) := by
    rw [demoLoad, if_neg h.starterPack_ne, if_pos rfl]
  unfold ReadsBack demoHost
  dsimp only
  rw [hdump, htext, hload]

theorem readsBack_demoStarter (h : DemoTold preset goal) :
    ReadsBack (demoHost preset goal) (.obj (demoStarterPlan preset goal).fields) := by
  have hdump : demoDump preset goal (.obj (demoStarterPlan preset goal).fields) =
      demoStarterYaml := by
    rw [StarterPlan.fields, demoDump]
    exact if_pos rfl
  have htext : textMode demoStarterYaml = demoStarterYaml := textMode_joinLines (by simp)
  have hload : demoLoad preset goal demoStarterYaml =
      .ok (.obj (demoStarterPlan preset goal).fields) := by
    rw [demoLoad, if_neg h.starter_ne_pack, if_neg h.starter_ne_starterPack, if_pos rfl]
  unfold ReadsBack demoHost
  dsimp only
  rw [hdump, htext, hload]

end

/-- A disk with nothing on it. -/
def bareDisk : ProjectDisk := Dict.empty.set [] .directory

theorem get?_bareDisk (location : Location) :
    bareDisk.get? location = if location = [] then some .directory else none := by
  rw [bareDisk, Dict.get?_set]
  simp only [eq_comm]
  rfl

theorem freshTarget_bareDisk {target : Location} (h : target ≠ []) :
    FreshTarget bareDisk target where
  root := get?_bareDisk []
  empty location hbelow := by
    left
    rw [get?_bareDisk, if_neg]
    intro hroot
    rw [hroot, List.prefix_nil] at hbelow
    exact h hbelow

theorem not_blocked_bareDisk {preset goal : CleanText} (location : Location) :
    ¬ Blocked (demoHost preset goal).refuses bareDisk location := by
  intro ⟨above, hne, _, hfree⟩
  apply hfree
  rw [Free, get?_bareDisk, if_neg hne]
  rfl

theorem target_demo {preset goal : CleanText} :
    (demoHost preset goal).target (demoRequest preset goal) = ["demo".toList] := by
  have hresolve : resolve [] "/demo" = ["demo".toList] := by decide +kernel
  exact hresolve

/-- A runtime that has loaded ESE and knows the modules of the demo. -/
def demoPython : PythonRuntime where
  modules := ["sys", "ese", "ese.artifact_views", "ese.integrations", "ese.policy_checks",
    "ese.report_exporters", "ese.pack_sdk", "ese.starter_sdk"]
  eseLoaded part := by cases part <;> decide
  aheadOfPath name := name ∈ ["builtins", "sys", "time"]
  characterNamed _ := none
  load modules _ _ module _ :=
    match [StarterPart.policyCheck, .reportExporter, .artifactView, .integration].find? fun part =>
        "demo_starter." ++ part.moduleName = module with
    | none => (.notImported ("No module named '" ++ module ++ "'"), modules)
    | some part => (.value ⟨if part.eseModule ∈ modules then some part else none,
        "demo-" ++ part.suffix, expectedVersion⟩, part.eseModule :: "demo_starter" :: module ::
          modules)

section
variable {preset goal : CleanText}

theorem load_demo (part : StarterPart) (modules : List String) (root : Location)
    (disk : ProjectDisk) :
    demoPython.load modules root disk ((demoStarterPlan preset goal).module part) part.loader =
      (.value ⟨if part.eseModule ∈ modules then some part else none,
        (demoStarterPlan preset goal).partKey part, expectedVersion⟩, part.eseModule ::
          "demo_starter" :: (demoStarterPlan preset goal).module part :: modules) := by
  have hmodule : (demoStarterPlan preset goal).module part = "demo_starter." ++ part.moduleName := rfl
  have hkey : (demoStarterPlan preset goal).partKey part = "demo-" ++ part.suffix := rfl
  have hfind : [StarterPart.policyCheck, .reportExporter, .artifactView, .integration].find?
      (fun other => "demo_starter." ++ other.moduleName = "demo_starter." ++ part.moduleName) =
        some part := by
    cases part <;> decide +kernel
  rw [hmodule, hkey]
  unfold demoPython
  dsimp only
  rw [hfind]

theorem runsGenerated_demo {host : ScaffoldHost} {target : Location} :
    RunsGenerated demoPython host (demoStarterPlan preset goal) target := by
  have hname : (demoStarterPlan preset goal).packageName.text ≠ "pathlib" := by
    simp [demoStarterPlan]
  have hahead : demoPython.aheadOfPath (demoStarterPlan preset goal).packageName.text = false := by
    simp [demoPython, demoStarterPlan]
  constructor
  · intro part modules disk _ _ _ _ hmodule
    rw [load_demo, if_pos hmodule]
    exact ⟨_, rfl, fun other hother => by simp [hother]⟩
  · intro htrue
    rw [hahead] at htrue
    cases htrue
  · intro part modules disk value _ hmodule hvalue
    rw [load_demo, if_neg hmodule] at hvalue
    cases hvalue
    simp
  · intro hpathlib
    exact absurd hpathlib hname

end

def strictPreset : CleanText := ⟨"strict", by decide, by decide⟩

def highQuality : CleanText := ⟨"high-quality", by decide, by decide⟩

def balancedPreset : CleanText := ⟨"balanced", by decide, by decide⟩

def fastGoal : CleanText := ⟨"fast", by decide, by decide⟩

/-- What is computed of the two demonstrations, in one place. -/
theorem demo_computed :
    DemoTold strictPreset highQuality ∧ DemoTold balancedPreset fastGoal ∧
      (demoPackPlan strictPreset highQuality).Works ∧
      (demoStarterPlan strictPreset highQuality).Works demoPython := by
  constructor
  · exact ⟨by decide +kernel, by decide +kernel, by decide, by decide, by decide +kernel,
      by decide +kernel, by decide +kernel⟩
  constructor
  · exact ⟨by decide +kernel, by decide +kernel, by decide, by decide, by decide +kernel,
      by decide +kernel, by decide +kernel⟩
  have hfits : (demoPackPlan strictPreset highQuality).payload.Fits := by
    unfold PackPayload.Fits
    decide +kernel
  constructor
  · exact ⟨hfits, by decide +kernel, by decide +kernel⟩
  · refine ⟨hfits, by decide +kernel, by decide +kernel, by decide +kernel, ?_⟩
    constructor <;> decide +kernel

theorem demoTold_strict : DemoTold strictPreset highQuality := demo_computed.1

theorem demoTold_fast : DemoTold balancedPreset fastGoal := demo_computed.2.1

theorem works_demoPack : (demoPackPlan strictPreset highQuality).Works := demo_computed.2.2.1

theorem works_demoStarter : (demoStarterPlan strictPreset highQuality).Works demoPython :=
  demo_computed.2.2.2

section
variable {preset goal : CleanText} {plan : PackPlan} {starter : StarterPlan}

theorem demoPack_of_ok (h : DemoTold preset goal)
    (hplan : packPlan (demoHost preset goal).test.projects.py (demoRequest preset goal) = .ok plan) :
    plan = demoPackPlan preset goal := Except.ok.inj (hplan.symm.trans h.packPlan)

theorem demoStarter_of_ok (h : DemoTold preset goal)
    (hplan : starterPlan (demoHost preset goal).test.projects.py (demoRequest preset goal) =
      .ok starter) :
    starter = demoStarterPlan preset goal := Except.ok.inj (hplan.symm.trans h.starterPlan)

theorem freshTarget_demo :
    FreshTarget bareDisk ((demoHost preset goal).target (demoRequest preset goal)) := by
  rw [target_demo]
  exact freshTarget_bareDisk (List.cons_ne_nil _ _)

end

/-- A strict pack and a strict starter are scaffolded. -/
theorem scaffolding_sound_strict :
    PackSound (demoHost strictPreset highQuality) bareDisk (demoRequest strictPreset highQuality) ∧
      StarterSound (demoHost strictPreset highQuality) demoPython bareDisk
        (demoRequest strictPreset highQuality) := by
  have hsound := @scaffolding_sound_iff (demoHost strictPreset highQuality) demoPython bareDisk
    (demoRequest strictPreset highQuality) freshTarget_demo
    (fun plan hplan => by
      rw [demoPack_of_ok demoTold_strict hplan]
      exact readsBack_demoPack demoTold_strict)
    (fun plan hplan => by
      rw [demoStarter_of_ok demoTold_strict hplan]
      exact ⟨readsBack_demoStarterPack demoTold_strict, readsBack_demoStarter demoTold_strict⟩)
    (fun plan hplan => by
      rw [demoStarter_of_ok demoTold_strict hplan]
      exact runsGenerated_demo)
  constructor
  · rw [hsound.1]
    intro plan hplan
    rw [demoPack_of_ok demoTold_strict hplan]
    exact .inr works_demoPack
  · rw [hsound.2]
    intro plan hplan
    rw [demoStarter_of_ok demoTold_strict hplan]
    exact .inr works_demoStarter

/-- A balanced pack with the goal `fast` raises, and so does a starter, and files are left. -/
theorem scaffolding_leaves_files :
    ¬ PackSound (demoHost balancedPreset fastGoal) bareDisk (demoRequest balancedPreset fastGoal) ∧
      ¬ StarterSound (demoHost balancedPreset fastGoal) demoPython bareDisk
        (demoRequest balancedPreset fastGoal) := by
  have hunfit : ¬ (demoPackPlan balancedPreset fastGoal).payload.Fits := by
    unfold PackPayload.Fits
    decide +kernel
  constructor
  · rw [packSound_iff freshTarget_demo fun plan hplan => by
      rw [demoPack_of_ok demoTold_fast hplan]
      exact readsBack_demoPack demoTold_fast]
    intro hsound
    rcases hsound _ demoTold_fast.packPlan with hblocked | hworks
    · exact not_blocked_bareDisk _ hblocked
    · exact hunfit hworks.fits
  · rw [starterSound_iff freshTarget_demo
      (fun plan hplan => by
        rw [demoStarter_of_ok demoTold_fast hplan]
        exact ⟨readsBack_demoStarterPack demoTold_fast, readsBack_demoStarter demoTold_fast⟩)
      (fun plan hplan => by
        rw [demoStarter_of_ok demoTold_fast hplan]
        exact runsGenerated_demo)]
    intro hsound
    rcases hsound _ demoTold_fast.starterPlan with hblocked | hworks
    · exact not_blocked_bareDisk _ hblocked
    · exact hunfit hworks.fits

end TruePresenceESE.Ese
