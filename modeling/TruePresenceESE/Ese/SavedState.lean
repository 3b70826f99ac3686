import TruePresenceESE.Ese.Collecting
import TruePresenceESE.Ese.PipelineRuns

/-! # What a call leaves behind

A call fails in its prologue, having written the config snapshot alone, or it
persists what it has gathered: the state file, its summary and the artifacts
derived from them. A later call seeds its prior roles from the state file.
-/

namespace TruePresenceESE.Ese

open PosixPath PyText

/-! ## The state file -/

def stateLocation (host : Host) (artifactsDir : String) : Location :=
  fileIn host.workingDir artifactsDir stateName

def snapshotLocation (host : Host) (s : RunSettings) : Location :=
  fileIn host.workingDir s.artifactsDir configSnapshotName

theorem get?_textMap (texts : Dict String String) (key : String) :
    (textMap texts).get? key = (texts.get? key).map Json.str :=
  get?_items texts Json.str key

def stateKeys : List String :=
  ["run_id", "status", "assurance_level", "mode", "provider", "adapter", "scope",
    "config_snapshot", "state_contract_version", "report_contract_version", "role_models",
    "artifacts", "execution", "parent_run_id", "start_role", "failed_roles", "failure"]

section
variable (env : RunEnv) (st : RunState) (ending : Ending)

/-- A state has no field but these. -/
theorem get?_stateJson_of_notMem {key : String} (h : key ∉ stateKeys) :
    (stateJson env st ending).get? key = none := by
  have hoptional : ∀ {name : String} {text : Option String} {p : String × Json},
      p ∈ optionalMember name text → p.1 = name := by
    intro name text p hp
    cases text with
    | none => cases hp
    | some text =>
        rw [optionalMember, Option.elim_some, List.mem_singleton] at hp
        rw [hp]
  have hfailed : ∀ p ∈ (if ending.failedRoles.isEmpty then []
      else [("failed_roles", strings ending.failedRoles)]), p.1 = "failed_roles" := by
    split <;> simp
  rw [stateJson, Json.get?, Option.map_eq_none_iff, List.find?_eq_none]
  intro p hp hkey
  rw [decide_eq_true_eq] at hkey
  refine h (hkey ▸ ?_)
  simp only [List.mem_append] at hp
  rcases hp with (((hp | hp) | hp) | hp) | hp
  · simp only [List.mem_cons, List.not_mem_nil, or_false] at hp
    rcases hp with rfl | rfl | rfl | rfl | rfl | rfl | rfl | rfl | rfl | rfl | rfl | rfl | rfl <;>
      simp [stateKeys]
  · simp [stateKeys, hoptional hp]
  · simp [stateKeys, hoptional hp]
  · simp [stateKeys, hfailed p hp]
  · simp [stateKeys, hoptional hp]

theorem get?_stateJson_status :
    (stateJson env st ending).get? "status" = some (.str ending.status) := by
  simp [stateJson, Json.get?]

theorem get?_stateJson_artifacts :
    (stateJson env st ending).get? "artifacts" = some (textMap st.artifacts) := by
  simp [stateJson, Json.get?]

theorem get?_stateJson_execution :
    (stateJson env st ending).get? "execution" = some (.arr st.execution) := by
  simp [stateJson, Json.get?]

end

def savedField (py : Interpreter) (fs : FileSystem) (directory : Location) (key : String) :
    Option Json :=
  ((fs (directory ++ [stateName.toList])).bind (FileContent.load py)).bind (·.get? key)

def savedStatus (py : Interpreter) (fs : FileSystem) (directory : Location) : Option String :=
  (savedField py fs directory "status").bind asString

/-- The artifact that the saved state names for a role. -/
def savedArtifact (py : Interpreter) (fs : FileSystem) (directory : Location) (role : String) :
    Option String :=
  ((savedField py fs directory "artifacts").bind (·.get? role)).bind asString

/-- Where a saved artifact is read. -/
def Host.savedLocation (host : Host) (s : RunSettings) (ref : String) : Location :=
  host.locate (reportArtifactPath s.artifactsDir ref)

/-- A relative reference is followed from the artifacts directory, not from the
working directory it was written from. -/
theorem Host.savedLocation_eq (host : Host) (s : RunSettings) (ref : String) :
    host.savedLocation s ref = resolve (host.locate s.artifactsDir) ref := by
  unfold Host.savedLocation reportArtifactPath
  split
  · rename_i habs
    exact resolve_of_isAbs habs _ _
  · rename_i habs
    rw [Bool.not_eq_true] at habs
    rw [Host.locate, resolve_join s.artifactsDir_ne_empty habs, resolve_of_not_isAbs habs]
    rfl

section
variable {py : Interpreter} {fs : FileSystem} {directory : Location} {env : RunEnv}
  {st : RunState} {ending : Ending}
  (h : fs (directory ++ [stateName.toList]) = some (.json (stateJson env st ending)))

include h in
theorem savedField_stateJson (key : String) :
    savedField py fs directory key = (stateJson env st ending).get? key := by
  simp [savedField, h, FileContent.load]

include h in
theorem savedStatus_stateJson : savedStatus py fs directory = some ending.status := by
  rw [savedStatus, savedField_stateJson h, get?_stateJson_status]
  rfl

include h in
theorem savedArtifact_stateJson (role : String) :
    savedArtifact py fs directory role = st.artifacts.get? role := by
  rw [savedArtifact, savedField_stateJson h, get?_stateJson_artifacts, Option.bind_some,
    get?_textMap]
  cases st.artifacts.get? role <;> rfl

end

/-! ## Seeding -/

/-- A role taken over from the saved state. -/
structure Seed where
  role : String
  path : String
  content : FileContent
  model : String
  prior : Report

def keepSeed (py : Interpreter) (st : RunState) (seed : Seed) : RunState :=
  { st with
    outputs := st.outputs.set seed.role (seed.content.read py)
    artifacts := st.artifacts.set seed.role seed.path
    models := st.models.set seed.role seed.model
    execution := st.execution ++ [seededRecord seed.prior seed.role seed.model seed.path] }

/-- What a call starts from after its seeds. -/
theorem foldl_keepSeed (py : Interpreter) (st : RunState) (seeds : List Seed) :
    let after := seeds.foldl (keepSeed py) st
    after.fs = st.fs ∧ after.calls = st.calls ∧ after.written = st.written ∧
      after.outputs = st.outputs.update (seeds.map fun seed => (seed.role, seed.content.read py)) ∧
      after.artifacts = st.artifacts.update (seeds.map fun seed => (seed.role, seed.path)) ∧
      after.models = st.models.update (seeds.map fun seed => (seed.role, seed.model)) ∧
      after.execution = st.execution ++ seeds.map fun seed =>
        seededRecord seed.prior seed.role seed.model seed.path := by
  induction seeds generalizing st with
  | nil => simp [Dict.update]
  | cons seed seeds ih =>
      obtain ⟨hfs, hcalls, hwritten, houtputs, hartifacts, hmodels, hexecution⟩ :=
        ih (keepSeed py st seed)
      refine ⟨hfs, hcalls, hwritten, houtputs, hartifacts, hmodels, ?_⟩
      rw [List.foldl_cons, hexecution, keepSeed, List.append_assoc]
      rfl

/-- What a role is resumed with, given the saved state and its artifacts. -/
structure IsSeed (host : Host) (s : RunSettings) (state artifacts : Json) (fs : FileSystem)
    (seed : Seed) : Prop where
  artifact : ∃ ref, (artifacts.get? seed.role).bind asString = some ref ∧ strip ref ≠ "" ∧
    ensureArtifactWithinDir host s.artifactsDir (reportArtifactPath s.artifactsDir ref) =
      .ok seed.path
  content : fs (host.locate seed.path) = some seed.content
  model : resumedModel s state seed.role = .ok seed.model
  prior : seed.prior = ((executionByRole host.py state).get? seed.role).getD Dict.empty

theorem ensureArtifactWithinDir_ok_iff {host : Host} {artifactsDir path resolved : String} :
    ensureArtifactWithinDir host artifactsDir path = .ok resolved ↔
      (host.locate artifactsDir).isPrefixOf (host.locate path) = true ∧
        resolved = render (host.locate path) := by
  unfold ensureArtifactWithinDir
  dsimp only
  split
  · rename_i hinside
    simp [hinside, eq_comm]
  · rename_i hinside
    simp [hinside]

theorem resumedArtifact_ok_iff {host : Host} {s : RunSettings} {cleanRole : String}
    {artifacts : Json} {role path : String} :
    resumedArtifact host s cleanRole artifacts role = .ok path ↔
      ∃ ref, (artifacts.get? role).bind asString = some ref ∧ strip ref ≠ "" ∧
        ensureArtifactWithinDir host s.artifactsDir (reportArtifactPath s.artifactsDir ref) =
          .ok path := by
  unfold resumedArtifact
  dsimp only
  cases (artifacts.get? role).bind asString with
  | none => simp
  | some ref =>
      by_cases hblank : strip ref = ""
      · simp [hblank]
      · simp [hblank]

section
variable {host : Host} {s : RunSettings} {cleanRole : String} {state artifacts : Json}

theorem seedRole_ok_iff {st st' : RunState} {role : String} :
    seedRole host s cleanRole state artifacts st role = .ok st' ↔
      ∃ seed : Seed, seed.role = role ∧ IsSeed host s state artifacts st.fs seed ∧
        st' = keepSeed host.py st seed := by
  unfold seedRole
  rw [Fallible.bind_eq_ok_iff]
  constructor
  · rintro ⟨path, hpath, h⟩
    cases hcontent : st.fs (host.locate path) with
    | none => simp [hcontent, throw, throwThe, MonadExceptOf.throw] at h
    | some content =>
        rw [hcontent] at h
        obtain ⟨model, hmodel, h⟩ := Fallible.bind_eq_ok_iff.mp h
        cases h
        exact ⟨⟨role, path, content, model, _⟩, rfl,
          ⟨resumedArtifact_ok_iff.mp hpath, hcontent, hmodel, rfl⟩, rfl⟩
  · rintro ⟨⟨role', path, content, model, prior⟩, rfl, hseed, rfl⟩
    refine ⟨path, resumedArtifact_ok_iff.mpr hseed.artifact, ?_⟩
    rw [hseed.content]
    refine Fallible.bind_eq_ok_iff.mpr ⟨model, hseed.model, ?_⟩
    rw [← hseed.prior]
    rfl

/-- The seeding loop takes over one role after another. -/
theorem seedRoles_ok_iff {roles : List String} {st st' : RunState} :
    roles.foldlM (seedRole host s cleanRole state artifacts) st = .ok st' ↔
      ∃ seeds : List Seed, seeds.map Seed.role = roles ∧
        (∀ seed ∈ seeds, IsSeed host s state artifacts st.fs seed) ∧
        st' = seeds.foldl (keepSeed host.py) st := by
  induction roles generalizing st with
  | nil =>
      simp only [List.foldlM_nil, List.map_eq_nil_iff]
      constructor
      · intro h
        cases h
        exact ⟨[], rfl, by simp, rfl⟩
      · rintro ⟨-, rfl, -, rfl⟩
        rfl
  | cons role rest ih =>
      rw [List.foldlM_cons, Fallible.bind_eq_ok_iff]
      simp only [seedRole_ok_iff, ih]
      constructor
      · rintro ⟨-, ⟨seed, rfl, hseed, rfl⟩, seeds, rfl, hseeds, rfl⟩
        exact ⟨seed :: seeds, rfl, List.forall_mem_cons.mpr ⟨hseed, hseeds⟩, rfl⟩
      · rintro ⟨seeds, hroles, hseeds, rfl⟩
        cases seeds with
        | nil => cases hroles
        | cons seed seeds =>
            rw [List.map_cons, List.cons.injEq] at hroles
            rw [List.forall_mem_cons] at hseeds
            exact ⟨_, ⟨seed, hroles.1, hseeds.1, rfl⟩, seeds, hroles.2, hseeds.2, rfl⟩

end

/-! ## Resuming -/

theorem locate_reservedFile (host : Host) (s : RunSettings) {name : String}
    (h : name ∈ reservedNames) :
    host.locate (join s.artifactsDir name) = fileIn host.workingDir s.artifactsDir name :=
  locate_reserved host s.artifactsDir_ne_empty h

theorem loadSavedState_ok_iff {host : Host} {s : RunSettings} {cleanRole : String}
    {fs : FileSystem} {state artifacts : Json} :
    loadSavedState host s cleanRole fs = .ok (state, artifacts) ↔
      ∃ content, fs (stateLocation host s.artifactsDir) = some content ∧
        content.load host.py = some state ∧ isMapping state = true ∧
        state.get? "artifacts" = some artifacts ∧ isMapping artifacts = true := by
  unfold loadSavedState stateLocation
  dsimp only
  rw [locate_reservedFile host s (by simp [reservedNames])]
  cases fs (fileIn host.workingDir s.artifactsDir stateName) with
  | none => simp
  | some content =>
      dsimp only
      cases hload : content.load host.py with
      | none => simp [hload]
      | some value =>
          dsimp only
          split
          · rename_i hmapping
            simp only [reduceCtorEq, Option.some.injEq, false_iff, not_exists, not_and]
            rintro content rfl hvalue
            rw [hload, Option.some.injEq] at hvalue
            rw [← hvalue]
            exact fun h => absurd h hmapping
          · rename_i hmapping
            rw [not_not] at hmapping
            split
            · rename_i fields hfields
              simp only [Except.ok.injEq, Prod.mk.injEq, Option.some.injEq]
              constructor
              · rintro ⟨rfl, rfl⟩
                exact ⟨content, rfl, hload, hmapping, hfields, rfl⟩
              · rintro ⟨content, rfl, hvalue, -, hartifacts, -⟩
                rw [hload, Option.some.injEq] at hvalue
                rw [← hvalue, hfields, Option.some.injEq] at hartifacts
                exact ⟨hvalue, hartifacts⟩
            · rename_i hfields
              simp only [reduceCtorEq, Option.some.injEq, false_iff, not_exists, not_and]
              rintro content rfl hvalue - hartifacts hobject
              rw [hload, Option.some.injEq] at hvalue
              rw [← hvalue] at hartifacts
              cases artifacts with
              | obj fields => exact hfields fields hartifacts
              | _ => cases hobject

theorem Host.isName_of_mem_locate (host : Host) (path : String) :
    ∀ segment ∈ host.locate path, IsName segment :=
  isName_of_mem_resolve host.workingDir_names path

theorem Host.locate_render (host : Host) (path : String) :
    host.locate (render (host.locate path)) = host.locate path :=
  resolve_render (host.isName_of_mem_locate path) host.workingDir

theorem loadSavedState_field {host : Host} {s : RunSettings} {cleanRole : String}
    {fs : FileSystem} {state artifacts : Json}
    (h : loadSavedState host s cleanRole fs = .ok (state, artifacts)) (key : String) :
    savedField host.py fs (host.locate s.artifactsDir) key = state.get? key := by
  obtain ⟨content, hfile, hload, -⟩ := loadSavedState_ok_iff.mp h
  have hfile' : fs (host.locate s.artifactsDir ++ [stateName.toList]) = some content := hfile
  simp [savedField, hfile', hload]

/-- A seed comes from where the saved state says, inside the artifacts directory. -/
theorem IsSeed.saved {host : Host} {s : RunSettings} {cleanRole : String} {fs : FileSystem}
    {state artifacts : Json} {seed : Seed} (hseed : IsSeed host s state artifacts fs seed)
    (h : loadSavedState host s cleanRole fs = .ok (state, artifacts)) :
    ∃ ref, savedArtifact host.py fs (host.locate s.artifactsDir) seed.role = some ref ∧
      seed.path = render (host.savedLocation s ref) ∧
      (host.locate s.artifactsDir).isPrefixOf (host.savedLocation s ref) = true ∧
      fs (host.savedLocation s ref) = some seed.content := by
  obtain ⟨-, -, -, -, hartifacts, -⟩ := loadSavedState_ok_iff.mp h
  obtain ⟨ref, href, -, hinside⟩ := hseed.artifact
  obtain ⟨hwithin, hpath⟩ := ensureArtifactWithinDir_ok_iff.mp hinside
  refine ⟨ref, ?_, hpath, hwithin, ?_⟩
  · rw [savedArtifact, loadSavedState_field h, hartifacts, Option.bind_some, href]
  · have hcontent := hseed.content
    rw [hpath, host.locate_render] at hcontent
    exact hcontent

/-- What is seeded when a call resumes from a role after the first. -/
theorem loadResumeState_ok {host : Host} {s : RunSettings} {request : RunRequest}
    {fs : FileSystem} {resume : Resume} (h : loadResumeState host s request fs = .ok resume) :
    ∃ seeds : List Seed, seeds.map Seed.role = s.roleOrder.take resume.startIndex ∧
      resume.state = seeds.foldl (keepSeed host.py) { fs := fs } ∧
      (seeds ≠ [] → ∃ startRole state artifacts, request.givenStartRole = some startRole ∧
        strip startRole ∈ s.roleOrder ∧ resume.startIndex = s.roleOrder.idxOf (strip startRole) ∧
        loadSavedState host s (strip startRole) fs = .ok (state, artifacts) ∧
        ∀ seed ∈ seeds, IsSeed host s state artifacts fs seed) := by
  unfold loadResumeState at h
  cases hgiven : request.givenStartRole with
  | none =>
      rw [hgiven] at h
      cases h
      exact ⟨[], by simp, rfl, by simp⟩
  | some startRole =>
      rw [hgiven] at h
      dsimp only at h
      split at h
      · cases h
      · rename_i hmem
        split at h
        · cases h
          exact ⟨[], by simp, rfl, by simp⟩
        · obtain ⟨⟨state, artifacts⟩, hsaved, h⟩ := Fallible.bind_eq_ok_iff.mp h
          obtain ⟨seeded, hseeded, h⟩ := Fallible.bind_eq_ok_iff.mp h
          cases h
          obtain ⟨seeds, hroles, hseeds, rfl⟩ := seedRoles_ok_iff.mp hseeded
          exact ⟨seeds, hroles, rfl, fun _ => ⟨startRole, state, artifacts, rfl, not_not.mp hmem,
            rfl, hsaved, hseeds⟩⟩

/-- A call resumes where every role before the start role has a seed. -/
theorem loadResumeState_of_seeds {host : Host} {s : RunSettings} {request : RunRequest}
    {fs : FileSystem} {startRole : String} {state artifacts : Json} {seeds : List Seed}
    (hgiven : request.givenStartRole = some startRole) (hmem : strip startRole ∈ s.roleOrder)
    (hindex : s.roleOrder.idxOf (strip startRole) ≠ 0)
    (hsaved : loadSavedState host s (strip startRole) fs = .ok (state, artifacts))
    (hroles : seeds.map Seed.role = s.roleOrder.take (s.roleOrder.idxOf (strip startRole)))
    (hseeds : ∀ seed ∈ seeds, IsSeed host s state artifacts fs seed) :
    ∃ parent, loadResumeState host s request fs =
      .ok ⟨s.roleOrder.idxOf (strip startRole), seeds.foldl (keepSeed host.py) { fs := fs },
        parent⟩ := by
  have hloop := (@seedRoles_ok_iff _ _ (strip startRole) _ _ _ { fs := fs } _).mpr
    ⟨seeds, hroles, hseeds, rfl⟩
  unfold loadResumeState
  rw [hgiven]
  dsimp only
  rw [if_neg (not_not.mpr hmem), if_neg hindex]
  exact ⟨_, Fallible.bind_eq_ok_iff.mpr ⟨_, hsaved, Fallible.bind_eq_ok_iff.mpr ⟨_, hloop, rfl⟩⟩⟩

theorem loadSavedState_stateJson {host : Host} {s : RunSettings} {fs : FileSystem} {env : RunEnv}
    {st : RunState} {ending : Ending} (cleanRole : String)
    (h : fs (host.locate s.artifactsDir ++ [stateName.toList]) =
      some (.json (stateJson env st ending))) :
    loadSavedState host s cleanRole fs = .ok (stateJson env st ending, textMap st.artifacts) :=
  loadSavedState_ok_iff.mpr ⟨_, h, rfl, rfl, get?_stateJson_artifacts env st ending, rfl⟩

/-- A role that a call can be seeded with: its saved artifact is there, inside the
artifacts directory, and its model resolves. -/
def Resumable (host : Host) (s : RunSettings) (fs : FileSystem) (artifacts : Dict String String)
    (role : String) : Prop :=
  ∃ ref, artifacts.get? role = some ref ∧ strip ref ≠ "" ∧
    (host.locate s.artifactsDir).isPrefixOf (host.savedLocation s ref) = true ∧
    (fs (host.savedLocation s ref)).isSome ∧ ∃ model, s.roleModel role = .ok model

theorem Resumable.seed {host : Host} {s : RunSettings} {fs : FileSystem}
    {artifacts : Dict String String} {role : String} (h : Resumable host s fs artifacts role)
    (state : Json) :
    ∃ seed : Seed, seed.role = role ∧ IsSeed host s state (textMap artifacts) fs seed := by
  obtain ⟨ref, href, hblank, hinside, hfile, model, hmodel⟩ := h
  obtain ⟨content, hcontent⟩ := Option.isSome_iff_exists.mp hfile
  refine ⟨⟨role, render (host.savedLocation s ref), content,
    (((state.get? "role_models").bind (·.get? role)).bind asString).getD model,
    ((executionByRole host.py state).get? role).getD Dict.empty⟩, rfl, ⟨ref, ?_, hblank, ?_⟩, ?_,
    ?_, rfl⟩
  · rw [get?_textMap, href]
    rfl
  · exact ensureArtifactWithinDir_ok_iff.mpr ⟨hinside, rfl⟩
  · rw [Host.savedLocation, host.locate_render]
    exact hcontent
  · rw [resumedModel, hmodel]

/-- A call resumes from a saved state whose earlier roles are all there. -/
theorem loadResumeState_of_resumable {host : Host} {s : RunSettings} {request : RunRequest}
    {fs : FileSystem} {startRole : String} {env : RunEnv} {st : RunState} {ending : Ending}
    (hfile : fs (host.locate s.artifactsDir ++ [stateName.toList]) =
      some (.json (stateJson env st ending)))
    (hgiven : request.givenStartRole = some startRole) (hmem : strip startRole ∈ s.roleOrder)
    (h : ∀ role ∈ s.roleOrder.take (s.roleOrder.idxOf (strip startRole)),
      Resumable host s fs st.artifacts role) :
    ∃ resume, loadResumeState host s request fs = .ok resume ∧
      resume.startIndex = s.roleOrder.idxOf (strip startRole) := by
  by_cases hindex : s.roleOrder.idxOf (strip startRole) = 0
  · refine ⟨⟨0, { fs := fs }, none⟩, ?_, hindex.symm⟩
    unfold loadResumeState
    rw [hgiven]
    dsimp only
    rw [if_neg (not_not.mpr hmem), if_pos hindex]
  · have hseeds : ∀ roles : List String, (∀ role ∈ roles, Resumable host s fs st.artifacts role) →
        ∃ seeds : List Seed, seeds.map Seed.role = roles ∧
          ∀ seed ∈ seeds, IsSeed host s (stateJson env st ending) (textMap st.artifacts) fs seed := by
      intro roles hroles
      induction roles with
      | nil => exact ⟨[], rfl, by simp⟩
      | cons role rest ih =>
          rw [List.forall_mem_cons] at hroles
          obtain ⟨seed, hrole, hseed⟩ := hroles.1.seed (stateJson env st ending)
          obtain ⟨seeds, hmap, hall⟩ := ih hroles.2
          exact ⟨seed :: seeds, by rw [List.map_cons, hrole, hmap],
            List.forall_mem_cons.mpr ⟨hseed, hall⟩⟩
    obtain ⟨seeds, hroles, hall⟩ := hseeds _ h
    obtain ⟨parent, hresume⟩ := loadResumeState_of_seeds hgiven hmem hindex
      (loadSavedState_stateJson _ hfile) hroles hall
    exact ⟨_, hresume, rfl⟩

/-! ## The prologue -/

/-- The disk after the prologue. -/
def withSnapshot (host : Host) (s : RunSettings) (fs : FileSystem) : FileSystem :=
  fs.write (snapshotLocation host s) (.text s.configText)

theorem withSnapshot_of_ne {host : Host} {s : RunSettings} (fs : FileSystem) {location : Location}
    (h : location ≠ snapshotLocation host s) : withSnapshot host s fs location = fs location :=
  FileSystem.write_of_ne fs h _

theorem stateLocation_ne_snapshot (host : Host) (s : RunSettings) :
    stateLocation host s.artifactsDir ≠ snapshotLocation host s := fileIn_ne (by decide)

theorem savedField_withSnapshot (py : Interpreter) (host : Host) (s : RunSettings)
    (fs : FileSystem) (key : String) :
    savedField py (withSnapshot host s fs) (host.locate s.artifactsDir) key =
      savedField py fs (host.locate s.artifactsDir) key := by
  have hstate : withSnapshot host s fs (host.locate s.artifactsDir ++ [stateName.toList]) =
      fs (host.locate s.artifactsDir ++ [stateName.toList]) :=
    withSnapshot_of_ne fs (stateLocation_ne_snapshot host s)
  rw [savedField, savedField, hstate]

theorem savedArtifact_withSnapshot (py : Interpreter) (host : Host) (s : RunSettings)
    (fs : FileSystem) (role : String) :
    savedArtifact py (withSnapshot host s fs) (host.locate s.artifactsDir) role =
      savedArtifact py fs (host.locate s.artifactsDir) role := by
  rw [savedArtifact, savedArtifact, savedField_withSnapshot]

/-- The snapshot of the config is not read again. -/
theorem promptInputs_withSnapshot (host : Host) (s : RunSettings) (fs : FileSystem) :
    promptInputs host s (withSnapshot host s fs) = promptInputs host s fs := by
  have hstore : (snapshotLocation host s).getLast? ≠ some feedbackStoreName.toList := by
    rw [snapshotLocation, fileIn, List.getLast?_concat]
    decide
  rw [withSnapshot, promptInputs, promptInputs, feedbackPromptGuidance_write host.py fs
    host.workingDir s.artifactsDir _ (stateLocation_ne_snapshot host s).symm hstore]

theorem startRun_ok_iff {host : Host} {s : RunSettings} {request : RunRequest} {fs : FileSystem}
    {env : RunEnv} {resume : Resume} :
    startRun host s request fs = .ok (env, resume) ↔
      ∃ adapter, request.adapter = .ok adapter ∧
        loadResumeState host s request (withSnapshot host s fs) = .ok resume ∧
        env = ⟨host, s, request, adapter, promptInputs host s (withSnapshot host s fs),
          resume.parentRunId⟩ := by
  unfold startRun withSnapshot snapshotLocation
  dsimp only
  rw [locate_reservedFile host s (by simp [reservedNames])]
  cases request.adapter with
  | error message => simp
  | ok adapter =>
      dsimp only
      cases loadResumeState host s request
          (fs.write (fileIn host.workingDir s.artifactsDir configSnapshotName)
            (.text s.configText)) with
      | error error => simp
      | ok loaded =>
          simp only [Except.ok.injEq, Prod.mk.injEq, exists_eq_left']
          constructor
          · rintro ⟨rfl, rfl⟩
            exact ⟨rfl, rfl⟩
          · rintro ⟨rfl, rfl⟩
            exact ⟨rfl, rfl⟩

theorem startRun_error {host : Host} {s : RunSettings} {request : RunRequest} {fs : FileSystem}
    {halt : Halt} (h : startRun host s request fs = .error halt) :
    halt.fs = withSnapshot host s fs ∧ halt.written = [] ∧
      ((∃ message, halt.error = .pipeline message) ∨
        loadResumeState host s request (withSnapshot host s fs) = .error halt.error) := by
  unfold startRun at h
  dsimp only at h
  rw [locate_reservedFile host s (by simp [reservedNames])] at h
  cases hadapter : request.adapter with
  | error message =>
      rw [hadapter] at h
      cases h
      exact ⟨rfl, rfl, .inl ⟨message, rfl⟩⟩
  | ok adapter =>
      rw [hadapter] at h
      dsimp only at h
      cases hresume : loadResumeState host s request
          (fs.write (fileIn host.workingDir s.artifactsDir configSnapshotName)
            (.text s.configText)) with
      | error error =>
          rw [hresume] at h
          cases h
          exact ⟨rfl, rfl, .inr hresume⟩
      | ok loaded =>
          rw [hresume] at h
          cases h

/-! ## Persisting -/

/-- The files derived from the saved state, by name. -/
inductive DerivedFile (py : Interpreter) : String → FileContent → Prop where
  | suggestionsText (text : String) : DerivedFile py suggestionsMarkdownName (.text text)
  | suggestions (report : RunReport) (suggestions : List Suggestion) :
      DerivedFile py suggestionsJsonName (.json (renderCodeSuggestionsJson report suggestions))
  | release (report : RunReport) :
      DerivedFile py releaseName (.json (buildReleaseSimulation py report))

/-- Disks that differ by derived files. -/
inductive Derives (env : RunEnv) (fs : FileSystem) : FileSystem → Prop where
  | refl : Derives env fs fs
  | write {fs' : FileSystem} {name : String} {content : FileContent} (h : Derives env fs fs')
      (hfile : DerivedFile env.host.py name content) :
      Derives env fs (fs'.write (env.fileNamed name) content)

theorem Derives.trans {env : RunEnv} {fs fs' fs'' : FileSystem} (h : Derives env fs fs')
    (h' : Derives env fs' fs'') : Derives env fs fs'' := by
  induction h' with
  | refl => exact h
  | write _ hfile ih => exact ih.write hfile

theorem withReport_derives {env : RunEnv} {fs fs' : FileSystem} {f : RunReport → FileSystem}
    (hf : ∀ report, Derives env fs (f report)) (h : withReport env fs f = .ok fs') :
    Derives env fs fs' := by
  unfold withReport at h
  split at h
  · cases h
    exact hf _
  · cases h
    exact .refl
  · cases h

theorem writeCodeSuggestionArtifacts_derives {env : RunEnv} {fs fs' : FileSystem}
    (h : writeCodeSuggestionArtifacts env fs = .ok fs') : Derives env fs fs' := by
  refine withReport_derives (fun report => ?_) h
  dsimp only
  split
  · exact .refl
  · exact (Derives.refl.write (.suggestionsText _)).write (.suggestions _ _)

theorem writeReleaseSimulationArtifact_derives {env : RunEnv} {fs fs' : FileSystem}
    (h : writeReleaseSimulationArtifact env fs = .ok fs') : Derives env fs fs' := by
  refine withReport_derives (fun report => ?_) h
  split
  · exact Derives.refl.write (.release _)
  · exact .refl

/-- Whatever comes of it, summary and state are written before anything else. -/
theorem persistRunOutputs_derives (env : RunEnv) (st : RunState) (ending : Ending) :
    Derives env (writeSummaryAndState env st ending) (persistRunOutputs env st ending).1 := by
  unfold persistRunOutputs
  dsimp only
  split
  · exact .refl
  · rename_i suggested hsuggested
    have hfirst := writeCodeSuggestionArtifacts_derives hsuggested
    split
    · exact hfirst
    · rename_i released hreleased
      exact hfirst.trans (writeReleaseSimulationArtifact_derives hreleased)

theorem DerivedFile.reserved {py : Interpreter} {name : String} {content : FileContent}
    (h : DerivedFile py name content) : name ∈ reservedNames := by
  cases h <;> simp [reservedNames]

theorem RunEnv.fileNamed_reserved (env : RunEnv) {name : String} (h : name ∈ reservedNames) :
    env.fileNamed name = fileIn env.host.workingDir env.settings.artifactsDir name :=
  locate_reservedFile env.host env.settings h

/-- Deriving files leaves every file with another name alone. -/
theorem Derives.of_getLast?_ne {env : RunEnv} {fs fs' : FileSystem} (h : Derives env fs fs')
    {location : Location}
    (hne : ∀ name ∈ [suggestionsMarkdownName, suggestionsJsonName, releaseName],
      location.getLast? ≠ some name.toList) : fs' location = fs location := by
  induction h with
  | refl => rfl
  | @write fs' name content _ hfile ih =>
      have hother : location ≠ env.fileNamed name := by
        intro heq
        rw [env.fileNamed_reserved hfile.reserved] at heq
        refine hne name ?_ (by rw [heq, fileIn, List.getLast?_concat])
        cases hfile <;> simp
      rw [FileSystem.write_of_ne _ hother, ih]

/-- After a call that persists, the state file holds the state. -/
theorem persistRunOutputs_state (env : RunEnv) (st : RunState) (ending : Ending) :
    (persistRunOutputs env st ending).1 (stateLocation env.host env.settings.artifactsDir) =
      some (.json (stateJson env st ending)) := by
  rw [(persistRunOutputs_derives env st ending).of_getLast?_ne]
  · rw [writeSummaryAndState, @RunEnv.fileNamed_reserved env stateName (by simp [reservedNames])]
    exact FileSystem.write_self _ _ _
  · rw [stateLocation, fileIn, List.getLast?_concat]
    simp [stateName, suggestionsMarkdownName, suggestionsJsonName, releaseName]

/-- Persisting leaves every file with another name alone. -/
theorem persistRunOutputs_of_getLast?_ne (env : RunEnv) (st : RunState) (ending : Ending)
    {location : Location} (hne : ∀ name ∈ reservedNames, location.getLast? ≠ some name.toList) :
    (persistRunOutputs env st ending).1 location = st.fs location := by
  have hother : ∀ name ∈ reservedNames, location ≠ env.fileNamed name := by
    intro name hname heq
    rw [env.fileNamed_reserved hname] at heq
    exact hne name hname (by rw [heq, fileIn, List.getLast?_concat])
  rw [(persistRunOutputs_derives env st ending).of_getLast?_ne fun name hname => hne name ?_,
    writeSummaryAndState, FileSystem.write_of_ne _ (hother stateName (by simp [reservedNames])),
    FileSystem.write_of_ne _ (hother summaryName (by simp [reservedNames]))]
  simp only [List.mem_cons, List.not_mem_nil, or_false] at hname
  rcases hname with rfl | rfl | rfl <;> simp [reservedNames]

theorem haltWith_fs (env : RunEnv) (st : RunState) (ending : Ending) :
    (haltWith env st ending).fs = (persistRunOutputs env st ending).1 := by
  unfold haltWith
  dsimp only
  split <;> rfl

/-! ## JSON files -/

/-- The location of a file with the extension of JSON files. -/
def IsJsonFile (location : Location) : Prop :=
  ∃ stem, location.getLast? = some (stem ++ '.' :: "json".toList)

theorem not_isJsonFile {location : Location} {name : Segment}
    (hlast : location.getLast? = some name) (h : ¬ ".json".toList <:+ name) :
    ¬ IsJsonFile location := by
  rintro ⟨stem, hstem⟩
  rw [hlast, Option.some.injEq] at hstem
  exact h ⟨stem, by rw [hstem]; simp⟩

theorem not_isJsonFile_fileIn {workingDir : Location} {directory name : String}
    (h : ¬ ".json".toList <:+ name.toList) : ¬ IsJsonFile (fileIn workingDir directory name) :=
  not_isJsonFile List.getLast?_concat h

/-- Every JSON file of a call that persists is as before or one of the call's own. -/
theorem persistRunOutputs_json {P : Json → Prop} {env : RunEnv} {st : RunState} {ending : Ending}
    (hstate : P (stateJson env st ending))
    (hderived : ∀ name value, DerivedFile env.host.py name (.json value) → P value)
    {location : Location} (hjson : IsJsonFile location) :
    (persistRunOutputs env st ending).1 location = st.fs location ∨
      ∃ value, (persistRunOutputs env st ending).1 location = some (.json value) ∧ P value := by
  have hother : ∀ {name}, name ∈ reservedNames → ¬ ".json".toList <:+ name.toList →
      location ≠ env.fileNamed name := by
    rintro name hreserved hname rfl
    rw [env.fileNamed_reserved hreserved] at hjson
    exact not_isJsonFile_fileIn hname hjson
  have hmarkdown : location ≠ env.fileNamed suggestionsMarkdownName :=
    hother (by simp [reservedNames]) (by decide)
  have hsummary : location ≠ env.fileNamed summaryName :=
    hother (by simp [reservedNames]) (by decide)
  have hsaved : writeSummaryAndState env st ending location = st.fs location ∨
      ∃ value, writeSummaryAndState env st ending location = some (.json value) ∧ P value := by
    rw [writeSummaryAndState]
    by_cases heq : location = env.fileNamed stateName
    · exact .inr ⟨_, by rw [heq, FileSystem.write_self], hstate⟩
    · exact .inl (by rw [FileSystem.write_of_ne _ heq, FileSystem.write_of_ne _ hsummary])
  have hderives := persistRunOutputs_derives env st ending
  generalize (persistRunOutputs env st ending).1 = after at hderives ⊢
  induction hderives with
  | refl => exact hsaved
  | @write fs' name content _ hfile ih =>
      by_cases heq : location = env.fileNamed name
      · cases content with
        | json value => exact .inr ⟨value, by rw [heq, FileSystem.write_self], hderived _ _ hfile⟩
        | text text =>
            cases hfile
            exact absurd heq hmarkdown
      · rw [FileSystem.write_of_ne _ heq]
        exact ih

/-! ## Calls -/

/-- Where a call has written role artifacts. -/
def runWritten (host : Host) (s : RunSettings) (request : RunRequest) (fs : FileSystem) :
    List (String × Location) :=
  match runRoles host s request fs with
  | .error halt => halt.written
  | .ok (_, st) => st.written

/-- A call that got past its prologue: what it performed and how it ended. -/
structure Persists (host : Host) (s : RunSettings) (request : RunRequest) (fs : FileSystem)
    (env : RunEnv) (resume : Resume) (ds : List Done) (ending : Ending) : Prop where
  start : startRun host s request fs = .ok (env, resume)
  performed : Performed env (pendingRoles s resume.startIndex) ds
  ended : ending.status = "failed" ∨ ending.status = "completed" ∧
    RoleRun env resume.state.outputs (pendingRoles s resume.startIndex) ds
  written : runWritten host s request fs = (ds.foldl (keepDone env) resume.state).written
  disk : (runPipeline host s request fs).1 =
    (persistRunOutputs env (ds.foldl (keepDone env) resume.state) ending).1
  outcome : (∃ message, (runPipeline host s request fs).2 = .error (.pipeline message)) ∨
    (runPipeline host s request fs).2 =
      (persistRunOutputs env (ds.foldl (keepDone env) resume.state) ending).2

theorem Persists.state {host : Host} {s : RunSettings} {request : RunRequest} {fs : FileSystem}
    {env : RunEnv} {resume : Resume} {ds : List Done} {ending : Ending}
    (h : Persists host s request fs env resume ds ending) :
    (runPipeline host s request fs).1 (host.locate s.artifactsDir ++ [stateName.toList]) =
      some (.json (stateJson env (ds.foldl (keepDone env) resume.state) ending)) := by
  obtain ⟨adapter, -, -, rfl⟩ := startRun_ok_iff.mp h.start
  rw [h.disk]
  exact persistRunOutputs_state _ _ _

theorem persists_of_roleRun {host : Host} {s : RunSettings} {request : RunRequest}
    {fs : FileSystem} {env : RunEnv} {resume : Resume} {ds : List Done}
    (hstart : startRun host s request fs = .ok (env, resume))
    (hrun : RoleRun env resume.state.outputs (pendingRoles s resume.startIndex) ds) :
    Persists host s request fs env resume ds { status := "completed" } := by
  have hroles := runRoles_ok_iff.mpr ⟨resume, ds, hstart, hrun, rfl⟩
  refine ⟨hstart, hrun.performed, .inr ⟨rfl, hrun⟩, ?_, ?_, .inr ?_⟩
  · rw [runWritten, hroles]
  · rw [runPipeline, hroles]
  · rw [runPipeline, hroles]

/-- A call fails in its prologue or persists. -/
theorem runPipeline_cases (host : Host) (s : RunSettings) (request : RunRequest)
    (fs : FileSystem) :
    (∃ halt, startRun host s request fs = .error halt ∧
      runPipeline host s request fs = (halt.fs, .error halt.error) ∧
      runWritten host s request fs = halt.written) ∨
    ∃ env resume ds ending, Persists host s request fs env resume ds ending := by
  cases hroles : runRoles host s request fs with
  | ok result =>
      obtain ⟨env, st⟩ := result
      obtain ⟨resume, ds, hstart, hrun, -⟩ := runRoles_ok_iff.mp hroles
      exact .inr ⟨env, resume, ds, _, persists_of_roleRun hstart hrun⟩
  | error halt =>
      rcases runRoles_error hroles with hstart | ⟨env, resume, ds, ending, hstart, hds, hstatus, hhalt⟩
      · exact .inl ⟨halt, hstart, by rw [runPipeline, hroles], by rw [runWritten, hroles]⟩
      · refine .inr ⟨env, resume, ds, ending, hstart, hds, .inl hstatus, ?_, ?_, ?_⟩
        · rw [runWritten, hroles, hhalt, haltWith]
          dsimp only
          split <;> rfl
        · rw [runPipeline, hroles, hhalt]
          exact haltWith_fs env _ ending
        · rw [runPipeline, hroles, hhalt, haltWith]
          dsimp only
          cases (persistRunOutputs env (ds.foldl (keepDone env) resume.state) ending).2 with
          | ok summaryPath => exact .inl ⟨_, rfl⟩
          | error error => exact .inr rfl

/-! ## Histories -/

/-- The disk, and where the artifact of each role was last written. -/
structure History where
  fs : FileSystem
  home : String → Option Location

def recordWritten (home : String → Option Location) (written : List (String × Location)) :
    String → Option Location :=
  written.foldl (fun home p => Function.update home p.1 (some p.2)) home

/-- Histories of calls on one artifacts directory that held no state file at first. -/
inductive Reachable (directory : Location)
    (Allowed : Host → RunSettings → RunRequest → FileSystem → Prop) : History → Prop where
  | start {fs : FileSystem} (h : fs (directory ++ [stateName.toList]) = none) :
      Reachable directory Allowed ⟨fs, fun _ => none⟩
  | call {history : History} {host : Host} {s : RunSettings} {request : RunRequest}
      (h : Reachable directory Allowed history) (hdirectory : host.locate s.artifactsDir = directory)
      (hallowed : Allowed host s request history.fs) :
      Reachable directory Allowed ⟨(runPipeline host s request history.fs).1,
        recordWritten history.home (runWritten host s request history.fs)⟩

/-! ## A small configuration -/

/-- Two roles in series. The output "leak" reads as a report with a blocking finding,
"unfounded" as one whose evidence basis is null. -/
def sampleHost : Host where
  py :=
    { loads := fun text =>
        let findings := if text = "leak" then
          [.obj [("title", .str "leak"), ("severity", .str "HIGH")]] else []
        let basis := if text = "unfounded" then [("evidence_basis", .null)] else []
        some (.obj ([("summary", .str "done"), ("confidence", .str "HIGH"),
          ("assumptions", .arr []), ("unknowns", .arr []), ("findings", .arr findings)] ++ basis))
      dumps := fun _ => ""
      repr := fun _ => ""
      isAlnum := fun _ => false
      lower := fun text => text
      lower_empty := rfl }
  workingDir := []
  workingDir_names := by simp

def sampleSettings : RunSettings where
  artifactsDir := "/run"
  provider := "local"
  mode := "ensemble"
  adapterName := "sample"
  scope := "service"
  promptText := ""
  roleOrder := ["architect", "implementer"]
  configText := ""
  roleModel := fun _ => .ok "model"
  rolePromptText := fun _ => ""
  reviewIsolation := .framed
  enforceJson := true
  failOnHigh := true
  parallelSpecialists := false
  maxParallelRoles := 1
  artifactsDir_ne_empty := by decide
  artifactsDir_stripped := by decide
  roleOrder_ne_nil := by decide
  roleOrder_nodup := by decide
  maxParallelRoles_pos := by decide

/-- Every role gets the same output. -/
def sampleRequest (startRole : Option String) (output : String) : RunRequest where
  startRole := startRole
  runId := "run"
  adapter := .ok fun _ => .output output
  stamps := fun _ => ⟨"", "", 0⟩
  completionOrder := id
  completionOrder_perm := fun batch => List.Perm.refl batch
  previousRunDir := none

def sampleEnv (startRole parentRunId : Option String) (output : String) (fs : FileSystem) :
    RunEnv :=
  ⟨sampleHost, sampleSettings, sampleRequest startRole output, fun _ => .output output,
    promptInputs sampleHost sampleSettings (withSnapshot sampleHost sampleSettings fs), parentRunId⟩

def sampleRendered (role output : String) : Rendered :=
  match renderRoleOutput sampleHost.py role "model" output true with
  | .ok rendered => rendered
  | .error _ => ⟨"", .text "", "", none⟩

def sampleDone (env : RunEnv) (outputs : Dict String String) (next : Pending) (output : String) :
    Done :=
  ⟨next, roleCall env next.1 "model" outputs, sampleRendered next.1 output⟩

end TruePresenceESE.Ese
