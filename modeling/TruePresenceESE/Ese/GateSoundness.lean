import TruePresenceESE.Ese.SavedState

/-! # The gate over reruns

The gate looks at the roles of the current call. A state that says completed
lists no artifact with a blocking finding as long as no call seeds a role from
one: a call that resumes behind a gated role completes without looking at it.
-/

namespace TruePresenceESE.Ese

open PosixPath PyText

/-! ## Findings on disk -/

def NoBlockers (py : Interpreter) (content : Option FileContent) : Prop :=
  ∀ report, content.bind (FileContent.load py) = some report → highSeverityFindings report = []

/-- No artifact that a saved state of a completed run lists has a blocking finding. -/
def CompletedClean (host : Host) (s : RunSettings) (fs : FileSystem) : Prop :=
  savedStatus host.py fs (host.locate s.artifactsDir) = some "completed" →
    ∀ role ref, savedArtifact host.py fs (host.locate s.artifactsDir) role = some ref →
      NoBlockers host.py (fs (host.savedLocation s ref))

/-- No role before the start role was saved with a blocking finding. -/
def SeedsClean (host : Host) (s : RunSettings) (request : RunRequest) (fs : FileSystem) : Prop :=
  ∀ startRole, request.givenStartRole = some startRole → strip startRole ∈ s.roleOrder →
    ∀ role ∈ s.roleOrder.take (s.roleOrder.idxOf (strip startRole)), ∀ ref,
      savedArtifact host.py fs (host.locate s.artifactsDir) role = some ref →
        NoBlockers host.py (fs (host.savedLocation s ref))

theorem noBlockers_json {py : Interpreter} {value : Json} :
    NoBlockers py (some (.json value)) ↔ highSeverityFindings value = [] := by
  simp [NoBlockers, FileContent.load]

/-! ## References -/

/-- The references are absolute and name JSON files. -/
def JsonRefs (artifacts : Dict String String) : Prop :=
  ∀ role ref, artifacts.get? role = some ref → isAbs ref = true ∧ IsJsonFile (resolve [] ref)

def CleanRefs (py : Interpreter) (fs : FileSystem) (artifacts : Dict String String) : Prop :=
  ∀ role ref, artifacts.get? role = some ref → NoBlockers py (fs (resolve [] ref))

theorem Host.locate_of_isAbs (host : Host) {path : String} (h : isAbs path = true) :
    host.locate path = resolve [] path := resolve_of_isAbs h _ _

theorem savedLocation_of_isAbs (host : Host) (s : RunSettings) {ref : String}
    (h : isAbs ref = true) : host.savedLocation s ref = resolve [] ref := by
  rw [Host.savedLocation, reportArtifactPath, if_pos h, host.locate_of_isAbs h]

/-- A property of every entry survives one more entry that has it. -/
theorem forall_get?_set {α : Type} {P : α → Prop} {d : Dict String α} {key : String} {value : α}
    (hd : ∀ k v, d.get? k = some v → P v) (hvalue : P value) :
    ∀ k v, (d.set key value).get? k = some v → P v := by
  intro k v hget
  rw [Dict.get?_set] at hget
  split at hget
  · cases hget
    exact hvalue
  · exact hd k v hget

/-! ## What a role leaves on disk -/

theorem performRole_json {env : RunEnv} {outputs : Dict String String} {next : Pending} {d : Done}
    (hjson : env.inputs.enforceJson = true) (h : performRole env outputs next = .ok d) :
    ∃ report : Report, d.rendered.content = .json (.obj report.items) ∧
      d.rendered.report = some report ∧ d.rendered.extension = "json" := by
  obtain ⟨model, output, rendered, -, -, hrendered, rfl⟩ := performRole_ok_iff.mp h
  rw [renderRoleOutput, if_pos hjson] at hrendered
  obtain ⟨report, -, rfl⟩ := Fallible.map_eq_ok_iff.mp hrendered
  exact ⟨report, rfl, rfl, rfl⟩

/-- What the gate lets through has no blocking finding. -/
theorem Passes.noBlockers {env : RunEnv} {outputs : Dict String String} {next : Pending} {d : Done}
    (hjson : env.inputs.enforceJson = true) (hgate : env.settings.failOnHigh = true)
    (h : performRole env outputs next = .ok d) (hpasses : Passes env d) :
    NoBlockers env.host.py (some d.rendered.content) := by
  obtain ⟨report, hcontent, hreport, -⟩ := performRole_json hjson h
  have hchunk := hpasses hgate
  rw [Done.chunk, hreport] at hchunk
  dsimp only at hchunk
  rw [hcontent, noBlockers_json]
  split at hchunk
  · rename_i hempty
    exact List.isEmpty_iff.mp hempty
  · cases hchunk

theorem Done.jsonRef {env : RunEnv} {outputs : Dict String String} {next : Pending} {d : Done}
    (habs : isAbs env.settings.artifactsDir = true) (hjson : env.inputs.enforceJson = true)
    (h : performRole env outputs next = .ok d) :
    isAbs (d.path env) = true ∧ IsJsonFile (resolve [] (d.path env)) := by
  have hpath : isAbs (d.path env) = true := by
    rw [Done.path, isAbs_join env.settings.artifactsDir_ne_empty (isAbs_artifactName _ _ _), habs]
  obtain ⟨report, -, -, hextension⟩ := performRole_json hjson h
  obtain ⟨stem, hstem⟩ := getLast?_locate_artifact env.host env.settings.artifactsDir_ne_empty
    d.next.2 d.next.1 "json" (by decide) (by decide)
  rw [← hextension] at hstem
  refine ⟨hpath, stem, ?_⟩
  rw [← env.host.locate_of_isAbs hpath, Done.path, hstem, hextension]

/-! ## One call -/

section
variable {env : RunEnv} (habs : isAbs env.settings.artifactsDir = true)
  (hjson : env.inputs.enforceJson = true) (hgate : env.settings.failOnHigh = true)

include habs hjson in
theorem JsonRefs.foldl_keepDone {st : RunState} {ds : List Done}
    (hds : ∀ d ∈ ds, ∃ outputs, performRole env outputs d.next = .ok d)
    (h : JsonRefs st.artifacts) : JsonRefs (ds.foldl (keepDone env) st).artifacts := by
  refine List.foldlRecOn (motive := fun st : RunState => JsonRefs st.artifacts) ds (keepDone env) h
    fun st hst d hd => ?_
  obtain ⟨outputs, hperform⟩ := hds d hd
  rw [keepDone_artifacts]
  exact forall_get?_set hst (d.jsonRef habs hjson hperform)

include habs hjson hgate in
theorem CleanRefs.foldl_keepDone {st : RunState} {ds : List Done}
    (hds : ∀ d ∈ ds, (∃ outputs, performRole env outputs d.next = .ok d) ∧ Passes env d)
    (h : CleanRefs env.host.py st.fs st.artifacts) :
    CleanRefs env.host.py (ds.foldl (keepDone env) st).fs
      (ds.foldl (keepDone env) st).artifacts := by
  refine List.foldlRecOn
    (motive := fun st : RunState => CleanRefs env.host.py st.fs st.artifacts) ds (keepDone env) h
    fun st hst d hd => ?_
  obtain ⟨⟨outputs, hperform⟩, hpasses⟩ := hds d hd
  have hcontent := hpasses.noBlockers hjson hgate hperform
  have hlocation : d.location env = resolve [] (d.path env) :=
    env.host.locate_of_isAbs (d.jsonRef habs hjson hperform).1
  rw [keepDone_artifacts, keepDone_fs, hlocation]
  refine forall_get?_set (fun role ref hget => ?_) ?_
  · by_cases heq : resolve [] ref = resolve [] (d.path env)
    · rw [heq, FileSystem.write_self]
      exact hcontent
    · rw [FileSystem.write_of_ne _ heq]
      exact hst role ref hget
  · rw [FileSystem.write_self]
    exact hcontent

end

/-- Neither the state file nor a derived one has findings. -/
theorem highSeverityFindings_stateJson (env : RunEnv) (st : RunState) (ending : Ending) :
    highSeverityFindings (stateJson env st ending) = [] := by
  rw [highSeverityFindings, get?_stateJson_of_notMem env st ending (by decide)]

theorem highSeverityFindings_derived {py : Interpreter} {name : String} {value : Json}
    (h : DerivedFile py name (.json value)) : highSeverityFindings value = [] := by
  cases h with
  | suggestions report suggestions =>
      simp [highSeverityFindings, renderCodeSuggestionsJson, Json.get?]
  | release report => simp [highSeverityFindings, buildReleaseSimulation, Json.get?]

theorem CleanRefs.persist {env : RunEnv} {st : RunState} (ending : Ending)
    (hrefs : JsonRefs st.artifacts) (h : CleanRefs env.host.py st.fs st.artifacts) :
    CleanRefs env.host.py (persistRunOutputs env st ending).1 st.artifacts := by
  intro role ref hget
  rcases persistRunOutputs_json (P := fun value => highSeverityFindings value = [])
    (highSeverityFindings_stateJson env st ending)
    (fun _ _ hfile => highSeverityFindings_derived hfile) (hrefs role ref hget).2 with
    hsame | ⟨value, hvalue, hclean⟩
  · rw [hsame]
    exact h role ref hget
  · rw [hvalue]
    exact noBlockers_json.mpr hclean

/-! ## Histories -/

/-- What every call leaves true of the saved state. -/
def GateInvariant (py : Interpreter) (directory : Location) (fs : FileSystem) : Prop :=
  fs (directory ++ [stateName.toList]) = none ∨
    ∃ env st ending, fs (directory ++ [stateName.toList]) = some (.json (stateJson env st ending)) ∧
      JsonRefs st.artifacts ∧ (ending.status = "completed" → CleanRefs py fs st.artifacts)

theorem not_isJsonFile_snapshot (host : Host) (s : RunSettings) :
    ¬ IsJsonFile (snapshotLocation host s) := not_isJsonFile_fileIn (by decide)

theorem GateInvariant.withSnapshot {py : Interpreter} {host : Host} {s : RunSettings}
    {fs : FileSystem} (h : GateInvariant py (host.locate s.artifactsDir) fs) :
    GateInvariant py (host.locate s.artifactsDir) (withSnapshot host s fs) := by
  have hstate : Ese.withSnapshot host s fs (host.locate s.artifactsDir ++ [stateName.toList]) =
      fs (host.locate s.artifactsDir ++ [stateName.toList]) :=
    withSnapshot_of_ne fs (stateLocation_ne_snapshot host s)
  unfold GateInvariant
  rw [hstate]
  rcases h with hnone | ⟨env, st, ending, hfile, hrefs, hclean⟩
  · exact .inl hnone
  · refine .inr ⟨env, st, ending, hfile, hrefs, fun hcompleted role ref hget => ?_⟩
    rw [withSnapshot_of_ne fs]
    · exact hclean hcompleted role ref hget
    · intro heq
      exact not_isJsonFile_snapshot host s (heq ▸ (hrefs role ref hget).2)

/-- The seeds of a call are JSON files named by the saved state. -/
theorem GateInvariant.seed {host : Host} {s : RunSettings} {fs : FileSystem} {cleanRole : String}
    {state artifacts : Json} {seed : Seed}
    (h : GateInvariant host.py (host.locate s.artifactsDir) fs)
    (hsaved : loadSavedState host s cleanRole fs = .ok (state, artifacts))
    (hseed : IsSeed host s state artifacts fs seed) :
    ∃ ref, savedArtifact host.py fs (host.locate s.artifactsDir) seed.role = some ref ∧
      isAbs seed.path = true ∧ resolve [] seed.path = host.savedLocation s ref ∧
      IsJsonFile (resolve [] seed.path) := by
  obtain ⟨ref, href, hpath, -, -⟩ := hseed.saved hsaved
  have hresolve : resolve [] seed.path = host.savedLocation s ref := by
    rw [hpath]
    exact resolve_render (host.isName_of_mem_locate _) []
  refine ⟨ref, href, by rw [hpath, isAbs_render], hresolve, ?_⟩
  rcases h with hnone | ⟨env, st, ending, hfile, hrefs, -⟩
  · simp [savedArtifact, savedField, hnone] at href
  · rw [savedArtifact_stateJson hfile] at href
    obtain ⟨habs, hjson⟩ := hrefs _ _ href
    rw [hresolve, savedLocation_of_isAbs host s habs]
    exact hjson

section
variable {host : Host} {s : RunSettings} {request : RunRequest} {fs : FileSystem}
  (habs : isAbs s.artifactsDir = true) (hjson : s.enforceJson = true)
  (hgate : s.failOnHigh = true)

/-- What a call starts from. -/
theorem GateInvariant.resumed {resume : Resume}
    (h : GateInvariant host.py (host.locate s.artifactsDir) fs)
    (hclean : SeedsClean host s request fs)
    (hresume : loadResumeState host s request (Ese.withSnapshot host s fs) = .ok resume) :
    JsonRefs resume.state.artifacts ∧
      CleanRefs host.py resume.state.fs resume.state.artifacts := by
  obtain ⟨seeds, hroles, hstate, hseeds⟩ := loadResumeState_ok hresume
  rw [hstate]
  refine List.foldlRecOn (motive := fun st : RunState => JsonRefs st.artifacts ∧
    CleanRefs host.py st.fs st.artifacts ∧ st.fs = Ese.withSnapshot host s fs) seeds
    (keepSeed host.py) ⟨?_, ?_, rfl⟩ ?_ |> fun h => ⟨h.1, h.2.1⟩
  · intro role ref hget
    cases hget
  · intro role ref hget
    cases hget
  · rintro st ⟨hrefs, hst, hfs⟩ seed hseed
    obtain ⟨startRole, state, artifacts, hgiven, hmem, hindex, hsaved, hall⟩ :=
      hseeds (List.ne_nil_of_mem hseed)
    obtain ⟨ref, href, hpath, hresolve, hfile⟩ := h.withSnapshot.seed hsaved (hall seed hseed)
    have hrole : seed.role ∈ s.roleOrder.take (s.roleOrder.idxOf (strip startRole)) := by
      rw [← hindex, ← hroles]
      exact List.mem_map_of_mem hseed
    rw [savedArtifact_withSnapshot] at href
    have hcontent := hclean startRole hgiven hmem seed.role hrole ref href
    refine ⟨forall_get?_set hrefs ⟨hpath, hfile⟩, forall_get?_set hst ?_, hfs⟩
    have hunchanged : Ese.withSnapshot host s fs (resolve [] seed.path) =
        fs (resolve [] seed.path) := by
      refine withSnapshot_of_ne fs fun heq => ?_
      exact not_isJsonFile_snapshot host s (heq ▸ hfile)
    rw [show (keepSeed host.py st seed).fs = Ese.withSnapshot host s fs from hfs, hunchanged,
      hresolve]
    exact hcontent

include habs hjson hgate in
/-- The invariant survives a call whose seeds are clean. -/
theorem GateInvariant.call (h : GateInvariant host.py (host.locate s.artifactsDir) fs)
    (hclean : SeedsClean host s request fs) :
    GateInvariant host.py (host.locate s.artifactsDir) (runPipeline host s request fs).1 := by
  rcases runPipeline_cases host s request fs with
    ⟨halt, hstart, hrun, -⟩ | ⟨env, resume, ds, ending, hrun⟩
  · rw [hrun, (startRun_error hstart).1]
    exact h.withSnapshot
  · obtain ⟨adapter, -, hresume, rfl⟩ := startRun_ok_iff.mp hrun.start
    obtain ⟨hrefs, hcleanRefs⟩ := h.resumed hclean hresume
    have hdone := hrefs.foldl_keepDone habs hjson hrun.performed.2
    refine .inr ⟨_, _, ending, hrun.state, hdone, fun hcompleted => ?_⟩
    rcases hrun.ended with hfailed | ⟨-, hroles⟩
    · rw [hfailed] at hcompleted
      contradiction
    · rw [hrun.disk]
      exact (hcleanRefs.foldl_keepDone habs hjson hgate fun d hd =>
        ⟨hrun.performed.2 d hd, hroles.passes d hd⟩).persist ending hdone

theorem GateInvariant.completedClean (h : GateInvariant host.py (host.locate s.artifactsDir) fs) :
    CompletedClean host s fs := by
  intro hstatus role ref href
  rcases h with hnone | ⟨env, st, ending, hfile, hrefs, hclean⟩
  · simp [savedStatus, savedField, hnone] at hstatus
  · rw [savedStatus_stateJson hfile, Option.some.injEq] at hstatus
    rw [savedArtifact_stateJson hfile] at href
    rw [savedLocation_of_isAbs host s (hrefs role ref href).1]
    exact hclean hstatus role ref href

end

def architectFile : Location := ["run".toList, "01_architect.json".toList]

/-- A gated call leaves its artifact and a state that names it. -/
theorem sample_gated :
    let first := (runPipeline sampleHost sampleSettings (sampleRequest none "leak") fun _ => none).1
    ∃ env st ending, first (sampleHost.locate sampleSettings.artifactsDir ++ [stateName.toList]) =
        some (.json (stateJson env st ending)) ∧
      st.artifacts.get? "architect" = some "/run/01_architect.json" ∧
      first architectFile = some (sampleRendered "architect" "leak").content := by
  intro first
  let env := sampleEnv none none "leak" fun _ => none
  let st : RunState := { fs := withSnapshot sampleHost sampleSettings fun _ => none }
  let d := sampleDone env st.outputs ("architect", 1) "leak"
  have hstart : startRun sampleHost sampleSettings (sampleRequest none "leak") (fun _ => none) =
      .ok (env, ⟨0, st, none⟩) := startRun_ok_iff.mpr ⟨_, rfl, rfl, rfl⟩
  have hperform : performRole env st.outputs ("architect", 1) = .ok d :=
    performRole_ok_iff.mpr ⟨"model", "leak", _, rfl, rfl, rfl, rfl⟩
  have hgated : ¬ Passes env d := fun hpasses => absurd (hpasses rfl) (by decide)
  obtain ⟨failure, hturns⟩ := @runTurns_of_gated _ _ _ [("implementer", 2)] _
    (show strategyOf env "architect" = "serial" by decide) hperform hgated
  let ending : Ending := { status := "failed", failure := some failure }
  have hdisk : first = (persistRunOutputs env (keepDone env st d) ending).1 := by
    show (runPipeline _ _ _ _).1 = _
    rw [runPipeline, runRoles_of_stopped hstart hturns]
    exact haltWith_fs env _ ending
  have hpath : d.path env = "/run/01_architect.json" := by decide
  have hlocation : d.location env = architectFile := by decide
  refine ⟨env, keepDone env st d, ending, ?_, ?_, ?_⟩
  · rw [hdisk]
    exact persistRunOutputs_state env _ ending
  · rw [keepDone_artifacts, hpath]
    exact Dict.get?_set_self _ _ _
  · rw [hdisk, persistRunOutputs_of_getLast?_ne _ _ _ (by decide), keepDone_fs, hlocation]
    exact FileSystem.write_self _ _ _

/-- The rerun takes over the artifact the gate had stopped. -/
theorem sample_resumed (fs : FileSystem) {env : RunEnv} {st : RunState} {ending : Ending}
    (hstate : fs (sampleHost.locate sampleSettings.artifactsDir ++ [stateName.toList]) =
      some (.json (stateJson env st ending)))
    (hartifact : st.artifacts.get? "architect" = some "/run/01_architect.json")
    (hfile : (fs architectFile).isSome) :
    ∃ resume, loadResumeState sampleHost sampleSettings
        (sampleRequest (some "implementer") "fine") fs = .ok resume ∧ resume.startIndex = 1 ∧
      resume.state.fs = fs ∧ resume.state.artifacts.get? "architect" = some (render architectFile) := by
  have hlocation : sampleHost.savedLocation sampleSettings "/run/01_architect.json" =
      architectFile := by decide
  have hresumable : ∀ role ∈ sampleSettings.roleOrder.take
      (sampleSettings.roleOrder.idxOf (strip "implementer")),
      Resumable sampleHost sampleSettings fs st.artifacts role := by
    intro role hrole
    obtain rfl : role = "architect" := by
      revert hrole
      decide +revert
    exact ⟨_, hartifact, by decide, by decide, by rwa [hlocation], "model", rfl⟩
  obtain ⟨resume, hresume, hindex⟩ := @loadResumeState_of_resumable _ _
    (sampleRequest (some "implementer") "fine") _ "implementer" _ _ _ hstate rfl
    (by decide) hresumable
  obtain ⟨seeds, hroles, hresumed, hseeds⟩ := loadResumeState_ok hresume
  have htake : sampleSettings.roleOrder.take resume.startIndex = ["architect"] := by
    rw [hindex]
    decide
  rw [htake] at hroles
  obtain ⟨seed, rfl, hseed⟩ := List.map_eq_singleton_iff.mp hroles
  obtain ⟨startRole, state, artifacts, -, -, -, hsaved, hall⟩ := hseeds (List.cons_ne_nil _ _)
  obtain ⟨ref, href, hpath, -, -⟩ := (hall seed (List.mem_singleton_self _)).saved hsaved
  rw [savedArtifact_stateJson hstate, hseed, hartifact, Option.some.injEq] at href
  refine ⟨resume, hresume, by rw [hindex]; decide, by rw [hresumed]; rfl, ?_⟩
  rw [hresumed, ← hlocation, href, ← hpath, ← hseed]
  exact Dict.get?_set_self _ _ _

end TruePresenceESE.Ese
