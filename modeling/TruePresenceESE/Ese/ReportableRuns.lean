import TruePresenceESE.Ese.ArtifactReaders

/-! # Reporting on accepted output

Reports that pass validation can be collected, so deriving artifacts from them
raises nothing and every executed role is reported: except where an accepted
report has a null evidence basis, which the collector cannot iterate over.
-/

namespace TruePresenceESE.Ese

open PosixPath PyText PyValue

/-! ## What can escape -/

/-- Persisting raises only what collecting raises. -/
theorem persistRunOutputs_error {env : RunEnv} {st : RunState} {ending : Ending}
    {error : RunError} (h : (persistRunOutputs env st ending).2 = .error error) :
    ∃ fs exception, error = .escaped exception ∧
      Derives env (writeSummaryAndState env st ending) fs ∧
      env.collect fs = .error (.escaped exception) := by
  have hreport : ∀ {fs : FileSystem} {f : RunReport → FileSystem} {exception : String},
      withReport env fs f = .error exception → env.collect fs = .error (.escaped exception) := by
    intro fs f exception hwith
    unfold withReport at hwith
    split at hwith
    · cases hwith
    · cases hwith
    · rename_i hcollect
      cases hwith
      exact hcollect
  unfold persistRunOutputs at h
  dsimp only at h
  split at h
  · rename_i exception hsuggestions
    cases h
    exact ⟨_, exception, rfl, .refl, hreport hsuggestions⟩
  · rename_i suggested hsuggested
    split at h
    · rename_i exception hrelease
      cases h
      exact ⟨suggested, exception, rfl, writeCodeSuggestionArtifacts_derives hsuggested,
        hreport hrelease⟩
    · cases h

/-- Seeding raises another exception only where the model of a saved role does not
resolve. -/
theorem seedRole_error {host : Host} {s : RunSettings} {cleanRole : String}
    {state artifacts : Json} {st : RunState} {role exception : String}
    (h : seedRole host s cleanRole state artifacts st role = .error (.escaped exception)) :
    ((artifacts.get? role).bind asString).isSome ∧ ¬ ∃ model, s.roleModel role = .ok model := by
  unfold seedRole at h
  cases hpath : resumedArtifact host s cleanRole artifacts role with
  | error error =>
      rw [hpath] at h
      cases h
      unfold resumedArtifact at hpath
      dsimp only at hpath
      split at hpath
      · cases hpath
      · split at hpath
        · cases hpath
        · unfold ensureArtifactWithinDir at hpath
          dsimp only at hpath
          split at hpath <;> cases hpath
  | ok path =>
      obtain ⟨ref, href, -⟩ := resumedArtifact_ok_iff.mp hpath
      rw [hpath] at h
      refine ⟨by rw [href]; rfl, ?_⟩
      rintro ⟨model, hmodel⟩
      simp only [bind, Except.bind] at h
      split at h
      · cases h
      · simp [resumedModel, hmodel, pure, Except.pure] at h

theorem seedRoles_error {host : Host} {s : RunSettings} {cleanRole : String}
    {state artifacts : Json} {roles : List String} {st : RunState} {exception : String}
    (h : roles.foldlM (seedRole host s cleanRole state artifacts) st =
      .error (.escaped exception)) :
    ∃ role ∈ roles, ((artifacts.get? role).bind asString).isSome ∧
      ¬ ∃ model, s.roleModel role = .ok model := by
  induction roles generalizing st with
  | nil => cases h
  | cons role rest ih =>
      rw [List.foldlM_cons] at h
      cases hseed : seedRole host s cleanRole state artifacts st role with
      | error error =>
          rw [hseed] at h
          cases h
          exact ⟨role, List.mem_cons_self, seedRole_error hseed⟩
      | ok st' =>
          rw [hseed] at h
          obtain ⟨role', hmem, hrole'⟩ := ih h
          exact ⟨role', List.mem_cons_of_mem role hmem, hrole'⟩

/-- Every saved role before the start role has a model. -/
def ModelsResolve (host : Host) (s : RunSettings) (request : RunRequest) (fs : FileSystem) :
    Prop :=
  ∀ startRole, request.givenStartRole = some startRole → strip startRole ∈ s.roleOrder →
    ∀ role ∈ s.roleOrder.take (s.roleOrder.idxOf (strip startRole)),
      (savedArtifact host.py fs (host.locate s.artifactsDir) role).isSome →
        ∃ model, s.roleModel role = .ok model

theorem loadSavedState_error {host : Host} {s : RunSettings} {cleanRole : String}
    {fs : FileSystem} {error : RunError} (h : loadSavedState host s cleanRole fs = .error error) :
    ∃ message, error = .pipeline message := by
  unfold loadSavedState at h
  dsimp only at h
  split at h
  · cases h
    exact ⟨_, rfl⟩
  · split at h
    · cases h
      exact ⟨_, rfl⟩
    · split at h
      · cases h
        exact ⟨_, rfl⟩
      · split at h
        · cases h
        · cases h
          exact ⟨_, rfl⟩

theorem loadResumeState_error {host : Host} {s : RunSettings} {request : RunRequest}
    {fs : FileSystem} (hmodels : ModelsResolve host s request fs) {exception : String} :
    loadResumeState host s request fs ≠ .error (.escaped exception) := by
  intro h
  unfold loadResumeState at h
  cases hgiven : request.givenStartRole with
  | none =>
      rw [hgiven] at h
      cases h
  | some startRole =>
      rw [hgiven] at h
      dsimp only at h
      split at h
      · cases h
      · rename_i hmem
        split at h
        · cases h
        · cases hsaved : loadSavedState host s (strip startRole) fs with
          | error error =>
              rw [hsaved] at h
              obtain ⟨message, rfl⟩ := loadSavedState_error hsaved
              cases h
          | ok saved =>
              obtain ⟨state, artifacts⟩ := saved
              rw [hsaved] at h
              simp only [bind, Except.bind] at h
              split at h
              · rename_i error hseeds
                cases h
                obtain ⟨role, hrole, hlisted, hmodel⟩ := seedRoles_error hseeds
                refine hmodel (hmodels startRole hgiven (not_not.mp hmem) role hrole ?_)
                obtain ⟨-, -, -, -, hartifacts, -⟩ := loadSavedState_ok_iff.mp hsaved
                rw [savedArtifact, loadSavedState_field hsaved, hartifacts]
                exact hlisted
              · cases h

/-! ## Reporting -/

/-- What a call needs for its reports: their evidence basis is not null, its role
names are neither blank nor padded, and neither a saved role's model nor the run
picked for comparison stands in the way. -/
structure FoundedCall (host : Host) (s : RunSettings) (request : RunRequest) (fs : FileSystem) :
    Prop where
  absolute : isAbs s.artifactsDir = true
  enforced : s.enforceJson = true
  founded : ∀ adapter, request.adapter = .ok adapter → FoundedReports host.py s adapter
  named : ∀ role ∈ s.roleOrder, strip role = role ∧ role ≠ ""
  models : ModelsResolve host s request fs
  neighbour : ∀ run ∈ request.previousRunDir, ∀ fs', Changes host s fs fs' →
    ∃ report, collectRun (host.reader fs') run = .ok report

/-- Roles that the collector lists under their own name. -/
def ListedRole (role : String) (_location : Location) : Prop := strip role = role ∧ role ≠ ""

theorem FoundedCall.legibleCall {host : Host} {s : RunSettings} {request : RunRequest}
    {fs : FileSystem} (h : FoundedCall host s request fs) : LegibleCall ListedRole host s request where
  rereads := rereads_of_isAbs host h.absolute
  founded := h.founded
  placed next hnext := h.named next.1 (List.fst_mem_of_mem_zipIdx hnext)

/-- A call returns or raises `PipelineError`, and what it saved can be collected
with an entry for every role it executed. -/
structure RunsReported (host : Host) (s : RunSettings) (request : RunRequest) (fs : FileSystem) :
    Prop where
  raised : ∀ exception, (runPipeline host s request fs).2 ≠ .error (.escaped exception)
  reported : ((runPipeline host s request fs).1
      (host.locate s.artifactsDir ++ [stateName.toList])).isSome →
    ∀ previous : Option String,
      (∀ run ∈ previous, ∃ report,
        collectRun (host.reader (runPipeline host s request fs).1) run = .ok report) →
      ∃ report, collectRunReport (host.reader (runPipeline host s request fs).1) previous
          s.artifactsDir = .ok report ∧
        ∀ p ∈ runWritten host s request fs, ∃ entry ∈ report.roles, entry.role = p.1

section
variable {host : Host} {s : RunSettings} {request : RunRequest} {history : History}
  {env : RunEnv} {resume : Resume} {ds : List Done} {ending : Ending}

/-- At every stage of persisting the run can be collected. -/
theorem Persists.collectRun {fs : FileSystem}
    (hrun : Persists host s request history.fs env resume ds ending)
    (h : Legible ListedRole (host.locate s.artifactsDir) history)
    (hcall : FoundedCall host s request history.fs)
    (hderives : Derives env
      (writeSummaryAndState env (ds.foldl (keepDone env) resume.state) ending) fs) :
    Changes host s history.fs fs ∧
      ∃ report, Ese.collectRun (host.reader fs) s.artifactsDir = .ok report ∧
        ∀ p ∈ runWritten host s request history.fs, ∃ entry ∈ report.roles, entry.role = p.1 := by
  obtain ⟨hchanges, hlegible⟩ := hrun.legibleState h hcall.legibleCall
  obtain ⟨adapter, -, hresume, henv⟩ := startRun_ok_iff.mp hrun.start
  have hhost : env.host = host := by rw [henv]
  have hsettings : env.settings = s := by rw [henv]
  clear henv
  subst hhost hsettings
  have hkept : Changes env.host env.settings (ds.foldl (keepDone env) resume.state).fs fs :=
    (changes_writeSummaryAndState env _ ending).trans hderives.changes
  have hfile : fs (env.host.locate env.settings.artifactsDir ++ [stateName.toList]) =
      some (.json (stateJson env (ds.foldl (keepDone env) resume.state) ending)) := by
    rw [hderives.of_getLast?_ne]
    · rw [writeSummaryAndState, @RunEnv.fileNamed_reserved env stateName (by simp [reservedNames])]
      exact FileSystem.write_self _ _ _
    · rw [List.getLast?_concat]
      simp [stateName, suggestionsMarkdownName, suggestionsJsonName, releaseName]
  obtain ⟨report, hreport, hroles⟩ := (hlegible.changes hkept).collectRun hfile
  refine ⟨hchanges.trans hkept, report, hreport, fun p hp => ?_⟩
  obtain ⟨seeds, hseeds, hstate, -⟩ := loadResumeState_ok hresume
  obtain ⟨-, -, hwritten₀, -⟩ :=
    foldl_keepSeed env.host.py { fs := withSnapshot env.host env.settings history.fs } seeds
  obtain ⟨-, hartifacts, -, -, -, hwritten⟩ := foldl_keepDone env resume.state ds
  rw [hrun.written, hwritten, hstate, hwritten₀, List.nil_append] at hp
  obtain ⟨d, hd, rfl⟩ := List.mem_map.mp hp
  have hnodup := (List.nodup_append.mp (nodup_seeds_append hseeds hrun.performed.1)).2.1
  have hget : (ds.foldl (keepDone env) resume.state).artifacts.get? d.next.1 =
      some (d.path env) := by
    rw [hartifacts]
    refine Dict.get?_update_of_mem _ (by simpa [Function.comp_def] using hnodup) ?_
    exact List.mem_map.mpr ⟨d, hd, rfl⟩
  obtain ⟨-, -, hstripped, hnonempty⟩ := hlegible.artifacts _ _ hget
  exact hroles d.next.1 (by rw [hget]; rfl) hstripped hnonempty

/-- A call on a legible directory reports. -/
theorem Legible.runsReported (h : Legible ListedRole (host.locate s.artifactsDir) history)
    (hcall : FoundedCall host s request history.fs) : RunsReported host s request history.fs := by
  rcases runPipeline_cases host s request history.fs with
    ⟨halt, hstart, hrun, hwritten⟩ | ⟨env, resume, ds, ending, hrun⟩
  · obtain ⟨hfs, hnone, herror⟩ := startRun_error hstart
    constructor
    · intro exception hescaped
      rw [hrun, Except.error.injEq] at hescaped
      rcases herror with ⟨message, hmessage⟩ | hload
      · rw [hmessage] at hescaped
        cases hescaped
      · rw [hescaped] at hload
        refine loadResumeState_error ?_ hload
        intro startRole hgiven hmem role hrole hsaved
        rw [savedArtifact_withSnapshot] at hsaved
        exact hcall.models startRole hgiven hmem role hrole hsaved
    · intro hstate previous hprevious
      rw [hrun, hfs] at hstate hprevious ⊢
      rw [hwritten, hnone]
      have hkept : withSnapshot host s history.fs (host.locate s.artifactsDir ++
          [stateName.toList]) = history.fs (host.locate s.artifactsDir ++ [stateName.toList]) :=
        withSnapshot_of_ne _ (stateLocation_ne_snapshot host s)
      replace hstate : (withSnapshot host s history.fs (host.locate s.artifactsDir ++
          [stateName.toList])).isSome := hstate
      rw [hkept] at hstate
      rcases h with hmissing | ⟨env, st, ending, hfile, hlegible⟩
      · simp [hmissing] at hstate
      · obtain ⟨report, hreport, -⟩ :=
          (hlegible.changes (changes_withSnapshot host s history.fs)).collectRun
            (hkept.trans hfile)
        exact ⟨report, collectRunReport_ok hreport hprevious, fun p hp => absurd hp List.not_mem_nil⟩
  · constructor
    · intro exception hescaped
      rcases hrun.outcome with ⟨message, hmessage⟩ | hpersisted
      · rw [hmessage] at hescaped
        cases hescaped
      · rw [hpersisted] at hescaped
        obtain ⟨fs, raised, -, hderives, hcollect⟩ := persistRunOutputs_error hescaped
        obtain ⟨hchanges, report, hreport, -⟩ := hrun.collectRun h hcall hderives
        obtain ⟨adapter, -, -, henv⟩ := startRun_ok_iff.mp hrun.start
        have hok := collectRunReport_ok hreport fun run hpicked =>
          hcall.neighbour run hpicked fs hchanges
        rw [RunEnv.collect, henv] at hcollect
        rw [hok] at hcollect
        cases hcollect
    · intro _ previous hprevious
      obtain ⟨adapter, -, -, henv⟩ := startRun_ok_iff.mp hrun.start
      have hderives := persistRunOutputs_derives env
        (ds.foldl (keepDone env) resume.state) ending
      rw [← hrun.disk] at hderives
      obtain ⟨-, report, hreport, hroles⟩ := hrun.collectRun h hcall hderives
      exact ⟨report, collectRunReport_ok hreport hprevious, hroles⟩

end

theorem sample_foundedCall :
    FoundedCall sampleHost sampleSettings (sampleRequest none "fine") fun _ => none where
  absolute := by decide
  enforced := rfl
  founded := by
    intro adapter hadapter
    cases hadapter
    exact sample_founded sampleSettings
  named := by decide
  models := by
    intro startRole hgiven
    cases hgiven
  neighbour := by
    intro run hrun
    cases hrun

end TruePresenceESE.Ese
