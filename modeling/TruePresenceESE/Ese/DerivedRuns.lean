import TruePresenceESE.Ese.ArtifactConfinement
import TruePresenceESE.Ese.GateSoundness

/-! # Derived files and the latest state

Code suggestions and the release simulation are written when the new report has
something to say. A report without suggestions, or without a release role,
leaves the files of an earlier run next to the new state.
-/

namespace TruePresenceESE.Ese

open PosixPath PyText PyValue

/-! ## Derived files -/

def suggestionNames : List String := [suggestionsMarkdownName, suggestionsJsonName]

def derivedNames : List String := suggestionNames ++ [releaseName]

def derivedLocations (directory : Location) : List Location :=
  derivedNames.map fun name => directory ++ [name.toList]

/-- What the file of that name says of a report. -/
def derivedContent (py : Interpreter) (report : RunReport) (name : String) : FileContent :=
  let suggestions := codeSuggestions py report.roles
  if name = suggestionsMarkdownName then .text (renderCodeSuggestionsMarkdown report suggestions)
  else if name = suggestionsJsonName then .json (renderCodeSuggestionsJson report suggestions)
  else .json (buildReleaseSimulation py report)

/-- Every derived file there is says what the report of the saved state says. -/
def DerivedCurrent (host : Host) (artifactsDir : String) (fs : FileSystem) : Prop :=
  ∀ name ∈ derivedNames, ∀ content, fs (fileIn host.workingDir artifactsDir name) = some content →
    ∃ report, collectRun (host.reader fs) artifactsDir = .ok report ∧
      content = derivedContent host.py report name

theorem mem_reservedNames_of_derived {name : String} (h : name ∈ derivedNames) :
    name ∈ reservedNames := by
  simp only [derivedNames, suggestionNames, List.cons_append, List.nil_append, List.mem_cons,
    List.not_mem_nil, or_false] at h
  rcases h with rfl | rfl | rfl <;> simp [reservedNames]

theorem not_derived_of_reserved :
    summaryName ∉ derivedNames ∧ stateName ∉ derivedNames ∧ configSnapshotName ∉ derivedNames := by
  simp [derivedNames, suggestionNames, summaryName, stateName, configSnapshotName,
    suggestionsMarkdownName, suggestionsJsonName, releaseName]

theorem fileIn_notMem_derivedLocations {name : String} (h : name ∉ derivedNames)
    (workingDir : Location) (directory : String) :
    fileIn workingDir directory name ∉ derivedLocations (resolve workingDir directory) := by
  intro hmem
  obtain ⟨derived, hderived, heq⟩ := List.mem_map.mp hmem
  have hne : derived ≠ name := by
    rintro rfl
    exact h hderived
  have hfiles : fileIn workingDir directory derived = fileIn workingDir directory name := heq
  exact fileIn_ne hne hfiles

theorem fileIn_mem_derivedLocations {name : String} (h : name ∈ derivedNames)
    (workingDir : Location) (directory : String) :
    fileIn workingDir directory name ∈ derivedLocations (resolve workingDir directory) :=
  List.mem_map_of_mem h

theorem Derives.of_notMem {env : RunEnv} {fs fs' : FileSystem} (h : Derives env fs fs')
    {location : Location}
    (hlocation : location ∉ derivedLocations (env.host.locate env.settings.artifactsDir)) :
    fs' location = fs location := by
  induction h with
  | refl => rfl
  | @write fs' name content _ hfile ih =>
      have hname : name ∈ derivedNames := by
        cases hfile <;> simp [derivedNames, suggestionNames]
      have hother : location ≠ env.fileNamed name := by
        rw [env.fileNamed_reserved hfile.reserved]
        rintro rfl
        exact hlocation (fileIn_mem_derivedLocations hname _ _)
      rw [FileSystem.write_of_ne _ hother, ih]

/-! ## What persisting does to them -/

section
variable (env : RunEnv) (saved : FileSystem)

/-- The new report has suggestions. -/
def Suggests : Prop :=
  ∃ report, env.collect saved = .ok report ∧ codeSuggestions env.host.py report.roles ≠ []

/-- The new report, collected once more, has a release role. -/
def Simulates : Prop :=
  ∃ suggested report, writeCodeSuggestionArtifacts env saved = .ok suggested ∧
    env.collect suggested = .ok report ∧ releaseEnabled report = true

end

section
variable {env : RunEnv} {saved : FileSystem}

theorem withReport_of_ok {f : RunReport → FileSystem} {report : RunReport}
    (h : env.collect saved = .ok report) : withReport env saved f = .ok (f report) := by
  rw [withReport, h]

/-- The suggestions of the new report are written, or the files stay as they are. -/
theorem writeCodeSuggestionArtifacts_at {suggested : FileSystem}
    (h : writeCodeSuggestionArtifacts env saved = .ok suggested) {name : String}
    (hname : name ∈ suggestionNames) :
    (∃ report, env.collect saved = .ok report ∧
      suggested (env.fileNamed name) = some (derivedContent env.host.py report name)) ∨
    ¬ Suggests env saved ∧ suggested = saved := by
  have hnames : suggestionsMarkdownName ≠ suggestionsJsonName := by
    decide
  unfold writeCodeSuggestionArtifacts withReport at h
  cases hcollect : env.collect saved with
  | error error =>
      refine .inr ⟨?_, ?_⟩
      · rintro ⟨report, hreport, -⟩
        rw [hcollect] at hreport
        cases hreport
      · rw [hcollect] at h
        cases error with
        | runReport message =>
            cases h
            rfl
        | escaped exception => cases h
  | ok report =>
      rw [hcollect] at h
      dsimp only at h
      rw [Except.ok.injEq] at h
      split at h
      · rename_i hempty
        refine .inr ⟨?_, h.symm⟩
        rintro ⟨report', hreport, hsuggestions⟩
        rw [hcollect, Except.ok.injEq] at hreport
        exact hsuggestions (hreport ▸ List.isEmpty_iff.mp hempty)
      · refine .inl ⟨report, rfl, ?_⟩
        rw [← h]
        simp only [suggestionNames, List.mem_cons, List.not_mem_nil, or_false] at hname
        rcases hname with rfl | rfl
        · rw [FileSystem.write_of_ne, FileSystem.write_self, derivedContent, if_pos rfl]
          rw [env.fileNamed_reserved (by simp [reservedNames]),
            env.fileNamed_reserved (by simp [reservedNames])]
          exact fileIn_ne hnames
        · rw [FileSystem.write_self, derivedContent, if_neg hnames.symm, if_pos rfl]

/-- The simulation of the report is written, or the file stays as it is. -/
theorem writeReleaseSimulationArtifact_at {suggested released : FileSystem}
    (h : writeReleaseSimulationArtifact env suggested = .ok released) :
    (∃ report, env.collect suggested = .ok report ∧ releaseEnabled report = true ∧
      released = suggested.write (env.fileNamed releaseName)
        (derivedContent env.host.py report releaseName)) ∨
    (∀ report, env.collect suggested = .ok report → releaseEnabled report = false) ∧
      released = suggested := by
  unfold writeReleaseSimulationArtifact withReport at h
  cases hcollect : env.collect suggested with
  | error error =>
      rw [hcollect] at h
      cases error with
      | runReport message =>
          cases h
          exact .inr ⟨nofun, rfl⟩
      | escaped exception => cases h
  | ok report =>
      rw [hcollect] at h
      dsimp only at h
      rw [Except.ok.injEq] at h
      split at h
      · rename_i henabled
        exact .inl ⟨report, rfl, henabled, h.symm⟩
      · rename_i hdisabled
        refine .inr ⟨fun report' hreport => ?_, h.symm⟩
        rw [Except.ok.injEq] at hreport
        rw [← hreport, ← Bool.not_eq_true]
        exact hdisabled

theorem fileNamed_suggestion_ne_release {name : String} (h : name ∈ suggestionNames) :
    env.fileNamed name ≠ env.fileNamed releaseName := by
  have hreserved : name ∈ reservedNames :=
    mem_reservedNames_of_derived (List.mem_append_left _ h)
  rw [env.fileNamed_reserved hreserved, env.fileNamed_reserved (by simp [reservedNames])]
  refine fileIn_ne ?_
  rintro rfl
  revert h
  decide

theorem writeCodeSuggestionArtifacts_release {suggested : FileSystem}
    (h : writeCodeSuggestionArtifacts env saved = .ok suggested) :
    suggested (env.fileNamed releaseName) = saved (env.fileNamed releaseName) := by
  unfold writeCodeSuggestionArtifacts withReport at h
  split at h
  · dsimp only at h
    rw [Except.ok.injEq] at h
    split at h
    · rw [h]
    · rw [← h, FileSystem.write_of_ne, FileSystem.write_of_ne]
      · exact (fileNamed_suggestion_ne_release (by decide)).symm
      · exact (fileNamed_suggestion_ne_release (by decide)).symm
  · rw [Except.ok.injEq] at h
    rw [h]
  · cases h

end

/-- After persisting, a suggestions file is that of the new report or as before. -/
theorem persistRunOutputs_suggestions (env : RunEnv) (st : RunState) (ending : Ending)
    {name : String} (hname : name ∈ suggestionNames) :
    let saved := writeSummaryAndState env st ending
    (∃ report, env.collect saved = .ok report ∧
      (persistRunOutputs env st ending).1 (env.fileNamed name) =
        some (derivedContent env.host.py report name)) ∨
    ¬ Suggests env saved ∧
      (persistRunOutputs env st ending).1 (env.fileNamed name) = saved (env.fileNamed name) := by
  intro saved
  have hne := @fileNamed_suggestion_ne_release env name hname
  unfold persistRunOutputs
  dsimp only
  cases hsuggested : writeCodeSuggestionArtifacts env saved with
  | error exception =>
      refine .inr ⟨?_, rfl⟩
      rintro ⟨report, hreport, -⟩
      rw [writeCodeSuggestionArtifacts, withReport_of_ok hreport] at hsuggested
      cases hsuggested
  | ok suggested =>
      have hat := writeCodeSuggestionArtifacts_at hsuggested hname
      have hlast : ∀ released, writeReleaseSimulationArtifact env suggested = .ok released →
          released (env.fileNamed name) = suggested (env.fileNamed name) := by
        intro released hreleased
        rcases writeReleaseSimulationArtifact_at hreleased with ⟨report, -, -, rfl⟩ | ⟨-, rfl⟩
        · exact FileSystem.write_of_ne _ hne _
        · rfl
      dsimp only
      cases hreleased : writeReleaseSimulationArtifact env suggested with
      | error exception =>
          rcases hat with hnew | ⟨hnone, rfl⟩
          · exact .inl hnew
          · exact .inr ⟨hnone, rfl⟩
      | ok released =>
          dsimp only
          rw [hlast released hreleased]
          rcases hat with hnew | ⟨hnone, rfl⟩
          · exact .inl hnew
          · exact .inr ⟨hnone, rfl⟩

/-- After persisting, the release simulation is that of the new report or as before. -/
theorem persistRunOutputs_release (env : RunEnv) (st : RunState) (ending : Ending) :
    let saved := writeSummaryAndState env st ending
    (∃ suggested report, writeCodeSuggestionArtifacts env saved = .ok suggested ∧
      env.collect suggested = .ok report ∧
      (persistRunOutputs env st ending).1 (env.fileNamed releaseName) =
        some (derivedContent env.host.py report releaseName)) ∨
    ¬ Simulates env saved ∧
      (persistRunOutputs env st ending).1 (env.fileNamed releaseName) =
        saved (env.fileNamed releaseName) := by
  intro saved
  unfold persistRunOutputs
  dsimp only
  cases hsuggested : writeCodeSuggestionArtifacts env saved with
  | error exception =>
      refine .inr ⟨?_, rfl⟩
      rintro ⟨suggested, report, hok, -⟩
      rw [hsuggested] at hok
      cases hok
  | ok suggested =>
      have hkept := writeCodeSuggestionArtifacts_release hsuggested
      dsimp only
      cases hreleased : writeReleaseSimulationArtifact env suggested with
      | error exception =>
          refine .inr ⟨?_, hkept⟩
          rintro ⟨suggested', report, hok, hreport, -⟩
          rw [hsuggested, Except.ok.injEq] at hok
          subst hok
          rw [writeReleaseSimulationArtifact, withReport_of_ok hreport] at hreleased
          cases hreleased
      | ok released =>
          rcases writeReleaseSimulationArtifact_at hreleased with
            ⟨report, hreport, -, rfl⟩ | ⟨hdisabled, rfl⟩
          · exact .inl ⟨suggested, report, rfl, hreport, FileSystem.write_self _ _ _⟩
          · refine .inr ⟨?_, hkept⟩
            rintro ⟨suggested', report, hok, hreport, henabled⟩
            rw [hsuggested, Except.ok.injEq] at hok
            subst hok
            rw [hdisabled report hreport] at henabled
            cases henabled

/-! ## Collecting past the derived files -/

/-- A recorded path that leads to no derived file. -/
structure PlainRef (directory : Location) (ref : String) : Prop where
  absolute : isAbs ref = true
  stripped : strip ref = ref
  named : NamesArtifact ref
  apart : resolve [] ref ∉ derivedLocations directory

structure PlainState (directory : Location) (st : RunState) : Prop where
  artifacts : ∀ role ref, st.artifacts.get? role = some ref → PlainRef directory ref
  records : ∀ item ∈ st.execution, ∃ ref, item.get? "artifact" = some (.str ref) ∧
    PlainRef directory ref

def PlainSaved (directory : Location) (fs : FileSystem) : Prop :=
  fs (directory ++ [stateName.toList]) = none ∨ ∃ env st ending,
    fs (directory ++ [stateName.toList]) = some (.json (stateJson env st ending)) ∧
      PlainState directory st

/-- No recorded path leads to the config snapshot. -/
theorem PlainRef.ne_snapshot {directory : Location} {ref : String} (h : PlainRef directory ref) :
    resolve [] ref ≠ directory ++ [configSnapshotName.toList] := by
  intro heq
  obtain ⟨stem, extension, hextension, -, hlast⟩ := h.named.getLast?_resolve []
  rw [heq, List.getLast?_concat, Option.some.injEq] at hlast
  have hends := congrArg List.getLast? hlast
  simp only [List.mem_cons, List.not_mem_nil, or_false] at hextension
  rcases hextension with rfl | rfl <;> simp [configSnapshotName] at hends

section
variable (py : Interpreter) {here there directory : Location} {artifactsDir : String}
  {fs fs' : FileSystem} (hsame : ∀ location ∉ derivedLocations directory,
    location ≠ directory ++ [configSnapshotName.toList] → fs' location = fs location)

include hsame in
theorem roleEntry_congr {item : Json} {ref : String}
    (href : item.get? "artifact" = some (.str ref)) (hplain : PlainRef directory ref) :
    roleEntry ⟨py, fs', there⟩ artifactsDir item = roleEntry ⟨py, fs, here⟩ artifactsDir item := by
  have hartifact : textField py item "artifact" = ref := by
    rw [textField_str href, hplain.stripped]
  have hopen : Reader.open ⟨py, fs', there⟩ ref = Reader.open ⟨py, fs, here⟩ ref := by
    rw [Reader.open, Reader.open, resolve_of_isAbs hplain.absolute there [],
      resolve_of_isAbs hplain.absolute here []]
    exact hsame _ hplain.apart hplain.ne_snapshot
  have hreport : loadRoleReport ⟨py, fs', there⟩ ref = loadRoleReport ⟨py, fs, here⟩ ref := by
    rw [loadRoleReport, loadRoleReport, readJson, readJson, hopen]
  have htext : readText ⟨py, fs', there⟩ ref = readText ⟨py, fs, here⟩ ref := by
    rw [readText, readText, hopen]
  have hpath : reportArtifactPath artifactsDir ref = ref := if_pos hplain.absolute
  unfold roleEntry
  simp only [hartifact, hpath, hreport, htext]

include hsame in
/-- The report depends neither on the derived files nor on the snapshot. -/
theorem collectRun_congr {env : RunEnv} {st : RunState} {ending : Ending}
    (hne : artifactsDir ≠ "") (hhere : resolve here artifactsDir = directory)
    (hthere : resolve there artifactsDir = directory)
    (hfile : fs (directory ++ [stateName.toList]) = some (.json (stateJson env st ending)))
    (hplain : PlainState directory st) :
    collectRun ⟨py, fs', there⟩ artifactsDir = collectRun ⟨py, fs, here⟩ artifactsDir := by
  have hload : ∀ (disk : FileSystem) (from' : Location), resolve from' artifactsDir = directory →
      disk (directory ++ [stateName.toList]) = some (.json (stateJson env st ending)) →
        loadPipelineState ⟨py, disk, from'⟩ artifactsDir = .ok (stateJson env st ending) := by
    intro disk from' hfrom hdisk
    have hname : PlainName stateName := plainName_of_reserved (by simp [reservedNames])
    have hopen : Reader.open ⟨py, disk, from'⟩ (join artifactsDir stateName) =
        some (.json (stateJson env st ending)) := by
      rw [Reader.open, resolve_join hne (isAbs_plainName hname), hfrom, walk_plainName hname]
      exact hdisk
    rw [loadPipelineState, readJson, hopen]
    rfl
  have hstate : fs' (directory ++ [stateName.toList]) = fs (directory ++ [stateName.toList]) := by
    subst hhere
    have hother : fileIn here artifactsDir stateName ≠
        fileIn here artifactsDir configSnapshotName := fileIn_ne (by decide)
    exact hsame _ (fileIn_notMem_derivedLocations not_derived_of_reserved.2.1 here artifactsDir)
      hother
  have hitems : iterateField (stateJson env st ending) "execution" = .ok st.execution := by
    rw [iterateField, get?_stateJson_execution]
    rfl
  have hentries : (st.execution.filter isObject).mapM
        (roleEntry ⟨py, fs', there⟩ artifactsDir) =
      (st.execution.filter isObject).mapM (roleEntry ⟨py, fs, here⟩ artifactsDir) := by
    refine Fallible.mapM_congr fun item hitem => ?_
    obtain ⟨ref, href, hplainRef⟩ := hplain.records item (List.mem_of_mem_filter hitem)
    exact roleEntry_congr py hsame href hplainRef
  unfold collectRun
  rw [hload fs here hhere hfile, hload fs' there hthere (hstate.trans hfile)]
  simp only [bind, Except.bind, hitems, hentries]

end

/-- Derived files stay current where only the snapshot changes, and wherever the
directory is read from. -/
theorem DerivedCurrent.congr {host host' : Host} {artifactsDir : String} {fs fs' : FileSystem}
    {env : RunEnv} {st : RunState} {ending : Ending} (h : DerivedCurrent host artifactsDir fs)
    (hpy : host'.py = host.py) (habs : isAbs artifactsDir = true)
    (hfile : fs (resolve [] artifactsDir ++ [stateName.toList]) =
      some (.json (stateJson env st ending)))
    (hplain : PlainState (resolve [] artifactsDir) st)
    (hsame : ∀ location ≠ resolve [] artifactsDir ++ [configSnapshotName.toList],
      fs' location = fs location) :
    DerivedCurrent host' artifactsDir fs' := by
  have hne : artifactsDir ≠ "" := by
    rintro rfl
    exact absurd habs (by decide)
  intro name hname content hcontent
  have hfiles : fileIn host'.workingDir artifactsDir name =
      fileIn host.workingDir artifactsDir name := by
    rw [fileIn, fileIn, resolve_of_isAbs habs host'.workingDir host.workingDir]
  have hother : name ≠ configSnapshotName := by
    rintro rfl
    exact not_derived_of_reserved.2.2 hname
  have hlocation : fileIn host.workingDir artifactsDir name ≠
      fileIn [] artifactsDir configSnapshotName := fileIn_ne hother
  rw [hfiles, hsame _ hlocation] at hcontent
  obtain ⟨report, hreport, hderived⟩ := h name hname content hcontent
  refine ⟨report, ?_, hpy ▸ hderived⟩
  rw [Host.reader, hpy, collectRun_congr host.py (fun location _ hother => hsame location hother) hne
    (resolve_of_isAbs habs host.workingDir []) (resolve_of_isAbs habs _ []) hfile hplain]
  exact hreport

theorem collectRun_of_collect {env : RunEnv} {disk : FileSystem} {report : RunReport}
    (h : env.collect disk = .ok report) :
    collectRun (env.host.reader disk) env.settings.artifactsDir = .ok report := by
  obtain ⟨report', hrun, h⟩ := Fallible.bind_eq_ok_iff.mp h
  split at h
  · cases h
    exact hrun
  · obtain ⟨previous, -, h⟩ := Fallible.bind_eq_ok_iff.mp h
    cases h
    exact hrun

/-! ## Calls -/

/-- What keeps derived files current: no role writes to one, and a call that finds
some gives a report that replaces them. -/
structure Refreshing (host : Host) (s : RunSettings) (request : RunRequest) (fs : FileSystem) :
    Prop where
  plain : ∀ next ∈ s.roleOrder.zipIdx 1,
    artifactLocation host s next ∉ derivedLocations (host.locate s.artifactsDir)
  suggestions : ∀ env resume ds ending, Persists host s request fs env resume ds ending →
    (∀ name ∈ suggestionNames, fs (fileIn host.workingDir s.artifactsDir name) = none) ∨
      Suggests env (writeSummaryAndState env (ds.foldl (keepDone env) resume.state) ending)
  release : ∀ env resume ds ending, Persists host s request fs env resume ds ending →
    fs (fileIn host.workingDir s.artifactsDir releaseName) = none ∨
      Simulates env (writeSummaryAndState env (ds.foldl (keepDone env) resume.state) ending)

section
variable {host : Host} {s : RunSettings} {request : RunRequest} {fs : FileSystem}

theorem PlainSaved.withSnapshot (h : PlainSaved (host.locate s.artifactsDir) fs) :
    PlainSaved (host.locate s.artifactsDir) (withSnapshot host s fs) := by
  have hstate : Ese.withSnapshot host s fs (host.locate s.artifactsDir ++ [stateName.toList]) =
      fs (host.locate s.artifactsDir ++ [stateName.toList]) :=
    withSnapshot_of_ne fs (stateLocation_ne_snapshot host s)
  unfold PlainSaved
  rw [hstate]
  exact h

theorem PlainRef.render {directory : Location} {ref : String} (h : PlainRef directory ref)
    (hnames : ∀ segment ∈ resolve [] ref, IsName segment) :
    PlainRef directory (PosixPath.render (resolve [] ref)) := by
  have hnamed := h.named.render hnames
  refine ⟨isAbs_render _, strip_render hnamed, hnamed, ?_⟩
  rw [resolve_render hnames]
  exact h.apart

theorem PlainSaved.seed {cleanRole : String} {state artifacts : Json} {seed : Seed}
    (h : PlainSaved (host.locate s.artifactsDir) fs)
    (hsaved : loadSavedState host s cleanRole fs = .ok (state, artifacts))
    (hseed : IsSeed host s state artifacts fs seed) :
    PlainRef (host.locate s.artifactsDir) seed.path := by
  obtain ⟨ref, href, hpath, -, -⟩ := hseed.saved hsaved
  rcases h with hnone | ⟨env, st, ending, hfile, hplain⟩
  · simp [savedArtifact, savedField, hnone] at href
  · rw [savedArtifact_stateJson hfile] at href
    have href := hplain.artifacts _ _ href
    have hresolve : host.savedLocation s ref = resolve [] ref := by
      rw [host.savedLocation_eq]
      exact resolve_of_isAbs href.absolute _ _
    rw [hpath, hresolve]
    exact href.render (isName_of_mem_resolve (by simp) ref)

/-- The path of a performed role leads where its artifact was written. -/
theorem plainRef_artifact (habs : isAbs s.artifactsDir = true) {next : Pending}
    (h : artifactLocation host s next ∉ derivedLocations (host.locate s.artifactsDir)) :
    PlainRef (host.locate s.artifactsDir)
      (join s.artifactsDir (artifactName next.2 next.1 s.extension)) := by
  have hnamed : NamesArtifact (join s.artifactsDir (artifactName next.2 next.1 s.extension)) :=
    namesArtifact_join s.artifactsDir_ne_empty _ _ s.extension_mem
  have hpath : isAbs (join s.artifactsDir (artifactName next.2 next.1 s.extension)) = true := by
    rw [isAbs_join s.artifactsDir_ne_empty (isAbs_artifactName _ _ _), habs]
  refine ⟨hpath, strip_artifactPath s (isAbs_artifactName _ _ _) hnamed, hnamed, ?_⟩
  rw [resolve_of_isAbs hpath [] host.workingDir]
  exact h

/-- What a call saves lists no derived file. -/
theorem Persists.plainState {env : RunEnv} {resume : Resume} {ds : List Done} {ending : Ending}
    (habs : isAbs s.artifactsDir = true) (h : PlainSaved (host.locate s.artifactsDir) fs)
    (hplain : ∀ next ∈ s.roleOrder.zipIdx 1,
      artifactLocation host s next ∉ derivedLocations (host.locate s.artifactsDir))
    (hrun : Persists host s request fs env resume ds ending) :
    PlainState (host.locate s.artifactsDir) (ds.foldl (keepDone env) resume.state) := by
  obtain ⟨adapter, -, hresume, rfl⟩ := startRun_ok_iff.mp hrun.start
  obtain ⟨seeds, hroles, hstate, hseeds⟩ := loadResumeState_ok hresume
  have hseed : ∀ seed ∈ seeds, PlainRef (host.locate s.artifactsDir) seed.path := by
    intro seed hmem
    obtain ⟨startRole, state, artifacts, -, -, -, hsaved, hall⟩ := hseeds (List.ne_nil_of_mem hmem)
    exact h.withSnapshot.seed hsaved (hall seed hmem)
  have hseeded : PlainState (host.locate s.artifactsDir) resume.state := by
    rw [hstate]
    refine List.foldlRecOn (motive := fun st : RunState =>
      PlainState (host.locate s.artifactsDir) st) seeds (keepSeed host.py) ⟨?_, by simp⟩
      fun st hst seed hmem => ⟨forall_get?_set hst.artifacts (hseed seed hmem), ?_⟩
    · intro role ref hget
      cases hget
    · intro item hitem
      rcases List.mem_append.mp hitem with hold | hnew
      · exact hst.records item hold
      · rw [List.mem_singleton.mp hnew]
        exact ⟨seed.path, (get?_seededRecord _ _ _ _).2, hseed seed hmem⟩
  refine List.foldlRecOn (motive := fun st : RunState =>
    PlainState (host.locate s.artifactsDir) st) ds (keepDone _) hseeded fun st hst d hd => ?_
  obtain ⟨hnext, outputs, hperform⟩ := mem_zipIdx_of_performed hrun.performed hd
  have href := plainRef_artifact habs (hplain d.next hnext)
  rw [← d.path_eq rfl hperform] at href
  refine ⟨?_, ?_⟩
  · rw [keepDone_artifacts]
    exact forall_get?_set hst.artifacts href
  · intro item hitem
    rw [keepDone_execution] at hitem
    rcases List.mem_append.mp hitem with hold | hnew
    · exact hst.records item hold
    · rw [List.mem_singleton.mp hnew]
      exact ⟨_, (get?_executionRecord _ _ _ _ _).2, href⟩

/-- Up to its derived files a call leaves derived files alone. -/
theorem Persists.saved_derived {env : RunEnv} {resume : Resume} {ds : List Done} {ending : Ending}
    (hplain : ∀ next ∈ s.roleOrder.zipIdx 1,
      artifactLocation host s next ∉ derivedLocations (host.locate s.artifactsDir))
    (hrun : Persists host s request fs env resume ds ending) {location : Location}
    (hlocation : location ∈ derivedLocations (host.locate s.artifactsDir)) :
    writeSummaryAndState env (ds.foldl (keepDone env) resume.state) ending location =
      fs location := by
  obtain ⟨adapter, -, hresume, rfl⟩ := startRun_ok_iff.mp hrun.start
  obtain ⟨seeds, -, hstate, -⟩ := loadResumeState_ok hresume
  obtain ⟨hfs, -⟩ := foldl_keepSeed host.py { fs := withSnapshot host s fs } seeds
  have hother : ∀ {name : String}, name ∉ derivedNames →
      location ≠ fileIn host.workingDir s.artifactsDir name := by
    rintro name hname rfl
    exact fileIn_notMem_derivedLocations hname _ _ hlocation
  have hroles : (ds.foldl (keepDone ⟨host, s, request, adapter,
      promptInputs host s (withSnapshot host s fs), resume.parentRunId⟩) resume.state).fs location =
        resume.state.fs location := by
    refine List.foldlRecOn (motive := fun st : RunState => st.fs location =
      resume.state.fs location) ds (keepDone _) rfl fun st hst d hd => ?_
    obtain ⟨hnext, outputs, hperform⟩ := mem_zipIdx_of_performed hrun.performed hd
    rw [keepDone_fs, FileSystem.write_of_ne, hst]
    rintro rfl
    rw [d.location_eq rfl hperform] at hlocation
    exact hplain d.next hnext hlocation
  obtain ⟨hsummary, hsaved, hsnapshot⟩ := not_derived_of_reserved
  rw [writeSummaryAndState, RunEnv.fileNamed_reserved _ (by simp [reservedNames]),
    RunEnv.fileNamed_reserved _ (by simp [reservedNames]),
    FileSystem.write_of_ne _ (hother hsaved), FileSystem.write_of_ne _ (hother hsummary), hroles,
    hstate, hfs]
  exact withSnapshot_of_ne fs (hother hsnapshot)

/-- A call that refreshes leaves every derived file current. -/
theorem Refreshing.derivedCurrent {env : RunEnv} {resume : Resume} {ds : List Done}
    {ending : Ending} (habs : isAbs s.artifactsDir = true)
    (h : PlainSaved (host.locate s.artifactsDir) fs) (hcall : Refreshing host s request fs)
    (hrun : Persists host s request fs env resume ds ending) :
    DerivedCurrent host s.artifactsDir (runPipeline host s request fs).1 := by
  have hstate := hrun.plainState habs h hcall.plain
  have hkept := fun location => @Persists.saved_derived host s request fs env resume ds ending
    hcall.plain hrun location
  have hsuggestions := hcall.suggestions env resume ds ending hrun
  have hrelease := hcall.release env resume ds ending hrun
  have hderives := persistRunOutputs_derives env (ds.foldl (keepDone env) resume.state) ending
  have hnames := fun name hname => @persistRunOutputs_suggestions env
    (ds.foldl (keepDone env) resume.state) ending name hname
  have hsimulation := persistRunOutputs_release env (ds.foldl (keepDone env) resume.state) ending
  obtain ⟨adapter, -, -, henv⟩ := startRun_ok_iff.mp hrun.start
  have hhost : env.host = host := by rw [henv]
  have hsettings : env.settings = s := by rw [henv]
  rw [hrun.disk]
  clear henv
  subst hhost hsettings
  generalize hst : ds.foldl (keepDone env) resume.state = st at *
  have hfile : writeSummaryAndState env st ending
      (fileIn env.host.workingDir env.settings.artifactsDir stateName) =
        some (.json (stateJson env st ending)) := by
    rw [writeSummaryAndState, @RunEnv.fileNamed_reserved env stateName (by simp [reservedNames])]
    exact FileSystem.write_self _ _ _
  -- every disk that derives from the saved one gives the report of the final disk
  have hreport : ∀ {disk : FileSystem} {report : RunReport},
      Derives env (writeSummaryAndState env st ending) disk → env.collect disk = .ok report →
        collectRun (env.host.reader (persistRunOutputs env st ending).1)
          env.settings.artifactsDir = .ok report := by
    intro disk report hdisk hcollect
    have hrun := collectRun_of_collect hcollect
    have hdir := env.settings.artifactsDir_ne_empty
    have hfirst := collectRun_congr env.host.py
      (fun location hlocation _ => hdisk.of_notMem hlocation) hdir rfl rfl hfile hstate
    have hlast := collectRun_congr env.host.py
      (fun location hlocation _ => hderives.of_notMem hlocation) hdir rfl rfl hfile hstate
    exact hlast.trans (hfirst.symm.trans hrun)
  have hmem : ∀ name ∈ derivedNames, fileIn env.host.workingDir env.settings.artifactsDir name ∈
      derivedLocations (env.host.locate env.settings.artifactsDir) :=
    fun name hname => fileIn_mem_derivedLocations hname _ _
  intro name hname content hcontent
  have hlocation := env.fileNamed_reserved (mem_reservedNames_of_derived hname)
  rcases List.mem_append.mp hname with hsuggestion | hname'
  · rcases hnames name hsuggestion with ⟨report, hcollect, hnew⟩ | ⟨hnone, hold⟩
    · rw [hlocation, hcontent, Option.some.injEq] at hnew
      exact ⟨report, hreport .refl hcollect, hnew⟩
    · rcases hsuggestions with habsent | hsuggests
      · rw [hlocation, hkept _ (hmem name hname), habsent name hsuggestion, hcontent] at hold
        cases hold
      · exact absurd hsuggests hnone
  · obtain rfl := List.mem_singleton.mp hname'
    rcases hsimulation with ⟨suggested, report, hsuggested, hcollect, hnew⟩ | ⟨hnone, hold⟩
    · rw [hlocation, hcontent, Option.some.injEq] at hnew
      exact ⟨report, hreport (writeCodeSuggestionArtifacts_derives hsuggested) hcollect, hnew⟩
    · rcases hrelease with habsent | hsimulates
      · rw [hlocation, hkept _ (hmem releaseName hname), habsent, hcontent] at hold
        cases hold
      · exact absurd hsimulates hnone

end

/-! ## Runs of calls -/

/-- What every call leaves true: once a state is saved, it lists no derived file and
every derived file says what it says. -/
def DerivedInvariant (py : Interpreter) (artifactsDir : String) (fs : FileSystem) : Prop :=
  fs (resolve [] artifactsDir ++ [stateName.toList]) = none ∨
    ∃ env st ending, fs (resolve [] artifactsDir ++ [stateName.toList]) =
        some (.json (stateJson env st ending)) ∧
      PlainState (resolve [] artifactsDir) st ∧
      ∀ host : Host, host.py = py → DerivedCurrent host artifactsDir fs

theorem DerivedInvariant.plainSaved {py : Interpreter} {artifactsDir : String} {fs : FileSystem}
    (h : DerivedInvariant py artifactsDir fs) : PlainSaved (resolve [] artifactsDir) fs := by
  rcases h with hnone | ⟨env, st, ending, hfile, hplain, -⟩
  · exact .inl hnone
  · exact .inr ⟨env, st, ending, hfile, hplain⟩

/-- The invariant survives a call that refreshes. -/
theorem DerivedInvariant.call {host : Host} {s : RunSettings} {request : RunRequest}
    {fs : FileSystem} (habs : isAbs s.artifactsDir = true)
    (h : DerivedInvariant host.py s.artifactsDir fs) (hcall : Refreshing host s request fs) :
    DerivedInvariant host.py s.artifactsDir (runPipeline host s request fs).1 := by
  have hdirectory : host.locate s.artifactsDir = resolve [] s.artifactsDir :=
    host.locate_of_isAbs habs
  have hplain := h.plainSaved
  rw [← hdirectory] at hplain
  rcases runPipeline_cases host s request fs with
    ⟨halt, hstart, hrun, -⟩ | ⟨env, resume, ds, ending, hrun⟩
  · have hsame : ∀ location ≠ resolve [] s.artifactsDir ++ [configSnapshotName.toList],
        withSnapshot host s fs location = fs location := by
      rw [← hdirectory]
      exact fun location hlocation => withSnapshot_of_ne fs hlocation
    have hstate : withSnapshot host s fs (resolve [] s.artifactsDir ++ [stateName.toList]) =
        fs (resolve [] s.artifactsDir ++ [stateName.toList]) := by
      refine hsame _ ?_
      rw [← hdirectory]
      exact stateLocation_ne_snapshot host s
    have hdisk : (runPipeline host s request fs).1 = withSnapshot host s fs := by
      rw [hrun]
      exact (startRun_error hstart).1
    rw [hdisk, DerivedInvariant, hstate]
    rcases h with hnone | ⟨env, st, ending, hfile, hlisted, hcurrent⟩
    · exact .inl hnone
    · refine .inr ⟨env, st, ending, hfile, hlisted, fun host' hpy => ?_⟩
      exact (hcurrent host rfl).congr hpy habs hfile hlisted hsame
  · have hstate := hrun.state
    have hlisted := hrun.plainState habs hplain hcall.plain
    have hcurrent := hcall.derivedCurrent habs hplain hrun
    rw [hdirectory] at hstate hlisted
    exact .inr ⟨env, _, ending, hstate, hlisted, fun host' hpy =>
      hcurrent.congr hpy habs hstate hlisted fun _ _ => rfl⟩

def releaseSettings : RunSettings :=
  { sampleSettings.unstructured with
    roleOrder := ["release_manager"]
    roleOrder_ne_nil := by decide
    roleOrder_nodup := by decide }

def architectSettings : RunSettings :=
  { sampleSettings.unstructured with
    roleOrder := ["architect"]
    roleOrder_ne_nil := by decide
    roleOrder_nodup := by decide }

/-- The disk after a run of the release manager, and after one of the architect
alone in the same directory. -/
def releasedDisk : FileSystem :=
  (runPipeline sampleHost releaseSettings (sampleRequest none "done") fun _ => none).1

def architectDisk : FileSystem :=
  (runPipeline sampleHost architectSettings (sampleRequest none "done") releasedDisk).1

end TruePresenceESE.Ese
