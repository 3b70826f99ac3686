import TruePresenceESE.Ese.LegibleRuns

/-! # Readers of a run

The report collector and the resuming call both take relative references from
the artifacts directory. They find what was written exactly as long as that
directory, walked from itself, is itself: a relative one is walked twice.
-/

namespace TruePresenceESE.Ese

open PosixPath PyText PyValue

/-! ## Finding -/

/-- Both readers follow the saved references to the files last written, a report
can be collected and calls can resume. -/
structure ReadersFind (host : Host) (s : RunSettings) (history : History) : Prop where
  artifact : ∀ role ref,
    savedArtifact host.py history.fs (host.locate s.artifactsDir) role = some ref →
      history.home role = some (host.savedLocation s ref)
  record : ∀ items,
    savedField host.py history.fs (host.locate s.artifactsDir) "execution" = some (.arr items) →
      ∀ item ∈ items, ∃ role, item.get? "role" = some (.str role) ∧
        history.home role = some (host.savedLocation s (textField host.py item "artifact"))
  report : (history.fs (host.locate s.artifactsDir ++ [stateName.toList])).isSome →
    ∀ previous : Option String,
      (∀ run ∈ previous, ∃ report, collectRun (host.reader history.fs) run = .ok report) →
        ∃ report, collectRunReport (host.reader history.fs) previous s.artifactsDir = .ok report
  rerun : ∀ request startRole, request.givenStartRole = some startRole →
    (history.fs (host.locate s.artifactsDir ++ [stateName.toList])).isSome →
      strip startRole ∈ s.roleOrder →
        (∀ role ∈ s.roleOrder.take (s.roleOrder.idxOf (strip startRole)),
          (savedArtifact host.py history.fs (host.locate s.artifactsDir) role).isSome ∧
            ∃ model, s.roleModel role = .ok model) →
        ∃ resume, loadResumeState host s request history.fs = .ok resume ∧
          ∀ role ∈ s.roleOrder.take resume.startIndex, ∃ path,
            resume.state.artifacts.get? role = some path ∧
              history.home role = some (host.locate path)

/-- Artifacts inside the directory. -/
def InsideOf (directory : Location) (_role : String) (location : Location) : Prop :=
  directory.isPrefixOf location = true

theorem Legible.resumable {host : Host} {s : RunSettings} {history : History} {env : RunEnv}
    {st : RunState} {ending : Ending}
    (hfile : history.fs (host.locate s.artifactsDir ++ [stateName.toList]) =
      some (.json (stateJson env st ending)))
    (h : LegibleState (InsideOf (host.locate s.artifactsDir)) (host.locate s.artifactsDir)
      history.home history.fs st) {role : String}
    (hsaved : (savedArtifact host.py history.fs (host.locate s.artifactsDir) role).isSome)
    (hmodel : ∃ model, s.roleModel role = .ok model) :
    Resumable host s history.fs st.artifacts role := by
  rw [savedArtifact_stateJson hfile] at hsaved
  obtain ⟨ref, href⟩ := Option.isSome_iff_exists.mp hsaved
  obtain ⟨hfollows, -, hinside⟩ := h.artifacts role ref href
  obtain ⟨content, hcontent, -⟩ := hfollows.sound
  refine ⟨ref, href, ?_, ?_, ?_, hmodel⟩
  · rw [hfollows.stripped]
    exact ne_empty_of_namesArtifact hfollows.named
  · rw [host.savedLocation_eq]
    exact hinside
  · rw [host.savedLocation_eq, hcontent]
    rfl

/-- What is seeded leads where the saved reference led. -/
theorem resumed_home {host : Host} {s : RunSettings} {request : RunRequest} {history : History}
    {resume : Resume} (hresume : loadResumeState host s request history.fs = .ok resume)
    (hartifact : ∀ role ref,
      savedArtifact host.py history.fs (host.locate s.artifactsDir) role = some ref →
        history.home role = some (host.savedLocation s ref)) :
    ∀ role ∈ s.roleOrder.take resume.startIndex, ∃ path,
      resume.state.artifacts.get? role = some path ∧
        history.home role = some (host.locate path) := by
  obtain ⟨seeds, hroles, hstate, hseeds⟩ := loadResumeState_ok hresume
  intro role hrole
  rw [← hroles, List.mem_map] at hrole
  obtain ⟨seed, hseed, rfl⟩ := hrole
  obtain ⟨startRole, state, artifacts, -, -, -, hsaved, hall⟩ :=
    hseeds (List.ne_nil_of_mem hseed)
  obtain ⟨ref, href, hpath, -, -⟩ := (hall seed hseed).saved hsaved
  refine ⟨seed.path, ?_, ?_⟩
  · obtain ⟨-, -, -, -, hartifacts, -⟩ := foldl_keepSeed host.py { fs := history.fs } seeds
    have hnodup : (seeds.map Seed.role).Nodup := by
      rw [hroles]
      exact s.roleOrder_nodup.sublist (List.take_sublist _ _)
    rw [hstate, hartifacts, Dict.get?_update_empty_iff (by simpa [Function.comp_def] using hnodup)]
    exact List.mem_map_of_mem hseed
  · rw [hartifact _ _ href, hpath, Host.savedLocation, host.locate_render]

theorem collectRunReport_ok {reader : Reader} {artifactsDir : String} {previous : Option String}
    {report : RunReport} (h : collectRun reader artifactsDir = .ok report)
    (hprevious : ∀ run ∈ previous, ∃ report, collectRun reader run = .ok report) :
    collectRunReport reader previous artifactsDir = .ok report := by
  unfold collectRunReport
  rw [h]
  cases previous with
  | none => rfl
  | some run =>
      obtain ⟨earlier, hearlier⟩ := hprevious run rfl
      show (collectRun reader run >>= fun _ => pure report) = .ok report
      rw [hearlier]
      rfl

theorem Legible.readersFind {host : Host} {s : RunSettings} {history : History}
    (h : Legible (InsideOf (host.locate s.artifactsDir)) (host.locate s.artifactsDir) history) :
    ReadersFind host s history := by
  rcases h with hnone | ⟨env, st, ending, hfile, hlegible⟩
  · refine ⟨?_, ?_, ?_, ?_⟩
    · intro role ref href
      simp [savedArtifact, savedField, hnone] at href
    · intro items hitems
      simp [savedField, hnone] at hitems
    · intro hsome
      simp [hnone] at hsome
    · intro request startRole _ hsome
      simp [hnone] at hsome
  · have hartifact : ∀ role ref,
        savedArtifact host.py history.fs (host.locate s.artifactsDir) role = some ref →
          history.home role = some (host.savedLocation s ref) := by
      intro role ref href
      rw [savedArtifact_stateJson hfile] at href
      rw [host.savedLocation_eq]
      exact (hlegible.artifacts role ref href).2.1
    refine ⟨hartifact, ?_, ?_, ?_⟩
    · intro items hitems item hitem
      rw [savedField_stateJson hfile, get?_stateJson_execution, Option.some.injEq,
        Json.arr.injEq] at hitems
      subst hitems
      obtain ⟨role, ref, hrole, href, hget⟩ := hlegible.records item hitem
      refine ⟨role, hrole, ?_⟩
      rw [textField_str href, (hlegible.artifacts role ref hget).1.stripped, host.savedLocation_eq]
      exact (hlegible.artifacts role ref hget).2.1
    · intro _ previous hprevious
      obtain ⟨report, hreport, -⟩ := hlegible.collectRun hfile
      exact ⟨report, collectRunReport_ok hreport hprevious⟩
    · intro request startRole hgiven _ hmem hroles
      obtain ⟨resume, hresume, -⟩ := loadResumeState_of_resumable hfile hgiven hmem fun role hrole =>
        Legible.resumable hfile hlegible (hroles role hrole).1 (hroles role hrole).2
      exact ⟨resume, hresume, resumed_home hresume hartifact⟩

theorem sample_founded (s : RunSettings) :
    FoundedReports sampleHost.py s fun _ => .output "fine" := by
  intro _ call text report _ htext hreport hnull
  cases htext
  cases hreport
  cases hnull

theorem sample_legibleCall :
    LegibleCall (InsideOf (sampleHost.locate "/run")) sampleHost sampleSettings
      (sampleRequest none "fine") where
  rereads := rereads_of_isAbs sampleHost (by decide)
  founded := by
    intro adapter hadapter
    cases hadapter
    exact sample_founded sampleSettings
  placed := by
    simp only [InsideOf]
    decide

def relativeSettings : RunSettings :=
  { sampleSettings with
    artifactsDir := "artifacts"
    artifactsDir_ne_empty := by decide
    artifactsDir_stripped := by decide }

end TruePresenceESE.Ese
