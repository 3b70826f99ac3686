import TruePresenceESE.Lib.PathCourse
import TruePresenceESE.Ese.RunExports

/-! # The artifacts that readers open

The saved state names files. Resuming resolves a reference and refuses it outside the
artifacts directory; the report collector opens whatever a reference leads to.
-/

namespace TruePresenceESE.Ese

open PosixPath PyText PyValue

/-! ## What is opened -/

/-- The location a path leads to, if there is a file. -/
def Reader.opened (reader : Reader) (path : String) : List Location :=
  if (reader.open path).isSome then [resolve reader.workingDir path] else []

/-- The file an execution record makes the collector open. -/
def recordReads (reader : Reader) (artifactsDir : String) (item : Json) : List Location :=
  let role := textField reader.py item "role"
  let artifact := textField reader.py item "artifact"
  if role = "" ∨ artifact = "" then []
  else reader.opened (reportArtifactPath artifactsDir artifact)

/-- The records up to the first one that ends the collection. -/
def reachedRecords (reader : Reader) (artifactsDir : String) : List Json → List Json
  | [] => []
  | item :: rest => item :: match roleEntry reader artifactsDir item with
      | .ok _ => reachedRecords reader artifactsDir rest
      | .error _ => []

def executionRecords (reader : Reader) (artifactsDir : String) : List Json :=
  match loadPipelineState reader artifactsDir >>= (iterateField · "execution") with
  | .ok items => items.filter isObject
  | .error _ => []

/-- The role artifacts that `collect_run_report` opens. -/
def collectorReads (reader : Reader) (artifactsDir : String) : List Location :=
  (reachedRecords reader artifactsDir (executionRecords reader artifactsDir)).flatMap
    (recordReads reader artifactsDir)

def seedReads (host : Host) (s : RunSettings) (cleanRole : String) (state artifacts : Json)
    (st : RunState) : List String → List Location
  | [] => []
  | role :: rest => match resumedArtifact host s cleanRole artifacts role with
      | .error _ => []
      | .ok path => (host.reader st.fs).opened path ++
          match seedRole host s cleanRole state artifacts st role with
          | .ok st' => seedReads host s cleanRole state artifacts st' rest
          | .error _ => []

/-- The role artifacts that `_load_resume_state` opens. -/
def resumeReads (host : Host) (s : RunSettings) (request : RunRequest) (fs : FileSystem) :
    List Location :=
  match request.givenStartRole with
  | none => []
  | some startRole =>
      let cleanRole := strip startRole
      if cleanRole ∉ s.roleOrder ∨ s.roleOrder.idxOf cleanRole = 0 then []
      else match loadSavedState host s cleanRole fs with
        | .error _ => []
        | .ok (state, artifacts) =>
            seedReads host s cleanRole state artifacts { fs := fs }
              (s.roleOrder.take (s.roleOrder.idxOf cleanRole))

/-! ## Resuming -/

theorem mem_opened {reader : Reader} {path : String} {location : Location}
    (h : location ∈ reader.opened path) : location = resolve reader.workingDir path := by
  unfold Reader.opened at h
  split at h
  · exact List.mem_singleton.mp h
  · exact absurd h List.not_mem_nil

/-- A reference that resuming accepts leads into the directory. -/
theorem resumedArtifact_inside {host : Host} {s : RunSettings} {cleanRole role path : String}
    {artifacts : Json} (h : resumedArtifact host s cleanRole artifacts role = .ok path) :
    host.locate s.artifactsDir <+: host.locate path := by
  unfold resumedArtifact at h
  dsimp only at h
  split at h
  · cases h
  · split at h
    · cases h
    · obtain ⟨hwithin, rfl⟩ := ensureArtifactWithinDir_ok_iff.mp h
      rw [host.locate_render]
      exact List.isPrefixOf_iff_prefix.mp hwithin

theorem seedReads_inside {host : Host} {s : RunSettings} {cleanRole : String}
    {state artifacts : Json} {st : RunState} {roles : List String} {location : Location}
    (h : location ∈ seedReads host s cleanRole state artifacts st roles) :
    host.locate s.artifactsDir <+: location := by
  induction roles generalizing st with
  | nil => exact absurd h List.not_mem_nil
  | cons role rest ih =>
      unfold seedReads at h
      split at h
      next => exact absurd h List.not_mem_nil
      next path hpath =>
        rw [List.mem_append] at h
        cases h with
        | inl hopened =>
            rw [mem_opened hopened]
            exact resumedArtifact_inside hpath
        | inr hlater =>
            split at hlater
            next => exact ih hlater
            next => exact absurd hlater List.not_mem_nil

theorem resumeReads_inside {host : Host} {s : RunSettings} {request : RunRequest}
    {fs : FileSystem} {location : Location} (h : location ∈ resumeReads host s request fs) :
    host.locate s.artifactsDir <+: location := by
  unfold resumeReads at h
  split at h
  next => exact absurd h List.not_mem_nil
  next =>
    dsimp only at h
    split at h
    next => exact absurd h List.not_mem_nil
    next =>
      split at h
      next => exact absurd h List.not_mem_nil
      next => exact seedReads_inside h

/-! ## Collecting -/

/-- A reference that stays in the directory, wherever it passes on the way. -/
def StaysInside (directory : Location) (ref : String) : Prop :=
  if isAbs ref then directory <+: walk [] (segments ref.toList)
  else (course (segments ref.toList)).Returns directory

/-- The references of the reached records to files that exist. -/
def openedRefs (reader : Reader) (artifactsDir : String) : List String :=
  (reachedRecords reader artifactsDir (executionRecords reader artifactsDir)).filterMap fun item =>
    let artifact := textField reader.py item "artifact"
    if recordReads reader artifactsDir item = [] then none else some artifact

theorem resolve_reportArtifactPath (workingDir : Location) (artifactsDir ref : String) :
    resolve workingDir (reportArtifactPath artifactsDir ref) =
      if isAbs ref then walk [] (segments ref.toList)
      else walk (resolve workingDir artifactsDir) (segments ref.toList) := by
  rw [reportArtifactPath]
  split
  next habs => rw [resolve, if_pos habs]
  next hrelative =>
    by_cases hdir : artifactsDir = ""
    · have hpath : join "" ref = ref := by
        rw [join, if_neg hrelative, if_pos (.inl rfl), String.empty_append]
      rw [hdir, hpath, resolve, if_neg hrelative]
      rfl
    · exact resolve_join hdir (by simpa using hrelative) workingDir

theorem staysInside_iff (workingDir : Location) (artifactsDir ref : String) :
    resolve workingDir artifactsDir <+:
        resolve workingDir (reportArtifactPath artifactsDir ref) ↔
      StaysInside (resolve workingDir artifactsDir) ref := by
  rw [resolve_reportArtifactPath, StaysInside]
  split
  next => rfl
  next => rw [walk_eq_follow, Course.prefix_follow_iff]

theorem recordReads_inside_iff (reader : Reader) (artifactsDir : String) (item : Json) :
    (∀ location ∈ recordReads reader artifactsDir item,
        resolve reader.workingDir artifactsDir <+: location) ↔
      (recordReads reader artifactsDir item ≠ [] →
        StaysInside (resolve reader.workingDir artifactsDir)
          (textField reader.py item "artifact")) := by
  unfold recordReads Reader.opened
  dsimp only
  split
  next => simp
  next =>
    split
    next =>
      rw [List.forall_mem_singleton, staysInside_iff]
      simp
    next => simp

theorem collectorReads_inside_iff (reader : Reader) (artifactsDir : String) :
    (∀ location ∈ collectorReads reader artifactsDir,
        resolve reader.workingDir artifactsDir <+: location) ↔
      ∀ ref ∈ openedRefs reader artifactsDir,
        StaysInside (resolve reader.workingDir artifactsDir) ref := by
  unfold collectorReads openedRefs
  generalize reachedRecords reader artifactsDir (executionRecords reader artifactsDir) = records
  induction records with
  | nil => simp
  | cons item rest ih =>
      rw [List.flatMap_cons, List.forall_mem_append, recordReads_inside_iff, ih]
      by_cases hreads : recordReads reader artifactsDir item = []
      · simp [hreads]
      · simp [hreads]

/-- Resuming reads inside the directory whatever the state says; the collector does
exactly when the references it follows stay there. -/
theorem artifact_reads_confined_iff (host : Host) (fs : FileSystem) (artifactsDir : String) :
    ((∀ (s : RunSettings) (request : RunRequest), s.artifactsDir = artifactsDir →
          ∀ location ∈ resumeReads host s request fs,
            host.locate artifactsDir <+: location) ∧
        ∀ location ∈ collectorReads (host.reader fs) artifactsDir,
          host.locate artifactsDir <+: location) ↔
      ∀ ref ∈ openedRefs (host.reader fs) artifactsDir,
        StaysInside (host.locate artifactsDir) ref := by
  have hresume : ∀ (s : RunSettings) (request : RunRequest), s.artifactsDir = artifactsDir →
      ∀ location ∈ resumeReads host s request fs, host.locate artifactsDir <+: location := by
    intro s request hdir location hlocation
    rw [← hdir]
    exact resumeReads_inside hlocation
  rw [and_iff_right hresume]
  exact collectorReads_inside_iff (host.reader fs) artifactsDir

/-- A run whose only record names a file two directories up. -/
def climbingDisk : FileSystem := fun location =>
  if location = ["run".toList, stateName.toList] then
    some (.json (.obj [("execution", .arr [.obj [("role", .str "reviewer"),
      ("artifact", .str "../../secret.txt")]])]))
  else if location = ["secret.txt".toList] then some (.text "secret")
  else none

/-- The collector opens it. -/
theorem artifact_read_outside :
    ¬ ∀ (host : Host) (fs : FileSystem) (artifactsDir : String),
      (∀ (s : RunSettings) (request : RunRequest), s.artifactsDir = artifactsDir →
          ∀ location ∈ resumeReads host s request fs,
            host.locate artifactsDir <+: location) ∧
        ∀ location ∈ collectorReads (host.reader fs) artifactsDir,
          host.locate artifactsDir <+: location := by
  intro hconfined
  have hreads : collectorReads (sampleHost.reader climbingDisk) "/run" =
      [["secret.txt".toList]] := by
    decide +kernel
  obtain ⟨-, hcollector⟩ := hconfined sampleHost climbingDisk "/run"
  have hinside := hcollector ["secret.txt".toList] (by rw [hreads]; exact List.mem_singleton_self _)
  have houtside : ¬ sampleHost.locate "/run" <+: ["secret.txt".toList] := by
    decide +kernel
  exact houtside hinside

end TruePresenceESE.Ese
