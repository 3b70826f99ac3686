import TruePresenceESE.Ese.RunConfig

/-! # Calls that fail before their first role

The config snapshot is written between the checks of the prologue. A call that an
earlier check rejects leaves the disk as it was; one that a later check rejects
has put its own config where that of the recorded run stood.
-/

namespace TruePresenceESE.Ese

open PosixPath PyText PyValue

/-! ## What is on disk -/

/-- The text of a file. -/
def FileContent.raw (py : Interpreter) : FileContent → String
  | .text s => s
  | .json value => py.dumps value ++ "\n"

def rawAt (py : Interpreter) (fs : FileSystem) (location : Location) : Option String :=
  (fs location).map (FileContent.raw py)

def SameFiles (py : Interpreter) (fs fs' : FileSystem) : Prop :=
  ∀ location, rawAt py fs' location = rawAt py fs location

theorem sameFiles_write_iff {py : Interpreter} {fs : FileSystem} {location : Location}
    {content : FileContent} :
    SameFiles py fs (fs.write location content) ↔ rawAt py fs location = some (content.raw py) := by
  constructor
  · intro h
    have hhere := h location
    rw [rawAt, FileSystem.write_self, Option.map_some] at hhere
    exact hhere.symm
  · intro h other
    by_cases heq : other = location
    · rw [heq, h, rawAt, FileSystem.write_self, Option.map_some]
    · rw [rawAt, rawAt, FileSystem.write_of_ne _ heq]

/-! ## Rejections -/

section
variable (site : Site) (cfg : Config) (artifactsDir : Option String) (request : RunRequest)
  (fs : FileSystem)

/-- The call raises before any role is executed. -/
def FailsBeforeRoles : Prop := (startCall site cfg artifactsDir request fs).isOk = false

/-- A check behind the snapshot rejects the call: the adapter, the runtime section or
what there is to resume from. -/
inductive RejectedLate (header : Header) : RunError → Prop where
  | runtime {error : RunError} (h : readRuntime site cfg header request = .error error) :
      RejectedLate header error
  | resume {s : RunSettings} {resolved : RunRequest} {error : RunError}
      (h : readRuntime site cfg header request = .ok (s, resolved))
      (hresume : loadResumeState site.host s resolved (withSnapshot site.host s fs) = .error error) :
      RejectedLate header error

end

section
variable {site : Site} {cfg : Config} {artifactsDir : Option String} {request : RunRequest}
  {fs : FileSystem}

theorem readRuntime_ok {header : Header} {s : RunSettings} {resolved : RunRequest}
    (h : readRuntime site cfg header request = .ok (s, resolved)) :
    s.artifactsDir = header.artifactsDir ∧ s.configText = site.yaml cfg ∧
      ∃ adapter, resolved.adapter = .ok adapter := by
  obtain ⟨⟨adapterName, adapter⟩, -, h⟩ := Fallible.bind_eq_ok_iff.mp h
  obtain ⟨parallel, -, h⟩ := Fallible.bind_eq_ok_iff.mp h
  cases h
  exact ⟨rfl, rfl, adapter, rfl⟩

/-- The snapshot that a run writes is that of its config. -/
theorem withSnapshot_eq {header : Header} {s : RunSettings} {resolved : RunRequest}
    (h : readRuntime site cfg header request = .ok (s, resolved)) :
    withSnapshot site.host s fs = fs.write (header.snapshot site) (.text (site.yaml cfg)) := by
  obtain ⟨hdir, htext, -⟩ := readRuntime_ok h
  have hlocation : snapshotLocation site.host s = header.snapshot site := by
    rw [Header.snapshot, ← hdir]
    exact (locate_reservedFile site.host s (by simp [reservedNames])).symm
  rw [withSnapshot, hlocation, htext]

theorem startRun_of_resume_error {host : Host} {s : RunSettings} {adapter : Adapter}
    {error : RunError} (hadapter : request.adapter = .ok adapter)
    (hresume : loadResumeState host s request (withSnapshot host s fs) = .error error) :
    startRun host s request fs = .error ⟨withSnapshot host s fs, error, []⟩ := by
  have hlocation : host.locate (join s.artifactsDir configSnapshotName) = snapshotLocation host s :=
    locate_reservedFile host s (by simp [reservedNames])
  rw [withSnapshot] at hresume ⊢
  unfold startRun
  simp only [hlocation, hadapter, hresume]

/-- Behind the header a start fails with the snapshot written. -/
theorem startCall_error_of_header {header : Header} {halt : Halt}
    (hheader : readHeader site.host.py cfg artifactsDir = .ok header) :
    startCall site cfg artifactsDir request fs = .error halt ↔
      ∃ error, RejectedLate site cfg request fs header error ∧
        halt = ⟨fs.write (header.snapshot site) (.text (site.yaml cfg)), error, []⟩ := by
  unfold startCall
  rw [hheader]
  dsimp only
  cases hruntime : readRuntime site cfg header request with
  | error error =>
      simp only [Except.error.injEq]
      constructor
      · rintro rfl
        exact ⟨error, .runtime hruntime, rfl⟩
      · rintro ⟨error', hlate, rfl⟩
        cases hlate with
        | runtime h =>
            rw [hruntime, Except.error.injEq] at h
            rw [h]
        | resume h _ =>
            rw [hruntime] at h
            cases h
  | ok result =>
      obtain ⟨s, resolved⟩ := result
      obtain ⟨-, -, adapter, hadapter⟩ := readRuntime_ok hruntime
      have hsnapshot := @withSnapshot_eq _ _ _ fs _ _ _ hruntime
      dsimp only
      constructor
      · intro hstart
        cases hresume : loadResumeState site.host s resolved (withSnapshot site.host s fs) with
        | ok resume =>
            have hok := startRun_ok_iff.mpr ⟨adapter, hadapter, hresume, rfl⟩
            rw [hok] at hstart
            cases hstart
        | error error =>
            have herror := startRun_of_resume_error hadapter hresume
            rw [hstart, Except.error.injEq, hsnapshot] at herror
            exact ⟨error, .resume hruntime hresume, herror⟩
      · rintro ⟨error, hlate, rfl⟩
        cases hlate with
        | runtime h =>
            rw [hruntime] at h
            cases h
        | resume h hresume =>
            rw [hruntime, Except.ok.injEq, Prod.mk.injEq] at h
            obtain ⟨rfl, rfl⟩ := h
            rw [← hsnapshot]
            exact startRun_of_resume_error hadapter hresume

theorem startCall_error_of_no_header {error : RunError}
    (hheader : readHeader site.host.py cfg artifactsDir = .error error) :
    startCall site cfg artifactsDir request fs = .error ⟨fs, error, []⟩ := by
  rw [startCall, hheader]

theorem failsBeforeRoles_iff :
    FailsBeforeRoles site cfg artifactsDir request fs ↔
      ∃ halt, startCall site cfg artifactsDir request fs = .error halt := by
  unfold FailsBeforeRoles
  cases startCall site cfg artifactsDir request fs <;> simp [Except.isOk, Except.toBool]

/-- A call whose start fails leaves what its start left. -/
theorem callPipeline_of_start_error {halt : Halt}
    (h : startCall site cfg artifactsDir request fs = .error halt) :
    callPipeline site cfg artifactsDir request fs = (halt.fs, .error halt.error) := by
  unfold startCall at h
  unfold callPipeline
  cases hheader : readHeader site.host.py cfg artifactsDir with
  | error error =>
      rw [hheader] at h
      cases h
      rfl
  | ok header =>
      rw [hheader] at h
      dsimp only at h ⊢
      cases hruntime : readRuntime site cfg header request with
      | error error =>
          rw [hruntime] at h
          cases h
          rfl
      | ok result =>
          rw [hruntime] at h
          dsimp only at h ⊢
          rw [runPipeline, runRoles, h]
          rfl

end

/-! ## Failed starts and the record -/

/-- A call that fails before its first role leaves every file as it was exactly when
no check behind the snapshot was the first to reject it, or the snapshot on disk
already read as its config. -/
theorem failed_start_keeps_files_iff (site : Site) (cfg : Config) (artifactsDir : Option String)
    (request : RunRequest) (fs : FileSystem) :
    (FailsBeforeRoles site cfg artifactsDir request fs →
      SameFiles site.host.py fs (callPipeline site cfg artifactsDir request fs).1) ↔
      ∀ header, readHeader site.host.py cfg artifactsDir = .ok header →
        (∃ error, RejectedLate site cfg request fs header error) →
        rawAt site.host.py fs (header.snapshot site) = some (site.yaml cfg) := by
  rw [failsBeforeRoles_iff]
  constructor
  · rintro hkeeps header hheader ⟨error, hlate⟩
    have hstart := (startCall_error_of_header hheader).mpr ⟨error, hlate, rfl⟩
    have hsame := hkeeps ⟨_, hstart⟩
    rw [callPipeline_of_start_error hstart, sameFiles_write_iff] at hsame
    exact hsame
  · rintro hlate ⟨halt, hstart⟩
    rw [callPipeline_of_start_error hstart]
    cases hheader : readHeader site.host.py cfg artifactsDir with
    | error error =>
        rw [startCall_error_of_no_header hheader] at hstart
        cases hstart
        exact fun location => rfl
    | ok header =>
        obtain ⟨error, hrejected, rfl⟩ := (startCall_error_of_header hheader).mp hstart
        exact sameFiles_write_iff.mpr (hlate header hheader ⟨error, hrejected⟩)

/-! ## A run whose record is lost -/

def recordedYaml : String := "provider:\n  name: local\nscope: billing\nroles:\n  architect: \x7b\x7d\n"

def otherYaml : String := "provider:\n  name: local\nscope: search\nroles:\n  architect: \x7b\x7d\n"

def otherConfig : Config :=
  JsonDict.ofFields [("provider", .obj [("name", .str "local")]), ("scope", .str "search"),
    ("roles", .obj [("architect", .obj [])])]

def sampleSite : Site where
  host := sampleHost
  yaml := fun _ => otherYaml
  parseInt := fun _ => none
  builtinAdapter := fun name => if name = "dry-run" then some fun _ _ => .output "done" else none
  importModule := fun _ => .notFound

/-- A finished run: its state and the config it was run with. -/
def recordedDisk : FileSystem := fun location =>
  if location = ["run".toList, stateName.toList] then
    some (.json (.obj [("status", .str "completed"), ("artifacts", .obj [])]))
  else if location = ["run".toList, configSnapshotName.toList] then some (.text recordedYaml)
  else none

/-- An unknown start role costs the run its config. -/
theorem unknown_start_role_replaces_snapshot :
    ¬ (FailsBeforeRoles sampleSite otherConfig (some "/run")
        (sampleRequest (some "reviewer") "") recordedDisk →
      SameFiles sampleSite.host.py recordedDisk
        (callPipeline sampleSite otherConfig (some "/run") (sampleRequest (some "reviewer") "")
          recordedDisk).1) := by
  intro hkeeps
  have hfails : FailsBeforeRoles sampleSite otherConfig (some "/run")
      (sampleRequest (some "reviewer") "") recordedDisk := by
    rw [FailsBeforeRoles]
    decide +kernel
  have hsame := hkeeps hfails ["run".toList, configSnapshotName.toList]
  revert hsame
  decide +kernel

end TruePresenceESE.Ese
