import TruePresenceESE.Ese.SavedState

/-! # Parallel against serial runs

Both modes perform the same roles from the same views, so what they gather
differs in the strategies and times of the execution records alone.
-/

namespace TruePresenceESE.Ese

open PosixPath

/-! ## The same run in another mode -/

def RunSettings.inParallel (s : RunSettings) (workers : ℕ+) (configText : String) : RunSettings :=
  { s with
    parallelSpecialists := true
    maxParallelRoles := workers
    configText := configText
    maxParallelRoles_pos := workers.pos }

def RunSettings.inSeries (s : RunSettings) (configText : String) : RunSettings :=
  { s with parallelSpecialists := false, configText := configText }

/-- A call with that adapter and no start role. -/
def RunRequest.fresh (request : RunRequest) (adapter : Adapter) : RunRequest :=
  { request with startRole := none, adapter := .ok adapter }

/-- What an execution record says besides how and when the role ran. -/
def recordKey (item : Json) : Option Json × Option Json × Option Json :=
  (item.get? "role", item.get? "model", item.get? "artifact")

/-- Two runs came to the same, on disk everywhere but at one location. -/
structure SameRoles (except : Location) (st st' : RunState) : Prop where
  outputs : st.outputs = st'.outputs
  artifacts : st.artifacts = st'.artifacts
  models : st.models = st'.models
  calls : st.calls = st'.calls
  written : st.written = st'.written
  execution : st.execution.map recordKey = st'.execution.map recordKey
  files : ∀ location ≠ except, st.fs location = st'.fs location

theorem SameRoles.refl (except : Location) (st : RunState) : SameRoles except st st :=
  ⟨rfl, rfl, rfl, rfl, rfl, rfl, fun _ _ => rfl⟩

/-- Two calls that differ in the mode and in what they have of their own. -/
structure SameJob (env env' : RunEnv) : Prop where
  perform : performRole env = performRole env'
  passes : Passes env = Passes env'
  path : Done.path env = Done.path env'
  location : Done.location env = Done.location env'

theorem SameJob.roleRun_iff {env env' : RunEnv} (h : SameJob env env')
    {outputs : Dict String String} {pending : List Pending} {ds : List Done} :
    RoleRun env outputs pending ds ↔ RoleRun env' outputs pending ds := by
  constructor
  · intro hrun
    induction hrun with
    | nil => exact .nil
    | cons hperform hpasses _ ih => exact .cons (h.perform ▸ hperform) (h.passes ▸ hpasses) ih
  · intro hrun
    induction hrun with
    | nil => exact .nil
    | cons hperform hpasses _ ih => exact .cons (h.perform ▸ hperform) (h.passes ▸ hpasses) ih

theorem recordKey_executionRecord (stamps : Stamps) (role model artifact strategy : String) :
    recordKey (executionRecord stamps role model artifact strategy) =
      (some (.str role), some (.str model), some (.str artifact)) := rfl

theorem SameRoles.keepDone {except : Location} {env env' : RunEnv} (hjob : SameJob env env')
    {st st' : RunState} (h : SameRoles except st st') (d : Done) :
    SameRoles except (keepDone env st d) (keepDone env' st' d) := by
  have hpath : d.path env = d.path env' := congrFun hjob.path d
  have hlocation : d.location env = d.location env' := congrFun hjob.location d
  refine ⟨?_, ?_, ?_, ?_, ?_, ?_, fun location hne => ?_⟩
  · rw [keepDone_outputs, keepDone_outputs, h.outputs]
  · rw [keepDone_artifacts, keepDone_artifacts, h.artifacts, hpath]
  · rw [keepDone_models, keepDone_models, h.models]
  · rw [keepDone_calls, keepDone_calls, h.calls]
  · rw [keepDone_written, keepDone_written, h.written, hlocation]
  · rw [keepDone_execution, keepDone_execution, List.map_append, List.map_append, h.execution,
      List.map_singleton, List.map_singleton, recordKey_executionRecord,
      recordKey_executionRecord, hpath]
  · rw [keepDone_fs, keepDone_fs, hlocation]
    by_cases heq : location = d.location env'
    · rw [heq, FileSystem.write_self, FileSystem.write_self]
    · rw [FileSystem.write_of_ne _ heq, FileSystem.write_of_ne _ heq]
      exact h.files location hne

theorem SameRoles.foldl_keepDone {except : Location} {env env' : RunEnv} (hjob : SameJob env env')
    {st st' : RunState} (h : SameRoles except st st') (ds : List Done) :
    SameRoles except (ds.foldl (Ese.keepDone env) st) (ds.foldl (Ese.keepDone env') st') := by
  induction ds generalizing st st' with
  | nil => exact h
  | cons d ds ih => exact ih (h.keepDone hjob d)

/-- From states that agree, turns that are not stopped agree in whatever mode. -/
theorem runTurns_sameRoles {except : Location} {env env' : RunEnv} (hjob : SameJob env env')
    {st st' after : RunState} (h : SameRoles except st st') (s : RunSettings) (startIndex : Nat)
    (hrun : runTurns env st (pendingRoles s startIndex) = .ok after) :
    ∃ after', runTurns env' st' (pendingRoles s startIndex) = .ok after' ∧
      SameRoles except after after' := by
  have hsorted := pendingRoles_sorted s startIndex
  have hnodup := pendingRoles_nodup s startIndex
  obtain ⟨ds, hroles, rfl⟩ := (runTurns_ok_iff hsorted hnodup).mp hrun
  rw [hjob.roleRun_iff, h.outputs] at hroles
  exact ⟨_, (runTurns_ok_iff hsorted hnodup).mpr ⟨ds, hroles, rfl⟩, h.foldl_keepDone hjob ds⟩

/-! ## Calls without a start role -/

/-- What a call without a start role runs in. -/
def freshEnv (host : Host) (s : RunSettings) (request : RunRequest) (adapter : Adapter)
    (fs : FileSystem) : RunEnv :=
  ⟨host, s, request.fresh adapter, adapter, promptInputs host s fs, none⟩

def freshState (host : Host) (s : RunSettings) (fs : FileSystem) : RunState where
  fs := withSnapshot host s fs

theorem startRun_fresh (host : Host) (s : RunSettings) (request : RunRequest) (adapter : Adapter)
    (fs : FileSystem) :
    startRun host s (request.fresh adapter) fs =
      .ok (freshEnv host s request adapter fs, ⟨0, freshState host s fs, none⟩) := by
  refine startRun_ok_iff.mpr ⟨adapter, rfl, rfl, ?_⟩
  rw [promptInputs_withSnapshot]
  rfl

/-- A call in one mode is matched by the call in the other. -/
theorem runRoles_fresh_sameRoles (host : Host) (s s' : RunSettings)
    (request request' : RunRequest) (adapter : Adapter) (fs : FileSystem)
    (hdir : s'.artifactsDir = s.artifactsDir) (horder : s'.roleOrder = s.roleOrder)
    (hjob : SameJob (freshEnv host s request adapter fs) (freshEnv host s' request' adapter fs))
    {env : RunEnv} {after : RunState}
    (hrun : runRoles host s (request.fresh adapter) fs = .ok (env, after)) :
    ∃ env' after', runRoles host s' (request'.fresh adapter) fs = .ok (env', after') ∧
      SameRoles (snapshotLocation host s) after after' := by
  obtain ⟨resume, ds, hstart, hroles, rfl⟩ := runRoles_ok_iff.mp hrun
  rw [startRun_fresh, Except.ok.injEq, Prod.mk.injEq] at hstart
  obtain ⟨rfl, rfl⟩ := hstart
  have hroles' := hjob.roleRun_iff.mp hroles
  have hpending : pendingRoles s' 0 = pendingRoles s 0 := by
    rw [pendingRoles, pendingRoles, horder]
  rw [← hpending] at hroles'
  have hsnapshot : snapshotLocation host s' = snapshotLocation host s := by
    rw [snapshotLocation, snapshotLocation, hdir]
  have hstates : SameRoles (snapshotLocation host s) (freshState host s fs)
      (freshState host s' fs) := by
    refine ⟨rfl, rfl, rfl, rfl, rfl, rfl, fun location hne => ?_⟩
    rw [freshState, freshState]
    exact (withSnapshot_of_ne fs hne).trans (withSnapshot_of_ne fs (hsnapshot ▸ hne)).symm
  exact ⟨_, _, runRoles_ok_iff.mpr ⟨_, ds, startRun_fresh host s' request' adapter fs, hroles', rfl⟩,
    hstates.foldl_keepDone hjob ds⟩

theorem SameJob.symm {env env' : RunEnv} (h : SameJob env env') : SameJob env' env :=
  ⟨h.perform.symm, h.passes.symm, h.path.symm, h.location.symm⟩

section
variable (host : Host) (s : RunSettings) (workers : ℕ+) (parallelText serialText : String)
  (parallelRequest serialRequest : RunRequest) (adapter : Adapter) (fs : FileSystem)

theorem sameJob_modes :
    SameJob (freshEnv host (s.inParallel workers parallelText) parallelRequest adapter fs)
      (freshEnv host (s.inSeries serialText) serialRequest adapter fs) :=
  ⟨rfl, rfl, rfl, rfl⟩

/-- Running specialists in parallel makes no difference to what a run comes to. -/
theorem parallel_sameRoles_serial :
    let inParallel := runRoles host (s.inParallel workers parallelText)
      (parallelRequest.fresh adapter) fs
    let inSeries := runRoles host (s.inSeries serialText) (serialRequest.fresh adapter) fs
    (∀ env after, inSeries = .ok (env, after) → ∃ env' after', inParallel = .ok (env', after') ∧
      SameRoles (snapshotLocation host s) after after') ∧
    ∀ env after, inParallel = .ok (env, after) → ∃ env' after', inSeries = .ok (env', after') ∧
      SameRoles (snapshotLocation host s) after after' := by
  have hjob := sameJob_modes host s workers parallelText serialText parallelRequest serialRequest
    adapter fs
  constructor
  · intro env after hrun
    exact runRoles_fresh_sameRoles host (s.inSeries serialText) (s.inParallel workers parallelText)
      serialRequest parallelRequest adapter fs rfl rfl hjob.symm hrun
  · intro env after hrun
    exact runRoles_fresh_sameRoles host (s.inParallel workers parallelText) (s.inSeries serialText)
      parallelRequest serialRequest adapter fs rfl rfl hjob hrun

end

end TruePresenceESE.Ese
