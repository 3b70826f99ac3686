import TruePresenceESE.Lib.Selection
import TruePresenceESE.Lib.JsonDict
import TruePresenceESE.Ese.Files

/-! # Background jobs of the dashboard

A store keeps the records of jobs in memory and writes each record to a file of its own
whenever it changes. A job runs on a thread, which ends with the process; the records are
read back when the next process opens the same directory.
-/

namespace TruePresenceESE.Ese

open PyValue

/-! ## The store -/

/-- The files `*.json` of a storage directory, by their stems. -/
abbrev JobFiles := Dict String FileContent

structure DashboardJobStore where
  jobs : Dict String JsonDict
  storage : JobFiles

/-- The record in a file, with the id it is filed under. -/
def persistedJob (py : Interpreter) (file : String × FileContent) : Option (String × JsonDict) :=
  match file.2.load py with
  | some (.obj fields) =>
      let jobId := textField py (.obj fields) "id"
      if jobId = "" then none else some (jobId, JsonDict.ofFields fields)
  | _ => none

def sortedPaths (storage : JobFiles) : List (String × FileContent) :=
  storage.items.mergeSort fun a b => a.1 ++ ".json" ≤ b.1 ++ ".json"

def loadPersistedJobs (py : Interpreter) (storage : JobFiles) : Dict String JsonDict :=
  Dict.empty.update ((sortedPaths storage).filterMap (persistedJob py))

/-- `DashboardJobStore(storage_dir=...)` -/
def openJobStore (py : Interpreter) (storage : JobFiles) : DashboardJobStore :=
  ⟨loadPersistedJobs py storage, storage⟩

def queuedJob (jobId name now : String) : JsonDict :=
  JsonDict.ofFields [("id", .str jobId), ("name", .str name), ("status", .str "queued"),
    ("result", .null), ("error", .null), ("created_at", .str now), ("updated_at", .str now)]

def updatedJob (job : JsonDict) (now : String) (updates : List (String × Json)) : JsonDict :=
  job.update (updates ++ [("updated_at", .str now)])

namespace DashboardJobStore

def persistJob (store : DashboardJobStore) (jobId : String) : DashboardJobStore :=
  match store.jobs.get? jobId with
  | none => store
  | some payload => { store with storage := store.storage.set jobId (.json payload.toJson) }

def start (store : DashboardJobStore) (jobId name now : String) : DashboardJobStore :=
  persistJob { store with jobs := store.jobs.set jobId (queuedJob jobId name now) } jobId

def update (store : DashboardJobStore) (jobId now : String) (updates : List (String × Json)) :
    DashboardJobStore :=
  match store.jobs.get? jobId with
  | none => store
  | some job => persistJob { store with
      jobs := store.jobs.set jobId (updatedJob job now updates) } jobId

def get (store : DashboardJobStore) (jobId : String) : Option JsonDict :=
  (store.jobs.get? jobId).filter fun job => job.items ≠ []

end DashboardJobStore

/-- How the function of a job ends. -/
inductive JobOutcome where
  | returns (result : Json)
  | raises (message : String)

def JobOutcome.updates : JobOutcome → List (String × Json)
  | .returns result => [("status", .str "completed"), ("result", result)]
  | .raises message => [("status", .str "failed"), ("error", .str message)]

/-! ## Processes -/

/-- Where the thread of a job is: before its first update, or in the job's function. -/
inductive RunnerPhase where
  | queued
  | running

/-- A process with its store and the threads that have not ended. -/
structure DashboardProcess where
  store : DashboardJobStore
  runners : List (String × RunnerPhase)

/-- `uuid.uuid4().hex[:12]` -/
def isJobId (text : String) : Bool :=
  text.length = 12 && text.toList.all fun c => "0123456789abcdef".toList.contains c

/-- The process ends and the next one opens the same directory. -/
def restarted (py : Interpreter) (storage : JobFiles) : DashboardProcess :=
  ⟨openJobStore py storage, []⟩

inductive JobEvent where
  | start (jobId : String)
  | begin (jobId : String)
  | finish (jobId : String)
  | get (jobId : String)
  | restart
  /-- The process ends while the file of a job is written. -/
  | torn (jobId : String)

/-- One step. A file whose writing was interrupted holds no JSON. -/
inductive JobStep (py : Interpreter) : DashboardProcess → JobEvent → DashboardProcess → Prop where
  | start {s : DashboardProcess} {jobId : String} (name now : String) (hid : isJobId jobId = true) :
      JobStep py s (.start jobId)
        ⟨s.store.start jobId name now, s.runners ++ [(jobId, .queued)]⟩
  | begin {store : DashboardJobStore} {before after : List (String × RunnerPhase)}
      {jobId : String} (now : String) :
      JobStep py ⟨store, before ++ (jobId, .queued) :: after⟩ (.begin jobId)
        ⟨store.update jobId now [("status", .str "running")],
          before ++ (jobId, .running) :: after⟩
  | finish {store : DashboardJobStore} {before after : List (String × RunnerPhase)}
      {jobId : String} (now : String) (outcome : JobOutcome) :
      JobStep py ⟨store, before ++ (jobId, .running) :: after⟩ (.finish jobId)
        ⟨store.update jobId now outcome.updates, before ++ after⟩
  | get {s : DashboardProcess} {jobId : String} : JobStep py s (.get jobId) s
  | restart {s : DashboardProcess} : JobStep py s .restart (restarted py s.store.storage)
  | tornStart {s : DashboardProcess} {jobId text : String} (hid : isJobId jobId = true)
      (htext : (FileContent.text text).load py = none) :
      JobStep py s (.torn jobId) (restarted py (s.store.storage.set jobId (.text text)))
  | tornUpdate {s : DashboardProcess} {jobId text : String}
      (hlive : jobId ∈ s.runners.map Prod.fst) (htext : (FileContent.text text).load py = none) :
      JobStep py s (.torn jobId) (restarted py (s.store.storage.set jobId (.text text)))

/-- Runs whose events are allowed in the states they happen in. -/
def JobRun (py : Interpreter) (Allowed : DashboardProcess → JobEvent → Prop) :
    DashboardProcess → DashboardProcess → Prop :=
  Relation.ReflTransGen fun s s' => ∃ event, Allowed s event ∧ JobStep py s event s'

/-- A process on an empty directory. -/
def freshDashboard (py : Interpreter) : DashboardProcess := restarted py Dict.empty

/-! ## Settled jobs -/

def Terminal (job : JsonDict) : Prop :=
  job.get? "status" = some (.str "completed") ∨ job.get? "status" = some (.str "failed")

/-- Every job whose thread is gone has come to an end. -/
def Settled (s : DashboardProcess) : Prop :=
  ∀ jobId job, s.store.jobs.get? jobId = some job → jobId ∉ s.runners.map Prod.fst → Terminal job

def NewJobId (s : DashboardProcess) (jobId : String) : Prop :=
  s.store.jobs.get? jobId = none ∧ s.store.storage.get? jobId = none

/-- A started job has an id of its own. -/
def StartsNew (s : DashboardProcess) : JobEvent → Prop
  | .start jobId => NewJobId s jobId
  | _ => True

/-- A started job has an id of its own, and the process does not end over the thread of a job,
unless the write it ends in takes the only such job with it. -/
def LeavesNoRunner (s : DashboardProcess) : JobEvent → Prop
  | .start jobId => NewJobId s jobId
  | .restart => s.runners = []
  | .torn jobId => (∀ runner ∈ s.runners.map Prod.fst, runner = jobId) ∧
      (jobId ∉ s.runners.map Prod.fst → NewJobId s jobId)
  | _ => True

/-! ## Memory and files -/

theorem strip_jobId {text : String} (h : isJobId text = true) :
    PyText.strip text = text ∧ text ≠ "" := by
  rw [isJobId, Bool.and_eq_true, decide_eq_true_eq, List.all_eq_true] at h
  have hdigits : "0123456789abcdef".toList.all (fun c => !PyText.isSpace c) = true := by
    decide +kernel
  constructor
  · rw [PyText.strip, Text.strip_eq_self, String.ofList_toList]
    intro c hc
    have hdigit := List.all_eq_true.mp hdigits c (List.contains_iff_mem.mp (h.2 c hc))
    simpa using hdigit
  · rintro rfl
    exact absurd h.1 (by decide)

/-- The records in memory are those in the files, except for files that hold no JSON. -/
structure Backed (py : Interpreter) (jobs : Dict String JsonDict) (storage : JobFiles) : Prop where
  jobId : ∀ jobId job, jobs.get? jobId = some job →
    isJobId jobId = true ∧ job.get? "id" = some (.str jobId)
  stored : ∀ jobId job, jobs.get? jobId = some job →
    storage.get? jobId = some (.json job.toJson)
  loaded : ∀ jobId file, storage.get? jobId = some file → jobs.get? jobId = none →
    file.load py = none

section
variable {py : Interpreter} {jobs : Dict String JsonDict} {storage : JobFiles}

theorem persistedJob_json {jobId stem : String} {job : JsonDict} (hid : isJobId jobId = true)
    (hjob : job.get? "id" = some (.str jobId)) :
    persistedJob py (stem, .json job.toJson) = some (jobId, job) := by
  obtain ⟨hstrip, hne⟩ := strip_jobId hid
  have hfield : (Json.obj job.items).get? "id" = some (.str jobId) :=
    (Json.get?_obj_iff job.nodup).mpr (Dict.get?_eq_some_iff.mp hjob)
  have htext : textField py (.obj job.items) "id" = PyText.strip jobId := textField_str hfield
  rw [hstrip] at htext
  have hcopy : JsonDict.ofFields job.items = job := Dict.update_empty_items job
  simp only [persistedJob, FileContent.load, JsonDict.toJson]
  rw [htext, if_neg hne, hcopy]

theorem persistedJob_of_mem (h : Backed py jobs storage) {file : String × FileContent}
    (hfile : file ∈ storage.items) :
    persistedJob py file = (jobs.get? file.1).map fun job => (file.1, job) := by
  have hget : storage.get? file.1 = some file.2 := Dict.get?_eq_some_iff.mpr hfile
  cases hjob : jobs.get? file.1 with
  | none =>
      have hload := h.loaded _ _ hget hjob
      simp only [persistedJob, hload]
      rfl
  | some job =>
      have hstored := h.stored _ _ hjob
      rw [hget, Option.some.injEq] at hstored
      have hpersisted := @persistedJob_json py _ file.1 _ (h.jobId _ _ hjob).1
        (h.jobId _ _ hjob).2
      rw [← hstored] at hpersisted
      exact hpersisted

/-- What the next process loads is what the last one had. -/
theorem get?_loadPersistedJobs (h : Backed py jobs storage) (jobId : String) :
    (loadPersistedJobs py storage).get? jobId = jobs.get? jobId := by
  have hperm : (sortedPaths storage).Perm storage.items := List.mergeSort_perm _ _
  have hpersisted : (sortedPaths storage).filterMap (persistedJob py) =
      (sortedPaths storage).filterMap fun file =>
        (jobs.get? file.1).map fun job => (file.1, job) :=
    List.filterMap_congr fun file hfile => persistedJob_of_mem h (hperm.mem_iff.mp hfile)
  have hnodup : (((sortedPaths storage).filterMap fun file =>
      (jobs.get? file.1).map fun job => (file.1, job)).map Prod.fst).Nodup := by
    have hkeys : ((sortedPaths storage).map Prod.fst).Nodup :=
      (hperm.map Prod.fst).nodup_iff.mpr storage.nodup
    refine List.Nodup.sublist ?_ hkeys
    · clear hpersisted hperm
      induction sortedPaths storage with
      | nil => exact List.Sublist.slnil
      | cons file rest ih =>
          cases hjob : jobs.get? file.1 with
          | none =>
              rw [List.filterMap_cons_none (by rw [hjob]; rfl)]
              exact ih.cons _
          | some job =>
              rw [List.filterMap_cons_some (by rw [hjob]; rfl)]
              exact ih.cons_cons _
  have hiff : ∀ job, (loadPersistedJobs py storage).get? jobId = some job ↔
      jobs.get? jobId = some job := by
    intro job
    rw [loadPersistedJobs, hpersisted, Dict.get?_update_empty_iff hnodup, List.mem_filterMap]
    constructor
    · rintro ⟨file, -, hfile⟩
      obtain ⟨job', hjob', heq⟩ := Option.map_eq_some_iff.mp hfile
      cases heq
      exact hjob'
    · intro hjob
      refine ⟨(jobId, .json job.toJson), hperm.mem_iff.mpr ?_, ?_⟩
      · exact Dict.get?_eq_some_iff.mp (h.stored _ _ hjob)
      · rw [hjob]
        rfl
  exact Option.ext hiff

theorem Backed.reload (h : Backed py jobs storage) :
    Backed py (loadPersistedJobs py storage) storage := by
  constructor
  · intro jobId job hjob
    rw [get?_loadPersistedJobs h] at hjob
    exact h.jobId _ _ hjob
  · intro jobId job hjob
    rw [get?_loadPersistedJobs h] at hjob
    exact h.stored _ _ hjob
  · intro jobId file hfile hnone
    rw [get?_loadPersistedJobs h] at hnone
    exact h.loaded _ _ hfile hnone

/-- A record that is written to memory and to its file. -/
theorem Backed.put (h : Backed py jobs storage) {jobId : String} {job : JsonDict}
    (hid : isJobId jobId = true) (hjob : job.get? "id" = some (.str jobId)) :
    Backed py (jobs.set jobId job) (storage.set jobId (.json job.toJson)) := by
  constructor
  · intro other job' hother
    by_cases heq : jobId = other
    · subst heq
      rw [Dict.get?_set_self, Option.some.injEq] at hother
      exact ⟨hid, hother ▸ hjob⟩
    · rw [Dict.get?_set_ne _ _ heq] at hother
      exact h.jobId _ _ hother
  · intro other job' hother
    by_cases heq : jobId = other
    · subst heq
      rw [Dict.get?_set_self, Option.some.injEq] at hother
      rw [Dict.get?_set_self, hother]
    · rw [Dict.get?_set_ne _ _ heq] at hother ⊢
      exact h.stored _ _ hother
  · intro other file hfile hnone
    by_cases heq : jobId = other
    · subst heq
      rw [Dict.get?_set_self] at hnone
      cases hnone
    · rw [Dict.get?_set_ne _ _ heq] at hfile hnone
      exact h.loaded _ _ hfile hnone

/-- A file whose writing was interrupted takes its record along. -/
theorem Backed.torn (h : Backed py jobs storage) {jobId text : String}
    (htext : (FileContent.text text).load py = none) :
    Backed py (jobs.erase jobId) (storage.set jobId (.text text)) := by
  have hkept : ∀ other job, (jobs.erase jobId).get? other = some job →
      jobId ≠ other ∧ jobs.get? other = some job := by
    intro other job hother
    by_cases heq : jobId = other
    · subst heq
      rw [Dict.get?_erase_self] at hother
      cases hother
    · rw [Dict.get?_erase_ne _ heq] at hother
      exact ⟨heq, hother⟩
  constructor
  · intro other job hother
    exact h.jobId _ _ (hkept other job hother).2
  · intro other job hother
    obtain ⟨hne, hjob⟩ := hkept other job hother
    rw [Dict.get?_set_ne _ _ hne]
    exact h.stored _ _ hjob
  · intro other file hfile hnone
    by_cases heq : jobId = other
    · subst heq
      rw [Dict.get?_set_self, Option.some.injEq] at hfile
      exact hfile ▸ htext
    · rw [Dict.get?_set_ne _ _ heq] at hfile
      rw [Dict.get?_erase_ne _ heq] at hnone
      exact h.loaded _ _ hfile hnone

end

/-! ## Steps -/

section
variable {py : Interpreter} {s s' : DashboardProcess} {jobId : String}

/-- What holds between the records and the threads of a process. -/
structure Recorded (py : Interpreter) (s : DashboardProcess) : Prop where
  backed : Backed py s.store.jobs s.store.storage
  settled : Settled s
  active : ∀ jobId ∈ s.runners.map Prod.fst,
    ∃ job, s.store.jobs.get? jobId = some job ∧ ¬ Terminal job
  distinct : (s.runners.map Prod.fst).Nodup

/-- A record that says the job has ended stays as it is. -/
def TerminalKept (s s' : DashboardProcess) : Prop :=
  ∀ jobId job, s.store.jobs.get? jobId = some job → Terminal job →
    s'.store.jobs.get? jobId = some job

/-- A record is written for a job that has not ended, and the other threads go on. -/
theorem Recorded.write (h : Recorded py s) {job : JsonDict}
    {runners : List (String × RunnerPhase)} (hid : isJobId jobId = true)
    (hjob : job.get? "id" = some (.str jobId))
    (hopen : ∀ old, s.store.jobs.get? jobId = some old → ¬ Terminal old)
    (hdistinct : (runners.map Prod.fst).Nodup)
    (hothers : ∀ other, jobId ≠ other →
      (other ∈ runners.map Prod.fst ↔ other ∈ s.runners.map Prod.fst))
    (hstate : jobId ∈ runners.map Prod.fst ↔ ¬ Terminal job) :
    Recorded py ⟨⟨s.store.jobs.set jobId job, s.store.storage.set jobId (.json job.toJson)⟩,
        runners⟩ ∧
      TerminalKept s ⟨⟨s.store.jobs.set jobId job, s.store.storage.set jobId (.json job.toJson)⟩,
        runners⟩ := by
  refine ⟨⟨h.backed.put hid hjob, ?_, ?_, hdistinct⟩, ?_⟩
  · intro other found hfound hgone
    dsimp only at hfound hgone
    by_cases heq : jobId = other
    · subst heq
      rw [Dict.get?_set_self, Option.some.injEq] at hfound
      subst hfound
      by_contra hnot
      exact hgone (hstate.mpr hnot)
    · rw [Dict.get?_set_ne _ _ heq] at hfound
      exact h.settled _ _ hfound fun hlive => hgone ((hothers other heq).mpr hlive)
  · intro other hlive
    dsimp only at hlive ⊢
    by_cases heq : jobId = other
    · subst heq
      exact ⟨job, Dict.get?_set_self _ _ _, hstate.mp hlive⟩
    · rw [Dict.get?_set_ne _ _ heq]
      exact h.active other ((hothers other heq).mp hlive)
  · intro other found hfound hterminal
    dsimp only
    by_cases heq : jobId = other
    · subst heq
      exact absurd hterminal (hopen found hfound)
    · rw [Dict.get?_set_ne _ _ heq]
      exact hfound

/-- The next process finds the records of the last, where no thread was lost. -/
theorem Recorded.reopen (h : Recorded py s) {storage : JobFiles} {jobs : Dict String JsonDict}
    (hbacked : Backed py jobs storage)
    (hjobs : ∀ jobId job, jobs.get? jobId = some job → s.store.jobs.get? jobId = some job)
    (hlost : ∀ jobId job, s.store.jobs.get? jobId = some job → Terminal job →
      jobs.get? jobId = some job)
    (hrunners : ∀ jobId ∈ s.runners.map Prod.fst, jobs.get? jobId = none) :
    Recorded py (restarted py storage) ∧ TerminalKept s (restarted py storage) := by
  have hload : ∀ jobId, (restarted py storage).store.jobs.get? jobId = jobs.get? jobId :=
    get?_loadPersistedJobs hbacked
  refine ⟨⟨hbacked.reload, ?_, ?_, List.nodup_nil⟩, ?_⟩
  · intro jobId job hjob _
    rw [hload] at hjob
    apply h.settled jobId job (hjobs jobId job hjob)
    intro hlive
    rw [hrunners jobId hlive] at hjob
    cases hjob
  · intro jobId hlive
    cases hlive
  · intro jobId job hjob hterminal
    rw [hload]
    exact hlost jobId job hjob hterminal

theorem terminal_of_status {job : JsonDict} {text : String}
    (h : job.get? "status" = some (.str text)) :
    Terminal job ↔ text = "completed" ∨ text = "failed" := by
  unfold Terminal
  rw [h]
  simp

theorem nodup_keys_append {α : Type} {items : List (String × α)} {key : String} {value : α}
    (hitems : (items.map Prod.fst).Nodup) (hkey : key ∉ items.map Prod.fst) :
    ((items ++ [(key, value)]).map Prod.fst).Nodup := by
  rw [List.map_append, List.map_singleton, ← List.concat_eq_append]
  exact hitems.concat hkey

theorem queuedJob_fields (jobId name now : String) :
    (queuedJob jobId name now).get? "id" = some (.str jobId) ∧
      (queuedJob jobId name now).get? "status" = some (.str "queued") :=
  ⟨rfl, rfl⟩

theorem updatedJob_fields {job : JsonDict} {now status : String} {updates : List (String × Json)}
    (hkeys : "id" ∉ updates.map Prod.fst ∧ "updated_at" ∉ updates.map Prod.fst)
    (hnodup : (updates.map Prod.fst).Nodup) (hstatus : ("status", .str status) ∈ updates) :
    (updatedJob job now updates).get? "id" = job.get? "id" ∧
      (updatedJob job now updates).get? "status" = some (.str status) := by
  constructor
  · apply Dict.get?_update_of_notMem
    simpa using hkeys.1
  · apply Dict.get?_update_of_mem
    · exact nodup_keys_append hnodup hkeys.2
    · exact List.mem_append_left _ hstatus

theorem DashboardJobStore.start_eq (store : DashboardJobStore) (jobId name now : String) :
    store.start jobId name now = ⟨store.jobs.set jobId (queuedJob jobId name now),
      store.storage.set jobId (.json (queuedJob jobId name now).toJson)⟩ := by
  unfold start persistJob
  dsimp only
  rw [Dict.get?_set_self]

theorem DashboardJobStore.update_eq {store : DashboardJobStore} {job : JsonDict} {now : String}
    {updates : List (String × Json)} (hjob : store.jobs.get? jobId = some job) :
    store.update jobId now updates = ⟨store.jobs.set jobId (updatedJob job now updates),
      store.storage.set jobId (.json (updatedJob job now updates).toJson)⟩ := by
  unfold update
  rw [hjob]
  unfold persistJob
  dsimp only
  rw [Dict.get?_set_self]

/-- The thread of a job writes the job's status. -/
theorem Recorded.update (h : Recorded py s) (hlive : jobId ∈ s.runners.map Prod.fst)
    {now status : String} {updates : List (String × Json)}
    (hkeys : "id" ∉ updates.map Prod.fst ∧ "updated_at" ∉ updates.map Prod.fst)
    (hnodup : (updates.map Prod.fst).Nodup) (hstatus : ("status", .str status) ∈ updates)
    {runners : List (String × RunnerPhase)} (hdistinct : (runners.map Prod.fst).Nodup)
    (hothers : ∀ other, jobId ≠ other →
      (other ∈ runners.map Prod.fst ↔ other ∈ s.runners.map Prod.fst))
    (hstate : jobId ∈ runners.map Prod.fst ↔ ¬ (status = "completed" ∨ status = "failed")) :
    Recorded py ⟨s.store.update jobId now updates, runners⟩ ∧
      TerminalKept s ⟨s.store.update jobId now updates, runners⟩ := by
  obtain ⟨job, hjob, hopen⟩ := h.active jobId hlive
  obtain ⟨hid, hname⟩ := h.backed.jobId _ _ hjob
  obtain ⟨hname', hstatus'⟩ := @updatedJob_fields job now _ _ hkeys hnodup hstatus
  rw [DashboardJobStore.update_eq hjob]
  refine h.write hid (hname'.trans hname) ?_ hdistinct hothers ?_
  · intro old hold
    rw [hjob, Option.some.injEq] at hold
    exact hold ▸ hopen
  · rw [terminal_of_status hstatus', hstate]

theorem JobOutcome.updates_ok (outcome : JobOutcome) :
    ∃ status, ("status", .str status) ∈ outcome.updates ∧
      (status = "completed" ∨ status = "failed") ∧
      ("id" ∉ outcome.updates.map Prod.fst ∧ "updated_at" ∉ outcome.updates.map Prod.fst) ∧
      (outcome.updates.map Prod.fst).Nodup := by
  cases outcome with
  | returns result =>
      exact ⟨"completed", List.mem_cons_self, .inl rfl, by simp [updates], by simp [updates]⟩
  | raises message =>
      exact ⟨"failed", List.mem_cons_self, .inr rfl, by simp [updates], by simp [updates]⟩

/-- The process ends over a write, with no other thread. -/
theorem Recorded.torn (h : Recorded py s) {text : String}
    (hallowed : LeavesNoRunner s (.torn jobId)) (htext : (FileContent.text text).load py = none) :
    Recorded py (restarted py (s.store.storage.set jobId (.text text))) ∧
      TerminalKept s (restarted py (s.store.storage.set jobId (.text text))) := by
  obtain ⟨hothers, hnew⟩ := hallowed
  refine h.reopen (h.backed.torn htext) ?_ ?_ ?_
  · intro other job hjob
    by_cases heq : jobId = other
    · subst heq
      rw [Dict.get?_erase_self] at hjob
      cases hjob
    · rwa [Dict.get?_erase_ne _ heq] at hjob
  · intro other job hjob hterminal
    have hne : jobId ≠ other := by
      rintro rfl
      by_cases hlive : jobId ∈ s.runners.map Prod.fst
      · obtain ⟨job', hjob', hopen⟩ := h.active jobId hlive
        rw [hjob, Option.some.injEq] at hjob'
        exact hopen (hjob' ▸ hterminal)
      · rw [(hnew hlive).1] at hjob
        cases hjob
    rw [Dict.get?_erase_ne _ hne]
    exact hjob
  · intro other hlive
    rw [hothers other hlive, Dict.get?_erase_self]

/-- What a step keeps. -/
theorem Recorded.step (h : Recorded py s) {event : JobEvent} (hallowed : LeavesNoRunner s event)
    (hstep : JobStep py s event s') : Recorded py s' ∧ TerminalKept s s' := by
  cases hstep with
  | @start _ jobId name now hid =>
      obtain ⟨hjobs, -⟩ := hallowed
      obtain ⟨hname, hstatus⟩ := queuedJob_fields jobId name now
      have hnew : jobId ∉ s.runners.map Prod.fst := by
        intro hlive
        obtain ⟨job, hjob, -⟩ := h.active jobId hlive
        rw [hjobs] at hjob
        cases hjob
      rw [DashboardJobStore.start_eq]
      refine h.write hid hname ?_ ?_ ?_ ?_
      · intro old hold
        rw [hjobs] at hold
        cases hold
      · exact nodup_keys_append h.distinct hnew
      · intro other hne
        simp [hne.symm]
      · rw [terminal_of_status hstatus]
        simp
  | @begin store before after jobId now =>
      refine @Recorded.update py _ jobId h (by simp) now "running" _ (by simp) (by simp) (by simp)
        _ ?_ ?_ ?_
      · simpa using h.distinct
      · intro other hne
        simp
      · simp
  | @finish store before after jobId now outcome =>
      obtain ⟨status, hstatus, hended, hkeys, hnodup⟩ := outcome.updates_ok
      have hdistinct := h.distinct
      rw [List.map_append, List.map_cons, List.nodup_middle, List.nodup_cons] at hdistinct
      refine h.update (by simp) hkeys hnodup hstatus ?_ ?_ ?_
      · rw [List.map_append]
        exact hdistinct.2
      · intro other hne
        simp [hne.symm]
      · rw [List.map_append]
        exact ⟨fun hlive => absurd hlive hdistinct.1, fun hnot => absurd hended hnot⟩
  | get => exact ⟨h, fun _ _ hjob _ => hjob⟩
  | restart =>
      refine h.reopen h.backed (fun _ _ hjob => hjob) (fun _ _ hjob _ => hjob) ?_
      intro jobId hlive
      rw [LeavesNoRunner] at hallowed
      rw [hallowed] at hlive
      cases hlive
  | tornStart hid htext => exact h.torn hallowed htext
  | tornUpdate hlive htext => exact h.torn hallowed htext

/-! ## Runs -/

theorem jobs_freshDashboard (py : Interpreter) : (freshDashboard py).store.jobs = Dict.empty := by
  show loadPersistedJobs py Dict.empty = Dict.empty
  rw [loadPersistedJobs, sortedPaths, Dict.items_empty, List.mergeSort_nil]
  rfl

theorem newJobId_fresh (py : Interpreter) (jobId : String) :
    NewJobId (freshDashboard py) jobId := by
  rw [NewJobId, jobs_freshDashboard]
  exact ⟨rfl, rfl⟩

theorem recorded_fresh (py : Interpreter) : Recorded py (freshDashboard py) := by
  have hnone : ∀ jobId job, (freshDashboard py).store.jobs.get? jobId ≠ some job := by
    intro jobId job hjob
    rw [jobs_freshDashboard] at hjob
    cases hjob
  refine ⟨⟨?_, ?_, ?_⟩, ?_, ?_, List.nodup_nil⟩
  · exact fun jobId job hjob => absurd hjob (hnone jobId job)
  · exact fun jobId job hjob => absurd hjob (hnone jobId job)
  · intro jobId file hfile
    cases hfile
  · exact fun jobId job hjob => absurd hjob (hnone jobId job)
  · intro jobId hlive
    cases hlive

theorem Recorded.run (h : Recorded py s) (hrun : JobRun py LeavesNoRunner s s') :
    Recorded py s' ∧ TerminalKept s s' := by
  induction hrun with
  | refl => exact ⟨h, fun _ _ hjob _ => hjob⟩
  | tail _ hstep ih =>
      obtain ⟨event, hallowed, hstep⟩ := hstep
      obtain ⟨hrecorded, hkept⟩ := ih
      obtain ⟨hrecorded', hkept'⟩ := hrecorded.step hallowed hstep
      exact ⟨hrecorded', fun jobId job hjob hterminal =>
        hkept' jobId job (hkept jobId job hjob hterminal) hterminal⟩

/-- The threads that a restart ends are those whose jobs it leaves behind. -/
theorem Recorded.settled_restarted_iff (h : Recorded py s) :
    Settled (restarted py s.store.storage) ↔ s.runners = [] := by
  constructor
  · intro hsettled
    rw [List.eq_nil_iff_forall_not_mem]
    intro runner hrunner
    obtain ⟨job, hjob, hopen⟩ := h.active runner.1 (List.mem_map_of_mem hrunner)
    rw [← get?_loadPersistedJobs h.backed] at hjob
    exact hopen (hsettled runner.1 job hjob List.not_mem_nil)
  · intro hnone
    exact (@Recorded.step py s _ h .restart hnone .restart).1.settled

theorem get_eq_of_terminal {store : DashboardJobStore} {job : JsonDict} (hterminal : Terminal job) :
    store.get jobId = some job ↔ store.jobs.get? jobId = some job := by
  have hne : job.items ≠ [] := by
    intro hnil
    rcases hterminal with hstatus | hstatus <;>
      · rw [Dict.get?_eq_some_iff, hnil] at hstatus
        cases hstatus
  unfold DashboardJobStore.get
  rw [Option.filter_eq_some_iff]
  simp [hne]

/-- Where no process ends over a thread, every job without a thread has come to an end and
the record of an ended job stays; a restart over a thread leaves its job behind. -/
theorem jobs_recover (hrun : JobRun py LeavesNoRunner (freshDashboard py) s) :
    Settled s ∧
      (∀ s', JobRun py LeavesNoRunner s s' → ∀ jobId job, s.store.get jobId = some job →
        Terminal job → s'.store.get jobId = some job) ∧
      (Settled (restarted py s.store.storage) ↔ s.runners = []) := by
  have hrecorded := ((recorded_fresh py).run hrun).1
  refine ⟨hrecorded.settled, ?_, hrecorded.settled_restarted_iff⟩
  intro s' hrun' jobId job hjob hterminal
  rw [get_eq_of_terminal hterminal] at hjob ⊢
  exact (hrecorded.run hrun').2 jobId job hjob hterminal

end

/-! ## A finished and an interrupted job -/

def samplePython : Interpreter where
  loads := fun _ => none
  dumps := fun _ => ""
  repr := fun _ => ""
  isAlnum := Char.isAlphanum
  lower := id
  lower_empty := id_eq ""

theorem finished_job_recovers : ∃ s, JobRun samplePython LeavesNoRunner (freshDashboard samplePython) s ∧
    (s.store.get "0123456789ab").isSome = true ∧ Settled (restarted samplePython s.store.storage) := by
  let started := (freshDashboard samplePython).store.start "0123456789ab" "task-run" "09:00"
  let running := started.update "0123456789ab" "09:01" [("status", .str "running")]
  let outcome := JobOutcome.returns (.str "done")
  have hstarted : JobRun samplePython LeavesNoRunner (freshDashboard samplePython)
      ⟨started, [("0123456789ab", .queued)]⟩ :=
    .single ⟨.start "0123456789ab", newJobId_fresh _ _, .start "task-run" "09:00" (by decide +kernel)⟩
  have hrunning : JobRun samplePython LeavesNoRunner (freshDashboard samplePython)
      ⟨running, [("0123456789ab", .running)]⟩ :=
    hstarted.tail ⟨.begin "0123456789ab", trivial, @JobStep.begin _ started [] [] _ "09:01"⟩
  have hfinished : JobRun samplePython LeavesNoRunner (freshDashboard samplePython)
      ⟨running.update "0123456789ab" "09:05" outcome.updates, []⟩ :=
    hrunning.tail ⟨.finish "0123456789ab", trivial, @JobStep.finish _ running [] [] _ "09:05" outcome⟩
  have hkept : ((running.update "0123456789ab" "09:05" outcome.updates).get
      "0123456789ab").isSome = true := by
    simp only [running, started, DashboardJobStore.start, jobs_freshDashboard]
    decide +kernel
  exact ⟨_, hfinished, hkept, (jobs_recover hfinished).2.2.mpr rfl⟩

/-- The thread of a queued job ends with its process, and the job stays queued. -/
theorem queued_job_left_behind :
    ¬ ∀ (py : Interpreter) (s : DashboardProcess),
      JobRun py StartsNew (freshDashboard py) s → Settled s := by
  intro hall
  have hnew := newJobId_fresh samplePython "0123456789ab"
  have hstart : JobStep samplePython (freshDashboard samplePython) (.start "0123456789ab") _ :=
    .start "task-run" "09:00" (by decide +kernel)
  have hrecorded := (@Recorded.step _ _ _ (recorded_fresh samplePython) (.start _) hnew hstart).1
  have hqueued : JobRun samplePython StartsNew (freshDashboard samplePython) _ :=
    .single ⟨.start "0123456789ab", hnew, hstart⟩
  have hsettled := hall samplePython _ (hqueued.tail ⟨.restart, trivial, .restart⟩)
  have hnone := hrecorded.settled_restarted_iff.mp hsettled
  cases hnone

end TruePresenceESE.Ese
