import TruePresenceESE.Lib.Lists
import TruePresenceESE.Ese.ArtifactConfinement

/-! # Recorded feedback and runs

Feedback is recorded in the store that the path leads to at that time: the one
in the artifacts directory, or the one next to it as soon as the directory holds
the state file of a run. A run leaves every store alone, unless the name of a
role leads to it, but its first state file moves the path to another one.
-/

namespace TruePresenceESE.Ese

open PosixPath PyText PyValue

/-! ## Recording -/

/-- The `ALLOWED_FEEDBACK`, sorted. -/
def allowedFeedback : List String := ["noisy", "useful", "wrong"]

/-- What an operator notes about a finding. -/
structure FeedbackNote where
  role : String
  title : String
  feedback : String
  artifactsDir : Option String
  details : Option String

def FeedbackNote.entry (py : Interpreter) (timestamp : String) (note : FeedbackNote) : Json :=
  .obj [("timestamp", .str timestamp), ("role", .str (strip note.role)),
    ("title", .str (strip note.title)), ("feedback", .str (py.lower (strip note.feedback))),
    ("artifacts_dir", .str (strip (note.artifactsDir.getD ""))),
    ("details", .str (strip (note.details.getD "")))]

def storePayload (items : List Json) : Json :=
  .obj [("version", .num 1), ("items", .arr items)]

/-- What is on disk after the call, and the entry it returns or the message of
the `ValueError` it raises. -/
def recordFeedback (py : Interpreter) (fs : FileSystem) (workingDir : Location)
    (path timestamp : String) (note : FeedbackNote) : FileSystem × Except String Json :=
  if py.lower (strip note.feedback) ∉ allowedFeedback then
    (fs, .error ("feedback must be one of: " ++ String.intercalate ", " allowedFeedback))
  else if strip note.role = "" then (fs, .error "role is required")
  else if strip note.title = "" then (fs, .error "title is required")
  else
    let location := feedbackStoreLocation fs workingDir path
    let items := loadFeedbackStore py (fs location)
    (fs.write location (.json (storePayload (items ++ [note.entry py timestamp]))),
      .ok (note.entry py timestamp))

/-! ## The summary -/

structure FeedbackSummary where
  counts : FeedbackCounts
  roleCounts : Dict String FeedbackCounts
  roleBias : List (String × String)
  guidance : List String
  entries : List Json

def itemFeedback (py : Interpreter) (item : Json) : String :=
  py.lower (textField py item "feedback")

def roleBias (counts : FeedbackCounts) : Option String :=
  if max (counts.noisy + counts.wrong) 2 ≤ counts.useful then some "positive"
  else if max counts.useful 2 ≤ counts.noisy + counts.wrong then some "negative"
  else none

def feedbackSummary (py : Interpreter) (fs : FileSystem) (workingDir : Location) (path : String) :
    FeedbackSummary :=
  let items := loadFeedbackStore py (fs (feedbackStoreLocation fs workingDir path))
  let byRole := items.foldl (countFeedback py) Dict.empty
  { counts := ((items.map (itemFeedback py)).filter (· ∈ allowedFeedback)).foldl
      FeedbackCounts.add ⟨0, 0, 0⟩
    roleCounts := byRole
    roleBias := (byRole.items.mergeSort fun p q => p.1 ≤ q.1).filterMap fun p =>
      (roleBias p.2).map (p.1, ·)
    guidance := feedbackGuidance py items
    entries := items }

/-- The prompts of a run carry the guidance of the summary. -/
theorem feedbackPromptGuidance_eq (py : Interpreter) (fs : FileSystem) (workingDir : Location)
    (path : String) :
    feedbackPromptGuidance py fs workingDir path =
      let guidance := (feedbackSummary py fs workingDir path).guidance
      if guidance.isEmpty then ""
      else String.intercalate "\n"
        ("Operator feedback from prior runs:" :: guidance.map ("- " ++ ·)) := rfl

/-- A role has guidance exactly when the summary calls it biased. -/
theorem isSome_roleGuidance (role : String) (counts : FeedbackCounts) :
    (roleGuidance role counts).isSome = (roleBias counts).isSome := by
  unfold roleGuidance roleBias
  split
  · rfl
  · split <;> rfl

/-! ## What recording does -/

section
variable {py : Interpreter} {fs fs' : FileSystem} {workingDir : Location} {path timestamp : String}
  {note : FeedbackNote} {entry : Json}

theorem loadFeedbackStore_storePayload (items : List Json) :
    loadFeedbackStore py (some (.json (storePayload items))) = items.filter isObject := by
  simp [loadFeedbackStore, FileContent.load, storePayload, Json.get?]

theorem isObject_of_mem_loadFeedbackStore {store : Option FileContent} {item : Json}
    (h : item ∈ loadFeedbackStore py store) : isObject item = true := by
  unfold loadFeedbackStore at h
  split at h
  · exact (List.mem_filter.mp h).2
  · cases h

theorem recordFeedback_ok (h : recordFeedback py fs workingDir path timestamp note = (fs', .ok entry)) :
    isObject entry = true ∧ fs' = fs.write (feedbackStoreLocation fs workingDir path)
      (.json (storePayload
        (loadFeedbackStore py (fs (feedbackStoreLocation fs workingDir path)) ++ [entry]))) := by
  unfold recordFeedback at h
  split at h
  · cases h
  · split at h
    · cases h
    · split at h
      · cases h
      · cases h
        exact ⟨rfl, rfl⟩

theorem recordFeedback_error {message : String}
    (h : recordFeedback py fs workingDir path timestamp note = (fs', .error message)) : fs' = fs := by
  unfold recordFeedback at h
  split at h
  · cases h
    rfl
  · split at h
    · cases h
      rfl
    · split at h
      · cases h
        rfl
      · cases h

/-- A note with a role, a title and a known kind of feedback is recorded. -/
theorem recordFeedback_of_valid (fs : FileSystem) (workingDir : Location) (path timestamp : String)
    (hfeedback : py.lower (strip note.feedback) ∈ allowedFeedback) (hrole : strip note.role ≠ "")
    (htitle : strip note.title ≠ "") :
    (recordFeedback py fs workingDir path timestamp note).2 = .ok (note.entry py timestamp) := by
  rw [recordFeedback, if_neg (not_not.mpr hfeedback), if_neg hrole, if_neg htitle]

/-- Where feedback is kept depends on the state file alone. -/
theorem feedbackStoreLocation_congr
    (h : (fs' (fileIn workingDir path stateName)).isSome =
      (fs (fileIn workingDir path stateName)).isSome) :
    feedbackStoreLocation fs' workingDir path = feedbackStoreLocation fs workingDir path := by
  rw [feedbackStoreLocation, feedbackStoreLocation, h]

theorem feedbackStoreLocation_ne_state (fs : FileSystem) (workingDir workingDir' : Location)
    (path path' : String) :
    feedbackStoreLocation fs workingDir path ≠ fileIn workingDir' path' stateName := by
  intro heq
  have hlast := getLast?_feedbackStore fs workingDir path
  rw [heq, fileIn, List.getLast?_concat, Option.some.injEq] at hlast
  have hne : stateName.toList ≠ feedbackStoreName.toList := by decide
  exact hne hlast

/-- Recording adds the entry to what the path leads to, before and after. -/
theorem recordFeedback_entries
    (h : recordFeedback py fs workingDir path timestamp note = (fs', .ok entry)) :
    (feedbackSummary py fs' workingDir path).entries =
      (feedbackSummary py fs workingDir path).entries ++ [entry] := by
  obtain ⟨hobject, rfl⟩ := recordFeedback_ok h
  have hplace := @feedbackStoreLocation_congr fs _ workingDir path (congrArg Option.isSome
    (FileSystem.write_of_ne fs (feedbackStoreLocation_ne_state fs workingDir workingDir path path).symm
      (.json (storePayload (loadFeedbackStore py (fs (feedbackStoreLocation fs workingDir path)) ++
        [entry])))))
  show loadFeedbackStore py _ = loadFeedbackStore py _ ++ [entry]
  rw [hplace, FileSystem.write_self, loadFeedbackStore_storePayload, List.filter_eq_self]
  intro item hitem
  rcases List.mem_append.mp hitem with hkept | hnew
  · exact isObject_of_mem_loadFeedbackStore hkept
  · rw [List.mem_singleton.mp hnew]
    exact hobject

end

/-! ## What a run does to the stores -/

/-- The index of the role that a call starts from. -/
def RunRequest.startIndex (request : RunRequest) (s : RunSettings) : Nat :=
  request.givenStartRole.elim 0 fun startRole => s.roleOrder.idxOf (strip startRole)

/-- A call that gets to its roles in a directory without a state file. -/
def RunRequest.StartsFresh (request : RunRequest) (s : RunSettings) : Prop :=
  request.adapter.isOk = true ∧ ∀ startRole, request.givenStartRole = some startRole →
    s.roleOrder.head? = some (strip startRole)

section
variable {host : Host} {s : RunSettings} {request : RunRequest} {fs : FileSystem} {resume : Resume}

theorem loadResumeState_startIndex (h : loadResumeState host s request fs = .ok resume) :
    resume.startIndex = request.startIndex s := by
  unfold loadResumeState at h
  unfold RunRequest.startIndex
  cases hgiven : request.givenStartRole with
  | none =>
      rw [hgiven] at h
      cases h
      rfl
  | some startRole =>
      rw [hgiven] at h
      dsimp only at h
      split at h
      · cases h
      · split at h
        · rename_i hindex
          cases h
          exact hindex.symm
        · obtain ⟨saved, -, h⟩ := Fallible.bind_eq_ok_iff.mp h
          obtain ⟨seeded, -, h⟩ := Fallible.bind_eq_ok_iff.mp h
          cases h
          rfl

theorem startsFresh_of_startRun {env : RunEnv}
    (h : startRun host s request fs = .ok (env, resume))
    (hstate : fs (stateLocation host s.artifactsDir) = none) : request.StartsFresh s := by
  obtain ⟨adapter, hadapter, hresume, -⟩ := startRun_ok_iff.mp h
  refine ⟨by rw [hadapter]; rfl, fun startRole hgiven => ?_⟩
  unfold loadResumeState at hresume
  rw [hgiven] at hresume
  dsimp only at hresume
  split at hresume
  · cases hresume
  · rename_i hmem
    split at hresume
    · rename_i hindex
      exact Lists.head?_of_idxOf_eq_zero (not_not.mp hmem) hindex
    · obtain ⟨⟨state, artifacts⟩, hsaved, -⟩ := Fallible.bind_eq_ok_iff.mp hresume
      obtain ⟨content, hcontent, -⟩ := loadSavedState_ok_iff.mp hsaved
      rw [withSnapshot_of_ne fs (stateLocation_ne_snapshot host s), hstate] at hcontent
      cases hcontent

/-- Persisting leaves the stores alone. -/
theorem persistRunOutputs_store (env : RunEnv) (st : RunState) (ending : Ending)
    {location : Location} (hlast : location.getLast? = some feedbackStoreName.toList) :
    (persistRunOutputs env st ending).1 location = st.fs location := by
  have hother : ∀ name ∈ [stateName, summaryName], location ≠ env.fileNamed name := by
    intro name hname heq
    have hreserved : name ∈ reservedNames := by
      simp only [List.mem_cons, List.not_mem_nil, or_false] at hname
      rcases hname with rfl | rfl <;> simp [reservedNames]
    rw [heq, env.fileNamed_reserved hreserved, fileIn, List.getLast?_concat, Option.some.injEq]
      at hlast
    simp only [List.mem_cons, List.not_mem_nil, or_false] at hname
    revert hlast
    rcases hname with rfl | rfl <;> decide
  rw [(persistRunOutputs_derives env st ending).of_getLast?_ne, writeSummaryAndState,
    FileSystem.write_of_ne _ (hother stateName (by simp)),
    FileSystem.write_of_ne _ (hother summaryName (by simp))]
  rw [hlast]
  decide

theorem foldl_keepDone_fs_of_ne {env : RunEnv} {ds : List Done} (st : RunState)
    {location : Location} (h : ∀ d ∈ ds, d.location env ≠ location) :
    (ds.foldl (keepDone env) st).fs location = st.fs location := by
  induction ds generalizing st with
  | nil => rfl
  | cons d ds ih =>
      rw [List.forall_mem_cons] at h
      rw [List.foldl_cons, ih _ h.2, keepDone_fs, FileSystem.write_of_ne _ h.1.symm]

/-- A run leaves a store alone that the names of its roles do not lead to. -/
theorem runPipeline_store {location : Location}
    (hlast : location.getLast? = some feedbackStoreName.toList)
    (h : ∀ next ∈ pendingRoles s (request.startIndex s), artifactLocation host s next ≠ location) :
    (runPipeline host s request fs).1 location = fs location := by
  have hsnapshot : location ≠ snapshotLocation host s := by
    rintro rfl
    rw [snapshotLocation, fileIn, List.getLast?_concat] at hlast
    revert hlast
    decide
  rcases runPipeline_cases host s request fs with
    ⟨halt, hstart, hrun, -⟩ | ⟨env, resume, ds, ending, hrun⟩
  · obtain ⟨hfs, -⟩ := startRun_error hstart
    rw [hrun, hfs]
    exact withSnapshot_of_ne fs hsnapshot
  · obtain ⟨adapter, -, hresume, henv⟩ := startRun_ok_iff.mp hrun.start
    obtain ⟨seeds, -, hstate, -⟩ := loadResumeState_ok hresume
    obtain ⟨hseeded, -⟩ := foldl_keepSeed host.py { fs := withSnapshot host s fs } seeds
    have hdone : ∀ d ∈ ds, d.location env ≠ location := by
      intro d hd
      obtain ⟨-, outputs, hperform⟩ := mem_zipIdx_of_performed hrun.performed hd
      have hpending := hrun.performed.1.subset (List.mem_map_of_mem hd)
      rw [loadResumeState_startIndex hresume] at hpending
      subst henv
      rw [d.location_eq rfl hperform]
      exact h d.next hpending
    rw [hrun.disk, persistRunOutputs_store _ _ _ hlast, foldl_keepDone_fs_of_ne _ hdone, hstate,
      hseeded]
    exact withSnapshot_of_ne fs hsnapshot

/-- A run leaves a state file behind, unless it is refused and there was none. -/
theorem runPipeline_isSome_state :
    ((runPipeline host s request fs).1 (stateLocation host s.artifactsDir)).isSome = true ∧
        (fs (stateLocation host s.artifactsDir) = none → request.StartsFresh s) ∨
      (runPipeline host s request fs).1 (stateLocation host s.artifactsDir) =
        fs (stateLocation host s.artifactsDir) := by
  rcases runPipeline_cases host s request fs with
    ⟨halt, hstart, hrun, -⟩ | ⟨env, resume, ds, ending, hrun⟩
  · right
    obtain ⟨hfs, -⟩ := startRun_error hstart
    rw [hrun, hfs]
    exact withSnapshot_of_ne fs (stateLocation_ne_snapshot host s)
  · left
    refine ⟨?_, startsFresh_of_startRun hrun.start⟩
    have hstate : (runPipeline host s request fs).1 (stateLocation host s.artifactsDir) = _ :=
      hrun.state
    rw [hstate]
    rfl

end

/-! ## Calls on one path -/

/-- A call on the artifacts path, in whatever spelling the run has it. -/
inductive FeedbackCall (host : Host) (path : String) where
  | record (timestamp : String) (note : FeedbackNote)
  | run (s : RunSettings) (request : RunRequest)
      (h : host.locate s.artifactsDir = host.locate path)
  | summary

/-- The disk, and the entries whose recording has returned. -/
structure FeedbackState where
  fs : FileSystem
  recorded : List Json

section
variable {host : Host} {path : String}

def FeedbackState.next (state : FeedbackState) : FeedbackCall host path → FeedbackState
  | .record timestamp note =>
      match recordFeedback host.py state.fs host.workingDir path timestamp note with
      | (fs, .ok entry) => ⟨fs, state.recorded ++ [entry]⟩
      | (fs, .error _) => ⟨fs, state.recorded⟩
  | .run s request _ => ⟨(runPipeline host s request state.fs).1, state.recorded⟩
  | .summary => state

theorem FeedbackState.next_recorded {state : FeedbackState} {timestamp : String}
    {note : FeedbackNote} {fs : FileSystem} {entry : Json}
    (h : recordFeedback host.py state.fs host.workingDir path timestamp note = (fs, .ok entry)) :
    state.next (@FeedbackCall.record host path timestamp note) =
      ⟨fs, state.recorded ++ [entry]⟩ := by
  simp only [FeedbackState.next, h]

theorem FeedbackState.next_refused {state : FeedbackState} {timestamp : String}
    {note : FeedbackNote} {fs : FileSystem} {message : String}
    (h : recordFeedback host.py state.fs host.workingDir path timestamp note =
      (fs, .error message)) :
    state.next (@FeedbackCall.record host path timestamp note) = state := by
  simp only [FeedbackState.next, h]
  rw [recordFeedback_error h]

/-- Recording writes the store and nothing else. -/
theorem FeedbackState.next_record_of_ne (state : FeedbackState) (timestamp : String)
    (note : FeedbackNote) {location : Location}
    (h : location ≠ feedbackStoreLocation state.fs host.workingDir path) :
    (state.next (@FeedbackCall.record host path timestamp note)).fs location =
      state.fs location := by
  rcases hrecord : recordFeedback host.py state.fs host.workingDir path timestamp note with
    ⟨fs, message | entry⟩
  · rw [next_refused hrecord]
  · obtain ⟨-, rfl⟩ := recordFeedback_ok hrecord
    rw [next_recorded hrecord]
    exact FileSystem.write_of_ne _ h _

/-- The states that calls reach from a directory with any content. -/
inductive FeedbackReach (Allowed : FeedbackState → FeedbackCall host path → Prop) :
    FeedbackState → Prop where
  | start (fs : FileSystem) : FeedbackReach Allowed ⟨fs, []⟩
  | call {state : FeedbackState} (h : FeedbackReach Allowed state) (call : FeedbackCall host path)
      (hallowed : Allowed state call) : FeedbackReach Allowed (state.next call)

/-- A summary called now has every entry that was recorded. -/
def FeedbackKept (host : Host) (path : String) (state : FeedbackState) : Prop :=
  ∀ entry ∈ state.recorded,
    entry ∈ (feedbackSummary host.py state.fs host.workingDir path).entries

/-- Once an entry is recorded, no run writes the first state file of the directory,
unless the path is its own parent, and none has a role that leads to the store. -/
def KeepsStore (state : FeedbackState) : FeedbackCall host path → Prop
  | .run s request _ => state.recorded ≠ [] →
      (request.StartsFresh s → (state.fs (fileIn host.workingDir path stateName)).isSome = true ∨
        parent host.workingDir path = host.locate path) ∧
      ∀ next ∈ pendingRoles s (request.startIndex s), artifactLocation host s next ≠
        feedbackStoreLocation state.fs host.workingDir path
  | _ => True

/-- A run that keeps the store keeps where the path leads. -/
theorem feedbackStoreLocation_run {state : FeedbackState} {s : RunSettings} {request : RunRequest}
    (hpath : host.locate s.artifactsDir = host.locate path)
    (h : request.StartsFresh s → (state.fs (fileIn host.workingDir path stateName)).isSome = true ∨
      parent host.workingDir path = host.locate path) :
    feedbackStoreLocation (runPipeline host s request state.fs).1 host.workingDir path =
      feedbackStoreLocation state.fs host.workingDir path := by
  have hfile : stateLocation host s.artifactsDir = fileIn host.workingDir path stateName := by
    show host.locate s.artifactsDir ++ _ = host.locate path ++ _
    rw [hpath]
  have hcases := @runPipeline_isSome_state host s request state.fs
  rw [hfile] at hcases
  rcases hcases with ⟨hafter, hfresh⟩ | hsame
  · cases hbefore : state.fs (fileIn host.workingDir path stateName) with
    | some content => exact feedbackStoreLocation_congr (by rw [hafter, hbefore]; rfl)
    | none =>
        rcases h (hfresh hbefore) with hsome | hparent
        · rw [hbefore] at hsome
          cases hsome
        · rw [feedbackStoreLocation, feedbackStoreLocation, if_pos hafter, hbefore, hparent]
          rfl
  · exact feedbackStoreLocation_congr (by rw [hsame])

theorem FeedbackKept.next {state : FeedbackState} (hkept : FeedbackKept host path state)
    (call : FeedbackCall host path) (h : KeepsStore state call) :
    FeedbackKept host path (state.next call) := by
  cases call with
  | record timestamp note =>
      rcases hrecord : recordFeedback host.py state.fs host.workingDir path timestamp note with
        ⟨fs, entry | entry⟩
      · rw [FeedbackState.next_refused hrecord]
        exact hkept
      · rw [FeedbackState.next_recorded hrecord]
        intro e he
        rw [recordFeedback_entries hrecord]
        rcases List.mem_append.mp he with hold | hnew
        · exact List.mem_append_left _ (hkept e hold)
        · exact List.mem_append_right _ hnew
  | run s request hpath =>
      intro entry hentry
      obtain ⟨hstate, hroles⟩ := h (List.ne_nil_of_mem hentry)
      show entry ∈ loadFeedbackStore host.py ((runPipeline host s request state.fs).1
        (feedbackStoreLocation (runPipeline host s request state.fs).1 host.workingDir path))
      rw [feedbackStoreLocation_run hpath hstate,
        runPipeline_store (getLast?_feedbackStore _ _ _) hroles]
      exact hkept entry hentry
  | summary => exact hkept

/-- As long as the calls keep the store, every entry that was recorded is in the
summary. -/
theorem recorded_feedback_kept {state : FeedbackState}
    (h : FeedbackReach (@KeepsStore host path) state) : FeedbackKept host path state := by
  induction h with
  | start fs => exact fun entry hentry => absurd hentry List.not_mem_nil
  | call _ call hallowed ih => exact ih.next call hallowed

/-- After a run that got to its roles the summary has what the store next to the
directory had. -/
theorem entries_after_run {fs : FileSystem} {s : RunSettings} {request : RunRequest} {env : RunEnv}
    {resume : Resume} (hpath : host.locate s.artifactsDir = host.locate path)
    (hstart : startRun host s request fs = .ok (env, resume))
    (hroles : ∀ next ∈ pendingRoles s (request.startIndex s), artifactLocation host s next ≠
      parent host.workingDir path ++ [feedbackStoreName.toList]) :
    (feedbackSummary host.py (runPipeline host s request fs).1 host.workingDir path).entries =
      loadFeedbackStore host.py (fs (parent host.workingDir path ++ [feedbackStoreName.toList])) := by
  have hstate : ((runPipeline host s request fs).1
      (fileIn host.workingDir path stateName)).isSome = true := by
    rcases runPipeline_cases host s request fs with ⟨halt, hhalt, -⟩ | ⟨_, _, _, _, hrun⟩
    · rw [hstart] at hhalt
      cases hhalt
    · have hsaved := hrun.state
      rw [hpath] at hsaved
      exact Option.isSome_iff_exists.mpr ⟨_, hsaved⟩
  show loadFeedbackStore host.py ((runPipeline host s request fs).1
    (feedbackStoreLocation (runPipeline host s request fs).1 host.workingDir path)) = _
  rw [feedbackStoreLocation, if_pos hstate, runPipeline_store List.getLast?_concat hroles]

end

/-! ## The first run after a note -/

def sampleNote : FeedbackNote := ⟨"architect", "Missing authz", "useful", none, none⟩

theorem recorded_sampleNote (fs : FileSystem) :
    ((FeedbackState.mk fs []).next (@FeedbackCall.record sampleHost "/run" "now" sampleNote)).recorded =
      [sampleNote.entry sampleHost.py "now"] := by
  have hnoted := @recordFeedback_of_valid sampleHost.py sampleNote fs [] "/run" "now"
    (by decide +kernel) (by decide +kernel) (by decide +kernel)
  rw [FeedbackState.next_recorded (Prod.ext rfl hnoted)]
  rfl

/-- An entry recorded before the first run is in no summary after it. -/
theorem first_run_hides_feedback :
    ¬ ∀ (host : Host) (path : String) (state : FeedbackState),
      FeedbackReach (fun _ (_ : FeedbackCall host path) => True) state →
        FeedbackKept host path state := by
  intro hall
  let record : FeedbackCall sampleHost "/run" := .record "now" sampleNote
  let run : FeedbackCall sampleHost "/run" := .run sampleSettings (sampleRequest none "done") rfl
  let noted := (FeedbackState.mk (fun _ => none) []).next record
  have hkept := hall sampleHost "/run" (noted.next run)
    (((FeedbackReach.start fun _ => none).call record trivial).call run trivial)
  have hstart := (@startRun_ok_iff sampleHost sampleSettings (sampleRequest none "done") noted.fs
    _ _).mpr ⟨_, rfl, rfl, rfl⟩
  have hentries := @entries_after_run sampleHost "/run" _ _ _ _ _ rfl hstart (by decide +kernel)
  have hnone : noted.fs (parent [] "/run" ++ [feedbackStoreName.toList]) = none :=
    FeedbackState.next_record_of_ne _ "now" sampleNote (by decide +kernel)
  have hmem : sampleNote.entry sampleHost.py "now" ∈ (feedbackSummary sampleHost.py
      (runPipeline sampleHost sampleSettings (sampleRequest none "done") noted.fs).1
      sampleHost.workingDir "/run").entries :=
    hkept _ (recorded_sampleNote (fun _ => none) ▸ List.mem_singleton_self _)
  rw [hentries] at hmem
  change _ ∈ loadFeedbackStore sampleHost.py
    (noted.fs (parent [] "/run" ++ [feedbackStoreName.toList])) at hmem
  rw [hnone] at hmem
  exact absurd hmem List.not_mem_nil

/-- Recorded after the first run, the entry outlasts the next. -/
theorem recorded_feedback_kept_later :
    let saved : FileSystem := fun location =>
      if location = fileIn [] "/run" stateName then some (.text "") else none
    let record : FeedbackCall sampleHost "/run" := .record "now" sampleNote
    let run : FeedbackCall sampleHost "/run" :=
      .run sampleSettings (sampleRequest none "done") rfl
    (((FeedbackState.mk saved []).next record).next run).recorded =
        [sampleNote.entry sampleHost.py "now"] ∧
      FeedbackKept sampleHost "/run" (((FeedbackState.mk saved []).next record).next run) := by
  intro saved record run
  refine ⟨recorded_sampleNote saved, ?_⟩
  refine recorded_feedback_kept (((FeedbackReach.start saved).call record trivial).call run ?_)
  refine fun _ => ⟨fun _ => .inl ?_, by decide +kernel⟩
  have hkeeps : ((FeedbackState.mk saved []).next record).fs (fileIn [] "/run" stateName) =
      saved (fileIn [] "/run" stateName) :=
    FeedbackState.next_record_of_ne _ "now" sampleNote
      (feedbackStoreLocation_ne_state _ _ _ _ _).symm
  show (((FeedbackState.mk saved []).next record).fs (fileIn [] "/run" stateName)).isSome = true
  rw [hkeeps]
  exact congrArg Option.isSome (if_pos rfl)

end TruePresenceESE.Ese
