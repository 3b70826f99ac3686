import TruePresenceESE.Lib.SetOrder
import TruePresenceESE.Ese.Feedback

/-! # The run a report is compared with

The runs of a history are sorted by the times of their state files, and the first one that
is not the current run is taken. That is the run before it as long as no run came after it.
-/

namespace TruePresenceESE.Ese

open PosixPath Sorting

/-- The files a history of runs lies in, with their times and the directories around them. -/
structure RunHistory where
  fs : FileSystem
  workingDir : Location
  /-- `st_mtime` -/
  mtime : Location → ℚ
  /-- The entries of a directory that are directories themselves. -/
  subdirectories : Location → List Segment
  order : SetOrder String

/-- `str(Path(path).parent)` -/
def parentText (path : String) : String :=
  let text := List.intercalate ['/'] (parts path).dropLast
  if isAbs path then "/" ++ String.ofList text
  else if text = [] then "." else String.ofList text

namespace RunHistory

variable (h : RunHistory)

def location (path : String) : Location := resolve h.workingDir path

def isRunDir (path : String) : Bool := (h.fs (fileIn h.workingDir path stateName)).isSome

def stateTime (path : String) : ℚ := h.mtime (fileIn h.workingDir path stateName)

def historyRoot (path : String) : String := if h.isRunDir path then parentText path else path

/-- The runs a directory is looked up among: itself, its history root and what is in that. -/
def historyRunDirs (path : String) : List String :=
  let root := h.historyRoot path
  ([path, root] ++ (h.subdirectories (h.location root)).map fun name =>
    pathText (join root (String.ofList name))).filter h.isRunDir

def candidateRunDirs (path : String) : List String :=
  sortedDown h.stateTime (h.order.members (h.historyRunDirs path))

def previousRunDir (path : String) : Option String :=
  (h.candidateRunDirs path).find? fun candidate => h.location candidate ≠ h.location path

/-- What a run is compared with is another run, not a newer one, and the latest of the older
ones if there are any. -/
structure Baseline (path : String) (chosen : Option String) : Prop where
  other : ∀ run ∈ chosen, run ∈ h.historyRunDirs path ∧ h.location run ≠ h.location path
  notNewer : ∀ run ∈ chosen, h.stateTime run ≤ h.stateTime path
  latest : ∀ older ∈ h.historyRunDirs path, h.stateTime older < h.stateTime path →
    ∃ run ∈ chosen, h.stateTime run < h.stateTime path ∧ ∀ other ∈ h.historyRunDirs path,
      h.stateTime other < h.stateTime path → h.stateTime other ≤ h.stateTime run

/-- Runs with one time are one run. -/
def DistinctTimes (path : String) : Prop :=
  ∀ run ∈ h.historyRunDirs path, ∀ other ∈ h.historyRunDirs path,
    h.stateTime run = h.stateTime other → h.location run = h.location other

instance (path : String) : Decidable (h.DistinctTimes path) :=
  inferInstanceAs (Decidable (∀ run ∈ h.historyRunDirs path, ∀ other ∈ h.historyRunDirs path,
    h.stateTime run = h.stateTime other → h.location run = h.location other))

variable {h} {path run other : String}

theorem stateTime_of_location (hsame : h.location run = h.location other) :
    h.stateTime run = h.stateTime other := by
  have hfile : fileIn h.workingDir run stateName = fileIn h.workingDir other stateName :=
    congrArg (· ++ [stateName.toList]) hsame
  rw [stateTime, stateTime, hfile]

theorem mem_historyRunDirs_self (hrun : h.isRunDir path = true) :
    path ∈ h.historyRunDirs path :=
  List.mem_filter.mpr ⟨by simp, hrun⟩

/-! ## The choice -/

/-- The choice is the newest of the other runs. -/
theorem previousRunDir_newest (hchosen : h.previousRunDir path = some run) :
    run ∈ h.historyRunDirs path ∧ h.location run ≠ h.location path ∧
      ∀ other ∈ h.historyRunDirs path, h.location other ≠ h.location path →
        h.stateTime other ≤ h.stateTime run := by
  obtain ⟨hmem, htest, hgreatest⟩ := greatest_of_find?_sortedDown hchosen
  refine ⟨(h.order.mem_members).mp hmem, of_decide_eq_true htest, fun other hother hne => ?_⟩
  exact hgreatest other ((h.order.mem_members).mpr hother) (decide_eq_true hne)

theorem exists_previousRunDir (hother : other ∈ h.historyRunDirs path)
    (hne : h.location other ≠ h.location path) : ∃ run, h.previousRunDir path = some run := by
  rw [← Option.isSome_iff_exists, previousRunDir, List.find?_isSome]
  exact ⟨other, mem_sortedDown.mpr ((h.order.mem_members).mpr hother), decide_eq_true hne⟩

/-- The run before the current one is found if and only if no run has come after it. -/
theorem comparison_baseline_iff (h : RunHistory) (path : String) (hrun : h.isRunDir path = true)
    (hdistinct : h.DistinctTimes path) :
    h.Baseline path (h.previousRunDir path) ↔
      ∀ run ∈ h.historyRunDirs path, h.stateTime run ≤ h.stateTime path := by
  constructor
  · intro hbaseline newer hnewer
    by_contra hlt
    rw [not_le] at hlt
    have hne : h.location newer ≠ h.location path := fun hsame =>
      absurd (stateTime_of_location hsame) (ne_of_gt hlt)
    obtain ⟨run, hchosen⟩ := exists_previousRunDir hnewer hne
    have hgreatest := (previousRunDir_newest hchosen).2.2 newer hnewer hne
    exact absurd (hbaseline.notNewer run hchosen) (not_le.mpr (hlt.trans_le hgreatest))
  · intro hnewest
    refine ⟨fun run hchosen => ?_, fun run hchosen => ?_, fun older holder holdtime => ?_⟩
    · obtain ⟨hmem, hne, -⟩ := previousRunDir_newest hchosen
      exact ⟨hmem, hne⟩
    · exact hnewest run (previousRunDir_newest hchosen).1
    · have hne : h.location older ≠ h.location path := fun hsame =>
        absurd (stateTime_of_location hsame) (ne_of_lt holdtime)
      obtain ⟨run, hchosen⟩ := exists_previousRunDir holder hne
      obtain ⟨hmem, hother, hgreatest⟩ := previousRunDir_newest hchosen
      -- an equal time would make the choice the current run itself
      have htime : h.stateTime run ≠ h.stateTime path := fun heq =>
        hother (hdistinct run hmem path (mem_historyRunDirs_self hrun) heq)
      refine ⟨run, hchosen, lt_of_le_of_ne (hnewest run hmem) htime, fun other hmem' hlt => ?_⟩
      exact hgreatest other hmem' fun hsame =>
        absurd (stateTime_of_location hsame) (ne_of_lt hlt)

end RunHistory

/-! ## Three runs -/

/-- Runs of `/runs` with the times of their state files. -/
def runsAt (times : List (String × ℚ)) : RunHistory where
  fs location := if location ∈ times.map (fun run => fileIn [] ("/runs/" ++ run.1) stateName) then
    some (.text "") else none
  workingDir := []
  mtime location :=
    ((times.find? fun run => fileIn [] ("/runs/" ++ run.1) stateName = location).map Prod.snd).getD 0
  subdirectories location := if location = ["runs".toList] then times.map (·.1.toList) else []
  order := SetOrder.plain

def threeRuns : RunHistory := runsAt [("one", 1), ("two", 2), ("three", 3)]

theorem comparison_baseline_iff_newest :
    threeRuns.Baseline "/runs/three" (threeRuns.previousRunDir "/runs/three") ↔
      ∀ run ∈ threeRuns.historyRunDirs "/runs/three",
        threeRuns.stateTime run ≤ threeRuns.stateTime "/runs/three" :=
  RunHistory.comparison_baseline_iff threeRuns "/runs/three" (by decide +kernel) (by decide +kernel)

/-- The run in the middle is compared with the one after it. -/
theorem newer_run_chosen :
    threeRuns.isRunDir "/runs/two" = true ∧ threeRuns.DistinctTimes "/runs/two" ∧
      threeRuns.previousRunDir "/runs/two" = some "/runs/three" ∧
      ¬ threeRuns.Baseline "/runs/two" (threeRuns.previousRunDir "/runs/two") := by
  have hchosen : threeRuns.previousRunDir "/runs/two" = some "/runs/three" := by
    decide +kernel
  refine ⟨by decide +kernel, by decide +kernel, hchosen, fun hbaseline => ?_⟩
  have htime := hbaseline.notNewer "/runs/three" hchosen
  exact absurd htime (by decide +kernel)

end TruePresenceESE.Ese
