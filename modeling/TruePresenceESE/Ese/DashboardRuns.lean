import TruePresenceESE.Lib.NumberedNames
import TruePresenceESE.Ese.Scaffolding

/-! # Directories of the dashboard's runs

A request to run is given a directory of its own by trying names until one is free. The
directory is made later, by the job; requests are answered on threads of their own, and while
one of them looks for a name the others and their jobs go on.
-/

namespace TruePresenceESE.Ese

open PosixPath NumberedNames

/-! ## Requests -/

inductive RunKind where
  /-- `/api/run` -/
  | taskRun
  /-- `/api/run-config` -/
  | configRun
  /-- `/api/pr` -/
  | prReview
  deriving DecidableEq

def RunKind.text : RunKind → Segment
  | .taskRun => "task-run".toList
  | .configRun => "config-run".toList
  | .prReview => "pr-review".toList

/-- `datetime.now().strftime("%Y%m%d-%H%M%S")` -/
abbrev RunStamp := {text : Segment // text.length = 15}

def baseName (stamp : RunStamp) (kind : RunKind) : Segment := stamp.1 ++ '-' :: kind.text

/-- A run that is asked for is kept beside the one the dashboard shows. -/
def runsRoot (workingDir : Location) (disk : ProjectDisk) (artifactsDir : String) : Location :=
  let requested := resolve workingDir artifactsDir
  if (disk.get? (requested ++ ["pipeline_state.json".toList])).isSome then
    parent workingDir artifactsDir
  else requested

/-- A thread in the loop. -/
structure RunSearch where
  root : Location
  baseName : Segment
  candidate : Location
  suffix : ℕ

def RunSearch.entered (root : Location) (baseName : Segment) : RunSearch :=
  ⟨root, baseName, root ++ [baseName], 2⟩

def RunSearch.next (search : RunSearch) : RunSearch :=
  { search with
    candidate := search.root ++ [search.baseName ++ '-' :: (toString search.suffix).toList]
    suffix := search.suffix + 1 }

/-! ## Threads and jobs -/

/-- The threads that know their root, those in the loop, and what has been allocated. -/
structure RunThreads where
  disk : ProjectDisk
  rooted : List (Location × RunKind)
  searching : List RunSearch
  allocated : List RunSearch

inductive RunEvent where
  | request (artifactsDir : String) (kind : RunKind)
  /-- A thread makes its root and reads the clock. -/
  | enter (thread : ℕ) (stamp : RunStamp)
  /-- A thread looks whether its candidate exists. -/
  | look (thread : ℕ)
  /-- A job, or anyone else, makes a file or a directory. -/
  | make (location : Location) (node : Node)

namespace RunThreads

section
variable (workingDir : Location) (refuses : Location → Option String)

/-- A root that cannot be made ends the request. -/
def enter (s : RunThreads) (thread : ℕ) (stamp : RunStamp) : RunThreads :=
  match s.rooted[thread]? with
  | none => s
  | some (root, kind) =>
      let rooted := s.rooted.eraseIdx thread
      match makeDirectory refuses root s.disk with
      | (some _, disk) => { s with disk := disk, rooted := rooted }
      | (none, disk) => { s with
          disk := disk
          rooted := rooted
          searching := s.searching ++ [.entered root (baseName stamp kind)] }

def look (s : RunThreads) (thread : ℕ) : RunThreads :=
  match s.searching[thread]? with
  | none => s
  | some search =>
      if (s.disk.get? search.candidate).isSome then
        { s with searching := s.searching.set thread search.next }
      else { s with
        searching := s.searching.eraseIdx thread
        allocated := s.allocated ++ [search] }

def step (s : RunThreads) : RunEvent → RunThreads
  | .request artifactsDir kind =>
      { s with rooted := s.rooted ++ [(runsRoot workingDir s.disk artifactsDir, kind)] }
  | .enter thread stamp => s.enter refuses thread stamp
  | .look thread => s.look thread
  | .make location node => { s with disk := s.disk.set location node }

def run (s : RunThreads) (events : List RunEvent) : RunThreads :=
  events.foldl (step workingDir refuses) s

def opened (disk : ProjectDisk) : RunThreads := ⟨disk, [], [], []⟩

end

def directories (s : RunThreads) : List Location := s.allocated.map (·.candidate)

/-- The search that the event ends with a directory. -/
def Allocates (s : RunThreads) (event : RunEvent) (search : RunSearch) : Prop :=
  ∃ thread, event = .look thread ∧ s.searching[thread]? = some search ∧
    s.disk.get? search.candidate = none

/-- A run has been allocated a directory under the root and the base name, which nobody has
made. -/
def Unmade (s : RunThreads) (root : Location) (baseName : Segment) : Prop :=
  ∃ earlier ∈ s.allocated, earlier.root = root ∧ earlier.baseName = baseName ∧
    s.disk.get? earlier.candidate = none

/-- Whenever a search ends, the directories allocated before under its root and its base name
have been made. -/
def Orderly (workingDir : Location) (refuses : Location → Option String) (s : RunThreads) :
    List RunEvent → Prop
  | [] => True
  | event :: rest =>
      (∀ search, s.Allocates event search → ¬ s.Unmade search.root search.baseName) ∧
        Orderly workingDir refuses (s.step workingDir refuses event) rest

end RunThreads

/-! ## Names -/

/-- What tells the runs of a second apart. -/
abbrev RunKey := Location × RunStamp × RunKind

/-- The name tried first has no number. -/
def RunKey.name (key : RunKey) (n : ℕ) : Location :=
  let base := baseName key.2.1 key.2.2
  key.1 ++ [if n = 1 then base else base ++ '-' :: (toString n).toList]

theorem toString_toList_injective : Function.Injective fun n : ℕ => (toString n).toList := by
  intro n n' h
  have hdigits : Nat.toDigits 10 n = Nat.toDigits 10 n' := by
    simpa [toString, Nat.repr] using h
  have hnumber : Nat.ofDigitChars 10 (Nat.toDigits 10 n) 0 =
      Nat.ofDigitChars 10 (Nat.toDigits 10 n') 0 := by
    rw [hdigits]
  rwa [Nat.ofDigitChars_ten_toDigits, Nat.ofDigitChars_ten_toDigits] at hnumber

/-- A kind with what follows it, if anything, after a dash. -/
theorem kind_tail_inj {kind kind' : RunKind} {tail tail' : List Char}
    (h : kind.text ++ tail = kind'.text ++ tail') : kind = kind' ∧ tail = tail' := by
  have hfirst : ∀ kind kind' : RunKind, kind.text.head? = kind'.text.head? → kind = kind' := by
    intro kind kind'
    cases kind <;> cases kind' <;> decide
  have hhead : ∀ (kind : RunKind) (tail : List Char),
      (kind.text ++ tail).head? = kind.text.head? := by
    intro kind tail
    cases kind <;> rfl
  obtain rfl := hfirst kind kind' (by rw [← hhead kind tail, h, hhead])
  exact ⟨rfl, List.append_cancel_left h⟩

theorem RunKey.name_inj {key key' : RunKey} {n n' : ℕ} (hname : key.name n = key'.name n') :
    key = key' ∧ n = n' := by
  obtain ⟨root, stamp, kind⟩ := key
  obtain ⟨root', stamp', kind'⟩ := key'
  have htail : ∀ (stamp : RunStamp) (kind : RunKind) (n : ℕ),
      (if n = 1 then baseName stamp kind else baseName stamp kind ++ '-' :: (toString n).toList) =
        stamp.1 ++ '-' :: (kind.text ++ if n = 1 then [] else '-' :: (toString n).toList) := by
    intro stamp kind n
    unfold baseName
    split
    · rw [List.append_nil]
    · rw [List.append_assoc, List.cons_append]
  simp only [RunKey.name] at hname
  obtain ⟨rfl, hbase⟩ := List.append_inj' hname rfl
  rw [htail, htail, List.cons.injEq] at hbase
  obtain ⟨hstamp, hrest⟩ := List.append_inj hbase.1 (stamp.2.trans stamp'.2.symm)
  obtain ⟨rfl, htails⟩ := kind_tail_inj (List.cons.inj hrest).2
  refine ⟨by rw [Subtype.ext hstamp], ?_⟩
  split at htails
  · next hn =>
      split at htails
      · next hn' => rw [hn, hn']
      · cases htails
  · split at htails
    · cases htails
    · exact toString_toList_injective (List.cons.inj htails).2

/-! ## The threads search for free names -/

def RunKey.search (key : RunKey) (n : ℕ) : RunSearch :=
  ⟨key.1, baseName key.2.1 key.2.2, key.name n, n + 1⟩

theorem RunKey.search_entered (root : Location) (stamp : RunStamp) (kind : RunKind) :
    RunSearch.entered root (baseName stamp kind) = RunKey.search (root, stamp, kind) 1 := by
  rw [RunKey.search, RunKey.name, if_pos rfl]
  rfl

theorem RunKey.search_next (key : RunKey) {n : ℕ} (hn : 1 ≤ n) :
    (key.search n).next = key.search (n + 1) := by
  rw [RunKey.search, RunKey.search, RunKey.name, RunKey.name, if_neg (show n + 1 ≠ 1 by omega)]
  rfl

theorem RunKey.eq_of_search {key key' : RunKey} {n n' : ℕ}
    (hroot : (key.search n).root = (key'.search n').root)
    (hbase : (key.search n).baseName = (key'.search n').baseName) : key = key' := by
  have hname : key.name 1 = key'.name 1 := by
    simp only [RunKey.search] at hroot hbase
    rw [RunKey.name, RunKey.name, if_pos rfl, if_pos rfl, hroot, hbase]
  exact (RunKey.name_inj hname).1

/-- Making directories leaves what is there. -/
theorem makeBelow_keeps {refuses : Location → Option String} {here : Location}
    {names : List Segment} {disk : ProjectDisk} {location : Location}
    (h : (disk.get? location).isSome) :
    ((makeBelow refuses here names disk).2.get? location).isSome := by
  induction names generalizing here disk with
  | nil => exact h
  | cons name rest ih =>
      rw [makeBelow]
      split
      · exact ih h
      · exact h
      · split
        · exact h
        · refine ih ?_
          rw [Dict.get?_set]
          split
          · rfl
          · exact h

namespace RunThreads

/-- The searches behind the threads. -/
structure Simulates (s : RunThreads) (a : Searches RunKey Location) : Prop where
  taken : ∀ location, a.taken location = (s.disk.get? location).isSome
  searching : s.searching = a.running.map fun p => p.1.search p.2
  allocated : s.allocated = a.given.map fun p => p.1.search p.2
  tried : a.Tried RunKey.name

section
variable {workingDir : Location} {refuses : Location → Option String} {s : RunThreads}
  {a : Searches RunKey Location}

theorem simulates_opened (disk : ProjectDisk) :
    Simulates (opened disk) ⟨fun location => (disk.get? location).isSome, [], []⟩ :=
  ⟨fun _ => rfl, rfl, rfl, ⟨by simp, by simp⟩⟩

theorem Simulates.free_iff (h : Simulates s a) (location : Location) :
    a.taken location = false ↔ s.disk.get? location = none := by
  rw [h.taken, Option.isSome_eq_false_iff, Option.isNone_iff_eq_none]

/-- Others make something while searches may begin. -/
theorem Simulates.others (h : Simulates s a) {disk : ProjectDisk} (arrivals : List RunKey)
    (hkept : ∀ location, (s.disk.get? location).isSome → (disk.get? location).isSome)
    (rooted : List (Location × RunKind)) :
    Simulates ⟨disk, rooted, s.searching ++ arrivals.map fun key => key.search 1, s.allocated⟩
      (a.step RunKey.name (.others (fun location => (disk.get? location).isSome) arrivals)) where
  taken location := by
    simp only [Searches.step]
    rw [h.taken]
    cases hthere : (s.disk.get? location).isSome with
    | false => rw [Bool.false_or]
    | true => rw [hkept location hthere, Bool.true_or]
  searching := by
    simp only [Searches.step]
    rw [h.searching, List.map_append, List.map_map]
    rfl
  allocated := h.allocated
  tried := h.tried.step _

theorem Simulates.look (h : Simulates s a) (thread : ℕ) :
    Simulates (s.look thread) (a.probe RunKey.name thread) := by
  have htried : (a.probe RunKey.name thread).Tried RunKey.name := h.tried.step (.probe thread)
  unfold RunThreads.look Searches.probe at *
  rw [h.searching, List.getElem?_map]
  cases hrunning : a.running[thread]? with
  | none => exact h
  | some p =>
      simp only [hrunning] at htried
      dsimp only [Option.map_some]
      have hsame : a.taken (p.1.name p.2) = (s.disk.get? (p.1.search p.2).candidate).isSome :=
        h.taken _
      rw [hsame] at htried ⊢
      split
      · next htaken =>
          rw [if_pos htaken] at htried
          have hpos : 1 ≤ p.2 :=
            h.tried.pos p (List.mem_append_left _ (List.mem_of_getElem? hrunning))
          refine ⟨h.taken, ?_, h.allocated, htried⟩
          rw [List.map_set, RunKey.search_next p.1 hpos]
      · next hfree =>
          rw [if_neg hfree] at htried
          refine ⟨h.taken, ?_, ?_, htried⟩
          · dsimp only
            rw [List.eraseIdx_map]
          · dsimp only
            rw [h.allocated, List.map_append, List.map_singleton]

theorem Simulates.unmade_iff (h : Simulates s a) (key : RunKey) (n : ℕ) :
    s.Unmade (key.search n).root (key.search n).baseName ↔ a.Pending RunKey.name key := by
  unfold Unmade Searches.Pending
  rw [h.allocated]
  constructor
  · rintro ⟨earlier, hmem, hroot, hbase, hnone⟩
    obtain ⟨p, hp, rfl⟩ := List.mem_map.mp hmem
    obtain rfl := RunKey.eq_of_search hroot hbase
    exact ⟨p.2, hp, (h.free_iff _).mpr hnone⟩
  · rintro ⟨m, hm, hfree⟩
    exact ⟨key.search m, List.mem_map.mpr ⟨_, hm, rfl⟩, rfl, rfl, (h.free_iff _).mp hfree⟩

/-- A step in which no search ends, with the disk it leaves. -/
theorem Simulates.quiet (h : Simulates s a) {event : RunEvent} (disk : ProjectDisk)
    (rooted : List (Location × RunKind)) (arrivals : List RunKey)
    (hevent : ∀ thread, event ≠ .look thread)
    (hkept : ∀ location, (s.disk.get? location).isSome → (disk.get? location).isSome)
    (hstep : s.step workingDir refuses event = ⟨disk, rooted,
      s.searching ++ arrivals.map fun key => key.search 1, s.allocated⟩) :
    ∃ event', Simulates (s.step workingDir refuses event) (a.step RunKey.name event') ∧
      ∀ search, s.Allocates event search ↔
        ∃ p, a.Gives RunKey.name event' p ∧ search = p.1.search p.2 := by
  refine ⟨.others (fun location => (disk.get? location).isSome) arrivals, ?_, fun search => ?_⟩
  · rw [hstep]
    exact h.others arrivals hkept rooted
  · constructor
    · rintro ⟨thread, hlook, -⟩
      exact absurd hlook (hevent thread)
    · rintro ⟨p, ⟨i, hprobe, -⟩, -⟩
      cases hprobe

theorem Simulates.step (h : Simulates s a) (event : RunEvent) :
    ∃ event', Simulates (s.step workingDir refuses event) (a.step RunKey.name event') ∧
      ∀ search, s.Allocates event search ↔
        ∃ p, a.Gives RunKey.name event' p ∧ search = p.1.search p.2 := by
  cases event with
  | request artifactsDir kind =>
      refine h.quiet s.disk (s.rooted ++ [(runsRoot workingDir s.disk artifactsDir, kind)]) []
        (fun _ hlook => by cases hlook) (fun _ hthere => hthere) ?_
      rw [List.map_nil, List.append_nil]
      rfl
  | make location node =>
      refine h.quiet (s.disk.set location node) s.rooted [] (fun _ hlook => by cases hlook)
        (fun other hthere => ?_) ?_
      · rw [Dict.get?_set]
        split
        · rfl
        · exact hthere
      · rw [List.map_nil, List.append_nil]
        rfl
  | enter thread stamp =>
      have hkept : ∀ root location, (s.disk.get? location).isSome →
          ((makeDirectory refuses root s.disk).2.get? location).isSome :=
        fun _ _ hthere => makeBelow_keeps hthere
      cases hrooted : s.rooted[thread]? with
      | none =>
          refine h.quiet s.disk s.rooted [] (fun _ hlook => by cases hlook)
            (fun _ hthere => hthere) ?_
          rw [List.map_nil, List.append_nil, RunThreads.step, RunThreads.enter, hrooted]
      | some request =>
          obtain ⟨root, kind⟩ := request
          cases hmade : makeDirectory refuses root s.disk with
          | mk exception disk =>
              have hdisk := hkept root
              rw [hmade] at hdisk
              cases exception with
              | some exception =>
                  refine h.quiet disk (s.rooted.eraseIdx thread) []
                    (fun _ hlook => by cases hlook) hdisk ?_
                  rw [List.map_nil, List.append_nil, RunThreads.step, RunThreads.enter, hrooted]
                  dsimp only
                  rw [hmade]
              | none =>
                  refine h.quiet disk (s.rooted.eraseIdx thread) [(root, stamp, kind)]
                    (fun _ hlook => by cases hlook) hdisk ?_
                  rw [List.map_singleton, ← RunKey.search_entered, RunThreads.step, RunThreads.enter,
                    hrooted]
                  dsimp only
                  rw [hmade]
  | look thread =>
      refine ⟨.probe thread, h.look thread, fun search => ?_⟩
      constructor
      · rintro ⟨_, hlook, hsearch, hnone⟩
        cases hlook
        rw [h.searching, List.getElem?_map, Option.map_eq_some_iff] at hsearch
        obtain ⟨p, hp, rfl⟩ := hsearch
        exact ⟨p, ⟨thread, rfl, hp, (h.free_iff _).mpr hnone⟩, rfl⟩
      · rintro ⟨p, ⟨_, hprobe, hp, hfree⟩, rfl⟩
        cases hprobe
        refine ⟨thread, rfl, ?_, (h.free_iff _).mp hfree⟩
        rw [h.searching, List.getElem?_map, hp]
        rfl

theorem look_kept (s : RunThreads) (thread : ℕ) :
    (s.look thread).disk = s.disk ∧ (s.look thread).rooted = s.rooted := by
  unfold look
  split
  · exact ⟨rfl, rfl⟩
  · split <;> exact ⟨rfl, rfl⟩

theorem Simulates.looks (h : Simulates s a) (thread m : ℕ) :
    Simulates (s.run workingDir refuses (List.replicate m (.look thread)))
        (a.run RunKey.name (List.replicate m (.probe thread))) ∧
      (s.run workingDir refuses (List.replicate m (.look thread))).disk = s.disk ∧
      (s.run workingDir refuses (List.replicate m (.look thread))).rooted = s.rooted := by
  induction m generalizing s a with
  | zero => exact ⟨h, rfl, rfl⟩
  | succ m ih =>
      obtain ⟨hsimulates, hdisk, hrooted⟩ := ih (h.look thread)
      obtain ⟨hdisk', hrooted'⟩ := s.look_kept thread
      exact ⟨hsimulates, hdisk.trans hdisk', hrooted.trans hrooted'⟩

theorem Simulates.nodup_iff (h : Simulates s a) : s.directories.Nodup ↔ a.given.Nodup := by
  unfold directories
  rw [h.allocated, List.map_map, List.nodup_map_iff]
  intro p q heq
  obtain ⟨hkey, hnumber⟩ := RunKey.name_inj heq
  exact Prod.ext hkey hnumber

theorem Simulates.run (h : Simulates s a) (events : List RunEvent) :
    ∃ events', Simulates (s.run workingDir refuses events) (a.run RunKey.name events') ∧
      (s.Orderly workingDir refuses events ↔ a.Orderly RunKey.name events') := by
  induction events generalizing s a with
  | nil => exact ⟨[], h, Iff.rfl⟩
  | cons event rest ih =>
      obtain ⟨event', hstep, hends⟩ := @Simulates.step workingDir refuses s a h event
      obtain ⟨rest', hrun, horderly⟩ := ih hstep
      refine ⟨event' :: rest', hrun, and_congr ?_ horderly⟩
      constructor
      · intro hall p hp
        rw [← h.unmade_iff p.1 p.2]
        exact hall _ ((hends _).mpr ⟨p, hp, rfl⟩)
      · intro hall search hsearch
        obtain ⟨p, hp, rfl⟩ := (hends search).mp hsearch
        rw [h.unmade_iff]
        exact hall p hp

/-- A thread that looks for a directory alone finds one. -/
theorem Simulates.alone (h : Simulates s a) {thread : ℕ} {search : RunSearch}
    (hsearch : s.searching[thread]? = some search) :
    ∃ m ≤ s.disk.size, ∃ found : RunSearch,
      s.run workingDir refuses (List.replicate (m + 1) (.look thread)) =
        { s with searching := s.searching.eraseIdx thread, allocated := s.allocated ++ [found] } ∧
      found.root = search.root ∧ found.baseName = search.baseName ∧
      s.disk.get? found.candidate = none := by
  rw [h.searching, List.getElem?_map, Option.map_eq_some_iff] at hsearch
  obtain ⟨p, hp, rfl⟩ := hsearch
  have htaken : ∀ location, a.taken location = true → location ∈ s.disk.keys := by
    intro location hthere
    rw [h.taken] at hthere
    by_contra hnot
    rw [Dict.get?_eq_none_iff.mpr hnot] at hthere
    cases hthere
  obtain ⟨m, hm, hfree, hgiven⟩ := Searches.exists_given
    (fun key n n' heq => (RunKey.name_inj heq).2) htaken hp
  obtain ⟨hsimulates, hdisk, hrooted⟩ := @Simulates.looks workingDir refuses s a h
    thread (m + 1)
  rw [hgiven] at hsimulates
  rw [Dict.keys, List.length_map] at hm
  refine ⟨m, hm, p.1.search (p.2 + m), ?_, rfl, rfl, (h.free_iff _).mp hfree⟩
  have hsearching := hsimulates.searching
  have hallocated := hsimulates.allocated
  dsimp only at hsearching hallocated
  rw [List.map_append, List.map_singleton, ← h.allocated] at hallocated
  rw [← List.eraseIdx_map, ← h.searching] at hsearching
  generalize s.run workingDir refuses (List.replicate (m + 1) (.look thread)) = s' at *
  cases s'
  simp only at hdisk hrooted hsearching hallocated
  rw [hdisk, hrooted, hsearching, hallocated]

end

end RunThreads

/-- The directories that are allocated are distinct exactly if whenever a search ends, those
allocated before under its root, in its second and for its kind of run have been made. A
thread that goes on alone is allocated one. -/
theorem run_directories (workingDir : Location) (refuses : Location → Option String)
    (disk : ProjectDisk) (events : List RunEvent) :
    let s := (RunThreads.opened disk).run workingDir refuses events
    (s.directories.Nodup ↔ (RunThreads.opened disk).Orderly workingDir refuses events) ∧
      ∀ thread search, s.searching[thread]? = some search →
        ∃ m ≤ s.disk.size, ∃ found : RunSearch,
          s.run workingDir refuses (List.replicate (m + 1) (.look thread)) =
            { s with
              searching := s.searching.eraseIdx thread
              allocated := s.allocated ++ [found] } ∧
          found.root = search.root ∧ found.baseName = search.baseName ∧
          s.disk.get? found.candidate = none := by
  intro s
  obtain ⟨events', hrun, horderly⟩ := @RunThreads.Simulates.run workingDir refuses _ _
    (RunThreads.simulates_opened disk) events
  have htried : Searches.Tried RunKey.name
      (⟨fun location => (disk.get? location).isSome, [], []⟩ : Searches RunKey Location) :=
    (RunThreads.simulates_opened disk).tried
  refine ⟨?_, fun thread search hsearch => hrun.alone hsearch⟩
  rw [hrun.nodup_iff, htried.nodup_run_iff, horderly]
  exact and_iff_right List.nodup_nil

def noon : RunStamp := ⟨"20250101-120000".toList, rfl⟩

/-- Two requests of one second, the first of which has been allocated its directory. -/
def clickedTwice : List RunEvent :=
  [.request "/runs" .taskRun, .request "/runs" .taskRun, .enter 0 noon, .enter 0 noon, .look 0]

/-- So far the run is orderly, and the other thread is allocated a directory as well. -/
theorem run_directories_clickedTwice :
    let s := (RunThreads.opened Dict.empty).run [] (fun _ => none) clickedTwice
    (RunThreads.opened Dict.empty).Orderly [] (fun _ => none) clickedTwice ∧
      ∃ m ≤ s.disk.size, ∃ found : RunSearch,
        s.run [] (fun _ => none) (List.replicate (m + 1) (.look 0)) =
          { s with
            searching := s.searching.eraseIdx 0
            allocated := s.allocated ++ [found] } ∧
        found.root = ["runs".toList] ∧ found.baseName = baseName noon .taskRun ∧
        s.disk.get? found.candidate = none :=
  ⟨(run_directories [] (fun _ => none) Dict.empty clickedTwice).1.mp (by decide),
    (run_directories [] (fun _ => none) Dict.empty clickedTwice).2 0
      (.entered ["runs".toList] (baseName noon .taskRun)) rfl⟩

/-- It is the same one unless the first job has made it. -/
example : ((RunThreads.opened Dict.empty).run [] (fun _ => none)
    (clickedTwice ++ [.look 0])).directories =
      [["runs".toList, "20250101-120000-task-run".toList],
        ["runs".toList, "20250101-120000-task-run".toList]] := by
  decide

end TruePresenceESE.Ese
