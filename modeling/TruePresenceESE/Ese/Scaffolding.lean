import TruePresenceESE.Ese.StarterProjects
import TruePresenceESE.Ese.Files

/-! # Writing projects

A scaffold makes the directories of a project and writes its files into them. Making
directories leaves no file behind; what has been written stays where it is.
-/

namespace TruePresenceESE.Ese

open PosixPath PyText

/-! ## Directories and texts -/

/-- The exception that ended some work on the disk, if one did, and the disk it left. -/
abbrev DiskWork := Option String × ProjectDisk

/-- The text that text mode reads back. -/
def textMode (text : String) : String := String.ofList (universalNewlines text.toList)

section
variable (refuses : Location → Option String)

/-- The directories below `here` one by one, where `refuses` is what the system raises
when it does not take a directory. -/
def makeBelow (here : Location) : List Segment → ProjectDisk → DiskWork
  | [], disk => (none, disk)
  | name :: rest, disk =>
      match disk.get? (here ++ [name]) with
      | some .directory => makeBelow (here ++ [name]) rest disk
      | some _ => (some "NotADirectoryError", disk)
      | none =>
          match refuses (here ++ [name]) with
          | some exception => (some exception, disk)
          | none => makeBelow (here ++ [name]) rest (disk.set (here ++ [name]) .directory)

/-- `path.mkdir(parents=True, exist_ok=True)` -/
def makeDirectory (location : Location) (disk : ProjectDisk) : DiskWork :=
  makeBelow refuses [] location disk

def makeDirectories : List Location → ProjectDisk → DiskWork
  | [], disk => (none, disk)
  | location :: rest, disk =>
      match makeDirectory refuses location disk with
      | (none, disk) => makeDirectories rest disk
      | failed => failed

/-- `path.write_text(text, encoding="utf-8")` -/
def writeText (path : Location) (text : String) (disk : ProjectDisk) : DiskWork :=
  match disk.get? path.dropLast, disk.get? path with
  | some .directory, some .directory => (some "IsADirectoryError", disk)
  | some .directory, _ => (none, disk.set path (.file (some (textMode text))))
  | _, _ => (some "FileNotFoundError", disk)

/-- The texts one after the other, with what is done `before` each of them. -/
def writeTexts (before : Location → ProjectDisk → DiskWork) :
    List (Location × String) → ProjectDisk → DiskWork
  | [], disk => (none, disk)
  | (path, text) :: rest, disk =>
      match before path disk with
      | (none, disk) =>
          match writeText path text disk with
          | (none, disk) => writeTexts before rest disk
          | failed => failed
      | failed => failed

def writeProject (directories : List Location) (before : Location → ProjectDisk → DiskWork)
    (files : List (Location × String)) (disk : ProjectDisk) : DiskWork :=
  match makeDirectories refuses directories disk with
  | (none, disk) => writeTexts before files disk
  | failed => failed

end

/-! ## No file is left -/

/-- Every file of the one disk is one of the other. -/
def NoFileLeft (disk disk' : ProjectDisk) : Prop :=
  ∀ location text, disk'.get? location = some (.file text) →
    disk.get? location = some (.file text)

theorem NoFileLeft.refl (disk : ProjectDisk) : NoFileLeft disk disk := fun _ _ h => h

theorem noFileLeft_set {disk disk' : ProjectDisk} {location : Location}
    (h : NoFileLeft (disk.set location .directory) disk') :
    NoFileLeft disk disk' := by
  intro other text hother
  have hset := h other text hother
  rw [Dict.get?_set] at hset
  split at hset
  · cases hset
  · exact hset

theorem noFileLeft_makeBelow {refuses : Location → Option String} {here : Location}
    {names : List Segment} {disk : ProjectDisk} :
    NoFileLeft disk (makeBelow refuses here names disk).2 := by
  induction names generalizing here disk with
  | nil => exact .refl disk
  | cons name rest ih =>
      rw [makeBelow]
      split
      · exact ih
      · exact .refl disk
      · split
        · exact .refl disk
        · exact noFileLeft_set ih

/-! ## Which directories are made -/

/-- A directory is there or can be made. -/
def Free (refuses : Location → Option String) (disk : ProjectDisk) (location : Location) : Prop :=
  match disk.get? location with
  | some .directory => True
  | some _ => False
  | none => refuses location = none

/-- Something is in the way of a directory, or of one above it. -/
def Blocked (refuses : Location → Option String) (disk : ProjectDisk) (location : Location) :
    Prop :=
  ∃ above, above ≠ [] ∧ above <+: location ∧ ¬ Free refuses disk above

/-- The directories from `here` on are made, and nothing else is changed. -/
structure Made (here : Location) (names : List Segment) (disk disk' : ProjectDisk) : Prop where
  made : ∀ front, front ≠ [] → front <+: names → disk'.get? (here ++ front) = some .directory
  kept : ∀ other, (∀ front, front ≠ [] → front <+: names → other ≠ here ++ front) →
    disk'.get? other = disk.get? other

section
variable {refuses : Location → Option String} {here : Location} {name : Segment}
  {rest : List Segment} {disk disk' : ProjectDisk}

theorem prefix_cons_cases {front : List Segment} (hne : front ≠ []) (h : front <+: name :: rest) :
    ∃ more, front = name :: more ∧ more <+: rest := by
  cases front with
  | nil => exact absurd rfl hne
  | cons first more =>
      rw [List.cons_prefix_cons] at h
      obtain ⟨rfl, hmore⟩ := h
      exact ⟨more, rfl, hmore⟩

theorem Made.cons (hname : disk'.get? (here ++ [name]) = some .directory)
    (hother : ∀ other, other ≠ here ++ [name] → disk'.get? other = disk.get? other)
    {disk'' : ProjectDisk} (h : Made (here ++ [name]) rest disk' disk'') :
    Made here (name :: rest) disk disk'' where
  made front hne hfront := by
    obtain ⟨more, rfl, hmore⟩ := prefix_cons_cases hne hfront
    rw [List.append_cons]
    cases more with
    | nil =>
        rw [List.append_nil, h.kept _ (fun front hne' _ => by simpa using hne'), hname]
    | cons next more' => exact h.made _ (List.cons_ne_nil _ _) hmore
  kept other hnone := by
    rw [h.kept other, hother]
    · simpa using hnone [name] (List.cons_ne_nil _ _) (by simp)
    · intro front hne hfront
      rw [List.append_assoc, List.singleton_append]
      exact hnone (name :: front) (List.cons_ne_nil _ _) (List.cons_prefix_cons.mpr ⟨rfl, hfront⟩)

/-- All directories can be made and are, or something is in the way of one of them. -/
theorem makeBelow_cases (refuses : Location → Option String) (here : Location)
    (names : List Segment) (disk : ProjectDisk) :
    (∃ disk', makeBelow refuses here names disk = (none, disk') ∧ Made here names disk disk' ∧
        ∀ front, front ≠ [] → front <+: names → Free refuses disk (here ++ front)) ∨
      (∃ exception disk', makeBelow refuses here names disk = (some exception, disk') ∧
        ∃ front, front ≠ [] ∧ front <+: names ∧ ¬ Free refuses disk (here ++ front)) := by
  induction names generalizing here disk with
  | nil =>
      have hnone : ∀ front : List Segment, front ≠ [] → ¬ front <+: [] := fun front hne h =>
        hne (List.prefix_nil.mp h)
      exact .inl ⟨disk, rfl, ⟨fun front hne h => absurd h (hnone front hne), fun _ _ => rfl⟩,
        fun front hne h => absurd h (hnone front hne)⟩
  | cons name rest ih =>
      -- what is free below a directory that has been made was free before
      have hlift : ∀ {start disk' : ProjectDisk}, Free refuses start (here ++ [name]) →
          (∀ other, other ≠ here ++ [name] → disk'.get? other = start.get? other) →
          ((∀ front, front ≠ [] → front <+: rest → Free refuses disk' (here ++ [name] ++ front)) ↔
            ∀ front, front ≠ [] → front <+: name :: rest → Free refuses start (here ++ front)) := by
        intro start disk' hfree hkept
        have hsame : ∀ front : List Segment, front ≠ [] →
            (Free refuses disk' (here ++ [name] ++ front) ↔
              Free refuses start (here ++ name :: front)) := by
          intro front hne
          rw [List.append_assoc, List.singleton_append]
          unfold Free
          rw [hkept]
          intro heq
          exact hne (List.cons.inj (List.append_cancel_left heq)).2
        constructor
        · intro h front hne hfront
          obtain ⟨more, rfl, hmore⟩ := prefix_cons_cases hne hfront
          cases more with
          | nil => exact hfree
          | cons next more' =>
              exact (hsame _ (List.cons_ne_nil _ _)).mp (h _ (List.cons_ne_nil _ _) hmore)
        · intro h front hne hfront
          exact (hsame front hne).mpr (h _ (List.cons_ne_nil _ _)
            (List.cons_prefix_cons.mpr ⟨rfl, hfront⟩))
      have hself : [name] <+: name :: rest := by simp
      rw [makeBelow]
      split
      · next hdirectory =>
          have hfree : Free refuses disk (here ++ [name]) := by
            unfold Free
            rw [hdirectory]
            trivial
          rcases ih (here ++ [name]) disk with ⟨disk', hok, hmade, hall⟩ | ⟨exception, disk', hfail, hno⟩
          · exact .inl ⟨disk', hok, hmade.cons hdirectory fun _ _ => rfl,
              (hlift hfree fun _ _ => rfl).mp hall⟩
          · obtain ⟨front, hne, hfront, hblocked⟩ := hno
            refine .inr ⟨exception, disk', hfail, ?_⟩
            by_contra hcon
            push Not at hcon
            exact hblocked ((hlift hfree fun _ _ => rfl).mpr hcon front hne hfront)
      · next node hnode hother =>
          refine .inr ⟨_, disk, rfl, [name], List.cons_ne_nil _ _, hself, ?_⟩
          unfold Free
          rw [hother]
          intro hfree
          split at hfree
          · next heq => exact hnode (Option.some.inj heq)
          · exact hfree
          · next heq => cases heq
      · next habsent =>
          split
          · next exception hrefused =>
              refine .inr ⟨exception, disk, rfl, [name], List.cons_ne_nil _ _, hself, ?_⟩
              unfold Free
              rw [habsent]
              dsimp only
              rw [hrefused]
              exact Option.some_ne_none _
          · next hnotRefused =>
              have hfree : Free refuses disk (here ++ [name]) := by
                unfold Free
                rw [habsent]
                exact hnotRefused
              have hkept : ∀ other, other ≠ here ++ [name] →
                  (disk.set (here ++ [name]) .directory).get? other = disk.get? other :=
                fun other hne => Dict.get?_set_ne _ _ (Ne.symm hne)
              rcases ih (here ++ [name]) (disk.set (here ++ [name]) .directory) with
                ⟨disk', hok, hmade, hall⟩ | ⟨exception, disk', hfail, hno⟩
              · exact .inl ⟨disk', hok, hmade.cons (Dict.get?_set_self _ _ _) hkept,
                  (hlift hfree hkept).mp hall⟩
              · obtain ⟨front, hne, hfront, hblocked⟩ := hno
                refine .inr ⟨exception, disk', hfail, ?_⟩
                by_contra hcon
                push Not at hcon
                exact hblocked ((hlift hfree hkept).mpr hcon front hne hfront)

end

/-! ## Directories below one another -/

section
variable {refuses : Location → Option String} {disk disk' : ProjectDisk}

theorem makeBelow_append (here : Location) (front back : List Segment) (disk : ProjectDisk) :
    makeBelow refuses here (front ++ back) disk =
      match makeBelow refuses here front disk with
      | (none, disk') => makeBelow refuses (here ++ front) back disk'
      | failed => failed := by
  induction front generalizing here disk with
  | nil => simp [makeBelow]
  | cons name rest ih =>
      rw [List.cons_append, makeBelow, makeBelow, List.append_cons here name rest]
      split
      · exact ih _ _
      · rfl
      · split
        · rfl
        · exact ih _ _

/-- Directories that are there are left alone. -/
theorem makeBelow_of_there {here : Location} {names : List Segment}
    (h : ∀ front, front ≠ [] → front <+: names → disk.get? (here ++ front) = some .directory) :
    makeBelow refuses here names disk = (none, disk) := by
  induction names generalizing here with
  | nil => rfl
  | cons name rest ih =>
      have hname : disk.get? (here ++ [name]) = some .directory :=
        h [name] (List.cons_ne_nil _ _) (by simp)
      rw [makeBelow, hname]
      refine ih fun front hne hfront => ?_
      rw [List.append_assoc, List.singleton_append]
      exact h _ (List.cons_ne_nil _ _) (List.cons_prefix_cons.mpr ⟨rfl, hfront⟩)

/-- A directory above is made on the way. -/
theorem makeDirectory_then {above below : Location} (h : above <+: below) (disk : ProjectDisk) :
    (match makeDirectory refuses above disk with
      | (none, disk') => makeDirectory refuses below disk'
      | failed => failed) = makeDirectory refuses below disk := by
  obtain ⟨back, rfl⟩ := h
  have hsplit := @makeBelow_append refuses [] above back disk
  rcases makeBelow_cases refuses [] above disk with ⟨disk', hok, hmade, -⟩ | ⟨exception, disk', hfail, -⟩
  · have hthere : makeBelow refuses [] above disk' = (none, disk') :=
      makeBelow_of_there hmade.made
    have hsplit' := @makeBelow_append refuses [] above back disk'
    rw [hok] at hsplit
    rw [hthere] at hsplit'
    unfold makeDirectory
    rw [hok, hsplit]
    exact hsplit'
  · rw [hfail] at hsplit
    unfold makeDirectory
    rw [hfail, hsplit]

/-- Making a chain of directories is making the last of them. -/
theorem makeDirectories_chain {location : Location} {above : List Location}
    (h : (above ++ [location]).IsChain (· <+: ·)) (disk : ProjectDisk) :
    makeDirectories refuses (above ++ [location]) disk = makeDirectory refuses location disk := by
  induction above generalizing disk with
  | nil =>
      rw [List.nil_append, makeDirectories]
      rcases hmake : makeDirectory refuses location disk with ⟨_ | exception, disk'⟩ <;> rfl
  | cons first rest ih =>
      have hpairwise := List.isChain_iff_pairwise.mp h
      rw [List.cons_append, List.pairwise_cons] at hpairwise
      have hfirst : first <+: location := hpairwise.1 location (by simp)
      rw [← makeDirectory_then hfirst disk, List.cons_append, makeDirectories]
      rcases makeDirectory refuses first disk with ⟨_ | exception, disk'⟩
      · exact ih (List.IsChain.tail h) disk'
      · rfl

/-! ## Files into directories that are there -/

/-- The directories down to a location are there. -/
def Reaches (disk : ProjectDisk) (location : Location) : Prop :=
  ∀ above, above <+: location → disk.get? above = some .directory

theorem makeDirectory_of_reaches {above location : Location} (h : Reaches disk location)
    (habove : above <+: location) : makeDirectory refuses above disk = (none, disk) :=
  makeBelow_of_there fun _ _ hfront => h _ (hfront.trans habove)

/-- A place for a file: in one of the directories down to a location, and none of them. -/
structure FilePlace (disk : ProjectDisk) (location path : Location) : Prop where
  inside : path.dropLast <+: location
  free : disk.get? path ≠ some .directory

theorem FilePlace.ne {location path above : Location} (h : FilePlace disk location path)
    (hreaches : Reaches disk location) (habove : above <+: location) : path ≠ above := by
  rintro rfl
  exact h.free (hreaches _ habove)

theorem writeText_place {location path : Location} (hreaches : Reaches disk location)
    (h : FilePlace disk location path) (text : String) :
    writeText path text disk = (none, disk.set path (.file (some (textMode text)))) := by
  unfold writeText
  rw [hreaches _ h.inside]
  cases hpath : disk.get? path with
  | none => rfl
  | some node =>
      cases node with
      | directory => exact absurd hpath h.free
      | file text => rfl
      | special => rfl

/-- What has been written, as entries of the disk. -/
def written (files : List (Location × String)) : List (Location × Node) :=
  files.map fun file => (file.1, .file (some (textMode file.2)))

/-- The texts are written if `before` has nothing to do. -/
theorem writeTexts_places {location : Location} {before : Location → ProjectDisk → DiskWork}
    (hbefore : ∀ path disk, path.dropLast <+: location → Reaches disk location →
      before path disk = (none, disk))
    {files : List (Location × String)} (hreaches : Reaches disk location)
    (hplaces : ∀ file ∈ files, FilePlace disk location file.1) :
    writeTexts before files disk = (none, disk.update (written files)) := by
  induction files generalizing disk with
  | nil => rfl
  | cons file rest ih =>
      obtain ⟨path, text⟩ := file
      rw [List.forall_mem_cons] at hplaces
      have hplace : FilePlace disk location path := hplaces.1
      rw [writeTexts, hbefore path disk hplace.inside hreaches]
      dsimp only
      rw [writeText_place hreaches hplace]
      refine ih ?_ ?_
      · intro above habove
        rw [Dict.get?_set_ne _ _ (hplace.ne hreaches habove)]
        exact hreaches above habove
      · intro other hother
        refine ⟨(hplaces.2 other hother).inside, ?_⟩
        rw [Dict.get?_set]
        split
        · exact fun h => by cases h
        · exact (hplaces.2 other hother).free

end

/-! ## A project in a new place -/

/-- There is a root, and nothing is at the target or below it but an empty directory. -/
structure FreshTarget (disk : ProjectDisk) (target : Location) : Prop where
  root : disk.get? [] = some .directory
  empty : ∀ location, target <+: location → disk.get? location = none ∨
    (location = target ∧ disk.get? location = some .directory)

/-- What the disk is like once the files of a project have been written. -/
structure ProjectWritten (disk disk' : ProjectDisk) (target inner : Location)
    (files : List (Location × String)) : Prop where
  reaches : Reaches disk' inner
  wrote : ∀ file ∈ files, disk'.get? file.1 = some (.file (some (textMode file.2)))
  nothingElse : ∀ location, target <+: location → disk'.get? location ≠ none →
    location <+: inner ∨ location ∈ files.map Prod.fst

/-- The files of a project lie in the directories from the target down to `inner`, and are
none of them. -/
structure ProjectFiles (target inner : Location) (files : List (Location × String)) : Prop where
  below : target <+: inner
  nodup : (files.map Prod.fst).Nodup
  inside : ∀ file ∈ files, target <+: file.1 ∧ file.1 ≠ target ∧ file.1.dropLast <+: inner ∧
    ¬ file.1 <+: inner

section
variable {refuses : Location → Option String} {disk : ProjectDisk} {target inner : Location}
  {above : List Location} {before : Location → ProjectDisk → DiskWork}
  {files : List (Location × String)}

/-- A project is written, or something is in the way of a directory and no file is left. -/
theorem writeProject_cases (hfresh : FreshTarget disk target)
    (hfiles : ProjectFiles target inner files) (hchain : (above ++ [inner]).IsChain (· <+: ·))
    (hbefore : ∀ path disk, path.dropLast <+: inner → Reaches disk inner →
      before path disk = (none, disk)) :
    (¬ Blocked refuses disk inner ∧
      ∃ disk', writeProject refuses (above ++ [inner]) before files disk = (none, disk') ∧
        ProjectWritten disk disk' target inner files) ∨
      (Blocked refuses disk inner ∧ ∃ exception disk',
        writeProject refuses (above ++ [inner]) before files disk = (some exception, disk') ∧
          NoFileLeft disk disk') := by
  rw [writeProject, makeDirectories_chain hchain]
  rcases makeBelow_cases refuses [] inner disk with
    ⟨disk₁, hok, hmade, hfree⟩ | ⟨exception, disk₁, hfail, front, hne, hfront, hblocked⟩
  · have hkept : ∀ location, ¬ location <+: inner → disk₁.get? location = disk.get? location := by
      intro location hno
      refine hmade.kept location fun front _ hfront heq => hno ?_
      rw [heq]
      exact hfront
    have hreaches : Reaches disk₁ inner := by
      intro location hlocation
      cases location with
      | nil =>
          rw [hmade.kept [] fun front hne _ heq => hne (by simpa using heq.symm)]
          exact hfresh.root
      | cons name rest => exact hmade.made _ (List.cons_ne_nil _ _) hlocation
    have hplaces : ∀ file ∈ files, FilePlace disk₁ inner file.1 := by
      intro file hfile
      obtain ⟨hbelow, hneTarget, hinside, hno⟩ := hfiles.inside file hfile
      refine ⟨hinside, ?_⟩
      rw [hkept _ hno]
      rcases hfresh.empty _ hbelow with hnone | ⟨heq, -⟩
      · rw [hnone]
        exact fun h => by cases h
      · exact absurd heq hneTarget
    have hkeys : ((written files).map Prod.fst) = files.map Prod.fst := by
      rw [written, List.map_map]
      rfl
    have hnodup : ((written files).map Prod.fst).Nodup := by
      rw [hkeys]
      exact hfiles.nodup
    refine .inl ⟨?_, disk₁.update (written files), ?_, ?_, ?_, ?_⟩
    · rintro ⟨location, hne, hlocation, hblocked⟩
      exact hblocked (hfree location hne hlocation)
    · rw [makeDirectory, hok]
      exact writeTexts_places hbefore hreaches hplaces
    · intro location hlocation
      rw [Dict.get?_update_of_notMem]
      · exact hreaches location hlocation
      · rw [hkeys]
        intro hmem
        obtain ⟨file, hfile, rfl⟩ := List.mem_map.mp hmem
        exact (hplaces file hfile).ne hreaches hlocation rfl
    · intro file hfile
      exact Dict.get?_update_of_mem _ hnodup (List.mem_map_of_mem hfile)
    · intro location hbelow hthere
      by_cases hmem : location ∈ files.map Prod.fst
      · exact .inr hmem
      · left
        by_contra hno
        rw [Dict.get?_update_of_notMem _ _ (by rwa [hkeys]), hkept _ hno] at hthere
        rcases hfresh.empty _ hbelow with hnone | ⟨rfl, -⟩
        · exact hthere hnone
        · exact hno hfiles.below
  · refine .inr ⟨⟨front, hne, hfront, hblocked⟩, exception, disk₁, ?_, ?_⟩
    · rw [makeDirectory, hfail]
    · have hnone := @noFileLeft_makeBelow refuses [] inner disk
      rwa [hfail] at hnone

/-- A project that has been written has left a file. -/
theorem ProjectWritten.leaves {disk' : ProjectDisk} {file : Location × String}
    (h : ProjectWritten disk disk' target inner files) (hfresh : FreshTarget disk target)
    (hfile : file ∈ files) (hbelow : target <+: file.1) : ¬ NoFileLeft disk disk' := by
  intro hnone
  have hthere := hnone _ _ (h.wrote file hfile)
  rcases hfresh.empty _ hbelow with habsent | ⟨-, hdirectory⟩
  · rw [habsent] at hthere
    cases hthere
  · rw [hdirectory] at hthere
    cases hthere

end

end TruePresenceESE.Ese
