import Mathlib

/-! # Paths as text and as locations

A path is a text cut at its slashes. `walk` follows the segments from a
directory: an empty segment and a dot stay, two dots go up, a name goes down.
A location is the list of names from the root, so two paths denote the same
file exactly when they resolve to one location.
-/

namespace PosixPath

abbrev Segment := List Char

abbrev Location := List Segment

/-! ## Segments -/

/-- `path.split("/")` -/
def segments : List Char → List Segment
  | [] => [[]]
  | c :: rest =>
      if c = '/' then [] :: segments rest
      else match segments rest with
        | [] => [[c]]
        | head :: tail => (c :: head) :: tail

theorem segments_ne_nil (path : List Char) : segments path ≠ [] := by
  cases path with
  | nil => simp [segments]
  | cons c rest =>
      rw [segments]
      split
      · simp
      · cases segments rest <;> simp

theorem segments_append_slash (left right : List Char) :
    segments (left ++ '/' :: right) = segments left ++ segments right := by
  induction left with
  | nil => simp [segments]
  | cons c rest ih =>
      rw [List.cons_append, segments, segments, ih]
      split
      · rw [List.cons_append]
      · cases hrest : segments rest with
        | nil => exact absurd hrest (segments_ne_nil rest)
        | cons head tail => rfl

theorem segments_of_no_slash {path : List Char} (h : '/' ∉ path) : segments path = [path] := by
  induction path with
  | nil => rfl
  | cons c rest ih =>
      rw [List.mem_cons, not_or] at h
      rw [segments, if_neg (Ne.symm h.1), ih h.2]

theorem intercalate_cons_cons (segment next : Segment) (rest : List Segment) :
    List.intercalate ['/'] (segment :: next :: rest) =
      segment ++ '/' :: List.intercalate ['/'] (next :: rest) := by
  simp [List.intercalate, List.intersperse]

/-- `"/".join(path.split("/"))` -/
theorem intercalate_segments (path : List Char) :
    List.intercalate ['/'] (segments path) = path := by
  induction path with
  | nil => rfl
  | cons c rest ih =>
      rw [segments]
      cases hrest : segments rest with
      | nil => exact absurd hrest (segments_ne_nil rest)
      | cons head tail =>
          rw [hrest] at ih
          split
          · rename_i hslash
            rw [intercalate_cons_cons, ih, hslash]
            rfl
          · cases tail with
            | nil => simpa [List.intercalate] using ih
            | cons next more =>
                rw [intercalate_cons_cons] at ih ⊢
                rw [List.cons_append, ih]

/-- A path ends in its last segment. -/
theorem suffix_of_getLast?_segments {path : List Char} {name : Segment}
    (h : (segments path).getLast? = some name) : name <:+ path := by
  have hends : ∀ front : List Segment, name <:+ List.intercalate ['/'] (front ++ [name]) := by
    intro front
    induction front with
    | nil => simp [List.intercalate]
    | cons segment rest ih =>
        cases hrest : rest ++ [name] with
        | nil => simp at hrest
        | cons next more =>
            rw [List.cons_append, hrest, intercalate_cons_cons, ← hrest]
            obtain ⟨before, hbefore⟩ := ih
            exact ⟨segment ++ '/' :: before, by rw [← hbefore]; simp⟩
  obtain ⟨front, hfront⟩ := List.getLast?_eq_some_iff.mp h
  have hpath := hends front
  rwa [← hfront, intercalate_segments] at hpath

/-- A suffix without slashes ends up in the last segment. -/
theorem getLast?_segments_append {path suffix : List Char} (h : '/' ∉ suffix) :
    ∃ name, (segments (path ++ suffix)).getLast? = some (name ++ suffix) := by
  induction path with
  | nil => exact ⟨[], by simp [segments_of_no_slash h]⟩
  | cons c rest ih =>
      obtain ⟨name, hname⟩ := ih
      rw [List.cons_append, segments]
      split
      · exact ⟨name, by simp [List.getLast?_cons, hname]⟩
      · cases hrest : segments (rest ++ suffix) with
        | nil => exact absurd hrest (segments_ne_nil _)
        | cons head tail =>
            rw [hrest] at hname
            cases tail with
            | nil =>
                rw [List.getLast?_singleton, Option.some.injEq] at hname
                exact ⟨c :: name, by simp [hname]⟩
            | cons next more =>
                rw [List.getLast?_cons_cons] at hname
                refine ⟨name, ?_⟩
                rw [List.getLast?_cons_cons]
                exact hname

/-! ## Walking -/

def step (here : Location) (segment : Segment) : Location :=
  if segment = [] ∨ segment = ['.'] then here
  else if segment = ['.', '.'] then here.dropLast
  else here ++ [segment]

def walk (start : Location) (path : List Segment) : Location := path.foldl step start

theorem walk_append (start : Location) (left right : List Segment) :
    walk start (left ++ right) = walk (walk start left) right := List.foldl_append

/-- A walk ends in its last segment when that is a name. -/
theorem getLast?_walk {start : Location} {path : List Segment} {name : Segment}
    (hlast : path.getLast? = some name) (hname : 2 < name.length) :
    (walk start path).getLast? = some name := by
  obtain ⟨front, rfl⟩ := List.getLast?_eq_some_iff.mp hlast
  have hempty : name ≠ [] := by
    rintro rfl
    simp at hname
  have hdot : name ≠ ['.'] := by
    rintro rfl
    simp at hname
  have hdots : name ≠ ['.', '.'] := by
    rintro rfl
    simp at hname
  rw [walk_append]
  simp [walk, step, hempty, hdot, hdots]

/-! ## Joining and resolving -/

def isAbs (path : String) : Bool := path.toList.head? == some '/'

/-- `os.path.join` of two parts. -/
def join (directory path : String) : String :=
  if isAbs path then path
  else if directory = "" ∨ directory.toList.getLast? = some '/' then directory ++ path
  else directory ++ "/" ++ path

/-- Absolute paths start at the root, all others at the working directory. -/
def resolve (workingDir : Location) (path : String) : Location :=
  walk (if isAbs path then [] else workingDir) (segments path.toList)

/-- What `pathlib` keeps of the segments. -/
def parts (path : String) : List Segment :=
  (segments path.toList).filter fun s => s ≠ [] ∧ s ≠ ['.']

/-- `str(Path(path))` -/
def pathText (path : String) : String :=
  let text := List.intercalate ['/'] (parts path)
  if isAbs path then "/" ++ String.ofList text
  else if text = [] then "." else String.ofList text

/-- `Path(path).suffix`: from the last dot of the name on, if something stands on
both sides of it. -/
def suffix (path : String) : List Char :=
  match (parts path).getLast? with
  | none => []
  | some name =>
      let extension := name.rtakeWhile (· ≠ '.')
      let stem := (name.rdropWhile (· ≠ '.')).dropLast
      if stem = [] ∨ extension = [] then [] else '.' :: extension

/-- `Path(path).parent`, taken on the text: empty segments and dots are dropped
and so is the last one left. -/
def parent (workingDir : Location) (path : String) : Location :=
  walk (if isAbs path then [] else workingDir)
    (parts path).dropLast

/-- The text of an absolute location. -/
def render (location : Location) : String :=
  "/" ++ String.ofList (List.intercalate ['/'] location)

theorem resolve_of_isAbs {path : String} (h : isAbs path = true) (here there : Location) :
    resolve here path = resolve there path := by
  rw [resolve, resolve, if_pos h, if_pos h]

theorem resolve_of_not_isAbs {path : String} (h : isAbs path = false) (workingDir : Location) :
    resolve workingDir path = walk workingDir (segments path.toList) := by
  rw [resolve, h]
  rfl

theorem isAbs_append {directory path : String} (h : directory ≠ "") :
    isAbs (directory ++ path) = isAbs directory := by
  have hne : directory.toList ≠ [] := by
    simpa using h
  cases hchars : directory.toList with
  | nil => exact absurd hchars hne
  | cons c rest => simp [isAbs, hchars]

theorem isAbs_join {directory path : String} (hdir : directory ≠ "") (hpath : isAbs path = false) :
    isAbs (join directory path) = isAbs directory := by
  rw [join, hpath]
  split
  · contradiction
  · split
    · exact isAbs_append hdir
    · rw [isAbs_append (by simp [hdir]), isAbs_append hdir]

/-- Joining is walking on. -/
theorem resolve_join {directory path : String} (hdir : directory ≠ "")
    (hpath : isAbs path = false) (workingDir : Location) :
    resolve workingDir (join directory path) =
      walk (resolve workingDir directory) (segments path.toList) := by
  rw [resolve, isAbs_join hdir hpath, resolve]
  generalize (if isAbs directory then ([] : Location) else workingDir) = start
  rw [← walk_append, join, hpath]
  simp only [Bool.false_eq_true, if_false]
  split
  next hslash =>
    obtain rfl | hlast := hslash
    · exact absurd rfl hdir
    · obtain ⟨front, hfront⟩ := List.getLast?_eq_some_iff.mp hlast
      -- the slash is there already: one more empty segment changes nothing
      rw [String.toList_append, hfront, List.append_assoc, List.singleton_append,
        segments_append_slash, segments_append_slash, walk_append, walk_append, walk_append]
      rfl
  next =>
    rw [String.toList_append, String.toList_append, List.append_assoc]
    exact congrArg (walk start) (segments_append_slash _ _)

/-! ## Names -/

/-- A segment that leads further down. -/
def IsName (segment : Segment) : Prop :=
  '/' ∉ segment ∧ segment ≠ [] ∧ segment ≠ ['.'] ∧ segment ≠ ['.', '.']

theorem step_name {segment : Segment} (h : IsName segment) (here : Location) :
    step here segment = here ++ [segment] := by
  simp [step, h.2.1, h.2.2.1, h.2.2.2]

theorem walk_names {names : List Segment} (h : ∀ s ∈ names, IsName s) (start : Location) :
    walk start names = start ++ names := by
  induction names generalizing start with
  | nil => simp [walk]
  | cons name rest ih =>
      rw [List.forall_mem_cons] at h
      have hrest := ih h.2 (start ++ [name])
      rw [walk, List.foldl_cons, step_name h.1]
      simpa [walk] using hrest

theorem notMem_of_mem_segments {path : List Char} {segment : Segment}
    (h : segment ∈ segments path) : '/' ∉ segment := by
  induction path generalizing segment with
  | nil =>
      rw [segments, List.mem_singleton] at h
      simp [h]
  | cons c rest ih =>
      rw [segments] at h
      split at h
      · rcases List.mem_cons.mp h with rfl | hmem
        · simp
        · exact ih hmem
      · rename_i hslash
        cases hrest : segments rest with
        | nil => exact absurd hrest (segments_ne_nil rest)
        | cons head tail =>
            rw [hrest] at h
            rcases List.mem_cons.mp h with rfl | hmem
            · have hhead : '/' ∉ head := ih (by simp [hrest])
              simp [Ne.symm hslash, hhead]
            · exact ih (by simp [hrest, hmem])

/-- A walk along segments of a path leaves nothing but names behind. -/
theorem isName_of_mem_walk {start : Location} {path : List Segment}
    (hstart : ∀ s ∈ start, IsName s) (hpath : ∀ s ∈ path, '/' ∉ s) :
    ∀ s ∈ walk start path, IsName s := by
  induction path generalizing start with
  | nil => exact hstart
  | cons segment rest ih =>
      rw [List.forall_mem_cons] at hpath
      refine ih ?_ hpath.2
      unfold step
      split
      · exact hstart
      · split
        · exact fun s hs => hstart s (List.mem_of_mem_dropLast hs)
        · rename_i hstay hup
          rw [not_or] at hstay
          rw [List.forall_mem_append, List.forall_mem_singleton]
          exact ⟨hstart, hpath.1, hstay.1, hstay.2, hup⟩

theorem isName_of_mem_resolve {workingDir : Location} (h : ∀ s ∈ workingDir, IsName s)
    (path : String) : ∀ s ∈ resolve workingDir path, IsName s := by
  refine isName_of_mem_walk ?_ fun s => notMem_of_mem_segments
  split
  · simp
  · exact h

theorem segments_intercalate {names : List Segment} (hne : names ≠ [])
    (h : ∀ s ∈ names, '/' ∉ s) : segments (List.intercalate ['/'] names) = names := by
  induction names with
  | nil => exact absurd rfl hne
  | cons name rest ih =>
      rw [List.forall_mem_cons] at h
      cases rest with
      | nil => simpa using segments_of_no_slash h.1
      | cons next more =>
          have hrest := ih (by simp) h.2
          rw [intercalate_cons_cons, segments_append_slash, hrest, segments_of_no_slash h.1,
            List.singleton_append]

theorem isAbs_render (location : Location) : isAbs (render location) = true := by
  simp [isAbs, render]

/-- The text of a location leads back to it. -/
theorem resolve_render {location : Location} (h : ∀ s ∈ location, IsName s)
    (workingDir : Location) : resolve workingDir (render location) = location := by
  have htext : (render location).toList = '/' :: List.intercalate ['/'] location := by
    simp [render]
  rw [resolve, isAbs_render, if_pos rfl, htext, segments, if_pos rfl]
  cases hlocation : location with
  | nil => rfl
  | cons name rest =>
      rw [← hlocation, segments_intercalate (by simp [hlocation]) fun s hs => (h s hs).1]
      exact walk_names h []

/-! ## The last segment of a path -/

theorem getLast?_segments_join {directory path : String} (hdir : directory ≠ "")
    (hpath : isAbs path = false) :
    (segments (join directory path).toList).getLast? = (segments path.toList).getLast? := by
  have hlast : ∀ front : List Char, (segments (front ++ '/' :: path.toList)).getLast? =
      (segments path.toList).getLast? := by
    intro front
    rw [segments_append_slash, List.getLast?_append_of_ne_nil _ (segments_ne_nil _)]
  rw [join, hpath]
  simp only [Bool.false_eq_true, if_false]
  split
  next hslash =>
    obtain rfl | hend := hslash
    · exact absurd rfl hdir
    · obtain ⟨front, hfront⟩ := List.getLast?_eq_some_iff.mp hend
      rw [String.toList_append, hfront, List.append_assoc]
      exact hlast front
  next =>
    rw [String.toList_append, String.toList_append, List.append_assoc]
    exact hlast directory.toList

theorem getLast?_segments_render {location : Location} {name : Segment}
    (h : ∀ s ∈ location, IsName s) (hlast : location.getLast? = some name) :
    (segments (render location).toList).getLast? = some name := by
  have hne : location ≠ [] := by
    rintro rfl
    cases hlast
  have htext : (render location).toList = '/' :: List.intercalate ['/'] location := by
    simp [render]
  rw [htext, segments, if_pos rfl, segments_intercalate hne fun s hs => (h s hs).1,
    List.getLast?_cons, hlast]
  rfl

/-- The suffix of a path whose last segment ends in a dot and something after it. -/
theorem suffix_of_getLast? {path : String} {stem extension : List Char}
    (hlast : (segments path.toList).getLast? = some (stem ++ '.' :: extension))
    (hextension : '.' ∉ extension) (hne : extension ≠ []) :
    suffix path = if stem = [] then [] else '.' :: extension := by
  have hparts : (parts path).getLast? = some (stem ++ '.' :: extension) := by
    obtain ⟨front, hfront⟩ := List.getLast?_eq_some_iff.mp hlast
    have hdot : stem ++ '.' :: extension ≠ ['.'] := by
      intro heq
      have hlength := congrArg List.length heq
      simp only [List.length_append, List.length_cons, List.length_nil] at hlength
      exact hne (List.eq_nil_of_length_eq_zero (by omega))
    rw [parts, hfront, List.filter_append, List.filter_cons_of_pos (by simpa using hdot)]
    simp
  have htake : (stem ++ '.' :: extension).rtakeWhile (· ≠ '.') = extension := by
    rw [List.rtakeWhile, List.reverse_append, List.reverse_cons, List.append_assoc,
      List.takeWhile_append_of_pos]
    · simp
    · intro c hc
      rw [List.mem_reverse] at hc
      have hcne : c ≠ '.' := fun heq => hextension (heq ▸ hc)
      simpa using hcne
  have hdrop : (stem ++ '.' :: extension).rdropWhile (· ≠ '.') = stem ++ ['.'] := by
    rw [List.rdropWhile, List.reverse_append, List.reverse_cons, List.append_assoc,
      List.dropWhile_append_of_pos]
    · simp
    · intro c hc
      rw [List.mem_reverse] at hc
      have hcne : c ≠ '.' := fun heq => hextension (heq ▸ hc)
      simpa using hcne
  rw [suffix, hparts]
  simp only [htake, hdrop, List.dropLast_concat, hne, or_false]

end PosixPath
