import TruePresenceESE.Lib.PosixPath

/-! # Paths followed from nowhere

The course of a path is how far it climbs and the names it goes down after that,
whatever directory it is followed from. A course that climbs comes back to the
directory when it goes down along the names it has left.
-/

namespace PosixPath

/-! ## Courses -/

structure Course where
  ups : Nat
  names : List Segment

def Course.step (c : Course) (segment : Segment) : Course :=
  if segment = [] ∨ segment = ['.'] then c
  else if segment = ['.', '.'] then
    if c.names = [] then { c with ups := c.ups + 1 }
    else { c with names := c.names.dropLast }
  else { c with names := c.names ++ [segment] }

def course (path : List Segment) : Course := path.foldl Course.step ⟨0, []⟩

def Course.follow (c : Course) (start : Location) : Location := start.rdrop c.ups ++ c.names

/-- One more segment is followed the same way in the course and on the spot. -/
theorem Course.step_follow (c : Course) (start : Location) (segment : Segment) :
    PosixPath.step (c.follow start) segment = (c.step segment).follow start := by
  unfold PosixPath.step Course.step
  split
  · rfl
  · split
    · by_cases hnames : c.names = []
      · rw [if_pos hnames]
        simp only [Course.follow, hnames, List.append_nil, List.rdrop]
        rw [List.dropLast_eq_take, List.length_take, List.take_take]
        congr 1
        omega
      · rw [if_neg hnames]
        exact List.dropLast_append_of_ne_nil hnames
    · exact List.append_assoc _ _ _

theorem walk_eq_follow (start : Location) (path : List Segment) :
    walk start path = (course path).follow start := by
  have hfold : ∀ c : Course, path.foldl PosixPath.step (c.follow start) =
      (path.foldl Course.step c).follow start := by
    induction path with
    | nil => exact fun c => rfl
    | cons segment rest ih =>
        intro c
        rw [List.foldl_cons, List.foldl_cons, c.step_follow]
        exact ih _
  have hstart : (⟨0, []⟩ : Course).follow start = start := by
    simp [Course.follow]
  rw [walk, course, ← hfold, hstart]

/-! ## Staying below a directory -/

def Course.Returns (c : Course) (directory : Location) : Prop :=
  directory.rtake c.ups <+: c.names

/-- The names below the directory once the course has come back to it. -/
def Course.below (c : Course) (directory : Location) : List Segment :=
  c.names.drop (directory.rtake c.ups).length

theorem rdrop_append_rtake (l : List Segment) (n : Nat) : l.rdrop n ++ l.rtake n = l :=
  List.take_append_drop _ _

theorem Course.prefix_follow_iff (c : Course) (directory : Location) :
    directory <+: c.follow directory ↔ c.Returns directory := by
  calc directory <+: c.follow directory
      ↔ directory.rdrop c.ups ++ directory.rtake c.ups <+: directory.rdrop c.ups ++ c.names := by
        rw [rdrop_append_rtake, Course.follow]
    _ ↔ directory.rtake c.ups <+: c.names := List.prefix_append_right_inj _

theorem Course.Returns.follow_eq {c : Course} {directory : Location} (h : c.Returns directory) :
    c.follow directory = directory ++ c.below directory := by
  obtain ⟨rest, hrest⟩ := h
  rw [Course.follow, Course.below, ← hrest, List.drop_left, ← List.append_assoc,
    rdrop_append_rtake]

/-! ## The end of a path -/

/-- A suffix without slashes lengthens the last segment. -/
theorem segments_append_suffix (path : List Char) {suffix : List Char} (h : '/' ∉ suffix) :
    segments (path ++ suffix) = (segments path).dropLast ++
      [(segments path).getLast (segments_ne_nil path) ++ suffix] := by
  induction path with
  | nil => simp [segments, segments_of_no_slash h]
  | cons c rest ih =>
      by_cases hslash : c = '/'
      · simp only [List.cons_append, segments, if_pos hslash, ih,
          List.dropLast_cons_of_ne_nil (segments_ne_nil rest),
          List.getLast_cons (segments_ne_nil rest)]
      · cases hrest : segments rest with
        | nil => exact absurd hrest (segments_ne_nil rest)
        | cons head tail =>
            have hcons : segments (c :: rest) = (c :: head) :: tail := by
              rw [segments, if_neg hslash, hrest]
            simp only [hcons]
            rw [List.cons_append, segments, if_neg hslash, ih]
            simp only [hrest]
            cases tail with
            | nil => rfl
            | cons next more => rfl

end PosixPath
