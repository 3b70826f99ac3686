import TruePresenceESE.Lib.Fallible
import TruePresenceESE.Lib.Fitting
import TruePresenceESE.Lib.PosixPath
import TruePresenceESE.Lib.PyText
import TruePresenceESE.Lib.Selection

/-! # Excerpts of a diff

A patch that is too long is cut between the patches of its files, as late as the limit
allows, and a trailer says that it was. Only a first file that alone is too long is cut
within.

What a task is told of a repository is such an excerpt, followed by the beginnings of files
that are not tracked, for as long as the limit lasts.
-/

namespace TruePresenceESE.Ese

open Fitting PyText

structure DiffExcerpt where
  text : List Char
  truncated : Bool
  includedFilePatches : ℕ
  totalFilePatches : ℕ

/-! ## Splitting -/

/-- `str.splitlines(keepends=True)` -/
def splitLinesKeepEnds : List Char → List (List Char)
  | [] => []
  | '\r' :: '\n' :: rest => ['\r', '\n'] :: splitLinesKeepEnds rest
  | c :: rest =>
      if isLineBreak c then [c] :: splitLinesKeepEnds rest
      else match splitLinesKeepEnds rest with
        | [] => [[c]]
        | line :: lines => (c :: line) :: lines

def gitHeader : List Char := "diff --git ".toList

/-- What the loop over the lines has seen. -/
structure PatchSplit where
  segments : List (List Char)
  current : List (List Char)
  sawGitHeader : Bool

/-- `if current: segments.append("".join(current))` -/
def PatchSplit.closed (s : PatchSplit) : List (List Char) :=
  if s.current.isEmpty then s.segments else s.segments ++ [s.current.flatten]

def PatchSplit.next (s : PatchSplit) (line : List Char) : PatchSplit :=
  if gitHeader.isPrefixOf line then ⟨s.closed, [line], true⟩
  else { s with current := s.current ++ [line] }

def splitPatchByFile (patch : List Char) : List (List Char) :=
  if patch.isEmpty then []
  else
    let split := (splitLinesKeepEnds patch).foldl PatchSplit.next ⟨[], [], false⟩
    if split.sawGitHeader then split.closed else [patch]

/-! ## The excerpt -/

def excerptTrailer (truncatedLabel : List Char) : List Char :=
  ['\n', '\n', '['] ++ truncatedLabel ++ [']', '\n']

/-- The loop over the segments, with what is included so far and its length. -/
def includeSegments (available : ℕ) (included : List (List Char)) (used : ℕ) :
    List (List Char) → List (List Char)
  | [] => included
  | segment :: rest =>
      if !included.isEmpty ∧ available < used + segment.length then included
      else if included.isEmpty ∧ available < segment.length then [segment.take available]
      else includeSegments available (included ++ [segment]) (used + segment.length) rest

def buildFileAwareDiffExcerpt (patch : List Char) (limit : ℤ) (truncatedLabel : List Char) :
    Except String DiffExcerpt :=
  if limit ≤ 0 then .error "limit must be > 0"
  else
    let trailer := excerptTrailer truncatedLabel
    let segments := splitPatchByFile patch
    let available := (limit - trailer.length).toNat
    if patch.length ≤ limit then .ok ⟨patch, false, segments.length, segments.length⟩
    else if available = 0 then .ok ⟨trailer.take limit.toNat, true, 0, segments.length⟩
    else if segments.isEmpty then
      .ok ⟨(patch.take available).rdropWhile isSpace ++ trailer, true, 0, 0⟩
    else
      let included := includeSegments available [] 0 segments
      .ok ⟨included.flatten.rdropWhile isSpace ++ trailer, true, included.length, segments.length⟩

/-! ## The segments make up the patch -/

theorem flatten_splitLinesKeepEnds (text : List Char) :
    (splitLinesKeepEnds text).flatten = text := by
  induction text using splitLinesKeepEnds.induct with
  | case1 => rfl
  | case2 rest ih => simp [splitLinesKeepEnds, ih]
  | case3 c rest hcrlf hbreak ih =>
      rw [splitLinesKeepEnds, if_pos hbreak, List.flatten_cons, ih]
      · rfl
      · exact hcrlf
  | case4 c rest hcrlf hbreak hlines ih =>
      rw [hlines] at ih
      rw [splitLinesKeepEnds, if_neg hbreak, hlines]
      · simpa using ih
      · exact hcrlf
  | case5 c rest hcrlf hbreak line lines hlines ih =>
      rw [hlines] at ih
      rw [splitLinesKeepEnds, if_neg hbreak, hlines]
      · simpa using ih
      · exact hcrlf

theorem PatchSplit.flatten_closed (s : PatchSplit) :
    s.closed.flatten = s.segments.flatten ++ s.current.flatten := by
  unfold closed
  split
  · rename_i hempty
    rw [List.isEmpty_iff.mp hempty, List.flatten_nil, List.append_nil]
  · simp

/-- A line is in the open segment from then on, or opens the next one. -/
theorem PatchSplit.flatten_next (s : PatchSplit) (line : List Char) :
    (s.next line).closed.flatten = s.closed.flatten ++ line := by
  rw [flatten_closed, flatten_closed, next]
  split
  · simp [flatten_closed]
  · simp

theorem flatten_splitPatchByFile (patch : List Char) : (splitPatchByFile patch).flatten = patch := by
  have hfold : ∀ (lines : List (List Char)) (s : PatchSplit),
      (lines.foldl PatchSplit.next s).closed.flatten = s.closed.flatten ++ lines.flatten := by
    intro lines
    induction lines with
    | nil => simp
    | cons line lines ih =>
        intro s
        rw [List.foldl_cons, ih, PatchSplit.flatten_next, List.flatten_cons, List.append_assoc]
  unfold splitPatchByFile
  split
  · rename_i hempty
    rw [List.isEmpty_iff.mp hempty, List.flatten_nil]
  · dsimp only
    split
    · rw [hfold, flatten_splitLinesKeepEnds]
      rfl
    · simp

/-! ## What is included -/

/-- Once a segment is included the loop takes those that fit into the rest. -/
theorem includeSegments_of_included {available : ℕ} {included segments : List (List Char)}
    (hincluded : included ≠ []) (hused : included.flatten.length ≤ available) :
    includeSegments available included included.flatten.length segments =
      included ++ fitting List.length (available - included.flatten.length) segments := by
  induction segments generalizing included with
  | nil => simp [includeSegments, fitting]
  | cons segment rest ih =>
      have hnonempty : included.isEmpty = false := by simpa using hincluded
      rw [includeSegments]
      by_cases hfits : included.flatten.length + segment.length ≤ available
      · have hlength : (included ++ [segment]).flatten.length =
            included.flatten.length + segment.length := by simp
        rw [if_neg (by omega), if_neg (by simp [hnonempty]), ← hlength, ih (by simp) (by omega),
          fitting_cons_of_le (by omega), hlength, Nat.sub_add_eq]
        simp
      · rw [if_pos ⟨by simp [hnonempty], by omega⟩, fitting_cons_of_lt (by omega), List.append_nil]

theorem includeSegments_fits {available : ℕ} {segment : List Char} {rest : List (List Char)}
    (h : segment.length ≤ available) : includeSegments available [] 0 (segment :: rest) =
      fitting List.length available (segment :: rest) := by
  have hloop := @includeSegments_of_included available [segment] rest (by simp) (by simpa using h)
  rw [includeSegments, if_neg (by simp), if_neg (by simp; omega), fitting_cons_of_le h]
  simpa using hloop

theorem includeSegments_cut {available : ℕ} {segment : List Char} {rest : List (List Char)}
    (h : available < segment.length) :
    includeSegments available [] 0 (segment :: rest) = [segment.take available] := by
  rw [includeSegments, if_neg (by simp), if_pos ⟨rfl, h⟩]

/-- What an excerpt shows of the segments: the longest prefix of them that fits, or a cut of
the first one where that alone does not. -/
inductive Shown (available : ℕ) (segments : List (List Char)) : List (List Char) → Prop
  | whole {front : List (List Char)} (hfirst : ∀ first ∈ segments.head?, first.length ≤ available)
      (hlongest : LongestFitting List.length available segments front) : Shown available segments front
  | cut {first : List Char} (hfirst : segments.head? = some first)
      (hlong : available < first.length) : Shown available segments [first.take available]

theorem shown_includeSegments {segments : List (List Char)} (h : segments ≠ []) (available : ℕ) :
    Shown available segments (includeSegments available [] 0 segments) := by
  cases segments with
  | nil => exact absurd rfl h
  | cons segment rest =>
      by_cases hfits : segment.length ≤ available
      · rw [includeSegments_fits hfits]
        exact .whole (by simpa using hfits) (fitting_longest _ _ _)
      · rw [includeSegments_cut (by omega)]
        exact .cut rfl (by omega)

theorem Shown.length_flatten_le {available : ℕ} {segments included : List (List Char)}
    (h : Shown available segments included) : included.flatten.length ≤ available := by
  cases h with
  | whole _ hlongest =>
      rw [List.length_flatten]
      exact hlongest.fits
  | cut _ _ => simp

theorem Shown.length_le {available : ℕ} {segments included : List (List Char)}
    (h : Shown available segments included) : included.length ≤ segments.length := by
  cases h with
  | whole _ hlongest => exact hlongest.isPrefix.length_le
  | cut hfirst _ =>
      obtain ⟨rest, rfl⟩ := List.head?_eq_some_iff.mp hfirst
      simp

/-! ## The excerpt as a whole -/

structure Excerpts (patch : List Char) (limit : ℤ) (truncatedLabel : List Char)
    (excerpt : DiffExcerpt) : Prop where
  bounded : excerpt.text.length ≤ limit
  untruncated_iff : excerpt.truncated = false ↔ patch.length ≤ limit
  untruncated : excerpt.truncated = false → excerpt.text = patch
  shown : excerpt.truncated = true → (excerptTrailer truncatedLabel).length < limit →
    ∃ included, Shown (limit - (excerptTrailer truncatedLabel).length).toNat
        (splitPatchByFile patch) included ∧
      excerpt.text = included.flatten.rdropWhile isSpace ++ excerptTrailer truncatedLabel ∧
      excerpt.includedFilePatches = included.length
  counted : excerpt.includedFilePatches ≤ excerpt.totalFilePatches ∧
    excerpt.totalFilePatches = (splitPatchByFile patch).length
  segments : (splitPatchByFile patch).flatten = patch

/-- An excerpt respects its limit and is cut between files wherever it can be. -/
theorem diff_excerpt (patch truncatedLabel : List Char) (limit : ℤ) (h : 0 < limit) :
    ∃ excerpt, buildFileAwareDiffExcerpt patch limit truncatedLabel = .ok excerpt ∧
      Excerpts patch limit truncatedLabel excerpt := by
  unfold buildFileAwareDiffExcerpt
  rw [if_neg (by omega)]
  dsimp only
  by_cases hshort : (patch.length : ℤ) ≤ limit
  · rw [if_pos hshort]
    exact ⟨_, rfl, hshort, by simp [hshort], fun _ => rfl, nofun, ⟨le_refl _, rfl⟩,
      flatten_splitPatchByFile patch⟩
  · rw [if_neg hshort]
    have hflatten := flatten_splitPatchByFile patch
    by_cases hroom : (limit - (excerptTrailer truncatedLabel).length).toNat = 0
    · rw [if_pos hroom]
      refine ⟨_, rfl, ?_, by simp [hshort], nofun, fun _ htrailer => ?_, ⟨Nat.zero_le _, rfl⟩, hflatten⟩
      · have htake := List.length_take_le limit.toNat (excerptTrailer truncatedLabel)
        dsimp only
        omega
      · omega
    · have hsegments : splitPatchByFile patch ≠ [] := by
        intro hnil
        rw [hnil, List.flatten_nil] at hflatten
        rw [← hflatten] at hshort
        exact hshort (by simpa using h.le)
      rw [if_neg hroom, if_neg (by simpa using hsegments)]
      have hshown := shown_includeSegments hsegments
        (limit - (excerptTrailer truncatedLabel).length).toNat
      refine ⟨_, rfl, ?_, by simp [hshort], nofun, fun _ _ => ⟨_, hshown, rfl, rfl⟩,
        ⟨hshown.length_le, rfl⟩, hflatten⟩
      have hincluded := hshown.length_flatten_le
      have hstrip := (List.rdropWhile_prefix (p := isSpace)
        (l := (includeSegments (limit - (excerptTrailer truncatedLabel).length).toNat [] 0
          (splitPatchByFile patch)).flatten)).length_le
      dsimp only
      rw [List.length_append]
      omega

def twoFilePatch : List Char :=
  "From a1b2\ndiff --git a/x b/x\n+one\ndiff --git a/y b/y\n+two\n".toList

theorem diff_excerpt_two_files :
    ∃ excerpt, buildFileAwareDiffExcerpt twoFilePatch 50 "cut".toList = .ok excerpt ∧
      Excerpts twoFilePatch 50 "cut".toList excerpt :=
  diff_excerpt twoFilePatch "cut".toList 50 (by decide)

/-! ## Repository context -/

/-- How a command ends. -/
inductive CommandResult where
  | missing
  | finished (returncode : ℤ) (stdout stderr : List Char)

/-- The texts of the errors are those of `RepoContextError`. -/
def runCommand (run : List String → CommandResult) (args : List String) : Except String (List Char) :=
  match run args with
  | .missing => .error ("Required command not found: " ++ args.headD "")
  | .finished returncode stdout stderr =>
      if returncode = 0 then .ok (Text.strip isSpace stdout)
      else
        let stderr := Text.strip isSpace stderr
        let stdout := Text.strip isSpace stdout
        .error <|
          if stderr ≠ [] then String.ofList stderr
          else if stdout ≠ [] then String.ofList stdout
          else args.headD "" ++ " exited with status " ++ toString returncode

/-- What is at a path, where files are read without the bytes that are no UTF-8. -/
inductive PathContent where
  | noFile
  | unreadable
  | text (content : List Char)

structure RepoHost where
  run : String → List String → CommandResult
  content : String → List Char → PathContent

def RepoHost.git (host : RepoHost) (repoPath : String) (args : List String) :
    Except String (List Char) :=
  runCommand (host.run repoPath) ("git" :: args)

structure CollectedContext where
  repoPath : String
  branch : List Char
  status : List Char
  diffstat : List Char
  changedFiles : List Char
  patch : List Char
  patchTruncated : Bool
  includedPatchFiles : ℕ
  totalPatchFiles : ℕ
  maxDiffChars : ℤ
  untrackedFiles : List (List Char)
  untrackedPreviews : Dict (List Char) (List Char)

def maxUntrackedPreviewChars : ℕ := 1200

/-- `_truncate` -/
def truncatePatch (text : List Char) (limit : ℤ) : Except String DiffExcerpt :=
  if limit ≤ 0 then .error "max_diff_chars must be > 0"
  else buildFileAwareDiffExcerpt text limit "repository diff truncated by ESE".toList

/-- The part of the patch that goes into the context. -/
def contextPatch (includeDiff : Bool) (patchRaw : List Char) (maxDiffChars : ℤ) :
    Except String DiffExcerpt :=
  if includeDiff ∧ patchRaw ≠ [] then truncatePatch patchRaw maxDiffChars
  else .ok ⟨[], false, 0, 0⟩

/-- The text of an untracked file that can be shown. -/
def untrackedText (content : List Char → PathContent) (path : List Char) : Option (List Char) :=
  match content path with
  | .text text => if Text.strip isSpace text = [] then none else some (Text.strip isSpace text)
  | .noFile => none
  | .unreadable => none

/-- The loop over the untracked files. -/
def previewUntracked (content : List Char → PathContent) (remaining : ℕ)
    (previews : Dict (List Char) (List Char)) : List (List Char) → Dict (List Char) (List Char)
  | [] => previews
  | path :: rest =>
      if remaining = 0 then previews
      else match untrackedText content path with
        | none => previewUntracked content remaining previews rest
        | some text =>
            let preview := text.take (min remaining maxUntrackedPreviewChars)
            previewUntracked content (remaining - preview.length) (previews.set path preview) rest

/-- Git is asked for a part of the context only if that part is wanted. -/
def gitIf (host : RepoHost) (wanted : Bool) (repoRoot : String) (args : List String) :
    Except String (List Char) :=
  if wanted then host.git repoRoot args else .ok []

def buildRepoContext (host : RepoHost) (repoPath : String) (includeStatus includeDiff : Bool)
    (maxDiffChars : ℤ) : Except String CollectedContext := do
  let root ← host.git repoPath ["rev-parse", "--show-toplevel"]
  let repoRoot := PosixPath.pathText (String.ofList root)
  let branch ← host.git repoRoot ["rev-parse", "--abbrev-ref", "HEAD"]
  let status ← gitIf host includeStatus repoRoot ["status", "--short"]
  let diffstat ← gitIf host includeDiff repoRoot ["diff", "--stat", "--find-renames", "HEAD"]
  let changedFiles ← gitIf host includeDiff repoRoot
    ["diff", "--name-status", "--find-renames", "HEAD"]
  let patchRaw ← gitIf host includeDiff repoRoot ["diff", "--no-color", "--find-renames", "HEAD"]
  let others ← gitIf host includeDiff repoRoot ["ls-files", "--others", "--exclude-standard"]
  let untrackedFiles := (splitLines others).filter fun line => Text.strip isSpace line ≠ []
  let excerpt ← contextPatch includeDiff patchRaw maxDiffChars
  let remaining := (maxDiffChars - excerpt.text.length).toNat
  return {
    repoPath := repoRoot, branch, status, diffstat, changedFiles
    patch := excerpt.text
    patchTruncated := excerpt.truncated
    includedPatchFiles := excerpt.includedFilePatches
    totalPatchFiles := excerpt.totalFilePatches
    maxDiffChars, untrackedFiles
    untrackedPreviews :=
      previewUntracked (host.content repoRoot) remaining Dict.empty untrackedFiles }

/-! ## What is quoted of a repository -/

theorem length_excerpt_le {patch truncatedLabel : List Char} {limit : ℤ} {excerpt : DiffExcerpt}
    (h : buildFileAwareDiffExcerpt patch limit truncatedLabel = .ok excerpt) :
    (excerpt.text.length : ℤ) ≤ limit := by
  unfold buildFileAwareDiffExcerpt at h
  by_cases hlimit : limit ≤ 0
  · rw [if_pos hlimit] at h
    cases h
  rw [if_neg hlimit] at h
  dsimp only at h
  have hcut : ∀ text : List Char, text.length ≤ (limit - (excerptTrailer truncatedLabel).length).toNat →
      (limit - (excerptTrailer truncatedLabel).length).toNat ≠ 0 →
      ((text.rdropWhile isSpace ++ excerptTrailer truncatedLabel).length : ℤ) ≤ limit := by
    intro text htext hroom
    have hstrip := (List.rdropWhile_prefix (p := isSpace) (l := text)).length_le
    rw [List.length_append]
    omega
  split at h
  · next hshort =>
      cases h
      exact hshort
  · split at h
    · cases h
      have htake := List.length_take_le limit.toNat (excerptTrailer truncatedLabel)
      dsimp only
      omega
    · next hroom =>
        split at h
        · cases h
          exact hcut _ (List.length_take_le _ _) hroom
        · next hsegments =>
            cases h
            exact hcut _ (shown_includeSegments (by simpa using hsegments) _).length_flatten_le hroom

theorem length_contextPatch_le {includeDiff : Bool} {patchRaw : List Char} {maxDiffChars : ℤ}
    {excerpt : DiffExcerpt} (h : contextPatch includeDiff patchRaw maxDiffChars = .ok excerpt) :
    (excerpt.text.length : ℤ) ≤ max 0 maxDiffChars := by
  unfold contextPatch truncatePatch at h
  split at h
  · split at h
    · cases h
    · exact (length_excerpt_le h).trans (le_max_right 0 maxDiffChars)
  · cases h
    exact le_max_left 0 maxDiffChars

/-- The untracked files that can be shown, with as much of each as may be. -/
def shownFiles (content : List Char → PathContent) (paths : List (List Char)) :
    List (List Char × List Char) :=
  paths.filterMap fun path =>
    (untrackedText content path).map fun text => (path, text.take maxUntrackedPreviewChars)

theorem ne_nil_of_mem_shownFiles {content : List Char → PathContent} {paths : List (List Char)}
    {file : List Char × List Char} (h : file ∈ shownFiles content paths) : file.2 ≠ [] := by
  obtain ⟨path, -, hshown⟩ := List.mem_filterMap.mp h
  obtain ⟨text, huntracked, rfl⟩ := Option.map_eq_some_iff.mp hshown
  rw [ne_eq, List.take_eq_nil_iff, not_or]
  refine ⟨by decide, ?_⟩
  unfold untrackedText at huntracked
  split at huntracked
  · split at huntracked
    · cases huntracked
    · next hblank =>
        cases huntracked
        exact hblank
  · cases huntracked
  · cases huntracked

section
variable {content : List Char → PathContent} {previews : Dict (List Char) (List Char)}
  {paths : List (List Char)} {remaining : ℕ}

theorem sum_length_setIn_le (key value : List Char) (items : List (List Char × List Char)) :
    ((Dict.setIn key value items).map fun p => p.2.length).sum ≤
      (items.map fun p => p.2.length).sum + value.length := by
  induction items with
  | nil => simp [Dict.setIn]
  | cons p rest ih =>
      obtain ⟨key', value'⟩ := p
      rw [Dict.setIn]
      split
      · simp only [List.map_cons, List.sum_cons]
        omega
      · simp only [List.map_cons, List.sum_cons]
        omega

/-- The previews stay within the budget, also where a path comes twice. -/
theorem sum_length_previewUntracked_le (content : List Char → PathContent) (remaining : ℕ)
    (previews : Dict (List Char) (List Char)) (paths : List (List Char)) :
    ((previewUntracked content remaining previews paths).items.map fun p => p.2.length).sum ≤
      (previews.items.map fun p => p.2.length).sum + remaining := by
  induction paths generalizing remaining previews with
  | nil => exact Nat.le_add_right _ _
  | cons path rest ih =>
      rw [previewUntracked]
      split
      · exact Nat.le_add_right _ _
      · split
        · exact ih remaining previews
        · next text _ =>
            have hset := sum_length_setIn_le path
              (text.take (min remaining maxUntrackedPreviewChars)) previews.items
            have hrest := ih (remaining - (text.take (min remaining maxUntrackedPreviewChars)).length)
              (previews.set path (text.take (min remaining maxUntrackedPreviewChars)))
            have htake := List.length_take_le (min remaining maxUntrackedPreviewChars) text
            have hitems : (previews.set path
                (text.take (min remaining maxUntrackedPreviewChars))).items =
              Dict.setIn path (text.take (min remaining maxUntrackedPreviewChars)) previews.items := rfl
            rw [hitems] at hrest
            dsimp only
            omega

/-- Of distinct paths the loop shows those that can be, in their order, until the budget is
used up. -/
theorem previewUntracked_items (hnodup : paths.Nodup) (hnew : ∀ path ∈ paths, path ∉ previews.keys) :
    ∃ pieces, (previewUntracked content remaining previews paths).items = previews.items ++ pieces ∧
      pieces.map Prod.fst <+: (shownFiles content paths).map Prod.fst ∧
      pieces.map Prod.snd = cutTo remaining ((shownFiles content paths).map Prod.snd) := by
  have hnone : cutTo 0 ((shownFiles content paths).map Prod.snd) = [] := by
    cases (shownFiles content paths).map Prod.snd <;> rfl
  induction paths generalizing remaining previews with
  | nil => exact ⟨[], by simp [previewUntracked], List.nil_prefix, rfl⟩
  | cons path rest ih =>
      rw [List.nodup_cons] at hnodup
      rw [List.forall_mem_cons] at hnew
      have hnone' : cutTo 0 ((shownFiles content rest).map Prod.snd) = [] := by
        cases (shownFiles content rest).map Prod.snd <;> rfl
      rw [previewUntracked]
      by_cases hzero : remaining = 0
      · rw [if_pos hzero]
        exact ⟨[], by simp, List.nil_prefix, by rw [hzero, hnone]; rfl⟩
      rw [if_neg hzero]
      cases htext : untrackedText content path with
      | none =>
          have hshown : shownFiles content (path :: rest) = shownFiles content rest := by
            rw [shownFiles, List.filterMap_cons, htext]
            rfl
          rw [hshown]
          exact ih hnodup.2 hnew.2 hnone'
      | some text =>
          have hshown : shownFiles content (path :: rest) =
              (path, text.take maxUntrackedPreviewChars) :: shownFiles content rest := by
            rw [shownFiles, List.filterMap_cons, htext]
            rfl
          dsimp only
          obtain ⟨pieces, hitems, hkeys, hvalues⟩ := @ih
            (previews.set path (text.take (min remaining maxUntrackedPreviewChars)))
            (remaining - (text.take (min remaining maxUntrackedPreviewChars)).length) hnodup.2
            (fun other hother => by
              rw [Dict.mem_keys_set, not_or]
              exact ⟨fun heq => hnodup.1 (heq ▸ hother), hnew.2 other hother⟩) hnone'
          refine ⟨(path, text.take (min remaining maxUntrackedPreviewChars)) :: pieces, ?_, ?_, ?_⟩
          · rw [hitems, Dict.items_set_of_notMem _ hnew.1, List.append_assoc, List.singleton_append]
          · rw [hshown, List.map_cons, List.map_cons]
            exact List.cons_prefix_cons.mpr ⟨rfl, hkeys⟩
          · have hbudget : remaining - (text.take (min remaining maxUntrackedPreviewChars)).length =
                remaining - (text.take maxUntrackedPreviewChars).length := by
              rw [List.length_take, List.length_take]
              omega
            rw [hshown, List.map_cons, List.map_cons, cutTo, if_neg hzero, hvalues, hbudget,
              List.take_take]

end

/-- What is quoted of the patch and of untracked files stays within the limit; as long as no
path comes twice, the previews together are the beginning of what could be shown of the files,
in their order, and none of them is empty. -/
theorem repo_context_budget (host : RepoHost) (repoPath : String) (includeStatus includeDiff : Bool)
    (maxDiffChars : ℤ) {context : CollectedContext}
    (h : buildRepoContext host repoPath includeStatus includeDiff maxDiffChars = .ok context) :
    (context.patch.length : ℤ) + (context.untrackedPreviews.values.map List.length).sum ≤
        max 0 maxDiffChars ∧
      (context.untrackedFiles.Nodup →
        let shown := shownFiles (host.content context.repoPath) context.untrackedFiles
        context.untrackedPreviews.keys <+: shown.map Prod.fst ∧
          context.untrackedPreviews.values.flatten =
            (shown.map Prod.snd).flatten.take (maxDiffChars - context.patch.length).toNat ∧
          (∃ front, front <+: shown.map Prod.snd ∧
            List.Forall₂ (· <+: ·) context.untrackedPreviews.values front) ∧
          ∀ preview ∈ context.untrackedPreviews.values, preview ≠ []) := by
  obtain ⟨root, -, h⟩ := Fallible.bind_eq_ok_iff.mp h
  obtain ⟨branch, -, h⟩ := Fallible.bind_eq_ok_iff.mp h
  obtain ⟨status, -, h⟩ := Fallible.bind_eq_ok_iff.mp h
  obtain ⟨diffstat, -, h⟩ := Fallible.bind_eq_ok_iff.mp h
  obtain ⟨changedFiles, -, h⟩ := Fallible.bind_eq_ok_iff.mp h
  obtain ⟨patchRaw, -, h⟩ := Fallible.bind_eq_ok_iff.mp h
  obtain ⟨others, -, h⟩ := Fallible.bind_eq_ok_iff.mp h
  obtain ⟨excerpt, hexcerpt, h⟩ := Fallible.bind_eq_ok_iff.mp h
  cases h
  dsimp only
  have hpatch := length_contextPatch_le hexcerpt
  constructor
  · have hsum := sum_length_previewUntracked_le
      (host.content (PosixPath.pathText (String.ofList root)))
      (maxDiffChars - excerpt.text.length).toNat Dict.empty
      ((splitLines others).filter fun line => Text.strip isSpace line ≠ [])
    rw [Dict.items_empty, List.map_nil, List.sum_nil, Nat.zero_add] at hsum
    rw [Dict.values, List.map_map]
    have hmax := le_max_right 0 maxDiffChars
    simp only [Function.comp_def]
    omega
  · intro hnodup
    obtain ⟨pieces, hitems, hkeys, hvalues⟩ := @previewUntracked_items
      (host.content (PosixPath.pathText (String.ofList root))) Dict.empty _
      (maxDiffChars - excerpt.text.length).toNat hnodup (fun _ _ => List.not_mem_nil)
    rw [Dict.items_empty, List.nil_append] at hitems
    rw [Dict.keys, Dict.values, hitems, hvalues]
    refine ⟨hkeys, flatten_cutTo _ _, cutTo_prefixes _ _, fun preview => ne_nil_of_mem_cutTo ?_⟩
    intro text htext
    obtain ⟨file, hfile, rfl⟩ := List.mem_map.mp htext
    exact ne_nil_of_mem_shownFiles hfile

/-- A repository with one change and two files that are not tracked. -/
def changedRepo : RepoHost where
  run _ args := .finished 0
    (if args = ["git", "ls-files", "--others", "--exclude-standard"] then "notes\nplan\n".toList
    else if args = ["git", "diff", "--no-color", "--find-renames", "HEAD"] then
      "diff --git a/x b/x\n+one\n".toList
    else []) []
  content _ path := .text (path ++ " of the week\n".toList)

/-- There is room for the notes and the beginning of the plan. -/
theorem repo_context_budget_changed :
    ∃ context, buildRepoContext changedRepo "." true true 50 = .ok context ∧
      context.untrackedPreviews.values = ["notes of the week".toList, "plan of th".toList] ∧
      (context.patch.length : ℤ) + (context.untrackedPreviews.values.map List.length).sum ≤
        max 0 50 := by
  have hcontext : ∃ context, buildRepoContext changedRepo "." true true 50 = .ok context ∧
      context.untrackedPreviews.values = ["notes of the week".toList, "plan of th".toList] :=
    ⟨_, rfl, rfl⟩
  obtain ⟨context, h, hpreviews⟩ := hcontext
  exact ⟨context, h, hpreviews, (repo_context_budget changedRepo "." true true 50 h).1⟩

end TruePresenceESE.Ese
