import TruePresenceESE.Ese.Pipeline

/-! # Where a run writes

Artifacts are named by index, role and format inside the artifacts directory.
Two roles without a slash in their names never share a file.
-/

namespace TruePresenceESE.Ese

open PosixPath PyText

/-! ## Names -/

theorem toList_artifactName (index : Nat) (role extension : String) :
    (artifactName index role extension).toList =
      (pad2 index).toList ++ '_' :: (role.toList ++ '.' :: extension.toList) := by
  simp [artifactName, String.toList_append]

theorem pad2_ne_nil (n : Nat) : (pad2 n).toList ≠ [] := by
  unfold pad2
  split
  · simp
  · simp

theorem notMem_pad2 {n : Nat} {c : Char} (hc : c.isDigit = false) : c ∉ (pad2 n).toList := by
  intro hmem
  rw [isDigit_of_mem_pad2 hmem] at hc
  contradiction

theorem isAbs_artifactName (index : Nat) (role extension : String) :
    isAbs (artifactName index role extension) = false := by
  rw [isAbs, toList_artifactName]
  cases hdigits : (pad2 index).toList with
  | nil => exact absurd hdigits (pad2_ne_nil index)
  | cons c rest =>
      have hslash : '/' ∉ (pad2 index).toList := notMem_pad2 rfl
      rw [hdigits, List.mem_cons, not_or] at hslash
      simp [Ne.symm hslash.1]

/-- The role stands between the first underscore and the extension. -/
theorem role_of_artifactName_eq {index index' : Nat} {role role' extension : String}
    (h : artifactName index role extension = artifactName index' role' extension) :
    role = role' := by
  have hlists := congrArg String.toList h
  rw [toList_artifactName, toList_artifactName] at hlists
  have hdrop : ∀ n : Nat, ∀ tail : List Char,
      ((pad2 n).toList ++ '_' :: tail).dropWhile (· ≠ '_') = '_' :: tail := by
    intro n tail
    rw [List.dropWhile_append_of_pos]
    · simp
    · intro c hc
      have hne : c ≠ '_' := fun heq => notMem_pad2 rfl (heq ▸ hc)
      simpa using hne
  have htails := congrArg (List.dropWhile (· ≠ '_')) hlists
  rw [hdrop, hdrop, List.cons.injEq] at htails
  exact String.toList_injective (List.append_cancel_right htails.2)

/-! ## Locations -/

/-- A name that is no step of its own. -/
def PlainName (name : String) : Prop := '/' ∉ name.toList ∧ 2 < name.toList.length

theorem walk_plainName {here : Location} {name : String} (h : PlainName name) :
    walk here (segments name.toList) = here ++ [name.toList] := by
  rw [segments_of_no_slash h.1]
  have hlength := h.2
  simp only [walk, List.foldl_cons, List.foldl_nil, step]
  rw [if_neg, if_neg]
  · intro heq
    simp [heq] at hlength
  · rintro (heq | heq) <;> simp [heq] at hlength

theorem isAbs_plainName {name : String} (h : PlainName name) : isAbs name = false := by
  cases hname : name.toList with
  | nil => simp [isAbs, hname]
  | cons c rest =>
      have hslash := h.1
      rw [hname, List.mem_cons, not_or] at hslash
      simp [isAbs, hname, Ne.symm hslash.1]

theorem locate_plainName (host : Host) {directory name : String} (hdir : directory ≠ "")
    (h : PlainName name) :
    host.locate (join directory name) = host.locate directory ++ [name.toList] := by
  rw [Host.locate, resolve_join hdir (isAbs_plainName h), walk_plainName h]
  rfl

theorem plainName_artifactName {role extension : String} (index : Nat)
    (hrole : '/' ∉ role.toList) (hextension : '/' ∉ extension.toList)
    (hlength : 0 < extension.toList.length) : PlainName (artifactName index role extension) := by
  constructor
  · rw [toList_artifactName]
    simp [notMem_pad2 (n := index) (c := '/') rfl, hrole, hextension]
  · rw [toList_artifactName]
    have hdigits := List.length_pos_of_ne_nil (pad2_ne_nil index)
    simp only [List.length_append, List.length_cons]
    omega

/-- The last name on the way to an artifact ends in its extension. -/
theorem getLast?_locate_artifact (host : Host) {directory : String} (hdir : directory ≠ "")
    (index : Nat) (role extension : String) (hextension : '/' ∉ extension.toList)
    (hlength : 1 < extension.toList.length) :
    ∃ stem, (host.locate (join directory (artifactName index role extension))).getLast? =
      some (stem ++ '.' :: extension.toList) := by
  have hsuffix : '/' ∉ '.' :: extension.toList := by
    simp [hextension]
  obtain ⟨stem, hstem⟩ := @getLast?_segments_append
    ((pad2 index).toList ++ '_' :: role.toList) _ hsuffix
  rw [Host.locate, resolve_join hdir (isAbs_artifactName index role extension),
    toList_artifactName]
  refine ⟨stem, getLast?_walk ?_ ?_⟩
  · simpa using hstem
  · simp only [List.length_append, List.length_cons]
    omega

/-! ## Files of the run itself -/

theorem fileIn_ne {workingDir workingDir' : Location} {directory directory' name name' : String}
    (h : name ≠ name') :
    fileIn workingDir directory name ≠ fileIn workingDir' directory' name' := by
  intro heq
  have hlast := congrArg List.getLast? heq
  rw [fileIn, fileIn, List.getLast?_concat, List.getLast?_concat, Option.some.injEq] at hlast
  exact h (String.toList_injective hlast)

/-- The files a run writes besides the role artifacts, and those it reads. -/
def reservedNames : List String :=
  [stateName, feedbackStoreName, summaryName, configSnapshotName, suggestionsMarkdownName,
    suggestionsJsonName, releaseName]

theorem plainName_of_reserved {name : String} (h : name ∈ reservedNames) : PlainName name := by
  revert name
  simp [reservedNames, PlainName, stateName, feedbackStoreName, summaryName, configSnapshotName,
    suggestionsMarkdownName, suggestionsJsonName, releaseName]

theorem locate_reserved (host : Host) {directory name : String} (hdir : directory ≠ "")
    (h : name ∈ reservedNames) :
    host.locate (join directory name) = fileIn host.workingDir directory name :=
  locate_plainName host hdir (plainName_of_reserved h)

/-- The feedback store is neither the state file nor any other file of a run. -/
theorem getLast?_feedbackStore (fs : FileSystem) (workingDir : Location) (artifactsDir : String) :
    (feedbackStoreLocation fs workingDir artifactsDir).getLast? =
      some feedbackStoreName.toList := by
  unfold feedbackStoreLocation
  split
  · exact List.getLast?_concat
  · exact List.getLast?_concat

/-- Guidance depends on the store and on whether there is a state file. -/
theorem feedbackPromptGuidance_write (py : Interpreter) (fs : FileSystem) (workingDir : Location)
    (artifactsDir : String) {location : Location} (content : FileContent)
    (hstate : location ≠ fileIn workingDir artifactsDir stateName)
    (hstore : location.getLast? ≠ some feedbackStoreName.toList) :
    feedbackPromptGuidance py (fs.write location content) workingDir artifactsDir =
      feedbackPromptGuidance py fs workingDir artifactsDir := by
  have hwhere : feedbackStoreLocation (fs.write location content) workingDir artifactsDir =
      feedbackStoreLocation fs workingDir artifactsDir := by
    rw [feedbackStoreLocation, feedbackStoreLocation, FileSystem.write_of_ne fs hstate.symm]
  have hne : feedbackStoreLocation fs workingDir artifactsDir ≠ location := by
    intro heq
    exact hstore (heq ▸ getLast?_feedbackStore fs workingDir artifactsDir)
  rw [feedbackPromptGuidance, feedbackPromptGuidance, hwhere, FileSystem.write_of_ne fs hne]

end TruePresenceESE.Ese
