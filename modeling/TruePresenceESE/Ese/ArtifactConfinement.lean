import TruePresenceESE.Ese.LegibleRuns
import TruePresenceESE.Ese.ParallelSpecialists
import TruePresenceESE.Lib.PathCourse

/-! # Artifacts and the artifacts directory

A role artifact is written wherever the name of its role leads. It stays in the
artifacts directory exactly when what the name climbs out of the directory it
comes down again, and two roles have two files exactly when their names lead to
different places below it.
-/

namespace TruePresenceESE.Ese

open PosixPath PyText

/-! ## Names as paths -/

/-- The name of an artifact up to its extension. -/
def artifactStem (next : Pending) : List Char := (pad2 next.2).toList ++ '_' :: next.1.toList

/-- The directories that the name passes. -/
def artifactDirs (next : Pending) : List Segment := (segments (artifactStem next)).dropLast

def artifactEnd (next : Pending) : Segment :=
  (segments (artifactStem next)).getLast (segments_ne_nil _)

def artifactBelow (directory : Location) (next : Pending) : List Segment :=
  (course (artifactDirs next)).below directory ++ [artifactEnd next]

/-- The roles of these names have artifacts of their own in the directory. -/
structure ConfinedNames (directory : Location) (roles : List String) : Prop where
  returns : ∀ next ∈ roles.zipIdx 1, (course (artifactDirs next)).Returns directory
  apart : ∀ p ∈ roles.zipIdx 1, ∀ q ∈ roles.zipIdx 1, p.1 ≠ q.1 →
    artifactBelow directory p ≠ artifactBelow directory q

/-! ## Calls -/

/-- A strict part of the directory. -/
def Inside (directory location : Location) : Prop := ∃ below ≠ [], location = directory ++ below

/-- A later call can take the recorded path up, wherever it runs. -/
def Retaken (s : RunSettings) (ref : String) : Prop :=
  ∀ later : Host, ∃ path, ensureArtifactWithinDir later s.artifactsDir
    (reportArtifactPath s.artifactsDir ref) = .ok path

/-- What a call writes stays in its directory, each role for itself, and what it
records there can be taken up again. -/
structure ConfinedCall (host : Host) (s : RunSettings) (request : RunRequest) (fs : FileSystem) :
    Prop where
  inside : ∀ p ∈ runWritten host s request fs, Inside (host.locate s.artifactsDir) p.2
  apart : ∀ p ∈ runWritten host s request fs, ∀ q ∈ runWritten host s request fs,
    p.1 ≠ q.1 → p.2 ≠ q.2
  accepted : isAbs s.artifactsDir = true → (startRun host s request fs).isOk = true →
    ∀ role ref, savedArtifact host.py (runPipeline host s request fs).1
      (host.locate s.artifactsDir) role = some ref → Retaken s ref

/-- What validation asks of the settings that a run reads. -/
def RunSettings.Valid (s : RunSettings) : Prop := s.failOnHigh = true → s.enforceJson = true

/-! ## Where a name leads -/

theorem segments_artifactName (next : Pending) {extension : String}
    (h : '/' ∉ extension.toList) :
    segments (artifactName next.2 next.1 extension).toList =
      artifactDirs next ++ [artifactEnd next ++ '.' :: extension.toList] := by
  have hsuffix : '/' ∉ '.' :: extension.toList := by
    simp [h]
  have hname : (artifactName next.2 next.1 extension).toList =
      artifactStem next ++ '.' :: extension.toList := by
    rw [toList_artifactName, artifactStem]
    simp
  rw [hname, segments_append_suffix _ hsuffix]
  rfl

theorem isName_artifactEnd (next : Pending) {extension : String}
    (h : '/' ∉ extension.toList) (hlength : 1 < extension.toList.length) :
    IsName (artifactEnd next ++ '.' :: extension.toList) := by
  have hend : '/' ∉ artifactEnd next := notMem_of_mem_segments (List.getLast_mem _)
  have hlong : 2 < (artifactEnd next ++ '.' :: extension.toList).length := by
    simp only [List.length_append, List.length_cons]
    omega
  refine ⟨by simp [hend, h], ?_, ?_, ?_⟩ <;> intro heq <;> simp [heq] at hlong

theorem artifactLocation_eq (host : Host) (s : RunSettings) (next : Pending) :
    artifactLocation host s next =
      (course (artifactDirs next)).follow (host.locate s.artifactsDir) ++
        [artifactEnd next ++ '.' :: s.extension.toList] := by
  have hplain : '/' ∉ s.extension.toList ∧ 1 < s.extension.toList.length := by
    unfold RunSettings.extension
    split <;> decide
  rw [artifactLocation, Host.locate, resolve_join s.artifactsDir_ne_empty
    (isAbs_artifactName _ _ _), segments_artifactName next hplain.1, walk_append,
    walk_eq_follow _ (artifactDirs next)]
  exact step_name (isName_artifactEnd next hplain.1 hplain.2) _

theorem inside_artifactLocation_iff (host : Host) (s : RunSettings) (next : Pending) :
    Inside (host.locate s.artifactsDir) (artifactLocation host s next) ↔
      (course (artifactDirs next)).Returns (host.locate s.artifactsDir) := by
  rw [artifactLocation_eq, ← Course.prefix_follow_iff]
  constructor
  · rintro ⟨below, hne, hlocation⟩
    refine ⟨below.dropLast, ?_⟩
    rw [← List.dropLast_append_of_ne_nil hne, ← hlocation, List.dropLast_concat]
  · rintro ⟨below, hbelow⟩
    exact ⟨below ++ [artifactEnd next ++ '.' :: s.extension.toList], by simp,
      by rw [← hbelow, List.append_assoc]⟩

theorem artifactLocation_inj (host : Host) (s : RunSettings) {p q : Pending}
    (hp : (course (artifactDirs p)).Returns (host.locate s.artifactsDir))
    (hq : (course (artifactDirs q)).Returns (host.locate s.artifactsDir)) :
    artifactLocation host s p = artifactLocation host s q ↔
      artifactBelow (host.locate s.artifactsDir) p =
        artifactBelow (host.locate s.artifactsDir) q := by
  rw [artifactLocation_eq, artifactLocation_eq, hp.follow_eq, hq.follow_eq, List.append_assoc,
    List.append_assoc, List.append_cancel_left_eq, artifactBelow, artifactBelow]
  constructor
  · intro h
    obtain ⟨hbelow, hend⟩ := List.append_inj' h rfl
    rw [List.cons.injEq] at hend
    rw [hbelow, List.append_cancel_right hend.1]
  · intro h
    obtain ⟨hbelow, hend⟩ := List.append_inj' h rfl
    rw [List.cons.injEq] at hend
    rw [hbelow, hend.1]

/-! ## What a call writes and records -/

section
variable {host : Host} {s : RunSettings} {request : RunRequest} {fs : FileSystem} {env : RunEnv}
  {resume : Resume} {ds : List Done} {ending : Ending}

theorem Persists.written_eq (hrun : Persists host s request fs env resume ds ending) :
    runWritten host s request fs = ds.map fun d => (d.next.1, artifactLocation host s d.next) := by
  obtain ⟨adapter, -, hresume, rfl⟩ := startRun_ok_iff.mp hrun.start
  obtain ⟨seeds, -, hstate, -⟩ := loadResumeState_ok hresume
  obtain ⟨-, -, hseeded, -⟩ := foldl_keepSeed host.py { fs := withSnapshot host s fs } seeds
  obtain ⟨-, -, -, -, -, hwritten⟩ := foldl_keepDone _ resume.state ds
  rw [hrun.written, hwritten, hstate, hseeded, List.nil_append]
  refine List.map_congr_left fun d hd => ?_
  obtain ⟨-, outputs, hperform⟩ := mem_zipIdx_of_performed hrun.performed hd
  rw [d.location_eq rfl hperform]

/-- A recorded path is that of a performed role or has passed the check before. -/
theorem Persists.recorded (hrun : Persists host s request fs env resume ds ending)
    {role ref : String} (href : savedArtifact host.py (runPipeline host s request fs).1
      (host.locate s.artifactsDir) role = some ref) :
    (∃ path, host.locate s.artifactsDir <+: host.locate path ∧ ref = render (host.locate path)) ∨
      ∃ d ∈ ds, ref = join s.artifactsDir (artifactName d.next.2 d.next.1 s.extension) := by
  rw [savedArtifact_stateJson hrun.state] at href
  obtain ⟨adapter, -, hresume, rfl⟩ := startRun_ok_iff.mp hrun.start
  obtain ⟨seeds, hroles, hstate, hseeds⟩ := loadResumeState_ok hresume
  obtain ⟨-, -, -, -, hseeded, -⟩ := foldl_keepSeed host.py { fs := withSnapshot host s fs } seeds
  obtain ⟨-, hartifacts, -⟩ := foldl_keepDone _ resume.state ds
  have hnodup := nodup_seeds_append hroles hrun.performed.1
  rw [hartifacts, hstate, hseeded, Dict.update_append,
    Dict.get?_update_empty_iff (by simpa [Function.comp_def] using hnodup), List.mem_append,
    List.mem_map, List.mem_map] at href
  rcases href with ⟨seed, hseed, heq⟩ | ⟨d, hd, heq⟩
  · obtain ⟨startRole, state, artifacts, -, -, -, -, hall⟩ := hseeds (List.ne_nil_of_mem hseed)
    obtain ⟨saved, -, -, hinside⟩ := (hall seed hseed).artifact
    obtain ⟨hwithin, hpath⟩ := ensureArtifactWithinDir_ok_iff.mp hinside
    rw [Prod.mk.injEq] at heq
    exact .inl ⟨_, List.isPrefixOf_iff_prefix.mp hwithin, heq.2.symm.trans hpath⟩
  · obtain ⟨-, outputs, hperform⟩ := mem_zipIdx_of_performed hrun.performed hd
    rw [Prod.mk.injEq, d.path_eq rfl hperform] at heq
    exact .inr ⟨d, hd, heq.2.symm⟩

end

section
variable {host : Host} {s : RunSettings}

theorem retaken_of_isAbs (host : Host) (habs : isAbs s.artifactsDir = true) {ref : String}
    (href : isAbs ref = true) (h : host.locate s.artifactsDir <+: host.locate ref) :
    Retaken s ref := by
  intro later
  have hdirectory : later.locate s.artifactsDir = host.locate s.artifactsDir :=
    resolve_of_isAbs habs _ _
  have hfile : later.locate ref = host.locate ref := resolve_of_isAbs href _ _
  refine ⟨_, ensureArtifactWithinDir_ok_iff.mpr ⟨?_, rfl⟩⟩
  rw [reportArtifactPath, if_pos href, hdirectory, hfile, List.isPrefixOf_iff_prefix]
  exact h

theorem ConfinedNames.inside (h : ConfinedNames (host.locate s.artifactsDir) s.roleOrder)
    {next : Pending} (hnext : next ∈ s.roleOrder.zipIdx 1) :
    Inside (host.locate s.artifactsDir) (artifactLocation host s next) :=
  (inside_artifactLocation_iff host s next).mpr (h.returns next hnext)

theorem ConfinedNames.location_ne (h : ConfinedNames (host.locate s.artifactsDir) s.roleOrder)
    {p q : Pending} (hp : p ∈ s.roleOrder.zipIdx 1) (hq : q ∈ s.roleOrder.zipIdx 1)
    (hne : p.1 ≠ q.1) : artifactLocation host s p ≠ artifactLocation host s q := by
  intro heq
  have hbelow := (artifactLocation_inj host s (h.returns p hp) (h.returns q hq)).mp heq
  exact h.apart p hp q hq hne hbelow

theorem ConfinedNames.confinedCall
    (h : ConfinedNames (host.locate s.artifactsDir) s.roleOrder) (request : RunRequest)
    (fs : FileSystem) : ConfinedCall host s request fs := by
  rcases runPipeline_cases host s request fs with
    ⟨halt, hstart, -, hwritten⟩ | ⟨env, resume, ds, ending, hrun⟩
  · rw [(startRun_error hstart).2.1] at hwritten
    refine ⟨?_, ?_, fun _ hok => ?_⟩
    · simp [hwritten]
    · simp [hwritten]
    · rw [hstart] at hok
      cases hok
  · have hmem : ∀ d ∈ ds, d.next ∈ s.roleOrder.zipIdx 1 := fun d hd =>
      (mem_zipIdx_of_performed hrun.performed hd).1
    refine ⟨?_, ?_, fun habs _ role ref href => ?_⟩
    · intro p hp
      rw [hrun.written_eq, List.mem_map] at hp
      obtain ⟨d, hd, rfl⟩ := hp
      dsimp only
      exact h.inside (hmem d hd)
    · intro p hp q hq hne
      rw [hrun.written_eq, List.mem_map] at hp hq
      obtain ⟨d, hd, rfl⟩ := hp
      obtain ⟨e, he, rfl⟩ := hq
      dsimp only at hne ⊢
      exact h.location_ne (hmem d hd) (hmem e he) hne
    · rcases hrun.recorded href with ⟨path, hwithin, rfl⟩ | ⟨d, hd, rfl⟩
      · refine retaken_of_isAbs host habs (isAbs_render _) ?_
        rwa [host.locate_render]
      · refine retaken_of_isAbs host habs ?_ ?_
        · rw [isAbs_join s.artifactsDir_ne_empty (isAbs_artifactName _ _ _), habs]
        · obtain ⟨below, -, hbelow⟩ := h.inside (hmem d hd)
          exact ⟨below, hbelow.symm⟩

end

/-! ## A call that performs every role -/

/-- The same roles in the same directory, with Markdown artifacts and no gate. -/
def RunSettings.unstructured (s : RunSettings) : RunSettings :=
  { s with
    enforceJson := false
    failOnHigh := false
    roleModel := fun _ => .ok "model" }

theorem roleRun_unstructured {env : RunEnv} {model text : String}
    (hjson : env.inputs.enforceJson = false) (hgate : env.settings.failOnHigh = false)
    (hmodel : ∀ role, env.settings.roleModel role = .ok model)
    (hadapter : ∀ call, env.adapter call = .output text) (outputs : Dict String String)
    (pending : List Pending) : ∃ ds, RoleRun env outputs pending ds := by
  induction pending generalizing outputs with
  | nil => exact ⟨[], .nil⟩
  | cons next rest ih =>
      let rendered : Rendered := ⟨"md", .text text, text, none⟩
      obtain ⟨ds, hds⟩ := ih (outputs.set next.1 text)
      have hperform : performRole env outputs next =
          .ok ⟨next, roleCall env next.1 model outputs, rendered⟩ := by
        refine performRole_ok_iff.mpr ⟨model, text, rendered, hmodel _, ?_, ?_, rfl⟩
        · rw [invokeAdapter, hadapter]
        · rw [renderRoleOutput, hjson]
          rfl
      refine ⟨_, .cons hperform (fun h => ?_) hds⟩
      rw [hgate] at h
      cases h

theorem runWritten_unstructured (host : Host) (s : RunSettings) (text : String) (fs : FileSystem) :
    runWritten host s.unstructured (sampleRequest none text) fs =
      (s.roleOrder.zipIdx 1).map fun next => (next.1, artifactLocation host s.unstructured next) := by
  have hstart := startRun_fresh host s.unstructured (sampleRequest none text)
    (fun _ => .output text) fs
  obtain ⟨ds, hds⟩ := @roleRun_unstructured
    (freshEnv host s.unstructured (sampleRequest none text) (fun _ => .output text) fs) "model" text
    rfl rfl (fun _ => rfl) (fun _ => rfl) Dict.empty (pendingRoles s.unstructured 0)
  have hwritten := (persists_of_roleRun hstart hds).written_eq
  have hnext : s.roleOrder.zipIdx 1 = ds.map Done.next := hds.map_next.symm
  rw [hnext, List.map_map]
  exact hwritten

theorem ConfinedCall.confinedNames {host : Host} {s : RunSettings} {text : String}
    {fs : FileSystem} (h : ConfinedCall host s.unstructured (sampleRequest none text) fs) :
    ConfinedNames (host.locate s.artifactsDir) s.roleOrder := by
  have hmem : ∀ next ∈ s.roleOrder.zipIdx 1, (next.1, artifactLocation host s.unstructured next) ∈
      runWritten host s.unstructured (sampleRequest none text) fs := by
    intro next hnext
    rw [runWritten_unstructured]
    exact List.mem_map_of_mem hnext
  have hreturns : ∀ next ∈ s.roleOrder.zipIdx 1,
      (course (artifactDirs next)).Returns (host.locate s.artifactsDir) := by
    intro next hnext
    have hinside := h.inside _ (hmem next hnext)
    dsimp only at hinside
    exact (inside_artifactLocation_iff host s.unstructured next).mp hinside
  refine ⟨hreturns, fun p hp q hq hne hbelow => ?_⟩
  have hlocations : artifactLocation host s.unstructured p =
      artifactLocation host s.unstructured q :=
    (artifactLocation_inj host s.unstructured (hreturns p hp) (hreturns q hq)).mpr hbelow
  have hapart := h.apart _ (hmem p hp) _ (hmem q hq)
  dsimp only at hapart
  exact hapart hne hlocations

/-- Whatever else is configured, every call is confined exactly when the role names
are: validation never looks at what a name says. -/
theorem confinedCalls_iff (host : Host) (s : RunSettings) :
    (∀ s' : RunSettings, s'.artifactsDir = s.artifactsDir → s'.roleOrder = s.roleOrder →
      s'.Valid → ∀ request fs, ConfinedCall host s' request fs) ↔
      ConfinedNames (host.locate s.artifactsDir) s.roleOrder := by
  constructor
  · intro hcalls
    have hcall := hcalls s.unstructured rfl rfl (fun h => h) (sampleRequest none "") fun _ => none
    exact hcall.confinedNames
  · intro hnames s' hdir horder _ request fs
    rw [← hdir, ← horder] at hnames
    exact hnames.confinedCall request fs

/-- One role, whose name climbs out of the directory. -/
def climbingSettings : RunSettings :=
  { sampleSettings with
    roleOrder := ["notes/../../notes"]
    roleOrder_ne_nil := by decide
    roleOrder_nodup := by decide }

/-- Its artifact is written next to the artifacts directory. -/
theorem artifact_written_outside :
    climbingSettings.unstructured.Valid ∧
      ¬ ConfinedCall sampleHost climbingSettings.unstructured (sampleRequest none "done")
        fun _ => none := by
  refine ⟨fun h => h, fun hcall => ?_⟩
  have hnames := hcall.confinedNames
  have hclimbs : ¬ (course (artifactDirs ("notes/../../notes", 1))).Returns
      (sampleHost.locate climbingSettings.artifactsDir) := by
    rw [Course.Returns]
    decide +kernel
  exact hclimbs (hnames.returns _ (List.mem_singleton_self _))

end TruePresenceESE.Ese
