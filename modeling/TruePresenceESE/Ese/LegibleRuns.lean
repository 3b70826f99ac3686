import TruePresenceESE.Ese.SavedState

/-! # Runs that can be read again

Every file a call writes is sound: a JSON file holds an object the collector can
iterate over. The records of a saved state lead to sound files as long as the
artifacts directory, walked from itself, is the same directory again.
-/

namespace TruePresenceESE.Ese

open PosixPath PyText PyValue

/-! ## Sound files -/

def SoundContent (location : Location) (content : FileContent) : Prop :=
  IsJsonFile location → ∃ fields, content = .json (.obj fields) ∧ Reportable (.obj fields)

def SoundAt (fs : FileSystem) (location : Location) : Prop :=
  ∃ content, fs location = some content ∧ SoundContent location content

/-- The extension of role artifacts. -/
def RunSettings.extension (s : RunSettings) : String := if s.enforceJson then "json" else "md"

/-- Where the artifact of a role is written. -/
def artifactLocation (host : Host) (s : RunSettings) (next : Pending) : Location :=
  host.locate (join s.artifactsDir (artifactName next.2 next.1 s.extension))

/-- The files a call under these settings may write. -/
def RunFile (host : Host) (s : RunSettings) (location : Location) : Prop :=
  (∃ name ∈ reservedNames, location = fileIn host.workingDir s.artifactsDir name) ∨
    ∃ next ∈ s.roleOrder.zipIdx 1, location = artifactLocation host s next

/-- Disks that differ in sound files of the run. -/
def Changes (host : Host) (s : RunSettings) (fs fs' : FileSystem) : Prop :=
  ∀ location, fs' location = fs location ∨ RunFile host s location ∧ SoundAt fs' location

section
variable {host : Host} {s : RunSettings} {fs fs' fs'' : FileSystem} {location : Location}

theorem Changes.refl : Changes host s fs fs := fun _ => .inl rfl

theorem SoundAt.changes (h : SoundAt fs location) (hchanges : Changes host s fs fs') :
    SoundAt fs' location := by
  rcases hchanges location with hsame | ⟨-, hsound⟩
  · obtain ⟨content, hcontent, hsound⟩ := h
    exact ⟨content, hsame.trans hcontent, hsound⟩
  · exact hsound

theorem Changes.trans (h : Changes host s fs fs') (h' : Changes host s fs' fs'') :
    Changes host s fs fs'' := by
  intro location
  rcases h' location with hsame | hchanged
  · rcases h location with hsame' | ⟨hfile, content, hcontent, hsound⟩
    · exact .inl (hsame.trans hsame')
    · exact .inr ⟨hfile, content, hsame.trans hcontent, hsound⟩
  · exact .inr hchanged

theorem Changes.write {content : FileContent} (h : Changes host s fs fs')
    (hfile : RunFile host s location) (hsound : SoundContent location content) :
    Changes host s fs (fs'.write location content) := by
  refine h.trans fun other => ?_
  by_cases heq : other = location
  · rw [heq]
    exact .inr ⟨hfile, content, FileSystem.write_self _ _ _, hsound⟩
  · exact .inl (FileSystem.write_of_ne _ heq _)

theorem soundContent_of_not_json {content : FileContent} (h : ¬ IsJsonFile location) :
    SoundContent location content := fun hjson => absurd hjson h

theorem runFile_reserved (host : Host) (s : RunSettings) {name : String}
    (h : name ∈ reservedNames) :
    RunFile host s (fileIn host.workingDir s.artifactsDir name) := .inl ⟨name, h, rfl⟩

theorem changes_withSnapshot (host : Host) (s : RunSettings) (fs : FileSystem) :
    Changes host s fs (withSnapshot host s fs) :=
  Changes.refl.write (runFile_reserved host s (by simp [reservedNames]))
    (soundContent_of_not_json (not_isJsonFile_fileIn (by decide)))

end

/-! ## Files of the run itself -/

theorem reportable_of_missing {fields : List (String × Json)}
    (h : ∀ key ∈ iteratedFields, (Json.obj fields).get? key = none) : Reportable (.obj fields) := by
  intro key hkey value hvalue
  rw [h key hkey] at hvalue
  cases hvalue

/-- The only iterated field of a state is its artifacts map. -/
theorem reportable_stateJson (env : RunEnv) (st : RunState) (ending : Ending) :
    Reportable (stateJson env st ending) := by
  intro key hkey value hvalue
  by_cases hartifacts : key = "artifacts"
  · rw [hartifacts, get?_stateJson_artifacts, Option.some.injEq] at hvalue
    rw [← hvalue]
    rfl
  · have hmissing : key ∉ stateKeys := by
      simp only [iteratedFields, List.mem_cons, List.not_mem_nil, or_false] at hkey
      rcases hkey with rfl | rfl | rfl | rfl | rfl | rfl
      all_goals first | exact absurd rfl hartifacts | decide
    rw [get?_stateJson_of_notMem env st ending hmissing] at hvalue
    cases hvalue

theorem reportable_derived {py : Interpreter} {name : String} {value : Json}
    (h : DerivedFile py name (.json value)) : Reportable value := by
  cases h with
  | suggestions report suggestions =>
      refine reportable_of_missing fun key hkey => ?_
      simp only [iteratedFields, List.mem_cons, List.not_mem_nil, or_false] at hkey
      rcases hkey with rfl | rfl | rfl | rfl | rfl | rfl <;> simp [Json.get?]
  | release report =>
      refine reportable_of_missing fun key hkey => ?_
      simp only [iteratedFields, List.mem_cons, List.not_mem_nil, or_false] at hkey
      rcases hkey with rfl | rfl | rfl | rfl | rfl | rfl <;> simp [Json.get?]

theorem soundContent_derived {py : Interpreter} {name : String} {content : FileContent}
    (h : DerivedFile py name content) (location : Location)
    (hlocation : location.getLast? = some name.toList) : SoundContent location content := by
  intro hjson
  cases h with
  | suggestionsText text =>
      exact absurd hjson (not_isJsonFile hlocation (by decide))
  | suggestions report suggestions =>
      exact ⟨_, rfl, @reportable_derived py _ _ (.suggestions report suggestions)⟩
  | release report => exact ⟨_, rfl, reportable_derived (.release report)⟩

/-- Persisting writes sound files of the run. -/
theorem Derives.changes {env : RunEnv} {fs fs' : FileSystem} (h : Derives env fs fs') :
    Changes env.host env.settings fs fs' := by
  induction h with
  | refl => exact .refl
  | write _ hfile ih =>
      rw [env.fileNamed_reserved hfile.reserved]
      refine ih.write (runFile_reserved _ _ hfile.reserved) (soundContent_derived hfile _ ?_)
      rw [fileIn, List.getLast?_concat]

theorem changes_writeSummaryAndState (env : RunEnv) (st : RunState) (ending : Ending) :
    Changes env.host env.settings st.fs (writeSummaryAndState env st ending) := by
  rw [writeSummaryAndState, @RunEnv.fileNamed_reserved env summaryName (by simp [reservedNames]),
    @RunEnv.fileNamed_reserved env stateName (by simp [reservedNames])]
  refine (Changes.refl.write (runFile_reserved _ _ (by simp [reservedNames])) ?_).write
    (runFile_reserved _ _ (by simp [reservedNames])) ?_
  · exact soundContent_of_not_json (not_isJsonFile_fileIn (by decide))
  · exact fun _ => ⟨_, rfl, reportable_stateJson env st ending⟩

/-! ## Role artifacts -/

/-- No report that the adapter gives a role of the order passes validation with a
null evidence basis. -/
def FoundedReports (py : Interpreter) (s : RunSettings) (adapter : Adapter) : Prop :=
  s.enforceJson = true → ∀ call text report, call.role ∈ s.roleOrder →
    adapter call = .output text →
      normalizeJsonReport call.role py call.model text = .ok report →
        report.get? "evidence_basis" ≠ some .null

theorem invokeAdapter_ok {adapter : Adapter} {call : AdapterCall} {output : String}
    (h : invokeAdapter adapter call = .ok output) : adapter call = .output output := by
  unfold invokeAdapter at h
  split at h
  · rename_i text htext
    cases h
    exact htext
  · cases h
  · cases h

/-- A path that ends like the path of a role artifact. -/
def NamesArtifact (path : String) : Prop :=
  ∃ stem extension, extension ∈ ["json", "md"] ∧
    (segments path.toList).getLast? = some (stem ++ '.' :: extension.toList)

theorem RunSettings.extension_mem (s : RunSettings) : s.extension ∈ ["json", "md"] := by
  unfold RunSettings.extension
  split <;> simp

theorem namesArtifact_join {directory : String} (hdir : directory ≠ "") (index : Nat)
    (role : String) {extension : String} (h : extension ∈ ["json", "md"]) :
    NamesArtifact (join directory (artifactName index role extension)) := by
  have hplain : '/' ∉ '.' :: extension.toList := by
    simp only [List.mem_cons, List.not_mem_nil, or_false] at h
    rcases h with rfl | rfl <;> decide
  obtain ⟨stem, hstem⟩ := @getLast?_segments_append
    ((pad2 index).toList ++ '_' :: role.toList) _ hplain
  refine ⟨stem, extension, h, ?_⟩
  rw [getLast?_segments_join hdir (isAbs_artifactName index role extension), toList_artifactName]
  simpa using hstem

/-- A path ends where it leads. -/
theorem NamesArtifact.getLast?_resolve {path : String} (h : NamesArtifact path)
    (here : Location) :
    ∃ stem extension, extension ∈ ["json", "md"] ∧
      (segments path.toList).getLast? = some (stem ++ '.' :: extension.toList) ∧
      (resolve here path).getLast? = some (stem ++ '.' :: extension.toList) := by
  obtain ⟨stem, extension, hextension, hlast⟩ := h
  refine ⟨stem, extension, hextension, hlast, getLast?_walk hlast ?_⟩
  simp only [List.mem_cons, List.not_mem_nil, or_false] at hextension
  rcases hextension with rfl | rfl <;> simp

theorem NamesArtifact.render {path : String} (h : NamesArtifact path) {here : Location}
    (hnames : ∀ segment ∈ resolve here path, IsName segment) :
    NamesArtifact (render (resolve here path)) := by
  obtain ⟨stem, extension, hextension, -, hlast⟩ := h.getLast?_resolve here
  exact ⟨stem, extension, hextension, getLast?_segments_render hnames hlast⟩

/-- Only JSON files have the suffix of one. -/
theorem NamesArtifact.isJsonFile {path : String} (h : NamesArtifact path) (here : Location)
    (hsuffix : PyText.lower (String.ofList (suffix path)) = ".json") :
    IsJsonFile (resolve here path) := by
  obtain ⟨stem, extension, hextension, hpath, hlast⟩ := h.getLast?_resolve here
  simp only [List.mem_cons, List.not_mem_nil, or_false] at hextension
  rcases hextension with rfl | rfl
  · exact ⟨stem, hlast⟩
  · rw [suffix_of_getLast? hpath (by decide) (by decide)] at hsuffix
    split at hsuffix
    · exact absurd hsuffix (by decide)
    · exact absurd hsuffix (by decide)

section
variable {env : RunEnv} {outputs : Dict String String} {d : Done}
  (henforce : env.inputs.enforceJson = env.settings.enforceJson)
  (hperform : performRole env outputs d.next = .ok d)

include henforce hperform in
theorem Done.path_eq :
    d.path env = join env.settings.artifactsDir
      (artifactName d.next.2 d.next.1 env.settings.extension) := by
  rw [Done.path, performRole_extension hperform, RunEnv.extension, henforce, RunSettings.extension]

include henforce hperform in
theorem Done.location_eq : d.location env = artifactLocation env.host env.settings d.next := by
  rw [Done.location, d.path_eq henforce hperform, artifactLocation]

include henforce hperform in
theorem Done.namesArtifact : NamesArtifact (d.path env) := by
  rw [d.path_eq henforce hperform]
  exact namesArtifact_join env.settings.artifactsDir_ne_empty _ _ env.settings.extension_mem

include henforce hperform in
/-- What is written for a role is sound. -/
theorem Done.soundContent (hfounded : FoundedReports env.host.py env.settings env.adapter)
    (hmem : d.next.1 ∈ env.settings.roleOrder) :
    SoundContent (d.location env) d.rendered.content := by
  intro hjson
  obtain ⟨model, output, rendered, -, houtput, hrendered, heq⟩ := performRole_ok_iff.mp hperform
  have hcontent : d.rendered = rendered := by rw [heq]
  rw [hcontent]
  unfold renderRoleOutput at hrendered
  split at hrendered
  · rename_i henforced
    obtain ⟨report, hreport, rfl⟩ := Fallible.map_eq_ok_iff.mp hrendered
    refine ⟨report.items, rfl, normalizeJsonReport_reportable hreport ?_⟩
    exact hfounded (henforce ▸ henforced) _ output report hmem (invokeAdapter_ok houtput) hreport
  · rename_i henforced
    have hmarkdown : env.settings.extension = "md" := by
      rw [RunSettings.extension, ← henforce, if_neg henforced]
    obtain ⟨stem, hlast⟩ := getLast?_locate_artifact env.host env.settings.artifactsDir_ne_empty
      d.next.2 d.next.1 "md" (by decide) (by decide)
    rw [d.location_eq henforce hperform, artifactLocation, hmarkdown] at hjson
    refine absurd hjson (not_isJsonFile hlast fun hsuffix => ?_)
    have hends := List.suffix_or_suffix_of_suffix hsuffix (List.suffix_append stem _)
    exact absurd hends (by decide)

end

/-- Keeping performed roles writes sound files of the run. -/
theorem changes_foldl_keepDone {env : RunEnv} {ds : List Done} (st : RunState)
    (henforce : env.inputs.enforceJson = env.settings.enforceJson)
    (hfounded : FoundedReports env.host.py env.settings env.adapter)
    (hds : ∀ d ∈ ds, d.next ∈ env.settings.roleOrder.zipIdx 1 ∧
      ∃ outputs, performRole env outputs d.next = .ok d) :
    Changes env.host env.settings st.fs (ds.foldl (keepDone env) st).fs := by
  refine List.foldlRecOn
    (motive := fun st' : RunState => Changes env.host env.settings st.fs st'.fs) ds (keepDone env)
    .refl fun st' hst d hd => ?_
  obtain ⟨hnext, outputs, hperform⟩ := hds d hd
  have hmem : d.next.1 ∈ env.settings.roleOrder := List.fst_mem_of_mem_zipIdx hnext
  rw [keepDone_fs]
  exact hst.write (.inr ⟨d.next, hnext, d.location_eq henforce hperform⟩)
    (d.soundContent henforce hperform hfounded hmem)

/-! ## References -/

/-- A reference that leads from the artifacts directory to a sound file. -/
structure Follows (directory : Location) (fs : FileSystem) (ref : String) : Prop where
  named : NamesArtifact ref
  stripped : strip ref = ref
  sound : SoundAt fs (resolve directory ref)

theorem Follows.changes {host : Host} {s : RunSettings} {directory : Location}
    {fs fs' : FileSystem} {ref : String} (h : Follows directory fs ref)
    (hchanges : Changes host s fs fs') : Follows directory fs' ref :=
  ⟨h.named, h.stripped, h.sound.changes hchanges⟩

/-- Walking the artifacts directory from itself leads nowhere else. -/
def Rereads (host : Host) (s : RunSettings) : Prop :=
  resolve (host.locate s.artifactsDir) s.artifactsDir = host.locate s.artifactsDir

theorem rereads_of_isAbs (host : Host) {s : RunSettings} (h : isAbs s.artifactsDir = true) :
    Rereads host s := resolve_of_isAbs h _ _

/-- The path a file of the directory was written by is a reference to that file. -/
theorem Rereads.resolve_join {host : Host} {s : RunSettings} (h : Rereads host s) {name : String}
    (hname : isAbs name = false) :
    resolve (host.locate s.artifactsDir) (join s.artifactsDir name) =
      host.locate (join s.artifactsDir name) := by
  rw [PosixPath.resolve_join s.artifactsDir_ne_empty hname, h, Host.locate, Host.locate,
    PosixPath.resolve_join s.artifactsDir_ne_empty hname]

theorem NamesArtifact.getLast?_toList {path : String} (h : NamesArtifact path) {c : Char}
    (hc : path.toList.getLast? = some c) : isSpace c = false := by
  obtain ⟨stem, extension, hextension, hlast⟩ := h
  obtain ⟨front, hfront⟩ := suffix_of_getLast?_segments hlast
  simp only [List.mem_cons, List.not_mem_nil, or_false] at hextension
  rcases hextension with rfl | rfl
  · obtain rfl : c = 'n' := by
      rw [← hfront] at hc
      simpa [eq_comm] using hc
    rfl
  · obtain rfl : c = 'd' := by
      rw [← hfront] at hc
      simpa [eq_comm] using hc
    rfl

/-- A reference with no blank in front has none at its end. -/
theorem NamesArtifact.strip_eq_self {path : String} (h : NamesArtifact path)
    (hfirst : ∀ c, path.toList.head? = some c → isSpace c = false) : strip path = path := by
  rw [strip, Text.strip_of_ends hfirst fun c hc => h.getLast?_toList hc, String.ofList_toList]

theorem head?_join {directory name : String} (hdir : directory ≠ "") (hname : isAbs name = false) :
    (join directory name).toList.head? = directory.toList.head? := by
  have hne : directory.toList ≠ [] := by
    simpa using hdir
  cases hchars : directory.toList with
  | nil => exact absurd hchars hne
  | cons c rest =>
      rw [join, hname]
      simp only [Bool.false_eq_true, if_false]
      split <;> simp [hchars]

/-- A role artifact's path is the same stripped. -/
theorem strip_artifactPath (s : RunSettings) {name : String} (hname : isAbs name = false)
    (h : NamesArtifact (join s.artifactsDir name)) :
    strip (join s.artifactsDir name) = join s.artifactsDir name := by
  refine h.strip_eq_self fun c hc => ?_
  rw [head?_join s.artifactsDir_ne_empty hname] at hc
  have hstripped := congrArg String.toList s.artifactsDir_stripped
  rw [strip, String.toList_ofList] at hstripped
  exact Text.head?_of_strip_eq_self hstripped hc

theorem strip_render {location : Location} (h : NamesArtifact (render location)) :
    strip (render location) = render location := by
  refine h.strip_eq_self fun c hc => ?_
  obtain rfl : c = '/' := by
    simpa [PosixPath.render, eq_comm] using hc
  rfl

/-! ## Where artifacts were last written -/

theorem recordWritten_of_notMem (home : String → Option Location)
    {written : List (String × Location)} {role : String} (h : role ∉ written.map Prod.fst) :
    recordWritten home written role = home role := by
  induction written generalizing home with
  | nil => rfl
  | cons p rest ih =>
      rw [List.map_cons, List.mem_cons, not_or] at h
      have hrest := ih (Function.update home p.1 (some p.2)) h.2
      rw [Function.update_of_ne h.1] at hrest
      exact hrest

theorem recordWritten_of_mem (home : String → Option Location) {written : List (String × Location)}
    {p : String × Location} (hnodup : (written.map Prod.fst).Nodup) (h : p ∈ written) :
    recordWritten home written p.1 = some p.2 := by
  induction written generalizing home with
  | nil => cases h
  | cons q rest ih =>
      rw [List.map_cons, List.nodup_cons] at hnodup
      rcases List.mem_cons.mp h with rfl | hmem
      · have hrest := recordWritten_of_notMem (Function.update home p.1 (some p.2)) hnodup.1
        rw [Function.update_self] at hrest
        exact hrest
      · exact ih _ hnodup.2 hmem

/-! ## Legible states -/

section
variable (Q : String → Location → Prop) (directory : Location)

/-- The references of a state lead to where the artifacts were last written, and
its records list them all. -/
structure LegibleState (home : String → Option Location) (fs : FileSystem) (st : RunState) :
    Prop where
  artifacts : ∀ role ref, st.artifacts.get? role = some ref → Follows directory fs ref ∧
    home role = some (resolve directory ref) ∧ Q role (resolve directory ref)
  records : ∀ item ∈ st.execution, ∃ role ref, item.get? "role" = some (.str role) ∧
    item.get? "artifact" = some (.str ref) ∧ st.artifacts.get? role = some ref
  listed : ∀ role ref, st.artifacts.get? role = some ref → ∃ item ∈ st.execution,
    item.get? "role" = some (.str role) ∧ item.get? "artifact" = some (.str ref)

def Legible (history : History) : Prop :=
  history.fs (directory ++ [stateName.toList]) = none ∨ ∃ env st ending,
    history.fs (directory ++ [stateName.toList]) = some (.json (stateJson env st ending)) ∧
      LegibleState Q directory history.home history.fs st

end

/-- What a call needs for its files to be read again. -/
structure LegibleCall (Q : String → Location → Prop) (host : Host) (s : RunSettings)
    (request : RunRequest) : Prop where
  rereads : Rereads host s
  founded : ∀ adapter, request.adapter = .ok adapter → FoundedReports host.py s adapter
  placed : ∀ next ∈ s.roleOrder.zipIdx 1, Q next.1 (artifactLocation host s next)

section
variable {Q : String → Location → Prop} {host : Host} {s : RunSettings} {request : RunRequest}

theorem LegibleState.changes {directory : Location} {home : String → Option Location}
    {fs fs' : FileSystem} {st : RunState} (h : LegibleState Q directory home fs st)
    (hchanges : Changes host s fs fs') : LegibleState Q directory home fs' st :=
  ⟨fun role ref hget => ⟨(h.artifacts role ref hget).1.changes hchanges,
    (h.artifacts role ref hget).2⟩, h.records, h.listed⟩

/-- A seed leads where the saved reference led. -/
theorem Legible.seed {history : History} {cleanRole : String} {state artifacts : Json}
    {seed : Seed} (h : Legible Q (host.locate s.artifactsDir) history)
    (hsaved : loadSavedState host s cleanRole (withSnapshot host s history.fs) =
      .ok (state, artifacts))
    (hseed : IsSeed host s state artifacts (withSnapshot host s history.fs) seed) :
    Follows (host.locate s.artifactsDir) history.fs seed.path ∧
      history.home seed.role = some (resolve (host.locate s.artifactsDir) seed.path) ∧
      Q seed.role (resolve (host.locate s.artifactsDir) seed.path) := by
  obtain ⟨ref, href, hpath, -, -⟩ := hseed.saved hsaved
  rw [savedArtifact_withSnapshot] at href
  rcases h with hnone | ⟨env, st, ending, hfile, hlegible⟩
  · simp [savedArtifact, savedField, hnone] at href
  · rw [savedArtifact_stateJson hfile] at href
    obtain ⟨hfollows, hhome, hplace⟩ := hlegible.artifacts _ _ href
    rw [host.savedLocation_eq] at hpath
    have hnames := isName_of_mem_resolve (host.isName_of_mem_locate s.artifactsDir) ref
    have hresolve : resolve (host.locate s.artifactsDir) seed.path =
        resolve (host.locate s.artifactsDir) ref := by
      rw [hpath]
      exact resolve_render hnames _
    have hnamed : NamesArtifact seed.path := by
      rw [hpath]
      exact hfollows.named.render hnames
    rw [hresolve]
    refine ⟨⟨hnamed, ?_, hresolve ▸ hfollows.sound⟩, hhome, hplace⟩
    rw [hpath] at hnamed ⊢
    exact strip_render hnamed

/-- Seeds and performed roles are different roles of the order. -/
theorem nodup_seeds_append {seeds : List Seed} {ds : List Done} {startIndex : Nat}
    (hseeds : seeds.map Seed.role = s.roleOrder.take startIndex)
    (hds : (ds.map Done.next).Sublist (pendingRoles s startIndex)) :
    (seeds.map Seed.role ++ ds.map fun d => d.next.1).Nodup := by
  have hlate : (ds.map fun d => d.next.1).Sublist (s.roleOrder.drop startIndex) := by
    have hmap := hds.map Prod.fst
    rw [map_fst_pendingRoles, List.map_map] at hmap
    exact hmap
  have hall := (List.Sublist.refl (s.roleOrder.take startIndex)).append hlate
  rw [List.take_append_drop] at hall
  rw [hseeds]
  exact s.roleOrder_nodup.sublist hall

theorem mem_zipIdx_of_performed {env : RunEnv} {ds : List Done} {startIndex : Nat}
    (h : Performed env (pendingRoles s startIndex) ds) {d : Done} (hd : d ∈ ds) :
    d.next ∈ s.roleOrder.zipIdx 1 ∧ ∃ outputs, performRole env outputs d.next = .ok d :=
  ⟨List.mem_of_mem_drop (h.1.subset (List.mem_map_of_mem hd)), h.2 d hd⟩

theorem soundAt_of_performed {env : RunEnv} {ds : List Done} {d : Done} (st : RunState)
    (henforce : env.inputs.enforceJson = env.settings.enforceJson)
    (hfounded : FoundedReports env.host.py env.settings env.adapter)
    (hds : ∀ d ∈ ds, d.next ∈ env.settings.roleOrder.zipIdx 1 ∧
      ∃ outputs, performRole env outputs d.next = .ok d) (hd : d ∈ ds) :
    SoundAt (ds.foldl (keepDone env) st).fs (d.location env) := by
  obtain ⟨front, back, rfl⟩ := List.append_of_mem hd
  obtain ⟨hnext, outputs, hperform⟩ := hds d hd
  rw [List.foldl_append, List.foldl_cons]
  have hwritten : SoundAt (keepDone env (front.foldl (keepDone env) st) d).fs (d.location env) := by
    refine ⟨d.rendered.content, ?_, d.soundContent henforce hperform hfounded
      (List.fst_mem_of_mem_zipIdx hnext)⟩
    rw [keepDone_fs]
    exact FileSystem.write_self _ _ _
  exact hwritten.changes (changes_foldl_keepDone _ henforce hfounded fun e he =>
    hds e (List.mem_append_right front (List.mem_cons_of_mem d he)))

theorem get?_seededRecord (prior : Report) (role model artifact : String) :
    (seededRecord prior role model artifact).get? "role" = some (.str role) ∧
      (seededRecord prior role model artifact).get? "artifact" = some (.str artifact) := by
  constructor
  · rw [seededRecord, get?_report]
    simp [Dict.get?_set]
  · rw [seededRecord, get?_report]
    simp [Dict.get?_set]

theorem get?_executionRecord (stamps : Stamps) (role model artifact strategy : String) :
    (executionRecord stamps role model artifact strategy).get? "role" = some (.str role) ∧
      (executionRecord stamps role model artifact strategy).get? "artifact" =
        some (.str artifact) := by
  simp [executionRecord, Json.get?]

/-- A call that persists changes sound files of its own and leaves a legible state. -/
theorem Persists.legibleState {history : History} {env : RunEnv} {resume : Resume}
    {ds : List Done} {ending : Ending} (h : Legible Q (host.locate s.artifactsDir) history)
    (hcall : LegibleCall Q host s request)
    (hrun : Persists host s request history.fs env resume ds ending) :
    Changes host s history.fs (ds.foldl (keepDone env) resume.state).fs ∧
      LegibleState Q (host.locate s.artifactsDir)
        (recordWritten history.home (runWritten host s request history.fs))
        (ds.foldl (keepDone env) resume.state).fs (ds.foldl (keepDone env) resume.state) := by
  obtain ⟨adapter, hadapter, hresume, henv⟩ := startRun_ok_iff.mp hrun.start
  have hhost : env.host = host := by rw [henv]
  have hsettings : env.settings = s := by rw [henv]
  have henforce : env.inputs.enforceJson = env.settings.enforceJson := by
    rw [henv]
    rfl
  have hfounded : FoundedReports env.host.py env.settings env.adapter := by
    rw [henv]
    exact hcall.founded adapter hadapter
  clear henv
  subst hhost hsettings
  obtain ⟨seeds, hroles, hstate, hseeds⟩ := loadResumeState_ok hresume
  obtain ⟨hfs, -, hwritten₀, -, hartifacts₀, -, hexecution₀⟩ :=
    foldl_keepSeed env.host.py { fs := withSnapshot env.host env.settings history.fs } seeds
  rw [← hstate] at hfs hwritten₀ hartifacts₀ hexecution₀
  obtain ⟨-, hartifacts, -, hexecution, -, hwritten⟩ := foldl_keepDone env resume.state ds
  have hds := fun d (hd : d ∈ ds) => mem_zipIdx_of_performed hrun.performed hd
  have hnodup := nodup_seeds_append hroles hrun.performed.1
  have hchanges : Changes env.host env.settings history.fs
      (ds.foldl (keepDone env) resume.state).fs := by
    have hkept := changes_foldl_keepDone resume.state henforce hfounded hds
    rw [hfs] at hkept
    exact (changes_withSnapshot env.host env.settings history.fs).trans hkept
  have hpairs : (ds.foldl (keepDone env) resume.state).artifacts =
      Dict.empty.update (seeds.map (fun seed => (seed.role, seed.path)) ++
        ds.map fun d => (d.next.1, d.path env)) := by
    rw [hartifacts, hartifacts₀, Dict.update_append]
  have hget : ∀ role ref, (ds.foldl (keepDone env) resume.state).artifacts.get? role = some ref ↔
      (∃ seed ∈ seeds, seed.role = role ∧ seed.path = ref) ∨
        ∃ d ∈ ds, d.next.1 = role ∧ d.path env = ref := by
    intro role ref
    rw [hpairs, Dict.get?_update_empty_iff (by simpa [Function.comp_def] using hnodup)]
    simp
  have hrecorded : runWritten env.host env.settings request history.fs =
      ds.map fun d => (d.next.1, d.location env) := by
    rw [hrun.written, hwritten, hwritten₀, List.nil_append]
  have hrecords : (ds.foldl (keepDone env) resume.state).execution =
      seeds.map (fun seed => seededRecord seed.prior seed.role seed.model seed.path) ++
        ds.map fun d => executionRecord (env.request.stamps d.next.1) d.next.1 d.call.model
          (d.path env) (strategyOf env d.next.1) := by
    rw [hexecution, hexecution₀, List.nil_append]
  rw [hrecorded]
  refine ⟨hchanges, ?_, ?_, ?_⟩
  · intro role ref href
    rcases (hget role ref).mp href with ⟨seed, hseed, rfl, rfl⟩ | ⟨d, hd, rfl, rfl⟩
    · obtain ⟨startRole, state, artifacts, -, -, -, hsaved, hall⟩ :=
        hseeds (List.ne_nil_of_mem hseed)
      obtain ⟨hfollows, hhome, hplace⟩ := h.seed hsaved (hall seed hseed)
      refine ⟨hfollows.changes hchanges, ?_, hplace⟩
      rw [recordWritten_of_notMem, hhome]
      rw [List.map_map]
      exact (List.nodup_append.mp hnodup).2.2 |> fun hdisjoint hmem =>
        hdisjoint seed.role (List.mem_map_of_mem hseed) seed.role hmem rfl
    · obtain ⟨hnext, outputs, hperform⟩ := hds d hd
      have hlocation : resolve (env.host.locate env.settings.artifactsDir) (d.path env) =
          d.location env := by
        rw [d.path_eq henforce hperform, hcall.rereads.resolve_join (isAbs_artifactName _ _ _),
          d.location_eq henforce hperform, artifactLocation]
      rw [hlocation]
      refine ⟨⟨d.namesArtifact henforce hperform, ?_, ?_⟩, ?_, ?_⟩
      · have hnamed := d.namesArtifact henforce hperform
        rw [d.path_eq henforce hperform] at hnamed ⊢
        exact strip_artifactPath env.settings (isAbs_artifactName _ _ _) hnamed
      · rw [hlocation]
        exact soundAt_of_performed resume.state henforce hfounded hds hd
      · refine recordWritten_of_mem (p := (d.next.1, d.location env)) history.home ?_
          (List.mem_map_of_mem hd)
        rw [List.map_map]
        exact (List.nodup_append.mp hnodup).2.1
      · rw [d.location_eq henforce hperform]
        exact hcall.placed d.next hnext
  · intro item hitem
    rw [hrecords, List.mem_append, List.mem_map, List.mem_map] at hitem
    rcases hitem with ⟨seed, hseed, rfl⟩ | ⟨d, hd, rfl⟩
    · obtain ⟨hrole, hartifact⟩ := get?_seededRecord seed.prior seed.role seed.model seed.path
      exact ⟨_, _, hrole, hartifact, (hget _ _).mpr (.inl ⟨seed, hseed, rfl, rfl⟩)⟩
    · obtain ⟨hrole, hartifact⟩ := get?_executionRecord (env.request.stamps d.next.1) d.next.1
        d.call.model (d.path env) (strategyOf env d.next.1)
      exact ⟨_, _, hrole, hartifact, (hget _ _).mpr (.inr ⟨d, hd, rfl, rfl⟩)⟩
  · intro role ref href
    rw [hrecords]
    rcases (hget role ref).mp href with ⟨seed, hseed, rfl, rfl⟩ | ⟨d, hd, rfl, rfl⟩
    · exact ⟨_, List.mem_append_left _ (List.mem_map_of_mem hseed), get?_seededRecord _ _ _ _⟩
    · exact ⟨_, List.mem_append_right _ (List.mem_map_of_mem hd), get?_executionRecord _ _ _ _ _⟩

theorem Persists.changes {fs : FileSystem} {env : RunEnv} {resume : Resume} {ds : List Done}
    {ending : Ending} (hrun : Persists host s request fs env resume ds ending) :
    Changes host s (ds.foldl (keepDone env) resume.state).fs (runPipeline host s request fs).1 := by
  obtain ⟨adapter, -, -, henv⟩ := startRun_ok_iff.mp hrun.start
  have hhost : env.host = host := by rw [henv]
  have hsettings : env.settings = s := by rw [henv]
  have hsaved := changes_writeSummaryAndState env (ds.foldl (keepDone env) resume.state) ending
  have hpersisted := hsaved.trans (persistRunOutputs_derives env _ ending).changes
  rw [hhost, hsettings] at hpersisted
  rw [hrun.disk]
  exact hpersisted

/-- Calls keep what is saved legible. -/
theorem Legible.call {history : History} (h : Legible Q (host.locate s.artifactsDir) history)
    (hcall : LegibleCall Q host s request) :
    Legible Q (host.locate s.artifactsDir) ⟨(runPipeline host s request history.fs).1,
      recordWritten history.home (runWritten host s request history.fs)⟩ := by
  rcases runPipeline_cases host s request history.fs with
    ⟨halt, hstart, hrun, hwritten⟩ | ⟨env, resume, ds, ending, hrun⟩
  · obtain ⟨hfs, hnone, -⟩ := startRun_error hstart
    have hstate : withSnapshot host s history.fs (host.locate s.artifactsDir ++
        [stateName.toList]) = history.fs (host.locate s.artifactsDir ++ [stateName.toList]) :=
      withSnapshot_of_ne _ (stateLocation_ne_snapshot host s)
    have hdisk : (runPipeline host s request history.fs).1 = withSnapshot host s history.fs := by
      rw [hrun, hfs]
    have hhome : recordWritten history.home (runWritten host s request history.fs) =
        history.home := by
      rw [hwritten, hnone]
      rfl
    rw [hdisk, hhome]
    unfold Legible
    dsimp only
    rw [hstate]
    rcases h with hmissing | ⟨env, st, ending, hfile, hlegible⟩
    · exact .inl hmissing
    · exact .inr ⟨env, st, ending, hfile, hlegible.changes (changes_withSnapshot host s _)⟩
  · exact .inr ⟨env, _, ending, hrun.state, (hrun.legibleState h hcall).2.changes hrun.changes⟩

/-! ## Collecting -/

theorem NamesArtifact.reportArtifactPath {ref : String} (h : NamesArtifact ref)
    (s : RunSettings) : NamesArtifact (Ese.reportArtifactPath s.artifactsDir ref) := by
  unfold Ese.reportArtifactPath
  split
  · exact h
  · rename_i habs
    obtain ⟨stem, extension, hextension, hlast⟩ := h
    refine ⟨stem, extension, hextension, ?_⟩
    rw [getLast?_segments_join s.artifactsDir_ne_empty (by simpa using habs), hlast]

theorem Follows.readable {fs : FileSystem} {ref : String}
    (h : Follows (host.locate s.artifactsDir) fs ref) :
    Readable (host.reader fs) (reportArtifactPath s.artifactsDir ref) := by
  obtain ⟨content, hcontent, hsound⟩ := h.sound
  rw [← host.savedLocation_eq] at hcontent hsound
  refine ⟨content, hcontent, fun hsuffix => ?_⟩
  have hjson := (h.named.reportArtifactPath s).isJsonFile host.workingDir hsuffix
  obtain ⟨fields, rfl, hreportable⟩ := hsound hjson
  exact ⟨fields, rfl, hreportable⟩

theorem ne_empty_of_namesArtifact {ref : String} (h : NamesArtifact ref) : ref ≠ "" := by
  rintro rfl
  obtain ⟨stem, extension, -, hlast⟩ := h
  simp [segments] at hlast

/-- A saved legible state can be collected, and every role it lists has an entry. -/
theorem LegibleState.collectRun {home : String → Option Location} {fs : FileSystem} {env : RunEnv}
    {st : RunState} {ending : Ending}
    (h : LegibleState Q (host.locate s.artifactsDir) home fs st)
    (hfile : fs (host.locate s.artifactsDir ++ [stateName.toList]) =
      some (.json (stateJson env st ending))) :
    ∃ report, Ese.collectRun (host.reader fs) s.artifactsDir = .ok report ∧
      ∀ role, (st.artifacts.get? role).isSome → strip role = role → role ≠ "" →
        ∃ entry ∈ report.roles, entry.role = role := by
  have hentries : ∀ item ∈ st.execution.filter isObject, ∃ entry,
      roleEntry (host.reader fs) s.artifactsDir item = .ok entry := by
    intro item hitem
    obtain ⟨role, ref, hrole, hartifact, href⟩ := h.records item (List.mem_of_mem_filter hitem)
    have hfollows := (h.artifacts role ref href).1
    obtain ⟨entry, hentry, -⟩ :=
      roleEntry_ok hrole hartifact hfollows.stripped hfollows.readable
    exact ⟨entry, hentry⟩
  obtain ⟨entries, hmap, hall⟩ := Fallible.exists_mapM_eq_ok hentries
  have hopen : (host.reader fs).open (join s.artifactsDir stateName) =
      some (.json (stateJson env st ending)) := by
    rw [Reader.open]
    show fs (host.locate (join s.artifactsDir stateName)) = _
    rw [locate_reservedFile host s (by simp [reservedNames])]
    exact hfile
  have hstate : loadPipelineState (host.reader fs) s.artifactsDir = .ok (stateJson env st ending) := by
    rw [loadPipelineState, readJson, hopen]
    rfl
  have hitems : iterateField (stateJson env st ending) "execution" = .ok st.execution := by
    rw [iterateField, get?_stateJson_execution]
    rfl
  have hevidence : coerceEvidenceState host.py (stateJson env st ending) "evidence_state" =
      .ok none := by
    rw [coerceEvidenceState, textField, get?_stateJson_of_notMem env st ending (by decide)]
    simp [host.py.lower_empty]
  have hhistory : checkEvidenceHistory host.py (stateJson env st ending) = .ok () := by
    rw [checkEvidenceHistory, get?_stateJson_of_notMem env st ending (by decide)]
  unfold Ese.collectRun
  rw [hstate]
  refine ⟨_, Fallible.bind_eq_ok_iff.mpr ⟨_, rfl, Fallible.bind_eq_ok_iff.mpr ⟨_, hitems,
    Fallible.bind_eq_ok_iff.mpr ⟨_, hmap, Fallible.bind_eq_ok_iff.mpr ⟨_, hevidence,
      Fallible.bind_eq_ok_iff.mpr ⟨_, hhistory, rfl⟩⟩⟩⟩⟩, ?_⟩
  intro role hsome hstripped hnonempty
  obtain ⟨ref, href⟩ := Option.isSome_iff_exists.mp hsome
  obtain ⟨item, hitem, hrole, hartifact⟩ := h.listed role ref href
  have hobject : isObject item = true := by
    cases item with
    | obj fields => rfl
    | _ => cases hrole
  have hfollows := (h.artifacts role ref href).1
  obtain ⟨entry, hentry, hnamed⟩ := roleEntry_ok hrole hartifact hfollows.stripped hfollows.readable
  obtain ⟨e, rfl, hname⟩ := hnamed (by rwa [hstripped])
    (ne_empty_of_namesArtifact hfollows.named)
  obtain ⟨entry', hmem, hentry'⟩ := hall item (List.mem_filter.mpr ⟨hitem, hobject⟩)
  rw [hentry, Except.ok.injEq] at hentry'
  subst hentry'
  exact ⟨e, List.reduceOption_mem_iff.mpr hmem, hname.trans hstripped⟩

end

end TruePresenceESE.Ese
