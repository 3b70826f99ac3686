import TruePresenceESE.Ese.ScaffoldTexts

/-! # Layouts of projects

The files of a project lie in the target, in the directory of its package, and in the
prompts of the package. A manifest is found below the target again unless the package has
the name of a directory that is skipped.
-/

namespace TruePresenceESE.Ese

open PosixPath PyText

/-! ## Targets -/

/-- `any(target.iterdir())` -/
def populated (disk : ProjectDisk) (target : Location) : Bool :=
  disk.keys.any fun location => target.isPrefixOf location && location.length = target.length + 1

/-- Whether files may be written below a target, where `hint` ends the text about a
directory that is not empty. -/
def checkTarget (fail : String → ProjectError) (hint : String) (disk : ProjectDisk)
    (target : Location) (force : Bool) : Except ProjectError Unit :=
  match disk.get? target with
  | none => .ok ()
  | some .directory =>
      if populated disk target && !force then
        .error (fail ("Target directory is not empty: " ++ render target ++ hint))
      else .ok ()
  | some _ => .error (fail ("Target path is not a directory: " ++ render target))

theorem checkTarget_fresh {fail : String → ProjectError} {hint : String} {disk : ProjectDisk}
    {target : Location} {force : Bool} (h : FreshTarget disk target) :
    checkTarget fail hint disk target force = .ok () := by
  have hempty : populated disk target = false := by
    rw [populated, List.any_eq_false]
    intro location hlocation hboth
    rw [Bool.and_eq_true, List.isPrefixOf_iff_prefix, decide_eq_true_eq] at hboth
    cases hget : disk.get? location with
    | none => exact Dict.get?_eq_none_iff.mp hget hlocation
    | some node =>
        rcases h.empty location hboth.1 with hnone | ⟨heq, -⟩
        · rw [hget] at hnone
          cases hnone
        · rw [heq] at hboth
          omega
  unfold checkTarget
  split
  · rfl
  · rw [hempty]
    rfl
  · next node hnode hget =>
      rcases h.empty target List.prefix_rfl with hnone | ⟨-, hdirectory⟩
      · rw [hget] at hnone
        cases hnone
      · rw [hget] at hdirectory
        exact absurd (Option.some.inj hdirectory) hnode

/-! ## Places -/

inductive Place where
  | target
  | package
  | prompts
  deriving DecidableEq

def packageDirectory (target : Location) (package : PackageName) : Location :=
  target ++ ["src".toList, package.text.toList]

def promptsDirectory (target : Location) (package : PackageName) : Location :=
  target ++ ["src".toList, package.text.toList, "prompts".toList]

def Place.location (target : Location) (package : PackageName) : Place → Location
  | .target => target
  | .package => packageDirectory target package
  | .prompts => promptsDirectory target package

/-- Where a file of a name lies. -/
def placeOf (target : Location) (package : PackageName) (named : Place × String) : Location :=
  named.1.location target package ++ [named.2.toList]

structure TemplateFile where
  place : Place
  name : String
  text : String

def TemplateFile.named (file : TemplateFile) : Place × String := (file.place, file.name)

def placed (target : Location) (package : PackageName) (files : List TemplateFile) :
    List (Location × String) :=
  files.map fun file => (placeOf target package file.named, file.text)

/-- No file is stated twice, and none where there is a directory. -/
structure Layout (files : List TemplateFile) : Prop where
  nodup : (files.map TemplateFile.named).Nodup
  noDirectory : ∀ named ∈ files.map TemplateFile.named,
    named ≠ (.target, "src") ∧ named ≠ (.package, "prompts")

section
variable {target : Location} {package : PackageName} {files : List TemplateFile}

theorem placeOf_injective : Function.Injective (placeOf target package) := by
  rintro ⟨place, name⟩ ⟨place', name'⟩ heq
  have hlength := congrArg List.length heq
  have hplace : place = place' := by
    cases place <;> cases place' <;>
      simp [placeOf, Place.location, packageDirectory, promptsDirectory] at hlength ⊢
  subst hplace
  have hname : [name.toList] = [name'.toList] := List.append_cancel_left heq
  rw [String.toList_inj.mp (List.cons.inj hname).1]

theorem keys_placed : (placed target package files).map Prod.fst =
    (files.map TemplateFile.named).map (placeOf target package) := by
  rw [placed, List.map_map, List.map_map]
  rfl

theorem prefix_promptsDirectory (place : Place) :
    place.location target package <+: promptsDirectory target package := by
  cases place with
  | target => exact List.prefix_append _ _
  | package => exact ⟨["prompts".toList], by simp [Place.location, packageDirectory, promptsDirectory]⟩
  | prompts => exact List.prefix_rfl

theorem isName_package (package : PackageName) : IsName package.text.toList := by
  have hall : ∀ c ∈ package.text.toList, c ≠ '/' ∧ c ≠ '.' := by
    intro c hc
    have hrange := package.toNat_range hc
    constructor
    · rintro rfl
      simp at hrange
    · rintro rfl
      simp at hrange
  refine ⟨fun hslash => (hall _ hslash).1 rfl, package.ne_nil, ?_, ?_⟩
  · intro heq
    exact (hall '.' (by rw [heq]; simp)).2 rfl
  · intro heq
    exact (hall '.' (by rw [heq]; simp)).2 rfl

theorem names_placeOf {named : Place × String} (htarget : ∀ s ∈ target, IsName s)
    (hname : IsName named.2.toList) : ∀ s ∈ placeOf target package named, IsName s := by
  have hsrc : IsName "src".toList := by unfold IsName; decide
  have hprompts : IsName "prompts".toList := by unfold IsName; decide
  have hpackage := isName_package package
  obtain ⟨place, name⟩ := named
  intro s hs
  rw [placeOf, List.mem_append, List.mem_singleton] at hs
  rcases hs with hdirectory | rfl
  · cases place with
    | target => exact htarget s hdirectory
    | package =>
        simp only [Place.location, packageDirectory, List.mem_append, List.mem_cons,
          List.not_mem_nil, or_false] at hdirectory
        rcases hdirectory with hs | rfl | rfl
        · exact htarget s hs
        · exact hsrc
        · exact hpackage
    | prompts =>
        simp only [Place.location, promptsDirectory, List.mem_append, List.mem_cons,
          List.not_mem_nil, or_false] at hdirectory
        rcases hdirectory with hs | rfl | rfl | rfl
        · exact htarget s hs
        · exact hsrc
        · exact hpackage
        · exact hprompts
  · exact hname

theorem length_placeOf (named : Place × String) :
    target.length < (placeOf target package named).length := by
  obtain ⟨place, name⟩ := named
  cases place <;>
    simp [placeOf, Place.location, packageDirectory, promptsDirectory]

theorem prefix_placeOf (named : Place × String) : target <+: placeOf target package named := by
  obtain ⟨place, name⟩ := named
  cases place <;>
    simp [placeOf, Place.location, packageDirectory, promptsDirectory]

theorem not_placeOf_prefix {named : Place × String} (hsrc : named ≠ (.target, "src"))
    (hprompts : named ≠ (.package, "prompts")) :
    ¬ placeOf target package named <+: promptsDirectory target package := by
  obtain ⟨place, name⟩ := named
  intro hprefix
  cases place with
  | target =>
      rw [placeOf, Place.location, promptsDirectory, List.prefix_append_right_inj,
        List.cons_prefix_cons] at hprefix
      have hname : name = "src" := String.toList_inj.mp hprefix.1
      exact hsrc (by rw [hname])
  | package =>
      rw [placeOf, Place.location, packageDirectory, promptsDirectory, List.append_assoc,
        List.prefix_append_right_inj] at hprefix
      simp only [List.cons_append, List.nil_append, List.cons_prefix_cons] at hprefix
      have hname : name = "prompts" := String.toList_inj.mp hprefix.2.2.1
      exact hprompts (by rw [hname])
  | prompts =>
      have hlength := hprefix.length_le
      rw [placeOf, List.length_append, Place.location, List.length_singleton] at hlength
      omega

theorem projectFiles_placed (h : Layout files) :
    ProjectFiles target (promptsDirectory target package) (placed target package files) where
  below := prefix_promptsDirectory .target
  nodup := by
    rw [keys_placed]
    exact h.nodup.map placeOf_injective
  inside file hfile := by
    obtain ⟨template, htemplate, rfl⟩ := List.mem_map.mp hfile
    obtain ⟨hsrc, hprompts⟩ := h.noDirectory _ (List.mem_map_of_mem htemplate)
    refine ⟨prefix_placeOf _, fun heq => (length_placeOf _).ne' (congrArg List.length heq), ?_,
      not_placeOf_prefix hsrc hprompts⟩
    show (_ ++ [_]).dropLast <+: _
    rw [List.dropLast_concat]
    exact prefix_promptsDirectory template.place

/-! ## Manifests below a target -/

/-- A file in the package is the only one of its name, which is not that of a directory. -/
structure FoundByName (files : List TemplateFile) (name : String) : Prop where
  mem : (.package, name) ∈ files.map TemplateFile.named
  only : ∀ named ∈ files.map TemplateFile.named, named.2 = name → named = (.package, name)
  noDirectory : isPackageName name = false
  seen : name ∉ skipDiscoveryParts

theorem eq_singleton_of_nodup {α : Type} {xs : List α} {x : α} (hnodup : xs.Nodup)
    (h : ∀ y, y ∈ xs ↔ y = x) : xs = [x] := by
  refine List.perm_singleton.mp ((List.perm_ext_iff_of_nodup hnodup (List.nodup_singleton x)).mpr ?_)
  intro y
  rw [h y, List.mem_singleton]

/-- What lies below a target on the way to a file of a package. -/
theorem skipped_placeOf {name : String} (hseen : name ∉ skipDiscoveryParts) :
    ((placeOf target package (.package, name)).drop target.length).any
        (fun part => decide (String.ofList part ∈ skipDiscoveryParts)) =
      decide (package.text ∈ skipDiscoveryParts) := by
  have hsrc : "src" ∉ skipDiscoveryParts := by decide
  rw [placeOf, Place.location, packageDirectory, List.append_assoc, List.drop_left]
  simp only [List.cons_append, List.nil_append, List.any_cons, List.any_nil, String.ofList_toList,
    hsrc, hseen, decide_false, Bool.false_or, Bool.or_false]

/-- The directories of a project are not named like the file. -/
theorem getLast?_directory {location : Location} {name : String}
    (hbelow : target <+: location) (hne : location.length ≠ target.length)
    (hinner : location <+: promptsDirectory target package)
    (hlast : location.getLast? = some name.toList) : isPackageName name = true := by
  obtain ⟨rel, rfl⟩ := hbelow
  rw [promptsDirectory, List.prefix_append_right_inj] at hinner
  have hrel : rel ≠ [] := by
    rintro rfl
    simp at hne
  rw [List.getLast?_append_of_ne_nil _ hrel] at hlast
  have hmem := hinner.subset (List.mem_of_getLast? hlast)
  simp only [List.mem_cons, String.toList_inj, List.not_mem_nil, or_false] at hmem
  rcases hmem with rfl | rfl | rfl
  · decide
  · exact package.valid
  · decide

/-- A manifest is found below the target if the package is not skipped. -/
theorem manifestsNamed_placed {disk disk' : ProjectDisk} {name : String}
    (hwritten : ProjectWritten disk disk' target (promptsDirectory target package)
      (placed target package files)) (hfound : FoundByName files name) :
    manifestsNamed disk' target name = if package.text ∈ skipDiscoveryParts then [] else
      [placeOf target package (.package, name)] := by
  let matching : List Location := disk'.keys.filter fun location =>
    target.isPrefixOf location && location.length ≠ target.length &&
      location.getLast? == some name.toList &&
      !(location.drop target.length).any fun part => String.ofList part ∈ skipDiscoveryParts
  have hall : ∀ location, location ∈ matching ↔
      location = placeOf target package (.package, name) ∧ package.text ∉ skipDiscoveryParts := by
    intro location
    have hskip := @skipped_placeOf target package name hfound.seen
    rw [List.mem_filter]
    simp only [Bool.and_eq_true, List.isPrefixOf_iff_prefix, decide_eq_true_eq, beq_iff_eq,
      Bool.not_eq_true']
    constructor
    · intro ⟨hkey, ⟨⟨hbelow, hlength⟩, hlast⟩, hseen⟩
      have hthere : disk'.get? location ≠ none := fun hnone => Dict.get?_eq_none_iff.mp hnone hkey
      have hplace : location = placeOf target package (.package, name) := by
        rcases hwritten.nothingElse location hbelow hthere with hinner | hfile
        · have hpackage := getLast?_directory hbelow hlength hinner hlast
          rw [hfound.noDirectory] at hpackage
          cases hpackage
        · rw [keys_placed] at hfile
          obtain ⟨named, hnamed, rfl⟩ := List.mem_map.mp hfile
          rw [placeOf, List.getLast?_concat, Option.some.injEq, String.toList_inj] at hlast
          rw [hfound.only named hnamed hlast]
      refine ⟨hplace, ?_⟩
      rw [hplace, hskip, decide_eq_false_iff_not] at hseen
      exact hseen
    · intro ⟨heq, hseen⟩
      obtain ⟨template, htemplate, hnamed⟩ := List.mem_map.mp hfound.mem
      have hthere := hwritten.wrote _ (List.mem_map_of_mem htemplate)
      dsimp only at hthere
      rw [hnamed] at hthere
      subst heq
      refine ⟨?_, ⟨⟨prefix_placeOf _, (length_placeOf _).ne'⟩, List.getLast?_concat⟩, ?_⟩
      · by_contra hno
        rw [Dict.get?_eq_none_iff.mpr hno] at hthere
        cases hthere
      · rw [hskip, decide_eq_false_iff_not]
        exact hseen
  show matching.mergeSort _ = _
  split
  · next hskip =>
      have hnil : matching = [] :=
        List.eq_nil_iff_forall_not_mem.mpr fun location hmem => ((hall location).mp hmem).2 hskip
      rw [hnil, List.mergeSort_nil]
  · next hseen =>
      have hone : matching = [placeOf target package (.package, name)] := by
        refine eq_singleton_of_nodup (disk'.keys_nodup.filter _) fun location => ?_
        rw [hall location]
        exact and_iff_left hseen
      rw [hone, List.mergeSort_singleton]

end

end TruePresenceESE.Ese
