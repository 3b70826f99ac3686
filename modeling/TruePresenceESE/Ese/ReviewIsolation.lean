import TruePresenceESE.Ese.Prompts

/-! # Review isolation

What a role can see of the other outputs, as a two-run law: outputs it is
isolated from change neither its prompt nor its context. Prompt and context
show the same roles.
-/

namespace TruePresenceESE.Ese

open PyText

/-! ## Sections decide prompt and context -/

theorem rolePrompt_of_sections_eq {inputs : PromptInputs} {role rolePromptText : String}
    {outputs outputs' : Dict String String}
    (h : roleUpstreamSections role outputs inputs.reviewIsolation =
      roleUpstreamSections role outputs' inputs.reviewIsolation) :
    rolePrompt inputs role rolePromptText outputs =
      rolePrompt inputs role rolePromptText outputs' := by
  simp only [rolePrompt, promptSections, h]

theorem roleContext_of_sections_eq {role : String} {outputs outputs' : Dict String String}
    {isolation : ReviewIsolation}
    (h : roleUpstreamSections role outputs isolation =
      roleUpstreamSections role outputs' isolation) :
    roleContext role outputs isolation = roleContext role outputs' isolation := by
  simp only [roleContext, h]

/-- Outputs that differ in one role's entry at most. -/
def AgreeExcept (name : String) (outputs outputs' : Dict String String) : Prop :=
  outputs.items.filter (·.1 ≠ name) = outputs'.items.filter (·.1 ≠ name)

theorem AgreeExcept.get? {name other : String} {outputs outputs' : Dict String String}
    (h : AgreeExcept name outputs outputs') (hne : other ≠ name) :
    outputs.get? other = outputs'.get? other := by
  ext text
  rw [Dict.get?_eq_some_iff, Dict.get?_eq_some_iff]
  have hmem : ∀ d : Dict String String,
      (other, text) ∈ d.items ↔ (other, text) ∈ d.items.filter (·.1 ≠ name) := by
    intro d
    simp [List.mem_filter, hne]
  rw [hmem, hmem outputs', h]

/-- A reviewer outside the framed mode does not see the plan. -/
theorem roleUpstreamSections_of_agreeExcept_architect {role : String}
    {outputs outputs' : Dict String String} {isolation : ReviewIsolation}
    (hframed : isolation ≠ .framed) (himplementer : role ≠ "implementer")
    (h : AgreeExcept "architect" outputs outputs') :
    roleUpstreamSections role outputs isolation = roleUpstreamSections role outputs' isolation := by
  have houtput : outputOf outputs "implementer" = outputOf outputs' "implementer" := by
    rw [outputOf, outputOf, h.get? (by decide)]
  have hcoarser : ∀ d : Dict String String,
      (d.items.filter fun p => strip p.2 ≠ "" ∧ p.1 ≠ "architect" ∧ p.1 ≠ "implementer") =
        (d.items.filter (·.1 ≠ "architect")).filter fun p =>
          strip p.2 ≠ "" ∧ p.1 ≠ "architect" ∧ p.1 ≠ "implementer" := by
    intro d
    rw [List.filter_filter]
    apply List.filter_congr
    intro p _
    by_cases hp : p.1 = "architect" <;> simp [hp]
  have hvisible := hcoarser outputs
  rw [h, ← hcoarser outputs'] at hvisible
  simp only [roleUpstreamSections, hframed, himplementer, false_and, if_false, houtput,
    implementerSection, hvisible]

theorem roleUpstreamSections_scopeOnly {role : String} (h : role ≠ "implementer")
    (outputs : Dict String String) : roleUpstreamSections role outputs .scopeOnly = [] := by
  simp [roleUpstreamSections, h]

/-- A specialist sees the plan and the implementation at most. -/
theorem roleUpstreamSections_of_specialist {role : String} (h : isSpecialist role = true)
    {outputs outputs' : Dict String String}
    (harchitect : outputs.get? "architect" = outputs'.get? "architect")
    (himplementer : outputs.get? "implementer" = outputs'.get? "implementer")
    (isolation : ReviewIsolation) :
    roleUpstreamSections role outputs isolation = roleUpstreamSections role outputs' isolation := by
  have hplan : outputOf outputs "architect" = outputOf outputs' "architect" := by
    rw [outputOf, outputOf, harchitect]
  have hbuilt : outputOf outputs "implementer" = outputOf outputs' "implementer" := by
    rw [outputOf, outputOf, himplementer]
  simp only [roleUpstreamSections, h, if_true, architectSection, implementerSection, hplan, hbuilt]

/-! ## Titles -/

private theorem toList_between (front name back : String) :
    (front ++ name ++ back).toList = front.toList ++ (name.toList ++ back.toList) := by
  rw [String.toList_append, String.toList_append, List.append_assoc]

theorem toList_upstreamTitle (name : String) :
    (upstreamTitle name).toList = "Upstream Artifact (".toList ++ (name.toList ++ [')']) :=
  toList_between "Upstream Artifact (" name ")"

theorem parseUpstreamTitle_upstreamTitle (name : String) :
    parseUpstreamTitle (upstreamTitle name) = some name := by
  have hopening : ("Upstream Artifact (".toList.isPrefixOf (upstreamTitle name).toList) = true := by
    rw [toList_upstreamTitle, List.isPrefixOf_iff_prefix]
    exact List.prefix_append _ _
  have hclosing : (upstreamTitle name).toList.getLast? = some ')' := by
    rw [toList_upstreamTitle, ← List.append_assoc, List.getLast?_concat]
  have hname : ((upstreamTitle name).toList.drop "Upstream Artifact (".toList.length).dropLast =
      name.toList := by
    rw [toList_upstreamTitle, List.drop_left, List.dropLast_concat]
  simp only [parseUpstreamTitle, hopening, hclosing, hname, String.ofList_toList, beq_self_eq_true,
    Bool.and_self, if_true]

theorem titleRole_upstreamTitle (name : String) : titleRole (upstreamTitle name) = some name := by
  have hfirst : (upstreamTitle name).toList.head? = some 'U' := by
    rw [toList_upstreamTitle, List.head?_append]
    rfl
  rw [titleRole, if_neg, if_neg, parseUpstreamTitle_upstreamTitle]
  · intro heq
    rw [heq] at hfirst
    exact absurd hfirst (by decide)
  · intro heq
    rw [heq] at hfirst
    exact absurd hfirst (by decide)

/-! ## Prompt and context show the same roles -/

/-- A section that shows the output of a role, under a title that names it. -/
def ShowsOutput (outputs : Dict String String) (name : String) (s : UpstreamSection) : Prop :=
  titleRole s.title = some name ∧ s.text = outputOf outputs name ∧ s.text ≠ ""

theorem showsOutput_upstreamArtifactSection {outputs : Dict String String} {p : String × String}
    (hmem : p ∈ outputs.items) (htext : strip p.2 ≠ "") :
    ShowsOutput outputs p.1 (upstreamArtifactSection p) := by
  have hget : outputs.get? p.1 = some p.2 := Dict.get?_eq_some_iff.mpr hmem
  refine ⟨titleRole_upstreamTitle p.1, ?_, htext⟩
  rw [outputOf, hget]
  rfl

theorem mem_roleUpstreamSections {role : String} {outputs : Dict String String}
    {isolation : ReviewIsolation} {s : UpstreamSection}
    (h : s ∈ roleUpstreamSections role outputs isolation) :
    (outputOf outputs "architect" ≠ "" ∧ s = architectSection outputs) ∨
      (outputOf outputs "implementer" ≠ "" ∧ s = implementerSection outputs) ∨
      ∃ p ∈ outputs.items, strip p.2 ≠ "" ∧ s = upstreamArtifactSection p := by
  have hfallback : ∀ {test : String × String → Bool}, (∀ p, test p = true → strip p.2 ≠ "") →
      s ∈ (outputs.items.filter test).map upstreamArtifactSection →
      ∃ p ∈ outputs.items, strip p.2 ≠ "" ∧ s = upstreamArtifactSection p := by
    intro test htest hs
    obtain ⟨p, hp, rfl⟩ := List.mem_map.mp hs
    obtain ⟨hmem, hpass⟩ := List.mem_filter.mp hp
    exact ⟨p, hmem, htest p hpass, rfl⟩
  simp only [roleUpstreamSections] at h
  split at h
  · simp at h
  split at h
  · split at h
    · simp at h
    next hplan => exact .inl ⟨hplan, List.mem_singleton.mp h⟩
  split at h
  · simp at h
  have hsections : ∀ {s}, s ∈ (if outputOf outputs "implementer" ≠ "" then
      (if isolation = .framed ∧ outputOf outputs "architect" ≠ "" then [architectSection outputs]
        else []) ++ [implementerSection outputs]
      else if isolation = .framed ∧ outputOf outputs "architect" ≠ "" then
        [architectSection outputs] else []) →
      (outputOf outputs "architect" ≠ "" ∧ s = architectSection outputs) ∨
        (outputOf outputs "implementer" ≠ "" ∧ s = implementerSection outputs) := by
    intro s hs
    split_ifs at hs <;> simp_all
  split at h
  · exact (hsections h).imp_right .inl
  · rcases List.mem_append.mp h with h | h
    · exact (hsections h).imp_right .inl
    · refine .inr (.inr ?_)
      split at h
      · exact hfallback (fun p hp => by simpa using hp) h
      · exact hfallback (fun p hp => by simp_all) h

/-- Every section shows the output of a role. -/
theorem showsOutput_of_mem {role : String} {outputs : Dict String String}
    {isolation : ReviewIsolation} {s : UpstreamSection}
    (h : s ∈ roleUpstreamSections role outputs isolation) : ∃ name, ShowsOutput outputs name s := by
  rcases mem_roleUpstreamSections h with ⟨hne, rfl⟩ | ⟨hne, rfl⟩ | ⟨p, hp, htext, rfl⟩
  · exact ⟨"architect", rfl, rfl, hne⟩
  · exact ⟨"implementer", rfl, rfl, hne⟩
  · exact ⟨p.1, showsOutput_upstreamArtifactSection hp htext⟩

theorem mem_keys_roleContext {role name : String} {outputs : Dict String String}
    {isolation : ReviewIsolation} :
    name ∈ (roleContext role outputs isolation).keys ↔
      ∃ s ∈ roleUpstreamSections role outputs isolation, titleRole s.title = some name := by
  rw [roleContext]
  induction roleUpstreamSections role outputs isolation using List.reverseRecOn with
  | nil => simp [Dict.keys]
  | append_singleton sections s ih =>
      rw [List.foldl_append, List.foldl_cons, List.foldl_nil]
      cases htitle : titleRole s.title with
      | none => simp [ih, htitle]
      | some other =>
          rw [Dict.mem_keys_set, ih]
          simp [htitle, or_comm, eq_comm]

/-- A section that shows an output is not dropped from the prompt. -/
theorem ShowsOutput.render_ne_empty {outputs : Dict String String} {name : String}
    {s : UpstreamSection} (h : ShowsOutput outputs name s) : s.render ≠ "" := by
  obtain ⟨-, htext, hne⟩ := h
  have hkept : strip s.text ≠ "" := by
    rw [htext, outputOf, strip] at hne
    rw [htext, outputOf, strip, strip, String.toList_ofList]
    intro hempty
    exact Text.strip_strip_ne_nil (fun hnil => hne (by rw [hnil]))
      (String.ofList_eq_empty_iff.mp hempty)
  rw [UpstreamSection.render, promptSection]
  simp [hkept]

/-! ## The law -/

/-- The role is shown the same under both maps. -/
def SameView (inputs : PromptInputs) (role rolePromptText : String)
    (outputs outputs' : Dict String String) : Prop :=
  rolePrompt inputs role rolePromptText outputs = rolePrompt inputs role rolePromptText outputs' ∧
    roleContext role outputs inputs.reviewIsolation = roleContext role outputs' inputs.reviewIsolation

/-- An upstream section that shows the role's output is among the texts the
prompt is assembled from. -/
def AppearsInPrompt (inputs : PromptInputs) (role rolePromptText : String)
    (outputs : Dict String String) (name : String) : Prop :=
  ∃ s ∈ roleUpstreamSections role outputs inputs.reviewIsolation, ShowsOutput outputs name s ∧
    s.render ∈ (promptSections inputs role rolePromptText outputs).filter (· ≠ "")

theorem sameView_of_sections_eq {inputs : PromptInputs} {role rolePromptText : String}
    {outputs outputs' : Dict String String}
    (h : roleUpstreamSections role outputs inputs.reviewIsolation =
      roleUpstreamSections role outputs' inputs.reviewIsolation) :
    SameView inputs role rolePromptText outputs outputs' :=
  ⟨rolePrompt_of_sections_eq h, roleContext_of_sections_eq h⟩

theorem mem_keys_roleContext_iff_appears {inputs : PromptInputs} {role rolePromptText : String}
    {outputs : Dict String String} {name : String} :
    name ∈ (roleContext role outputs inputs.reviewIsolation).keys ↔
      AppearsInPrompt inputs role rolePromptText outputs name := by
  rw [mem_keys_roleContext]
  constructor
  · rintro ⟨s, hs, htitle⟩
    obtain ⟨shown, hshown⟩ := showsOutput_of_mem hs
    have hname : shown = name := Option.some.inj (hshown.1.symm.trans htitle)
    subst hname
    refine ⟨s, hs, hshown, List.mem_filter.mpr ⟨?_, by simpa using hshown.render_ne_empty⟩⟩
    rw [promptSections]
    exact List.mem_append_left _ (List.mem_append_right _ (List.mem_map_of_mem hs))
  · rintro ⟨s, hs, hshown, -⟩
    exact ⟨s, hs, hshown.1⟩

/-- Isolation as non-interference, and context against prompt, in every mode. -/
theorem reviewIsolation_noninterference (inputs : PromptInputs) (role rolePromptText : String) :
    (inputs.reviewIsolation ≠ .framed → role ≠ "architect" → role ≠ "implementer" →
      ∀ outputs outputs', AgreeExcept "architect" outputs outputs' →
        SameView inputs role rolePromptText outputs outputs') ∧
    (inputs.reviewIsolation = .scopeOnly → role ≠ "implementer" →
      ∀ outputs outputs', SameView inputs role rolePromptText outputs outputs') ∧
    (isSpecialist role = true → ∀ outputs outputs',
      outputs.get? "architect" = outputs'.get? "architect" →
      outputs.get? "implementer" = outputs'.get? "implementer" →
        SameView inputs role rolePromptText outputs outputs') ∧
    ∀ outputs name, name ∈ (roleContext role outputs inputs.reviewIsolation).keys ↔
      AppearsInPrompt inputs role rolePromptText outputs name := by
  refine ⟨?_, ?_, ?_, fun outputs name => mem_keys_roleContext_iff_appears⟩
  · intro hframed _ himplementer outputs outputs' h
    exact sameView_of_sections_eq
      (roleUpstreamSections_of_agreeExcept_architect hframed himplementer h)
  · intro hscope himplementer outputs outputs'
    apply sameView_of_sections_eq
    rw [hscope, roleUpstreamSections_scopeOnly himplementer,
      roleUpstreamSections_scopeOnly himplementer]
  · intro hspecialist outputs outputs' harchitect himplementer
    exact sameView_of_sections_eq
      (roleUpstreamSections_of_specialist hspecialist harchitect himplementer _)

end TruePresenceESE.Ese
