import TruePresenceESE.Lib.Dict
import TruePresenceESE.Lib.Json

/-! # Different models for different roles

The defaults that config builders share: the models of each provider, the pairs of roles
whose models have to differ, and the assignment of other models to reviewing roles.
-/

namespace TruePresenceESE.Ese

/-! ## Tables -/

def commonModelsByProvider : List (String × List String) :=
  [("openai", ["gpt-5", "gpt-5-mini", "gpt-5-nano", "o3"]),
    ("anthropic", ["claude-sonnet-4", "claude-opus-4"]),
    ("google", ["gemini-2.0-flash", "gemini-2.0-pro"]),
    ("xai", ["grok-3", "grok-3-mini"]),
    ("openrouter", ["openai/gpt-5", "anthropic/claude-sonnet-4", "google/gemini-2.0-pro"]),
    ("huggingface", ["meta-llama/Llama-3.3-70B-Instruct", "Qwen/Qwen2.5-Coder-32B-Instruct"]),
    ("local", ["llama3.1:8b", "qwen2.5-coder:14b"])]

def commonModels (provider : String) : List String :=
  (commonModelsByProvider.lookup provider).getD []

/-- The model recommended for the profiles fast, balanced, high-quality and security-heavy. -/
def recommendedModelByProviderGoal : List (String × List (String × String)) :=
  let profiles := fun fast balanced highQuality securityHeavy =>
    [("fast", fast), ("balanced", balanced), ("high-quality", highQuality),
      ("security-heavy", securityHeavy)]
  [("openai", profiles "gpt-5-mini" "gpt-5" "gpt-5" "o3"),
    ("anthropic", profiles "claude-sonnet-4" "claude-sonnet-4" "claude-opus-4" "claude-opus-4"),
    ("google", profiles "gemini-2.0-flash" "gemini-2.0-pro" "gemini-2.0-pro" "gemini-2.0-pro"),
    ("xai", profiles "grok-3-mini" "grok-3" "grok-3" "grok-3"),
    ("openrouter", profiles "openai/gpt-5" "anthropic/claude-sonnet-4" "google/gemini-2.0-pro"
      "anthropic/claude-opus-4"),
    ("huggingface", profiles "Qwen/Qwen2.5-Coder-32B-Instruct" "meta-llama/Llama-3.3-70B-Instruct"
      "meta-llama/Llama-3.3-70B-Instruct" "meta-llama/Llama-3.3-70B-Instruct"),
    ("local", profiles "llama3.1:8b" "qwen2.5-coder:14b" "qwen2.5-coder:14b" "qwen2.5-coder:14b")]

def defaultModelFor (provider goalProfile : String) : String :=
  match ((recommendedModelByProviderGoal.lookup provider).getD []).lookup goalProfile with
  | some recommended => recommended
  | none =>
      match commonModels provider with
      | first :: _ => first
      | [] => if provider = "custom_api" then "custom-model" else "model"

def defaultDisallowSameModelPairs : List (String × String) :=
  [("architect", "implementer"), ("implementer", "adversarial_reviewer"),
    ("implementer", "security_auditor"), ("adversarial_reviewer", "security_auditor"),
    ("implementer", "release_manager")]

/-- The temperatures of a preset, in the order of the roles. -/
def presetTemperatures (adversarial documentation others architect implementer : ℚ) :
    List (String × ℚ) :=
  [("architect", architect), ("implementer", implementer), ("adversarial_reviewer", adversarial),
    ("security_auditor", others), ("test_generator", others), ("performance_analyst", others),
    ("documentation_writer", documentation), ("devops_sre", others),
    ("database_engineer", others), ("release_manager", others)]

def roleDefaultsByPreset : List (String × List (String × ℚ)) :=
  [("fast", presetTemperatures (6 / 10) (3 / 10) (2 / 10) (2 / 10) (1 / 10)),
    ("balanced", presetTemperatures (7 / 10) (2 / 10) (2 / 10) (2 / 10) (1 / 10)),
    ("strict", presetTemperatures (6 / 10) (15 / 100) (1 / 10) (1 / 10) (5 / 100)),
    ("paranoid", presetTemperatures (8 / 10) (15 / 100) (1 / 10) (1 / 10) (5 / 100))]

/-! ## Assigning models -/

/-- The section of a generated role. -/
structure TaskRole where
  temperature : ℚ
  prompt : Option String := none
  /-- Absent where the role has the model of its provider. -/
  model : Option String := none

def rolesForPreset (preset : String) (selectedRoles : List String) : Dict String TaskRole :=
  let defaults := (roleDefaultsByPreset.lookup preset).getD []
  Dict.empty.update (selectedRoles.map fun role =>
    (role, { temperature := (defaults.lookup role).getD (2 / 10) }))

def ensembleConstraints (selectedRoles : List String) : List (String × String) :=
  defaultDisallowSameModelPairs.filter fun pair => pair.1 ∈ selectedRoles ∧ pair.2 ∈ selectedRoles

/-- The model that a role has so far, if the config has the role. -/
def assignedModel (baseModel : String) (roles : Dict String TaskRole) (role : String) :
    Option String :=
  (roles.get? role).map fun section_ => section_.model.getD baseModel

/-- The first alternative that no role in `disallowWith` has. -/
def assignDistinct (baseModel : String) (alternatives selectedRoles : List String) (role : String)
    (disallowWith : List String) (roles : Dict String TaskRole) : Dict String TaskRole :=
  if role ∈ selectedRoles then
    let banned := disallowWith.filterMap (assignedModel baseModel roles)
    match alternatives.find? (· ∉ banned), roles.get? role with
    | some candidate, some section_ => roles.set role { section_ with model := some candidate }
    | _, _ => roles
  else roles

def alternativeModels (provider baseModel : String) : List String :=
  (commonModels provider).filter (· ≠ baseModel)

def applySimpleModeModelDiversity (provider baseModel : String) (selectedRoles : List String)
    (roles : Dict String TaskRole) : Dict String TaskRole :=
  if (commonModels provider).length < 2 then roles
  else
    let assign := assignDistinct baseModel (alternativeModels provider baseModel) selectedRoles
    assign "release_manager" ["implementer"]
      (assign "security_auditor" ["implementer", "adversarial_reviewer"]
        (assign "adversarial_reviewer" ["implementer", "security_auditor"]
          (assign "implementer" ["architect"] roles)))

/-! ## What is assigned -/

/-- One assignment, seen on the models alone. -/
def chooseDistinct (alternatives : List String) (role : String) (disallowWith : List String)
    (models : String → Option String) : String → Option String := fun other =>
  if other = role then
    (models role).map fun current =>
      (alternatives.find? (· ∉ disallowWith.filterMap models)).getD current
  else models other

section
variable {baseModel : String} {alternatives selectedRoles : List String}
  {roles : Dict String TaskRole}

theorem assignedModel_isSome {role : String} :
    (assignedModel baseModel roles role).isSome = true ↔ (roles.get? role).isSome = true := by
  rw [assignedModel, Option.isSome_map]

/-- There is a section for each selected role and for no other, and the models are these. -/
structure Assigns (baseModel : String) (selectedRoles : List String) (roles : Dict String TaskRole)
    (models : String → Option String) : Prop where
  sections : ∀ role, (roles.get? role).isSome = true ↔ role ∈ selectedRoles
  assigned : assignedModel baseModel roles = models

theorem assignedModel_assignDistinct
    (h : ∀ role, (roles.get? role).isSome = true ↔ role ∈ selectedRoles) (role : String)
    (disallowWith : List String) :
    assignedModel baseModel
        (assignDistinct baseModel alternatives selectedRoles role disallowWith roles) =
      chooseDistinct alternatives role disallowWith (assignedModel baseModel roles) := by
  funext other
  unfold assignDistinct chooseDistinct
  by_cases hrole : role ∈ selectedRoles
  · obtain ⟨section_, hsection⟩ := Option.isSome_iff_exists.mp ((h role).mpr hrole)
    rw [if_pos hrole]
    dsimp only
    cases hfind : alternatives.find? (· ∉ disallowWith.filterMap (assignedModel baseModel roles)) with
    | none =>
        by_cases heq : other = role
        · simp [heq]
        · simp [heq]
    | some candidate =>
        rw [hsection]
        by_cases heq : other = role
        · subst heq
          simp [assignedModel, hsection]
        · simp [assignedModel, Dict.get?_set_ne _ _ (Ne.symm heq), heq]
  · have hnone : roles.get? role = none := by
      rw [← Option.not_isSome_iff_eq_none, h role]
      exact hrole
    rw [if_neg hrole]
    by_cases heq : other = role
    · simp [heq, assignedModel, hnone]
    · simp [heq]

theorem Assigns.step {models : String → Option String}
    (h : Assigns baseModel selectedRoles roles models) (role : String)
    (disallowWith : List String) :
    Assigns baseModel selectedRoles
      (assignDistinct baseModel alternatives selectedRoles role disallowWith roles)
      (chooseDistinct alternatives role disallowWith models) := by
  have hassigned := @assignedModel_assignDistinct baseModel alternatives _ _ h.sections role
    disallowWith
  rw [h.assigned] at hassigned
  refine ⟨fun other => ?_, hassigned⟩
  rw [← h.sections other, ← @assignedModel_isSome baseModel, hassigned,
    ← @assignedModel_isSome baseModel, h.assigned]
  unfold chooseDistinct
  by_cases heq : other = role
  · simp [heq]
  · simp [heq]

end

/-- The four assignments together. -/
def diverseModels (alternatives : List String) (models : String → Option String) :
    String → Option String :=
  chooseDistinct alternatives "release_manager" ["implementer"]
    (chooseDistinct alternatives "security_auditor" ["implementer", "adversarial_reviewer"]
      (chooseDistinct alternatives "adversarial_reviewer" ["implementer", "security_auditor"]
        (chooseDistinct alternatives "implementer" ["architect"] models)))

theorem Assigns.diverse {provider baseModel : String} {selectedRoles : List String}
    {roles : Dict String TaskRole} {models : String → Option String}
    (h : Assigns baseModel selectedRoles roles models)
    (hcommon : 2 ≤ (commonModels provider).length) :
    Assigns baseModel selectedRoles
      (applySimpleModeModelDiversity provider baseModel selectedRoles roles)
      (diverseModels (alternativeModels provider baseModel) models) := by
  unfold applySimpleModeModelDiversity diverseModels
  rw [if_neg (by omega)]
  exact (((h.step _ _).step _ _).step _ _).step _ _

/-! ## Which pairs come apart -/

def baseModels (baseModel : String) (selectedRoles : List String) : String → Option String :=
  fun role => if role ∈ selectedRoles then some baseModel else none

/-- The models of the roles in the pairs. -/
structure Models (models : String → Option String)
    (architect implementer reviewer auditor manager : Option String) : Prop where
  architect : models "architect" = architect
  implementer : models "implementer" = implementer
  reviewer : models "adversarial_reviewer" = reviewer
  auditor : models "security_auditor" = auditor
  manager : models "release_manager" = manager

section
variable {base first second third : String} {more roles : List String}

theorem diverse_one (hfirst : first ≠ base) (ha : "architect" ∈ roles) (hi : "implementer" ∈ roles)
    (hv : "adversarial_reviewer" ∈ roles) :
    Models (diverseModels [first] (baseModels base roles)) (some base) (some first) (some base)
      (baseModels base roles "security_auditor") (baseModels base roles "release_manager") := by
  constructor <;> simp [diverseModels, chooseDistinct, baseModels, ha, hi, hv, hfirst]

theorem diverse_two (hfirst : first ≠ base) (hsecond : second ≠ base) (hne : second ≠ first)
    (ha : "architect" ∈ roles) (hi : "implementer" ∈ roles) (hv : "adversarial_reviewer" ∈ roles) :
    Models (diverseModels [first, second] (baseModels base roles)) (some base) (some first)
      (some second) (baseModels base roles "security_auditor")
      ((baseModels base roles "release_manager").map fun _ => second) := by
  by_cases hs : "security_auditor" ∈ roles
  · constructor <;>
      simp [diverseModels, chooseDistinct, baseModels, ha, hi, hv, hs, hfirst, hsecond, hne]
  · constructor <;>
      simp [diverseModels, chooseDistinct, baseModels, ha, hi, hv, hs, hfirst, hne]

theorem diverse_three (hfirst : first ≠ base) (hsecond : second ≠ base) (hne : second ≠ first)
    (hthird : third ≠ first ∧ third ≠ second) (ha : "architect" ∈ roles)
    (hi : "implementer" ∈ roles) (hv : "adversarial_reviewer" ∈ roles) :
    Models (diverseModels (first :: second :: third :: more) (baseModels base roles)) (some base)
      (some first) (some second) ((baseModels base roles "security_auditor").map fun _ => third)
      ((baseModels base roles "release_manager").map fun _ => second) := by
  by_cases hs : "security_auditor" ∈ roles
  · constructor <;>
      simp [diverseModels, chooseDistinct, baseModels, ha, hi, hv, hs, hfirst, hsecond, hne, hthird]
  · constructor <;>
      simp [diverseModels, chooseDistinct, baseModels, ha, hi, hv, hs, hfirst, hne]

/-- Without an implementer the reviewer takes the first alternative. -/
theorem diverse_review (hfirst : first ≠ base) (ha : "architect" ∉ roles)
    (hi : "implementer" ∉ roles) (hv : "adversarial_reviewer" ∈ roles)
    (hs : "security_auditor" ∈ roles) :
    Models (diverseModels (first :: more) (baseModels base roles)) none none (some first)
      (some ((more.find? (· ≠ first)).getD base))
      ((baseModels base roles "release_manager").map fun _ => first) := by
  constructor <;> simp [diverseModels, chooseDistinct, baseModels, ha, hi, hv, hs, hfirst]

end

/-- The models of two roles differ, even in lower case. -/
def Apart (lower : String → String) (left right : Option String) : Prop :=
  ∀ a ∈ left, ∀ b ∈ right, lower a ≠ lower b

/-- The models of each constrained pair come apart. -/
def Separate (lower : String → String) (models : String → Option String) : Prop :=
  ∀ pair ∈ defaultDisallowSameModelPairs, Apart lower (models pair.1) (models pair.2)

theorem separate_iff {lower : String → String} {models : String → Option String}
    {architect implementer reviewer auditor manager : Option String}
    (h : Models models architect implementer reviewer auditor manager) :
    Separate lower models ↔ Apart lower architect implementer ∧ Apart lower implementer reviewer ∧
      Apart lower implementer auditor ∧ Apart lower reviewer auditor ∧
      Apart lower implementer manager := by
  simp [Separate, defaultDisallowSameModelPairs, h.architect, h.implementer, h.reviewer, h.auditor,
    h.manager]

/-- The provider has enough other models for the roles: an implementer needs one whose lower
case is not that of the common model, and reviewer and auditor beside it a second, which for
want of a third is told from the common model as well. -/
structure EnoughAlternatives (lower : String → String) (baseModel : String)
    (alternatives roles : List String) : Prop where
  implementer : "implementer" ∈ roles → ∀ a ∈ alternatives.head?, lower baseModel ≠ lower a
  auditor : "implementer" ∈ roles → "security_auditor" ∈ roles → alternatives.tail ≠ [] ∧
    ∀ second, alternatives.tail = [second] → lower baseModel ≠ lower second

section
variable {lower : String → String} {base first : String} {rest roles : List String}

theorem apart_some_iff {a b : String} : Apart lower (some a) (some b) ↔ lower a ≠ lower b := by
  simp [Apart]

theorem apart_base_iff {a : String} {role : String} : Apart lower (some a) (baseModels base roles role) ↔
    (role ∈ roles → lower a ≠ lower base) := by
  unfold baseModels
  by_cases hrole : role ∈ roles
  · simp [Apart, hrole]
  · simp [Apart, hrole]

theorem apart_map_iff {a b : String} {role : String} :
    Apart lower (some a) ((baseModels base roles role).map fun _ => b) ↔
      (role ∈ roles → lower a ≠ lower b) := by
  unfold baseModels
  by_cases hrole : role ∈ roles
  · simp [Apart, hrole]
  · simp [Apart, hrole]

/-- With one alternative, reviewer and auditor both keep the common model. -/
theorem separate_one_iff (hfirst : first ≠ base) (ha : "architect" ∈ roles)
    (hi : "implementer" ∈ roles) (hv : "adversarial_reviewer" ∈ roles) :
    Separate lower (diverseModels [first] (baseModels base roles)) ↔
      EnoughAlternatives lower base [first] roles := by
  rw [separate_iff (diverse_one hfirst ha hi hv), apart_some_iff, apart_some_iff, apart_base_iff,
    apart_base_iff, apart_base_iff]
  constructor
  · rintro ⟨hbase, -, -, hauditor, -⟩
    constructor
    · intro _ a hmem
      cases hmem
      exact hbase
    · exact fun _ hs => absurd rfl (hauditor hs)
  · intro h
    have hbase : lower base ≠ lower first := h.implementer hi first rfl
    have hauditor : "security_auditor" ∉ roles := fun hs => (h.auditor hi hs).1 rfl
    exact ⟨hbase, hbase.symm, fun _ => hbase.symm, fun hs => absurd hs hauditor,
      fun _ => hbase.symm⟩

/-- With two, the auditor keeps the common model. -/
theorem separate_two_iff {second : String} (hfirst : first ≠ base) (hsecond : second ≠ base)
    (hdistinct : lower first ≠ lower second) (ha : "architect" ∈ roles)
    (hi : "implementer" ∈ roles) (hv : "adversarial_reviewer" ∈ roles) :
    Separate lower (diverseModels [first, second] (baseModels base roles)) ↔
      EnoughAlternatives lower base [first, second] roles := by
  have hne : second ≠ first := fun heq => hdistinct (by rw [heq])
  rw [separate_iff (diverse_two hfirst hsecond hne ha hi hv), apart_some_iff, apart_some_iff,
    apart_base_iff, apart_base_iff, apart_map_iff]
  constructor
  · rintro ⟨hbase, -, -, hauditor, -⟩
    constructor
    · intro _ a hmem
      cases hmem
      exact hbase
    · intro _ hs
      refine ⟨by simp, fun other hother => ?_⟩
      cases hother
      exact (hauditor hs).symm
  · intro h
    have hbase : lower base ≠ lower first := h.implementer hi first rfl
    exact ⟨hbase, hdistinct, fun _ => hbase.symm, fun hs => ((h.auditor hi hs).2 second rfl).symm,
      fun _ => hdistinct⟩

theorem separate_three_iff {second third : String} (hfirst : first ≠ base) (hsecond : second ≠ base)
    (hdistinct : ((first :: second :: third :: rest).map lower).Nodup) (ha : "architect" ∈ roles)
    (hi : "implementer" ∈ roles) (hv : "adversarial_reviewer" ∈ roles) :
    Separate lower (diverseModels (first :: second :: third :: rest) (baseModels base roles)) ↔
      EnoughAlternatives lower base (first :: second :: third :: rest) roles := by
  simp only [List.map_cons, List.nodup_cons, List.mem_cons, not_or] at hdistinct
  obtain ⟨⟨hfs, hft, -⟩, ⟨hst, -⟩, -⟩ := hdistinct
  have hne : second ≠ first := fun heq => hfs (by rw [heq])
  have hthird : third ≠ first ∧ third ≠ second :=
    ⟨fun heq => hft (by rw [heq]), fun heq => hst (by rw [heq])⟩
  rw [separate_iff (diverse_three hfirst hsecond hne hthird ha hi hv), apart_some_iff,
    apart_some_iff, apart_map_iff, apart_map_iff, apart_map_iff]
  constructor
  · rintro ⟨hbase, -⟩
    constructor
    · intro _ a hmem
      cases hmem
      exact hbase
    · exact fun _ _ => ⟨by simp, fun other hother => by simp at hother⟩
  · intro h
    have hbase : lower base ≠ lower first := h.implementer hi first rfl
    exact ⟨hbase, hfs, fun _ => hft, fun _ => hst, fun _ => hfs⟩

/-- Reviewing alone needs no more than one alternative. -/
theorem separate_review (hfirst : first ≠ base) (hdistinct : ((first :: rest).map lower).Nodup)
    (hsingle : rest = [] → lower base ≠ lower first) (ha : "architect" ∉ roles)
    (hi : "implementer" ∉ roles) (hv : "adversarial_reviewer" ∈ roles)
    (hs : "security_auditor" ∈ roles) :
    Separate lower (diverseModels (first :: rest) (baseModels base roles)) := by
  rw [separate_iff (diverse_review hfirst ha hi hv hs), apart_some_iff]
  refine ⟨by simp [Apart], by simp [Apart], by simp [Apart], ?_, by simp [Apart]⟩
  cases rest with
  | nil => exact (hsingle rfl).symm
  | cons second more =>
      simp only [List.map_cons, List.nodup_cons, List.mem_cons, not_or] at hdistinct
      have hne : second ≠ first := fun heq => hdistinct.1.1 (by rw [heq])
      rw [List.find?_cons_of_pos (by simpa using hne)]
      exact hdistinct.1.1

theorem separate_diverse_iff {alternatives : List String} (hnonempty : alternatives ≠ [])
    (hbase : base ∉ alternatives) (hdistinct : (alternatives.map lower).Nodup)
    (hsingle : ∀ a, alternatives = [a] → lower base ≠ lower a)
    (hv : "adversarial_reviewer" ∈ roles) (hpair : "architect" ∈ roles ↔ "implementer" ∈ roles)
    (hreview : "implementer" ∉ roles → "security_auditor" ∈ roles) :
    Separate lower (diverseModels alternatives (baseModels base roles)) ↔
      EnoughAlternatives lower base alternatives roles := by
  have hother : ∀ a ∈ alternatives, a ≠ base := fun a hmem heq => hbase (heq ▸ hmem)
  by_cases hi : "implementer" ∈ roles
  · have ha := hpair.mpr hi
    match alternatives, hnonempty with
    | [first], _ => exact separate_one_iff (hother first (by simp)) ha hi hv
    | [first, second], _ =>
        exact separate_two_iff (hother first (by simp)) (hother second (by simp))
          (by simpa using hdistinct) ha hi hv
    | first :: second :: third :: more, _ =>
        exact separate_three_iff (hother first (by simp)) (hother second (by simp)) hdistinct ha hi hv
  · have ha : "architect" ∉ roles := fun h => hi (hpair.mp h)
    have hseparate : Separate lower (diverseModels alternatives (baseModels base roles)) := by
      match alternatives, hnonempty with
      | first :: rest, _ =>
          exact separate_review (hother first (by simp)) hdistinct
            (fun hrest => hsingle first (by rw [hrest])) ha hi hv (hreview hi)
    exact iff_of_true hseparate ⟨fun h => absurd h hi, fun h => absurd h hi⟩

end

end TruePresenceESE.Ese
