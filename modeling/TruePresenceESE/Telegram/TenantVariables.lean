import TruePresenceESE.Telegram.ExtraPatterns
import TruePresenceESE.Telegram.Tenants

/-! # Variables of a tenant

Documented variables name a tenant and state switches, patterns and custom detectors for it.
Names and properties of custom detectors are cut out of the keys at underscores.
-/

namespace TruePresenceESE.Telegram

/-! ## Variables -/

/-- The documented variables, by the tenant in upper case. -/
inductive TenantVariable where
  | policyEnabled (policy tenant : String)
  | policyPatterns (policy tenant : String)
  | threshold (action tenant : String)
  | customPatterns (tenant name : String)
  | customEnabled (tenant name : String)

namespace TenantVariable

def tenant : TenantVariable → String
  | policyEnabled _ tenant => tenant
  | policyPatterns _ tenant => tenant
  | threshold _ tenant => tenant
  | customPatterns tenant _ => tenant
  | customEnabled tenant _ => tenant

def key (host : ConfigHost) : TenantVariable → String
  | policyEnabled policy tenant => "DETECTOR_" ++ host.upper policy ++ "_ENABLED_" ++ tenant
  | policyPatterns policy tenant => "DETECTOR_" ++ host.upper policy ++ "_PATTERNS_" ++ tenant
  | threshold action tenant => "THRESHOLD_" ++ host.upper action ++ "_" ++ tenant
  | customPatterns tenant name => "CUSTOM_DETECTOR_" ++ tenant ++ "_" ++ name ++ "_PATTERNS"
  | customEnabled tenant name => "CUSTOM_DETECTOR_" ++ tenant ++ "_" ++ name ++ "_ENABLED"

end TenantVariable

/-- Every variable is a documented one of a tenant, and no tenant's variables can be taken for
another's. -/
structure DocumentedEnvironment (host : ConfigHost) (tenants : Set String) : Prop where
  documented : ∀ key ∈ host.environ.keys,
    ∃ v : TenantVariable, v.tenant ∈ tenants ∧ v.key host = key
  apart : ∀ a ∈ tenants, ∀ b ∈ tenants, ¬ (a ++ "_").toList <+: b.toList

/-! ## What the variables state -/

section
variable (host : ConfigHost) (tenant : String)

def valueOf (v : TenantVariable) : Option String := host.environ.get? (v.key host)

/-- On unless a variable says otherwise. -/
def statedEnabled (value : Option String) : Bool := value.all fun text => host.lower text = "true"

/-- The patterns of a JSON array; another text is a pattern itself. -/
def statedPatterns : Option String → List Json
  | none => []
  | some text =>
      match host.loads text with
      | some (.arr items) => items
      | _ => [.str text]

def policyEntryStated (policy : String) (builtin : List String) : ActiveDetector where
  enabled := .bool (statedEnabled host (valueOf host (.policyEnabled policy tenant)))
  patterns := .arr (builtin.map .str ++
    statedPatterns host (valueOf host (.policyPatterns policy tenant)))
  tier := .policy

def customEntryStated (name : String) : ActiveDetector where
  enabled := .bool (statedEnabled host (valueOf host (.customEnabled tenant name)))
  patterns := .arr (statedPatterns host (valueOf host (.customPatterns tenant name)))
  tier := .custom

/-- Some variable is about the custom detector. -/
def StatesCustom (name : String) : Prop :=
  (valueOf host (.customPatterns tenant name)).isSome ∨
    (valueOf host (.customEnabled tenant name)).isSome

/-- The adapter has the policy switches, the extra patterns and the custom detectors that are
stated, and no other ones. -/
structure HasWhatIsStated {rt : TextRuntime} (adapter : TelegramAdapter rt) : Prop where
  policies : ∀ p ∈ policyDetectors,
    adapter.activeDetectors.get? p.1 = some (policyEntryStated host tenant p.1 p.2)
  customs : ∀ name entry,
    adapter.activeDetectors.get? name = some entry ∧ entry.tier = .custom ↔
      StatesCustom host tenant name ∧ entry = customEntryStated host tenant name

/-- No pattern is stated, no custom detector is switched off, and the name of none has an
underscore. -/
structure StatesSwitchesOnly : Prop where
  policyPatterns : ∀ p ∈ policyDetectors,
    ∀ text ∈ valueOf host (.policyPatterns p.1 tenant), host.loads text = some (.arr [])
  customNames : ∀ name, StatesCustom host tenant name → '_' ∉ name.toList
  customPatterns : ∀ name,
    ∀ text ∈ valueOf host (.customPatterns tenant name), host.loads text = some (.arr [])
  customEnabled : ∀ name,
    ∀ text ∈ valueOf host (.customEnabled tenant name), host.lower text = "true"

end

/-! ## Cutting names -/

theorem count_afterUnderscores (n : ℕ) (chars : List Char) :
    (afterUnderscores n chars).count '_' = chars.count '_' - n := by
  induction n generalizing chars with
  | zero => rfl
  | succ n ih =>
      have hdrop : ((chars.dropWhile (· ≠ '_')).drop 1).count '_' = chars.count '_' - 1 := by
        induction chars with
        | nil => rfl
        | cons c rest ihrest =>
            by_cases hc : c = '_'
            · simp [hc]
            · rw [List.dropWhile_cons_of_pos (by simpa using hc), ihrest,
                List.count_cons_of_ne (by simpa using hc)]
      rw [afterUnderscores, ih, hdrop, Nat.sub_sub, Nat.add_comm]

/-- The first part of a name that others follow. -/
def firstPart (name : String) : String := String.ofList (name.toList.takeWhile (· ≠ '_'))

theorem takeWhile_append_underscore (name rest : List Char) :
    (name ++ '_' :: rest).takeWhile (· ≠ '_') = name.takeWhile (· ≠ '_') := by
  induction name with
  | nil => simp
  | cons c name ih =>
      rw [List.cons_append, List.takeWhile_cons, List.takeWhile_cons, ih]

theorem firstPart_eq_iff {name : String} : firstPart name = name ↔ '_' ∉ name.toList := by
  constructor
  · intro h hmem
    rw [← h, firstPart, String.toList_ofList] at hmem
    simpa using List.mem_takeWhile_imp hmem
  · intro h
    have hall : ∀ c ∈ name.toList, decide (c ≠ '_') = true := by
      intro c hc
      have hne : c ≠ '_' := by
        rintro rfl
        exact h hc
      simpa using hne
    rw [firstPart, List.takeWhile_eq_self_iff.mpr hall, String.ofList_toList]

theorem underscore_notMem_firstPart (name : String) : '_' ∉ (firstPart name).toList := by
  rw [firstPart, String.toList_ofList]
  intro hmem
  simpa using List.mem_takeWhile_imp hmem

/-! ## Loading custom detectors -/

section
variable (host : ConfigHost) (start : List Char)

/-- The name that is cut out of a key. -/
def customName (key : String) : String :=
  String.ofList ((key.toList.drop start.length).takeWhile (· ≠ '_'))

/-- What one variable of the environment does to the table. -/
def customStep (detectors : Dict String JsonDict) (p : String × String) : Dict String JsonDict :=
  if start.isPrefixOf p.1.toList then
    let property := customProperty host p.1 p.2
    detectors.set (customName start p.1)
      (((detectors.get? (customName start p.1)).getD Dict.empty).set property.1 property.2)
  else detectors

/-- The variables that are read under a name. -/
def ReadUnder (items : List (String × String)) (name : String) (p : String × String) : Prop :=
  p ∈ items ∧ start <+: p.1.toList ∧ customName start p.1 = name

variable {host start}

theorem readUnder_cons {items : List (String × String)} {name : String} {p q : String × String} :
    ReadUnder start (q :: items) name p ↔
      (p = q ∧ start <+: p.1.toList ∧ customName start p.1 = name) ∨
        ReadUnder start items name p := by
  rw [ReadUnder, List.mem_cons, or_and_right, ReadUnder]

theorem isSome_foldl_customStep {items : List (String × String)} {detectors : Dict String JsonDict}
    {name : String} : ((items.foldl (customStep host start) detectors).get? name).isSome ↔
      (detectors.get? name).isSome ∨ ∃ p, ReadUnder start items name p := by
  induction items generalizing detectors with
  | nil => simp [ReadUnder]
  | cons q rest ih =>
      have hsplit : (∃ p, ReadUnder start (q :: rest) name p) ↔
          (start <+: q.1.toList ∧ customName start q.1 = name) ∨
            ∃ p, ReadUnder start rest name p := by
        simp only [readUnder_cons, exists_or, exists_eq_left]
      rw [List.foldl_cons, ih, hsplit, ← or_assoc]
      refine or_congr_left ?_
      rw [customStep]
      split
      · next hstart =>
          rw [List.isPrefixOf_iff_prefix] at hstart
          rw [Dict.get?_set]
          split
          · next hname => simp [hstart, hname]
          · next hname => simp [hname]
      · next hstart =>
          rw [List.isPrefixOf_iff_prefix] at hstart
          simp [hstart]

/-- The properties of a custom detector are those of its variables. -/
theorem properties_foldl_customStep {items : List (String × String)}
    {detectors : Dict String JsonDict} {name key : String} {properties : JsonDict}
    (hget : (items.foldl (customStep host start) detectors).get? name = some properties)
    (hkey : (properties.get? key).isSome) :
    (∃ earlier, detectors.get? name = some earlier ∧ (earlier.get? key).isSome) ∨
      ∃ p, ReadUnder start items name p ∧ (customProperty host p.1 p.2).1 = key := by
  induction items generalizing detectors with
  | nil => exact .inl ⟨properties, hget, hkey⟩
  | cons q rest ih =>
      rcases ih hget with ⟨earlier, hearlier, hsome⟩ | ⟨p, hp, hproperty⟩
      · rw [customStep] at hearlier
        split at hearlier
        · next hstart =>
            rw [List.isPrefixOf_iff_prefix] at hstart
            rw [Dict.get?_set] at hearlier
            split at hearlier
            · next hname =>
                rw [Option.some.injEq] at hearlier
                rw [← hearlier, Dict.get?_set] at hsome
                split at hsome
                · next hproperty =>
                    exact .inr ⟨q, readUnder_cons.mpr (.inl ⟨rfl, hstart, hname⟩), hproperty⟩
                · rw [hname] at hsome
                  cases hbefore : detectors.get? name with
                  | none =>
                      rw [hbefore] at hsome
                      cases hsome
                  | some before =>
                      rw [hbefore] at hsome
                      exact .inl ⟨before, rfl, hsome⟩
            · exact .inl ⟨earlier, hearlier, hsome⟩
        · exact .inl ⟨earlier, hearlier, hsome⟩
      · exact .inr ⟨p, readUnder_cons.mpr (.inr hp), hproperty⟩

theorem property_name (host : ConfigHost) (key value : String) : (customProperty host key value).1 =
    host.lower (String.ofList (afterUnderscores 3 key.toList)) := by
  unfold customProperty
  dsimp only
  split <;> rfl

end

/-! ## Documented keys -/

/-- What the keys of a tenant's custom detectors start with. -/
def tenantStart (tenant : String) : List Char := ("CUSTOM_DETECTOR_" ++ tenant ++ "_").toList

def customKey (tenant name suffix : String) : String :=
  "CUSTOM_DETECTOR_" ++ tenant ++ "_" ++ name ++ suffix

/-- The suffixes of the variables of a custom detector. -/
def customSuffixes : List String := ["_PATTERNS", "_ENABLED"]

theorem suffix_cons {suffix : String} (h : suffix ∈ customSuffixes) :
    ∃ rest, suffix.toList = '_' :: rest ∧ 1 ≤ suffix.toList.count '_' := by
  simp only [customSuffixes, List.mem_cons, List.not_mem_nil, or_false] at h
  rcases h with rfl | rfl
  · exact ⟨"PATTERNS".toList, by decide, by decide⟩
  · exact ⟨"ENABLED".toList, by decide, by decide⟩

theorem toList_append_append (a b c : String) :
    (a ++ b ++ c).toList = a.toList ++ (b.toList ++ c.toList) := by
  rw [String.toList_append, String.toList_append, List.append_assoc]

theorem toList_customKey (tenant name suffix : String) :
    (customKey tenant name suffix).toList =
      tenantStart tenant ++ (name.toList ++ suffix.toList) :=
  toList_append_append ("CUSTOM_DETECTOR_" ++ tenant ++ "_") name suffix

theorem customName_customKey {tenant name suffix : String} (h : suffix ∈ customSuffixes) :
    customName (tenantStart tenant) (customKey tenant name suffix) = firstPart name := by
  obtain ⟨rest, hrest, -⟩ := suffix_cons h
  rw [customName, toList_customKey, List.drop_left, hrest, takeWhile_append_underscore, firstPart]

/-- Three underscores are cut off such a key, and one is left. -/
theorem underscore_mem_rest {tenant name suffix : String} (h : suffix ∈ customSuffixes) :
    '_' ∈ afterUnderscores 3 (customKey tenant name suffix).toList := by
  obtain ⟨-, -, hcount⟩ := suffix_cons h
  have htwo : "CUSTOM_DETECTOR_".toList.count '_' = 2 := by decide
  have hone : "_".toList.count '_' = 1 := by decide
  rw [← List.count_pos_iff, count_afterUnderscores, toList_customKey, tenantStart]
  simp only [String.toList_append, List.count_append, htwo, hone]
  omega

section
variable {host : ConfigHost} {tenants : Set String} {tenant : String}

/-- No tenant's keys start as another one's. -/
theorem eq_of_tenantStart (h : DocumentedEnvironment host tenants) {a b : String}
    (ha : a ∈ tenants) (hb : b ∈ tenants) (hle : tenantStart a <+: tenantStart b) : a = b := by
  have hends : (a ++ "_").toList <+: b.toList ++ ['_'] := by
    simp only [tenantStart, String.toList_append, List.append_assoc] at hle
    rw [String.toList_append]
    exact (List.prefix_append_right_inj _).mp hle
  rcases List.prefix_concat_iff.mp hends with heq | hshort
  · rw [String.toList_append] at heq
    exact String.toList_inj.mp (List.append_cancel_right heq)
  · exact absurd hshort (h.apart a ha b hb)

theorem eq_of_start_customKey (h : DocumentedEnvironment host tenants) {other name suffix : String}
    (htenant : tenant ∈ tenants) (hother : other ∈ tenants)
    (hstart : tenantStart tenant <+: (customKey other name suffix).toList) : other = tenant := by
  rw [toList_customKey] at hstart
  rcases List.prefix_or_prefix_of_prefix hstart (List.prefix_append _ _) with hle | hle
  · exact (eq_of_tenantStart h htenant hother hle).symm
  · exact eq_of_tenantStart h hother htenant hle

/-- A key that starts otherwise is not of a custom detector. -/
theorem not_tenantStart_of_head {text : List Char} {c : Char} (hc : c ≠ 'C')
    (htext : text.head? = some c) : ¬ tenantStart tenant <+: text := by
  have hfirst : (tenantStart tenant).head? = some 'C' := by
    rw [tenantStart, String.toList_append, String.toList_append]
    rfl
  rintro ⟨rest, rfl⟩
  rw [List.head?_append, hfirst, Option.some_or, Option.some.injEq] at htext
  exact hc htext.symm

/-- Documented keys that start as a tenant's are the tenant's. -/
theorem exists_customKey (h : DocumentedEnvironment host tenants) (htenant : tenant ∈ tenants)
    {key : String} (hkey : key ∈ host.environ.keys) (hstart : tenantStart tenant <+: key.toList) :
    ∃ name, ∃ suffix ∈ customSuffixes, key = customKey tenant name suffix := by
  obtain ⟨v, hv, rfl⟩ := h.documented key hkey
  have hhead : ∀ (a b c d : String) (first : Char), first ≠ 'C' → a.toList.head? = some first →
      ¬ tenantStart tenant <+: (a ++ b ++ c ++ d).toList := by
    intro a b c d first hfirst ha
    refine not_tenantStart_of_head hfirst ?_
    rw [toList_append_append, String.toList_append, List.append_assoc, List.head?_append, ha,
      Option.some_or]
  have hcustom : ∀ other ∈ tenants, ∀ name, ∀ suffix ∈ customSuffixes,
      tenantStart tenant <+: (customKey other name suffix).toList → ∃ name', ∃ suffix' ∈ customSuffixes,
        customKey other name suffix = customKey tenant name' suffix' := by
    intro other hother name suffix hsuffix hstart
    rw [eq_of_start_customKey h htenant hother hstart]
    exact ⟨name, suffix, hsuffix, rfl⟩
  cases v with
  | policyEnabled policy other =>
      exact absurd hstart
        (hhead "DETECTOR_" (host.upper policy) "_ENABLED_" other 'D' (by decide) (by decide))
  | policyPatterns policy other =>
      exact absurd hstart
        (hhead "DETECTOR_" (host.upper policy) "_PATTERNS_" other 'D' (by decide) (by decide))
  | threshold action other =>
      exact absurd hstart
        (hhead "THRESHOLD_" (host.upper action) "_" other 'T' (by decide) (by decide))
  | customPatterns other name =>
      exact hcustom other hv name "_PATTERNS" (by simp [customSuffixes]) hstart
  | customEnabled other name =>
      exact hcustom other hv name "_ENABLED" (by simp [customSuffixes]) hstart

theorem statesCustom_iff {name : String} : StatesCustom host tenant name ↔
    ∃ suffix ∈ customSuffixes, customKey tenant name suffix ∈ host.environ.keys := by
  have hkeys : ∀ {key : String}, (host.environ.get? key).isSome ↔ key ∈ host.environ.keys := by
    intro key
    rw [← not_iff_not, ← Dict.get?_eq_none_iff, Bool.not_eq_true, Option.isSome_eq_false_iff,
      Option.isNone_iff_eq_none]
  simp only [StatesCustom, valueOf, customSuffixes, List.mem_cons, List.not_mem_nil, or_false,
    exists_eq_or_imp, exists_eq_left, ← hkeys]
  rfl

end

end TruePresenceESE.Telegram
