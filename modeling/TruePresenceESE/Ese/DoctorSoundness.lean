import TruePresenceESE.Lib.Lists
import TruePresenceESE.Ese.Doctor

/-! # What the doctor's verdict stands for

A config that the doctor accepts has passed its policy checks and meets its own constraints,
up to the names and packages that the doctor takes for others.
-/

namespace TruePresenceESE.Ese

open PyText PyValue

section
variable {host : DoctorHost} {entries : List (EntryPoint PolicyCheck)} {cfg : Config}
  {diagnosis : Diagnosis}

/-- What an accepted config has passed. -/
structure Accepted (host : DoctorHost) (entries : List (EntryPoint PolicyCheck)) (cfg : Config)
    (names : List String) (table : RoleTable) (constraints : JsonDict) (run : PolicyRun) :
    Prop where
  collected : collectRoleNames cfg = .ok names
  read : readRoles host.py cfg names = .ok table
  mapping : constraintsSection cfg = some constraints
  noViolation : configViolations host constraints table cfg (doctorMode host.py cfg) = []
  evaluated : ∃ scope, evaluatePolicyChecks host.toExtensionHost entries
    (policyContext host cfg scope table) = .ok run
  noError : ∀ finding ∈ run.findings, finding.severity ≠ .error

theorem diagnose_ok {mode : String} {table : RoleTable} {violations : List String}
    {policies : PolicyRun} (h : (diagnose mode table violations policies).ok = true) :
    violations = [] ∧ (∀ finding ∈ policies.findings, finding.severity ≠ .error) ∧
      (diagnose mode table violations policies).policies = some policies := by
  unfold diagnose at h ⊢
  dsimp only at h ⊢
  split at h
  · cases h
  · rename_i hnone
    rw [ne_eq, not_not, List.append_eq_nil_iff, List.map_eq_nil_iff, List.filter_eq_nil_iff] at hnone
    refine ⟨hnone.1, fun finding hfinding herror => hnone.2 finding hfinding (by simpa using herror), ?_⟩
    split <;> rfl

theorem accepted_of_ok (h : evaluateDoctor host entries cfg = .ok diagnosis)
    (hok : diagnosis.ok = true) :
    ∃ names table constraints run, Accepted host entries cfg names table constraints run ∧
      diagnosis.policies = some run := by
  obtain ⟨names, hnames, h⟩ := Fallible.bind_eq_ok_iff.mp h
  obtain ⟨scope, -, h⟩ := Fallible.bind_eq_ok_iff.mp h
  obtain ⟨table, htable, h⟩ := Fallible.bind_eq_ok_iff.mp h
  cases hconstraints : constraintsSection cfg with
  | none =>
      rw [hconstraints] at h
      cases h
      cases hok
  | some constraints =>
      rw [hconstraints] at h
      obtain ⟨run, hrun, h⟩ := Fallible.bind_eq_ok_iff.mp h
      cases h
      obtain ⟨hviolations, herrors, hpolicies⟩ := diagnose_ok hok
      exact ⟨names, table, constraints, run,
        ⟨hnames, htable, hconstraints, (List.append_eq_nil_iff.mp hviolations).2,
          ⟨scope, Fallible.mapError_eq_ok_iff.mp hrun⟩, herrors⟩, hpolicies⟩

end

/-! ## Policy checks -/

/-- Each package passed its own check. -/
def EveryCheckPassed (host : DoctorHost) (entries : List (EntryPoint PolicyCheck)) (cfg : Config)
    (diagnosis : Diagnosis) : Prop :=
  ∃ run, diagnosis.policies = some run ∧ run.context.cfg = cfg ∧
    ∀ entry ∈ entries, ∃ d, CheckPassed host.toExtensionHost run entry d

/-- No policy is skipped exactly when packages that share a key share the check. -/
theorem no_policy_skipped_iff {host : DoctorHost} {entries : List (EntryPoint PolicyCheck)}
    {cfg : Config} {diagnosis : Diagnosis} (h : evaluateDoctor host entries cfg = .ok diagnosis)
    (hok : diagnosis.ok = true) :
    EveryCheckPassed host entries cfg diagnosis ↔
      ∀ d ∈ provided host.toExtensionHost policyKind entries,
        ∀ e ∈ provided host.toExtensionHost policyKind entries,
          d.key = e.key → d.callable = e.callable := by
  obtain ⟨names, table, constraints, run, haccepted, hpolicies⟩ := accepted_of_ok h hok
  obtain ⟨scope, hrun⟩ := haccepted.evaluated
  obtain ⟨hfound, hfine⟩ := all_fine_of_no_error hrun haccepted.noError
  constructor
  · rintro ⟨run', hpolicies', -, hpassed⟩ d hd e he hkey
    rw [hpolicies] at hpolicies'
    cases hpolicies'
    exact checks_agree_of_passed hfound hpassed hd he hkey
  · intro hagree
    obtain ⟨_, _, hcontext, -⟩ := evaluatePolicyChecks_eq_ok hrun
    exact ⟨run, hpolicies, by rw [hcontext]; rfl, fun entry hentry =>
      checkPassed_of_agreement hfound hfine hagree hentry⟩

/-- A package whose check ends as given. -/
def checkNamed (name : String) (value : PolicyValue) : EntryPoint PolicyCheck where
  name := .str name
  load := .returns (.plain (.mapping
    { key := .str "release-safety"
      title := .null
      summary := .str "Looks at the release."
      extras := []
      contractVersion := .absent
      callable := some fun _ => .returns value }))

def asciiDoctor : DoctorHost := { asciiExtensions with parseInt := String.toInt? }

def scopedConfig : Config :=
  JsonDict.ofFields [("input", .obj [("scope", .str "Review the rollout")])]

theorem doctor_accepts_quiet :
    (evaluateDoctor asciiDoctor [checkNamed "first" .nothing] scopedConfig).map (·.ok) =
      .ok true := by
  decide +kernel

theorem no_policy_skipped_quiet : ∃ diagnosis,
    evaluateDoctor asciiDoctor [checkNamed "first" .nothing] scopedConfig = .ok diagnosis ∧
      (EveryCheckPassed asciiDoctor [checkNamed "first" .nothing] scopedConfig diagnosis ↔
        ∀ d ∈ provided asciiDoctor.toExtensionHost policyKind [checkNamed "first" .nothing],
          ∀ e ∈ provided asciiDoctor.toExtensionHost policyKind [checkNamed "first" .nothing],
            d.key = e.key → d.callable = e.callable) := by
  obtain ⟨diagnosis, hdiagnosis, hok⟩ := Fallible.map_eq_ok_iff.mp doctor_accepts_quiet
  exact ⟨diagnosis, hdiagnosis, no_policy_skipped_iff hdiagnosis hok⟩

/-- Whether a check has nothing to say. -/
def quietAbout (context : PolicyContext) (definition : Definition PolicyCheck) : Bool :=
  match definition.callable context with
  | .returns .nothing => true
  | _ => false

/-- The check of a second package under the same key is not run. -/
theorem second_policy_skipped :
    ¬ ∀ (host : DoctorHost) (entries : List (EntryPoint PolicyCheck)) (cfg : Config)
        (diagnosis : Diagnosis), evaluateDoctor host entries cfg = .ok diagnosis →
      diagnosis.ok = true → EveryCheckPassed host entries cfg diagnosis := by
  intro hsound
  let entries := [checkNamed "first" .nothing, checkNamed "second" (.item (.text "No owner."))]
  have haccepts : (evaluateDoctor asciiDoctor entries scopedConfig).map (·.ok) = .ok true := by
    decide +kernel
  obtain ⟨diagnosis, hdiagnosis, hok⟩ := Fallible.map_eq_ok_iff.mp haccepts
  obtain ⟨names, table, constraints, run, haccepted, hpolicies⟩ := accepted_of_ok hdiagnosis hok
  obtain ⟨scope, hrun⟩ := haccepted.evaluated
  obtain ⟨hfound, -⟩ := all_fine_of_no_error hrun haccepted.noError
  obtain ⟨run', hpolicies', -, hpassed⟩ := hsound _ _ _ _ hdiagnosis hok
  rw [hpolicies] at hpolicies'
  cases hpolicies'
  have hquiet : (provided asciiDoctor.toExtensionHost policyKind entries).map (fun d =>
      (d.key, quietAbout ⟨scopedConfig, "", "", [], [], [], []⟩ d)) =
        [(⟨"release-safety", by decide, by decide⟩, true),
          (⟨"release-safety", by decide, by decide⟩, false)] := by
    decide +kernel
  obtain ⟨d, rest, hprovided, hd, hrest⟩ := List.map_eq_cons_iff.mp hquiet
  obtain ⟨e, _, rfl, he, -⟩ := List.map_eq_cons_iff.mp hrest
  obtain ⟨hdkey, hdquiet⟩ := Prod.mk.inj hd
  obtain ⟨hekey, hequiet⟩ := Prod.mk.inj he
  have hcheck : d.callable = e.callable :=
    checks_agree_of_passed hfound hpassed (by rw [hprovided]; simp) (by rw [hprovided]; simp)
      (hdkey.trans hekey.symm)
  unfold quietAbout at hdquiet hequiet
  rw [hcheck, hequiet] at hdquiet
  cases hdquiet

/-! ## Role names -/

/-- The distinct names in a list, trimmed. -/
def cleanNames (items : List Json) : List String := items.foldl addRole []

theorem cleanNames_concat (items : List Json) (item : Json) :
    cleanNames (items ++ [item]) = addRole (cleanNames items) item := by
  rw [cleanNames, List.foldl_append]
  rfl

theorem mem_addRole {roles : List String} {item : Json} {role : String} :
    role ∈ addRole roles item ↔ role ∈ roles ∨ role ≠ "" ∧ ∃ s, item = .str s ∧ strip s = role := by
  cases item with
  | str s =>
      dsimp only [addRole]
      by_cases hskip : strip s = "" ∨ strip s ∈ roles
      · rw [if_pos hskip]
        constructor
        · exact Or.inl
        · rintro (hmem | ⟨hne, t, ht, rfl⟩)
          · exact hmem
          · cases ht
            exact hskip.resolve_left hne
      · rw [if_neg hskip, List.mem_append, List.mem_singleton]
        rw [not_or] at hskip
        constructor
        · rintro (hmem | rfl)
          · exact .inl hmem
          · exact .inr ⟨hskip.1, s, rfl, rfl⟩
        · rintro (hmem | ⟨-, t, ht, rfl⟩)
          · exact .inl hmem
          · cases ht
            exact .inr rfl
  | _ => simp [addRole]

theorem mem_cleanNames {items : List Json} {role : String} :
    role ∈ cleanNames items ↔ role ≠ "" ∧ ∃ s, .str s ∈ items ∧ strip s = role := by
  induction items using List.reverseRecOn with
  | nil => simp [cleanNames]
  | append_singleton items item ih =>
      rw [cleanNames_concat, mem_addRole, ih]
      simp only [List.mem_append, List.mem_singleton]
      constructor
      · rintro (⟨hne, s, hs, hrole⟩ | ⟨hne, s, hs, hrole⟩)
        · exact ⟨hne, s, .inl hs, hrole⟩
        · exact ⟨hne, s, .inr hs.symm, hrole⟩
      · rintro ⟨hne, s, hs | hs, hrole⟩
        · exact .inl ⟨hne, s, hs, hrole⟩
        · exact .inr ⟨hne, s, hs.symm, hrole⟩

/-- Names are added behind those that are there. -/
theorem foldl_addRole (names : List String) (items : List Json) :
    items.foldl addRole names = names ++ (cleanNames items).filter (· ∉ names) := by
  induction items using List.reverseRecOn with
  | nil => simp [cleanNames]
  | append_singleton items item ih =>
      rw [List.foldl_append, List.foldl_cons, List.foldl_nil, ih, cleanNames_concat]
      cases item with
      | str s =>
          unfold addRole
          by_cases hempty : strip s = ""
          · simp [hempty]
          · by_cases hnames : strip s ∈ names
            · by_cases hseen : strip s ∈ cleanNames items
              · simp [hnames, hseen]
              · simp [hempty, hnames, hseen]
            · by_cases hseen : strip s ∈ cleanNames items
              · simp [hnames, hseen]
              · simp [hempty, hnames, hseen]
      | _ => rfl

/-- The roles that the config has a section for. -/
def configuredRoles (cfg : Config) : List String :=
  match roleKeys cfg with
  | .ok keys => cleanNames keys
  | .error _ => []

/-- The roles that only a pair list of the constraints names. -/
def pairOnlyRoles (cfg : Config) : List String :=
  match constraintNames cfg with
  | .ok named => (cleanNames named).filter (· ∉ configuredRoles cfg)
  | .error _ => []

theorem collectRoleNames_eq_ok {cfg : Config} {names : List String}
    (h : collectRoleNames cfg = .ok names) : names = configuredRoles cfg ++ pairOnlyRoles cfg := by
  obtain ⟨keys, hkeys, h⟩ := Fallible.bind_eq_ok_iff.mp h
  obtain ⟨named, hnamed, h⟩ := Fallible.bind_eq_ok_iff.mp h
  cases h
  unfold pairOnlyRoles configuredRoles
  rw [hkeys, hnamed, List.foldl_append]
  exact foldl_addRole _ _

theorem not_mem_pairOnly {cfg : Config} {role : String} (h : role ∈ configuredRoles cfg) :
    role ∉ pairOnlyRoles cfg := by
  unfold pairOnlyRoles
  split
  · simp [h]
  · simp

/-! ## Identities -/

def identityOf (host : DoctorHost) (cfg : Config) (role : String) : Except DoctorError String :=
  (doctorRoleModel host.py cfg role).map (roleIdentity host.py)

def identitiesOf (host : DoctorHost) (cfg : Config) (roles : List String) : List String :=
  roles.filterMap fun role => (identityOf host cfg role).toOption

theorem roleIdentity_ne_empty (py : Interpreter) (providerModel : String) :
    roleIdentity py providerModel ≠ "" := by
  have hprovider : roleProvider py providerModel ≠ "" := by
    unfold roleProvider orDefault
    split
    · decide
    · assumption
  unfold roleIdentity
  dsimp only
  split
  · exact hprovider
  · intro hempty
    have hlength := congrArg String.length hempty
    simp at hlength

theorem readRoles_eq_ok {host : DoctorHost} {cfg : Config} {names : List String}
    {table : RoleTable} (h : readRoles host.py cfg names = .ok table) :
    table.names = names ∧ table.values (roleIdentity host.py) =
      names.filterMap fun role => (identityOf host cfg role).toOption.map (role, ·) := by
  obtain ⟨models, hmodels, h⟩ := Fallible.bind_eq_ok_iff.mp h
  cases h
  refine ⟨rfl, ?_⟩
  have heach := Fallible.forall₂_of_mapM_ok hmodels
  clear h hmodels
  induction heach with
  | nil => rfl
  | @cons role entry roles entries hentry _ ih =>
      obtain ⟨model, hmodel, rfl⟩ := Fallible.map_eq_ok_iff.mp hentry
      have hidentity : identityOf host cfg role = .ok (roleIdentity host.py model) := by
        rw [identityOf, hmodel]
        rfl
      rw [List.filterMap_cons, hidentity, ← ih]
      rfl

theorem mem_identitiesOf {host : DoctorHost} {cfg : Config} {roles : List String}
    {identity : String} :
    identity ∈ identitiesOf host cfg roles ↔ ∃ role ∈ roles, identityOf host cfg role = .ok identity := by
  unfold identitiesOf
  rw [List.mem_filterMap]
  refine exists_congr fun role => and_congr_right fun _ => ?_
  cases identityOf host cfg role with
  | ok found => simp [Except.toOption]
  | error e => simp [Except.toOption]

/-- The doctor counts the identities of all roles it knows. -/
theorem distinctModels_eq {host : DoctorHost} {cfg : Config} {names : List String}
    {table : RoleTable} (h : readRoles host.py cfg names = .ok table) :
    distinctModels host table = (identitiesOf host cfg names).dedup.length := by
  have hvalues : (table.values (roleIdentity host.py)).map Prod.snd = identitiesOf host cfg names := by
    rw [(readRoles_eq_ok h).2, List.map_filterMap]
    unfold identitiesOf
    congr 1
    funext role
    cases identityOf host cfg role <;> rfl
  rw [distinctModels, hvalues, List.filter_eq_self.mpr]
  intro identity hidentity
  obtain ⟨role, -, hrole⟩ := mem_identitiesOf.mp hidentity
  obtain ⟨model, -, rfl⟩ := Fallible.map_eq_ok_iff.mp hrole
  exact decide_eq_true (roleIdentity_ne_empty _ _)

/-! ## Constraints -/

/-- The number that a minimum stands for; a text is read as an integer. -/
def statedMinimum (parseInt : String → Option ℤ) : Json → Option ℚ
  | .num q => some q
  | value => (toInt parseInt value).map (↑)

/-- What the constraints of a config ask of its configured roles. -/
structure MeetsConstraints (host : DoctorHost) (cfg : Config) (constraints : JsonDict) : Prop where
  required : ∀ role ∈ (constraintRoles constraints "require_roles").1, role ∈ configuredRoles cfg
  specialists : ∀ least,
    statedMinimum host.parseInt (constraints.get "minimum_specialist_roles") = some least →
      least ≤ ((configuredRoles cfg).filter countsAsSpecialist).length
  distinct : ∀ least,
    statedMinimum host.parseInt (constraints.get "minimum_distinct_models") = some least →
      least ≤ (identitiesOf host cfg (configuredRoles cfg)).dedup.length
  pairs : ∀ pair ∈ mergedModelPairs constraints,
    pair.1 ∈ configuredRoles cfg → pair.2 ∈ configuredRoles cfg →
      ∀ left right, identityOf host cfg pair.1 = .ok left → identityOf host cfg pair.2 = .ok right →
        left ≠ right

/-- No constraint is met by the roles that only a pair list names: none of them is required,
and a minimum leaves room for as many as there are. -/
structure MetWithoutPairOnly (host : DoctorHost) (cfg : Config) (constraints : JsonDict) :
    Prop where
  required : ∀ role ∈ (constraintRoles constraints "require_roles").1, role ∉ pairOnlyRoles cfg
  specialists : ∀ least,
    statedMinimum host.parseInt (constraints.get "minimum_specialist_roles") = some least →
      (((pairOnlyRoles cfg).filter countsAsSpecialist).length : ℚ) ≤
        ((configuredRoles cfg ++ pairOnlyRoles cfg).filter countsAsSpecialist).length - least
  distinct : ∀ least,
    statedMinimum host.parseInt (constraints.get "minimum_distinct_models") = some least →
      (((identitiesOf host cfg (pairOnlyRoles cfg)).filter
          (· ∉ identitiesOf host cfg (configuredRoles cfg))).dedup.length : ℚ) ≤
        (identitiesOf host cfg (configuredRoles cfg ++ pairOnlyRoles cfg)).dedup.length - least

section
variable {host : DoctorHost} {entries : List (EntryPoint PolicyCheck)} {cfg : Config}
  {names : List String} {table : RoleTable} {constraints : JsonDict} {run : PolicyRun}

/-- A required role is known to the doctor. -/
theorem Accepted.required (h : Accepted host entries cfg names table constraints run)
    {role : String} (hrole : role ∈ (constraintRoles constraints "require_roles").1) :
    role ∈ names := by
  have hviolations := h.noViolation
  simp only [configViolations, requiredViolations, List.append_eq_nil_iff,
    List.filterMap_eq_nil_iff] at hviolations
  have hmissing := hviolations.1.1.1.2 role hrole
  rw [ite_eq_left_iff] at hmissing
  rw [← (readRoles_eq_ok h.read).1]
  by_contra habsent
  cases hmissing habsent

theorem Accepted.specialists (h : Accepted host entries cfg names table constraints run) {least : ℤ}
    (hleast : toInt host.parseInt (constraints.get "minimum_specialist_roles") = some least) :
    least ≤ (names.filter countsAsSpecialist).length := by
  have hviolations := h.noViolation
  simp only [configViolations, List.append_eq_nil_iff] at hviolations
  have hspecialists := hviolations.1.2
  rw [specialistViolations] at hspecialists
  split at hspecialists
  next hnull =>
    rw [hnull] at hleast
    cases hleast
  next =>
    simp only [hleast, List.append_eq_nil_iff] at hspecialists
    have henough := hspecialists.2
    rw [(readRoles_eq_ok h.read).1, ite_eq_right_iff] at henough
    by_contra hfew
    cases henough (by omega)

/-- Enough identities are known in ensemble mode. -/
theorem Accepted.distinct (h : Accepted host entries cfg names table constraints run)
    (hmode : doctorMode host.py cfg = "ensemble") {least : ℤ}
    (hleast : toInt host.parseInt (constraints.get "minimum_distinct_models") = some least) :
    least ≤ (identitiesOf host cfg names).dedup.length := by
  have hviolations := h.noViolation
  rw [configViolations, if_pos hmode] at hviolations
  simp only [ensembleViolations, List.append_eq_nil_iff] at hviolations
  have hdistinct := hviolations.2.2
  rw [distinctViolations] at hdistinct
  split at hdistinct
  next hnull =>
    rw [hnull] at hleast
    cases hleast
  next =>
    rw [← distinctModels_eq h.read]
    simp only [hleast] at hdistinct
    split at hdistinct
    · cases hdistinct
    · rw [ite_eq_right_iff] at hdistinct
      by_contra hfew
      cases hdistinct (by omega)

/-- No pair is reported exactly when known roles of a pair have different identities. -/
theorem modelPairViolations_eq_nil_iff (h : readRoles host.py cfg names = .ok table) :
    modelPairViolations host constraints table = [] ↔
      ∀ pair ∈ mergedModelPairs constraints, pair.1 ∈ names → pair.2 ∈ names →
        ∀ left right, identityOf host cfg pair.1 = .ok left → identityOf host cfg pair.2 = .ok right →
          left ≠ right := by
  rw [modelPairViolations, List.filterMap_eq_nil_iff]
  refine forall₂_congr fun pair _ => ?_
  rw [(readRoles_eq_ok h).2, sharedViolation, Lists.lookup_filterMap_pair, Lists.lookup_filterMap_pair]
  by_cases hleft : pair.1 ∈ names
  · by_cases hright : pair.2 ∈ names
    · rw [if_pos hleft, if_pos hright]
      cases identityOf host cfg pair.1 with
      | error e => simp [Except.toOption]
      | ok left =>
          cases identityOf host cfg pair.2 with
          | error e => simp [Except.toOption]
          | ok right => simp [Except.toOption, hleft, hright]
    · simp [hright]
  · simp [hleft]

/-- Known roles of a pair have different identities in ensemble mode. -/
theorem Accepted.pairs (h : Accepted host entries cfg names table constraints run)
    (hmode : doctorMode host.py cfg = "ensemble") {pair : String × String}
    (hpair : pair ∈ mergedModelPairs constraints) (hleft : pair.1 ∈ names)
    (hright : pair.2 ∈ names) {left right : String} (hl : identityOf host cfg pair.1 = .ok left)
    (hr : identityOf host cfg pair.2 = .ok right) : left ≠ right := by
  have hviolations := h.noViolation
  rw [configViolations, if_pos hmode] at hviolations
  simp only [ensembleViolations, List.append_eq_nil_iff] at hviolations
  exact (modelPairViolations_eq_nil_iff h.read).mp hviolations.2.1.1.2 pair hpair hleft hright
    left right hl hr

end

theorem length_specialists (cfg : Config) :
    ((configuredRoles cfg ++ pairOnlyRoles cfg).filter countsAsSpecialist).length =
      ((configuredRoles cfg).filter countsAsSpecialist).length +
        ((pairOnlyRoles cfg).filter countsAsSpecialist).length := by
  rw [List.filter_append, List.length_append]

theorem length_identities (host : DoctorHost) (cfg : Config) :
    (identitiesOf host cfg (configuredRoles cfg ++ pairOnlyRoles cfg)).dedup.length =
      (identitiesOf host cfg (configuredRoles cfg)).dedup.length +
        ((identitiesOf host cfg (pairOnlyRoles cfg)).filter
          (· ∉ identitiesOf host cfg (configuredRoles cfg))).dedup.length := by
  have happend : identitiesOf host cfg (configuredRoles cfg ++ pairOnlyRoles cfg) =
      identitiesOf host cfg (configuredRoles cfg) ++ identitiesOf host cfg (pairOnlyRoles cfg) :=
    List.filterMap_append
  rw [happend, Lists.length_dedup_append]

/-- The minimum is what `int` makes of it. -/
def IntegralMinimum (parseInt : String → Option ℤ) (value : Json) : Prop :=
  ∀ least, statedMinimum parseInt value = some least →
    ∃ n : ℤ, toInt parseInt value = some n ∧ (n : ℚ) = least

/-- Where pair lists name configured roles only, an accepted config meets its constraints. -/
theorem meetsConstraints_of_pairs_configured {host : DoctorHost}
    {entries : List (EntryPoint PolicyCheck)} {cfg : Config} {names : List String}
    {table : RoleTable} {constraints : JsonDict} {run : PolicyRun}
    (h : Accepted host entries cfg names table constraints run)
    (hmode : doctorMode host.py cfg = "ensemble") (hpairs : pairOnlyRoles cfg = [])
    (hspecialists : IntegralMinimum host.parseInt (constraints.get "minimum_specialist_roles"))
    (hdistinct : IntegralMinimum host.parseInt (constraints.get "minimum_distinct_models")) :
    MeetsConstraints host cfg constraints := by
  have hnames := collectRoleNames_eq_ok h.collected
  rw [hpairs, List.append_nil] at hnames
  subst hnames
  constructor
  · exact fun role hrole => h.required hrole
  · intro least hleast
    obtain ⟨n, hn, rfl⟩ := hspecialists least hleast
    exact_mod_cast h.specialists hn
  · intro least hleast
    obtain ⟨n, hn, rfl⟩ := hdistinct least hleast
    exact_mod_cast h.distinct hmode hn
  · exact fun pair hpair hleft hright left right hl hr => h.pairs hmode hpair hleft hright hl hr

/-- A config for two roles, with the given constraints. -/
def twoModelConfig (constraints : List (String × Json)) : Config :=
  JsonDict.ofFields [("input", .obj [("scope", .str "Review the rollout")]),
    ("provider", .obj [("name", .str "openai"), ("model", .str "gpt-5-mini")]),
    ("roles", .obj [("architect", .obj [("model", .str "gpt-5")]), ("implementer", .obj [])]),
    ("constraints", .obj constraints)]

def twoModelsNeeded : Config := twoModelConfig [("minimum_distinct_models", .num 2)]

theorem doctor_accepts_two_models :
    (evaluateDoctor asciiDoctor [] twoModelsNeeded).map (·.ok) = .ok true := by
  decide +kernel

/-- A required role that only a pair list names. -/
def writerNamed : Config :=
  twoModelConfig [("require_roles", .arr [.str "documentation_writer"]),
    ("disallow_same_model_pairs", .arr [.arr [.str "architect", .str "documentation_writer"]])]

end TruePresenceESE.Ese
