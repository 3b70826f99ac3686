import TruePresenceESE.Ese.RunConfig

/-! # The order of the roles

A run takes the roles of its config in one order: that of `role_order`, or the built-in
roles first and the others as they are configured. The order is a permutation of the
configured roles.
-/

namespace TruePresenceESE.Ese

open PyText PyValue

/-! ## Configured roles -/

/-- The mapping of roles, if the config holds one. A blank value is an empty mapping. -/
def rolesMapping (cfg : Config) : Option JsonDict :=
  match if truthy (cfg.get "roles") then cfg.get "roles" else .obj [] with
  | .obj fields => some (JsonDict.ofFields fields)
  | _ => none

/-- A list of texts that, once stripped, names each of the roles once. -/
def Enumerates (value : Json) (roles order : List String) : Prop :=
  ∃ texts : List String, value = strings texts ∧ order = texts.map strip ∧
    (∀ text ∈ texts, strip text ≠ "") ∧ order.Nodup ∧ ∀ role, role ∈ order ↔ role ∈ roles

theorem has_iff_mem_keys {d : JsonDict} {key : String} : d.has key = true ↔ key ∈ d.keys := by
  rw [JsonDict.has, Option.isSome_iff_ne_none, Ne, Dict.get?_eq_none_iff, not_not]

/-! ## The explicit order -/

section
variable {rolesCfg : JsonDict} {seen order : List String}

/-- An entry passes if it is a text whose stripped form names a role not yet seen. -/
theorem normalizeExplicitOrder_cons_iff {entry : Json} {rest : List Json} :
    normalizeExplicitOrder rolesCfg seen (entry :: rest) = .ok order ↔
      ∃ text order', entry = .str text ∧ strip text ≠ "" ∧ strip text ∈ rolesCfg.keys ∧
        strip text ∉ seen ∧
        normalizeExplicitOrder rolesCfg (seen ++ [strip text]) rest = .ok order' ∧
        order = strip text :: order' := by
  constructor
  · intro h
    unfold normalizeExplicitOrder at h
    cases entry with
    | str text =>
        simp only [asString, Option.map_some] at h
        split at h
        · cases h
        · next hne =>
            split at h
            · cases h
            · next hknown =>
                split at h
                · cases h
                · next hfresh =>
                    obtain ⟨order', hrest, rfl⟩ := Fallible.map_eq_ok_iff.mp h
                    rw [Bool.not_eq_false, has_iff_mem_keys] at hknown
                    exact ⟨text, order', rfl, hne, hknown, hfresh, hrest, rfl⟩
    | null | bool _ | num _ | arr _ | obj _ => cases h
  · rintro ⟨text, order', rfl, hne, hknown, hfresh, hrest, rfl⟩
    rw [← has_iff_mem_keys] at hknown
    rw [normalizeExplicitOrder, asString, Option.map_some]
    dsimp only
    rw [if_neg hne, if_neg (by simp [hknown]), if_neg hfresh, hrest]
    rfl

/-- The loop over the entries takes stripped names of different roles that it has not seen. -/
theorem normalizeExplicitOrder_eq_ok_iff {entries : List Json} :
    normalizeExplicitOrder rolesCfg seen entries = .ok order ↔
      ∃ texts : List String, entries = texts.map .str ∧ order = texts.map strip ∧
        (∀ text ∈ texts, strip text ≠ "") ∧ order.Nodup ∧
        ∀ role ∈ order, role ∈ rolesCfg.keys ∧ role ∉ seen := by
  induction entries generalizing seen order with
  | nil =>
      constructor
      · intro h
        cases h
        exact ⟨[], rfl, rfl, nofun, List.nodup_nil, nofun⟩
      · rintro ⟨texts, htexts, rfl, -⟩
        rw [List.map_eq_nil_iff.1 htexts.symm]
        rfl
  | cons entry rest ih =>
      rw [normalizeExplicitOrder_cons_iff]
      constructor
      · rintro ⟨text, order', rfl, hne, hknown, hfresh, hrest, rfl⟩
        obtain ⟨texts, rfl, rfl, hblank, hnodup, hroles⟩ := ih.1 hrest
        refine ⟨text :: texts, rfl, rfl, ?_, ?_, ?_⟩
        · exact List.forall_mem_cons.2 ⟨hne, hblank⟩
        · rw [List.nodup_cons]
          refine ⟨fun hmem => (hroles _ hmem).2 ?_, hnodup⟩
          exact List.mem_append_right _ (List.mem_singleton_self _)
        · rw [List.forall_mem_cons]
          refine ⟨⟨hknown, hfresh⟩, fun role hrole => ⟨(hroles role hrole).1, fun hseen => ?_⟩⟩
          exact (hroles role hrole).2 (List.mem_append_left _ hseen)
      · rintro ⟨texts, htexts, rfl, hblank, hnodup, hroles⟩
        cases texts with
        | nil => cases htexts
        | cons text texts =>
            rw [List.map_cons, List.cons.injEq] at htexts
            rw [List.map_cons, List.nodup_cons] at hnodup
            rw [List.map_cons, List.forall_mem_cons] at hroles
            rw [List.forall_mem_cons] at hblank
            refine ⟨text, texts.map strip, htexts.1, hblank.1, hroles.1.1, hroles.1.2, ?_, rfl⟩
            refine ih.2 ⟨texts, htexts.2, rfl, hblank.2, hnodup.2, fun role hrole => ?_⟩
            refine ⟨(hroles.2 role hrole).1, ?_⟩
            rw [List.mem_append, List.mem_singleton, not_or]
            refine ⟨(hroles.2 role hrole).2, ?_⟩
            rintro rfl
            exact hnodup.1 hrole

end

/-- What the loop raises is the pipeline's own error. -/
theorem normalizeExplicitOrder_error {rolesCfg : JsonDict} {seen : List String}
    {entries : List Json} {e : RunError}
    (h : normalizeExplicitOrder rolesCfg seen entries = .error e) :
    ∃ message, e = .pipeline message := by
  induction entries generalizing seen with
  | nil => cases h
  | cons entry rest ih =>
      unfold normalizeExplicitOrder at h
      split at h
      · cases h
        exact ⟨_, rfl⟩
      · next role _ =>
          split at h
          · cases h
            exact ⟨_, rfl⟩
          · split at h
            · cases h
              exact ⟨_, rfl⟩
            · split at h
              · cases h
                exact ⟨_, rfl⟩
              · cases hrest : normalizeExplicitOrder rolesCfg (seen ++ [role]) rest with
                | ok order =>
                    rw [hrest] at h
                    cases h
                | error e' =>
                    rw [hrest] at h
                    cases h
                    exact ih hrest

/-! ## The order of a run -/

section
variable {cfg : Config} {roles : JsonDict} {order : List String}

theorem normalizeRoleOrder_of_mapping (hroles : rolesMapping cfg = some roles)
    (hne : roles.keys ≠ []) :
    normalizeRoleOrder cfg = match cfg.get "role_order" with
      | .null => .ok (defaultOrder roles.keys)
      | .arr entries => do
          let normalized ← normalizeExplicitOrder roles [] entries
          let missing := roles.keys.filter (· ∉ normalized)
          if missing ≠ [] then
            throw (.pipeline ("role_order omits configured roles: " ++
              String.intercalate ", " missing))
          else return normalized
      | _ => .error (.pipeline "role_order must be a list of configured role names") := by
  rw [rolesMapping] at hroles
  split at hroles
  · next fields hfields =>
      cases hroles
      rw [normalizeRoleOrder, hfields]
      dsimp only
      exact (if_neg hne).trans (by cases cfg.get "role_order" <;> rfl)
  · cases hroles

/-- An explicit order is taken exactly if it enumerates the configured roles. -/
theorem explicit_order_iff (hroles : rolesMapping cfg = some roles) (hne : roles.keys ≠ [])
    (hexplicit : cfg.get "role_order" ≠ .null) :
    normalizeRoleOrder cfg = .ok order ↔ Enumerates (cfg.get "role_order") roles.keys order := by
  rw [normalizeRoleOrder_of_mapping hroles hne, Enumerates]
  generalize cfg.get "role_order" = value at hexplicit
  cases value with
  | null => exact absurd rfl hexplicit
  | bool _ | num _ | str _ | obj _ =>
      constructor
      · intro h
        cases h
      · rintro ⟨texts, htexts, -⟩
        cases htexts
  | arr entries =>
      dsimp only
      rw [Fallible.bind_eq_ok_iff]
      constructor
      · rintro ⟨normalized, hnormalized, h⟩
        obtain ⟨texts, rfl, rfl, hblank, hnodup, hknown⟩ :=
          normalizeExplicitOrder_eq_ok_iff.1 hnormalized
        split at h
        · cases h
        · next hmissing =>
            cases h
            refine ⟨texts, rfl, rfl, hblank, hnodup, fun role => ⟨fun h => (hknown role h).1, ?_⟩⟩
            intro hrole
            rw [not_not, List.filter_eq_nil_iff] at hmissing
            simpa using hmissing role hrole
      · rintro ⟨texts, htexts, rfl, hblank, hnodup, hall⟩
        cases htexts
        refine ⟨texts.map strip, normalizeExplicitOrder_eq_ok_iff.2 ⟨texts, rfl, rfl, hblank,
          hnodup, fun role hrole => ⟨(hall role).1 hrole, List.not_mem_nil⟩⟩, ?_⟩
        have hmissing : roles.keys.filter (· ∉ texts.map strip) = [] := by
          rw [List.filter_eq_nil_iff]
          intro role hrole
          simpa using (hall role).2 hrole
        rw [hmissing]
        rfl

theorem defaultOrder_eq (configuredRoles : List String) :
    defaultOrder configuredRoles =
      pipelineOrder.filter (· ∈ configuredRoles) ++
        configuredRoles.filter (· ∉ pipelineOrder) := by
  rw [defaultOrder]
  congr 1
  apply List.filter_congr
  intro role hrole
  simp [hrole]

theorem default_order (hroles : rolesMapping cfg = some roles) (hne : roles.keys ≠ [])
    (hdefault : cfg.get "role_order" = .null) :
    normalizeRoleOrder cfg = .ok (pipelineOrder.filter (· ∈ roles.keys) ++
      roles.keys.filter (· ∉ pipelineOrder)) := by
  rw [normalizeRoleOrder_of_mapping hroles hne, hdefault, ← defaultOrder_eq]

theorem mem_defaultOrder {configuredRoles : List String} {role : String} :
    role ∈ defaultOrder configuredRoles ↔ role ∈ configuredRoles := by
  rw [defaultOrder_eq, List.mem_append, List.mem_filter, List.mem_filter]
  simp only [decide_eq_true_eq]
  tauto

theorem perm_of_mem_iff {configuredRoles : List String} (hnodup : order.Nodup)
    (hroles : configuredRoles.Nodup) (h : ∀ role, role ∈ order ↔ role ∈ configuredRoles) :
    order.Perm configuredRoles :=
  (List.perm_ext_iff_of_nodup hnodup hroles).2 h

theorem normalizeRoleOrder_error {e : RunError} (h : normalizeRoleOrder cfg = .error e) :
    ∃ message, e = .pipeline message := by
  unfold normalizeRoleOrder at h
  dsimp only at h
  split at h
  · next fields _ =>
      split at h
      · cases h
      · split at h
        · cases h
        · next entries _ =>
            cases hloop : normalizeExplicitOrder (JsonDict.ofFields fields) [] entries with
            | error e' =>
                rw [hloop] at h
                cases h
                exact normalizeExplicitOrder_error hloop
            | ok normalized =>
                rw [hloop] at h
                simp only [bind, Except.bind] at h
                split at h
                · cases h
                  exact ⟨_, rfl⟩
                · cases h
        · cases h
          exact ⟨_, rfl⟩
  · cases h
    exact ⟨_, rfl⟩

/-- Where the roles are no mapping nothing is returned, and no roles have no order. -/
theorem exists_mapping_of_ok (h : normalizeRoleOrder cfg = .ok order) :
    ∃ roles, rolesMapping cfg = some roles ∧ (roles.keys = [] → order = []) := by
  unfold normalizeRoleOrder at h
  dsimp only at h
  split at h
  · next fields hfields =>
      refine ⟨JsonDict.ofFields fields, by rw [rolesMapping, hfields], fun hnone => ?_⟩
      rw [if_pos hnone] at h
      cases h
      rfl
  · cases h

theorem normalizeRoleOrder_perm (h : normalizeRoleOrder cfg = .ok order) :
    ∃ roles, rolesMapping cfg = some roles ∧ order.Perm roles.keys := by
  obtain ⟨roles, hroles, hnone⟩ := exists_mapping_of_ok h
  refine ⟨roles, hroles, ?_⟩
  by_cases hne : roles.keys = []
  · rw [hnone hne, hne]
  · apply perm_of_mem_iff (normalizeRoleOrder_nodup h) roles.keys_nodup
    by_cases hdefault : cfg.get "role_order" = .null
    · rw [default_order hroles hne hdefault, ← defaultOrder_eq] at h
      cases h
      exact fun role => mem_defaultOrder
    · obtain ⟨texts, -, -, -, -, hall⟩ := (explicit_order_iff hroles hne hdefault).1 h
      exact hall

end

/-- The order is a permutation of the configured roles. An explicit order is followed, and
refused exactly if it does not enumerate the roles; without one the built-in roles come
first. -/
theorem role_order_permutation (cfg : Config) :
    (∀ order, normalizeRoleOrder cfg = .ok order →
      ∃ roles, rolesMapping cfg = some roles ∧ order.Perm roles.keys) ∧
    (∀ e, normalizeRoleOrder cfg = .error e → ∃ message, e = .pipeline message) ∧
    ∀ roles, rolesMapping cfg = some roles → roles.keys ≠ [] →
      (cfg.get "role_order" = .null →
        normalizeRoleOrder cfg = .ok (pipelineOrder.filter (· ∈ roles.keys) ++
          roles.keys.filter (· ∉ pipelineOrder))) ∧
      (cfg.get "role_order" ≠ .null → ∀ order, normalizeRoleOrder cfg = .ok order ↔
        Enumerates (cfg.get "role_order") roles.keys order) ∧
      ((∃ e, normalizeRoleOrder cfg = .error e) ↔ cfg.get "role_order" ≠ .null ∧
        ∀ order, ¬ Enumerates (cfg.get "role_order") roles.keys order) := by
  refine ⟨fun order => normalizeRoleOrder_perm, fun e => normalizeRoleOrder_error, ?_⟩
  intro roles hroles hne
  refine ⟨default_order hroles hne, fun h order => explicit_order_iff hroles hne h, ?_⟩
  by_cases hdefault : cfg.get "role_order" = .null
  · rw [default_order hroles hne hdefault]
    constructor
    · rintro ⟨e, h⟩
      cases h
    · rintro ⟨h, -⟩
      exact absurd hdefault h
  · constructor
    · rintro ⟨e, h⟩
      refine ⟨hdefault, fun order henumerates => ?_⟩
      rw [(explicit_order_iff hroles hne hdefault).2 henumerates] at h
      cases h
    · rintro ⟨-, hnone⟩
      cases h : normalizeRoleOrder cfg with
      | error e => exact ⟨e, rfl⟩
      | ok order => exact absurd ((explicit_order_iff hroles hne hdefault).1 h) (hnone order)

end TruePresenceESE.Ese
