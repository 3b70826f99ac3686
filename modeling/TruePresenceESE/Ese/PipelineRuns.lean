import TruePresenceESE.Ese.ArtifactPaths
import TruePresenceESE.Ese.ReviewIsolation
import TruePresenceESE.Lib.Fallible

/-! # What a run does

A run is followed through its performed roles. Whatever the mode, a run that is
not stopped performs its roles in order, each from the outputs before it; one
that is stopped persists the roles performed so far and fails.
-/

namespace TruePresenceESE.Ese

open PosixPath PyText

/-! ## Performing a role -/

/-- A role whose output has been accepted. -/
structure Done where
  next : Pending
  call : AdapterCall
  rendered : Rendered

def performRole (env : RunEnv) (outputs : Dict String String) (next : Pending) :
    Except String Done := do
  let model ← env.settings.roleModel next.1
  let call := roleCall env next.1 model outputs
  let output ← invokeAdapter env.adapter call
  let rendered ← renderRoleOutput env.host.py next.1 model output env.inputs.enforceJson
  return ⟨next, call, rendered⟩

def Done.path (env : RunEnv) (d : Done) : String :=
  join env.settings.artifactsDir (artifactName d.next.2 d.next.1 d.rendered.extension)

def Done.location (env : RunEnv) (d : Done) : Location := env.host.locate (d.path env)

def Done.result (env : RunEnv) (strategy : String) (d : Done) : RoleResult :=
  ⟨d.next.1, d.next.2, d.call, d.path env, d.rendered.content, d.rendered.text, d.rendered.report,
    executionRecord (env.request.stamps d.next.1) d.next.1 d.call.model (d.path env) strategy⟩

theorem executeRole_eq (env : RunEnv) (strategy : String) (outputs : Dict String String)
    (next : Pending) :
    executeRole env strategy outputs next =
      (performRole env outputs next).map (Done.result env strategy) := by
  obtain ⟨role, index⟩ := next
  simp only [executeRole, performRole, bind, Except.bind, pure, Except.pure]
  cases env.settings.roleModel role with
  | error message => rfl
  | ok model =>
      dsimp only
      cases invokeAdapter env.adapter (roleCall env role model outputs) with
      | error message => rfl
      | ok output =>
          dsimp only
          cases renderRoleOutput env.host.py role model output env.inputs.enforceJson <;> rfl

theorem performRole_ok_iff {env : RunEnv} {outputs : Dict String String} {next : Pending}
    {d : Done} :
    performRole env outputs next = .ok d ↔
      ∃ model output rendered, env.settings.roleModel next.1 = .ok model ∧
        invokeAdapter env.adapter (roleCall env next.1 model outputs) = .ok output ∧
        renderRoleOutput env.host.py next.1 model output env.inputs.enforceJson = .ok rendered ∧
        d = ⟨next, roleCall env next.1 model outputs, rendered⟩ := by
  unfold performRole
  simp only [Fallible.bind_eq_ok_iff]
  constructor
  · rintro ⟨model, hmodel, output, houtput, rendered, hrendered, h⟩
    cases h
    exact ⟨model, output, rendered, hmodel, houtput, hrendered, rfl⟩
  · rintro ⟨model, output, rendered, hmodel, houtput, hrendered, rfl⟩
    exact ⟨model, hmodel, output, houtput, rendered, hrendered, rfl⟩

theorem performRole_next {env : RunEnv} {outputs : Dict String String} {next : Pending} {d : Done}
    (h : performRole env outputs next = .ok d) : d.next = next := by
  obtain ⟨model, output, rendered, -, -, -, rfl⟩ := performRole_ok_iff.mp h
  rfl

/-- Outputs that show a role the same texts make it perform alike. -/
theorem performRole_congr {env : RunEnv} {outputs outputs' : Dict String String} {next : Pending}
    (h : SameView env.inputs next.1 (env.settings.rolePromptText next.1) outputs outputs') :
    performRole env outputs next = performRole env outputs' next := by
  have hcall : ∀ model,
      roleCall env next.1 model outputs = roleCall env next.1 model outputs' := by
    intro model
    rw [roleCall, roleCall, h.1, h.2]
  simp only [performRole, hcall]

/-! ## Keeping a role -/

def strategyOf (env : RunEnv) (role : String) : String :=
  if env.settings.parallelSpecialists && isSpecialist role then "parallel" else "serial"

def keepResult (env : RunEnv) (st : RunState) (result : RoleResult) : RunState :=
  applyRoleResult env { st with fs := writeResult env st.fs result } result

/-- The run's state after the role has been written and applied. -/
def keepDone (env : RunEnv) (st : RunState) (d : Done) : RunState :=
  keepResult env st (d.result env (strategyOf env d.next.1))

section
variable (env : RunEnv) (st : RunState) (d : Done)

theorem keepDone_fs : (keepDone env st d).fs = st.fs.write (d.location env) d.rendered.content :=
  rfl

theorem keepDone_outputs : (keepDone env st d).outputs = st.outputs.set d.next.1 d.rendered.text :=
  rfl

theorem keepDone_artifacts : (keepDone env st d).artifacts = st.artifacts.set d.next.1 (d.path env) :=
  rfl

theorem keepDone_models : (keepDone env st d).models = st.models.set d.next.1 d.call.model := rfl

theorem keepDone_calls : (keepDone env st d).calls = st.calls ++ [d.call] := rfl

theorem keepDone_written :
    (keepDone env st d).written = st.written ++ [(d.next.1, d.location env)] := rfl

theorem keepDone_execution :
    (keepDone env st d).execution = st.execution ++
      [executionRecord (env.request.stamps d.next.1) d.next.1 d.call.model (d.path env)
        (strategyOf env d.next.1)] := rfl

end

/-- Writing all results before applying them makes no difference. -/
theorem foldl_apply_eq (env : RunEnv) (st : RunState) (results : List RoleResult) :
    results.foldl (applyRoleResult env)
        { st with fs := results.foldl (writeResult env) st.fs } =
      results.foldl (keepResult env) st := by
  induction results generalizing st with
  | nil => rfl
  | cons result rest ih =>
      rw [List.foldl_cons, List.foldl_cons, List.foldl_cons, ← ih (keepResult env st result)]
      rfl

/-! ## The gate -/

def Done.chunk (d : Done) : Option String :=
  match d.rendered.report with
  | none => none
  | some report =>
      let findings := highSeverityFindings (.obj report.items)
      if findings.isEmpty then none
      else some (d.next.1 ++ ": " ++ String.intercalate ", " (findings.map (memberText · "title")))

/-- The gate lets the role through. -/
def Passes (env : RunEnv) (d : Done) : Prop :=
  env.settings.failOnHigh = true → d.chunk = none

theorem gateFailure_eq_none_iff {env : RunEnv} {strategy : String} {ds : List Done} :
    gateFailure env.settings.failOnHigh (ds.map (Done.result env strategy)) = none ↔
      ∀ d ∈ ds, Passes env d := by
  have hchunks : (ds.map (Done.result env strategy)).filterMap blockerChunk = [] ↔
      ∀ d ∈ ds, d.chunk = none := by
    rw [List.filterMap_map, List.filterMap_eq_nil_iff]
    rfl
  unfold gateFailure Passes
  dsimp only
  cases env.settings.failOnHigh with
  | false => simp
  | true =>
      simp only [true_and, forall_const]
      rw [← hchunks]
      split <;> simp_all

/-! ## One batch -/

/-- What the roles of a batch come to when each sees the same outputs. -/
def performed (env : RunEnv) (outputs : Dict String String) (batch : List Pending) : List Done :=
  batch.filterMap fun next => (performRole env outputs next).toOption

theorem mem_performed {env : RunEnv} {outputs : Dict String String} {batch : List Pending}
    {d : Done} :
    d ∈ performed env outputs batch ↔
      d.next ∈ batch ∧ performRole env outputs d.next = .ok d := by
  rw [performed, List.mem_filterMap]
  constructor
  · rintro ⟨next, hnext, hd⟩
    cases hperform : performRole env outputs next with
    | error message =>
        rw [hperform] at hd
        cases hd
    | ok done =>
        rw [hperform] at hd
        cases hd
        rw [performRole_next hperform]
        exact ⟨hnext, hperform⟩
  · rintro ⟨hnext, hd⟩
    exact ⟨d.next, hnext, by rw [hd]; rfl⟩

theorem performed_cons (env : RunEnv) (outputs : Dict String String) (next : Pending)
    (batch : List Pending) :
    performed env outputs (next :: batch) =
      match performRole env outputs next with
      | .ok d => d :: performed env outputs batch
      | .error _ => performed env outputs batch := by
  rw [performed, List.filterMap_cons]
  cases performRole env outputs next <;> rfl

theorem performed_sublist (env : RunEnv) (outputs : Dict String String) (batch : List Pending) :
    ((performed env outputs batch).map Done.next).Sublist batch := by
  induction batch with
  | nil => exact List.Sublist.refl _
  | cons next rest ih =>
      rw [performed_cons]
      cases h : performRole env outputs next with
      | error message => exact ih.cons _
      | ok d =>
          rw [List.map_cons, performRole_next h]
          exact ih.cons_cons _

theorem completedResults_eq (env : RunEnv) (outputs : Dict String String) (order : List Pending)
    (strategy : String) :
    completedResults (order.map fun next => (next, executeRole env strategy outputs next)) =
      (performed env outputs order).map (Done.result env strategy) := by
  rw [completedResults, List.filterMap_map, performed, List.map_filterMap]
  refine List.filterMap_congr fun next _ => ?_
  simp only [Function.comp_apply, executeRole_eq]
  cases performRole env outputs next <;> rfl

theorem failedOutcomes_eq_nil_iff (env : RunEnv) (outputs : Dict String String)
    (order : List Pending) (strategy : String) :
    failedOutcomes (order.map fun next => (next, executeRole env strategy outputs next)) = [] ↔
      ∀ next ∈ order, ∃ d, performRole env outputs next = .ok d := by
  rw [failedOutcomes, List.filterMap_map, List.filterMap_eq_nil_iff]
  refine forall₂_congr fun next _ => ?_
  simp only [Function.comp_apply, executeRole_eq]
  cases performRole env outputs next <;> simp [Except.map]

theorem performed_perm {env : RunEnv} {outputs : Dict String String} {order batch : List Pending}
    (h : order.Perm batch) : (performed env outputs order).Perm (performed env outputs batch) :=
  h.filterMap _

/-- Sorting by index undoes the order of completion. -/
theorem mergeSort_completed {env : RunEnv} {outputs : Dict String String} {batch order : List Pending}
    (hperm : order.Perm batch) (hsorted : batch.Pairwise fun p q => p.2 < q.2) (strategy : String) :
    ((performed env outputs order).map (Done.result env strategy)).mergeSort
        (fun p q => p.index ≤ q.index) =
      (performed env outputs batch).map (Done.result env strategy) := by
  set results := (performed env outputs batch).map (Done.result env strategy) with hresults
  have hstrict : results.Pairwise fun p q => p.index < q.index := by
    have hnext := hsorted.sublist (performed_sublist env outputs batch)
    rw [List.pairwise_map] at hnext ⊢
    exact hnext
  have hnodup : (results.map RoleResult.index).Nodup :=
    List.pairwise_map.mpr (hstrict.imp Nat.ne_of_lt)
  have hsame : ∀ p ∈ results, ∀ q ∈ results, p.index ≤ q.index → q.index ≤ p.index → p = q :=
    fun p hp q hq hle hge => List.inj_on_of_nodup_map hnodup hp hq (le_antisymm hle hge)
  have hmerge := List.mergeSort_perm ((performed env outputs order).map (Done.result env strategy))
    (fun p q => p.index ≤ q.index)
  have hall := hmerge.trans ((performed_perm hperm).map (Done.result env strategy))
  refine List.Perm.eq_of_pairwise (fun p q hp hq => hsame p (hall.subset hp) q hq) ?_
    (hstrict.imp Nat.le_of_lt) hall
  have hordered := @List.pairwise_mergeSort _ (fun p q : RoleResult => p.index ≤ q.index)
    (fun a b c => by simpa using Nat.le_trans) (fun a b => by simpa using Nat.le_total a.index b.index)
    ((performed env outputs order).map (Done.result env strategy))
  simpa using hordered

theorem foldl_writeResult_perm {env : RunEnv} {results results' : List RoleResult}
    (hperm : results.Perm results')
    (hdistinct : results'.Pairwise fun p q =>
      env.host.locate p.artifactPath ≠ env.host.locate q.artifactPath) (fs : FileSystem) :
    results.foldl (writeResult env) fs = results'.foldl (writeResult env) fs := by
  refine hperm.foldl_eq' (fun p hp q hq fs => ?_) fs
  by_cases hpq : p = q
  · rw [hpq]
  · have : Std.Symm fun p q : RoleResult =>
        env.host.locate p.artifactPath ≠ env.host.locate q.artifactPath := ⟨fun _ _ h => h.symm⟩
    exact FileSystem.write_comm fs
      (hdistinct.forall (hperm.subset hp) (hperm.subset hq) hpq) _ _

/-! ## Specialists -/

theorem specialist_plain {role : String} (h : isSpecialist role = true) :
    '/' ∉ role.toList ∧ role ≠ "architect" ∧ role ≠ "implementer" := by
  have hall : ∀ p ∈ specialistRoleInstructions,
      '/' ∉ p.1.toList ∧ p.1 ≠ "architect" ∧ p.1 ≠ "implementer" := by
    simp [specialistRoleInstructions]
  obtain ⟨p, hp, hrole⟩ := List.any_eq_true.mp h
  rw [← beq_iff_eq.mp hrole]
  exact hall p hp

theorem performRole_specialist {env : RunEnv} {outputs outputs' : Dict String String}
    {next : Pending} (hspecialist : isSpecialist next.1 = true)
    (harchitect : outputs.get? "architect" = outputs'.get? "architect")
    (himplementer : outputs.get? "implementer" = outputs'.get? "implementer") :
    performRole env outputs next = performRole env outputs' next :=
  performRole_congr (sameView_of_sections_eq
    (roleUpstreamSections_of_specialist hspecialist harchitect himplementer _))

def RunEnv.extension (env : RunEnv) : String := if env.inputs.enforceJson then "json" else "md"

theorem performRole_extension {env : RunEnv} {outputs : Dict String String} {next : Pending}
    {d : Done} (h : performRole env outputs next = .ok d) : d.rendered.extension = env.extension := by
  obtain ⟨model, output, rendered, -, -, hrendered, rfl⟩ := performRole_ok_iff.mp h
  unfold renderRoleOutput at hrendered
  unfold RunEnv.extension
  split at hrendered
  · rename_i hjson
    obtain ⟨report, -, rfl⟩ := Fallible.map_eq_ok_iff.mp hrendered
    rw [if_pos hjson]
  · rename_i hjson
    cases hrendered
    rw [if_neg hjson]

theorem extension_plain (env : RunEnv) :
    '/' ∉ env.extension.toList ∧ 1 < env.extension.toList.length := by
  unfold RunEnv.extension
  split <;> simp

theorem Done.location_of_plain {env : RunEnv} {outputs : Dict String String} {d : Done}
    (h : performRole env outputs d.next = .ok d) (hrole : '/' ∉ d.next.1.toList) :
    d.location env = env.host.locate env.settings.artifactsDir ++
      [(artifactName d.next.2 d.next.1 env.extension).toList] := by
  have hplain := extension_plain env
  rw [Done.location, Done.path, performRole_extension h]
  exact locate_plainName env.host env.settings.artifactsDir_ne_empty
    (plainName_artifactName _ hrole hplain.1 (by omega))

/-- Specialists of a batch write to files of their own. -/
theorem performed_locations_distinct {env : RunEnv} {outputs : Dict String String}
    {batch : List Pending} (hspecialists : ∀ p ∈ batch, isSpecialist p.1 = true)
    (hnodup : (batch.map Prod.fst).Nodup) :
    (performed env outputs batch).Pairwise fun d e => d.location env ≠ e.location env := by
  have hroles : (performed env outputs batch).Pairwise fun d e => d.next.1 ≠ e.next.1 := by
    have hsub := (performed_sublist env outputs batch).map Prod.fst
    have hnext := List.Nodup.sublist hsub hnodup
    rw [List.Nodup, List.pairwise_map, List.pairwise_map] at hnext
    exact hnext
  refine hroles.imp_of_mem fun {d e} hd he hne heq => hne ?_
  obtain ⟨hdmem, hdrole⟩ := mem_performed.mp hd
  obtain ⟨hemem, herole⟩ := mem_performed.mp he
  rw [Done.location_of_plain hdrole (specialist_plain (hspecialists _ hdmem)).1,
    Done.location_of_plain herole (specialist_plain (hspecialists _ hemem)).1] at heq
  have hnames := List.append_cancel_left heq
  rw [List.cons.injEq] at hnames
  exact role_of_artifactName_eq (String.toList_injective hnames.1)

/-! ## Runs -/

/-- Roles performed in order, each from the outputs so far, with none gated. -/
inductive RoleRun (env : RunEnv) : Dict String String → List Pending → List Done → Prop where
  | nil {outputs : Dict String String} : RoleRun env outputs [] []
  | cons {outputs : Dict String String} {next : Pending} {rest : List Pending} {d : Done}
      {ds : List Done} (hperform : performRole env outputs next = .ok d) (hpasses : Passes env d)
      (hrest : RoleRun env (outputs.set next.1 d.rendered.text) rest ds) :
      RoleRun env outputs (next :: rest) (d :: ds)

theorem RoleRun.append {env : RunEnv} {outputs : Dict String String} {left right : List Pending}
    {ds es : List Done} (hleft : RoleRun env outputs left ds)
    (hright : RoleRun env (ds.foldl (fun o d => o.set d.next.1 d.rendered.text) outputs) right es) :
    RoleRun env outputs (left ++ right) (ds ++ es) := by
  induction hleft with
  | nil => exact hright
  | cons hperform hpasses _ ih =>
      rw [List.foldl_cons, performRole_next hperform] at hright
      exact .cons hperform hpasses (ih hright)

theorem RoleRun.of_append {env : RunEnv} {outputs : Dict String String}
    {left right : List Pending} {ds : List Done} (h : RoleRun env outputs (left ++ right) ds) :
    ∃ front back, ds = front ++ back ∧ RoleRun env outputs left front ∧
      RoleRun env (front.foldl (fun o d => o.set d.next.1 d.rendered.text) outputs) right back := by
  induction left generalizing outputs ds with
  | nil => exact ⟨[], ds, rfl, .nil, h⟩
  | cons next rest ih =>
      cases h with
      | cons hperform hpasses hrest =>
          rename_i d es
          obtain ⟨front, back, rfl, hfront, hback⟩ := ih hrest
          refine ⟨d :: front, back, rfl, .cons hperform hpasses hfront, ?_⟩
          rwa [List.foldl_cons, performRole_next hperform]

/-- Specialists never read each other, so their run is a batch. -/
theorem roleRun_specialists_iff {env : RunEnv} {outputs seen : Dict String String}
    {batch : List Pending} {ds : List Done}
    (hspecialists : ∀ p ∈ batch, isSpecialist p.1 = true)
    (harchitect : outputs.get? "architect" = seen.get? "architect")
    (himplementer : outputs.get? "implementer" = seen.get? "implementer") :
    RoleRun env outputs batch ds ↔
      (∀ p ∈ batch, ∃ d, performRole env seen p = .ok d) ∧ ds = performed env seen batch ∧
        ∀ d ∈ ds, Passes env d := by
  induction batch generalizing outputs ds with
  | nil =>
      constructor
      · rintro ⟨⟩
        simp [performed]
      · rintro ⟨-, rfl, -⟩
        exact .nil
  | cons next rest ih =>
      rw [List.forall_mem_cons] at hspecialists
      have hplain := specialist_plain hspecialists.1
      have hsame := @performRole_specialist env _ _ _ hspecialists.1 harchitect himplementer
      have hrest : ∀ text es, RoleRun env (outputs.set next.1 text) rest es ↔
          (∀ p ∈ rest, ∃ d, performRole env seen p = .ok d) ∧ es = performed env seen rest ∧
            ∀ d ∈ es, Passes env d := by
        intro text es
        refine ih hspecialists.2 ?_ ?_
        · rw [Dict.get?_set_ne _ _ hplain.2.1, harchitect]
        · rw [Dict.get?_set_ne _ _ hplain.2.2, himplementer]
      rw [performed_cons, List.forall_mem_cons]
      constructor
      · rintro (_ | ⟨hperform, hpasses, hrun⟩)
        obtain ⟨hall, rfl, hpass⟩ := (hrest _ _).mp hrun
        rw [hsame] at hperform
        rw [hperform]
        exact ⟨⟨⟨_, rfl⟩, hall⟩, rfl, List.forall_mem_cons.mpr ⟨hpasses, hpass⟩⟩
      · rintro ⟨⟨⟨d, hd⟩, hall⟩, hds, hpass⟩
        rw [hd] at hds
        subst hds
        rw [List.forall_mem_cons] at hpass
        exact .cons (hsame.trans hd) hpass.1 ((hrest _ _).mpr ⟨hall, rfl, hpass.2⟩)

/-! ## Turns -/

section
variable {env : RunEnv}

theorem maybeGatePipeline_ok_iff {st st' : RunState} {strategy : String} {ds : List Done} :
    maybeGatePipeline env st (ds.map (Done.result env strategy)) = .ok st' ↔
      (∀ d ∈ ds, Passes env d) ∧ st' = st := by
  rw [← @gateFailure_eq_none_iff _ strategy]
  unfold maybeGatePipeline
  cases gateFailure env.settings.failOnHigh (ds.map (Done.result env strategy)) with
  | none => simp [eq_comm]
  | some failure => simp

theorem maybeGatePipeline_error {st : RunState} {results : List RoleResult} {halt : Halt}
    (h : maybeGatePipeline env st results = .error halt) :
    ∃ ending, ending.status = "failed" ∧ halt = haltWith env st ending := by
  unfold maybeGatePipeline at h
  split at h
  · cases h
  · cases h
    exact ⟨_, rfl, rfl⟩

theorem runSerial_ok_iff {st st' : RunState} {next : Pending}
    (hserial : strategyOf env next.1 = "serial") :
    runSerial env st next = .ok st' ↔
      ∃ d, performRole env st.outputs next = .ok d ∧ Passes env d ∧ st' = keepDone env st d := by
  unfold runSerial
  rw [executeRole_eq]
  cases hperform : performRole env st.outputs next with
  | error message => simp [Except.map]
  | ok d =>
      have hkeep : keepDone env st d = keepResult env st (d.result env "serial") := by
        rw [keepDone, performRole_next hperform, hserial]
      have hgate := @maybeGatePipeline_ok_iff env (keepDone env st d) st' "serial" [d]
      rw [hkeep] at hgate
      simp only [Except.map, Except.ok.injEq, exists_eq_left', hkeep]
      simpa [keepResult] using hgate

theorem runSerial_error {st : RunState} {next : Pending} {halt : Halt}
    (hserial : strategyOf env next.1 = "serial") (h : runSerial env st next = .error halt) :
    ∃ ending, ending.status = "failed" ∧
      halt = haltWith env ((performed env st.outputs [next]).foldl (keepDone env) st) ending := by
  unfold runSerial at h
  rw [executeRole_eq] at h
  rw [performed_cons]
  cases hperform : performRole env st.outputs next with
  | error message =>
      rw [hperform] at h
      cases h
      exact ⟨_, rfl, rfl⟩
  | ok d =>
      rw [hperform] at h
      obtain ⟨ending, hstatus, hhalt⟩ := maybeGatePipeline_error h
      refine ⟨ending, hstatus, ?_⟩
      rw [hhalt, show performed env st.outputs [] = [] from rfl, List.foldl_cons, List.foldl_nil,
        keepDone, performRole_next hperform, hserial]
      rfl

variable {batch : List Pending} (hspecialists : ∀ p ∈ batch, isSpecialist p.1 = true)
  (hsorted : batch.Pairwise fun p q => p.2 < q.2) (hnodup : (batch.map Prod.fst).Nodup)
  (hparallel : env.settings.parallelSpecialists = true)

include hspecialists hparallel in
theorem strategyOf_batch : ∀ p ∈ batch, strategyOf env p.1 = "parallel" := by
  intro p hp
  rw [strategyOf, hparallel, hspecialists p hp]
  rfl

include hspecialists hparallel in
theorem foldl_keepResult_batch (st : RunState) (outputs : Dict String String) :
    ((performed env outputs batch).map (Done.result env "parallel")).foldl (keepResult env) st =
      (performed env outputs batch).foldl (keepDone env) st := by
  rw [List.foldl_map]
  refine List.foldl_ext _ _ _ fun st d hd => ?_
  rw [keepDone, strategyOf_batch hspecialists hparallel _ (mem_performed.mp hd).1]

include hspecialists hsorted hnodup hparallel in
/-- The batch's results are applied as if its roles had run one after another. -/
theorem batch_applied (st : RunState) :
    (((completedResults (batchOutcomes env st batch)).mergeSort fun p q => p.index ≤ q.index).foldl
        (applyRoleResult env)
        { st with
          fs := (completedResults (batchOutcomes env st batch)).foldl (writeResult env) st.fs }) =
      (performed env st.outputs batch).foldl (keepDone env) st := by
  have hperm := env.request.completionOrder_perm batch
  have hdistinct : ((performed env st.outputs batch).map (Done.result env "parallel")).Pairwise
      fun p q => env.host.locate p.artifactPath ≠ env.host.locate q.artifactPath := by
    rw [List.pairwise_map]
    exact performed_locations_distinct hspecialists hnodup
  have hwrites := foldl_writeResult_perm
    ((@performed_perm env st.outputs _ _ hperm).map (Done.result env "parallel"))
    hdistinct st.fs
  rw [batchOutcomes, completedResults_eq, mergeSort_completed hperm hsorted, hwrites,
    foldl_apply_eq, foldl_keepResult_batch hspecialists hparallel]

include hspecialists hsorted hnodup hparallel in
theorem runBatch_ok_iff {st st' : RunState} :
    runBatch env st batch = .ok st' ↔
      ∃ ds, RoleRun env st.outputs batch ds ∧ st' = ds.foldl (keepDone env) st := by
  have hperm := env.request.completionOrder_perm batch
  simp only [roleRun_specialists_iff hspecialists rfl rfl]
  unfold runBatch
  dsimp only
  rw [batch_applied hspecialists hsorted hnodup hparallel]
  have hresults : (completedResults (batchOutcomes env st batch)).mergeSort
      (fun p q => p.index ≤ q.index) =
        (performed env st.outputs batch).map (Done.result env "parallel") := by
    rw [batchOutcomes, completedResults_eq, mergeSort_completed hperm hsorted]
  rw [hresults]
  have hfailures : ((failedOutcomes (batchOutcomes env st batch)).mergeSort
      fun p q => p.1.2 ≤ q.1.2).isEmpty = true ↔
        ∀ p ∈ batch, ∃ d, performRole env st.outputs p = .ok d := by
    rw [List.isEmpty_iff, ← List.length_eq_zero_iff, List.length_mergeSort,
      List.length_eq_zero_iff, batchOutcomes, failedOutcomes_eq_nil_iff]
    exact ⟨fun h p hp => h p (hperm.symm.subset hp), fun h p hp => h p (hperm.subset hp)⟩
  split
  · rename_i hempty
    rw [maybeGatePipeline_ok_iff]
    constructor
    · rintro ⟨hpass, rfl⟩
      exact ⟨_, ⟨hfailures.mp hempty, rfl, hpass⟩, rfl⟩
    · rintro ⟨ds, ⟨-, rfl, hpass⟩, rfl⟩
      exact ⟨hpass, rfl⟩
  · rename_i hempty
    simp only [reduceCtorEq, false_iff, not_exists, not_and]
    rintro ds ⟨hall, -⟩
    exact absurd (hfailures.mpr hall) hempty

include hspecialists hsorted hnodup hparallel in
theorem runBatch_error {st : RunState} {halt : Halt} (h : runBatch env st batch = .error halt) :
    ∃ ending, ending.status = "failed" ∧
      halt = haltWith env ((performed env st.outputs batch).foldl (keepDone env) st) ending := by
  unfold runBatch at h
  dsimp only at h
  rw [batch_applied hspecialists hsorted hnodup hparallel] at h
  split at h
  · exact maybeGatePipeline_error h
  · rw [Except.error.injEq] at h
    exact ⟨_, rfl, h.symm⟩

end

/-! ## The whole run -/

theorem outputs_foldl_keepDone (env : RunEnv) (st : RunState) (ds : List Done) :
    (ds.foldl (keepDone env) st).outputs =
      ds.foldl (fun outputs d => outputs.set d.next.1 d.rendered.text) st.outputs := by
  induction ds generalizing st with
  | nil => rfl
  | cons d ds ih => exact ih (keepDone env st d)

/-- What a run's state holds after its performed roles. -/
theorem foldl_keepDone (env : RunEnv) (st : RunState) (ds : List Done) :
    let after := ds.foldl (keepDone env) st
    after.outputs = st.outputs.update (ds.map fun d => (d.next.1, d.rendered.text)) ∧
      after.artifacts = st.artifacts.update (ds.map fun d => (d.next.1, d.path env)) ∧
      after.models = st.models.update (ds.map fun d => (d.next.1, d.call.model)) ∧
      after.execution = st.execution ++ ds.map (fun d => executionRecord
        (env.request.stamps d.next.1) d.next.1 d.call.model (d.path env)
        (strategyOf env d.next.1)) ∧
      after.calls = st.calls ++ ds.map Done.call ∧
      after.written = st.written ++ ds.map fun d => (d.next.1, d.location env) := by
  induction ds generalizing st with
  | nil => simp [Dict.update]
  | cons d ds ih =>
      obtain ⟨houtputs, hartifacts, hmodels, hexecution, hcalls, hwritten⟩ := ih (keepDone env st d)
      refine ⟨houtputs, hartifacts, hmodels, ?_, ?_, ?_⟩
      · rw [List.foldl_cons, hexecution, keepDone_execution, List.append_assoc]
        rfl
      · rw [List.foldl_cons, hcalls, keepDone_calls, List.append_assoc]
        rfl
      · rw [List.foldl_cons, hwritten, keepDone_written, List.append_assoc]
        rfl

/-- Roles performed at some time, in the order of the pending ones. -/
def Performed (env : RunEnv) (pending : List Pending) (ds : List Done) : Prop :=
  (ds.map Done.next).Sublist pending ∧
    ∀ d ∈ ds, ∃ outputs, performRole env outputs d.next = .ok d

theorem Performed.append {env : RunEnv} {left right : List Pending} {ds es : List Done}
    (hds : Performed env left ds) (hes : Performed env right es) :
    Performed env (left ++ right) (ds ++ es) := by
  constructor
  · rw [List.map_append]
    exact hds.1.append hes.1
  · intro d hd
    rcases List.mem_append.mp hd with hd | hd
    · exact hds.2 d hd
    · exact hes.2 d hd

theorem performed_performed (env : RunEnv) (outputs : Dict String String) (batch : List Pending) :
    Performed env batch (performed env outputs batch) :=
  ⟨performed_sublist env outputs batch, fun _ hd => ⟨outputs, (mem_performed.mp hd).2⟩⟩

theorem RoleRun.map_next {env : RunEnv} {outputs : Dict String String} {pending : List Pending}
    {ds : List Done} (h : RoleRun env outputs pending ds) : ds.map Done.next = pending := by
  induction h with
  | nil => rfl
  | cons hperform _ _ ih => rw [List.map_cons, performRole_next hperform, ih]

theorem RoleRun.performed {env : RunEnv} {outputs : Dict String String} {pending : List Pending}
    {ds : List Done} (h : RoleRun env outputs pending ds) : Performed env pending ds := by
  refine ⟨h.map_next ▸ List.Sublist.refl _, ?_⟩
  induction h with
  | nil => simp
  | cons hperform _ _ ih =>
      rw [List.forall_mem_cons]
      rw [← performRole_next hperform] at hperform
      exact ⟨⟨_, hperform⟩, ih⟩

theorem RoleRun.passes {env : RunEnv} {outputs : Dict String String} {pending : List Pending}
    {ds : List Done} (h : RoleRun env outputs pending ds) : ∀ d ∈ ds, Passes env d := by
  induction h with
  | nil => simp
  | cons _ hpasses _ ih => exact List.forall_mem_cons.mpr ⟨hpasses, ih⟩

theorem Performed.of_left {env : RunEnv} {left right : List Pending} {ds : List Done}
    (h : Performed env left ds) : Performed env (left ++ right) ds :=
  ⟨h.1.trans (List.sublist_append_left left right), h.2⟩

@[simp] theorem runTurns_nil (env : RunEnv) (st : RunState) : runTurns env st [] = .ok st := by
  rw [runTurns, turns]
  rfl

theorem runTurns_cons (env : RunEnv) (st : RunState) (next : Pending) (rest : List Pending) :
    runTurns env st (next :: rest) =
      if env.settings.parallelSpecialists && isSpecialist next.1 then
        runBatch env st (next :: rest.takeWhile (isSpecialist ·.1)) >>= fun st =>
          runTurns env st (rest.dropWhile (isSpecialist ·.1))
      else runSerial env st next >>= fun st => runTurns env st rest := by
  unfold runTurns
  rw [turns]
  split <;> rfl

section
variable {env : RunEnv}

/-- The batch at the head of the pending roles, with what is left. -/
theorem batch_split {next : Pending} {rest : List Pending}
    (hnext : isSpecialist next.1 = true) (hsorted : (next :: rest).Pairwise fun p q => p.2 < q.2)
    (hnodup : ((next :: rest).map Prod.fst).Nodup) :
    let batch := next :: rest.takeWhile (isSpecialist ·.1)
    let left := rest.dropWhile (isSpecialist ·.1)
    next :: rest = batch ++ left ∧ (∀ p ∈ batch, isSpecialist p.1 = true) ∧
      (batch.Pairwise fun p q => p.2 < q.2) ∧ (batch.map Prod.fst).Nodup ∧
      (left.Pairwise fun p q => p.2 < q.2) ∧ (left.map Prod.fst).Nodup := by
  intro batch left
  have hsplit : next :: rest = batch ++ left := by
    simp [batch, left, List.takeWhile_append_dropWhile]
  have hbatch : batch.Sublist (next :: rest) := hsplit ▸ List.sublist_append_left batch left
  have hleft : left.Sublist (next :: rest) := hsplit ▸ List.sublist_append_right batch left
  refine ⟨hsplit, ?_, hsorted.sublist hbatch, hnodup.sublist (hbatch.map _),
    hsorted.sublist hleft, hnodup.sublist (hleft.map _)⟩
  intro p hp
  rcases List.mem_cons.mp hp with rfl | hp
  · exact hnext
  · exact List.mem_takeWhile_imp (p := fun q : Pending => isSpecialist q.1) hp

/-- A run that is not stopped performs its roles in order, in either mode. -/
theorem runTurns_ok_iff {st st' : RunState} {pending : List Pending}
    (hsorted : pending.Pairwise fun p q => p.2 < q.2) (hnodup : (pending.map Prod.fst).Nodup) :
    runTurns env st pending = .ok st' ↔
      ∃ ds, RoleRun env st.outputs pending ds ∧ st' = ds.foldl (keepDone env) st := by
  induction pending using turns.induct env.settings.parallelSpecialists generalizing st with
  | case1 =>
      rw [runTurns_nil, Except.ok.injEq]
      constructor
      · rintro rfl
        exact ⟨[], .nil, rfl⟩
      · rintro ⟨ds, ⟨⟩, rfl⟩
        rfl
  | case2 next rest hbatch ih =>
      rw [Bool.and_eq_true] at hbatch
      obtain ⟨hsplit, hspecialists, hsortedB, hnodupB, hsortedL, hnodupL⟩ :=
        batch_split hbatch.2 hsorted hnodup
      rw [runTurns_cons, if_pos (by simp [hbatch]), Fallible.bind_eq_ok_iff]
      simp only [runBatch_ok_iff hspecialists hsortedB hnodupB hbatch.1, ih hsortedL hnodupL]
      constructor
      · rintro ⟨-, ⟨front, hfront, rfl⟩, back, hback, rfl⟩
        rw [outputs_foldl_keepDone] at hback
        refine ⟨front ++ back, ?_, by rw [List.foldl_append]⟩
        rw [hsplit]
        exact hfront.append hback
      · rintro ⟨ds, hrun, rfl⟩
        rw [hsplit] at hrun
        obtain ⟨front, back, rfl, hfront, hback⟩ := hrun.of_append
        rw [← outputs_foldl_keepDone] at hback
        exact ⟨_, ⟨front, hfront, rfl⟩, back, hback, List.foldl_append⟩
  | case3 next rest hserial ih =>
      rw [List.pairwise_cons] at hsorted
      rw [List.map_cons, List.nodup_cons] at hnodup
      have hstrategy : strategyOf env next.1 = "serial" := if_neg hserial
      rw [runTurns_cons, if_neg hserial, Fallible.bind_eq_ok_iff]
      simp only [runSerial_ok_iff hstrategy, ih hsorted.2 hnodup.2]
      constructor
      · rintro ⟨-, ⟨d, hperform, hpasses, rfl⟩, ds, hrun, rfl⟩
        refine ⟨d :: ds, .cons hperform hpasses ?_, rfl⟩
        rwa [← performRole_next hperform]
      · rintro ⟨ds, hrun, rfl⟩
        cases hrun with
        | @cons _ _ _ d es hperform hpasses hrest =>
            rw [← performRole_next hperform] at hrest
            exact ⟨_, ⟨d, hperform, hpasses, rfl⟩, es, hrest, List.foldl_cons⟩

/-- A run that is stopped has failed with what it performed until then on disk. -/
theorem runTurns_error {st : RunState} {pending : List Pending} {halt : Halt}
    (hsorted : pending.Pairwise fun p q => p.2 < q.2) (hnodup : (pending.map Prod.fst).Nodup)
    (h : runTurns env st pending = .error halt) :
    ∃ ds ending, Performed env pending ds ∧ ending.status = "failed" ∧
      halt = haltWith env (ds.foldl (keepDone env) st) ending := by
  induction pending using turns.induct env.settings.parallelSpecialists generalizing st with
  | case1 =>
      rw [runTurns_nil] at h
      cases h
  | case2 next rest hbatch ih =>
      rw [Bool.and_eq_true] at hbatch
      obtain ⟨hsplit, hspecialists, hsortedB, hnodupB, hsortedL, hnodupL⟩ :=
        batch_split hbatch.2 hsorted hnodup
      rw [runTurns_cons, if_pos (by simp [hbatch])] at h
      cases hrun : runBatch env st (next :: rest.takeWhile (isSpecialist ·.1)) with
      | error stopped =>
          rw [hrun] at h
          cases h
          obtain ⟨ending, hstatus, hhalt⟩ :=
            runBatch_error hspecialists hsortedB hnodupB hbatch.1 hrun
          have hperformed := performed_performed env st.outputs
            (next :: rest.takeWhile (isSpecialist ·.1))
          exact ⟨_, ending, hsplit ▸ hperformed.of_left, hstatus, hhalt⟩
      | ok st' =>
          rw [hrun] at h
          obtain ⟨front, hfront, rfl⟩ :=
            (runBatch_ok_iff hspecialists hsortedB hnodupB hbatch.1).mp hrun
          obtain ⟨back, ending, hback, hstatus, hhalt⟩ := ih hsortedL hnodupL h
          refine ⟨front ++ back, ending, ?_, hstatus, by rw [hhalt, List.foldl_append]⟩
          rw [hsplit]
          exact hfront.performed.append hback
  | case3 next rest hserial ih =>
      rw [List.pairwise_cons] at hsorted
      rw [List.map_cons, List.nodup_cons] at hnodup
      have hstrategy : strategyOf env next.1 = "serial" := if_neg hserial
      rw [runTurns_cons, if_neg hserial] at h
      cases hrun : runSerial env st next with
      | error stopped =>
          rw [hrun] at h
          cases h
          obtain ⟨ending, hstatus, hhalt⟩ := runSerial_error hstrategy hrun
          have hperformed := performed_performed env st.outputs [next]
          exact ⟨_, ending, hperformed.of_left, hstatus, hhalt⟩
      | ok st' =>
          rw [hrun] at h
          obtain ⟨d, hperform, hpasses, rfl⟩ := (runSerial_ok_iff hstrategy).mp hrun
          obtain ⟨ds, ending, hds, hstatus, hhalt⟩ := ih hsorted.2 hnodup.2 h
          have hrun : RoleRun env st.outputs [next] [d] := .cons hperform hpasses .nil
          exact ⟨d :: ds, ending, hrun.performed.append hds, hstatus, hhalt⟩

end

/-- A role of its own turn that is gated stops the run. -/
theorem runTurns_of_gated {env : RunEnv} {st : RunState} {next : Pending} {rest : List Pending}
    {d : Done} (hserial : strategyOf env next.1 = "serial")
    (hperform : performRole env st.outputs next = .ok d) (hgated : ¬ Passes env d) :
    ∃ failure, runTurns env st (next :: rest) =
      .error (haltWith env (keepDone env st d) { status := "failed", failure := some failure }) := by
  have hturn : ¬ (env.settings.parallelSpecialists && isSpecialist next.1) = true := by
    intro hbatch
    rw [strategyOf, if_pos hbatch] at hserial
    contradiction
  have hkeep : keepDone env st d = keepResult env st (d.result env "serial") := by
    rw [keepDone, performRole_next hperform, hserial]
  have hgate : gateFailure env.settings.failOnHigh [d.result env "serial"] ≠ none := by
    intro hnone
    have hall := (@gateFailure_eq_none_iff _ _ [d]).mp hnone
    exact hgated (hall d (List.mem_singleton_self d))
  obtain ⟨failure, hfailure⟩ := Option.ne_none_iff_exists'.mp hgate
  refine ⟨failure, ?_⟩
  have hstop : runSerial env st next =
      .error (haltWith env (keepDone env st d) { status := "failed", failure := some failure }) := by
    rw [runSerial, executeRole_eq, hperform, hkeep]
    simp only [Except.map, maybeGatePipeline, hfailure]
    rfl
  rw [runTurns_cons, if_neg hturn, hstop]
  rfl

/-! ## The roles of a call -/

theorem pendingRoles_sorted (s : RunSettings) (startIndex : Nat) :
    (pendingRoles s startIndex).Pairwise fun p q => p.2 < q.2 := by
  have hindices : ((s.roleOrder.zipIdx 1).map Prod.snd).Pairwise (· < ·) := by
    rw [List.zipIdx_map_snd]
    exact List.pairwise_lt_range'
  exact (List.pairwise_map.mp hindices).sublist (List.drop_sublist _ _)

theorem map_fst_pendingRoles (s : RunSettings) (startIndex : Nat) :
    (pendingRoles s startIndex).map Prod.fst = s.roleOrder.drop startIndex := by
  rw [pendingRoles, List.map_drop, List.zipIdx_map_fst]

theorem pendingRoles_nodup (s : RunSettings) (startIndex : Nat) :
    ((pendingRoles s startIndex).map Prod.fst).Nodup := by
  rw [map_fst_pendingRoles]
  exact s.roleOrder_nodup.sublist (List.drop_sublist _ _)

section
variable {host : Host} {s : RunSettings} {request : RunRequest} {fs : FileSystem}

theorem runRoles_ok_iff {env : RunEnv} {st : RunState} :
    runRoles host s request fs = .ok (env, st) ↔
      ∃ resume ds, startRun host s request fs = .ok (env, resume) ∧
        RoleRun env resume.state.outputs (pendingRoles s resume.startIndex) ds ∧
        st = ds.foldl (keepDone env) resume.state := by
  unfold runRoles
  rw [Fallible.bind_eq_ok_iff]
  constructor
  · rintro ⟨⟨env', resume⟩, hstart, h⟩
    obtain ⟨st', hturns, h⟩ := Fallible.bind_eq_ok_iff.mp h
    cases h
    obtain ⟨ds, hrun, rfl⟩ := (runTurns_ok_iff (pendingRoles_sorted s _)
      (pendingRoles_nodup s _)).mp hturns
    exact ⟨resume, ds, hstart, hrun, rfl⟩
  · rintro ⟨resume, ds, hstart, hrun, rfl⟩
    refine ⟨(env, resume), hstart, ?_⟩
    have hturns := (@runTurns_ok_iff env resume.state _ _ (pendingRoles_sorted s _)
      (pendingRoles_nodup s _)).mpr ⟨ds, hrun, rfl⟩
    simp only [hturns]
    rfl

theorem runRoles_of_stopped {env : RunEnv} {resume : Resume} {halt : Halt}
    (hstart : startRun host s request fs = .ok (env, resume))
    (hturns : runTurns env resume.state (pendingRoles s resume.startIndex) = .error halt) :
    runRoles host s request fs = .error halt := by
  unfold runRoles
  simp only [hstart, bind, Except.bind, hturns]

/-- A call that fails has failed in its prologue or been stopped in its turns. -/
theorem runRoles_error {halt : Halt} (h : runRoles host s request fs = .error halt) :
    startRun host s request fs = .error halt ∨
      ∃ env resume ds ending, startRun host s request fs = .ok (env, resume) ∧
        Performed env (pendingRoles s resume.startIndex) ds ∧ ending.status = "failed" ∧
        halt = haltWith env (ds.foldl (keepDone env) resume.state) ending := by
  unfold runRoles at h
  cases hstart : startRun host s request fs with
  | error stopped =>
      rw [hstart] at h
      cases h
      exact .inl rfl
  | ok started =>
      obtain ⟨env, resume⟩ := started
      rw [hstart] at h
      cases hturns : runTurns env resume.state (pendingRoles s resume.startIndex) with
      | error stopped =>
          simp only [bind, Except.bind, hturns, Except.error.injEq] at h
          subst h
          obtain ⟨ds, ending, hds, hstatus, hhalt⟩ := runTurns_error (pendingRoles_sorted s _)
            (pendingRoles_nodup s _) hturns
          exact .inr ⟨env, resume, ds, ending, rfl, hds, hstatus, hhalt⟩
      | ok st => simp [bind, Except.bind, hturns, pure, Except.pure] at h

end

end TruePresenceESE.Ese
