import Mathlib

/-! # Isolation of runs

A machine takes operations one after the other and answers each. Some operations are
visible to an observer. Where hidden operations preserve what the observer's view of the
state is, and visible ones answer and act by that view, the visible answers of a run are
those of the run without the hidden operations.
-/

namespace Isolation

variable {State Op Output : Type*}

section
variable (step : State → Op → Output × State)

def run (s : State) (ops : List Op) : State := ops.foldl (fun s op => (step s op).2) s

/-- The operations of a run with their answers. -/
def trace : State → List Op → List (Op × Output)
  | _, [] => []
  | s, op :: rest => (op, (step s op).1) :: trace (step s op).2 rest

/-- `Valid` says of a state that the operations to come suit it. -/
structure Unwinds (visible : Op → Bool) (Valid : State → List Op → Prop)
    (Same : State → State → Prop) : Prop where
  valid_step : ∀ {s op rest}, Valid s (op :: rest) → Valid (step s op).2 rest
  visible_step : ∀ {s t op rest rest'}, visible op = true → Valid s (op :: rest) →
    Valid t (op :: rest') → Same s t →
      (step s op).1 = (step t op).1 ∧ Same (step s op).2 (step t op).2
  hidden_step : ∀ {s t op rest}, visible op = false → Valid s (op :: rest) → Same s t →
    Same (step s op).2 t

end

variable {step : State → Op → Output × State} {visible : Op → Bool}
  {Valid : State → List Op → Prop} {Same : State → State → Prop} {s t : State} {ops : List Op}

/-- The visible part of a run is a run of its own. -/
theorem Unwinds.trace_filter (h : Unwinds step visible Valid Same) (hs : Valid s ops)
    (ht : Valid t (ops.filter visible)) (hsame : Same s t) :
    (trace step s ops).filter (fun answered => visible answered.1) =
      trace step t (ops.filter visible) := by
  induction ops generalizing s t with
  | nil => rfl
  | cons op rest ih =>
      cases hvisible : visible op with
      | true =>
          rw [List.filter_cons_of_pos hvisible] at ht ⊢
          obtain ⟨hanswer, hnext⟩ := h.visible_step hvisible hs ht hsame
          have hrest := ih (h.valid_step hs) (h.valid_step ht) hnext
          simp only [trace]
          rw [List.filter_cons_of_pos (by exact hvisible), hrest, hanswer]
      | false =>
          rw [List.filter_cons_of_neg (by simp [hvisible])] at ht ⊢
          have hrest := ih (h.valid_step hs) ht (h.hidden_step hvisible hs hsame)
          rw [trace, List.filter_cons_of_neg (by simp [hvisible]), hrest]

/-- What every step preserves, a run preserves. -/
theorem run_invariant {P : State → Prop} (hstep : ∀ s op, P s → P (step s op).2) (hs : P s) :
    P (run step s ops) := by
  induction ops generalizing s with
  | nil => exact hs
  | cons op rest ih => exact ih (hstep s op hs)

theorem trace_split {before after : List (Op × Output)} {call : Op × Output}
    (h : trace step s ops = before ++ call :: after) :
    ∃ done op rest, ops = done ++ op :: rest ∧ before = trace step s done ∧
      call = (op, (step (run step s done) op).1) := by
  induction before generalizing s ops with
  | nil =>
      cases ops with
      | nil => cases h
      | cons op rest =>
          rw [trace, List.nil_append, List.cons.injEq] at h
          exact ⟨[], op, rest, rfl, rfl, h.1.symm⟩
  | cons first before ih =>
      cases ops with
      | nil => cases h
      | cons op rest =>
          rw [trace, List.cons_append, List.cons.injEq] at h
          obtain ⟨done, next, rest, rfl, hbefore, hcall⟩ := ih h.2
          exact ⟨op :: done, next, rest, rfl, by rw [trace, h.1, hbefore], hcall⟩

theorem trace_append (done rest : List Op) : trace step s (done ++ rest) =
    trace step s done ++ trace step (run step s done) rest := by
  induction done generalizing s with
  | nil => rfl
  | cons op done ih =>
      rw [List.cons_append, trace, trace, ih]
      rfl

/-- An invariant of the state, the calls answered and the operations to come. -/
theorem trace_invariant {P : List (Op × Output) → State → List Op → Prop}
    (hstep : ∀ calls s op rest, P calls s (op :: rest) →
      P (calls ++ [(op, (step s op).1)]) (step s op).2 rest) {calls : List (Op × Output)}
    {done rest : List Op} (hs : P calls s (done ++ rest)) :
    P (calls ++ trace step s done) (run step s done) rest := by
  induction done generalizing s calls with
  | nil => simpa [trace, run] using hs
  | cons op done ih =>
      have hnext := ih (hstep calls s op (done ++ rest) hs)
      rw [List.append_assoc] at hnext
      exact hnext

/-! ## Two machines side by side -/

/-- Every operation meets a condition on the state it finds. -/
def AlongRun (step : State → Op → Output × State) (Meets : State → Op → Prop) :
    State → List Op → Prop
  | _, [] => True
  | s, op :: rest => Meets s op ∧ AlongRun step Meets (step s op).2 rest

variable {Meets : State → Op → Prop}

instance AlongRun.decidable [∀ s op, Decidable (Meets s op)] :
    (s : State) → (ops : List Op) → Decidable (AlongRun step Meets s ops)
  | _, [] => isTrue trivial
  | s, op :: rest =>
      have := AlongRun.decidable (step s op).2 rest
      inferInstanceAs (Decidable (Meets s op ∧ AlongRun step Meets (step s op).2 rest))

theorem alongRun_append {done rest : List Op} : AlongRun step Meets s (done ++ rest) ↔
    AlongRun step Meets s done ∧ AlongRun step Meets (run step s done) rest := by
  induction done generalizing s with
  | nil => simp [AlongRun, run]
  | cons op done ih => simp only [List.cons_append, AlongRun, ih, and_assoc]; rfl

/-- What every step that meets the condition preserves, such a run preserves. -/
theorem alongRun_invariant {P : State → Prop}
    (hstep : ∀ s op, P s → Meets s op → P (step s op).2) (hs : P s)
    (hops : AlongRun step Meets s ops) : P (run step s ops) := by
  induction ops generalizing s with
  | nil => exact hs
  | cons op rest ih => exact ih (hstep s op hs hops.1) hops.2

/-- What the operations of a run gain together. -/
def gainAlong (step : State → Op → Output × State) (gain : State → Op → ℕ) : State → List Op → ℕ
  | _, [] => 0
  | s, op :: rest => gain s op + gainAlong step gain (step s op).2 rest

/-- A measure that each step raises by its gain. -/
theorem measure_run (measure : State → ℕ) {gain : State → Op → ℕ}
    (hstep : ∀ s op, measure (step s op).2 = measure s + gain s op) (s : State) (ops : List Op) :
    measure (run step s ops) = measure s + gainAlong step gain s ops := by
  induction ops generalizing s with
  | nil => rfl
  | cons op rest ih =>
      have hrest := ih (step s op).2
      rw [hstep] at hrest
      rw [run, List.foldl_cons, gainAlong, ← Nat.add_assoc]
      exact hrest

theorem gainAlong_add {gain gain' : State → Op → ℕ} :
    gainAlong step (fun s op => gain s op + gain' s op) s ops =
      gainAlong step gain s ops + gainAlong step gain' s ops := by
  induction ops generalizing s with
  | nil => rfl
  | cons op rest ih =>
      rw [gainAlong, gainAlong, gainAlong, ih]
      omega

theorem gainAlong_eq_zero_iff {gain : State → Op → ℕ} : gainAlong step gain s ops = 0 ↔
    AlongRun step (fun s op => gain s op = 0) s ops := by
  induction ops generalizing s with
  | nil => simp [gainAlong, AlongRun]
  | cons op rest ih => rw [gainAlong, AlongRun, Nat.add_eq_zero_iff, ih]

/-- Machines that answer alike and stay related give one trace. -/
theorem trace_eq_of_related {State' : Type*} {step' : State' → Op → Output × State'}
    {Related : State → State' → Prop} {s' : State'}
    (hstep : ∀ s s' op, Related s s' → Meets s op →
      (step s op).1 = (step' s' op).1 ∧ Related (step s op).2 (step' s' op).2)
    (hs : Related s s') (hops : AlongRun step Meets s ops) :
    trace step s ops = trace step' s' ops ∧ Related (run step s ops) (run step' s' ops) := by
  induction ops generalizing s s' with
  | nil => exact ⟨rfl, hs⟩
  | cons op rest ih =>
      obtain ⟨hanswer, hnext⟩ := hstep s s' op hs hops.1
      obtain ⟨htrace, hrun⟩ := ih hnext hops.2
      exact ⟨by rw [trace, trace, hanswer, htrace], hrun⟩

/-- Machines whose answers look alike exactly at the steps that meet the condition, and that
stay related there, look alike over a run exactly where each of its steps meets it. -/
theorem trace_looks_alike_iff {State' Output' View : Type*}
    {step' : State' → Op → Output' × State'} {Related : State → State' → Prop} {s' : State'}
    {look : Output → View} {look' : Output' → View}
    (hanswer : ∀ s s' op, Related s s' →
      (look (step s op).1 = look' (step' s' op).1 ↔ Meets s op))
    (hnext : ∀ s s' op, Related s s' → Meets s op → Related (step s op).2 (step' s' op).2)
    (hs : Related s s') :
    (trace step s ops).map (fun call => look call.2) =
        (trace step' s' ops).map (fun call => look' call.2) ↔ AlongRun step Meets s ops := by
  induction ops generalizing s s' with
  | nil => exact ⟨fun _ => trivial, fun _ => rfl⟩
  | cons op rest ih =>
      simp only [trace, List.map_cons, List.cons.injEq, AlongRun]
      rw [hanswer s s' op hs]
      exact and_congr_right fun hmeets => ih (hnext s s' op hs hmeets)

end Isolation
