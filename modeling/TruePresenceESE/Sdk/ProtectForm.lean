import TruePresenceESE.Sdk.TypingCorrections

/-! # Forms that are protected again

Protecting a form finds the state of a field that is tracked already, but attaches its
listeners anew. A page is compared with one on which every field and every form keeps the
listeners of its first registration.
-/

namespace TruePresenceESE.Sdk.Typing

open Collector

/-! ## Pages -/

/-- A field of a form that is eligible for tracking. -/
structure FormField (Field : Type) where
  field : Field
  /-- The attribute that marks a challenge. -/
  mode : Option String := none
  /-- The number in the attribute for the expected reading time. -/
  readingData : Option ℚ := none

structure ProtectOptions where
  challenge : Option String := none
  expectedReadingTimeMs : Option ℚ := none

def trackOptions {Field : Type} (options : ProtectOptions) (f : FormField Field) : TrackOptions where
  isChallenge := f.mode = some "challenge" ∨ options.challenge = some "typing_cadence"
  challengeType := some ((options.challenge.filter (· ≠ "")).getD "typing_cadence")
  expectedReadingTimeMs := options.expectedReadingTimeMs
  readingData := f.readingData

/-- What happens on a page. Every listener of an event reads the clock for itself. -/
inductive PageAction (Form Field : Type) where
  | protect (form : Form) (now : ℚ) (fields : List (FormField Field)) (options : ProtectOptions)
  | on (field : Field) (event : FieldEvent) (clock : ℕ → ℚ)
  | submit (form : Form) (clock : ℕ → ℚ)

/-- The collector, and how many sets of listeners the fields and forms have. -/
structure Page (Form Field : Type) where
  collector : Collector Field := {}
  listeners : Field → ℕ := fun _ => 0
  submitListeners : Form → ℕ := fun _ => 0

namespace Page

variable {Form Field : Type} [DecidableEq Form] [DecidableEq Field]

/-- `again` is the number of listeners after another registration. -/
def trackField (again : ℕ → ℕ) (now : ℚ) (options : ProtectOptions) (page : Page Form Field)
    (f : FormField Field) : Page Form Field :=
  { page with
    collector := page.collector.ensureState now f.field (trackOptions options f)
    listeners := Function.update page.listeners f.field (again (page.listeners f.field)) }

def protectForm (again : ℕ → ℕ) (page : Page Form Field) (form : Form) (now : ℚ)
    (fields : List (FormField Field)) (options : ProtectOptions) : Page Form Field :=
  let tracked := fields.foldl (trackField again now options) page
  { tracked with
    submitListeners :=
      Function.update tracked.submitListeners form (again (tracked.submitListeners form)) }

/-- The handlers of one event, by the listeners that run them. -/
def handlers (c : Collector Field) (field : Field) (event : FieldEvent) (clock : ℕ → ℚ) (n : ℕ) :
    Collector Field :=
  (List.range n).foldl (fun c i => c.dispatch (clock i) field event) c

def submits (c : Collector Field) (clock : ℕ → ℚ) (n : ℕ) : Collector Field :=
  (List.range n).foldl (fun c i => c.markSubmit (clock i)) c

def step (again : ℕ → ℕ) (page : Page Form Field) :
    PageAction Form Field → Unit × Page Form Field
  | .protect form now fields options => ((), page.protectForm again form now fields options)
  | .on field event clock => ((), { page with
      collector := handlers page.collector field event clock (page.listeners field) })
  | .submit form clock => ((), { page with
      collector := submits page.collector clock (page.submitListeners form) })

/-- The page as it runs: every registration adds listeners. -/
def run (actions : List (PageAction Form Field)) : Page Form Field :=
  Isolation.run (step Nat.succ) {} actions

/-- The page on which every field and form is registered once. -/
def runOnce (actions : List (PageAction Form Field)) : Page Form Field :=
  Isolation.run (step fun _ => 1) {} actions

end Page

/-! ## Counts of a summary -/

/-- What a summary counts. -/
structure Counts where
  intervals : List ℚ
  inputEventCount : ℕ
  correctionCount : ℕ
  pasteCount : ℕ
  largeInstantDeltaCount : ℕ
  structuredRetryCount : ℕ
  trackedFieldCount : ℕ
  deriving DecidableEq

variable {Form Field : Type} [DecidableEq Form] [DecidableEq Field]

def countsOf (c : Collector Field) : Counts where
  intervals := c.allIntervals
  inputEventCount := c.typingSummary.inputEventCount
  correctionCount := total c.states (·.correctionCount)
  pasteCount := total c.states (·.pasteCount)
  largeInstantDeltaCount := c.agenticSection.largeInstantDeltaCount
  structuredRetryCount := c.agenticSection.structuredRetryCount
  trackedFieldCount := c.typingSummary.trackedFieldCount

/-- A focus counts nothing. -/
def FieldEvent.isCounted : FieldEvent → Bool
  | .focus _ => false
  | _ => true

/-- How many listeners count an action beside the first. -/
def excess (page : Page Form Field) : PageAction Form Field → ℕ
  | .protect .. => 0
  | .on field event _ => if event.isCounted then page.listeners field - 1 else 0
  | .submit form _ => page.submitListeners form - 1

/-- No event that counts meets a field or a form with more than one set of listeners. -/
def ListenersOnce (actions : List (PageAction Form Field)) : Prop :=
  Isolation.AlongRun (Page.step Nat.succ) (fun page action => excess page action = 0) {} actions

instance (actions : List (PageAction Form Field)) : Decidable (ListenersOnce actions) :=
  inferInstanceAs (Decidable (Isolation.AlongRun _ _ _ _))

/-! ## The weight of a collector -/

def FieldState.weight (s : FieldState) : ℕ :=
  s.intervals.length + s.inputEventCount + s.pasteCount + s.structuredRetryCount

/-- The events counted so far, up to the first submit and the first key of each field. -/
def weight (c : Collector Field) : ℕ := total c.states FieldState.weight + (c.submitCount - 1)

omit [DecidableEq Field] in
theorem total_weight (c : Collector Field) : total c.states FieldState.weight =
    total c.states (·.intervals.length) + total c.states (·.inputEventCount) +
      total c.states (·.pasteCount) + total c.states (·.structuredRetryCount) := by
  unfold total
  rw [← List.sum_map_add, ← List.sum_map_add, ← List.sum_map_add]
  rfl

omit [DecidableEq Field] in
theorem weight_eq_of_countsOf {c c' : Collector Field} (h : countsOf c = countsOf c') :
    weight c = weight c' := by
  have hweight : ∀ c : Collector Field, weight c = (countsOf c).intervals.length +
      (countsOf c).inputEventCount + (countsOf c).pasteCount + (countsOf c).structuredRetryCount := by
    intro c
    have hintervals : (countsOf c).intervals.length = total c.states (·.intervals.length) := by
      simp [countsOf, allIntervals, total, List.length_flatMap]
    rw [hintervals, weight, total_weight]
    show _ = _ + total c.states (·.inputEventCount) + total c.states (·.pasteCount) +
      (total c.states (·.structuredRetryCount) + (c.submitCount - 1))
    omega
  rw [hweight, hweight, h]

/-! ## What a handler adds -/

def FieldEvent.isKeydown : FieldEvent → Bool
  | .keydown _ => true
  | _ => false

/-- Whether a tracked field has seen a key. -/
def keyState (c : Collector Field) (field : Field) : Option Bool :=
  (c.fields.get? field).map fun s => s.lastKeyAt.isSome

/-- The first key of a field has no interval. -/
def gain (event : FieldEvent) (keyed : Bool) : ℕ :=
  if event.isKeydown then keyed.toNat else event.isCounted.toNat

theorem change_keeps (s : FieldState) (now : ℚ) (previous length : ℕ) :
    (s.change now previous length).intervals = s.intervals ∧
      (s.change now previous length).inputEventCount = s.inputEventCount ∧
      (s.change now previous length).pasteCount = s.pasteCount ∧
      (s.change now previous length).structuredRetryCount = s.structuredRetryCount ∧
      (s.change now previous length).lastKeyAt = s.lastKeyAt := by
  unfold FieldState.change
  dsimp only
  split_ifs <;> exact ⟨rfl, rfl, rfl, rfl, rfl⟩

theorem input_keeps (s : FieldState) (now : ℚ) (length : ℕ) :
    (s.input now length).intervals = s.intervals ∧
      (s.input now length).inputEventCount = s.inputEventCount + 1 ∧
      (s.input now length).pasteCount = s.pasteCount ∧
      (s.input now length).structuredRetryCount = s.structuredRetryCount ∧
      (s.input now length).lastKeyAt = s.lastKeyAt := by
  unfold FieldState.input
  dsimp only
  cases s.lastLength with
  | none => exact ⟨rfl, rfl, rfl, rfl, rfl⟩
  | some previous => exact change_keeps _ now previous length

theorem weight_handle (s : FieldState) (now : ℚ) (event : FieldEvent) :
    (s.handle now event).weight = s.weight + gain event s.lastKeyAt.isSome := by
  cases event with
  | focus length => rfl
  | keydown key =>
      show (s.intervals ++ (s.lastKeyAt.map (now - ·)).toList).length + s.inputEventCount +
        s.pasteCount + s.structuredRetryCount = s.weight + s.lastKeyAt.isSome.toNat
      rw [List.length_append, FieldState.weight]
      cases s.lastKeyAt with
      | none => simp
      | some time =>
          simp
          omega
  | paste =>
      show s.intervals.length + s.inputEventCount + (s.pasteCount + 1) + s.structuredRetryCount =
        s.intervals.length + s.inputEventCount + s.pasteCount + s.structuredRetryCount + 1
      omega
  | invalid =>
      show s.intervals.length + s.inputEventCount + s.pasteCount + (s.structuredRetryCount + 1) =
        s.intervals.length + s.inputEventCount + s.pasteCount + s.structuredRetryCount + 1
      omega
  | input length =>
      obtain ⟨hintervals, hinputs, hpastes, hretries, -⟩ := input_keeps s now length
      show (s.input now length).weight =
        s.intervals.length + s.inputEventCount + s.pasteCount + s.structuredRetryCount + 1
      rw [FieldState.weight, hintervals, hinputs, hpastes, hretries]
      omega

theorem lastKeyAt_handle (s : FieldState) (now : ℚ) (event : FieldEvent) :
    (s.handle now event).lastKeyAt.isSome = (s.lastKeyAt.isSome || event.isKeydown) := by
  cases event with
  | keydown key => simp [FieldState.handle, FieldState.keydown, FieldEvent.isKeydown]
  | input length =>
      obtain ⟨-, -, -, -, hkey⟩ := input_keeps s now length
      show (s.input now length).lastKeyAt.isSome = _
      rw [hkey]
      exact (Bool.or_false _).symm
  | _ => simp [FieldState.handle, FieldState.focus, FieldEvent.isKeydown]

theorem weight_dispatch (c : Collector Field) (now : ℚ) (field : Field) (event : FieldEvent) :
    weight (c.dispatch now field event) = weight c + (keyState c field).elim 0 (gain event) := by
  have htotal := total_step weight_handle (fun _ _ => rfl) c ⟨now, .on field event⟩
  have hsubmits : (c.dispatch now field event).submitCount = c.submitCount := by
    unfold dispatch
    split <;> rfl
  have hgain : gainOf (fun event s => gain event s.lastKeyAt.isSome) c ⟨now, .on field event⟩ =
      (keyState c field).elim 0 (gain event) := by
    show (c.fields.get? field).elim 0 _ = ((c.fields.get? field).map _).elim 0 _
    cases c.fields.get? field <;> rfl
  rw [weight, weight, hsubmits, ← hgain]
  have hstep : total (c.dispatch now field event).states FieldState.weight =
      total c.states FieldState.weight +
        gainOf (fun event s => gain event s.lastKeyAt.isSome) c ⟨now, .on field event⟩ := htotal
  omega

theorem keyState_dispatch (c : Collector Field) (now : ℚ) (field other : Field)
    (event : FieldEvent) : keyState (c.dispatch now field event) other =
      (keyState c other).map fun keyed => keyed || (decide (field = other) && event.isKeydown) := by
  unfold dispatch keyState
  cases hfield : c.fields.get? field with
  | none =>
      by_cases heq : field = other
      · subst heq
        simp [hfield]
      · simp [heq, Function.comp_def]
  | some s =>
      by_cases heq : field = other
      · subst heq
        simp [hfield, lastKeyAt_handle]
      · simp [heq, Dict.get?_set_ne, Function.comp_def]

theorem handlers_succ (c : Collector Field) (field : Field) (event : FieldEvent) (clock : ℕ → ℚ)
    (n : ℕ) : Page.handlers c field event clock (n + 1) =
      (Page.handlers c field event clock n).dispatch (clock n) field event := by
  rw [Page.handlers, List.range_succ, List.foldl_append]
  rfl

theorem keyState_handlers (c : Collector Field) (field other : Field) (event : FieldEvent)
    (clock : ℕ → ℚ) (n : ℕ) : keyState (Page.handlers c field event clock n) other =
      (keyState c other).map fun keyed =>
        keyed || (decide (0 < n) && decide (field = other) && event.isKeydown) := by
  induction n with
  | zero => simp [Page.handlers]
  | succ n ih =>
      rw [handlers_succ, keyState_dispatch, ih, Option.map_map]
      congr 1
      funext keyed
      cases keyed <;> by_cases hn : 0 < n <;> simp [hn]

/-- The handlers after the first one count the event again. -/
theorem weight_handlers (c : Collector Field) (field : Field) (event : FieldEvent)
    (clock : ℕ → ℚ) (n : ℕ) : weight (Page.handlers c field event clock (n + 1)) =
      weight c + (keyState c field).elim 0 fun keyed =>
        gain event keyed + n * event.isCounted.toNat := by
  induction n with
  | zero =>
      rw [handlers_succ, weight_dispatch]
      simp [Page.handlers]
  | succ n ih =>
      rw [handlers_succ, weight_dispatch, ih, keyState_handlers]
      cases keyState c field with
      | none => rfl
      | some keyed =>
          have hagain : gain event (keyed || (decide (0 < n + 1) && decide (field = field) &&
              event.isKeydown)) = event.isCounted.toNat := by
            cases event <;> simp [gain, FieldEvent.isKeydown, FieldEvent.isCounted]
          rw [Option.map_some, Option.elim_some, Option.elim_some, Option.elim_some, hagain,
            Nat.succ_mul]
          omega

theorem submitCount_handlers (c : Collector Field) (field : Field) (event : FieldEvent)
    (clock : ℕ → ℚ) (n : ℕ) : (Page.handlers c field event clock n).submitCount = c.submitCount := by
  induction n with
  | zero => rfl
  | succ n ih =>
      rw [handlers_succ, ← ih]
      unfold dispatch
      split <;> rfl

omit [DecidableEq Field] in
theorem submits_eq (c : Collector Field) (clock : ℕ → ℚ) (n : ℕ) :
    (Page.submits c clock n).fields = c.fields ∧
      (Page.submits c clock n).submitCount = c.submitCount + n := by
  induction n with
  | zero => exact ⟨rfl, rfl⟩
  | succ n ih =>
      have hsucc : Page.submits c clock (n + 1) = (Page.submits c clock n).markSubmit (clock n) := by
        rw [Page.submits, List.range_succ, List.foldl_append]
        rfl
      rw [hsucc]
      exact ⟨ih.1, congrArg (· + 1) ih.2⟩

/-! ## Two pages side by side -/

/-- A page, and the page on which everything is registered once. -/
structure Beside (page once : Page Form Field) : Prop where
  listeners : ∀ field, once.listeners field = min 1 (page.listeners field)
  submitListeners : ∀ form, once.submitListeners form = min 1 (page.submitListeners form)
  tracked : ∀ field, (page.collector.fields.get? field).isSome = true ↔ 0 < page.listeners field
  keyed : ∀ field, keyState page.collector field = keyState once.collector field
  submitted : page.collector.submitCount = 0 ↔ once.collector.submitCount = 0

section
variable {page once : Page Form Field}

omit [DecidableEq Form] in
theorem weight_ensureState (c : Collector Field) (now : ℚ) (field : Field)
    (options : TrackOptions) : weight (c.ensureState now field options) = weight c := by
  have htotal := total_step weight_handle (fun _ _ => rfl) c ⟨now, .track field options⟩
  have hsubmits : (c.ensureState now field options).submitCount = c.submitCount := by
    unfold ensureState
    split <;> rfl
  rw [weight, weight, hsubmits]
  exact congrArg (· + (c.submitCount - 1)) htotal

theorem keyState_ensureState (c : Collector Field) (now : ℚ) (field other : Field)
    (options : TrackOptions) : keyState (c.ensureState now field options) other =
      if field = other then some ((keyState c other).getD false) else keyState c other := by
  unfold ensureState keyState
  cases hfield : c.fields.get? field with
  | none =>
      by_cases heq : field = other
      · subst heq
        simp [hfield, FieldState.tracked]
      · simp [heq, Dict.get?_set_ne]
  | some s =>
      by_cases heq : field = other
      · subst heq
        simp [hfield]
      · simp [heq]

theorem submitCount_ensureState (c : Collector Field) (now : ℚ) (field : Field)
    (options : TrackOptions) : (c.ensureState now field options).submitCount = c.submitCount := by
  unfold ensureState
  split <;> rfl

theorem isSome_keyState (c : Collector Field) (field : Field) :
    (c.fields.get? field).isSome = (keyState c field).isSome := by
  rw [keyState, Option.isSome_map]

omit [DecidableEq Form] in
theorem Beside.trackField (h : Beside page once) (now : ℚ) (options : ProtectOptions)
    (f : FormField Field) :
    Beside (Page.trackField Nat.succ now options page f)
      (Page.trackField (fun _ => 1) now options once f) := by
  constructor
  · intro field
    show Function.update once.listeners f.field 1 field =
      min 1 (Function.update page.listeners f.field _ field)
    by_cases heq : field = f.field
    · subst heq
      rw [Function.update_self, Function.update_self]
      omega
    · rw [Function.update_of_ne heq, Function.update_of_ne heq]
      exact h.listeners field
  · exact h.submitListeners
  · intro field
    rw [isSome_keyState]
    show (keyState (page.collector.ensureState now f.field _) field).isSome = true ↔
      0 < Function.update page.listeners f.field _ field
    rw [keyState_ensureState]
    by_cases heq : field = f.field
    · subst heq
      rw [if_pos rfl, Function.update_self]
      simp
    · rw [if_neg (Ne.symm heq), Function.update_of_ne heq, ← isSome_keyState]
      exact h.tracked field
  · intro field
    show keyState (page.collector.ensureState now f.field _) field =
      keyState (once.collector.ensureState now f.field _) field
    rw [keyState_ensureState, keyState_ensureState, h.keyed]
  · show (page.collector.ensureState now f.field _).submitCount = 0 ↔
      (once.collector.ensureState now f.field _).submitCount = 0
    rw [submitCount_ensureState, submitCount_ensureState]
    exact h.submitted

omit [DecidableEq Form] in
theorem Beside.trackFields (h : Beside page once) (now : ℚ) (options : ProtectOptions)
    (fields : List (FormField Field)) :
    Beside (fields.foldl (Page.trackField Nat.succ now options) page)
        (fields.foldl (Page.trackField (fun _ => 1) now options) once) ∧
      weight (fields.foldl (Page.trackField Nat.succ now options) page).collector =
        weight page.collector ∧
      weight (fields.foldl (Page.trackField (fun _ => 1) now options) once).collector =
        weight once.collector := by
  induction fields generalizing page once with
  | nil => exact ⟨h, rfl, rfl⟩
  | cons f rest ih =>
      obtain ⟨hbeside, hpage, honce⟩ := ih (h.trackField now options f)
      refine ⟨hbeside, hpage.trans ?_, honce.trans ?_⟩
      · exact weight_ensureState _ _ _ _
      · exact weight_ensureState _ _ _ _

/-- What one action adds to the weights. -/
theorem Beside.step (h : Beside page once) (action : PageAction Form Field) :
    Beside (Page.step Nat.succ page action).2 (Page.step (fun _ => 1) once action).2 ∧
      weight (Page.step Nat.succ page action).2.collector + weight once.collector =
        weight (Page.step (fun _ => 1) once action).2.collector + weight page.collector +
          excess page action := by
  cases action with
  | protect form now fields options =>
      obtain ⟨hbeside, hpage, honce⟩ := h.trackFields now options fields
      refine ⟨⟨hbeside.listeners, ?_, hbeside.tracked, hbeside.keyed, hbeside.submitted⟩, ?_⟩
      · intro other
        show Function.update _ form 1 other = min 1 (Function.update _ form _ other)
        by_cases heq : other = form
        · subst heq
          rw [Function.update_self, Function.update_self]
          omega
        · rw [Function.update_of_ne heq, Function.update_of_ne heq]
          exact hbeside.submitListeners other
      · show weight (fields.foldl _ page).collector + weight once.collector =
          weight (fields.foldl _ once).collector + weight page.collector + 0
        omega
  | on field event clock =>
      have hlisteners := h.listeners field
      have htracked := h.tracked field
      have hkeyed := h.keyed field
      refine ⟨⟨h.listeners, h.submitListeners, ?_, ?_, ?_⟩, ?_⟩
      · intro other
        show ((Page.handlers page.collector field event clock _).fields.get? other).isSome = true ↔ _
        rw [isSome_keyState, keyState_handlers, Option.isSome_map, ← isSome_keyState]
        exact h.tracked other
      · intro other
        show keyState (Page.handlers page.collector field event clock _) other =
          keyState (Page.handlers once.collector field event clock _) other
        rw [keyState_handlers, keyState_handlers, h.keyed, hlisteners]
        congr 1
        funext keyed
        by_cases hpos : 0 < page.listeners field
        · simp [hpos]
        · simp [hpos]
      · show (Page.handlers page.collector field event clock _).submitCount = 0 ↔
          (Page.handlers once.collector field event clock _).submitCount = 0
        rw [submitCount_handlers, submitCount_handlers]
        exact h.submitted
      · show weight (Page.handlers page.collector field event clock (page.listeners field)) +
            weight once.collector =
          weight (Page.handlers once.collector field event clock (once.listeners field)) +
            weight page.collector + if event.isCounted then page.listeners field - 1 else 0
        rw [hlisteners]
        cases hn : page.listeners field with
        | zero =>
            simp [Page.handlers]
            omega
        | succ n =>
            rw [isSome_keyState, hn] at htracked
            obtain ⟨keyed, hkey⟩ := Option.isSome_iff_exists.mp (htracked.mpr (Nat.succ_pos n))
            have hone : min 1 (n + 1) = 0 + 1 := by omega
            rw [hone, weight_handlers, weight_handlers, ← hkeyed, hkey]
            cases event.isCounted <;> simp <;> omega
  | submit form clock =>
      obtain ⟨hfields, hcount⟩ :=
        submits_eq page.collector clock (page.submitListeners form)
      obtain ⟨hfields', hcount'⟩ :=
        submits_eq once.collector clock (once.submitListeners form)
      have hsubmitted := h.submitted
      have hlisteners := h.submitListeners form
      refine ⟨⟨h.listeners, h.submitListeners, ?_, ?_, ?_⟩, ?_⟩
      · intro field
        show ((Page.submits page.collector clock _).fields.get? field).isSome = true ↔ _
        rw [hfields]
        exact h.tracked field
      · intro field
        show ((Page.submits page.collector clock _).fields.get? field).map _ =
          ((Page.submits once.collector clock _).fields.get? field).map _
        rw [hfields, hfields']
        exact h.keyed field
      · show (Page.submits page.collector clock _).submitCount = 0 ↔
          (Page.submits once.collector clock _).submitCount = 0
        rw [hcount, hcount']
        omega
      · show total (Page.submits page.collector clock _).fields.values FieldState.weight +
              ((Page.submits page.collector clock _).submitCount - 1) +
            (total once.collector.fields.values FieldState.weight +
              (once.collector.submitCount - 1)) =
          total (Page.submits once.collector clock _).fields.values FieldState.weight +
              ((Page.submits once.collector clock _).submitCount - 1) +
            (total page.collector.fields.values FieldState.weight +
              (page.collector.submitCount - 1)) + (page.submitListeners form - 1)
        rw [hfields, hfields', hcount, hcount']
        omega

theorem Beside.run (h : Beside page once) (actions : List (PageAction Form Field)) :
    weight (Isolation.run (Page.step Nat.succ) page actions).collector + weight once.collector =
      weight (Isolation.run (Page.step fun _ => 1) once actions).collector + weight page.collector +
        Isolation.gainAlong (Page.step Nat.succ) excess page actions := by
  induction actions generalizing page once with
  | nil => exact Nat.add_comm _ _
  | cons action rest ih =>
      obtain ⟨hnext, hweight⟩ := h.step action
      have hrest := ih hnext
      rw [Isolation.gainAlong]
      show weight (Isolation.run _ (Page.step Nat.succ page action).2 rest).collector + _ =
        weight (Isolation.run _ (Page.step (fun _ => 1) once action).2 rest).collector + _ + _
      omega

omit [DecidableEq Form] in
theorem beside_empty : Beside ({} : Page Form Field) {} :=
  ⟨fun _ => rfl, fun _ => rfl, fun _ => by simp, fun _ => rfl, Iff.rfl⟩

end

/-! ## Pages that look alike -/

/-- The time of the last focus is not counted. -/
def FieldState.blurred (s : FieldState) : FieldState := { s with focusAt := none }

def blurred (c : Collector Field) : Collector Field :=
  { c with fields := c.fields.mapWithKey fun _ s => s.blurred }

section
variable {c c' : Collector Field} {field : Field} {now : ℚ}

theorem get?_blurred (c : Collector Field) (field : Field) :
    (blurred c).fields.get? field = (c.fields.get? field).map FieldState.blurred :=
  Dict.get?_mapWithKey _ _ _

omit [DecidableEq Field] in
theorem countsOf_blurred (c : Collector Field) : countsOf (blurred c) = countsOf c := by
  have hstates : (blurred c).states = c.states.map FieldState.blurred := by
    simp [states, blurred, Dict.values, Function.comp_def]
  have hsize : (blurred c).fields.size = c.fields.size := by simp [blurred, Dict.size]
  have htotal : ∀ count : FieldState → ℕ, (∀ s : FieldState, count s.blurred = count s) →
      total (blurred c).states count = total c.states count := by
    intro count hcount
    rw [hstates, total, total, List.map_map]
    exact congrArg List.sum (List.map_congr_left fun s _ => hcount s)
  have hintervals : (blurred c).allIntervals = c.allIntervals := by
    rw [allIntervals, hstates, List.flatMap_map]
    rfl
  show (⟨(blurred c).allIntervals, total (blurred c).states (·.inputEventCount),
    total (blurred c).states (·.correctionCount), total (blurred c).states (·.pasteCount),
    total (blurred c).states (·.largeInstantDeltaCount),
    total (blurred c).states (·.structuredRetryCount) + (c.submitCount - 1),
    (blurred c).fields.size⟩ : Counts) = _
  rw [hintervals, hsize, htotal (·.inputEventCount) fun _ => rfl,
    htotal (·.correctionCount) fun _ => rfl, htotal (·.pasteCount) fun _ => rfl,
    htotal (·.largeInstantDeltaCount) fun _ => rfl, htotal (·.structuredRetryCount) fun _ => rfl]
  rfl

theorem blurred_set (c : Collector Field) (field : Field) (s : FieldState) :
    (c.fields.set field s).mapWithKey (fun _ s => s.blurred) =
      (blurred c).fields.set field s.blurred :=
  Dict.mapWithKey_set _ _ _ _

theorem blurred_ensureState (c : Collector Field) (now : ℚ) (field : Field)
    (options : TrackOptions) :
    blurred (c.ensureState now field options) = (blurred c).ensureState now field options := by
  unfold ensureState
  rw [get?_blurred]
  cases c.fields.get? field with
  | some s => rfl
  | none =>
      show { c with fields := (c.fields.set field _).mapWithKey fun _ s => s.blurred } = _
      rw [blurred_set]
      rfl

omit [DecidableEq Field] in
theorem blurred_blurred (c : Collector Field) : blurred (blurred c) = blurred c := by
  have hfields : (c.fields.mapWithKey fun _ s => s.blurred).mapWithKey (fun _ s => s.blurred) =
      c.fields.mapWithKey fun _ s => s.blurred := Dict.mapWithKey_mapWithKey _ _ _
  exact congrArg (fun fields => { c with fields := fields }) hfields

theorem blurred_handle (s : FieldState) (now : ℚ) (event : FieldEvent) :
    (s.handle now event).blurred = (s.blurred.handle now event).blurred := by
  have hchange : ∀ (s : FieldState) (previous length : ℕ), (s.change now previous length).blurred =
      (s.blurred.change now previous length).blurred := by
    intro s previous length
    unfold FieldState.change
    by_cases hgrown : previous < length
    · rw [if_pos hgrown, if_pos hgrown]
      by_cases hlarge : largeInstantDeltaThreshold ≤ length - previous
      · rw [if_pos hlarge, if_pos hlarge]
        rfl
      · rw [if_neg hlarge, if_neg hlarge]
        by_cases hrepair : s.sawLargeInstantDelta ∧ 1 < s.inputEventCount
        · have hrepair' : s.blurred.sawLargeInstantDelta ∧ 1 < s.blurred.inputEventCount := hrepair
          rw [if_pos hrepair, if_pos hrepair']
          rfl
        · have hrepair' : ¬ (s.blurred.sawLargeInstantDelta ∧ 1 < s.blurred.inputEventCount) :=
            hrepair
          rw [if_neg hrepair, if_neg hrepair']
          rfl
    · rw [if_neg hgrown, if_neg hgrown]
      split <;> rfl
  cases event with
  | input length =>
      unfold FieldState.handle FieldState.input
      dsimp only [FieldState.blurred]
      cases s.lastLength with
      | none => rfl
      | some previous =>
          have hlengths := hchange { s with
            inputEventCount := s.inputEventCount + 1
            firstInputAt := s.firstInputAt.or (some now)
            lastInputAt := some now
            lastLength := some previous } previous length
          exact congrArg (fun s => { s with lastLength := some length }) hlengths
  | _ => rfl

theorem blurred_dispatch (c : Collector Field) (now : ℚ) (field : Field) (event : FieldEvent) :
    blurred (c.dispatch now field event) = blurred ((blurred c).dispatch now field event) := by
  unfold dispatch
  rw [get?_blurred]
  cases c.fields.get? field with
  | none => exact (blurred_blurred c).symm
  | some s =>
      have hfields : (c.fields.set field (s.handle now event)).mapWithKey (fun _ s => s.blurred) =
          ((blurred c).fields.set field (s.blurred.handle now event)).mapWithKey
            fun _ s => s.blurred := by
        rw [blurred_set, blurred_set (blurred c), blurred_blurred, blurred_handle]
      exact congrArg (fun fields => { c with
        fields := fields
        actionTimestamps := c.actionTimestamps ++ if event.isAction then [now] else [] }) hfields

theorem blurred_dispatch_congr (h : blurred c = blurred c') (now : ℚ) (field : Field)
    (event : FieldEvent) :
    blurred (c.dispatch now field event) = blurred (c'.dispatch now field event) := by
  rw [blurred_dispatch, h, ← blurred_dispatch]

/-- A focus at another time, or after another focus, looks the same. -/
theorem blurred_focus (c : Collector Field) (now later : ℚ) (field : Field) (length : ℕ) :
    blurred ((c.dispatch now field (.focus length)).dispatch later field (.focus length)) =
      blurred (c.dispatch now field (.focus length)) := by
  cases hfield : c.fields.get? field with
  | none =>
      have hnone : ∀ time, c.dispatch time field (.focus length) = c := by
        intro time
        rw [dispatch, hfield]
      rw [hnone, hnone]
  | some s =>
      have hfocus : c.dispatch now field (.focus length) =
          { c with
            fields := c.fields.set field (s.focus now length)
            actionTimestamps := c.actionTimestamps ++ [] } := by
        rw [dispatch, hfield]
        rfl
      have hagain : ((s.focus now length).focus later length).blurred =
          (s.focus now length).blurred := by
        unfold FieldState.focus FieldState.blurred
        cases s.lastLength <;> rfl
      have hfields : ((c.fields.set field (s.focus now length)).set field
            ((s.focus now length).focus later length)).mapWithKey (fun _ s => s.blurred) =
          (c.fields.set field (s.focus now length)).mapWithKey fun _ s => s.blurred := by
        rw [Dict.set_set, blurred_set, blurred_set, hagain]
      rw [hfocus, dispatch, Dict.get?_set_self]
      have hactions : (c.actionTimestamps ++ []) ++ [] = c.actionTimestamps ++ ([] : List ℚ) :=
        List.append_nil _
      exact congrArg₂ (fun fields actions => { c with
        fields := fields
        actionTimestamps := actions }) hfields hactions

theorem blurred_focuses (c : Collector Field) (clock : ℕ → ℚ) (field : Field) (length n : ℕ) :
    blurred (Page.handlers c field (.focus length) clock (n + 1)) =
      blurred (c.dispatch (clock 0) field (.focus length)) := by
  induction n with
  | zero => rw [handlers_succ]; rfl
  | succ n ih =>
      rw [handlers_succ, blurred_dispatch_congr ih]
      exact blurred_focus c (clock 0) (clock (n + 1)) field length

omit [DecidableEq Field] in
theorem blurred_submits (h : blurred c = blurred c') (clock : ℕ → ℚ) (n : ℕ) :
    blurred (Page.submits c clock n) = blurred (Page.submits c' clock n) := by
  induction n with
  | zero => exact h
  | succ n ih =>
      rw [Page.submits, Page.submits, List.range_succ, List.foldl_append, List.foldl_append]
      exact congrArg (markSubmit · (clock n)) ih

end

section
variable {page once : Page Form Field}

omit [DecidableEq Form] in
theorem blurred_trackFields (again again' : ℕ → ℕ) (now : ℚ) (options : ProtectOptions)
    (fields : List (FormField Field)) (h : blurred page.collector = blurred once.collector) :
    blurred (fields.foldl (Page.trackField again now options) page).collector =
      blurred (fields.foldl (Page.trackField again' now options) once).collector := by
  induction fields generalizing page once with
  | nil => exact h
  | cons f rest ih =>
      apply ih
      show blurred (page.collector.ensureState now f.field _) =
        blurred (once.collector.ensureState now f.field _)
      rw [blurred_ensureState, blurred_ensureState, h]

/-- Where nothing is counted beside the first listener, the pages keep looking alike. -/
theorem Beside.alike (h : Beside page once)
    (halike : blurred page.collector = blurred once.collector) {action : PageAction Form Field}
    (hexcess : excess page action = 0) :
    blurred (Page.step Nat.succ page action).2.collector =
      blurred (Page.step (fun _ => 1) once action).2.collector := by
  cases action with
  | protect form now fields options => exact blurred_trackFields _ _ now options fields halike
  | on field event clock =>
      show blurred (Page.handlers page.collector field event clock (page.listeners field)) =
        blurred (Page.handlers once.collector field event clock (once.listeners field))
      have hlisteners : (if event.isCounted then page.listeners field - 1 else 0) = 0 := hexcess
      rw [h.listeners field]
      match hn : page.listeners field with
      | 0 => exact halike
      | 1 => exact blurred_dispatch_congr halike (clock 0) field event
      | n + 2 =>
          have hone : min 1 (n + 2) = 0 + 1 := by omega
          rw [hn] at hlisteners
          cases event with
          | focus length =>
              rw [hone, blurred_focuses, blurred_focuses]
              exact blurred_dispatch_congr halike (clock 0) field (.focus length)
          | _ => simp [FieldEvent.isCounted] at hlisteners
  | submit form clock =>
      have hmin : min 1 (page.submitListeners form) = page.submitListeners form := by
        have hlisteners : page.submitListeners form - 1 = 0 := hexcess
        omega
      show blurred (Page.submits page.collector clock (page.submitListeners form)) =
        blurred (Page.submits once.collector clock (once.submitListeners form))
      rw [h.submitListeners form, hmin]
      exact blurred_submits halike clock _

theorem Beside.alike_run (h : Beside page once)
    (halike : blurred page.collector = blurred once.collector)
    {actions : List (PageAction Form Field)}
    (hactions : Isolation.AlongRun (Page.step Nat.succ) (fun page action => excess page action = 0)
      page actions) :
    blurred (Isolation.run (Page.step Nat.succ) page actions).collector =
      blurred (Isolation.run (Page.step fun _ => 1) once actions).collector := by
  induction actions generalizing page once with
  | nil => exact halike
  | cons action rest ih =>
      exact ih (h.step action).1 (h.alike halike hactions.1) hactions.2

/-- Registering fields and forms again leaves the counts as they would be with one
registration each exactly where no counted event meets a second set of listeners. -/
theorem registration_idempotent_iff (actions : List (PageAction Form Field)) :
    countsOf (Page.run actions).collector = countsOf (Page.runOnce actions).collector ↔
      ListenersOnce actions := by
  constructor
  · intro hcounts
    have hweight := weight_eq_of_countsOf hcounts
    have hbeside : Beside ({} : Page Form Field) {} := beside_empty
    have hrun := hbeside.run actions
    unfold Page.run Page.runOnce at hweight
    rw [ListenersOnce, ← Isolation.gainAlong_eq_zero_iff]
    omega
  · intro honce
    rw [← countsOf_blurred, ← countsOf_blurred (Page.runOnce actions).collector]
    exact congrArg countsOf (beside_empty.alike_run rfl honce)

end

/-! ## A form that is protected twice -/

/-- One field of one form, protected twice; then a key. -/
def protectedTwice : List (PageAction ℕ ℕ) :=
  [.protect 0 0 [{ field := 0 }] {}, .protect 0 1 [{ field := 0 }] {},
    .on 0 (.keydown "a") fun _ => 2]

theorem key_counted_twice :
    ¬ ∀ actions : List (PageAction ℕ ℕ),
      countsOf (Page.run actions).collector = countsOf (Page.runOnce actions).collector := by
  intro hall
  have hcounts := hall protectedTwice
  revert hcounts
  decide +kernel

end TruePresenceESE.Sdk.Typing
