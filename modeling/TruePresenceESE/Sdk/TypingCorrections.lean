import TruePresenceESE.Sdk.Typing

/-! # Corrections

A correction is counted where a Backspace or Delete key goes down, and where an input
leaves its field shorter. A key that deletes does both.
-/

namespace TruePresenceESE.Sdk.Typing

open Collector

variable {Field : Type} [DecidableEq Field]

/-! ## Events and their causes -/

/-- An event of the page. A deletion key is marked where it changes its field, and so is the
input that follows from it. -/
structure PageEvent (Field : Type) where
  event : Event Field
  ofDeletion : Bool

def pageStep (c : Collector Field) (page : PageEvent Field) : Unit × Collector Field :=
  c.step page.event

def runPage (pages : List (PageEvent Field)) : Collector Field := Isolation.run pageStep {} pages

def isDeletionOf (field : Field) : Action Field → Bool
  | .on other (.keydown key) => other = field && isDeletionKey key
  | _ => false

/-- Deletion keys that change the field, and the inputs that follow from them. -/
def changingDeletions (field : Field) (pages : List (PageEvent Field)) : ℕ :=
  pages.countP fun page => page.ofDeletion && isDeletionOf field page.event.action

def deletionInputs (field : Field) (pages : List (PageEvent Field)) : ℕ :=
  pages.countP fun page => page.ofDeletion && isInputOf field page.event.action

def fieldOf : Action Field → Option Field
  | .on field _ => some field
  | _ => none

/-- Each deletion key that changes a field is followed by an input of its own. -/
def OwnInputs (pages : List (PageEvent Field)) : Prop :=
  ∀ page ∈ pages, ∀ field ∈ fieldOf page.event.action,
    (∀ before ∈ pages.inits, deletionInputs field before ≤ changingDeletions field before) ∧
      deletionInputs field pages = changingDeletions field pages

instance (pages : List (PageEvent Field)) : Decidable (OwnInputs pages) :=
  inferInstanceAs (Decidable (∀ page ∈ pages, ∀ field ∈ fieldOf page.event.action, _ ∧ _))

/-! ## What is counted -/

/-- What an event gains where its field is tracked, by the field's state before it. -/
def gainOf (gain : FieldEvent → FieldState → ℕ) (c : Collector Field) (event : Event Field) : ℕ :=
  match event.action with
  | .on field fieldEvent => (c.fields.get? field).elim 0 (gain fieldEvent)
  | _ => 0

def deletes (fieldEvent : FieldEvent) (_ : FieldState) : Bool :=
  match fieldEvent with
  | .keydown key => isDeletionKey key
  | _ => false

def shrinks (fieldEvent : FieldEvent) (s : FieldState) : Bool :=
  match fieldEvent with
  | .input length => s.lastLength.any (length < ·)
  | _ => false

/-- An input that leaves its field as long as it was known to be, or longer. -/
def keepsLength (fieldEvent : FieldEvent) (s : FieldState) : Bool :=
  match fieldEvent with
  | .input length => !s.lastLength.any (length < ·)
  | _ => false

/-- The number of events of a run that are of one kind. -/
def countEvents (kind : FieldEvent → FieldState → Bool) (pages : List (PageEvent Field)) : ℕ :=
  Isolation.gainAlong pageStep
    (fun c page => gainOf (fun fieldEvent s => (kind fieldEvent s).toNat) c page.event) {} pages

/-- Those of them that follow from a deletion key, or those that do not. -/
def countCaused (caused : Bool) (kind : FieldEvent → FieldState → Bool)
    (pages : List (PageEvent Field)) : ℕ :=
  Isolation.gainAlong pageStep (fun c page =>
    if page.ofDeletion = caused then
      gainOf (fun fieldEvent s => (kind fieldEvent s).toNat) c page.event else 0) {} pages

/-- The rate is one, and a correction is counted once. -/
def CorrectionsAccounted (pages : List (PageEvent Field)) (typing : TypingSection) : Prop :=
  0 ≤ typing.correctionRate ∧ typing.correctionRate ≤ 1 ∧
    typing.correctionCount ≤ countEvents deletes pages + countCaused false shrinks pages

instance (pages : List (PageEvent Field)) (typing : TypingSection) :
    Decidable (CorrectionsAccounted pages typing) :=
  inferInstanceAs (Decidable (_ ∧ _ ∧ _))

/-- No deletion key shortens its field, and there are no more of them than of inputs that do
not shorten theirs, unless there are no inputs. -/
def CountedOnce (pages : List (PageEvent Field)) : Prop :=
  countCaused true shrinks pages = 0 ∧
    (countEvents shrinks pages + countEvents keepsLength pages = 0 ∨
      countEvents deletes pages ≤ countEvents keepsLength pages)

/-! ## Totals -/

theorem countEvents_eq_caused (kind : FieldEvent → FieldState → Bool)
    (pages : List (PageEvent Field)) :
    countEvents kind pages = countCaused true kind pages + countCaused false kind pages := by
  rw [countEvents, countCaused, countCaused, ← Isolation.gainAlong_add]
  congr 1
  funext c page
  cases page.ofDeletion <;> simp

/-- A total over the fields that each handler raises by its gain. -/
theorem total_step {count : FieldState → ℕ} {gain : FieldEvent → FieldState → ℕ}
    (hhandle : ∀ s now fieldEvent, count (s.handle now fieldEvent) = count s + gain fieldEvent s)
    (htracked : ∀ now options, count (FieldState.tracked now options) = 0)
    (c : Collector Field) (event : Event Field) :
    total (c.step event).2.states count = total c.states count + gainOf gain c event := by
  obtain ⟨now, action⟩ := event
  cases action with
  | submit => rfl
  | track field options =>
      simp only [Collector.step, ensureState]
      cases hfield : c.fields.get? field with
      | some state => rfl
      | none =>
          have htotal := Dict.sum_values_set_of_none (v := FieldState.tracked now options) count hfield
          rw [htracked] at htotal
          exact htotal
  | on field fieldEvent =>
      simp only [Collector.step, dispatch, gainOf]
      cases hfield : c.fields.get? field with
      | none => rfl
      | some state =>
          have htotal := Dict.sum_values_set_of_some (v := state.handle now fieldEvent) count hfield
          rw [hhandle] at htotal
          simp only [Option.elim_some]
          show ((c.fields.set field (state.handle now fieldEvent)).values.map count).sum =
            (c.fields.values.map count).sum + gain fieldEvent state
          omega

theorem total_runPage {count : FieldState → ℕ} {gain : FieldEvent → FieldState → ℕ}
    (hhandle : ∀ s now fieldEvent, count (s.handle now fieldEvent) = count s + gain fieldEvent s)
    (htracked : ∀ now options, count (FieldState.tracked now options) = 0)
    (pages : List (PageEvent Field)) :
    total (runPage pages).states count =
      Isolation.gainAlong pageStep (fun c page => gainOf gain c page.event) {} pages := by
  have htotal := Isolation.measure_run (fun c : Collector Field => total c.states count)
    (fun c (page : PageEvent Field) => total_step hhandle htracked c page.event) {} pages
  refine htotal.trans ?_
  show 0 + _ = _
  rw [Nat.zero_add]
  rfl

/-! ## What each handler adds -/

theorem correctionCount_handle (s : FieldState) (now : ℚ) (fieldEvent : FieldEvent) :
    (s.handle now fieldEvent).correctionCount =
      s.correctionCount + ((deletes fieldEvent s).toNat + (shrinks fieldEvent s).toNat) := by
  cases fieldEvent with
  | keydown key =>
      simp only [FieldState.handle, FieldState.keydown, deletes, shrinks]
      cases isDeletionKey key <;> rfl
  | input length =>
      simp only [FieldState.handle, FieldState.input, deletes, shrinks]
      cases s.lastLength with
      | none => rfl
      | some previousLength =>
          simp only [Option.elim_some, Option.any_some, FieldState.change]
          by_cases hgrows : previousLength < length
          · have hlonger : ¬ length < previousLength := by omega
            simp only [hgrows, hlonger, if_true, decide_false]
            split
            · rfl
            · split <;> rfl
          · by_cases hshrinks : length < previousLength <;> simp [hgrows, hshrinks]
  | focus length => rfl
  | paste => rfl
  | invalid => rfl

theorem inputEventCount_handle (s : FieldState) (now : ℚ) (fieldEvent : FieldEvent) :
    (s.handle now fieldEvent).inputEventCount =
      s.inputEventCount + ((shrinks fieldEvent s).toNat + (keepsLength fieldEvent s).toNat) := by
  cases fieldEvent with
  | input length =>
      have hcounted : (s.handle now (.input length)).inputEventCount = s.inputEventCount + 1 := by
        simp only [FieldState.handle, FieldState.input]
        cases s.lastLength with
        | none => rfl
        | some previousLength =>
            simp only [Option.elim_some, FieldState.change]
            split
            · split
              · rfl
              · split <;> rfl
            · split <;> rfl
      rw [hcounted]
      simp only [shrinks, keepsLength]
      cases s.lastLength.any (length < ·) <;> rfl
  | keydown key => rfl
  | focus length => rfl
  | paste => rfl
  | invalid => rfl

theorem gainAlong_gainOf_add (gain gain' : FieldEvent → FieldState → ℕ)
    (pages : List (PageEvent Field)) :
    Isolation.gainAlong pageStep
        (fun c page => gainOf (fun fieldEvent s => gain fieldEvent s + gain' fieldEvent s) c page.event)
        {} pages =
      Isolation.gainAlong pageStep (fun c page => gainOf gain c page.event) {} pages +
        Isolation.gainAlong pageStep (fun c page => gainOf gain' c page.event) {} pages := by
  rw [← Isolation.gainAlong_add]
  congr 1
  funext c page
  unfold gainOf
  split
  · cases c.fields.get? _ <;> rfl
  · rfl

theorem correctionCount_runPage (pages : List (PageEvent Field)) :
    total (runPage pages).states (·.correctionCount) =
      countEvents deletes pages + countEvents shrinks pages :=
  (total_runPage correctionCount_handle (fun _ _ => rfl) pages).trans
    (gainAlong_gainOf_add _ _ pages)

theorem inputEventCount_runPage (pages : List (PageEvent Field)) :
    total (runPage pages).states (·.inputEventCount) =
      countEvents shrinks pages + countEvents keepsLength pages :=
  (total_runPage inputEventCount_handle (fun _ _ => rfl) pages).trans
    (gainAlong_gainOf_add _ _ pages)

theorem correctionRate_mem_iff (c : Collector Field) :
    0 ≤ c.correctionRate ∧ c.correctionRate ≤ 1 ↔
      total c.states (·.inputEventCount) = 0 ∨
        total c.states (·.correctionCount) ≤ total c.states (·.inputEventCount) := by
  unfold correctionRate
  generalize total c.states (·.inputEventCount) = inputs
  generalize total c.states (·.correctionCount) = corrections
  split
  next hinputs =>
    have hpositive : (0 : ℚ) < inputs := by exact_mod_cast hinputs
    rw [div_le_one hpositive, Nat.cast_le]
    constructor
    · intro h
      exact .inr h.2
    · intro h
      exact ⟨by positivity, by omega⟩
  next hinputs =>
    have hnone : inputs = 0 := by omega
    simp [hnone]

/-- Corrections are accounted for exactly where no deletion key shortens its field and the
inputs are at least as many as such keys. -/
theorem corrections_accounted_iff (pages : List (PageEvent Field)) (sqrt : ℚ → ℚ) :
    CorrectionsAccounted pages ((runPage pages).typingSection sqrt) ↔ CountedOnce pages := by
  have hrate := correctionRate_mem_iff (runPage pages)
  rw [correctionCount_runPage, inputEventCount_runPage] at hrate
  have hcount : ((runPage pages).typingSection sqrt).correctionCount =
      countEvents deletes pages + countEvents shrinks pages := correctionCount_runPage pages
  have hcaused := countEvents_eq_caused shrinks pages
  rw [CorrectionsAccounted, ← and_assoc, hcount, CountedOnce]
  show (0 ≤ (runPage pages).correctionRate ∧ (runPage pages).correctionRate ≤ 1) ∧ _ ↔ _
  rw [hrate]
  omega

/-- A key that deletes the only character of a field. -/
def oneBackspace : List (PageEvent ℕ) :=
  [⟨⟨0, .track 1 ⟨false, none, none, none⟩⟩, false⟩, ⟨⟨1, .on 1 (.focus 1)⟩, false⟩,
    ⟨⟨2, .on 1 (.keydown "Backspace")⟩, true⟩, ⟨⟨2, .on 1 (.input 0)⟩, true⟩]

/-- It counts as two corrections of one input. -/
theorem backspace_counted_twice : OwnInputs oneBackspace ∧
    ¬CorrectionsAccounted oneBackspace ((runPage oneBackspace).typingSection id) := by
  decide +kernel

end TruePresenceESE.Sdk.Typing
