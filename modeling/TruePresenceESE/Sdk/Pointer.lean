import TruePresenceESE.Lib.Entropy
import TruePresenceESE.Lib.Isolation

/-! # The pointer collector of the browser

Listeners on the document count moves, clicks and scrolls, and sort the displacements
between two moves into eight bins by their angle. Numbers are those of an ordered field;
`Math.atan2`, `Math.PI` and `Math.log2` are the browser's. The same listener hears
`pointermove` and `mousemove`, so an event is one run of a listener, with what the clock
reads there.
-/

namespace TruePresenceESE.Sdk.Pointer

/-- What the collector takes from `Math`. -/
structure BrowserMath (K : Type) where
  atan2 : K → K → K
  pi : K
  log2 : K → K

/-! ## Events -/

/-- A move has the coordinates `Number(event.clientX || 0)` and `Number(event.clientY || 0)`. -/
inductive Action (K : Type) where
  | move (x y : K)
  | click
  | scroll

structure Event (K : Type) where
  now : K
  action : Action K

/-! ## The collector -/

variable {K : Type} [Field K] [LinearOrder K]

/-- The entropy of a list of counts, in units of the greatest for its length. -/
def shannonEntropy (log2 : K → K) (counts : List ℕ) : K :=
  let total := counts.sum
  if total = 0 then 0
  else
    let entropy := counts.foldl (fun (sum : K) (count : ℕ) =>
      if count = 0 then sum
      else
        let probability := (count : K) / total
        sum - probability * log2 probability) 0
    entropy / log2 counts.length

structure Collector (K : Type) [Field K] where
  actionTimestamps : List K := []
  clickCount : ℕ := 0
  clickHesitationTotal : K := 0
  clickHesitationCount : ℕ := 0
  lastMove : Option (K × K) := none
  lastMoveAt : Option K := none
  movementCount : ℕ := 0
  scrollCount : ℕ := 0
  lastScrollAt : Option K := none
  directionBins : Fin 8 → ℕ := fun _ => 0
  scrollIntervals : List K := []

/-- The bin of a displacement. Angles are in the range that `Math.atan2` documents. -/
def directionBin [FloorRing K] (math : BrowserMath K) (dx dy : K) : Fin 8 :=
  let angle := math.atan2 dy dx
  let normalized := if angle < 0 then angle + math.pi * 2 else angle
  Fin.ofNat 8 (min 7 ⌊normalized / (math.pi * 2) * (8 : ℕ)⌋₊)

/-- The bins after a move away from `lastMove`. -/
def countDirection [FloorRing K] (math : BrowserMath K) (directionBins : Fin 8 → ℕ)
    (lastMove : Option (K × K)) (x y : K) : Fin 8 → ℕ :=
  match lastMove with
  | none => directionBins
  | some last =>
      let dx := x - last.1
      let dy := y - last.2
      if dx ≠ 0 ∨ dy ≠ 0 then
        let bin := directionBin math dx dy
        Function.update directionBins bin (directionBins bin + 1)
      else directionBins

namespace Collector

def onMove [FloorRing K] (math : BrowserMath K) (c : Collector K) (timestamp x y : K) :
    Collector K :=
  { c with
    actionTimestamps := c.actionTimestamps ++ [timestamp]
    movementCount := c.movementCount + 1
    directionBins := countDirection math c.directionBins c.lastMove x y
    lastMove := some (x, y)
    lastMoveAt := some timestamp }

def onClick (c : Collector K) (timestamp : K) : Collector K :=
  { c with
    actionTimestamps := c.actionTimestamps ++ [timestamp]
    clickCount := c.clickCount + 1
    clickHesitationTotal :=
      c.clickHesitationTotal + c.lastMoveAt.elim 0 fun lastMoveAt => max 0 (timestamp - lastMoveAt)
    clickHesitationCount := c.clickHesitationCount + c.lastMoveAt.isSome.toNat }

def onScroll (c : Collector K) (timestamp : K) : Collector K :=
  { c with
    actionTimestamps := c.actionTimestamps ++ [timestamp]
    scrollCount := c.scrollCount + 1
    scrollIntervals := c.scrollIntervals ++ (c.lastScrollAt.map (timestamp - ·)).toList
    lastScrollAt := some timestamp }

variable [FloorRing K] (math : BrowserMath K)

def step (c : Collector K) (event : Event K) : Unit × Collector K :=
  match event.action with
  | .move x y => ((), c.onMove math event.now x y)
  | .click => ((), c.onClick event.now)
  | .scroll => ((), c.onScroll event.now)

def run (events : List (Event K)) : Collector K := Isolation.run (step math) {} events

end Collector

/-! ## The summaries -/

structure Summary (K : Type) where
  clickCount : ℕ
  clickHesitationMs : Option K
  pointerEntropy : K
  pointerMovementCount : ℕ
  scrollCadenceScore : Option K

structure AgenticSummary (K : Type) where
  exploratoryActionCount : ℕ
  routeDirectnessScore : Option K
  actionTimestamps : List K

namespace Collector

def summarize (math : BrowserMath K) (c : Collector K) : Summary K where
  clickCount := c.clickCount
  clickHesitationMs :=
    if 0 < c.clickHesitationCount then some (c.clickHesitationTotal / c.clickHesitationCount)
    else none
  pointerEntropy := shannonEntropy math.log2 (List.ofFn c.directionBins)
  pointerMovementCount := c.movementCount
  scrollCadenceScore :=
    if 1 < c.scrollIntervals.length then
      some (min 1 (c.scrollIntervals.length / if c.scrollCount = 0 then 1 else (c.scrollCount : K)))
    else none

def summarizeAgentic (c : Collector K) : AgenticSummary K :=
  let exploratoryActionCount := c.movementCount + c.scrollCount
  let routeActionCount := exploratoryActionCount + c.clickCount
  { exploratoryActionCount
    routeDirectnessScore :=
      if 0 < routeActionCount then some (c.clickCount / routeActionCount) else none
    actionTimestamps := c.actionTimestamps }

end Collector

/-! ## What the collector keeps of its events -/

def Action.position? : Action K → Option (K × K)
  | .move x y => some (x, y)
  | _ => none

def positions (events : List (Event K)) : List (K × K) := events.filterMap (·.action.position?)

/-- The ways between two moves that follow each other, without those of no length. -/
def displacements (events : List (Event K)) : List (K × K) :=
  (((positions events).zip (positions events).tail).map fun p => p.2 - p.1).filter (· ≠ 0)

def isClick : Action K → Bool
  | .click => true
  | _ => false

def isScroll : Action K → Bool
  | .scroll => true
  | _ => false

def countOf (kind : Action K → Bool) (events : List (Event K)) : ℕ :=
  events.countP (kind ·.action)

section
variable [FloorRing K] {math : BrowserMath K} {events : List (Event K)} {c : Collector K}

structure Keeps (math : BrowserMath K) (events : List (Event K)) (c : Collector K) : Prop where
  timestamps : c.actionTimestamps = events.map (·.now)
  moves : c.movementCount = (positions events).length
  lastMove : c.lastMove = (positions events).getLast?
  clicks : c.clickCount = countOf isClick events
  scrolls : c.scrollCount = countOf isScroll events
  lastScroll : c.lastScrollAt.isSome = true ↔ 0 < c.scrollCount
  intervals : c.scrollIntervals.length = c.scrollCount - 1
  hesitation : 0 ≤ c.clickHesitationTotal
  bins : ∀ bin, c.directionBins bin =
    (displacements events).countP fun way => directionBin math way.1 way.2 = bin

end

section
variable {events : List (Event K)} {event : Event K}

theorem zip_tail_concat {α : Type} (xs : List α) (y : α) :
    (xs ++ [y]).zip (xs ++ [y]).tail = xs.zip xs.tail ++ (xs.getLast?.map fun x => (x, y)).toList := by
  induction xs with
  | nil => rfl
  | cons x rest ih =>
      cases rest with
      | nil => rfl
      | cons next rest =>
          rw [List.cons_append, List.tail_cons, List.cons_append, List.zip_cons_cons]
          rw [List.cons_append, List.tail_cons] at ih
          rw [ih, List.tail_cons, List.tail_cons, List.zip_cons_cons, List.cons_append]
          rfl

omit [Field K] [LinearOrder K] in
theorem positions_concat : positions (events ++ [event]) =
    positions events ++ event.action.position?.toList := by
  rw [positions, List.filterMap_append]
  cases h : event.action.position? <;> simp [positions, h]

theorem displacements_concat : displacements (events ++ [event]) =
    displacements events ++ (event.action.position?.bind fun position =>
      ((positions events).getLast?.map (position - ·)).filter (· ≠ 0)).toList := by
  rw [displacements, positions_concat]
  cases event.action.position? with
  | none => simp [displacements]
  | some position =>
      rw [Option.toList_some, zip_tail_concat, List.map_append, List.filter_append, ← displacements]
      cases (positions events).getLast? with
      | none => rfl
      | some last =>
          rw [Option.map_some, Option.toList_some, List.map_singleton, List.filter_singleton,
            Option.bind_some, Option.map_some, Option.filter_some]
          by_cases hway : position - last = 0 <;> simp [hway]

omit [Field K] [LinearOrder K] in
theorem countOf_concat {kind : Action K → Bool} : countOf kind (events ++ [event]) =
    countOf kind events + (kind event.action).toNat := by
  rw [countOf, List.countP_append, ← countOf, List.countP_singleton]
  cases kind event.action <;> rfl

end

section
variable [IsStrictOrderedRing K] [FloorRing K] {math : BrowserMath K} {events : List (Event K)}
  {c : Collector K}

omit [IsStrictOrderedRing K] in
/-- A move adds its displacement to the bin of its angle. -/
theorem countDirection_apply (directionBins : Fin 8 → ℕ) (lastMove : Option (K × K)) (x y : K)
    (bin : Fin 8) : countDirection math directionBins lastMove x y bin =
      directionBins bin + ((lastMove.map ((x, y) - ·)).filter (· ≠ 0)).toList.countP fun way =>
        directionBin math way.1 way.2 = bin := by
  cases lastMove with
  | none => rfl
  | some last =>
      have hmoved : x - last.1 ≠ 0 ∨ y - last.2 ≠ 0 ↔ (x, y) - last ≠ 0 := by
        rw [← not_and_or, not_iff_not, Prod.ext_iff]
        rfl
      rw [countDirection, Option.map_some, Option.filter_some]
      dsimp only
      by_cases hway : (x, y) - last = 0
      · rw [if_neg (by rwa [hmoved, not_ne_iff]), if_neg (by simpa using hway)]
        rfl
      · rw [if_pos (hmoved.mpr hway), if_pos (by simpa using hway), Option.toList_some,
          List.countP_singleton, Function.update_apply]
        by_cases hbin : directionBin math (x - last.1) (y - last.2) = bin
        · rw [if_pos hbin.symm, hbin]
          exact congrArg (directionBins bin + ·) (if_pos (decide_eq_true hbin)).symm
        · rw [if_neg (Ne.symm hbin)]
          have hother : (if decide (directionBin math (x - last.1) (y - last.2) = bin) = true then 1
              else 0) = 0 := if_neg (mt of_decide_eq_true hbin)
          exact congrArg (directionBins bin + ·) hother.symm

omit [IsStrictOrderedRing K] in
theorem Keeps.move (h : Keeps math events c) (now x y : K) :
    Keeps math (events ++ [⟨now, .move x y⟩]) (c.onMove math now x y) := by
  have hpositions : positions (events ++ [⟨now, .move x y⟩]) = positions events ++ [(x, y)] :=
    positions_concat
  refine ⟨by simp [Collector.onMove, h.timestamps], by simp [Collector.onMove, hpositions, h.moves],
    by simp [Collector.onMove, hpositions], ?_, ?_, h.lastScroll, h.intervals, h.hesitation, ?_⟩
  · rw [countOf_concat]
    exact h.clicks
  · rw [countOf_concat]
    exact h.scrolls
  · intro bin
    rw [displacements_concat, List.countP_append, ← h.bins bin]
    simp only [Collector.onMove, h.lastMove, Action.position?, Option.bind_some]
    exact countDirection_apply c.directionBins (positions events).getLast? x y bin

theorem Keeps.click (h : Keeps math events c) (now : K) :
    Keeps math (events ++ [⟨now, .click⟩]) (c.onClick now) := by
  have hpositions : positions (events ++ [⟨now, .click⟩]) = positions events := by
    simp [positions_concat, Action.position?]
  have hways : displacements (events ++ [⟨now, .click⟩]) = displacements events := by
    simp [displacements, hpositions]
  refine ⟨by simp [Collector.onClick, h.timestamps], by rw [hpositions]; exact h.moves,
    by rw [hpositions]; exact h.lastMove, ?_, ?_, h.lastScroll, h.intervals, ?_,
    by rw [hways]; exact h.bins⟩
  · rw [countOf_concat, ← h.clicks]
    rfl
  · rw [countOf_concat]
    exact h.scrolls
  · apply add_nonneg h.hesitation
    cases c.lastMoveAt with
    | none => exact le_rfl
    | some lastMoveAt => exact le_max_left _ _

omit [IsStrictOrderedRing K] in
theorem Keeps.scroll (h : Keeps math events c) (now : K) :
    Keeps math (events ++ [⟨now, .scroll⟩]) (c.onScroll now) := by
  have hpositions : positions (events ++ [⟨now, .scroll⟩]) = positions events := by
    simp [positions_concat, Action.position?]
  have hways : displacements (events ++ [⟨now, .scroll⟩]) = displacements events := by
    simp [displacements, hpositions]
  refine ⟨by simp [Collector.onScroll, h.timestamps], by rw [hpositions]; exact h.moves,
    by rw [hpositions]; exact h.lastMove, ?_, ?_, by simp [Collector.onScroll], ?_, h.hesitation,
    by rw [hways]; exact h.bins⟩
  · rw [countOf_concat]
    exact h.clicks
  · rw [countOf_concat, ← h.scrolls]
    rfl
  · have hlast := h.lastScroll
    have hintervals := h.intervals
    simp only [Collector.onScroll, List.length_append]
    cases hat : c.lastScrollAt with
    | none =>
        have hnone : ¬0 < c.scrollCount := by
          rw [← hlast, hat]
          simp
        simp
        omega
    | some lastScrollAt =>
        have hsome : 0 < c.scrollCount := by
          rw [← hlast, hat]
          rfl
        simp
        omega

theorem Keeps.step (h : Keeps math events c) (event : Event K) :
    Keeps math (events ++ [event]) (c.step math event).2 := by
  obtain ⟨now, action⟩ := event
  cases action with
  | move x y => exact h.move now x y
  | click => exact h.click now
  | scroll => exact h.scroll now

theorem keeps_run (math : BrowserMath K) (events : List (Event K)) :
    Keeps math events (Collector.run math events) := by
  induction events using List.reverseRecOn with
  | nil => exact ⟨rfl, rfl, rfl, rfl, rfl, by simp [Collector.run, Isolation.run], rfl, le_rfl,
      fun _ => rfl⟩
  | append_singleton events event ih =>
      rw [Collector.run, Isolation.run, List.foldl_append]
      exact ih.step event

end

/-! ## The ranges of the summaries -/

section
variable [IsStrictOrderedRing K]

omit [LinearOrder K] [IsStrictOrderedRing K] in
/-- The loop takes the terms of all counts away; an empty one has none. -/
theorem foldl_entropy (log2 : K → K) (total : ℕ) (counts : List ℕ) (acc : K) :
    counts.foldl (fun (sum : K) (count : ℕ) =>
      if count = 0 then sum else sum - (count : K) / total * log2 ((count : K) / total)) acc =
      acc - (counts.map fun count : ℕ => (count : K) / total * log2 ((count : K) / total)).sum := by
  induction counts generalizing acc with
  | nil => simp
  | cons count rest ih =>
      rw [List.foldl_cons, ih, List.map_cons, List.sum_cons]
      by_cases hzero : count = 0
      · rw [if_pos hzero, hzero, Nat.cast_zero, zero_div, zero_mul, zero_add]
      · rw [if_neg hzero]
        ring

/-- Logarithms of probabilities are not positive, and that of the length is. -/
theorem shannonEntropy_nonneg {log2 : K → K} (hlog : ∀ p, 0 < p → p ≤ 1 → log2 p ≤ 0)
    {counts : List ℕ} (hlength : 0 ≤ log2 counts.length) : 0 ≤ shannonEntropy log2 counts := by
  rw [shannonEntropy]
  dsimp only
  split
  · exact le_rfl
  next htotal =>
    rw [foldl_entropy, zero_sub]
    apply div_nonneg _ hlength
    rw [neg_nonneg]
    apply (List.sum_le_card_nsmul _ 0 ?_).trans_eq (nsmul_zero _)
    intro term hterm
    obtain ⟨count, hcount, rfl⟩ := List.mem_map.mp hterm
    have hle : count ≤ counts.sum := List.le_sum_of_mem hcount
    have htotal' : (0 : K) < counts.sum := Nat.cast_pos.mpr (Nat.pos_of_ne_zero htotal)
    rcases Nat.eq_zero_or_pos count with hzero | hpos
    · rw [hzero, Nat.cast_zero, zero_div, zero_mul]
    · have hp : (0 : K) < count / counts.sum := div_pos (Nat.cast_pos.mpr hpos) htotal'
      apply mul_nonpos_of_nonneg_of_nonpos hp.le
      apply hlog _ hp
      rw [div_le_one htotal']
      exact Nat.cast_le.mpr hle

theorem ratio_mem {part whole : ℕ} (hle : part ≤ whole) :
    0 ≤ (part / whole : K) ∧ (part / whole : K) ≤ 1 := by
  refine ⟨div_nonneg (Nat.cast_nonneg _) (Nat.cast_nonneg _), ?_⟩
  exact div_le_one_of_le₀ (Nat.cast_le.mpr hle) (Nat.cast_nonneg _)

variable [FloorRing K] {math : BrowserMath K} {events : List (Event K)} {c : Collector K}

theorem Keeps.hesitation_nonneg (h : Keeps math events c) :
    ∀ ms ∈ (c.summarize math).clickHesitationMs, 0 ≤ ms := by
  intro ms hms
  rw [Collector.summarize] at hms
  dsimp only at hms
  split at hms
  · cases hms
    exact div_nonneg h.hesitation (Nat.cast_nonneg _)
  · cases hms

theorem scrollCadence_mem (c : Collector K) :
    ∀ score ∈ (c.summarize math).scrollCadenceScore, 0 ≤ score ∧ score ≤ 1 := by
  intro score hscore
  rw [Collector.summarize] at hscore
  dsimp only at hscore
  split at hscore
  · cases hscore
    refine ⟨le_min zero_le_one (div_nonneg (Nat.cast_nonneg _) ?_), min_le_left _ _⟩
    split
    · exact zero_le_one
    · exact Nat.cast_nonneg _
  · cases hscore

omit [FloorRing K] in
theorem routeDirectness_mem (c : Collector K) :
    ∀ score ∈ c.summarizeAgentic.routeDirectnessScore, 0 ≤ score ∧ score ≤ 1 := by
  intro score hscore
  rw [Collector.summarizeAgentic] at hscore
  dsimp only at hscore
  split at hscore
  · cases hscore
    exact ratio_mem (Nat.le_add_left _ _)
  · cases hscore

end

/-! ## Directions over the real numbers -/

section
open Real

/-- `Math` without rounding. -/
noncomputable def browserMath : BrowserMath ℝ where
  atan2 y x := Complex.arg ⟨x, y⟩
  pi := π
  log2 := logb 2

/-- The eighths of the plane, counted from the direction of growing `x` towards growing `y`. -/
def InSector (bin : Fin 8) (way : ℝ × ℝ) : Prop :=
  ∃ r θ : ℝ, 0 < r ∧ bin * (π / 4) ≤ θ ∧ θ < (bin + 1) * (π / 4) ∧ way = (r * cos θ, r * sin θ)

theorem arg_polar {r θ : ℝ} (hr : 0 < r) (hθ : θ ∈ Set.Ioc (-π) π) :
    Complex.arg ⟨r * cos θ, r * sin θ⟩ = θ := by
  have h := Complex.arg_mul_cos_add_sin_mul_I hr hθ
  rwa [show (r : ℂ) * (Complex.cos θ + Complex.sin θ * Complex.I) = ⟨r * cos θ, r * sin θ⟩ by
    apply Complex.ext <;> simp [Complex.cos_ofReal_re, Complex.sin_ofReal_re]] at h

/-- The angle of a way, from zero to a full turn. -/
noncomputable def turn (way : ℝ × ℝ) : ℝ :=
  if Complex.arg ⟨way.1, way.2⟩ < 0 then Complex.arg ⟨way.1, way.2⟩ + π * 2
  else Complex.arg ⟨way.1, way.2⟩

theorem turn_polar {r θ : ℝ} (hr : 0 < r) (hnonneg : 0 ≤ θ) (hlt : θ < 2 * π) :
    turn (r * cos θ, r * sin θ) = θ := by
  have hpi := pi_pos
  rw [turn]
  by_cases hupper : θ ≤ π
  · have harg := arg_polar hr ⟨by linarith, hupper⟩
    rw [harg, if_neg (not_lt.mpr hnonneg)]
  · have harg := @arg_polar r (θ - 2 * π) hr ⟨by linarith, by linarith⟩
    rw [cos_sub_two_pi, sin_sub_two_pi] at harg
    rw [harg, if_pos (by linarith)]
    ring

theorem directionBin_eq (way : ℝ × ℝ) : directionBin browserMath way.1 way.2 =
    Fin.ofNat 8 (min 7 ⌊turn way / (π * 2) * 8⌋₊) := by
  rw [directionBin, Nat.cast_ofNat]
  rfl

theorem directionBin_of_inSector {bin : Fin 8} {way : ℝ × ℝ} (h : InSector bin way) :
    directionBin browserMath way.1 way.2 = bin := by
  obtain ⟨r, θ, hr, hge, hlt, rfl⟩ := h
  have hpi := pi_pos
  have hlast : ((bin : ℕ) : ℝ) + 1 ≤ 8 := by
    have h := bin.isLt
    exact_mod_cast h
  have hnonneg : 0 ≤ θ := le_trans (by positivity) hge
  have hturn : θ < 2 * π := by nlinarith
  have hfloor : ⌊θ / (π * 2) * 8⌋₊ = bin := by
    have heighths : θ / (π * 2) * 8 = θ / (π / 4) := by
      field_simp
      ring
    rw [heighths, Nat.floor_eq_iff (by positivity), le_div_iff₀ (by positivity),
      div_lt_iff₀ (by positivity)]
    exact ⟨hge, hlt⟩
  rw [directionBin_eq, turn_polar hr hnonneg hturn, hfloor, min_eq_right (by omega)]
  exact Fin.ofNat_val_eq_self bin

theorem turn_mem (way : ℝ × ℝ) : 0 ≤ turn way ∧ turn way < 2 * π := by
  have hpi := pi_pos
  have hle := Complex.arg_le_pi ⟨way.1, way.2⟩
  have hlt := Complex.neg_pi_lt_arg ⟨way.1, way.2⟩
  rw [turn]
  split
  · constructor <;> linarith
  · constructor <;> linarith

theorem polar_turn (way : ℝ × ℝ) : way =
    (‖(⟨way.1, way.2⟩ : ℂ)‖ * cos (turn way), ‖(⟨way.1, way.2⟩ : ℂ)‖ * sin (turn way)) := by
  have hcos : cos (turn way) = cos (Complex.arg ⟨way.1, way.2⟩) := by
    rw [turn]
    split
    · rw [mul_comm π 2, cos_add_two_pi]
    · rfl
  have hsin : sin (turn way) = sin (Complex.arg ⟨way.1, way.2⟩) := by
    rw [turn]
    split
    · rw [mul_comm π 2, sin_add_two_pi]
    · rfl
  rw [hcos, hsin, Complex.norm_mul_cos_arg, Complex.norm_mul_sin_arg]

/-- Every way of some length lies in a sector. -/
theorem exists_inSector {way : ℝ × ℝ} (hway : way ≠ 0) : ∃ bin, InSector bin way := by
  have hpi := pi_pos
  obtain ⟨hnonneg, hlt⟩ := turn_mem way
  have hlength : 0 < ‖(⟨way.1, way.2⟩ : ℂ)‖ := by
    rw [norm_pos_iff]
    intro hzero
    exact hway (Prod.ext (congrArg Complex.re hzero) (congrArg Complex.im hzero))
  have heighths : 0 ≤ turn way / (π / 4) := by positivity
  have hbin : ⌊turn way / (π / 4)⌋₊ < 8 := by
    rw [Nat.floor_lt heighths, div_lt_iff₀ (by positivity)]
    push_cast
    linarith
  have hfloor := Nat.floor_le heighths
  have hnext := Nat.lt_floor_add_one (turn way / (π / 4))
  rw [le_div_iff₀ (by positivity)] at hfloor
  rw [div_lt_iff₀ (by positivity)] at hnext
  exact ⟨⟨_, hbin⟩, _, turn way, hlength, hfloor, hnext, polar_turn way⟩

theorem directionBin_eq_iff {bin : Fin 8} {way : ℝ × ℝ} (hway : way ≠ 0) :
    directionBin browserMath way.1 way.2 = bin ↔ InSector bin way := by
  constructor
  · intro h
    obtain ⟨sector, hsector⟩ := exists_inSector hway
    rwa [← h, directionBin_of_inSector hsector]
  · exact directionBin_of_inSector

/-! ## The entropy of the directions -/

theorem shannonEntropy_ofFn (counts : Fin 8 → ℕ) :
    shannonEntropy browserMath.log2 (List.ofFn counts) = Entropy.normalized counts := by
  have hsum : (List.ofFn counts).sum = ∑ bin, counts bin := List.sum_ofFn
  rw [shannonEntropy, hsum]
  by_cases htotal : ∑ bin, counts bin = 0
  · rw [Entropy.normalized_of_total_eq_zero htotal]
    exact if_pos htotal
  · dsimp only
    rw [if_neg htotal, foldl_entropy, List.map_ofFn, List.sum_ofFn, List.length_ofFn, zero_sub,
      ← Finset.sum_neg_distrib]
    have hterm : ∀ bin, -(((counts bin : ℝ) / (∑ bin, counts bin : ℕ)) *
        logb 2 ((counts bin : ℝ) / (∑ bin, counts bin : ℕ))) =
        negMulLog (Entropy.frequency counts bin) / log 2 := by
      intro bin
      rw [Entropy.frequency, negMulLog, logb]
      ring
    have hlog : log 2 ≠ 0 := (log_pos one_lt_two).ne'
    calc (∑ bin, -(((counts bin : ℝ) / (∑ bin, counts bin : ℕ)) *
          logb 2 ((counts bin : ℝ) / (∑ bin, counts bin : ℕ)))) / logb 2 (8 : ℕ)
        = Entropy.entropy (Entropy.frequency counts) / log 2 / logb 2 (8 : ℕ) := by
          rw [Finset.sum_congr rfl fun bin _ => hterm bin, ← Finset.sum_div]
          rfl
      _ = Entropy.normalized counts := by
          rw [Entropy.normalized, logb, div_div, mul_div_cancel₀ _ hlog, Fintype.card_fin]

open Classical in
/-- How many of the displacements lie in a sector. -/
noncomputable def sectorCount (events : List (Event ℝ)) (bin : Fin 8) : ℕ :=
  (displacements events).countP (InSector bin)

theorem ne_zero_of_mem_displacements {events : List (Event ℝ)} {way : ℝ × ℝ}
    (h : way ∈ displacements events) : way ≠ 0 := by
  rw [displacements, List.mem_filter] at h
  exact of_decide_eq_true h.2

/-- The bins count the displacements of their sectors. -/
theorem directionBins_run (events : List (Event ℝ)) (bin : Fin 8) :
    (Collector.run browserMath events).directionBins bin = sectorCount events bin := by
  classical
  rw [(keeps_run browserMath events).bins, sectorCount]
  apply List.countP_congr
  intro way hway
  simp only [decide_eq_true_eq]
  exact directionBin_eq_iff (ne_zero_of_mem_displacements hway)

theorem sum_sectorCount (events : List (Event ℝ)) :
    ∑ bin, sectorCount events bin = (displacements events).length := by
  have hbins : ∀ bin, sectorCount events bin = ((displacements events).map fun way =>
      directionBin browserMath way.1 way.2).count bin := by
    intro bin
    rw [← directionBins_run, (keeps_run browserMath events).bins, List.count, List.countP_map]
    rfl
  have hcard := Multiset.sum_count_eq_card (s := Finset.univ) (m := Multiset.ofList
    ((displacements events).map fun way => directionBin browserMath way.1 way.2))
    fun bin _ => Finset.mem_univ bin
  rw [Finset.sum_congr rfl fun bin _ => hbins bin]
  simpa using hcard

theorem sectorCount_ne_zero_iff {events : List (Event ℝ)} {bin : Fin 8} :
    sectorCount events bin ≠ 0 ↔ ∃ way ∈ displacements events, InSector bin way := by
  classical
  rw [← Nat.pos_iff_ne_zero, sectorCount, List.countP_pos_iff]
  simp

/-- Two sectors are not both used where one holds every displacement. -/
theorem one_sector_iff {events : List (Event ℝ)} :
    (∀ bin bin', sectorCount events bin ≠ 0 → sectorCount events bin' ≠ 0 → bin = bin') ↔
      ∃ bin, ∀ way ∈ displacements events, InSector bin way := by
  simp only [sectorCount_ne_zero_iff]
  constructor
  · intro h
    cases hways : displacements events with
    | nil => exact ⟨0, List.forall_mem_nil _⟩
    | cons first rest =>
        rw [hways] at h
        have hmem : first ∈ displacements events := hways ▸ List.mem_cons_self
        obtain ⟨bin, hbin⟩ := exists_inSector (ne_zero_of_mem_displacements hmem)
        refine ⟨bin, fun way hway => ?_⟩
        have hmem' : way ∈ displacements events := hways ▸ hway
        obtain ⟨other, hother⟩ := exists_inSector (ne_zero_of_mem_displacements hmem')
        rw [h bin other ⟨first, List.mem_cons_self, hbin⟩ ⟨way, hway, hother⟩]
        exact hother
  · intro h bin bin' hbin hbin'
    obtain ⟨sector, hsector⟩ := h
    obtain ⟨way, hway, hin⟩ := hbin
    obtain ⟨way', hway', hin'⟩ := hbin'
    rw [← directionBin_of_inSector hin, ← directionBin_of_inSector hin',
      directionBin_of_inSector (hsector way hway), directionBin_of_inSector (hsector way' hway')]

/-- The entropy lies in the unit interval. It is zero where all displacements lie in one
sector, and one where there are displacements, equally many in each sector. -/
theorem pointerEntropy_spec (events : List (Event ℝ)) :
    let entropy := ((Collector.run browserMath events).summarize browserMath).pointerEntropy
    (0 ≤ entropy ∧ entropy ≤ 1) ∧
      (entropy = 0 ↔ ∃ bin, ∀ way ∈ displacements events, InSector bin way) ∧
      (entropy = 1 ↔ displacements events ≠ [] ∧
        ∀ bin bin', sectorCount events bin = sectorCount events bin') := by
  intro entropy
  have hentropy : entropy = Entropy.normalized (sectorCount events) := by
    rw [← funext (directionBins_run events)]
    exact shannonEntropy_ofFn _
  rw [hentropy]
  refine ⟨⟨Entropy.normalized_nonneg, Entropy.normalized_le_one⟩, ?_, ?_⟩
  · rw [Entropy.normalized_eq_zero_iff, one_sector_iff]
  · rw [Entropy.normalized_eq_one_iff, sum_sectorCount, Ne, List.length_eq_zero_iff]

end

end TruePresenceESE.Sdk.Pointer
