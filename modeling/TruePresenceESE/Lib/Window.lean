import Mathlib

/-! # Bounded windows over time stamps

A window appends at one end, forgets its oldest item when it is full, and is pruned from
the oldest item on. Over a history in order of time it holds the last items of the history
from the latest cutoff on.
-/

namespace Window

variable {α τ : Type*} [LinearOrder τ]

/-! ## Operations -/

/-- `append` on a deque that holds at most `bound` items. -/
def push (bound : ℕ) (window : List α) (x : α) : List α := (window ++ [x]).rtake bound

/-- `popleft` as long as the oldest item is before the cutoff. -/
def prune (time : α → τ) (cutoff : τ) (window : List α) : List α :=
  window.dropWhile fun x => decide (time x < cutoff)

/-- No item is older than one before it. -/
def InOrder (time : α → τ) (history : List α) : Prop :=
  history.Pairwise fun x y => time x ≤ time y

/-- Of the last `bound` items of a history those from the cutoff on. -/
def recent (bound : ℕ) (time : α → τ) (cutoff : τ) (history : List α) : List α :=
  (history.rtake bound).filter fun x => decide (cutoff ≤ time x)

/-! ## Windows of a history -/

section
variable {bound : ℕ} {time : α → τ} {cutoff cutoff' : τ} {history : List α} {x : α}

@[simp] theorem recent_nil : recent bound time cutoff [] = [] := by
  simp [recent, List.rtake]

theorem InOrder.sublist {window : List α} (h : InOrder time history) (hsub : window.Sublist history) :
    InOrder time window :=
  List.Pairwise.sublist hsub h

theorem rtake_suffix (bound : ℕ) (history : List α) : history.rtake bound <:+ history :=
  List.drop_suffix _ history

theorem rtake_append_singleton (bound : ℕ) (history : List α) (x : α) :
    (history.rtake bound ++ [x]).rtake bound = (history ++ [x]).rtake bound := by
  cases bound with
  | zero => rw [List.rtake_zero, List.rtake_zero]
  | succ n =>
      rw [List.rtake_concat_succ, List.rtake_concat_succ, List.rtake, List.rtake, List.rtake,
        List.length_drop, List.drop_drop]
      congr 2
      omega

/-- Taking the last items and dropping old ones can be done in either order. -/
theorem filter_rtake (h : InOrder time history) (bound : ℕ) :
    (history.rtake bound).filter (fun x => decide (cutoff ≤ time x)) =
      (history.filter fun x => decide (cutoff ≤ time x)).rtake bound := by
  induction history using List.reverseRecOn generalizing bound with
  | nil => simp [List.rtake]
  | append_singleton history x ih =>
      rw [InOrder, List.pairwise_append] at h
      obtain ⟨hinit, -, hlast⟩ := h
      by_cases hx : cutoff ≤ time x
      · cases bound with
        | zero => rw [List.rtake_zero, List.rtake_zero, List.filter_nil]
        | succ n =>
            rw [List.rtake_concat_succ, List.filter_append, List.filter_append, ih hinit]
            simp [hx, List.rtake_concat_succ]
      · have hnone : ∀ y ∈ history ++ [x], ¬ cutoff ≤ time y := by
          intro y hy hcutoff
          rcases List.mem_append.mp hy with hy | hy
          · exact hx (hcutoff.trans (hlast y hy x (List.mem_singleton_self x)))
          · exact hx (List.mem_singleton.mp hy ▸ hcutoff)
        rw [List.filter_eq_nil_iff.mpr fun y hy => by
            simpa using hnone y ((rtake_suffix bound _).subset hy),
          List.filter_eq_nil_iff.mpr fun y hy => by simpa using hnone y hy, List.rtake_nil]

theorem prune_eq_filter {window : List α} (h : InOrder time window) :
    prune time cutoff window = window.filter fun x => decide (cutoff ≤ time x) := by
  unfold prune
  induction window with
  | nil => rfl
  | cons y rest ih =>
      rw [InOrder, List.pairwise_cons] at h
      by_cases hy : time y < cutoff
      · rw [List.dropWhile_cons_of_pos (by simpa using hy), ih h.2,
          List.filter_cons_of_neg (by simpa using hy)]
      · rw [List.dropWhile_cons_of_neg (by simpa using hy)]
        refine (List.filter_eq_self.mpr fun z hz => ?_).symm
        rw [decide_eq_true_iff]
        rcases List.mem_cons.mp hz with rfl | hz
        · exact not_lt.mp hy
        · exact (not_lt.mp hy).trans (h.1 z hz)

theorem rtake_rtake (bound : ℕ) (history : List α) :
    (history.rtake bound).rtake bound = history.rtake bound := by
  rw [List.rtake, List.rtake, List.length_drop, List.drop_drop]
  congr 1
  omega

/-- A later cutoff makes up for an earlier one. -/
theorem prune_prune (hle : cutoff ≤ cutoff') (window : List α) :
    prune time cutoff' (prune time cutoff window) = prune time cutoff' window := by
  unfold prune
  induction window with
  | nil => rfl
  | cons x rest ih =>
      by_cases hx : time x < cutoff
      · rw [List.dropWhile_cons_of_pos (by simpa using hx), ih,
          List.dropWhile_cons_of_pos (by simpa using hx.trans_le hle)]
      · rw [List.dropWhile_cons_of_neg (by simpa using hx)]

/-- Pruning after a push sees what pruning before it leaves. -/
theorem prune_push {window : List α} (hwindow : InOrder time (window ++ [x]))
    (hhistory : InOrder time (history ++ [x]))
    (h : prune time cutoff window = recent bound time cutoff history) :
    prune time cutoff (push bound window x) = recent bound time cutoff (history ++ [x]) := by
  have hinit : InOrder time history := hhistory.sublist (List.sublist_append_left history [x])
  have hpushed : InOrder time (push bound window x) :=
    hwindow.sublist (rtake_suffix bound _).sublist
  rw [prune_eq_filter (hwindow.sublist (List.sublist_append_left window [x])), recent,
    filter_rtake hinit] at h
  rw [prune_eq_filter hpushed, push, filter_rtake hwindow, recent, filter_rtake hhistory,
    List.filter_append, List.filter_append, h]
  by_cases hx : cutoff ≤ time x
  · simp only [List.filter_cons, hx, decide_true, if_true, List.filter_nil]
    exact rtake_append_singleton bound _ x
  · simp only [List.filter_cons, hx, decide_false, Bool.false_eq_true, if_false, List.filter_nil,
      List.append_nil]
    exact rtake_rtake bound _

theorem length_recent (h : InOrder time history) : (recent bound time cutoff history).length =
    min bound (history.countP fun x => decide (cutoff ≤ time x)) := by
  rw [recent, filter_rtake h, List.rtake, List.length_drop, List.countP_eq_length_filter]
  omega

theorem inOrder_append_singleton_iff :
    InOrder time (history ++ [x]) ↔ InOrder time history ∧ ∀ y ∈ history, time y ≤ time x := by
  simp [InOrder, List.pairwise_append]

end

/-! ## Windows that can still be read -/

/-- At the cutoffs that are still asked for the window holds what the history does. -/
structure Tracks (bound : ℕ) (time : α → τ) (asked : τ → Prop) (window history : List α) :
    Prop where
  sublist : window.Sublist history
  pruned : ∀ cutoff, asked cutoff → prune time cutoff window = recent bound time cutoff history

section
variable {bound : ℕ} {time : α → τ} {asked asked' : τ → Prop} {window history : List α} {x : α}
  {cutoff : τ}

theorem tracks_nil : Tracks bound time asked [] [] :=
  ⟨List.Sublist.slnil, fun cutoff _ => by rw [recent_nil]; rfl⟩

theorem Tracks.mono (h : Tracks bound time asked window history)
    (hasked : ∀ cutoff, asked' cutoff → asked cutoff) : Tracks bound time asked' window history :=
  ⟨h.sublist, fun cutoff hcutoff => h.pruned cutoff (hasked cutoff hcutoff)⟩

/-- Only cutoffs from the pruned one on are asked for later. -/
theorem Tracks.prune (h : Tracks bound time asked window history)
    (hle : ∀ later, asked later → cutoff ≤ later) :
    Tracks bound time asked (Window.prune time cutoff window) history where
  sublist := (List.dropWhile_sublist _).trans h.sublist
  pruned later hlater := by rw [prune_prune (hle later hlater), h.pruned later hlater]

theorem Tracks.push (h : Tracks bound time asked window history)
    (horder : InOrder time (history ++ [x])) :
    Tracks bound time asked (Window.push bound window x) (history ++ [x]) where
  sublist := (rtake_suffix bound _).sublist.trans (h.sublist.append_right [x])
  pruned later hlater :=
    prune_push (horder.sublist (h.sublist.append_right [x])) horder (h.pruned later hlater)

/-- What a reader or a writer makes of a window: it prunes at cutoffs up to a limit and
pushes new items. -/
inductive Upkeep (bound : ℕ) (time : α → τ) (limit : τ) (window : List α) :
    List α → List α → Prop where
  | keep : Upkeep bound time limit window window []
  | prune {after new : List α} {cutoff : τ} (h : Upkeep bound time limit window after new)
      (hcutoff : cutoff ≤ limit) :
      Upkeep bound time limit window (Window.prune time cutoff after) new
  | push {after new : List α} (h : Upkeep bound time limit window after new) (x : α) :
      Upkeep bound time limit window (Window.push bound after x) (new ++ [x])

theorem Tracks.upkeep {after new : List α} {limit : τ} (h : Tracks bound time asked window history)
    (hupkeep : Upkeep bound time limit window after new)
    (hlimit : ∀ later, asked later → limit ≤ later) (horder : InOrder time (history ++ new)) :
    Tracks bound time asked after (history ++ new) := by
  induction hupkeep with
  | keep => rwa [List.append_nil]
  | prune _ hcutoff ih => exact (ih horder).prune fun later hlater => hcutoff.trans (hlimit later hlater)
  | push _ x ih =>
      rw [← List.append_assoc] at horder ⊢
      exact (ih (horder.sublist (List.sublist_append_left _ [x]))).push horder

end

end Window
