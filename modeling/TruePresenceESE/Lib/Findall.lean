import Mathlib

/-! # Matches that do not overlap

A text is searched from left to right. At each place a pattern gives the ends of its matches in
the order in which they are tried: the first is taken, and after an empty one the first that is
not. The next match begins where the last one ended, or later. Alternatives that are added to a
pattern are tried after its own.
-/

namespace Findall

/-! ## One place -/

/-- The ends that are taken at a place, of those tried there. -/
def taken (place : Nat) : List Nat → List Nat
  | [] => []
  | e :: rest => if e = place then place :: (rest.find? (· ≠ place)).toList else [e]

/-- Where the search goes on. -/
def after (place : Nat) (tried : List Nat) : Nat :=
  max (place + 1) ((taken place tried).getLast?.getD place)

/-- What more alternatives add to the ends that are taken. -/
def added (place : Nat) (tried more : List Nat) : List Nat :=
  (taken place (tried ++ more)).drop (taken place tried).length

section
variable {place : Nat} {tried more : List Nat}

theorem lt_after (place : Nat) (tried : List Nat) : place < after place tried :=
  lt_of_lt_of_le (Nat.lt_succ_self place) (le_max_left _ _)

theorem taken_prefix (place : Nat) (tried more : List Nat) :
    taken place tried <+: taken place (tried ++ more) := by
  cases tried with
  | nil => exact List.nil_prefix
  | cons e rest =>
      rw [List.cons_append, taken, taken]
      split
      · rw [List.find?_append]
        cases rest.find? (· ≠ place) with
        | none => simp
        | some e' => simp
      · exact List.prefix_rfl

theorem taken_append (place : Nat) (tried more : List Nat) :
    taken place (tried ++ more) = taken place tried ++ added place tried more := by
  obtain ⟨back, hback⟩ := taken_prefix place tried more
  rw [added, ← hback, List.drop_left]

/-- Only the last of the ends taken at a place lies behind it. -/
theorem eq_of_mem_dropLast_taken {e : Nat} (h : e ∈ (taken place tried).dropLast) : e = place := by
  cases tried with
  | nil => simp [taken] at h
  | cons first rest =>
      rw [taken] at h
      split at h
      · cases hfind : rest.find? (· ≠ place) with
        | none =>
            rw [hfind] at h
            simp at h
        | some e' =>
            rw [hfind] at h
            exact List.mem_singleton.mp h
      · simp at h

theorem after_append (h : added place tried more = []) :
    after place (tried ++ more) = after place tried := by
  rw [after, taken_append place tried more, h, List.append_nil]
  rfl

/-- More alternatives add nothing where the search would not have gone on to the next place. -/
theorem after_of_added (h : added place tried more ≠ []) : after place tried = place + 1 := by
  cases tried with
  | nil => simp [after, taken]
  | cons e rest =>
      rw [added, List.cons_append, taken, taken] at h
      rw [after, taken]
      split at h
      · next he =>
          rw [if_pos he]
          rw [List.find?_append] at h
          cases hfind : rest.find? (· ≠ place) with
          | none => simp
          | some e' =>
              rw [hfind] at h
              simp at h
      · simp at h

end

/-! ## A text -/

section
variable {α : Type*} (report : Nat → List α) (next : Nat → Nat)

/-- The reports of `left` places; those before `free` are passed over. -/
def walk : Nat → Nat → Nat → List α
  | 0, _, _ => []
  | left + 1, place, free =>
      if place < free then walk left (place + 1) free
      else report place ++ walk left (place + 1) (next place)

def walkFrom (last place : Nat) : List α := walk report next (last + 1 - place) place place

variable {report next}

theorem walk_skip {left place free : Nat} (h : place ≤ free) :
    walk report next left place free = walk report next (left - (free - place)) free free := by
  induction left generalizing place with
  | zero => simp [walk]
  | succ left ih =>
      rcases Nat.eq_or_lt_of_le h with rfl | hlt
      · simp
      · rw [walk, if_pos hlt, ih hlt]
        congr 1
        omega

theorem walkFrom_of_lt {last place : Nat} (h : last < place) :
    walkFrom report next last place = [] := by
  rw [walkFrom, Nat.sub_eq_zero_of_le h, walk]

theorem walkFrom_of_le {last place : Nat} (h : place ≤ last) (hnext : place < next place) :
    walkFrom report next last place =
      report place ++ walkFrom report next last (next place) := by
  have hleft : last + 1 - place = last - place + 1 := by omega
  rw [walkFrom, hleft, walk, if_neg (Nat.lt_irrefl place), walk_skip hnext, walkFrom]
  congr 2
  omega

end

section
variable (ends more : Nat → List Nat) (last : Nat)

/-- The matches of a search that begins at a place. -/
def search (place : Nat) : List (Nat × Nat) :=
  walkFrom (fun i => (taken i (ends i)).map (i, ·)) (fun i => after i (ends i)) last place

def findall : List (Nat × Nat) := search ends last 0

/-- More alternatives, tried after the others. -/
def alternatives (i : Nat) : List Nat := ends i ++ more i

/-- The matches that are found by the added alternatives. -/
def extras (place : Nat) : List (Nat × Nat) :=
  walkFrom (fun i => (added i (ends i) (more i)).map (i, ·))
    (fun i => after i (alternatives ends more i)) last place

/-- How many matches of the others a search behind a match finds less than one from its second
place on. -/
def lost (found : Nat × Nat) : ℤ :=
  (search ends last (found.1 + 1)).length - (search ends last (max (found.1 + 1) found.2)).length

def lostTo (found : List (Nat × Nat)) : ℤ := (found.map (lost ends last)).sum

variable {ends more last}

theorem search_of_le {place : Nat} (h : place ≤ last) :
    search ends last place =
      (taken place (ends place)).map (place, ·) ++ search ends last (after place (ends place)) :=
  walkFrom_of_le h (lt_after _ _)

theorem extras_of_le {place : Nat} (h : place ≤ last) :
    extras ends more last place =
      (added place (ends place) (more place)).map (place, ·) ++
        extras ends more last (after place (alternatives ends more place)) :=
  walkFrom_of_le h (lt_after _ _)

theorem lostTo_append (front back : List (Nat × Nat)) :
    lostTo ends last (front ++ back) = lostTo ends last front + lostTo ends last back := by
  rw [lostTo, List.map_append, List.sum_append]
  rfl

theorem lost_self (place : Nat) : lost ends last (place, place) = 0 := by
  simp [lost]

variable (ends more last) in
/-- What is lost to the matches added at a place. -/
theorem lostTo_added (place : Nat) :
    lostTo ends last ((added place (ends place) (more place)).map (place, ·)) =
      (search ends last (after place (ends place))).length -
        (search ends last (after place (alternatives ends more place))).length := by
  by_cases hadded : added place (ends place) (more place) = []
  · rw [hadded, alternatives, after_append hadded]
    simp [lostTo]
  · have htaken := taken_append place (ends place) (more place)
    rw [after_of_added hadded, alternatives, after, htaken]
    -- all but the last of the added ends are the place itself
    have hfront : ∀ e ∈ (added place (ends place) (more place)).dropLast, e = place := by
      intro e he
      have hlater : e ∈ (taken place (ends place ++ more place)).dropLast := by
        rw [htaken, List.dropLast_append_of_ne_nil hadded]
        exact List.mem_append_right _ he
      exact eq_of_mem_dropLast_taken hlater
    rw [← List.dropLast_append_getLast hadded, List.map_append, lostTo_append]
    have hzero : lostTo ends last
        ((added place (ends place) (more place)).dropLast.map (place, ·)) = 0 := by
      rw [lostTo, List.map_map]
      refine List.sum_eq_zero fun x hx => ?_
      obtain ⟨e, he, rfl⟩ := List.mem_map.mp hx
      rw [Function.comp_apply, hfront e he, lost_self]
    rw [hzero, zero_add]
    simp [lostTo, lost]

variable (ends more last) in
/-- Each added match counts, and costs what is lost to it. -/
theorem length_search_alternatives (place : Nat) :
    ((search (alternatives ends more) last place).length : ℤ) +
        lostTo ends last (extras ends more last place) =
      (search ends last place).length + (extras ends more last place).length := by
  induction hleft : last + 1 - place using Nat.strong_induction_on generalizing place with
  | _ left ih =>
      by_cases hplace : place ≤ last
      · have hlt := lt_after place (alternatives ends more place)
        have hrest := ih _ (by omega) (after place (alternatives ends more place)) rfl
        have hlost := lostTo_added ends more last place
        have htaken := taken_append place (ends place) (more place)
        rw [search_of_le hplace, search_of_le hplace, extras_of_le hplace, lostTo_append, hlost]
        simp only [List.length_append, List.length_map, Nat.cast_add]
        rw [show taken place (alternatives ends more place) = _ from htaken, List.length_append]
        push_cast
        linarith
      · rw [Nat.not_le] at hplace
        simp [search, extras, walkFrom_of_lt hplace, lostTo]

/-- With matches counted up to a bound, added alternatives lower no count exactly if what is lost
to them is made up by their matches and by the matches beyond the bound. -/
theorem min_findall_le_iff (bound : Nat) :
    min bound (findall ends last).length ≤
        min bound (findall (alternatives ends more) last).length ↔
      lostTo ends last (extras ends more last 0) ≤
        (extras ends more last 0).length + ((findall ends last).length - bound : Nat) := by
  have hcount := length_search_alternatives ends more last 0
  unfold findall
  omega

/-! ## Matches that keep apart -/

theorem search_of_unmatched {place stop : Nat} (hle : place ≤ stop)
    (h : ∀ i, place ≤ i → i < stop → ends i = []) :
    search ends last place = search ends last stop := by
  induction hle using Nat.decreasingInduction with
  | self => rfl
  | of_succ i hi ih =>
      rw [← ih fun j hj => h j (Nat.le_of_succ_le hj)]
      by_cases hlast : i ≤ last
      · rw [search_of_le hlast, h i le_rfl hi]
        simp [taken, after]
      · rw [Nat.not_le] at hlast
        rw [search, search, walkFrom_of_lt hlast, walkFrom_of_lt (Nat.lt_succ_of_lt hlast)]

/-- Nothing is lost to a match within which no other begins. -/
theorem lost_of_apart {found : Nat × Nat} (h : ∀ i, found.1 < i → i < found.2 → ends i = []) :
    lost ends last found = 0 := by
  rw [lost, search_of_unmatched (le_max_left _ found.2), sub_self]
  intro i hi hstop
  rcases lt_max_iff.mp hstop with hnext | hend
  · omega
  · exact h i hi hend

theorem lostTo_of_apart {all : List (Nat × Nat)}
    (h : ∀ found ∈ all, ∀ i, found.1 < i → i < found.2 → ends i = []) :
    lostTo ends last all = 0 := by
  refine List.sum_eq_zero fun x hx => ?_
  obtain ⟨found, hfound, rfl⟩ := List.mem_map.mp hx
  exact lost_of_apart (h found hfound)

end

end Findall
