import Mathlib

/-! # Names made distinct by a number

The first of equal names stays, each further one is numbered by its rank among them. Ranks
tell all members of a list apart, so that two of the names can only meet where a numbered
one was in the list from the start.
-/

namespace NumberedNames

variable {κ : Type*} [DecidableEq κ]

/-- Each member next to its rank among its equals, counted on from those seen. -/
def ranks (seen : List κ) : List κ → List (κ × ℕ)
  | [] => []
  | k :: rest => (k, seen.count k + 1) :: ranks (k :: seen) rest

/-- The first of its kind goes under its own name. -/
def named (number : κ → ℕ → κ) (p : κ × ℕ) : κ := if p.2 = 1 then p.1 else number p.1 p.2

theorem mem_ranks {seen ks : List κ} {k : κ} {n : ℕ} :
    (k, n) ∈ ranks seen ks ↔ seen.count k < n ∧ n ≤ seen.count k + ks.count k := by
  induction ks generalizing seen with
  | nil =>
      simp only [ranks, List.not_mem_nil, List.count_nil, false_iff]
      omega
  | cons j rest ih =>
      rw [ranks, List.mem_cons, Prod.mk.injEq, ih]
      by_cases hk : k = j
      · subst hk
        rw [List.count_cons_self, List.count_cons_self]
        simp only [true_and]
        omega
      · rw [List.count_cons_of_ne (Ne.symm hk), List.count_cons_of_ne (Ne.symm hk)]
        simp only [hk, false_and, false_or]

theorem length_ranks (seen ks : List κ) : (ranks seen ks).length = ks.length := by
  induction ks generalizing seen with
  | nil => rfl
  | cons k rest ih => rw [ranks, List.length_cons, List.length_cons, ih]

theorem nodup_ranks (seen ks : List κ) : (ranks seen ks).Nodup := by
  induction ks generalizing seen with
  | nil => exact List.nodup_nil
  | cons k rest ih =>
      rw [ranks, List.nodup_cons, mem_ranks, List.count_cons_self]
      exact ⟨by omega, ih (k :: seen)⟩

/-- The names are distinct exactly if no numbered one that is given out was there before. -/
theorem nodup_named_iff {number : κ → ℕ → κ}
    (hinj : ∀ {k n k' n'}, number k n = number k' n' → k = k' ∧ n = n') (ks : List κ) :
    ((ranks [] ks).map (named number)).Nodup ↔
      ∀ k n, 2 ≤ n → n ≤ ks.count k → number k n ∉ ks := by
  rw [List.nodup_map_iff_inj_on (nodup_ranks [] ks)]
  constructor
  · intro h k n htwo hcount hmem
    have hnumbered : (k, n) ∈ ranks [] ks := by
      rw [mem_ranks, List.count_nil]
      omega
    have hfirst : (number k n, 1) ∈ ranks [] ks := by
      have hpos := List.count_pos_iff.2 hmem
      rw [mem_ranks, List.count_nil]
      omega
    have hne : n ≠ 1 := by omega
    have hsame := h _ hnumbered _ hfirst (by rw [named, named, if_neg hne, if_pos rfl])
    exact hne (Prod.mk.inj hsame).2
  · rintro h ⟨k, n⟩ hp ⟨k', n'⟩ hq heq
    rw [mem_ranks, List.count_nil, zero_add] at hp hq
    simp only [named] at heq
    by_cases hn : n = 1 <;> by_cases hn' : n' = 1
    · rw [if_pos hn, if_pos hn'] at heq
      rw [heq, hn, hn']
    · rw [if_pos hn, if_neg hn'] at heq
      have hmem : k ∈ ks := List.count_pos_iff.1 (by omega)
      rw [heq] at hmem
      exact absurd hmem (h k' n' (by omega) hq.2)
    · rw [if_neg hn, if_pos hn'] at heq
      have hmem : k' ∈ ks := List.count_pos_iff.1 (by omega)
      rw [← heq] at hmem
      exact absurd hmem (h k n (by omega) hp.2)
    · rw [if_neg hn, if_neg hn'] at heq
      obtain ⟨hk, hn⟩ := hinj heq
      rw [hk, hn]

/-! ## Searches for a free name -/

/-- The names that are taken, the searches that run, each with the number it tries next, and
what has been given out. -/
structure Searches (κ α : Type*) where
  taken : α → Bool
  running : List (κ × ℕ)
  given : List (κ × ℕ)

namespace Searches

inductive Event (κ α : Type*) where
  /-- Names are taken and searches begin. -/
  | others (more : α → Bool) (arrivals : List κ)
  | probe (i : ℕ)

section
variable {κ α : Type*} (name : κ → ℕ → α)

def probe (s : Searches κ α) (i : ℕ) : Searches κ α :=
  match s.running[i]? with
  | none => s
  | some p =>
      if s.taken (name p.1 p.2) then { s with running := s.running.set i (p.1, p.2 + 1) }
      else { s with running := s.running.eraseIdx i, given := s.given ++ [p] }

def step (s : Searches κ α) : Event κ α → Searches κ α
  | .others more arrivals => { s with
      taken := fun a => s.taken a || more a
      running := s.running ++ arrivals.map (·, 1) }
  | .probe i => s.probe name i

def run (s : Searches κ α) (events : List (Event κ α)) : Searches κ α := events.foldl (step name) s

/-- The search that the event ends with a name. -/
def Gives (s : Searches κ α) (event : Event κ α) (p : κ × ℕ) : Prop :=
  ∃ i, event = .probe i ∧ s.running[i]? = some p ∧ s.taken (name p.1 p.2) = false

/-- A name of the key has been given out and is not taken. -/
def Pending (s : Searches κ α) (k : κ) : Prop :=
  ∃ n, (k, n) ∈ s.given ∧ s.taken (name k n) = false

/-- No search ends while a name of its key is pending. -/
def Orderly (s : Searches κ α) : List (Event κ α) → Prop
  | [] => True
  | event :: rest =>
      (∀ p, s.Gives name event p → ¬ s.Pending name p.1) ∧ Orderly (s.step name event) rest

/-- The names before the one that is tried or given out are taken. -/
structure Tried (s : Searches κ α) : Prop where
  pos : ∀ p ∈ s.running ++ s.given, 1 ≤ p.2
  before : ∀ p ∈ s.running ++ s.given, ∀ n, 1 ≤ n → n < p.2 → s.taken (name p.1 n) = true

end

section
variable {κ α : Type*} {name : κ → ℕ → α} {s : Searches κ α}

/-- An event ends a search, or leaves what has been given and moves searches on. -/
theorem step_cases (name : κ → ℕ → α) (s : Searches κ α) (event : Event κ α) :
    (∃ p ∈ s.running, s.Gives name event p ∧ (s.step name event).taken = s.taken ∧
        (s.step name event).given = s.given ++ [p] ∧ (s.step name event).running ⊆ s.running) ∨
      (∀ p, ¬ s.Gives name event p) ∧ (s.step name event).given = s.given ∧
        (∀ a, s.taken a = true → (s.step name event).taken a = true) ∧
        ∀ p ∈ (s.step name event).running, p ∈ s.running ∨ p.2 = 1 ∨
          ∃ n, p = (p.1, n + 1) ∧ (p.1, n) ∈ s.running ∧ s.taken (name p.1 n) = true := by
  cases event with
  | others more arrivals =>
      refine .inr ⟨?_, rfl, fun a ha => by simp [step, ha], fun p hp => ?_⟩
      · rintro p ⟨i, hi, -⟩
        cases hi
      · rcases List.mem_append.mp hp with hp | hp
        · exact .inl hp
        · obtain ⟨k, -, rfl⟩ := List.mem_map.mp hp
          exact .inr (.inl rfl)
  | probe i =>
      rw [step]
      unfold probe
      cases hrunning : s.running[i]? with
      | none =>
          refine .inr ⟨?_, rfl, fun a ha => ha, fun p hp => .inl hp⟩
          rintro p ⟨j, hj, hsearch, -⟩
          cases hj
          rw [hrunning] at hsearch
          cases hsearch
      | some p =>
          have hmem : p ∈ s.running := List.mem_of_getElem? hrunning
          dsimp only
          cases htaken : s.taken (name p.1 p.2) with
          | false =>
              exact .inl ⟨p, hmem, ⟨i, rfl, hrunning, htaken⟩, rfl, rfl, List.eraseIdx_subset⟩
          | true =>
              refine .inr ⟨?_, rfl, fun a ha => ha, fun q hq => ?_⟩
              · rintro q ⟨j, hj, hsearch, hfree⟩
                cases hj
                rw [hrunning, Option.some.injEq] at hsearch
                rw [hsearch, hfree] at htaken
                cases htaken
              · rcases List.mem_or_eq_of_mem_set hq with hq | rfl
                · exact .inl hq
                · exact .inr (.inr ⟨p.2, rfl, hmem, htaken⟩)

theorem Tried.step (h : s.Tried name) (event : Event κ α) : (s.step name event).Tried name := by
  rcases step_cases name s event with
    ⟨p, hp, -, htaken, hgiven, hrunning⟩ | ⟨-, hgiven, htaken, hrunning⟩
  · have hold : ∀ q ∈ (s.step name event).running ++ (s.step name event).given,
        q ∈ s.running ++ s.given := by
      intro q hq
      rw [hgiven] at hq
      simp only [List.mem_append, List.mem_singleton] at hq ⊢
      rcases hq with hq | hq | rfl
      · exact .inl (hrunning hq)
      · exact .inr hq
      · exact .inl hp
    refine ⟨fun q hq => h.pos q (hold q hq), fun q hq n hn hlt => ?_⟩
    rw [htaken]
    exact h.before q (hold q hq) n hn hlt
  · have hold : ∀ q ∈ (s.step name event).running ++ (s.step name event).given,
        q ∈ s.running ++ s.given ∨ q.2 = 1 ∨
          ∃ n, q = (q.1, n + 1) ∧ (q.1, n) ∈ s.running ∧ s.taken (name q.1 n) = true := by
      intro q hq
      rw [hgiven, List.mem_append] at hq
      rcases hq with hq | hq
      · exact (hrunning q hq).imp_left (List.mem_append_left _)
      · exact .inl (List.mem_append_right _ hq)
    refine ⟨fun q hq => ?_, fun q hq n hn hlt => htaken _ ?_⟩
    · rcases hold q hq with hq | hq | ⟨m, hq, -⟩
      · exact h.pos q hq
      · exact hq.ge
      · rw [hq]
        exact Nat.le_add_left 1 m
    · rcases hold q hq with hq | hq | ⟨m, hq, hm, hfound⟩
      · exact h.before q hq n hn hlt
      · omega
      · rw [hq] at hlt
        rcases Nat.lt_succ_iff_lt_or_eq.mp hlt with hlt | rfl
        · exact h.before _ (List.mem_append_left _ hm) n hn hlt
        · exact hfound

/-- A search comes to a name that has been given out before exactly if one of its key is
still pending. -/
theorem Tried.given_iff (h : s.Tried name) {event : Event κ α} {p : κ × ℕ}
    (hgives : s.Gives name event p) : p ∈ s.given ↔ s.Pending name p.1 := by
  obtain ⟨i, -, hrunning, hfree⟩ := hgives
  have hp : p ∈ s.running ++ s.given := List.mem_append_left _ (List.mem_of_getElem? hrunning)
  constructor
  · exact fun hgiven => ⟨p.2, hgiven, hfree⟩
  · rintro ⟨n, hgiven, hpending⟩
    have hq : (p.1, n) ∈ s.running ++ s.given := List.mem_append_right _ hgiven
    rcases lt_trichotomy n p.2 with hlt | heq | hlt
    · rw [h.before p hp n (h.pos _ hq) hlt] at hpending
      cases hpending
    · rwa [heq] at hgiven
    · rw [h.before _ hq p.2 (h.pos p hp) hlt] at hfree
      cases hfree

theorem Tried.nodup_step_iff (h : s.Tried name) (event : Event κ α) :
    (s.step name event).given.Nodup ↔
      s.given.Nodup ∧ ∀ p, s.Gives name event p → ¬ s.Pending name p.1 := by
  rcases step_cases name s event with ⟨p, -, hgives, -, hgiven, -⟩ | ⟨hnone, hgiven, -⟩
  · have hsame : ∀ q, s.Gives name event q → q = p := by
      rintro q ⟨i, rfl, hq, -⟩
      obtain ⟨j, hj, hp, -⟩ := hgives
      cases hj
      exact Option.some.inj (hq.symm.trans hp)
    rw [hgiven, ← List.concat_eq_append, List.nodup_concat, and_comm, h.given_iff hgives]
    refine and_congr_right fun _ => ⟨fun hnot q hq => ?_, fun hall => hall p hgives⟩
    rwa [hsame q hq]
  · rw [hgiven]
    exact (and_iff_left fun p hp => absurd hp (hnone p)).symm

/-- What is given out over a run is distinct exactly if the run is orderly. -/
theorem Tried.nodup_run_iff (h : s.Tried name) (events : List (Event κ α)) :
    (s.run name events).given.Nodup ↔ s.given.Nodup ∧ s.Orderly name events := by
  induction events generalizing s with
  | nil => exact (and_iff_left trivial).symm
  | cons event rest ih =>
      have hrun : s.run name (event :: rest) = (s.step name event).run name rest := rfl
      rw [hrun, ih (h.step event), h.nodup_step_iff, Orderly, and_assoc]

theorem run_probes {i m : ℕ} {p : κ × ℕ} (hrunning : s.running[i]? = some p)
    (htaken : ∀ j < m, s.taken (name p.1 (p.2 + j)) = true)
    (hfree : s.taken (name p.1 (p.2 + m)) = false) :
    s.run name (List.replicate (m + 1) (.probe i)) =
      { s with running := s.running.eraseIdx i, given := s.given ++ [(p.1, p.2 + m)] } := by
  induction m generalizing s p with
  | zero =>
      have hprobe : s.run name (List.replicate 1 (.probe i)) = s.probe name i := rfl
      rw [hprobe, probe, hrunning]
      exact if_neg (by simpa using hfree)
  | succ m ih =>
      have hnext : s.probe name i = { s with running := s.running.set i (p.1, p.2 + 1) } := by
        rw [probe, hrunning]
        exact if_pos (htaken 0 (Nat.succ_pos m))
      have hrun : s.run name (List.replicate (m + 2) (.probe i)) =
          (s.probe name i).run name (List.replicate (m + 1) (.probe i)) := rfl
      have hlt : i < s.running.length := (List.getElem?_eq_some_iff.mp hrunning).1
      rw [hrun, hnext, @ih { s with running := s.running.set i (p.1, p.2 + 1) } (p.1, p.2 + 1)
        (List.getElem?_set_self hlt) ?_ ?_]
      · dsimp only
        rw [List.eraseIdx_set_eq, Nat.add_right_comm, Nat.add_assoc]
      · intro j hj
        dsimp only
        rw [Nat.add_assoc, Nat.add_comm 1 j]
        exact htaken (j + 1) (Nat.succ_lt_succ hj)
      · dsimp only
        rw [Nat.add_assoc, Nat.add_comm 1 m]
        exact hfree

/-- Left alone, a search ends after one name more than are taken at the most. -/
theorem exists_given (hinj : ∀ k, Function.Injective (name k)) {takenNames : List α}
    (htaken : ∀ a, s.taken a = true → a ∈ takenNames) {i : ℕ} {p : κ × ℕ}
    (hrunning : s.running[i]? = some p) :
    ∃ m ≤ takenNames.length, s.taken (name p.1 (p.2 + m)) = false ∧
      s.run name (List.replicate (m + 1) (.probe i)) =
        { s with running := s.running.eraseIdx i, given := s.given ++ [(p.1, p.2 + m)] } := by
  have hexists : ∃ m, s.taken (name p.1 (p.2 + m)) = false ∧ m ≤ takenNames.length := by
    by_contra hnone
    push Not at hnone
    have hsubset : (List.range (takenNames.length + 1)).map (fun m => name p.1 (p.2 + m)) ⊆
        takenNames := by
      intro a ha
      obtain ⟨m, hm, rfl⟩ := List.mem_map.mp ha
      have hlt := List.mem_range.mp hm
      refine htaken _ (Bool.eq_true_of_not_eq_false fun hfree => ?_)
      have hlong := hnone m hfree
      omega
    have hnodup : ((List.range (takenNames.length + 1)).map fun m => name p.1 (p.2 + m)).Nodup :=
      List.nodup_range.map fun m m' heq => Nat.add_left_cancel (hinj p.1 heq)
    have hlength := (hnodup.subperm hsubset).length_le
    rw [List.length_map, List.length_range] at hlength
    omega
  obtain ⟨m, ⟨hfree, hm⟩, hleast⟩ := Nat.findX hexists
  refine ⟨m, hm, hfree, run_probes hrunning (fun j hj => ?_) hfree⟩
  refine Bool.eq_true_of_not_eq_false fun hj' => hleast j hj ⟨hj', ?_⟩
  omega

end

end Searches

end NumberedNames
