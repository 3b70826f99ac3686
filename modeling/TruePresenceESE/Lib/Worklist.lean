import Mathlib

/-! # Exploring a graph from a stack

A stack holds the vertices still to look at, and each vertex is expanded once: one
turn for the start and one for every edge are enough.
-/

namespace Worklist

variable {α : Type*} [DecidableEq α]

/-- The vertices visited by the time the stack is empty; `none` where the fuel ends
before. -/
def explore (next : α → List α) : Nat → List α → List α → Option (List α)
  | _, [], visited => some visited
  | 0, _ :: _, _ => none
  | fuel + 1, v :: stack, visited =>
      if v ∈ visited then explore next fuel stack visited
      else explore next fuel (((next v).filter (· ∉ visited ++ [v])).reverse ++ stack)
        (visited ++ [v])

/-- What the neighbors of a vertex inherit from it, every visited vertex has. -/
theorem explore_invariant {next : α → List α} {P : α → Prop} {fuel : Nat}
    {stack visited result : List α} (hnext : ∀ v, P v → ∀ w ∈ next v, P w)
    (hstack : ∀ v ∈ stack, P v) (hvisited : ∀ v ∈ visited, P v)
    (h : explore next fuel stack visited = some result) : ∀ v ∈ result, P v := by
  induction fuel generalizing stack visited with
  | zero =>
      cases stack with
      | nil =>
          cases h
          exact hvisited
      | cons v stack => cases h
  | succ fuel ih =>
      cases stack with
      | nil =>
          cases h
          exact hvisited
      | cons v stack =>
          rw [List.forall_mem_cons] at hstack
          rw [explore] at h
          split at h
          · exact ih hstack.2 hvisited h
          · refine ih ?_ ?_ h
            · intro w hw
              rcases List.mem_append.mp hw with hw | hw
              · exact hnext v hstack.1 w (List.mem_of_mem_filter (List.mem_reverse.mp hw))
              · exact hstack.2 w hw
            · intro w hw
              rcases List.mem_append.mp hw with hw | hw
              · exact hvisited w hw
              · exact List.mem_singleton.mp hw ▸ hstack.1

/-- The edges out of a vertex that is still unvisited. -/
def degree (next : α → List α) (visited : List α) (v : α) : Nat :=
  if v ∈ visited then 0 else (next v).length

def pending (next : α → List α) (vertices visited : List α) : Nat :=
  (vertices.map (degree next visited)).sum

theorem degree_visit_le (next : α → List α) (visited : List α) (v w : α) :
    degree next (visited ++ [v]) w ≤ degree next visited w := by
  unfold degree
  by_cases hw : w ∈ visited
  · simp [hw]
  · rw [if_neg hw]
    split
    · exact Nat.zero_le _
    · exact le_rfl

theorem pending_visit {next : α → List α} {vertices visited : List α} {v : α}
    (hv : v ∈ vertices) (hnew : v ∉ visited) :
    pending next vertices (visited ++ [v]) + (next v).length ≤ pending next vertices visited := by
  unfold pending
  induction vertices with
  | nil => cases hv
  | cons w rest ih =>
      rw [List.map_cons, List.map_cons, List.sum_cons, List.sum_cons]
      rcases List.mem_cons.mp hv with rfl | hrest
      · have hbefore : degree next visited v = (next v).length := if_neg hnew
        have hafter : degree next (visited ++ [v]) v = 0 := if_pos (by simp)
        have hothers : (rest.map (degree next (visited ++ [v]))).sum ≤
            (rest.map (degree next visited)).sum :=
          List.sum_le_sum fun w _ => degree_visit_le next visited v w
        omega
      · have hothers := ih hrest
        have hone := degree_visit_le next visited v w
        omega

/-- With fuel for the stack and for the pending edges the exploration comes to an end. -/
theorem explore_isSome {next : α → List α} {vertices : List α} {fuel : Nat}
    {stack visited : List α} (hvertices : ∀ v ∉ vertices, next v = [])
    (hfuel : stack.length + pending next vertices visited ≤ fuel) :
    (explore next fuel stack visited).isSome := by
  induction fuel generalizing stack visited with
  | zero =>
      cases stack with
      | nil => rfl
      | cons v stack => simp at hfuel
  | succ fuel ih =>
      cases stack with
      | nil => rfl
      | cons v stack =>
          rw [List.length_cons] at hfuel
          rw [explore]
          split
          · exact ih (by omega)
          · rename_i hnew
            refine ih ?_
            have hpushed : ((next v).filter (· ∉ visited ++ [v])).length ≤ (next v).length :=
              List.length_filter_le _ _
            rw [List.length_append, List.length_reverse]
            by_cases hv : v ∈ vertices
            · have := @pending_visit _ _ next _ _ _ hv hnew
              omega
            · have hdegree : (next v).length = 0 := by rw [hvertices v hv, List.length_nil]
              have hsame : pending next vertices (visited ++ [v]) = pending next vertices visited := by
                refine congrArg List.sum (List.map_congr_left fun w hw => ?_)
                have hne : w ≠ v := fun heq => hv (heq ▸ hw)
                simp [degree, hne]
              rw [hsame]
              omega

/-! ## What an exploration finds -/

section
variable {next : α → List α} {fuel : Nat} {stack visited result : List α}

theorem explore_nodup (hvisited : visited.Nodup)
    (h : explore next fuel stack visited = some result) : result.Nodup := by
  induction fuel generalizing stack visited with
  | zero =>
      cases stack with
      | nil =>
          cases h
          exact hvisited
      | cons v stack => cases h
  | succ fuel ih =>
      cases stack with
      | nil =>
          cases h
          exact hvisited
      | cons v stack =>
          rw [explore] at h
          split at h
          · exact ih hvisited h
          · rename_i hnew
            refine ih ?_ h
            rw [List.nodup_append]
            refine ⟨hvisited, List.nodup_singleton v, fun w hw u hu heq => ?_⟩
            rw [List.mem_singleton] at hu
            exact hnew (hu ▸ heq ▸ hw)

/-- As long as every neighbor of a visited vertex is visited or waits on the stack, the
vertices found at the end are closed under neighbors. -/
theorem explore_closed (hwaiting : ∀ v ∈ visited, ∀ w ∈ next v, w ∈ visited ∨ w ∈ stack)
    (h : explore next fuel stack visited = some result) :
    (∀ v, v ∈ visited ∨ v ∈ stack → v ∈ result) ∧ ∀ v ∈ result, ∀ w ∈ next v, w ∈ result := by
  induction fuel generalizing stack visited with
  | zero =>
      cases stack with
      | nil =>
          cases h
          simpa using hwaiting
      | cons v stack => cases h
  | succ fuel ih =>
      cases stack with
      | nil =>
          cases h
          simpa using hwaiting
      | cons u stack =>
          rw [explore] at h
          split at h
          · rename_i hseen
            have hskip : ∀ w, w ∈ visited ∨ w ∈ u :: stack → w ∈ visited ∨ w ∈ stack := by
              intro w hw
              rcases hw with hw | hw
              · exact .inl hw
              · rcases List.mem_cons.mp hw with rfl | hw
                · exact .inl hseen
                · exact .inr hw
            obtain ⟨hkept, hclosed⟩ := ih (fun v hv w hw => hskip w (hwaiting v hv w hw)) h
            exact ⟨fun v hv => hkept v (hskip v hv), hclosed⟩
          · have hmoved : ∀ w, w ∈ visited ∨ w ∈ u :: stack ∨ w ∈ next u →
                w ∈ visited ++ [u] ∨
                  w ∈ ((next u).filter (· ∉ visited ++ [u])).reverse ++ stack := by
              intro w hw
              by_cases hseen : w ∈ visited ++ [u]
              · exact .inl hseen
              · refine .inr (List.mem_append.mpr ?_)
                rw [List.mem_append, List.mem_singleton, not_or] at hseen
                rcases hw with hw | hw | hw
                · exact absurd hw hseen.1
                · rcases List.mem_cons.mp hw with rfl | hw
                  · exact absurd rfl hseen.2
                  · exact .inr hw
                · exact .inl (by simp [hw, hseen.1, hseen.2])
            obtain ⟨hkept, hclosed⟩ := ih (fun v hv w hw => by
              apply hmoved
              rcases List.mem_append.mp hv with hv | hv
              · rcases hwaiting v hv w hw with hw | hw
                · exact .inl hw
                · exact .inr (.inl hw)
              · rw [List.mem_singleton] at hv
                exact .inr (.inr (hv ▸ hw))) h
            exact ⟨fun v hv => hkept v (hmoved v (hv.imp_right .inl)), hclosed⟩

/-- From one start an exploration finds what can be reached from it. -/
theorem mem_explore_iff {start v : α} (h : explore next fuel [start] [] = some result) :
    v ∈ result ↔ Relation.ReflTransGen (fun u w => w ∈ next u) start v := by
  constructor
  · refine fun hv => explore_invariant (fun u hu w hw => ?_) ?_ (by simp) h v hv
    · exact Relation.ReflTransGen.tail hu hw
    · exact List.forall_mem_singleton.mpr .refl
  · intro hreach
    obtain ⟨hkept, hclosed⟩ := explore_closed (by simp) h
    induction hreach with
    | refl => exact hkept start (.inr List.mem_cons_self)
    | tail _ hedge ih => exact hclosed _ ih _ hedge

end

end Worklist
