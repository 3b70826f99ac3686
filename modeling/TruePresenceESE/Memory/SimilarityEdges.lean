import TruePresenceESE.Memory.SessionClusters

/-! # Connections and similarity

A connection is made when two sessions are similar, and none is ever taken back: it
outlives the features it was made for.
-/

namespace TruePresenceESE.Memory.IdentityGraph

open PyValue JsonDict

/-- Stored sessions are connected exactly where the features that are stored are similar. -/
def EdgesMeanSimilarity (threshold : ℚ) (g : IdentityGraph) : Prop :=
  ∀ v ∈ g.sessions.keys, ∀ w ∈ g.sessions.keys, v ≠ w →
    (w ∈ neighbors g.graph v ↔ ∃ features features', g.sessionFeatures.get? v = some features ∧
      g.sessionFeatures.get? w = some features' ∧
        (threshold : ℝ) ≤ cosineSimilarity features features')

/-- A session that is added again stays similar to those it was similar to. -/
def KeepsSimilar (threshold : ℚ) (hash : String → String) (g : IdentityGraph)
    (call : String × JsonDict) : Prop :=
  ∀ features old other stored, extractFeatures call.2 = .ok features →
    g.sessionFeatures.get? (hash call.1) = some old → other ≠ hash call.1 →
      g.sessionFeatures.get? other = some stored →
        (threshold : ℝ) ≤ cosineSimilarity old stored →
          (threshold : ℝ) ≤ cosineSimilarity features stored

/-- Every call of a run meets the condition in the graph it finds. -/
def AllKeepSimilar (threshold : ℚ) (hash : String → String) :
    IdentityGraph → List (String × JsonDict) → Prop
  | _, [] => True
  | g, call :: rest => KeepsSimilar threshold hash g call ∧
      AllKeepSimilar threshold hash (addSessionAt threshold hash g call.1 call.2).1 rest

section
variable {threshold : ℚ} {hash : String → String} {g : IdentityGraph} {call : String × JsonDict}

/-- Where features were read, connections and similarity are compared over the features. -/
theorem edgesMeanSimilarity_of_error {e : PyError} (hg : g.Undirected)
    (h : extractFeatures call.2 = .error e) (hedges : g.EdgesMeanSimilarity threshold) :
    (addSessionAt threshold hash g call.1 call.2).1.EdgesMeanSimilarity threshold := by
  rw [addSessionAt_of_error h]
  intro v hv w hw hne
  by_cases hstored : v ∈ g.sessions.keys ∧ w ∈ g.sessions.keys
  · exact hedges v hstored.1 w hstored.2 hne
  · refine iff_of_false (fun hedge => hstored ?_) ?_
    · exact ⟨hg.stored w v (hg.symmetric v w hedge), hg.stored v w hedge⟩
    · rintro ⟨features, features', hget, hget', -⟩
      refine hstored ⟨hg.featured v ?_, hg.featured w ?_⟩
      · exact List.mem_map_of_mem (Dict.get?_eq_some_iff.mp hget)
      · exact List.mem_map_of_mem (Dict.get?_eq_some_iff.mp hget')

/-- Connections of the session that the call adds. -/
theorem edge_addSessionAt_iff {features : List ℚ} {w : String}
    (h : extractFeatures call.2 = .ok features) (hne : hash call.1 ≠ w) :
    w ∈ neighbors (addSessionAt threshold hash g call.1 call.2).1.graph (hash call.1) ↔
      w ∈ neighbors g.graph (hash call.1) ∨ ∃ stored, g.sessionFeatures.get? w = some stored ∧
        (threshold : ℝ) ≤ cosineSimilarity features stored := by
  rw [mem_neighbors_addSessionAt_iff h]
  refine or_congr_right ⟨?_, ?_⟩
  · rintro ⟨other, stored, hother, hget, hreaches, ⟨-, hw⟩ | ⟨hid, -⟩⟩
    · exact ⟨stored, hw ▸ hget, (cosineReaches_iff _ _ _).mp hreaches⟩
    · exact absurd hid.symm hother
  · rintro ⟨stored, hget, hreaches⟩
    exact ⟨w, stored, Ne.symm hne, hget, (cosineReaches_iff _ _ _).mpr hreaches, .inl ⟨rfl, rfl⟩⟩

/-- Connections among the other sessions stay as they were. -/
theorem edge_addSessionAt_ne {features : List ℚ} {v w : String}
    (h : extractFeatures call.2 = .ok features) (hv : v ≠ hash call.1) (hw : w ≠ hash call.1) :
    w ∈ neighbors (addSessionAt threshold hash g call.1 call.2).1.graph v ↔
      w ∈ neighbors g.graph v := by
  rw [mem_neighbors_addSessionAt_iff h]
  refine or_iff_left ?_
  rintro ⟨other, stored, -, -, -, ⟨hid, -⟩ | ⟨-, hid⟩⟩
  · exact hv hid
  · exact hw hid

/-- Before the call a session was connected with those it was similar to. -/
theorem edge_before_iff {w : String} (hg : g.Undirected) (hedges : g.EdgesMeanSimilarity threshold)
    (hne : hash call.1 ≠ w) :
    w ∈ neighbors g.graph (hash call.1) ↔ ∃ old stored,
      g.sessionFeatures.get? (hash call.1) = some old ∧ g.sessionFeatures.get? w = some stored ∧
        (threshold : ℝ) ≤ cosineSimilarity old stored := by
  constructor
  · intro hedge
    exact (hedges _ (hg.stored w _ (hg.symmetric _ w hedge)) w (hg.stored _ w hedge) hne).mp hedge
  · rintro ⟨old, stored, hget, hget', hsimilar⟩
    have hmem : ∀ {id features}, g.sessionFeatures.get? id = some features → id ∈ g.sessions.keys :=
      fun h => hg.featured _ (List.mem_map_of_mem (Dict.get?_eq_some_iff.mp h))
    exact (hedges _ (hmem hget) w (hmem hget') hne).mpr ⟨old, stored, hget, hget', hsimilar⟩

/-- One call keeps the meaning of connections exactly when it takes no similarity away. -/
theorem edgesMeanSimilarity_addSessionAt_iff (hg : g.Undirected)
    (hedges : g.EdgesMeanSimilarity threshold) :
    (addSessionAt threshold hash g call.1 call.2).1.EdgesMeanSimilarity threshold ↔
      KeepsSimilar threshold hash g call := by
  cases h : extractFeatures call.2 with
  | error e =>
      refine iff_of_true (edgesMeanSimilarity_of_error hg h hedges) ?_
      intro features old other stored hfeatures
      rw [h] at hfeatures
      cases hfeatures
  | ok features =>
      have hundirected := @addSessionAt_undirected threshold hash g call.1 call.2 hg
      have hread : ∀ {w}, w ≠ hash call.1 →
          (addSessionAt threshold hash g call.1 call.2).1.sessionFeatures.get? w =
            g.sessionFeatures.get? w := by
        intro w hw
        rw [addSessionAt_sessionFeatures h, Dict.get?_set_ne _ _ (Ne.symm hw)]
      have hself : (addSessionAt threshold hash g call.1 call.2).1.sessionFeatures.get?
          (hash call.1) = some features := by
        rw [addSessionAt_sessionFeatures h, Dict.get?_set_self]
      have hmem : ∀ {id stored}, g.sessionFeatures.get? id = some stored →
          id ∈ (addSessionAt threshold hash g call.1 call.2).1.sessions.keys := by
        intro id stored hget
        rw [addSessionAt_sessions, Dict.mem_keys_set]
        exact .inr (hg.featured _ (List.mem_map_of_mem (Dict.get?_eq_some_iff.mp hget)))
      constructor
      · intro hafter features' old other stored hfeatures' hold hother hstored hsimilar
        obtain rfl : features = features' := Except.ok.inj (h ▸ hfeatures')
        have hedge : other ∈ neighbors (addSessionAt threshold hash g call.1 call.2).1.graph
            (hash call.1) :=
          (edge_addSessionAt_iff h (Ne.symm hother)).mpr
            (.inl ((edge_before_iff hg hedges (Ne.symm hother)).mpr
              ⟨old, stored, hold, hstored, hsimilar⟩))
        obtain ⟨new, stored', hnew, hstored', hkept⟩ :=
          (hafter _ (hmem hold) other (hmem hstored) (Ne.symm hother)).mp hedge
        rw [hself, Option.some.injEq] at hnew
        rw [hread hother, hstored, Option.some.injEq] at hstored'
        rw [hnew, hstored']
        exact hkept
      · intro hkeeps
        -- the pairs with the added session, in the order that the connection is read from it
        have hpair : ∀ w, hash call.1 ≠ w →
            (w ∈ neighbors (addSessionAt threshold hash g call.1 call.2).1.graph (hash call.1) ↔
              ∃ stored, g.sessionFeatures.get? w = some stored ∧
                (threshold : ℝ) ≤ cosineSimilarity features stored) := by
          intro w hne
          rw [edge_addSessionAt_iff h hne]
          refine ⟨fun hedge => hedge.elim (fun hold => ?_) (fun hnew => hnew), .inr⟩
          obtain ⟨old, stored, hget, hget', hsimilar⟩ := (edge_before_iff hg hedges hne).mp hold
          exact ⟨stored, hget', hkeeps features old w stored h hget (Ne.symm hne) hget' hsimilar⟩
        intro v hv w hw hne
        by_cases hvid : v = hash call.1
        · subst hvid
          rw [hpair w hne, hself, hread (Ne.symm hne)]
          simp
        · rw [hread hvid]
          by_cases hwid : w = hash call.1
          · subst hwid
            have hsymm : hash call.1 ∈
                neighbors (addSessionAt threshold hash g call.1 call.2).1.graph v ↔
                  v ∈ neighbors (addSessionAt threshold hash g call.1 call.2).1.graph
                    (hash call.1) :=
              ⟨hundirected.symmetric _ _, hundirected.symmetric _ _⟩
            rw [hsymm, hpair v (Ne.symm hne), hself]
            simp [cosineSimilarity_comm features]
          · rw [hread hwid, edge_addSessionAt_ne h hvid hwid]
            rw [addSessionAt_sessions, Dict.mem_keys_set] at hv hw
            exact hedges v (hv.resolve_left hvid) w (hw.resolve_left hwid) hne

end

theorem empty_edgesMeanSimilarity (threshold : ℚ) : empty.EdgesMeanSimilarity threshold :=
  fun _ hv => absurd hv (by simp [empty, Dict.keys])

theorem edgesMeanSimilarity_run_iff {threshold : ℚ} {hash : String → String}
    {calls : List (String × JsonDict)} {g : IdentityGraph} (hg : g.Undirected)
    (hedges : g.EdgesMeanSimilarity threshold) :
    (∀ done, done <+: calls →
      (buildFrom threshold hash g done).EdgesMeanSimilarity threshold) ↔
        AllKeepSimilar threshold hash g calls := by
  induction calls generalizing g with
  | nil =>
      refine iff_of_true (fun done hdone => ?_) trivial
      rw [List.prefix_nil.mp hdone]
      exact hedges
  | cons call rest ih =>
      have hstep := @edgesMeanSimilarity_addSessionAt_iff threshold hash g call hg hedges
      have hrest := @ih _ (@addSessionAt_undirected threshold hash g call.1 call.2 hg)
      constructor
      · intro h
        have hnext := h [call] (List.prefix_append [call] rest)
        refine ⟨hstep.mp hnext, (hrest hnext).mp fun done hdone => ?_⟩
        exact h (call :: done) (List.prefix_cons_inj call |>.mpr hdone)
      · rintro ⟨hcall, hlater⟩ done hdone
        rcases List.prefix_cons_iff.mp hdone with rfl | ⟨others, rfl, hothers⟩
        · exact hedges
        · exact (hrest (hstep.mpr hcall)).mpr hlater others hothers

/-- Over a run, connections mean similarity after every call exactly when no call takes a
similarity away. -/
theorem edges_mean_similarity_iff (threshold : ℚ) (hash : String → String)
    (calls : List (String × JsonDict)) :
    (∀ done, done <+: calls → (build threshold hash done).EdgesMeanSimilarity threshold) ↔
      AllKeepSimilar threshold hash empty calls :=
  edgesMeanSimilarity_run_iff empty_undirected (empty_edgesMeanSimilarity threshold)

/-! ## A connection that outlives its reason -/

/-- A session without any feature of its own. -/
def restingSession : JsonDict := Dict.empty

/-- The same session when only its length and its events count. -/
def busySession : JsonDict :=
  ofFields [("duration", .num 1), ("event_count", .num 1), ("avg_interval", .num 0),
    ("behavior", .obj [("mouse_variance", .num 0), ("typing_speed", .num 0),
      ("timing_consistency", .num 0)]),
    ("detection", .obj [("human_probability", .num 0), ("confidence", .num 0)])]

/-- Two sessions behave alike; then one of them is evaluated again and does not. -/
def repeatedCalls : List (String × JsonDict) :=
  [("a", restingSession), ("b", restingSession), ("a", busySession)]

theorem connection_outlives_similarity :
    ¬ (build similarityThreshold (fun id => id) repeatedCalls).EdgesMeanSimilarity
      similarityThreshold := by
  intro h
  have hkeys : "a" ∈ (build similarityThreshold (fun id => id) repeatedCalls).sessions.keys ∧
      "b" ∈ (build similarityThreshold (fun id => id) repeatedCalls).sessions.keys := by
    decide +kernel
  have hedge : "b" ∈ neighbors (build similarityThreshold (fun id => id) repeatedCalls).graph "a" := by
    decide +kernel
  obtain ⟨features, features', ha, hb, hsimilar⟩ :=
    (h "a" hkeys.1 "b" hkeys.2 (by decide)).mp hedge
  have hapart : ((build similarityThreshold (fun id => id) repeatedCalls).sessionFeatures.get?
      "a").any (fun v =>
        ((build similarityThreshold (fun id => id) repeatedCalls).sessionFeatures.get? "b").any
          (cosineReaches similarityThreshold v)) = false := by
    decide +kernel
  rw [ha, hb] at hapart
  exact Bool.false_ne_true (hapart.symm.trans ((cosineReaches_iff _ _ _).mpr hsimilar))

end TruePresenceESE.Memory.IdentityGraph
