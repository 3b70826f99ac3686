import TruePresenceESE.Memory.IdentityGraph

/-! # Clusters of sessions

A graph with a threshold of its own, as calls build it. Connections go both ways and
stay among stored sessions, so a cluster is a connected component and its risk can be
read off.
-/

namespace TruePresenceESE.Memory.IdentityGraph

open PyValue JsonDict

/-! ## Cosines -/

/-- `_cosine_similarity`: a vector without length is similar to none. -/
noncomputable def cosineSimilarity (v w : List ℚ) : ℝ :=
  if dot v v = 0 ∨ dot w w = 0 then 0 else (dot v w : ℝ) / (√(dot v v : ℝ) * √(dot w w : ℝ))

/-- The cosine reaches the threshold, compared without roots. -/
def cosineReaches (threshold : ℚ) (v w : List ℚ) : Bool :=
  if dot v v = 0 ∨ dot w w = 0 then decide (threshold ≤ 0)
  else if 0 ≤ dot v w then
    decide (threshold ≤ 0 ∨ threshold ^ 2 * (dot v v * dot w w) ≤ dot v w ^ 2)
  else decide (threshold ≤ 0 ∧ dot v w ^ 2 ≤ threshold ^ 2 * (dot v v * dot w w))

theorem dot_comm (v w : List ℚ) : dot v w = dot w v := by
  unfold dot
  rw [List.zipWith_comm_of_comm (fun x y => mul_comm x y)]

theorem dot_self_nonneg (v : List ℚ) : 0 ≤ dot v v := by
  unfold dot
  induction v with
  | nil => simp
  | cons x v ih =>
      rw [List.zipWith_cons_cons, List.sum_cons]
      exact add_nonneg (mul_self_nonneg x) ih

theorem cosineSimilarity_comm (v w : List ℚ) : cosineSimilarity v w = cosineSimilarity w v := by
  unfold cosineSimilarity
  rw [dot_comm v w, mul_comm (√(dot v v : ℝ))]
  exact if_congr or_comm rfl rfl

theorem cosineReaches_iff (threshold : ℚ) (v w : List ℚ) :
    cosineReaches threshold v w = true ↔ (threshold : ℝ) ≤ cosineSimilarity v w := by
  unfold cosineReaches cosineSimilarity
  by_cases hzero : dot v v = 0 ∨ dot w w = 0
  · rw [if_pos hzero, if_pos hzero, decide_eq_true_iff]
    exact_mod_cast Iff.rfl
  · rw [if_neg hzero, if_neg hzero]
    rw [not_or] at hzero
    have hv : 0 < dot v v := lt_of_le_of_ne (dot_self_nonneg v) (Ne.symm hzero.1)
    have hw : 0 < dot w w := lt_of_le_of_ne (dot_self_nonneg w) (Ne.symm hzero.2)
    have hnorm : 0 < √(dot v v : ℝ) * √(dot w w : ℝ) :=
      mul_pos (Real.sqrt_pos.mpr (by exact_mod_cast hv)) (Real.sqrt_pos.mpr (by exact_mod_cast hw))
    have hsquare : (√(dot v v : ℝ) * √(dot w w : ℝ)) ^ 2 = (dot v v * dot w w : ℚ) := by
      rw [mul_pow, Real.sq_sqrt (by exact_mod_cast hv.le), Real.sq_sqrt (by exact_mod_cast hw.le)]
      push_cast
      rfl
    rw [le_div_iff₀ hnorm]
    generalize √(dot v v : ℝ) * √(dot w w : ℝ) = norm at hnorm hsquare
    have hscaled : ((threshold ^ 2 * (dot v v * dot w w) : ℚ) : ℝ) = (threshold * norm) ^ 2 := by
      rw [mul_pow, hsquare]
      push_cast
      rfl
    split
    · rename_i hdot
      have hdot' : (0 : ℝ) ≤ dot v w := by exact_mod_cast hdot
      rw [decide_eq_true_iff]
      by_cases hthreshold : threshold ≤ 0
      · refine iff_of_true (.inl hthreshold) (le_trans ?_ hdot')
        exact mul_nonpos_of_nonpos_of_nonneg (by exact_mod_cast hthreshold) hnorm.le
      · rw [or_iff_right hthreshold, ← Rat.cast_le (K := ℝ), hscaled, Rat.cast_pow]
        rw [not_le] at hthreshold
        have hleft : (0 : ℝ) ≤ threshold * norm :=
          mul_nonneg (by exact_mod_cast hthreshold.le) hnorm.le
        exact sq_le_sq₀ hleft hdot'
    · rename_i hdot
      rw [not_le] at hdot
      have hdot' : (dot v w : ℝ) < 0 := by exact_mod_cast hdot
      rw [decide_eq_true_iff]
      by_cases hthreshold : threshold ≤ 0
      · rw [and_iff_right hthreshold, ← Rat.cast_le (K := ℝ), hscaled, Rat.cast_pow]
        have hleft : (threshold * norm : ℝ) ≤ 0 :=
          mul_nonpos_of_nonpos_of_nonneg (by exact_mod_cast hthreshold) hnorm.le
        rw [← neg_sq, ← neg_sq (threshold * norm : ℝ), sq_le_sq₀ (by linarith) (by linarith)]
        exact neg_le_neg_iff
      · refine iff_of_false (fun h => hthreshold h.1) (not_le.mpr (lt_of_lt_of_le hdot' ?_))
        exact mul_nonneg (by exact_mod_cast (not_le.mp hthreshold).le) hnorm.le

/-- The graph of the orchestrator compares like this. -/
theorem similar_eq_cosineReaches (v w : List ℚ) :
    similar similarityThreshold v w = cosineReaches similarityThreshold v w := by
  have hpos : ¬ similarityThreshold ≤ 0 := by norm_num [similarityThreshold]
  unfold similar cosineReaches
  by_cases hzero : dot v v = 0 ∨ dot w w = 0
  · rw [if_pos hzero]
    have hnot : ¬ (dot v v ≠ 0 ∧ dot w w ≠ 0) := fun h => hzero.elim h.1 h.2
    simp only [hpos, decide_false, decide_eq_false_iff_not]
    exact fun h => hnot ⟨h.1, h.2.1⟩
  · rw [if_neg hzero]
    rw [not_or] at hzero
    split
    · rename_i hdot
      simp [hzero.1, hzero.2, hdot, hpos]
    · rename_i hdot
      simp [hdot, hpos]

/-! ## Building a graph -/

def connectAt (threshold : ℚ) (target : List ℚ) (id : String)
    (graph : Dict String (List String)) (existing : String × List ℚ) :
    Dict String (List String) :=
  if existing.1 = id then graph
  else if cosineReaches threshold target existing.2 then
    link (link graph id existing.1) existing.1 id
  else graph

/-- A call that raises has stored the session by then. -/
def addSessionAt (threshold : ℚ) (hash : String → String) (g : IdentityGraph) (sessionId : String)
    (session : JsonDict) : IdentityGraph × Except PyError Unit :=
  let id := hash sessionId
  let stored := g.storeSession hash sessionId session
  match extractFeatures session with
  | .error e => (stored, .error e)
  | .ok features =>
      let sessionFeatures := g.sessionFeatures.set id features
      ({ stored with
          graph := sessionFeatures.items.foldl (connectAt threshold features id) g.graph
          sessionFeatures := sessionFeatures }, .ok ())

theorem connectAt_similarityThreshold : connectAt similarityThreshold = connect := by
  funext target id graph existing
  rw [connectAt, connect, similar_eq_cosineReaches]

/-- The graph of the orchestrator is built like this. -/
theorem addSession_eq (hash : String → String) (g : IdentityGraph) (sessionId : String)
    (session : JsonDict) :
    g.addSession hash sessionId session =
      (addSessionAt similarityThreshold hash g sessionId session).2.map
        fun _ => (addSessionAt similarityThreshold hash g sessionId session).1 := by
  unfold addSession addSessionAt
  cases extractFeatures session with
  | error e => rfl
  | ok features =>
      rw [connectAt_similarityThreshold]
      rfl

/-- The graph that a list of calls leaves, raising ones among them. -/
def buildFrom (threshold : ℚ) (hash : String → String) (g : IdentityGraph)
    (calls : List (String × JsonDict)) : IdentityGraph :=
  calls.foldl (fun g call => (addSessionAt threshold hash g call.1 call.2).1) g

def build (threshold : ℚ) (hash : String → String) (calls : List (String × JsonDict)) :
    IdentityGraph :=
  buildFrom threshold hash empty calls

/-! ## What one call connects -/

section
variable {threshold : ℚ} {hash : String → String} {g : IdentityGraph} {sessionId : String}
  {session : JsonDict} {graph : Dict String (List String)} {target features : List ℚ}
  {id v w : String}

theorem mem_neighbors_link_iff {other : String} :
    w ∈ neighbors (link graph id other) v ↔ w ∈ neighbors graph v ∨ (v = id ∧ w = other) := by
  by_cases hv : id = v
  · subst hv
    have hget : neighbors (link graph id other) id =
        if other ∈ neighbors graph id then neighbors graph id
        else neighbors graph id ++ [other] := by
      rw [neighbors, link, Dict.get?_set_self, Option.getD_some]
    rw [hget]
    split
    · rename_i hmem
      exact ⟨.inl, fun h => h.elim (fun h => h) fun h => h.2 ▸ hmem⟩
    · simp
  · have hget : neighbors (link graph id other) v = neighbors graph v := by
      rw [neighbors, link, Dict.get?_set_ne _ _ hv, neighbors]
    rw [hget]
    exact ⟨.inl, fun h => h.elim (fun h => h) fun h => absurd h.1.symm hv⟩

/-- The two directions of the connection between a session and another. -/
def Joins (id other v w : String) : Prop := (v = id ∧ w = other) ∨ (v = other ∧ w = id)

theorem mem_neighbors_connectAt_iff {existing : String × List ℚ} :
    w ∈ neighbors (connectAt threshold target id graph existing) v ↔ w ∈ neighbors graph v ∨
      (existing.1 ≠ id ∧ cosineReaches threshold target existing.2 = true ∧
        Joins id existing.1 v w) := by
  unfold connectAt Joins
  split
  · rename_i hself
    simp [hself]
  · rename_i hother
    split
    · rename_i hreaches
      rw [mem_neighbors_link_iff, mem_neighbors_link_iff, or_assoc]
      simp [hother, hreaches]
    · rename_i hreaches
      simp [hreaches]

theorem mem_neighbors_connect_all_iff {items : List (String × List ℚ)} :
    w ∈ neighbors (items.foldl (connectAt threshold target id) graph) v ↔
      w ∈ neighbors graph v ∨ ∃ item ∈ items, item.1 ≠ id ∧
        cosineReaches threshold target item.2 = true ∧ Joins id item.1 v w := by
  induction items generalizing graph with
  | nil => simp
  | cons item rest ih =>
      rw [List.foldl_cons, ih, mem_neighbors_connectAt_iff, or_assoc]
      simp only [List.mem_cons, exists_eq_or_imp]

/-- A call keeps every connection and adds those of the session with the sessions it is
similar to. -/
theorem mem_neighbors_addSessionAt_iff (h : extractFeatures session = .ok features) :
    w ∈ neighbors (addSessionAt threshold hash g sessionId session).1.graph v ↔
      w ∈ neighbors g.graph v ∨ ∃ other stored, other ≠ hash sessionId ∧
        g.sessionFeatures.get? other = some stored ∧
          cosineReaches threshold features stored = true ∧ Joins (hash sessionId) other v w := by
  unfold addSessionAt
  rw [h]
  dsimp only
  rw [mem_neighbors_connect_all_iff]
  refine or_congr_right ⟨?_, ?_⟩
  · rintro ⟨⟨other, stored⟩, hitem, hother, hreaches, hjoins⟩
    rw [← Dict.get?_eq_some_iff, Dict.get?_set_ne _ _ (Ne.symm hother)] at hitem
    exact ⟨other, stored, hother, hitem, hreaches, hjoins⟩
  · rintro ⟨other, stored, hother, hget, hreaches, hjoins⟩
    refine ⟨(other, stored), ?_, hother, hreaches, hjoins⟩
    rw [← Dict.get?_eq_some_iff, Dict.get?_set_ne _ _ (Ne.symm hother)]
    exact hget

theorem addSessionAt_of_error {e : PyError} (h : extractFeatures session = .error e) :
    (addSessionAt threshold hash g sessionId session).1 =
      g.storeSession hash sessionId session := by
  unfold addSessionAt
  rw [h]

theorem addSessionAt_sessions : (addSessionAt threshold hash g sessionId session).1.sessions =
    g.sessions.set (hash sessionId) session := by
  unfold addSessionAt
  cases extractFeatures session <;> rfl

theorem addSessionAt_sessionFeatures (h : extractFeatures session = .ok features) :
    (addSessionAt threshold hash g sessionId session).1.sessionFeatures =
      g.sessionFeatures.set (hash sessionId) features := by
  unfold addSessionAt
  rw [h]

end

/-! ## Connections of every run -/

/-- Connections go both ways between different sessions, and these are stored. -/
structure Undirected (g : IdentityGraph) : Prop where
  featured : ∀ id ∈ g.sessionFeatures.keys, id ∈ g.sessions.keys
  symmetric : ∀ v w, w ∈ neighbors g.graph v → v ∈ neighbors g.graph w
  irreflexive : ∀ v, v ∉ neighbors g.graph v
  stored : ∀ v, ∀ w ∈ neighbors g.graph v, w ∈ g.sessions.keys

theorem empty_undirected : empty.Undirected where
  featured := by simp [empty, Dict.keys]
  symmetric := by simp [empty, neighbors]
  irreflexive := by simp [empty, neighbors]
  stored := by simp [empty, neighbors]

section
variable {threshold : ℚ} {hash : String → String} {g : IdentityGraph} {sessionId : String}
  {session : JsonDict}

theorem Joins.symm {id other v w : String} (h : Joins id other v w) : Joins id other w v := by
  rcases h with ⟨hv, hw⟩ | ⟨hv, hw⟩
  · exact .inr ⟨hw, hv⟩
  · exact .inl ⟨hw, hv⟩

theorem storeSession_undirected (hg : g.Undirected) :
    (g.storeSession hash sessionId session).Undirected where
  featured := fun id hid => Dict.mem_keys_set.mpr (.inr (hg.featured id hid))
  symmetric := hg.symmetric
  irreflexive := hg.irreflexive
  stored := fun v w hw => Dict.mem_keys_set.mpr (.inr (hg.stored v w hw))

theorem addSessionAt_undirected (hg : g.Undirected) :
    (addSessionAt threshold hash g sessionId session).1.Undirected := by
  cases hfeatures : extractFeatures session with
  | error e =>
      rw [addSessionAt_of_error hfeatures]
      exact storeSession_undirected hg
  | ok features =>
      constructor
      case featured =>
        intro id hid
        rw [addSessionAt_sessionFeatures hfeatures, Dict.mem_keys_set] at hid
        rw [addSessionAt_sessions, Dict.mem_keys_set]
        exact hid.imp_right (hg.featured id)
      case symmetric =>
        intro v w h
        rw [mem_neighbors_addSessionAt_iff hfeatures] at h ⊢
        rcases h with h | ⟨other, stored, hother, hget, hreaches, hjoins⟩
        · exact .inl (hg.symmetric v w h)
        · exact .inr ⟨other, stored, hother, hget, hreaches, hjoins.symm⟩
      case irreflexive =>
        intro v h
        rw [mem_neighbors_addSessionAt_iff hfeatures] at h
        rcases h with h | ⟨other, stored, hother, -, -, ⟨hv, hw⟩ | ⟨hv, hw⟩⟩
        · exact hg.irreflexive v h
        · exact hother (hw ▸ hv)
        · exact hother (hv ▸ hw)
      case stored =>
        intro v w h
        rw [mem_neighbors_addSessionAt_iff hfeatures] at h
        rw [addSessionAt_sessions, Dict.mem_keys_set]
        rcases h with h | ⟨other, stored, -, hget, -, ⟨-, hw⟩ | ⟨-, hw⟩⟩
        · exact .inr (hg.stored v w h)
        · refine .inr (hg.featured w ?_)
          rw [hw]
          exact List.mem_map_of_mem (Dict.get?_eq_some_iff.mp hget)
        · exact .inl hw

theorem buildFrom_undirected {calls : List (String × JsonDict)} (hg : g.Undirected) :
    (buildFrom threshold hash g calls).Undirected := by
  induction calls generalizing g with
  | nil => exact hg
  | cons call rest ih => exact ih (addSessionAt_undirected hg)

end

/-! ## Components -/

/-- Connected over any number of steps. -/
def Connected (g : IdentityGraph) : String → String → Prop :=
  Relation.ReflTransGen fun v w => w ∈ neighbors g.graph v

theorem mem_getSessionCluster_iff {hash : String → String} {g : IdentityGraph}
    {sessionId v : String} :
    v ∈ g.getSessionCluster hash sessionId ↔ g.Connected (hash sessionId) v :=
  Worklist.mem_explore_iff (g.getSessionCluster_spec hash sessionId)

theorem getSessionCluster_nodup (hash : String → String) (g : IdentityGraph) (sessionId : String) :
    (g.getSessionCluster hash sessionId).Nodup :=
  Worklist.explore_nodup List.nodup_nil (g.getSessionCluster_spec hash sessionId)

theorem Undirected.connected_symm {g : IdentityGraph} (hg : g.Undirected) {v w : String}
    (h : g.Connected v w) : g.Connected w v := by
  induction h with
  | refl => exact .refl
  | tail _ hedge ih => exact Relation.ReflTransGen.head (hg.symmetric _ _ hedge) ih

theorem Undirected.connected_congr {g : IdentityGraph} (hg : g.Undirected) {v w u : String}
    (h : g.Connected v w) : g.Connected w u ↔ g.Connected v u :=
  ⟨fun hu => Relation.ReflTransGen.trans h hu,
    fun hu => Relation.ReflTransGen.trans (hg.connected_symm h) hu⟩

/-! ## Risk -/

/-- The detection of a session can be read, and both of its numbers are shares. -/
def RiskReadable (session : JsonDict) : Prop :=
  ∃ d, detectionOf session = .ok d ∧ (0 ≤ d.botProbability ∧ d.botProbability ≤ 1) ∧
    0 ≤ d.confidence ∧ d.confidence ≤ 1

theorem detectionOf_ne_keyError (session : JsonDict) : detectionOf session ≠ .error .keyError := by
  intro h
  unfold detectionOf at h
  have hmapping : ∀ value, mappingOf value ≠ .error .keyError := by
    intro value hvalue
    cases value <;> cases hvalue
  have hnumber : ∀ value, number value ≠ .error .keyError := by
    intro value hvalue
    cases value <;> cases hvalue
  cases hdetection : mappingOf (session.getOr "detection" (.obj [])) with
  | error e =>
      rw [hdetection] at h
      cases h
      exact hmapping _ hdetection
  | ok detection =>
      rw [hdetection] at h
      dsimp only [bind, Except.bind] at h
      cases hbot : number (detection.getOr "bot_probability" (.num 0.5)) with
      | error e =>
          rw [hbot] at h
          cases h
          exact hnumber _ hbot
      | ok bot =>
          rw [hbot] at h
          dsimp only at h
          cases hconfidence : number (detection.getOr "confidence" (.num 0.5)) with
          | error e =>
              rw [hconfidence] at h
              cases h
              exact hnumber _ hconfidence
          | ok confidence =>
              rw [hconfidence] at h
              cases h

theorem mem_unit_clusterRisk {detections : List Detection} (hne : detections ≠ [])
    (h : ∀ d ∈ detections, (0 ≤ d.botProbability ∧ d.botProbability ≤ 1) ∧
      0 ≤ d.confidence ∧ d.confidence ≤ 1) :
    0 ≤ clusterRisk detections ∧ clusterRisk detections ≤ 1 := by
  have hlength : (0 : ℚ) < detections.length := by
    exact_mod_cast List.length_pos_of_ne_nil hne
  have hterm : ∀ q ∈ detections.map fun d => d.botProbability * d.confidence, 0 ≤ q ∧ q ≤ 1 := by
    intro q hq
    obtain ⟨d, hd, rfl⟩ := List.mem_map.mp hq
    obtain ⟨hbot, hconfidence⟩ := h d hd
    exact ⟨mul_nonneg hbot.1 hconfidence.1, mul_le_one₀ hbot.2 hconfidence.1 hconfidence.2⟩
  have hnonneg := List.sum_nonneg fun q hq => (hterm q hq).1
  have hsum := List.sum_le_card_nsmul _ 1 fun q hq => (hterm q hq).2
  rw [List.length_map, nsmul_one] at hsum
  unfold clusterRisk
  dsimp only
  generalize (detections.map fun d => d.botProbability * d.confidence).sum = total at hnonneg hsum
  have haverage : 0 ≤ total / detections.length := div_nonneg hnonneg hlength.le
  split
  · refine ⟨le_min (add_nonneg haverage (le_min ?_ (by norm_num))) zero_le_one, min_le_right _ _⟩
    exact div_nonneg (Nat.cast_nonneg _) hlength.le
  · exact ⟨haverage, (div_le_one hlength).mpr hsum⟩

section
variable {hash : String → String} {g : IdentityGraph} {sessionId : String}

/-- What a stored session is connected with is stored. -/
theorem Undirected.cluster_stored (hg : g.Undirected)
    (hstored : hash sessionId ∈ g.sessions.keys) :
    ∀ id ∈ g.getSessionCluster hash sessionId, id ∈ g.sessions.keys := by
  intro id hid
  rcases Relation.ReflTransGen.cases_tail (mem_getSessionCluster_iff.mp hid) with heq | ⟨v, -, hedge⟩
  · exact heq ▸ hstored
  · exact hg.stored v id hedge

theorem lookupDetection_ne_keyError {id : String} (h : id ∈ g.sessions.keys) :
    g.lookupDetection id ≠ .error .keyError := by
  unfold lookupDetection
  cases hget : g.sessions.get? id with
  | none => exact absurd h (Dict.get?_eq_none_iff.mp hget)
  | some session => exact detectionOf_ne_keyError session

/-- No lookup of the risk misses a session. -/
theorem Undirected.getSessionRisk_ne_keyError (hg : g.Undirected) :
    g.getSessionRisk hash sessionId ≠ .error .keyError := by
  unfold getSessionRisk
  by_cases hnone : (g.sessions.get? (hash sessionId)).isNone
  · rw [if_pos hnone]
    exact nofun
  · rw [if_neg hnone]
    dsimp only
    split
    · exact nofun
    · intro h
      have hstart : hash sessionId ∈ g.sessions.keys := by
        by_contra hnot
        exact hnone (by rw [Dict.get?_eq_none_iff.mpr hnot]; rfl)
      have hlookup : ∀ id ∈ g.getSessionCluster hash sessionId,
          g.lookupDetection id ≠ .error .keyError :=
        fun id hid => lookupDetection_ne_keyError (hg.cluster_stored hstart id hid)
      cases hdetections : (g.getSessionCluster hash sessionId).mapM g.lookupDetection with
      | ok detections =>
          rw [hdetections] at h
          cases h
      | error e =>
          rw [hdetections] at h
          cases h
          obtain ⟨id, hid, herror⟩ := Fallible.exists_of_mapM_error hdetections
          exact hlookup id hid herror

theorem Undirected.getSessionRisk_mem_unit (hg : g.Undirected)
    (hreadable : ∀ id session, g.sessions.get? id = some session → RiskReadable session) :
    ∃ risk, g.getSessionRisk hash sessionId = .ok risk ∧ 0 ≤ risk ∧ risk ≤ 1 := by
  unfold getSessionRisk
  by_cases hnone : (g.sessions.get? (hash sessionId)).isNone
  · rw [if_pos hnone]
    exact ⟨0.5, rfl, by norm_num, by norm_num⟩
  · rw [if_neg hnone]
    dsimp only
    split
    · exact ⟨0.5, rfl, by norm_num, by norm_num⟩
    · have hstart : hash sessionId ∈ g.sessions.keys := by
        by_contra hnot
        exact hnone (by rw [Dict.get?_eq_none_iff.mpr hnot]; rfl)
      have hlookup : ∀ id ∈ g.getSessionCluster hash sessionId, ∃ d,
          g.lookupDetection id = .ok d ∧ (0 ≤ d.botProbability ∧ d.botProbability ≤ 1) ∧
            0 ≤ d.confidence ∧ d.confidence ≤ 1 := by
        intro id hid
        cases hget : g.sessions.get? id with
        | none =>
            exact absurd (hg.cluster_stored hstart id hid) (Dict.get?_eq_none_iff.mp hget)
        | some session =>
            rw [lookupDetection, hget]
            exact hreadable id session hget
      obtain ⟨detections, hdetections, hall⟩ :=
        Fallible.exists_mapM_eq_ok fun id hid => (hlookup id hid).imp fun d hd => hd.1
      rw [hdetections]
      refine ⟨clusterRisk detections, rfl, mem_unit_clusterRisk ?_ ?_⟩
      · obtain ⟨d, hd, -⟩ := hall (hash sessionId) (mem_getSessionCluster_iff.mpr .refl)
        exact List.ne_nil_of_mem hd
      · intro d hd
        obtain ⟨id, hid, hread⟩ := Fallible.exists_of_mem_mapM hdetections hd
        obtain ⟨d', hd', hunit⟩ := hlookup id hid
        rw [hread] at hd'
        cases hd'
        exact hunit

end

/-- After any calls the graph is undirected on stored sessions, clusters are its
components, and the risk of every session can be read where those of the stored ones can. -/
theorem identity_graph_invariant (threshold : ℚ) (hash : String → String)
    (calls : List (String × JsonDict)) :
    let g := build threshold hash calls
    (∀ v w, w ∈ neighbors g.graph v →
      v ∈ neighbors g.graph w ∧ v ≠ w ∧ v ∈ g.sessions.keys ∧ w ∈ g.sessions.keys) ∧
    (∀ sessionId, Worklist.explore (neighbors g.graph) g.explorationFuel [hash sessionId] [] =
      some (g.getSessionCluster hash sessionId)) ∧
    (∀ sessionId v, v ∈ g.getSessionCluster hash sessionId ↔ g.Connected (hash sessionId) v) ∧
    (∀ sessionId other, hash other ∈ g.getSessionCluster hash sessionId →
      ∀ v, v ∈ g.getSessionCluster hash other ↔ v ∈ g.getSessionCluster hash sessionId) ∧
    (∀ sessionId, g.getSessionRisk hash sessionId ≠ .error .keyError) ∧
    ((∀ id session, g.sessions.get? id = some session → RiskReadable session) →
      ∀ sessionId, ∃ risk, g.getSessionRisk hash sessionId = .ok risk ∧ 0 ≤ risk ∧ risk ≤ 1) := by
  intro g
  have hg : g.Undirected := buildFrom_undirected empty_undirected
  refine ⟨?_, g.getSessionCluster_spec hash, fun _ _ => mem_getSessionCluster_iff, ?_,
    fun _ => hg.getSessionRisk_ne_keyError, fun hreadable _ => hg.getSessionRisk_mem_unit hreadable⟩
  · intro v w h
    refine ⟨hg.symmetric v w h, ?_, hg.stored w v (hg.symmetric v w h), hg.stored v w h⟩
    rintro rfl
    exact hg.irreflexive v h
  · intro sessionId other hother v
    rw [mem_getSessionCluster_iff, mem_getSessionCluster_iff]
    exact hg.connected_congr (mem_getSessionCluster_iff.mp hother)

end TruePresenceESE.Memory.IdentityGraph
