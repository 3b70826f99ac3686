import TruePresenceESE.Lib.Fallible
import TruePresenceESE.Lib.JsonDict
import TruePresenceESE.Lib.Worklist

/-! # The identity graph

Sessions stand under the hashes of their ids and are connected where their
features point the same way. The risk of a session averages over everything it is
connected with, at any number of steps.
-/

namespace TruePresenceESE.Memory

open PyValue JsonDict

structure IdentityGraph where
  sessions : Dict String JsonDict
  graph : Dict String (List String)
  sessionFeatures : Dict String (List ℚ)

namespace IdentityGraph

def empty : IdentityGraph := ⟨Dict.empty, Dict.empty, Dict.empty⟩

/-- The threshold the orchestrator sets. -/
def similarityThreshold : ℚ := 0.75

/-! ## Features -/

/-- Large numbers are scaled down before they are cut; anything else is neutral. -/
def normalizeFeature : Json → Except PyError ℚ
  | .bool b => .ok (if b then 1 else 0)
  | .num q =>
      if 1000 < q then (floatOperand (.num q)).map fun q => min (q / 10000) 1
      else .ok (min (max q 0) 1)
  | _ => .ok 0.5

def extractFeatures (session : JsonDict) : Except PyError (List ℚ) := do
  let behavior ← mappingOf (session.getOr "behavior" (.obj []))
  let detection ← mappingOf (session.getOr "detection" (.obj []))
  [session.getOr "duration" (.num 0), session.getOr "event_count" (.num 0),
    session.getOr "avg_interval" (.num 1), behavior.getOr "mouse_variance" (.num 0.5),
    behavior.getOr "typing_speed" (.num 0.5), behavior.getOr "timing_consistency" (.num 0.5),
    detection.getOr "human_probability" (.num 0.5),
    detection.getOr "confidence" (.num 0.5)].mapM normalizeFeature

def dot (v w : List ℚ) : ℚ := (v.zipWith (· * ·) w).sum

/-- The cosine reaches a positive threshold, with both sides squared. -/
def similar (threshold : ℚ) (v w : List ℚ) : Bool :=
  decide (dot v v ≠ 0 ∧ dot w w ≠ 0 ∧ 0 ≤ dot v w ∧
    threshold ^ 2 * (dot v v * dot w w) ≤ dot v w ^ 2)

/-! ## Connections -/

def neighbors (graph : Dict String (List String)) (id : String) : List String :=
  (graph.get? id).getD []

def link (graph : Dict String (List String)) (id other : String) : Dict String (List String) :=
  graph.set id
    (if other ∈ neighbors graph id then neighbors graph id else neighbors graph id ++ [other])

def connect (target : List ℚ) (id : String) (graph : Dict String (List String))
    (existing : String × List ℚ) : Dict String (List String) :=
  if existing.1 = id then graph
  else if similar similarityThreshold target existing.2 then
    link (link graph id existing.1) existing.1 id
  else graph

/-- The session is stored before its features are read. -/
def storeSession (hash : String → String) (g : IdentityGraph) (sessionId : String)
    (session : JsonDict) : IdentityGraph :=
  { g with sessions := g.sessions.set (hash sessionId) session }

def addSession (hash : String → String) (g : IdentityGraph) (sessionId : String)
    (session : JsonDict) : Except PyError IdentityGraph := do
  let id := hash sessionId
  let features ← extractFeatures session
  let sessionFeatures := g.sessionFeatures.set id features
  return { g.storeSession hash sessionId session with
    graph := sessionFeatures.items.foldl (connect features id) g.graph
    sessionFeatures := sessionFeatures }

def getConnectedSessions (hash : String → String) (g : IdentityGraph) (sessionId : String) :
    List String :=
  neighbors g.graph (hash sessionId)

/-- One turn for the start and one for each edge. -/
def explorationFuel (g : IdentityGraph) : Nat :=
  1 + (g.graph.keys.map fun id => (neighbors g.graph id).length).sum

def getSessionCluster (hash : String → String) (g : IdentityGraph) (sessionId : String) :
    List String :=
  (Worklist.explore (neighbors g.graph) g.explorationFuel [hash sessionId] []).getD []

/-! ## Risk -/

structure Detection where
  botProbability : ℚ
  confidence : ℚ

def detectionOf (session : JsonDict) : Except PyError Detection := do
  let detection ← mappingOf (session.getOr "detection" (.obj []))
  let botProbability ← number (detection.getOr "bot_probability" (.num 0.5))
  let confidence ← number (detection.getOr "confidence" (.num 0.5))
  return ⟨botProbability, confidence⟩

def lookupDetection (g : IdentityGraph) (id : String) : Except PyError Detection :=
  match g.sessions.get? id with
  | some session => detectionOf session
  | none => .error .keyError

/-- The average of the weighted bot probabilities, more where several are bots. -/
def clusterRisk (detections : List Detection) : ℚ :=
  let average := (detections.map fun d => d.botProbability * d.confidence).sum / detections.length
  let bots := detections.countP fun d => decide (0.7 < d.botProbability)
  let share : ℚ := bots / detections.length
  if 1 < bots then min (average + min share 0.8) 1 else average

def getSessionRisk (hash : String → String) (g : IdentityGraph) (sessionId : String) :
    Except PyError ℚ := do
  if (g.sessions.get? (hash sessionId)).isNone then return 0.5
  let cluster := g.getSessionCluster hash sessionId
  if cluster.isEmpty then return 0.5
  let detections ← cluster.mapM g.lookupDetection
  return clusterRisk detections

/-! ## Clusters come to an end -/

theorem neighbors_of_notMem {graph : Dict String (List String)} {id : String}
    (h : id ∉ graph.keys) : neighbors graph id = [] := by
  rw [neighbors, Dict.get?_eq_none_iff.mpr h]
  rfl

theorem getSessionCluster_spec (hash : String → String) (g : IdentityGraph) (sessionId : String) :
    Worklist.explore (neighbors g.graph) g.explorationFuel [hash sessionId] [] =
      some (g.getSessionCluster hash sessionId) := by
  have hsome : (Worklist.explore (neighbors g.graph) g.explorationFuel [hash sessionId] []).isSome := by
    have hdegree : Worklist.degree (neighbors g.graph) [] = fun id => (neighbors g.graph id).length :=
      funext fun id => if_neg (by simp)
    refine Worklist.explore_isSome (fun id hid => neighbors_of_notMem hid) (le_of_eq ?_)
    rw [Worklist.pending, hdegree, explorationFuel, List.length_singleton]
  obtain ⟨cluster, hcluster⟩ := Option.isSome_iff_exists.mp hsome
  rw [getSessionCluster, hcluster, Option.getD_some]

/-! ## What every run keeps -/

/-- Features and connections are those of stored sessions, and these have been
evaluated. -/
structure WellFormed (g : IdentityGraph) : Prop where
  featured : ∀ id ∈ g.sessionFeatures.keys, id ∈ g.sessions.keys
  connected : ∀ id, ∀ other ∈ neighbors g.graph id, other ∈ g.sessions.keys
  evaluated : ∀ id session, g.sessions.get? id = some session →
    ∃ detection, detectionOf session = .ok detection

theorem empty_wellFormed : empty.WellFormed where
  featured := by simp [empty, Dict.keys]
  connected := by simp [empty, neighbors]
  evaluated := by simp [empty]

theorem mem_neighbors_link {graph : Dict String (List String)} {id other v w : String}
    (h : w ∈ neighbors (link graph id other) v) : w ∈ neighbors graph v ∨ w = other := by
  unfold neighbors link at h
  rw [Dict.get?_set] at h
  split at h
  · rename_i heq
    subst heq
    split at h
    · exact .inl h
    · rcases List.mem_append.mp h with h | h
      · exact .inl h
      · exact .inr (List.mem_singleton.mp h)
  · exact .inl h

theorem mem_neighbors_connect {graph : Dict String (List String)} {target : List ℚ}
    {id v w : String} {existing : String × List ℚ}
    (h : w ∈ neighbors (connect target id graph existing) v) :
    w ∈ neighbors graph v ∨ w = existing.1 ∨ w = id := by
  unfold connect at h
  split at h
  · exact .inl h
  · split at h
    · rcases mem_neighbors_link h with h | h
      · exact (mem_neighbors_link h).imp_right .inl
      · exact .inr (.inr h)
    · exact .inl h

/-- Connecting a session only adds what it is connected with. -/
theorem neighbors_connect_all {graph : Dict String (List String)} {target : List ℚ} {id : String}
    {items : List (String × List ℚ)} {P : String → Prop} (hid : P id)
    (hitems : ∀ item ∈ items, P item.1) (hgraph : ∀ v, ∀ w ∈ neighbors graph v, P w) :
    ∀ v, ∀ w ∈ neighbors (items.foldl (connect target id) graph) v, P w := by
  induction items generalizing graph with
  | nil => exact hgraph
  | cons item rest ih =>
      rw [List.forall_mem_cons] at hitems
      refine ih hitems.2 fun v w hw => ?_
      rcases mem_neighbors_connect hw with h | rfl | rfl
      · exact hgraph v w h
      · exact hitems.1
      · exact hid

section
variable {hash : String → String} {g g' : IdentityGraph} {sessionId : String} {session : JsonDict}

theorem mem_keys_storeSession {id : String} (h : id = hash sessionId ∨ id ∈ g.sessions.keys) :
    id ∈ (g.storeSession hash sessionId session).sessions.keys :=
  Dict.mem_keys_set.mpr h

theorem storeSession_wellFormed (hg : g.WellFormed)
    (hsession : ∃ detection, detectionOf session = .ok detection) :
    (g.storeSession hash sessionId session).WellFormed where
  featured := fun id hid => mem_keys_storeSession (.inr (hg.featured id hid))
  connected := fun id other hother => mem_keys_storeSession (.inr (hg.connected id other hother))
  evaluated := by
    intro id stored hstored
    rw [storeSession, Dict.get?_set] at hstored
    split at hstored
    · cases hstored
      exact hsession
    · exact hg.evaluated id stored hstored

theorem addSession_wellFormed (hg : g.WellFormed)
    (hsession : ∃ detection, detectionOf session = .ok detection)
    (h : g.addSession hash sessionId session = .ok g') : g'.WellFormed := by
  obtain ⟨features, -, h⟩ := Fallible.bind_eq_ok_iff.mp h
  cases h
  have hstored := @storeSession_wellFormed hash _ sessionId _ hg hsession
  have hfeatured : ∀ id ∈ (g.sessionFeatures.set (hash sessionId) features).keys,
      id ∈ (g.storeSession hash sessionId session).sessions.keys :=
    fun id hid => mem_keys_storeSession ((Dict.mem_keys_set.mp hid).imp_right (hg.featured id))
  refine ⟨hfeatured, ?_, hstored.evaluated⟩
  refine neighbors_connect_all (mem_keys_storeSession (.inl rfl)) ?_ hstored.connected
  exact fun item hitem => hfeatured item.1 (List.mem_map_of_mem hitem)

end

/-- On a graph that evaluations have built no lookup of the risk fails. -/
theorem getSessionRisk_isOk {g : IdentityGraph} (hg : g.WellFormed) (hash : String → String)
    (sessionId : String) : ∃ risk, g.getSessionRisk hash sessionId = .ok risk := by
  unfold getSessionRisk
  by_cases hstored : (g.sessions.get? (hash sessionId)).isNone
  · rw [if_pos hstored]
    exact ⟨_, rfl⟩
  · have hstart : hash sessionId ∈ g.sessions.keys := by
      by_contra hnot
      exact hstored (by rw [Dict.get?_eq_none_iff.mpr hnot]; rfl)
    have hcluster := Worklist.explore_invariant (fun v _ => hg.connected v)
      (List.forall_mem_singleton.mpr hstart) (by simp) (g.getSessionCluster_spec hash sessionId)
    have hlookup : ∀ id ∈ g.getSessionCluster hash sessionId,
        ∃ detection, g.lookupDetection id = .ok detection := by
      intro id hid
      have hmem := hcluster id hid
      cases hget : g.sessions.get? id with
      | none => exact absurd hmem (Dict.get?_eq_none_iff.mp hget)
      | some session =>
          rw [lookupDetection, hget]
          exact hg.evaluated id session hget
    obtain ⟨detections, hdetections, -⟩ := Fallible.exists_mapM_eq_ok hlookup
    rw [if_neg hstored]
    dsimp only
    split
    · exact ⟨_, rfl⟩
    · rw [hdetections]
      exact ⟨_, rfl⟩

end IdentityGraph

end TruePresenceESE.Memory
