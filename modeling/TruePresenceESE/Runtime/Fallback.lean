import TruePresenceESE.Lib.Alike
import TruePresenceESE.Lib.Isolation
import TruePresenceESE.Lib.Text
import TruePresenceESE.Runtime.SessionUpdates

/-! # The in-memory fallback

A runtime without Redis keeps the records and the event lists in one dictionary, under the
keys it would have used there. Both runtimes are machines over the seven operations; they
read clocks of their own.
-/

namespace TruePresenceESE.Runtime

open JsonDict

/-! ## The operations -/

inductive SessionCall where
  | storeSession (sessionId : String) (sessionData : JsonDict)
  | loadSession (sessionId : String)
  | appendEvent (sessionId : String) (event : JsonDict)
  | getEvents (sessionId : String) (limit : ℤ)
  | deleteSession (sessionId : String)
  | updateSessionField (sessionId field : String) (value : Json) (ttl : Option ℤ)
  | getSessionCount

/-- A call with what the clock reads in either runtime. -/
structure ClockedCall where
  call : SessionCall
  redisNow : ℚ
  memoryNow : ℚ

inductive SessionAnswer where
  | done (success : Bool)
  | session (data : Option JsonDict)
  | events (events : List JsonDict)
  | count (sessions : ℕ)

/-- The answer without the readings of the clock. -/
def SessionAnswer.timeless : SessionAnswer → SessionAnswer
  | .session data => .session (data.map (Dict.erase · "updated_at"))
  | .events entries => .events (entries.map (Dict.erase · "timestamp"))
  | answer => answer

/-- `LRANGE` of a list: both ends count from its end when they are negative. -/
def lrange {α : Type*} (start stop : ℤ) (entries : List α) : List α :=
  let first := if start < 0 then start + entries.length else start
  let last := if stop < 0 then stop + entries.length else stop
  (entries.take (last + 1).toNat).drop first.toNat

/-- `entries[start:]` -/
def sliceFrom {α : Type*} (start : ℤ) (entries : List α) : List α :=
  entries.drop (if start < 0 then start + entries.length else start).toNat

/-! ## Redis -/

namespace RedisStore

/-- `SETEX` takes positive times only. -/
def setex (store : RedisStore) (key : String) (seconds : ℤ) (record : JsonDict) :
    RedisStore × Bool :=
  if 0 < seconds then (store.set key (.text record), true) else (store, false)

def storeSession (ttlSeconds : ℤ) (store : RedisStore) (now : ℚ) (sessionId : String)
    (sessionData : JsonDict) : RedisStore × Bool :=
  store.setex (sessionKey sessionId) ttlSeconds (sessionData.set "updated_at" (.num now))

def getEvents (store : RedisStore) (sessionId : String) (limit : ℤ) : List JsonDict :=
  match store.get? (eventsKey sessionId) with
  | some (.list entries) => lrange (-limit) (-1) entries
  | _ => []

def deleteSession (store : RedisStore) (sessionId : String) : RedisStore :=
  (store.erase (sessionKey sessionId)).erase (eventsKey sessionId)

/-- A hit of the scan for `truepresence:session:*`. -/
def isSessionKey (key : String) : Bool := "truepresence:session:".toList.isPrefixOf key.toList

def getSessionCount (store : RedisStore) : ℕ :=
  (store.keys.filter isSessionKey).length

end RedisStore

def redisStep (ttlSeconds : ℤ) (store : RedisStore) (clocked : ClockedCall) :
    SessionAnswer × RedisStore :=
  let now := clocked.redisNow
  match clocked.call with
  | .storeSession sessionId sessionData =>
      let stored := store.storeSession ttlSeconds now sessionId sessionData
      (.done stored.2, stored.1)
  | .loadSession sessionId => (.session (store.loadSession sessionId), store)
  | .appendEvent sessionId event =>
      let appended := store.appendEvent now sessionId event
      (.done appended.2, appended.1)
  | .getEvents sessionId limit => (.events (store.getEvents sessionId limit), store)
  | .deleteSession sessionId => (.done true, store.deleteSession sessionId)
  | .updateSessionField sessionId field value ttl =>
      let session := (store.loadSession sessionId).getD Dict.empty
      let stored := UpdateSystem.storeChanged ttlSeconds store sessionId session
        ⟨field, .json value, ttl, now⟩
      (.done stored.2, stored.1)
  | .getSessionCount => (.count store.getSessionCount, store)

/-! ## The dictionary -/

inductive MemoryValue where
  | dict (session : JsonDict)
  | list (entries : List JsonDict)

/-- `_memory_store` -/
abbrev MemoryStore := Dict String MemoryValue

namespace MemoryStore

open RedisStore (sessionKey eventsKey stampEvent)

/-- An empty record counts as none. The key of a session never holds a list. -/
def loadSession (store : MemoryStore) (sessionId : String) : Option JsonDict :=
  match store.get? (sessionKey sessionId) with
  | some (.dict session) => if session.size = 0 then none else some session
  | _ => none

def storeSession (store : MemoryStore) (now : ℚ) (sessionId : String) (sessionData : JsonDict) :
    MemoryStore :=
  store.set (sessionKey sessionId) (.dict (sessionData.set "updated_at" (.num now)))

def appendEvent (store : MemoryStore) (now : ℚ) (sessionId : String) (event : JsonDict) :
    MemoryStore × Bool :=
  let entry := stampEvent now event
  match store.get? (eventsKey sessionId) with
  | some (.dict _) => (store, false)
  | some (.list entries) => (store.set (eventsKey sessionId) (.list (entries ++ [entry])), true)
  | none => (store.set (eventsKey sessionId) (.list [entry]), true)

def getEvents (store : MemoryStore) (sessionId : String) (limit : ℤ) : List JsonDict :=
  match store.get? (eventsKey sessionId) with
  | some (.list entries) => sliceFrom (-limit) entries
  | _ => []

def deleteSession (store : MemoryStore) (sessionId : String) : MemoryStore :=
  (store.erase (sessionKey sessionId)).erase (eventsKey sessionId)

/-- A time to live of its own keeps the record from being stamped. -/
def updateSessionField (store : MemoryStore) (now : ℚ) (sessionId field : String) (value : Json)
    (ttl : Option ℤ) : MemoryStore :=
  let session := ((store.loadSession sessionId).getD Dict.empty).set field value
  match ttl with
  | some _ => store.set (sessionKey sessionId) (.dict session)
  | none => store.storeSession now sessionId session

/-- `"session:" in text` -/
def looksLikeSession (text : String) : Bool := Text.contains "session:".toList text.toList

def getSessionCount (store : MemoryStore) : ℕ :=
  (store.keys.filter looksLikeSession).length

end MemoryStore

def memoryStep (store : MemoryStore) (clocked : ClockedCall) : SessionAnswer × MemoryStore :=
  let now := clocked.memoryNow
  match clocked.call with
  | .storeSession sessionId sessionData =>
      (.done true, store.storeSession now sessionId sessionData)
  | .loadSession sessionId => (.session (store.loadSession sessionId), store)
  | .appendEvent sessionId event =>
      let appended := store.appendEvent now sessionId event
      (.done appended.2, appended.1)
  | .getEvents sessionId limit => (.events (store.getEvents sessionId limit), store)
  | .deleteSession sessionId => (.done true, store.deleteSession sessionId)
  | .updateSessionField sessionId field value ttl =>
      (.done true, store.updateSessionField now sessionId field value ttl)
  | .getSessionCount => (.count store.getSessionCount, store)

/-! ## What the two keep -/

open RedisStore (sessionKey eventsKey stampEvent isSessionKey)
open MemoryStore (looksLikeSession)

/-- One key, in Redis and in the dictionary. -/
inductive SameEntry (key : String) : RedisValue → MemoryValue → Prop
  | session {sessionId : String} {record session : JsonDict} (hkey : key = sessionKey sessionId)
      (hsame : Dict.SameBut "updated_at" record session) (hsize : session.size ≠ 0) :
      SameEntry key (.text record) (.dict session)
  | events {sessionId : String} {entries kept : List JsonDict} (hkey : key = eventsKey sessionId)
      (hsame : entries.map (Dict.erase · "timestamp") = kept.map (Dict.erase · "timestamp")) :
      SameEntry key (.list entries) (.list kept)

abbrev SameStores (store : RedisStore) (memory : MemoryStore) : Prop :=
  Dict.Alike SameEntry store memory

/-- Texts that agree agree in their first characters. -/
theorem getElem?_of_append_eq {start start' rest rest' : List Char} {n : ℕ}
    (hn : n < start.length) (hn' : n < start'.length) (h : start ++ rest = start' ++ rest') :
    start[n]? = start'[n]? := by
  have hstart : (start ++ rest)[n]? = start[n]? := List.getElem?_append_left hn
  rw [← hstart, h, List.getElem?_append_left hn']

theorem toList_sessionKey (sessionId : String) :
    (sessionKey sessionId).toList = "truepresence:session:".toList ++ sessionId.toList :=
  String.toList_append

theorem toList_eventsKey (sessionId : String) :
    (eventsKey sessionId).toList = "truepresence:events:".toList ++ sessionId.toList :=
  String.toList_append

/-- The two kinds of keys differ in a character before the session's id. -/
theorem sessionStart_ne_eventsStart (rest rest' : List Char) :
    "truepresence:session:".toList ++ rest ≠ "truepresence:events:".toList ++ rest' := by
  intro h
  have hchar := getElem?_of_append_eq (by decide +kernel : 13 < _) (by decide +kernel) h
  exact absurd hchar (by decide +kernel)

theorem sessionKey_ne_eventsKey (sessionId other : String) :
    sessionKey sessionId ≠ eventsKey other := by
  intro h
  apply sessionStart_ne_eventsStart sessionId.toList other.toList
  rw [← toList_sessionKey, ← toList_eventsKey, h]

theorem size_set_ne_zero (d : JsonDict) (key : String) (value : Json) :
    (d.set key value).size ≠ 0 := by
  intro h
  have hkey : key ∈ (d.set key value).keys := Dict.mem_keys_set.mpr (.inl rfl)
  rw [Dict.keys, List.length_eq_zero_iff.mp h] at hkey
  cases hkey

theorem lrange_eq_sliceFrom {α : Type*} (start : ℤ) (entries : List α) :
    lrange start (-1) entries = sliceFrom start entries := by
  have hlast : ((-1 : ℤ) + entries.length + 1).toNat = entries.length := by omega
  simp only [lrange, sliceFrom, Int.reduceNeg, Int.reduceLT, if_true, hlast, List.take_length]

section
variable {store : RedisStore} {memory : MemoryStore}

/-- The records differ in their stamps only. -/
theorem SameStores.loadSession (h : SameStores store memory) (sessionId : String) :
    (store.loadSession sessionId).map (Dict.erase · "updated_at") =
      (memory.loadSession sessionId).map (Dict.erase · "updated_at") := by
  unfold RedisStore.loadSession MemoryStore.loadSession
  have hget := h.get? (sessionKey sessionId)
  generalize store.get? (sessionKey sessionId) = stored, memory.get? (sessionKey sessionId) = kept
    at hget
  cases hget with
  | none => rfl
  | some hentry =>
      cases hentry with
      | session _ hsame hsize =>
          dsimp only
          rw [if_neg hsize, Option.map_some, Option.map_some, hsame]
      | events hkey _ => exact absurd hkey (sessionKey_ne_eventsKey _ _)

theorem SameStores.loaded (h : SameStores store memory) (sessionId : String) :
    Dict.SameBut "updated_at" ((store.loadSession sessionId).getD Dict.empty)
      ((memory.loadSession sessionId).getD Dict.empty) := by
  have hloaded := h.loadSession sessionId
  cases hstore : store.loadSession sessionId with
  | none =>
      rw [hstore, Option.map_none, eq_comm, Option.map_eq_none_iff] at hloaded
      rw [hloaded]
      exact .refl _ _
  | some record =>
      rw [hstore, Option.map_some, eq_comm, Option.map_eq_some_iff] at hloaded
      obtain ⟨session, hmemory, hsame⟩ := hloaded
      rw [hmemory]
      exact hsame.symm

theorem SameStores.getEvents (h : SameStores store memory) (sessionId : String) (limit : ℤ) :
    (store.getEvents sessionId limit).map (Dict.erase · "timestamp") =
      (memory.getEvents sessionId limit).map (Dict.erase · "timestamp") := by
  unfold RedisStore.getEvents MemoryStore.getEvents
  have hget := h.get? (eventsKey sessionId)
  generalize store.get? (eventsKey sessionId) = stored, memory.get? (eventsKey sessionId) = kept
    at hget
  cases hget with
  | none => rfl
  | some hentry =>
      cases hentry with
      | session hkey _ _ => exact absurd hkey.symm (sessionKey_ne_eventsKey _ _)
      | @events _ entries kept _ hsame =>
          dsimp only
          have hlength : entries.length = kept.length := by simpa using congrArg List.length hsame
          rw [lrange_eq_sliceFrom, sliceFrom, sliceFrom, List.map_drop, List.map_drop, hsame, hlength]

/-- Both append, stamped by their own clocks. -/
theorem SameStores.appendEvent (h : SameStores store memory) (now now' : ℚ) (sessionId : String)
    (event : JsonDict) :
    (store.appendEvent now sessionId event).2 = true ∧
      (memory.appendEvent now' sessionId event).2 = true ∧
      SameStores (store.appendEvent now sessionId event).1
        (memory.appendEvent now' sessionId event).1 := by
  have hstamped : (stampEvent now event).erase "timestamp" =
      (stampEvent now' event).erase "timestamp" := by
    rw [stampEvent, stampEvent, Dict.erase_set_self, Dict.erase_set_self]
  unfold RedisStore.appendEvent MemoryStore.appendEvent
  have hget := h.get? (eventsKey sessionId)
  generalize store.get? (eventsKey sessionId) = stored, memory.get? (eventsKey sessionId) = kept
    at hget
  cases hget with
  | none => exact ⟨rfl, rfl, h.set (.events rfl (by simp [hstamped]))⟩
  | some hentry =>
      cases hentry with
      | session hkey _ _ => exact absurd hkey.symm (sessionKey_ne_eventsKey _ _)
      | events _ hsame => exact ⟨rfl, rfl, h.set (.events rfl (by simp [hsame, hstamped]))⟩

theorem SameStores.deleteSession (h : SameStores store memory) (sessionId : String) :
    SameStores (store.deleteSession sessionId) (memory.deleteSession sessionId) :=
  (h.erase _).erase _

theorem SameStores.updateSessionField (h : SameStores store memory) (now now' : ℚ)
    (sessionId field : String) (value : Json) (ttl : Option ℤ) :
    SameStores (store.updateSessionField now sessionId field (.json value)).1
      (memory.updateSessionField now' sessionId field value ttl) := by
  have hloaded := (h.loaded sessionId).set field value
  cases ttl with
  | none =>
      exact h.set (.session rfl ((hloaded.set_left (.num now)).set_right (.num now'))
        (size_set_ne_zero _ _ _))
  | some _ => exact h.set (.session rfl (hloaded.set_left (.num now)) (size_set_ne_zero _ _ _))

end

/-! ## Counting sessions -/

theorem isSessionKey_sessionKey (sessionId : String) :
    isSessionKey (sessionKey sessionId) = true := by
  rw [isSessionKey, toList_sessionKey, List.isPrefixOf_iff_prefix]
  exact List.prefix_append _ _

theorem isSessionKey_eventsKey (sessionId : String) :
    isSessionKey (eventsKey sessionId) = false := by
  rw [isSessionKey, toList_eventsKey, Bool.eq_false_iff, ne_eq, List.isPrefixOf_iff_prefix]
  intro h
  obtain ⟨rest, hrest⟩ := h
  exact sessionStart_ne_eventsStart rest sessionId.toList hrest

theorem looksLikeSession_sessionKey (sessionId : String) :
    looksLikeSession (sessionKey sessionId) = true := by
  rw [looksLikeSession, Text.contains_iff, toList_sessionKey]
  have hstart : "session:".toList <:+: "truepresence:session:".toList := by decide +kernel
  exact hstart.trans (List.prefix_append _ _).isInfix

theorem mem_of_suffix_of_getLast? {start text : List Char} {c : Char} (h : text <:+ start)
    (hne : text ≠ []) (hlast : start.getLast? = some c) : c ∈ text := by
  have hsame : text.getLast? = start.getLast? := by
    rw [List.getLast?_eq_getLast_of_ne_nil hne, List.getLast?_eq_getLast_of_ne_nil (h.ne_nil hne),
      h.getLast hne]
  exact List.mem_of_getLast? (hsame.trans hlast)

/-- The colon before the session's id keeps a hit from lying across it. -/
theorem looksLikeSession_eventsKey (sessionId : String) :
    looksLikeSession (eventsKey sessionId) = looksLikeSession sessionId := by
  rw [Bool.eq_iff_iff, looksLikeSession, looksLikeSession, Text.contains_iff, Text.contains_iff,
    toList_eventsKey]
  constructor
  · intro h
    rcases List.infix_append_iff_ne_nil.mp h with h | h | ⟨left, right, hleft, hright, hsplit, h, _⟩
    · exact absurd h (by decide +kernel)
    · exact h
    · have hinleft := mem_of_suffix_of_getLast? (c := ':') h hleft (by decide +kernel)
      have hinright := mem_of_suffix_of_getLast? (c := ':') ⟨left, hsplit.symm⟩ hright
        (by decide +kernel)
      have hcount : (left ++ right).count ':' = 1 := by
        rw [← hsplit]
        decide +kernel
      rw [List.count_append] at hcount
      have hleftCount := List.count_pos_iff.mpr hinleft
      have hrightCount := List.count_pos_iff.mpr hinright
      omega
  · exact fun h => h.trans (List.suffix_append _ _).isInfix

theorem filter_length_eq_iff {p q : String → Bool} {keys : List String}
    (h : ∀ key ∈ keys, p key = true → q key = true) :
    (keys.filter p).length = (keys.filter q).length ↔
      ∀ key ∈ keys, q key = true → p key = true := by
  have hfilter : keys.filter p = (keys.filter q).filter p := by
    rw [List.filter_filter]
    apply List.filter_congr
    intro key hkey
    cases hp : p key with
    | false => rfl
    | true => rw [h key hkey hp, Bool.and_self]
  rw [hfilter, List.length_filter_eq_length_iff]
  simp only [List.mem_filter, and_imp]

section
variable {store : RedisStore} {memory : MemoryStore}

/-- Every key is one of a session or of its events. -/
theorem SameStores.key_cases (h : SameStores store memory) {key : String} (hkey : key ∈ store.keys) :
    (∃ sessionId, key = sessionKey sessionId) ∨ ∃ sessionId, key = eventsKey sessionId := by
  have hget := h.get? key
  cases hstore : store.get? key with
  | none => exact absurd hkey (Dict.get?_eq_none_iff.mp hstore)
  | some value =>
      rw [hstore] at hget
      generalize memory.get? key = kept at hget
      cases hget with
      | some hentry =>
          cases hentry with
          | session hkey _ _ => exact .inl ⟨_, hkey⟩
          | events hkey _ => exact .inr ⟨_, hkey⟩

/-- The dictionary counts the events of a session whose id looks like a session's key. -/
theorem SameStores.getSessionCount_eq_iff (h : SameStores store memory) :
    store.getSessionCount = memory.getSessionCount ↔
      ∀ sessionId, eventsKey sessionId ∈ store.keys → looksLikeSession sessionId = false := by
  rw [RedisStore.getSessionCount, MemoryStore.getSessionCount, ← h.keys_eq, filter_length_eq_iff]
  · constructor
    · intro hcount sessionId hkey
      have hsession := hcount _ hkey
      rw [looksLikeSession_eventsKey, isSessionKey_eventsKey] at hsession
      simpa using hsession
    · intro hevents key hkey hlooks
      rcases h.key_cases hkey with hsession | hsession
      · obtain ⟨sessionId, rfl⟩ := hsession
        exact isSessionKey_sessionKey sessionId
      · obtain ⟨sessionId, rfl⟩ := hsession
        rw [looksLikeSession_eventsKey, hevents sessionId hkey] at hlooks
        cases hlooks
  · intro key hkey hsession
    rcases h.key_cases hkey with hkind | hkind
    · obtain ⟨sessionId, rfl⟩ := hkind
      exact looksLikeSession_sessionKey sessionId
    · obtain ⟨sessionId, rfl⟩ := hkind
      rw [isSessionKey_eventsKey] at hsession
      cases hsession

end

/-! ## Whole runs -/

/-- The answers of both, without the readings of their clocks, are the same. -/
def SameAnswers (ttlSeconds : ℤ) (calls : List ClockedCall) : Prop :=
  (Isolation.trace (redisStep ttlSeconds) Dict.empty calls).map (·.2.timeless) =
    (Isolation.trace memoryStep Dict.empty calls).map (·.2.timeless)

/-- Redis takes the time to live of what is written, and no session whose events it holds has
an id that looks like the key of a session when the sessions are counted. -/
def ServedAlike (ttlSeconds : ℤ) (store : RedisStore) (clocked : ClockedCall) : Prop :=
  match clocked.call with
  | .storeSession _ _ => 0 < ttlSeconds
  | .updateSessionField _ _ _ ttl => 0 < ttl.getD ttlSeconds
  | .getSessionCount =>
      ∀ sessionId, eventsKey sessionId ∈ store.keys → looksLikeSession sessionId = false
  | _ => True

section
variable {ttlSeconds : ℤ} {store : RedisStore} {memory : MemoryStore} {clocked : ClockedCall}

theorem setex_snd_iff {key : String} {record : JsonDict} :
    (store.setex key ttlSeconds record).2 = true ↔ 0 < ttlSeconds := by
  rw [RedisStore.setex]
  split <;> simp_all

theorem storeChanged_snd_iff {sessionId field : String} {session : JsonDict} {value : Json}
    {ttl : Option ℤ} {now : ℚ} :
    (UpdateSystem.storeChanged ttlSeconds store sessionId session
      ⟨field, .json value, ttl, now⟩).2 = true ↔ 0 < ttl.getD ttlSeconds := by
  simp only [UpdateSystem.storeChanged, UpdateSystem.changed, PyObject.encode, Option.map_some]
  split <;> simp_all

/-- The answers of one step are the same exactly where the condition holds. -/
theorem SameStores.timeless_eq_iff (h : SameStores store memory) :
    (redisStep ttlSeconds store clocked).1.timeless = (memoryStep memory clocked).1.timeless ↔
      ServedAlike ttlSeconds store clocked := by
  obtain ⟨call, redisNow, memoryNow⟩ := clocked
  cases call with
  | storeSession sessionId sessionData =>
      simp [redisStep, memoryStep, ServedAlike, SessionAnswer.timeless, RedisStore.storeSession,
        setex_snd_iff]
  | loadSession sessionId =>
      simp [redisStep, memoryStep, ServedAlike, SessionAnswer.timeless, h.loadSession sessionId]
  | appendEvent sessionId event =>
      obtain ⟨hredis, hmemory, _⟩ := h.appendEvent redisNow memoryNow sessionId event
      simp [redisStep, memoryStep, ServedAlike, SessionAnswer.timeless, hredis, hmemory]
  | getEvents sessionId limit =>
      simp [redisStep, memoryStep, ServedAlike, SessionAnswer.timeless,
        h.getEvents sessionId limit]
  | deleteSession sessionId => simp [redisStep, memoryStep, ServedAlike]
  | updateSessionField sessionId field value ttl =>
      simp [redisStep, memoryStep, ServedAlike, SessionAnswer.timeless, storeChanged_snd_iff]
  | getSessionCount =>
      simp only [redisStep, memoryStep, ServedAlike, SessionAnswer.timeless,
        SessionAnswer.count.injEq]
      exact h.getSessionCount_eq_iff

/-- The stores stay alike. -/
theorem SameStores.step (h : SameStores store memory)
    (hserved : ServedAlike ttlSeconds store clocked) :
    SameStores (redisStep ttlSeconds store clocked).2 (memoryStep memory clocked).2 := by
  obtain ⟨call, redisNow, memoryNow⟩ := clocked
  cases call with
  | storeSession sessionId sessionData =>
      have hpositive : 0 < ttlSeconds := hserved
      simp only [redisStep, memoryStep, RedisStore.storeSession, RedisStore.setex,
        if_pos hpositive]
      exact h.set (.session rfl (((Dict.SameBut.refl _ _).set_left _).set_right _)
        (size_set_ne_zero _ _ _))
  | loadSession sessionId => exact h
  | appendEvent sessionId event => exact (h.appendEvent redisNow memoryNow sessionId event).2.2
  | getEvents sessionId limit => exact h
  | deleteSession sessionId => exact h.deleteSession sessionId
  | updateSessionField sessionId field value ttl =>
      have hpositive : 0 < ttl.getD ttlSeconds := hserved
      simp only [redisStep, memoryStep]
      rw [UpdateSystem.storeChanged_eq_updateSessionField hpositive]
      exact h.updateSessionField redisNow memoryNow sessionId field value ttl
  | getSessionCount => exact h

end

/-- The fallback answers as Redis does exactly in the runs whose calls are served alike. -/
theorem fallback_answers_as_redis_iff (ttlSeconds : ℤ) (calls : List ClockedCall) :
    SameAnswers ttlSeconds calls ↔
      Isolation.AlongRun (redisStep ttlSeconds) (ServedAlike ttlSeconds) Dict.empty calls :=
  Isolation.trace_looks_alike_iff (fun _ _ _ h => SameStores.timeless_eq_iff h)
    (fun _ _ _ h hserved => SameStores.step h hserved) Dict.alike_empty

/-- A session `session:1` has one event and no record. -/
theorem events_counted_as_session :
    ¬SameAnswers 3600
      [⟨.appendEvent "session:1" Dict.empty, 0, 0⟩, ⟨.getSessionCount, 0, 0⟩] := by
  intro h
  have hcounts : SessionAnswer.count 0 = SessionAnswer.count 1 :=
    Option.some.inj (congrArg (fun answers => answers[1]?) h)
  cases hcounts

end TruePresenceESE.Runtime
