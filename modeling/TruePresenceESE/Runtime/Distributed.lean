import TruePresenceESE.Lib.PyObject

/-! # The distributed runtime

Session records and event lists in Redis, without expiry. Every operation swallows
its failures: a value that cannot be encoded, or a key that holds the other kind of
value, leaves the store as it was.
-/

namespace TruePresenceESE.Runtime

open PyValue JsonDict

/-- A text is the encoding of a record. -/
inductive RedisValue where
  | text (record : JsonDict)
  | list (entries : List JsonDict)

abbrev RedisStore := Dict String RedisValue

namespace RedisStore

def sessionKey (sessionId : String) : String := "truepresence:session:" ++ sessionId

def eventsKey (sessionId : String) : String := "truepresence:events:" ++ sessionId

def loadSession (store : RedisStore) (sessionId : String) : Option JsonDict :=
  match store.get? (sessionKey sessionId) with
  | some (.text record) => some record
  | _ => none

/-- The store, and whether the write succeeded. -/
def updateSessionField (store : RedisStore) (now : ℚ) (sessionId field : String)
    (value : PyObject) : RedisStore × Bool :=
  let session := (store.loadSession sessionId).getD Dict.empty
  match value.encode with
  | some json =>
      (store.set (sessionKey sessionId)
        (.text ((session.set field json).set "updated_at" (.num now))), true)
  | none => (store, false)

/-- The event is stamped first. -/
def stampEvent (now : ℚ) (event : JsonDict) : JsonDict := event.set "timestamp" (.num now)

def appendEvent (store : RedisStore) (now : ℚ) (sessionId : String) (event : JsonDict) :
    RedisStore × Bool :=
  let entry := stampEvent now event
  match store.get? (eventsKey sessionId) with
  | some (.text _) => (store, false)
  | some (.list entries) => (store.set (eventsKey sessionId) (.list (entries ++ [entry])), true)
  | none => (store.set (eventsKey sessionId) (.list [entry]), true)

/-- `_get_session_field` of a runtime that loads sessions. -/
def getSessionField (store : RedisStore) (sessionId field : String) : Json :=
  ((store.loadSession sessionId).getD Dict.empty).get field

/-- What the orchestrator writes of one evaluation. -/
def recordEvaluation (store : RedisStore) (now : ℚ) (sessionId : String) (event : JsonDict)
    (finalResult : PyObject) : RedisStore :=
  ((store.appendEvent now sessionId event).1.updateSessionField now sessionId "last_evaluation"
    finalResult).1

/-! ## Fields that nothing writes -/

/-- No record has the field. -/
def Unused (field : String) (store : RedisStore) : Prop :=
  ∀ key record, store.get? key = some (.text record) → record.get? field = none

section
variable {store : RedisStore} {now : ℚ} {sessionId field other : String} {value : PyObject}
  {event : JsonDict}

theorem unused_empty (field : String) : Unused field Dict.empty := by
  intro key record h
  cases h

theorem unused_set_text {key : String} {record : JsonDict} (h : Unused field store)
    (hrecord : record.get? field = none) : Unused field (store.set key (.text record)) := by
  intro key' record' hget
  rw [Dict.get?_set] at hget
  split at hget
  · cases hget
    exact hrecord
  · exact h key' record' hget

theorem unused_set_list {key : String} {entries : List JsonDict} (h : Unused field store) :
    Unused field (store.set key (.list entries)) := by
  intro key' record' hget
  rw [Dict.get?_set] at hget
  split at hget
  · cases hget
  · exact h key' record' hget

theorem loadSession_unused (h : Unused field store) :
    ((store.loadSession sessionId).getD Dict.empty).get? field = none := by
  unfold loadSession
  split
  · rename_i record hget
    exact h _ _ hget
  · rfl

theorem getSessionField_unused (h : Unused field store) :
    store.getSessionField sessionId field = .null := by
  rw [getSessionField, JsonDict.get, getOr, loadSession_unused h]
  rfl

/-- Writing one field does not bring in another. -/
theorem unused_updateSessionField (h : Unused field store) (hother : other ≠ field)
    (hclock : "updated_at" ≠ field) :
    Unused field (store.updateSessionField now sessionId other value).1 := by
  unfold updateSessionField
  dsimp only
  split
  · refine unused_set_text h ?_
    rw [Dict.get?_set_ne _ _ hclock, Dict.get?_set_ne _ _ hother, loadSession_unused h]
  · exact h

theorem unused_appendEvent (h : Unused field store) :
    Unused field (store.appendEvent now sessionId event).1 := by
  unfold appendEvent
  dsimp only
  split
  · exact h
  · exact unused_set_list h
  · exact unused_set_list h

theorem unused_recordEvaluation (h : Unused field store) (hother : "last_evaluation" ≠ field)
    (hclock : "updated_at" ≠ field) :
    Unused field (store.recordEvaluation now sessionId event value) :=
  unused_updateSessionField (unused_appendEvent h) hother hclock

/-- A value without an encoding is not written. -/
theorem updateSessionField_of_encode (h : value.encode = none) :
    (store.updateSessionField now sessionId field value).1 = store := by
  unfold updateSessionField
  rw [h]

end

end RedisStore

end TruePresenceESE.Runtime
