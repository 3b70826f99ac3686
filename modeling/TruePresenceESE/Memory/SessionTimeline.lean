import TruePresenceESE.Lib.Fallible
import TruePresenceESE.Lib.JsonDict

/-! # Temporal memory

The last events of each session, and the variance of the intervals between them.
-/

namespace TruePresenceESE.Memory

open PyValue JsonDict

abbrev SessionTimeline := Dict String (List JsonDict)

namespace SessionTimeline

def maxlen : Nat := 1000

def takeLast {α : Type} (count : Nat) (items : List α) : List α := items.drop (items.length - count)

def eventsOf (timeline : SessionTimeline) (sessionId : String) : List JsonDict :=
  (timeline.get? sessionId).getD []

def addEvent (timeline : SessionTimeline) (now : ℚ) (sessionId : String) (event : JsonDict) :
    SessionTimeline :=
  timeline.set sessionId
    (takeLast maxlen (timeline.eventsOf sessionId ++ [event.setDefault "ts" (.num now)]))

/-- `items[-limit:]` -/
def lastOf {α : Type} (limit : ℤ) (items : List α) : List α :=
  if limit ≤ 0 then items.drop limit.natAbs else takeLast limit.toNat items

/-- A session that is no text is taken for the limit, on the default session. -/
def window (timeline : SessionTimeline) (session : Json) : Except PyError (List JsonDict) :=
  match session with
  | .str sessionId => .ok (takeLast 50 (timeline.eventsOf sessionId))
  | .bool b => .ok (lastOf (if b then 1 else 0) (timeline.eventsOf "default"))
  | .num q =>
      if q.den = 1 then .ok (lastOf q.num (timeline.eventsOf "default")) else .error .typeError
  | _ => .error .typeError

/-- The events under a key that may be no text, but has to be hashable. -/
def lookup (timeline : SessionTimeline) : Json → Except PyError (List JsonDict)
  | .str sessionId => .ok (timeline.eventsOf sessionId)
  | .arr _ => .error .typeError
  | .obj _ => .error .typeError
  | _ => .ok []

def variance (values : List ℚ) : ℚ :=
  let mean := values.sum / values.length
  (values.map fun q => (q - mean) ^ 2).sum / values.length

def drift (timeline : SessionTimeline) (session : Json) : Except PyError ℚ := do
  let events ← timeline.lookup session
  if events.length < 2 then return 0
  let stamps ← events.mapM fun event => number (event.get "ts")
  let intervals := stamps.tail.zipWith (· - ·) stamps
  return if intervals.length < 2 then 0 else variance intervals

end SessionTimeline

end TruePresenceESE.Memory
