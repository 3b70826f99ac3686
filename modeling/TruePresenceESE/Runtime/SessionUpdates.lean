import TruePresenceESE.Runtime.Distributed

/-! # Two clients on one session

An update reads the whole record in one command and writes it back in another. Commands
of two clients interleave, and the record that is written last is the one that stays.
-/

namespace TruePresenceESE.Runtime

open PyValue JsonDict

inductive Client where
  | one
  | two
  deriving DecidableEq

namespace Client

def other : Client → Client
  | one => two
  | two => one

theorem other_ne (client : Client) : client.other ≠ client := by
  cases client <;> decide

end Client

/-- The arguments of `update_session_field`, and the clock at the write. -/
structure FieldUpdate where
  field : String
  value : PyObject
  ttl : Option ℤ
  now : ℚ

inductive Progress where
  | waiting
  | loaded (session : JsonDict)
  | returned (success : Bool)

structure UpdateSystem where
  store : RedisStore
  progress : Client → Progress

namespace UpdateSystem

/-- `session[field] = value`, and the stamp; `none` where the record has no encoding. -/
def changed (session : JsonDict) (update : FieldUpdate) : Option JsonDict :=
  update.value.encode.map fun json =>
    (session.set update.field json).set "updated_at" (.num update.now)

/-- `SETEX` takes positive times only. -/
def storeChanged (ttlSeconds : ℤ) (store : RedisStore) (sessionId : String) (session : JsonDict)
    (update : FieldUpdate) : RedisStore × Bool :=
  match changed session update with
  | some record =>
      if 0 < update.ttl.getD ttlSeconds then
        (store.set (RedisStore.sessionKey sessionId) (.text record), true)
      else (store, false)
  | none => (store, false)

/-- The next command of a client. -/
def step (ttlSeconds : ℤ) (sessionId : String) (updates : Client → FieldUpdate) (s : UpdateSystem)
    (client : Client) : UpdateSystem :=
  match s.progress client with
  | .waiting =>
      let session := (s.store.loadSession sessionId).getD Dict.empty
      { s with progress := Function.update s.progress client (.loaded session) }
  | .loaded session =>
      let stored := storeChanged ttlSeconds s.store sessionId session (updates client)
      ⟨stored.1, Function.update s.progress client (.returned stored.2)⟩
  | .returned _ => s

def run (ttlSeconds : ℤ) (sessionId : String) (updates : Client → FieldUpdate)
    (order : List Client) (store : RedisStore) : UpdateSystem :=
  order.foldl (step ttlSeconds sessionId updates) ⟨store, fun _ => .waiting⟩

/-- The commands of two calls, each with its two in order. -/
structure Interleaving where
  order : List Client
  one_twice : order.count .one = 2
  two_twice : order.count .two = 2

/-- Both calls have returned true. -/
def BothSucceed (s : UpdateSystem) : Prop := ∀ client, s.progress client = .returned true

/-- Both fields have been written, and no other field but the stamp has changed. -/
structure NoLostUpdate (updates : Client → FieldUpdate) (before after : JsonDict) : Prop where
  written : ∀ client, after.get? (updates client).field = (updates client).value.encode
  others : ∀ name, (∀ client, name ≠ (updates client).field) → name ≠ "updated_at" →
    after.get? name = before.get? name

/-- One call has returned before the other one loads. -/
def Serial (order : List Client) : Prop :=
  ∃ client : Client, order = [client, client, client.other, client.other]

/-- What a client writes is still there at the end: another call does not overlap it, or
writes first, or what it overwrites the field with is what it was; and the stamp is the
last one. -/
def Survives (order : List Client) (updates : Client → FieldUpdate) (before : JsonDict)
    (client : Client) : Prop :=
  if (updates client).field = "updated_at" then
    ∃ last, order.getLast? = some last ∧
      (updates client).value.encode = some (.num (updates last).now)
  else Serial order ∨ order.getLast? = some client ∨
    before.get? (updates client).field = (updates client).value.encode

/-! ## What each order leaves -/

/-- The call without an interruption is the one of the runtime. -/
theorem storeChanged_eq_updateSessionField {ttlSeconds : ℤ} {store : RedisStore} {sessionId : String}
    {update : FieldUpdate} (httl : 0 < update.ttl.getD ttlSeconds) :
    storeChanged ttlSeconds store sessionId ((store.loadSession sessionId).getD Dict.empty) update =
      store.updateSessionField update.now sessionId update.field update.value := by
  unfold storeChanged changed RedisStore.updateSessionField
  cases update.value.encode with
  | none => rfl
  | some json => simp [httl]

section
variable {ttlSeconds : ℤ} {sessionId : String} {updates : Client → FieldUpdate}
  {store : RedisStore} {before session : JsonDict} {update : FieldUpdate} {client : Client}

/-- A write that succeeds is what the next load finds. -/
theorem loadSession_storeChanged
    (h : (storeChanged ttlSeconds store sessionId session update).2 = true) :
    ∃ record, changed session update = some record ∧
      (storeChanged ttlSeconds store sessionId session update).1.loadSession sessionId =
        some record := by
  unfold storeChanged at h ⊢
  split at h
  · rename_i record hrecord
    split at h
    · rename_i httl
      refine ⟨record, hrecord, ?_⟩
      rw [if_pos httl, RedisStore.loadSession, Dict.get?_set_self]
    · cases h
  · cases h

theorem get?_changed {record : JsonDict} (h : changed session update = some record) (name : String) :
    record.get? name = if name = "updated_at" then some (.num update.now)
      else if name = update.field then update.value.encode else session.get? name := by
  obtain ⟨json, hjson, rfl⟩ := Option.map_eq_some_iff.mp h
  rw [Dict.get?_set, Dict.get?_set, hjson]
  simp only [eq_comm]

/-- The clients' commands stand in one of three ways, seen from the last one. -/
theorem Interleaving.cases (interleaving : Interleaving) : ∃ last : Client,
    interleaving.order = [last.other, last.other, last, last] ∨
      interleaving.order = [last.other, last, last.other, last] ∨
        interleaving.order = [last, last.other, last.other, last] := by
  obtain ⟨order, hone, htwo⟩ := interleaving
  have hlength : order.length = 4 := by
    have hsum : ∀ order : List Client, order.length = order.count .one + order.count .two := by
      intro order
      induction order with
      | nil => rfl
      | cons client rest ih => cases client <;> simp [ih] <;> omega
    rw [hsum, hone, htwo]
  match order, hlength with
  | [a, b, c, d], _ =>
      refine ⟨d, ?_⟩
      revert hone htwo
      cases a <;> cases b <;> cases c <;> cases d <;> decide

theorem run_serial (h : BothSucceed (run ttlSeconds sessionId updates
      [client, client, client.other, client.other] store))
    (hbefore : store.loadSession sessionId = some before) :
    ∃ middle after, changed before (updates client) = some middle ∧
      changed middle (updates client.other) = some after ∧
        (run ttlSeconds sessionId updates [client, client, client.other, client.other]
          store).store.loadSession sessionId = some after := by
  have hne := client.other_ne
  have hfirst := h client
  have hlast := h client.other
  simp only [run, List.foldl_cons, List.foldl_nil, step, hbefore, Option.getD_some, hne, hne.symm,
    Function.update_self, Function.update_of_ne, Function.update_idem, ne_eq, not_false_eq_true,
    Progress.returned.injEq] at hfirst hlast ⊢
  obtain ⟨middle, hmiddle, hloaded⟩ := loadSession_storeChanged hfirst
  rw [hloaded] at hlast ⊢
  obtain ⟨after, hafter, hstored⟩ := loadSession_storeChanged hlast
  exact ⟨middle, after, hmiddle, hafter, hstored⟩

/-- Where the calls overlap, both have loaded the record as it was. -/
theorem run_overlapping {order : List Client}
    (horder : order = [client.other, client, client.other, client] ∨
      order = [client, client.other, client.other, client])
    (h : BothSucceed (run ttlSeconds sessionId updates order store))
    (hbefore : store.loadSession sessionId = some before) :
    ∃ after, changed before (updates client) = some after ∧
      (run ttlSeconds sessionId updates order store).store.loadSession sessionId = some after := by
  have hne := client.other_ne
  have hlast := h client
  rcases horder with rfl | rfl
  all_goals
    simp only [run, List.foldl_cons, List.foldl_nil, step, hbefore, Option.getD_some, hne, hne.symm,
      Function.update_self, Function.update_of_ne, Function.update_idem, ne_eq, not_false_eq_true,
      Progress.returned.injEq] at hlast ⊢
    exact loadSession_storeChanged hlast

/-- What is read of the record at the end. -/
structure Left (order : List Client) (updates : Client → FieldUpdate) (before after : JsonDict)
    (last : Client) : Prop where
  last_eq : order.getLast? = some last
  stamp : after.get? "updated_at" = some (.num (updates last).now)
  last_written : (updates last).field ≠ "updated_at" →
    after.get? (updates last).field = (updates last).value.encode
  first_written : (updates last.other).field ≠ "updated_at" → Serial order →
    after.get? (updates last.other).field = (updates last.other).value.encode
  first_lost : (updates last.other).field ≠ "updated_at" → ¬ Serial order →
    after.get? (updates last.other).field = before.get? (updates last.other).field
  others : ∀ name, (∀ client, name ≠ (updates client).field) → name ≠ "updated_at" →
    after.get? name = before.get? name

theorem serial_of_last (last : Client) : Serial [last.other, last.other, last, last] :=
  ⟨last.other, by cases last <;> rfl⟩

theorem not_serial_of_overlapping {order : List Client} {last : Client}
    (horder : order = [last.other, last, last.other, last] ∨
      order = [last, last.other, last.other, last]) : ¬ Serial order := by
  rintro ⟨client, hserial⟩
  rcases horder with rfl | rfl <;> cases last <;> cases client <;> cases hserial

theorem exists_left (interleaving : Interleaving) (hbefore : store.loadSession sessionId = some before)
    (hfields : (updates .one).field ≠ (updates .two).field)
    (h : BothSucceed (run ttlSeconds sessionId updates interleaving.order store)) :
    ∃ last after, (run ttlSeconds sessionId updates interleaving.order
      store).store.loadSession sessionId = some after ∧
        Left interleaving.order updates before after last := by
  obtain ⟨last, hserial | hoverlapping⟩ := interleaving.cases
  all_goals
    have hapart : (updates last.other).field ≠ (updates last).field := by
      cases last
      · exact hfields.symm
      · exact hfields
  · rw [hserial] at h ⊢
    have hother : last = last.other.other := by cases last <;> rfl
    have hrun := @run_serial ttlSeconds sessionId updates store before last.other
    rw [← hother] at hrun
    obtain ⟨middle, after, hmiddle, hafter, hload⟩ := hrun h hbefore
    refine ⟨last, after, hload, ?_⟩
    constructor
    case last_eq => rfl
    case stamp => rw [get?_changed hafter, if_pos rfl]
    case last_written =>
      intro hstamp
      rw [get?_changed hafter, if_neg hstamp, if_pos rfl]
    case first_written =>
      intro hstamp _
      rw [get?_changed hafter, if_neg hstamp, if_neg hapart, get?_changed hmiddle, if_neg hstamp,
        if_pos rfl]
    case first_lost => exact fun _ hnot => absurd (serial_of_last last) hnot
    case others =>
      intro name hname hstamp
      rw [get?_changed hafter, if_neg hstamp, if_neg (hname _), get?_changed hmiddle,
        if_neg hstamp, if_neg (hname _)]
  · have hnot := not_serial_of_overlapping hoverlapping
    obtain ⟨after, hafter, hload⟩ := run_overlapping hoverlapping h hbefore
    refine ⟨last, after, hload, ?_⟩
    constructor
    case last_eq => rcases hoverlapping with heq | heq <;> rw [heq] <;> rfl
    case stamp => rw [get?_changed hafter, if_pos rfl]
    case last_written =>
      intro hstamp
      rw [get?_changed hafter, if_neg hstamp, if_pos rfl]
    case first_written => exact fun _ hserial => absurd hserial hnot
    case first_lost =>
      intro hstamp _
      rw [get?_changed hafter, if_neg hstamp, if_neg hapart]
    case others =>
      intro name hname hstamp
      rw [get?_changed hafter, if_neg hstamp, if_neg (hname _)]

theorem Left.written_iff {order : List Client} {after : JsonDict} {last : Client}
    (h : Left order updates before after last) (client : Client) :
    after.get? (updates client).field = (updates client).value.encode ↔
      Survives order updates before client := by
  unfold Survives
  split
  · rename_i hstamp
    rw [hstamp, h.stamp, h.last_eq]
    simp [eq_comm]
  · rename_i hstamp
    rw [h.last_eq, Option.some.injEq]
    by_cases hclient : client = last
    · subst hclient
      exact iff_of_true (h.last_written hstamp) (.inr (.inl rfl))
    · obtain rfl : client = last.other := by
        cases client <;> cases last <;> first | rfl | exact absurd rfl hclient
      by_cases hserial : Serial order
      · exact iff_of_true (h.first_written hstamp hserial) (.inl hserial)
      · rw [h.first_lost hstamp hserial]
        simp [hserial, Ne.symm hclient]

end

/-- Whatever the order of the commands, no update is lost exactly when both writes survive. -/
theorem no_lost_update_iff (ttlSeconds : ℤ) (sessionId : String) (updates : Client → FieldUpdate)
    (store : RedisStore) (before : JsonDict) (interleaving : Interleaving)
    (hbefore : store.loadSession sessionId = some before)
    (hfields : (updates .one).field ≠ (updates .two).field)
    (hsucceed : BothSucceed (run ttlSeconds sessionId updates interleaving.order store)) :
    (∃ after, (run ttlSeconds sessionId updates interleaving.order
        store).store.loadSession sessionId = some after ∧ NoLostUpdate updates before after) ↔
      ∀ client, Survives interleaving.order updates before client := by
  obtain ⟨last, after, hload, hleft⟩ := exists_left interleaving hbefore hfields hsucceed
  rw [hload]
  constructor
  · rintro ⟨after', hafter, hkept⟩ client
    cases hafter
    exact (hleft.written_iff client).mp (hkept.written client)
  · intro hsurvives
    exact ⟨after, rfl, fun client => (hleft.written_iff client).mpr (hsurvives client),
      hleft.others⟩

/-! ## Two updates at once -/

def sampleUpdates : Client → FieldUpdate
  | .one => ⟨"mode", .json (.str "test"), none, 1⟩
  | .two => ⟨"stage", .json (.str "review"), none, 2⟩

def sampleStore : RedisStore :=
  Dict.empty.set (RedisStore.sessionKey "s") (.text (Dict.empty.set "mode" (.str "production")))

/-- Both clients load before either writes. -/
def bothLoadFirst : Interleaving := ⟨[.one, .two, .one, .two], rfl, rfl⟩

def oneAfterTheOther : Interleaving := ⟨[.one, .one, .two, .two], rfl, rfl⟩

theorem no_lost_update_iff_serial :
    (∃ after, (run 3600 "s" sampleUpdates oneAfterTheOther.order
        sampleStore).store.loadSession "s" = some after ∧
          NoLostUpdate sampleUpdates (Dict.empty.set "mode" (.str "production")) after) ↔
      ∀ client, Survives oneAfterTheOther.order sampleUpdates
        (Dict.empty.set "mode" (.str "production")) client :=
  no_lost_update_iff 3600 "s" sampleUpdates sampleStore _ oneAfterTheOther rfl (by decide)
    (fun client => by cases client <;> rfl)

theorem overlapping_update_lost :
    BothSucceed (run 3600 "s" sampleUpdates bothLoadFirst.order sampleStore) ∧
      ¬ ∃ after, (run 3600 "s" sampleUpdates bothLoadFirst.order
        sampleStore).store.loadSession "s" = some after ∧
          NoLostUpdate sampleUpdates (Dict.empty.set "mode" (.str "production")) after := by
  refine ⟨fun client => by cases client <;> rfl, ?_⟩
  rintro ⟨after, hload, hkept⟩
  cases hload
  have hwritten : some (Json.str "production") = some (Json.str "test") := hkept.written .one
  simp at hwritten

end UpdateSystem

end TruePresenceESE.Runtime
