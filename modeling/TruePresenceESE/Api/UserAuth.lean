import TruePresenceESE.Lib.Selection
import TruePresenceESE.Runtime.Fallback

/-! # The current user

Who a token belongs to is looked up in the cache, and in the users' table where the cache
has no record. Administrators write the table and then drop the cached record. Requests
take their steps in any order; the cache and the database may fail at each of them.
-/

namespace TruePresenceESE.Api

open PyValue JsonDict TruePresenceESE.Runtime

/-! ## Users and tokens -/

/-- A row of the users' table. -/
structure UserRow where
  email : String
  name : String
  role : String
  tenantId : String
  active : Bool

def UserRow.record (userId : ℤ) (row : UserRow) : JsonDict :=
  ofFields [("id", .num userId), ("email", .str row.email), ("name", .str row.name),
    ("role", .str row.role), ("tenant_id", .str row.tenantId), ("active", .bool row.active)]

/-- What a token says of its user, besides the id. -/
structure TokenClaims where
  email : String
  tenantId : String

structure UpdateUserRequest where
  name : Option String := none
  role : Option String := none
  active : Option Bool := none
  tenantId : Option String := none

def UpdateUserRequest.apply (request : UpdateUserRequest) (row : UserRow) : UserRow where
  email := row.email
  name := request.name.getD row.name
  role := request.role.getD row.role
  tenantId := request.tenantId.getD row.tenantId
  active := request.active.getD row.active

def roleHierarchy : List String := ["super_admin", "admin", "reviewer", "observer"]

inductive AuthReply where
  | user (user : JsonDict)
  | updated (row : JsonDict)
  | deactivated
  | failure (status : ℕ) (detail : String)

def unexpected : AuthReply := .failure 500 "Internal Server Error"

/-- Anything but a text has no `lower`. -/
def sameEmail (email : String) : Json → Option Bool
  | .str other => some (PyText.lower email = PyText.lower other)
  | _ => none

/-- What `get_current_user` makes of a record. -/
def checkClaims (claims : TokenClaims) (user : JsonDict) : AuthReply :=
  match if claims.email = "" then some true else sameEmail claims.email (user.get "email") with
  | none => unexpected
  | some false => .failure 401 "User is no longer valid"
  | some true =>
      if claims.tenantId ≠ "" ∧ isText claims.tenantId (user.get "tenant_id") = false then
        .failure 401 "Tenant mismatch"
      else .user user

/-! ## Requests under way -/

/-- What a request does next, or its answer. -/
inductive AuthStage where
  | looking (claims : TokenClaims)
  | selecting (claims : TokenClaims)
  | storing (claims : TokenClaims) (user : JsonDict)
  | updating (request : UpdateUserRequest)
  | deactivating
  | clearing (reply : AuthReply)
  | answered (reply : AuthReply)

/-- What others get to know of a step. -/
inductive AuthEvent where
  | reactivated
  | deactivated
  | announced

/-- What one step of a request meets. -/
structure AuthWeather where
  cache : Bool
  database : Bool
  now : ℚ

/-- The user's row and the cache. -/
structure UserStore where
  row : Option UserRow
  redis : RedisStore

def userCache (userId : ℤ) : String := "user_cache:" ++ toString userId

/-- The defaults of a runtime. -/
def cacheSeconds : ℤ := 3600

/-- The checks of `update_user` before it writes. -/
def receiveUpdate (request : UpdateUserRequest) : AuthStage :=
  if request.name = none ∧ request.role = none ∧ request.active = none ∧
      request.tenantId = none then
    .answered (.failure 400 "No fields to update")
  else match request.role with
  | some role =>
      if role ∈ roleHierarchy then .updating request
      else .answered (.failure 400 ("Invalid role: " ++ role))
  | none => .updating request

section
variable (userId : ℤ)

def cachedUser (s : UserStore) : Option JsonDict := s.redis.loadSession (userCache userId)

def select (s : UserStore) (claims : TokenClaims) : AuthStage :=
  match s.row with
  | none => .answered (.failure 401 "User is no longer valid")
  | some row =>
      if row.active then .storing claims (row.record userId)
      else .answered (.failure 401 "User account is inactive")

/-- The next step of a request. A write of the table commits with its statement. -/
def advanceAuth (s : UserStore) (weather : AuthWeather) :
    AuthStage → AuthStage × UserStore × Option AuthEvent
  | .looking claims =>
      match if weather.cache then (cachedUser userId s).filter (!·.items.isEmpty) else none with
      | some user => (.answered (checkClaims claims user), s, none)
      | none => (.selecting claims, s, none)
  | .selecting claims =>
      if weather.database then (select userId s claims, s, none)
      else (.answered (.failure 503 "Authentication backend unavailable"), s, none)
  | .storing claims user =>
      let stamped := user.set "updated_at" (.num weather.now)
      let stored := s.redis.storeSession cacheSeconds weather.now (userCache userId) user
      (.answered (checkClaims claims stamped),
        if weather.cache then { s with redis := stored.1 } else s, none)
  | .updating request =>
      if weather.database then
        match s.row with
        | none => (.answered (.failure 404 "User not found"), s, none)
        | some row =>
            let written := request.apply row
            (.clearing (.updated (written.record userId)), { s with row := some written },
              if request.active = some true then some .reactivated else none)
      else (.answered unexpected, s, none)
  | .deactivating =>
      if weather.database then
        match s.row with
        | none => (.answered (.failure 404 "User not found"), s, none)
        | some row =>
            (.clearing .deactivated, { s with row := some { row with active := false } },
              some .deactivated)
      else (.answered unexpected, s, none)
  | .clearing reply =>
      -- a failure is logged, and the request goes on
      (.answered reply,
        if weather.cache then { s with redis := s.redis.deleteSession (userCache userId) } else s,
        match reply with
        | .deactivated => some .announced
        | _ => none)
  | .answered reply => (.answered reply, s, none)

/-! ## Runs -/

/-- A request is marked when it came after a deactivation was answered, or when it is one
whose write is in, and no reactivation was written since. -/
structure AuthFlight where
  stage : AuthStage
  marked : Bool

/-- A user is closed from the answer of a deactivation on until a reactivation is written. -/
structure Gate where
  store : UserStore
  flights : List AuthFlight
  closed : Bool

inductive GateOp where
  | getCurrentUser (claims : TokenClaims)
  | updateUser (request : UpdateUserRequest)
  | deactivateUser
  | expire
  | advance (flight : ℕ) (weather : AuthWeather)

/-- What becomes of the marks. -/
def Gate.note (g : Gate) (flight : ℕ) (moved : AuthFlight) : Option AuthEvent → Gate
  | some .reactivated =>
      { g with flights := (g.flights.set flight moved).map ({ · with marked := false }),
               closed := false }
  | some .deactivated => { g with flights := g.flights.set flight { moved with marked := true } }
  | some .announced =>
      { g with flights := g.flights.set flight moved, closed := g.closed || moved.marked }
  | none => { g with flights := g.flights.set flight moved }

def gateStep (g : Gate) : GateOp → Unit × Gate
  | .getCurrentUser claims => ((), { g with flights := g.flights ++ [⟨.looking claims, g.closed⟩] })
  | .updateUser request => ((), { g with flights := g.flights ++ [⟨receiveUpdate request, false⟩] })
  | .deactivateUser => ((), { g with flights := g.flights ++ [⟨.deactivating, false⟩] })
  | .expire => ((), { g with
      store.redis := g.store.redis.erase (RedisStore.sessionKey (userCache userId)) })
  | .advance flight weather =>
      match g.flights[flight]? with
      | none => ((), g)
      | some current =>
          let moved := advanceAuth userId g.store weather current.stage
          ((), { g with store := moved.2.1 }.note flight ⟨moved.1, current.marked⟩ moved.2.2)

end

/-- No request that came after a deactivation was answered returns the user before a
reactivation. -/
def DeactivationFinal (g : Gate) : Prop :=
  ∀ flight ∈ g.flights, flight.marked = true → ∀ user, flight.stage ≠ .answered (.user user)

/-! ## Nothing is left in the cache -/

section
variable (userId : ℤ)

/-- The deletion of a deactivation reaches the cache, unless the cache has no record; and no
record reaches it while the user is closed. -/
def StageInTurn (g : Gate) (weather : AuthWeather) (marked : Bool) : AuthStage → Prop
  | .clearing .deactivated =>
      marked = true → weather.cache = true ∨ (cachedUser userId g.store).isNone = true
  | .storing _ _ => g.closed = true → weather.cache = false
  | _ => True

def GateInTurn (g : Gate) : GateOp → Prop
  | .advance flight weather =>
      ∀ current ∈ g.flights[flight]?, StageInTurn userId g weather current.marked current.stage
  | _ => True

instance (g : Gate) (weather : AuthWeather) (marked : Bool) :
    (stage : AuthStage) → Decidable (StageInTurn userId g weather marked stage)
  | .clearing .deactivated => inferInstanceAs (Decidable (_ → _))
  | .storing _ _ => inferInstanceAs (Decidable (_ → _))
  | .clearing (.user _) => isTrue trivial
  | .clearing (.updated _) => isTrue trivial
  | .clearing (.failure _ _) => isTrue trivial
  | .looking _ => isTrue trivial
  | .selecting _ => isTrue trivial
  | .updating _ => isTrue trivial
  | .deactivating => isTrue trivial
  | .answered _ => isTrue trivial

instance (g : Gate) : (op : GateOp) → Decidable (GateInTurn userId g op)
  | .advance _ _ => inferInstanceAs (Decidable (∀ _ ∈ _, _))
  | .getCurrentUser _ => isTrue trivial
  | .updateUser _ => isTrue trivial
  | .deactivateUser => isTrue trivial
  | .expire => isTrue trivial

def RowInactive (s : UserStore) : Prop := ∀ row ∈ s.row, row.active = false

/-- Where a marked request can stand. -/
def MarkedStage (closed : Bool) (s : UserStore) : AuthStage → Prop
  | .looking _ => closed = true
  | .selecting _ => closed = true
  | .clearing reply => RowInactive s ∧ ∀ user, reply ≠ .user user
  | .answered reply => ∀ user, reply ≠ .user user
  | _ => False

/-- A closed user has no active row and no cached record, and a marked request got neither. -/
structure GateInv (g : Gate) : Prop where
  inactive : g.closed = true → RowInactive g.store
  uncached : g.closed = true → cachedUser userId g.store = none
  marked : ∀ flight ∈ g.flights, flight.marked = true → MarkedStage g.closed g.store flight.stage

end

section
variable {userId : ℤ} {g : Gate} {s : UserStore} {weather : AuthWeather}

theorem GateInv.final (h : GateInv userId g) : DeactivationFinal g := by
  intro flight hflight hmarked user hstage
  have hat := h.marked flight hflight hmarked
  rw [hstage] at hat
  exact hat user rfl

theorem cachedUser_deleteSession : cachedUser userId
    { s with redis := s.redis.deleteSession (userCache userId) } = none := by
  have hgone : (s.redis.deleteSession (userCache userId)).get?
      (RedisStore.sessionKey (userCache userId)) = none := by
    rw [RedisStore.deleteSession, Dict.get?_erase_ne _ (sessionKey_ne_eventsKey _ _).symm,
      Dict.get?_erase_self]
  rw [cachedUser, RedisStore.loadSession, hgone]

theorem cachedUser_erase : cachedUser userId
    { s with redis := s.redis.erase (RedisStore.sessionKey (userCache userId)) } = none := by
  rw [cachedUser, RedisStore.loadSession, Dict.get?_erase_self]

/-- A request that joins unmarked, or behind a closed user, stands where it may. -/
theorem GateInv.join (h : GateInv userId g) {flight : AuthFlight}
    (hflight : flight.marked = true → MarkedStage g.closed g.store flight.stage) :
    GateInv userId { g with flights := g.flights ++ [flight] } := by
  refine ⟨h.inactive, h.uncached, fun other hother hmarked => ?_⟩
  rw [List.mem_append, List.mem_singleton] at hother
  rcases hother with hother | rfl
  · exact h.marked other hother hmarked
  · exact hflight hmarked

/-! What one step leaves. -/

variable {stage : AuthStage}

/-- Only a reactivation makes the row active. -/
theorem rowInactive_advanceAuth (h : RowInactive s)
    (hevent : (advanceAuth userId s weather stage).2.2 ≠ some .reactivated) :
    RowInactive (advanceAuth userId s weather stage).2.1 := by
  cases stage with
  | looking claims =>
      simp only [advanceAuth]
      split <;> exact h
  | selecting claims =>
      simp only [advanceAuth]
      split <;> exact h
  | storing claims user =>
      simp only [advanceAuth]
      split <;> exact h
  | updating request =>
      simp only [advanceAuth] at hevent ⊢
      cases hdatabase : weather.database with
      | false => exact h
      | true =>
          cases hrow : s.row with
          | none => simp [RowInactive, hrow]
          | some row =>
              have hkept : request.active ≠ some true := by
                intro hactive
                simp [hdatabase, hrow, hactive] at hevent
              intro written hwritten
              obtain rfl : request.apply row = written := by simpa using hwritten
              show request.active.getD row.active = false
              cases hactive : request.active with
              | none => exact h row hrow
              | some active => simpa [hactive] using hkept
  | deactivating =>
      simp only [advanceAuth]
      cases weather.database with
      | false => exact h
      | true => cases hrow : s.row <;> simp [RowInactive, hrow]
  | clearing reply =>
      simp only [advanceAuth]
      split <;> exact h
  | answered reply => exact h

/-- Only a stored record fills the cache. -/
theorem cachedUser_advanceAuth (h : cachedUser userId s = none)
    (hstoring : ∀ claims user, stage = .storing claims user → weather.cache = false) :
    cachedUser userId (advanceAuth userId s weather stage).2.1 = none := by
  cases stage with
  | looking claims =>
      simp only [advanceAuth]
      split <;> exact h
  | selecting claims =>
      simp only [advanceAuth]
      split <;> exact h
  | storing claims user =>
      simp only [advanceAuth, hstoring claims user rfl]
      exact h
  | updating request =>
      simp only [advanceAuth]
      cases weather.database with
      | false => exact h
      | true => cases s.row <;> exact h
  | deactivating =>
      simp only [advanceAuth]
      cases weather.database with
      | false => exact h
      | true => cases s.row <;> exact h
  | clearing reply =>
      simp only [advanceAuth]
      split
      · exact cachedUser_deleteSession
      · exact h
  | answered reply => exact h

/-- A marked request finds no record, then no active row. -/
theorem markedStage_advanceAuth {closed : Bool} (h : MarkedStage closed s stage)
    (hinactive : closed = true → RowInactive s)
    (huncached : closed = true → cachedUser userId s = none) :
    MarkedStage closed (advanceAuth userId s weather stage).2.1
      (advanceAuth userId s weather stage).1 := by
  cases stage with
  | looking claims =>
      have hclosed : closed = true := h
      simp only [advanceAuth, huncached hclosed, Option.filter_none, ite_self]
      exact hclosed
  | selecting claims =>
      have hclosed : closed = true := h
      simp only [advanceAuth]
      cases weather.database with
      | false => exact fun user => nofun
      | true =>
          simp only [if_true, select]
          cases hrow : s.row with
          | none => exact fun user => nofun
          | some row =>
              simp only [hinactive hclosed row hrow, Bool.false_eq_true, if_false]
              exact fun user => nofun
  | storing claims user => exact h.elim
  | updating request => exact h.elim
  | deactivating => exact h.elim
  | clearing reply => exact h.2
  | answered reply => exact h

/-- Which step an event tells of. -/
theorem stage_of_event {event : AuthEvent}
    (h : (advanceAuth userId s weather stage).2.2 = some event) :
    match event with
    | .reactivated => ∃ request, stage = .updating request
    | .deactivated => stage = .deactivating
    | .announced => stage = .clearing .deactivated := by
  cases stage with
  | looking claims =>
      simp only [advanceAuth] at h
      split at h <;> cases h
  | selecting claims =>
      simp only [advanceAuth] at h
      split at h <;> cases h
  | storing claims user => cases h
  | updating request =>
      simp only [advanceAuth] at h
      split at h
      · split at h
        · cases h
        · simp only at h
          split at h
          · cases h
            exact ⟨request, rfl⟩
          · cases h
      · cases h
  | deactivating =>
      simp only [advanceAuth] at h
      split at h
      · split at h
        · cases h
        · cases h
          rfl
      · cases h
  | clearing reply =>
      cases reply with
      | deactivated =>
          cases h
          rfl
      | user user => cases h
      | updated row => cases h
      | failure status detail => cases h
  | answered reply => cases h

/-- The step that writes the row as inactive goes on to the cache. -/
theorem markedStage_of_deactivated {closed : Bool}
    (h : (advanceAuth userId s weather stage).2.2 = some .deactivated) :
    MarkedStage closed (advanceAuth userId s weather stage).2.1
      (advanceAuth userId s weather stage).1 := by
  obtain rfl : stage = .deactivating := stage_of_event h
  simp only [advanceAuth] at h ⊢
  cases hdatabase : weather.database with
  | false => simp [hdatabase] at h
  | true =>
      cases hrow : s.row with
      | none => simp [hdatabase, hrow] at h
      | some row => exact ⟨by simp [RowInactive], fun user => nofun⟩

theorem MarkedStage.mono {closed closed' : Bool} {s' : UserStore} (h : MarkedStage closed s stage)
    (hclosed : closed = true → closed' = true) (hrow : RowInactive s → RowInactive s') :
    MarkedStage closed' s' stage := by
  cases stage with
  | looking claims => exact hclosed h
  | selecting claims => exact hclosed h
  | storing claims user => exact h.elim
  | updating request => exact h.elim
  | deactivating => exact h.elim
  | clearing reply => exact ⟨hrow h.1, h.2⟩
  | answered reply => exact h

/-! ## Every run -/

/-- The marks of the others stay, and the request that moved is marked as told. -/
theorem marked_set {closed closed' : Bool} {s' : UserStore} {flights : List AuthFlight}
    {flight : ℕ} {moved : AuthFlight}
    (h : ∀ other ∈ flights, other.marked = true → MarkedStage closed s other.stage)
    (hclosed : closed = true → closed' = true) (hrow : RowInactive s → RowInactive s')
    (hmoved : moved.marked = true → MarkedStage closed' s' moved.stage) :
    ∀ other ∈ flights.set flight moved, other.marked = true →
      MarkedStage closed' s' other.stage := by
  intro other hother hmarked
  rcases List.mem_or_eq_of_mem_set hother with hother | rfl
  · exact (h other hother hmarked).mono hclosed hrow
  · exact hmoved hmarked

theorem GateInv.advance (h : GateInv userId g) {flight : ℕ} {current : AuthFlight}
    (hcurrent : current ∈ g.flights)
    (hturn : StageInTurn userId g weather current.marked current.stage) :
    let moved := advanceAuth userId g.store weather current.stage
    GateInv userId ({ g with store := moved.2.1 }.note flight ⟨moved.1, current.marked⟩
      moved.2.2) := by
  intro moved
  have huncached : g.closed = true → cachedUser userId moved.2.1 = none := by
    intro hclosed
    apply cachedUser_advanceAuth (h.uncached hclosed)
    intro claims user hstage
    rw [hstage] at hturn
    exact hturn hclosed
  have hrow (hkeeps : moved.2.2 ≠ some .reactivated) : RowInactive g.store → RowInactive moved.2.1 :=
    fun hinactive => rowInactive_advanceAuth hinactive hkeeps
  have hmoved : current.marked = true → MarkedStage g.closed moved.2.1 moved.1 := fun hmarked =>
    markedStage_advanceAuth (h.marked current hcurrent hmarked) h.inactive h.uncached
  cases hevent : moved.2.2 with
  | none =>
      have hrow := hrow (by simp [hevent])
      exact ⟨fun hclosed => hrow (h.inactive hclosed), huncached,
        marked_set h.marked id hrow hmoved⟩
  | some event =>
      cases event with
      | reactivated =>
          refine ⟨nofun, nofun, fun other hother hmarked => ?_⟩
          obtain ⟨before, _, rfl⟩ := List.mem_map.mp hother
          cases hmarked
      | deactivated =>
          have hrow := hrow (by simp [hevent])
          exact ⟨fun hclosed => hrow (h.inactive hclosed), huncached,
            marked_set h.marked id hrow fun _ => markedStage_of_deactivated hevent⟩
      | announced =>
          have hrow := hrow (by simp [hevent])
          have hstage : current.stage = .clearing .deactivated := stage_of_event hevent
          have hclosing : (g.closed || current.marked) = true →
              g.closed = true ∨ current.marked = true := by simp
          have hgrows : g.closed = true → (g.closed || current.marked) = true := by simp +contextual
          refine ⟨fun hclosed => ?_, fun hclosed => ?_,
            marked_set h.marked hgrows hrow fun hmarked => (hmoved hmarked).mono hgrows id⟩
          · rcases hclosing hclosed with hclosed | hmarked
            · exact hrow (h.inactive hclosed)
            · have hat := h.marked current hcurrent hmarked
              rw [hstage] at hat
              exact hrow hat.1
          · rcases hclosing hclosed with hclosed | hmarked
            · exact huncached hclosed
            · rw [hstage] at hturn
              rcases hturn hmarked with hcache | hnone
              · have hdeleted : moved.2.1 = { g.store with
                    redis := g.store.redis.deleteSession (userCache userId) } := by
                  simp only [moved, hstage, advanceAuth, hcache, if_true]
                show cachedUser userId moved.2.1 = none
                rw [hdeleted]
                exact cachedUser_deleteSession
              · apply cachedUser_advanceAuth (Option.isNone_iff_eq_none.mp hnone)
                intro claims user hstoring
                rw [hstage] at hstoring
                cases hstoring

theorem GateInv.step (h : GateInv userId g) (op : GateOp) (hturn : GateInTurn userId g op) :
    GateInv userId (gateStep userId g op).2 := by
  cases op with
  | getCurrentUser claims => exact h.join id
  | updateUser request => exact h.join nofun
  | deactivateUser => exact h.join nofun
  | expire => exact ⟨h.inactive, fun _ => cachedUser_erase, h.marked⟩
  | advance flight weather =>
      simp only [gateStep]
      cases hcurrent : g.flights[flight]? with
      | none => exact h
      | some current =>
          exact h.advance (List.mem_of_getElem? hcurrent) (hturn current hcurrent)

end

/-- Before the first request. -/
def Gate.opened (store : UserStore) : Gate := ⟨store, [], false⟩

theorem gateInv_opened (userId : ℤ) (store : UserStore) : GateInv userId (Gate.opened store) :=
  ⟨nofun, nofun, nofun⟩

/-- In every run in which a deactivation's deletion reaches the cache and no record is stored
behind it, a deactivation is final. -/
theorem deactivation_final_of_inTurn (userId : ℤ) (store : UserStore) (ops : List GateOp)
    (hops : Isolation.AlongRun (gateStep userId) (GateInTurn userId) (Gate.opened store) ops) :
    DeactivationFinal (Isolation.run (gateStep userId) (Gate.opened store) ops) := by
  have hinv : GateInv userId (Isolation.run (gateStep userId) (Gate.opened store) ops) :=
    Isolation.alongRun_invariant (fun _ op h hturn => GateInv.step h op hturn)
      (gateInv_opened userId store) hops
  exact hinv.final

/-- A request reads the row, a deactivation follows, and another request comes in. The first
one stores what it read where it has its turn before the deactivation. -/
def requestAcross (storesLate : Bool) : List GateOp :=
  let claims : TokenClaims := ⟨"ann@truepresence.test", "default"⟩
  let reader : List GateOp := [.advance 0 ⟨true, true, 2⟩]
  let deactivation : List GateOp := [.deactivateUser, .advance 1 ⟨true, true, 3⟩,
    .advance 1 ⟨true, true, 4⟩]
  [.getCurrentUser claims, .advance 0 ⟨true, true, 0⟩, .advance 0 ⟨true, true, 1⟩] ++
    (if storesLate then deactivation ++ reader else reader ++ deactivation) ++
    [.getCurrentUser claims, .advance 2 ⟨true, true, 5⟩, .advance 2 ⟨true, true, 6⟩]

def activeUser : UserStore where
  row := some ⟨"ann@truepresence.test", "Ann", "reviewer", "default", true⟩
  redis := Dict.empty

theorem deactivation_final_of_requestAcross :
    DeactivationFinal (Isolation.run (gateStep 7) (Gate.opened activeUser) (requestAcross false)) :=
  deactivation_final_of_inTurn 7 activeUser (requestAcross false) (by decide +kernel)

def returnsUser : AuthStage → Bool
  | .answered (.user _) => true
  | _ => false

theorem not_deactivationFinal {g : Gate}
    (h : g.flights.any (fun flight => flight.marked && returnsUser flight.stage) = true) :
    ¬DeactivationFinal g := by
  intro hfinal
  obtain ⟨flight, hflight, hreturns⟩ := List.any_eq_true.mp h
  rw [Bool.and_eq_true] at hreturns
  obtain ⟨hmarked, hreturns⟩ := hreturns
  unfold returnsUser at hreturns
  split at hreturns
  · rename_i user hstage
    exact hfinal flight hflight hmarked user hstage
  · cases hreturns

/-- Stored behind the deactivation, the record is what the next request finds. -/
theorem deactivated_user_returned : ¬DeactivationFinal
    (Isolation.run (gateStep 7) (Gate.opened activeUser) (requestAcross true)) :=
  not_deactivationFinal (by decide +kernel)

end TruePresenceESE.Api
