import TruePresenceESE.Lib.Isolation
import TruePresenceESE.Telegram.AdminRoutes

/-! # Requests for one review, interleaved

A request to resolve a review reads its row and writes it; one to execute it looks the
review up twice and then posts. Other requests come between, and an execution leaves no
mark in the store: what the next request reads is as it was.
-/

namespace TruePresenceESE.Telegram.Interleaved

open PyValue JsonDict

variable {rt : TextRuntime}

/-! ## Requests under way -/

/-- Where a request for the review stands: what it does next, or its answer. -/
inductive Flight where
  | looking
  | reading
  | posting (decision : String) (request : ApiRequest) (attempt : ℕ)
  | selecting (resolution : Resolution)
  | updating (resolution : Resolution) (review : JsonDict)
  | recalling (resolution : Resolution)
  | answered (response : AdminResponse)

/-- The store, the requests in the order they came, and the calls that were answered with
status 200. -/
structure Desk (rt : TextRuntime) where
  reviews : ReviewState rt
  flights : List Flight
  succeeded : List ApiRequest

/-- What one step of a request meets. -/
structure StepWeather where
  reply : HttpReply
  loads : String → Option Json
  now : ℚ

def StepWeather.execution (weather : StepWeather) : ExecutionWeather :=
  ⟨true, true, fun _ => weather.reply, weather.loads, weather.now⟩

inductive DeskOp where
  | resolve (resolution : JsonDict) (resolvedAt : String)
  | execute
  | advance (flight : ℕ) (weather : StepWeather)

def AdminResponse.ofOutcome (reviewId tenantId : String) (outcome : ReviewOutcome) :
    AdminResponse :=
  if outcome.status ∈ ["executed", "skipped"] then .executed tenantId reviewId outcome
  else .failure 500 (outcome.error.getD "Failed to execute decision")

def updateRow (s : ReviewState rt) (reviewId : String) (review : JsonDict) : ReviewState rt :=
  match s.rows.get? reviewId with
  | none => s
  | some row => s.setRow reviewId { row with data := review, status := "resolved" }

section
variable (host : AdminHost) (reviewId tenantId : String)

/-- A request to resolve the review, and the tenants after it. -/
def receiveResolve (s : ReviewState rt) (resolution : JsonDict) (resolvedAt : String) :
    Flight × ReviewState rt :=
  match decisionOf resolution with
  | .error failure => (.answered failure, s)
  | .ok decision =>
      let ensured := ensureTenant host.reviews.configs s.tenants
        (tenantOf host.reviews (some tenantId))
      let after := { s with tenants := ensured.2 }
      match ensured.1 with
      | .error _ => (.answered serverError, after)
      | .ok _ => (.selecting ⟨decision, resolution.getOr "notes" (.str ""), resolvedAt⟩, after)

def notFound : AdminResponse := .failure 404 "Review not found"

/-- What the service makes of the review it looks up to execute. -/
def preparation (s : ReviewState rt) (weather : StepWeather) :
    Except PyError (Sum ReviewOutcome (String × ApiRequest)) := do
  let found ← reviewToExecute host.reviews s true reviewId (tenantOf host.reviews (some tenantId))
  let some review := found
    | return .inl { status := "failed", error := some "Review not found" }
  prepareExecution
    (executionToken host.reviews s true (tenantOf host.reviews (some tenantId)))
    weather.execution reviewId review

/-- A post that may be tried again is. -/
def afterPost (weather : StepWeather) (decision : String) (request : ApiRequest) (attempt : ℕ) :
    Flight :=
  let ends (reply : Except String (Nat × String)) : Flight :=
    .answered (AdminResponse.ofOutcome reviewId tenantId
      (postOutcome weather.execution reviewId decision reply))
  match weather.reply with
  | .response statusCode text =>
      if 500 ≤ statusCode ∧ attempt < 2 then .posting decision request (attempt + 1)
      else ends (.ok (statusCode, text))
  | .transient error =>
      if attempt < 2 then .posting decision request (attempt + 1) else ends (.error error)
  | .failure error => ends (.error error)

def callSucceeds : HttpReply → Bool
  | .response statusCode _ => statusCode = 200
  | _ => false

/-- The next step of a request: where it stands then, the store, and the call if one
succeeds. The row is read in one statement and written in another. -/
def advance (s : ReviewState rt) (weather : StepWeather) :
    Flight → Flight × ReviewState rt × Option ApiRequest
  | .looking =>
      match (getReview host.reviews s true reviewId (some tenantId)).filter (!·.items.isEmpty) with
      | none => (.answered notFound, s, none)
      | some review =>
          if isText "resolved" (review.get "status") then (.reading, s, none)
          else (.answered (.failure 400 "Review not yet resolved by admin"), s, none)
  | .reading =>
      match preparation host reviewId tenantId s weather with
      | .error _ => (.answered serverError, s, none)
      | .ok (.inl outcome) =>
          (.answered (AdminResponse.ofOutcome reviewId tenantId outcome), s, none)
      | .ok (.inr (decision, request)) => (.posting decision request 0, s, none)
  | .posting decision request attempt =>
      (afterPost reviewId tenantId weather decision request attempt, s,
        if callSucceeds weather.reply then some request else none)
  | .selecting resolution =>
      match s.rowOf reviewId (tenantOf host.reviews (some tenantId)) with
      | none => (.answered notFound, s, none)
      | some row =>
          match host.reviews.column.load row.data with
          | .ok review => (.updating resolution review, s, none)
          | .error _ => (.recalling resolution, s, none)
  | .updating resolution review =>
      (.answered (.resolved tenantId reviewId (.str resolution.decision) resolution.notes),
        updateRow s reviewId (resolution.apply review), none)
  | .recalling resolution =>
      let resolved := resolveCopy s reviewId (tenantOf host.reviews (some tenantId)) resolution
      (.answered (if resolved.1 then
          .resolved tenantId reviewId (.str resolution.decision) resolution.notes else notFound),
        resolved.2, none)
  | .answered response => (.answered response, s, none)

def deskStep (d : Desk rt) : DeskOp → Unit × Desk rt
  | .resolve resolution resolvedAt =>
      let received := receiveResolve host tenantId d.reviews resolution resolvedAt
      ((), { d with reviews := received.2, flights := d.flights ++ [received.1] })
  | .execute => ((), { d with flights := d.flights ++ [.looking] })
  | .advance flight weather =>
      match d.flights[flight]? with
      | none => ((), d)
      | some current =>
          let moved := advance host reviewId tenantId d.reviews weather current
          ((), ⟨moved.2.1, d.flights.set flight moved.1, d.succeeded ++ moved.2.2.toList⟩)

end

/-! ## Requests that run alone -/

section
variable {host : AdminHost} {reviewId tenantId : String} {flights : List Flight}
  {succeeded : List ApiRequest}

/-- Steps of one request with none between them. -/
def advances (host : AdminHost) (reviewId tenantId : String) :
    List StepWeather → Flight → ReviewState rt → Flight × ReviewState rt × List ApiRequest
  | [], flight, s => (flight, s, [])
  | weather :: rest, flight, s =>
      let moved := advance host reviewId tenantId s weather flight
      let after := advances host reviewId tenantId rest moved.1 moved.2.1
      (after.1, after.2.1, moved.2.2.toList ++ after.2.2)

theorem advances_answered (weathers : List StepWeather) (response : AdminResponse)
    (s : ReviewState rt) : advances host reviewId tenantId weathers (.answered response) s =
      (.answered response, s, []) := by
  induction weathers with
  | nil => rfl
  | cons weather rest ih => rw [advances, advance, ih]; rfl

/-- The request that came last takes its steps. -/
theorem run_advances (weathers : List StepWeather) (flight : Flight) (s : ReviewState rt) :
    Isolation.run (deskStep host reviewId tenantId) ⟨s, flights ++ [flight], succeeded⟩
        (weathers.map (.advance flights.length)) =
      let after := advances host reviewId tenantId weathers flight s
      ⟨after.2.1, flights ++ [after.1], succeeded ++ after.2.2⟩ := by
  induction weathers generalizing flight s succeeded with
  | nil => simp [Isolation.run, advances]
  | cons weather rest ih =>
      have hstep : (deskStep host reviewId tenantId ⟨s, flights ++ [flight], succeeded⟩
          (.advance flights.length weather)).2 =
            let moved := advance host reviewId tenantId s weather flight
            ⟨moved.2.1, flights ++ [moved.1], succeeded ++ moved.2.2.toList⟩ := by
        simp [deskStep]
      have hrest := @ih (succeeded ++ (advance host reviewId tenantId s weather flight).2.2.toList)
        (advance host reviewId tenantId s weather flight).1
        (advance host reviewId tenantId s weather flight).2.1
      rw [Isolation.run, List.map_cons, List.foldl_cons, hstep]
      refine hrest.trans ?_
      simp only [advances, List.append_assoc]

theorem updateRow_rowOf {s : ReviewState rt} {tenant : String} {row : ReviewRow} {review : JsonDict}
    {resolution : Resolution} (h : s.rowOf reviewId tenant = some row) :
    updateRow s reviewId (resolution.apply review) =
      resolveRow s reviewId row review resolution := by
  obtain ⟨hrow, -⟩ := Option.filter_eq_some_iff.mp h
  rw [updateRow, hrow]
  rfl

theorem advances_selecting (s : ReviewState rt) (resolution : Resolution)
    (first second : StepWeather) :
    let stored := resolveStored host.reviews s true reviewId
      (tenantOf host.reviews (some tenantId)) resolution
    advances host reviewId tenantId [first, second] (.selecting resolution) s =
      (.answered (if stored.1 then
        .resolved tenantId reviewId (.str resolution.decision) resolution.notes else notFound),
        stored.2, []) := by
  intro stored
  cases hrow : s.rowOf reviewId (tenantOf host.reviews (some tenantId)) with
  | none =>
      have hstored : stored = (false, s) := by simp only [stored, resolveStored, hrow, if_true]
      rw [hstored, advances, advance, hrow]
      rfl
  | some row =>
      cases hload : host.reviews.column.load row.data with
      | ok review =>
          have hstored : stored = (true, resolveRow s reviewId row review resolution) := by
            simp only [stored, resolveStored, hrow, hload, if_true]
          rw [hstored, ← updateRow_rowOf hrow, advances, advance, hrow]
          dsimp only
          rw [hload]
          rfl
      | error error =>
          have hstored : stored =
              resolveCopy s reviewId (tenantOf host.reviews (some tenantId)) resolution := by
            simp only [stored, resolveStored, hrow, hload, if_true]
          rw [hstored, advances, advance, hrow]
          dsimp only
          rw [hload]
          rfl

/-- With no request between its steps, a resolution is the one of the route. -/
theorem resolve_alone (s : ServiceState rt) (weather : AdminWeather) (hup : weather.database = true)
    (resolution : JsonDict) (first second : StepWeather) :
    let route := resolveReviewRoute host s weather reviewId tenantId resolution
    Isolation.run (deskStep host reviewId tenantId) ⟨s.reviews, flights, succeeded⟩
        (.resolve resolution weather.resolvedAt ::
          [first, second].map (.advance flights.length)) =
      ⟨route.2.reviews, flights ++ [.answered route.1], succeeded⟩ := by
  intro route
  refine (run_advances [first, second] _ _).trans ?_
  simp only [route, receiveResolve, resolveReviewRoute, resolveReview, hup]
  cases decisionOf resolution with
  | error failure => simp [advances_answered]
  | ok decision =>
      dsimp only
      cases (ensureTenant host.reviews.configs s.reviews.tenants
          (tenantOf host.reviews (some tenantId))).1 with
      | error error => simp [advances_answered]
      | ok loaded =>
          dsimp only
          rw [advances_selecting]
          cases (resolveStored host.reviews _ true reviewId
              (tenantOf host.reviews (some tenantId))
              ⟨decision, resolution.getOr "notes" (.str ""), weather.resolvedAt⟩) with
          | mk found after => cases found <;> simp [notFound]

/-- What the posts of an execution meet, from one attempt on. -/
def attempts (weather : ExecutionWeather) (attempt : ℕ) : ℕ → List StepWeather
  | 0 => [⟨weather.http attempt, weather.loads, weather.now⟩]
  | retries + 1 =>
      ⟨weather.http attempt, weather.loads, weather.now⟩ :: attempts weather (attempt + 1) retries

/-- The call of an execution, where it succeeds. -/
def succeededCall (request : ApiRequest) : Except String (Nat × String) → List ApiRequest
  | .ok (statusCode, _) => if statusCode = 200 then [request] else []
  | .error _ => []

theorem advances_posting (s : ReviewState rt) (weather : ExecutionWeather) (decision : String)
    (request : ApiRequest) (attempt retries : ℕ) (hlast : attempt + retries = 2) :
    let reply := (postTelegramApi weather.http request attempt retries).2
    advances host reviewId tenantId (attempts weather attempt retries)
        (.posting decision request attempt) s =
      (.answered (AdminResponse.ofOutcome reviewId tenantId
        (postOutcome weather reviewId decision reply)), s, succeededCall request reply) := by
  induction retries generalizing attempt with
  | zero =>
      have hno : ¬ attempt < 2 := by omega
      simp only [attempts, advances, advance, afterPost, postTelegramApi]
      cases weather.http attempt with
      | response statusCode text =>
          by_cases hsucceeds : statusCode = 200
          · simp [hno, callSucceeds, succeededCall, hsucceeds, postOutcome, StepWeather.execution]
          · simp [hno, callSucceeds, succeededCall, hsucceeds, postOutcome]
      | transient error => simp [hno, callSucceeds, succeededCall, postOutcome]
      | failure error => simp [callSucceeds, succeededCall, postOutcome]
  | succ retries ih =>
      have hyes : attempt < 2 := by omega
      have hagain := ih (attempt + 1) (by omega)
      simp only [attempts, advances, advance, afterPost, postTelegramApi]
      cases weather.http attempt with
      | response statusCode text =>
          by_cases hserver : 500 ≤ statusCode
          · have hfails : statusCode ≠ 200 := by omega
            simp [hyes, hserver, hfails, callSucceeds, hagain]
          · by_cases hsucceeds : statusCode = 200
            · simp [callSucceeds, succeededCall, hsucceeds, advances_answered, postOutcome,
                StepWeather.execution]
            · simp [hserver, callSucceeds, succeededCall, hsucceeds, advances_answered, postOutcome]
      | transient error => simp [hyes, callSucceeds, hagain]
      | failure error => simp [callSucceeds, succeededCall, advances_answered, postOutcome]

theorem executeReviewDecision_eq (s : ReviewState rt) (weather : ExecutionWeather)
    (second : StepWeather) (hup : weather.database = true ∧ weather.tokenDatabase = true)
    (hnow : second.now = weather.now) :
    executeReviewDecision host.reviews s weather reviewId (some tenantId) =
      (preparation host reviewId tenantId s second).map fun prepared =>
        match prepared with
        | .inl outcome => ([], outcome)
        | .inr (decision, request) =>
            let posted := postTelegramApi weather.http request 0 2
            (posted.1, postOutcome weather reviewId decision posted.2) := by
  have hprepare : ∀ token review, prepareExecution token weather reviewId review =
      prepareExecution token second.execution reviewId review := by
    intro token review
    unfold prepareExecution
    rw [← hnow]
    rfl
  unfold executeReviewDecision preparation
  rw [hup.1, hup.2]
  simp only [hprepare]
  cases reviewToExecute host.reviews s true reviewId (tenantOf host.reviews (some tenantId)) with
  | error error => rfl
  | ok found =>
      cases found with
      | none => rfl
      | some review =>
          simp only [bind, Except.bind]
          cases prepareExecution (executionToken host.reviews s true
              (tenantOf host.reviews (some tenantId))) second.execution reviewId review with
          | error error => rfl
          | ok prepared => cases prepared <;> rfl

theorem advances_looking (s : ServiceState rt) (weather : AdminWeather) (first second : StepWeather)
    (hup : weather.database = true ∧ weather.execution.database = true ∧
      weather.execution.tokenDatabase = true) (hnow : second.now = weather.execution.now) :
    ∃ calls, advances host reviewId tenantId (first :: second :: attempts weather.execution 0 2)
      .looking s.reviews =
        (.answered (executeReviewRoute host s weather reviewId tenantId).2, s.reviews, calls) := by
  have hdecision := @executeReviewDecision_eq _ host reviewId tenantId s.reviews weather.execution
    second hup.2 hnow
  have hfound : (getReview host.reviews s.reviews true reviewId (some tenantId)).filter
      (!·.items.isEmpty) = foundReview host s weather.database reviewId tenantId := by
    rw [hup.1, foundReview]
  rw [advances, advance, hfound]
  unfold executeReviewRoute
  cases foundReview host s weather.database reviewId tenantId with
  | none =>
      dsimp only
      rw [advances_answered]
      exact ⟨_, rfl⟩
  | some review =>
      dsimp only
      cases isText "resolved" (review.get "status") with
      | false =>
          simp only [Bool.false_eq_true, if_false, advances_answered]
          exact ⟨_, rfl⟩
      | true =>
          simp only [if_true, hdecision, advances, advance]
          cases preparation host reviewId tenantId s.reviews second with
          | error error =>
              simp only [advances_answered, Except.map]
              exact ⟨_, rfl⟩
          | ok prepared =>
              cases prepared with
              | inl outcome =>
                  simp only [advances_answered, Except.map, AdminResponse.ofOutcome]
                  refine ⟨_, Prod.ext ?_ rfl⟩
                  dsimp only
                  split <;> rfl
              | inr asked =>
                  simp only [Except.map]
                  rw [advances_posting _ _ _ _ _ _ rfl]
                  refine ⟨_, Prod.ext ?_ rfl⟩
                  dsimp only
                  unfold AdminResponse.ofOutcome
                  split <;> rfl

/-- With no request between its steps, an execution is the one of the route. -/
theorem execute_alone (s : ServiceState rt) (weather : AdminWeather) (first second : StepWeather)
    (hup : weather.database = true ∧ weather.execution.database = true ∧
      weather.execution.tokenDatabase = true) (hnow : second.now = weather.execution.now) :
    ∃ calls, Isolation.run (deskStep host reviewId tenantId) ⟨s.reviews, flights, succeeded⟩
        (.execute :: (first :: second :: attempts weather.execution 0 2).map
          (.advance flights.length)) =
      ⟨s.reviews, flights ++ [.answered (executeReviewRoute host s weather reviewId tenantId).2],
        succeeded ++ calls⟩ := by
  obtain ⟨calls, hcalls⟩ := @advances_looking _ host reviewId tenantId s weather first second hup
    hnow
  refine ⟨calls, (run_advances _ _ _).trans ?_⟩
  rw [hcalls]

end

/-! ## Taking turns -/

def isPosting : Flight → Bool
  | .posting _ _ _ => true
  | _ => false

section
variable (host : AdminHost) (reviewId tenantId : String)

/-- The decision that an execution would read. -/
def storedDecision (s : ReviewState rt) : Except PyError (Option Json) :=
  (reviewToExecute host.reviews s true reviewId (tenantOf host.reviews (some tenantId))).map
    fun found => found.map fun review => review.get "admin_decision"

/-- The review is resolved with something that Telegram is asked for. -/
def callsTelegram (s : ReviewState rt) (weather : StepWeather) : Bool :=
  match preparation host reviewId tenantId s weather with
  | .ok (.inr _) => true
  | _ => false

def decides (s : ReviewState rt) (decision : String) : Bool :=
  match storedDecision host reviewId tenantId s with
  | .ok (some stored) => isText decision stored
  | _ => false

/-- What a step needs of the others. -/
def FlightInTurn (d : Desk rt) (weather : StepWeather) : Flight → Prop
  | .reading => callsTelegram host reviewId tenantId d.reviews weather = true →
      d.flights.countP isPosting = 0 ∧ d.succeeded = []
  | .updating resolution _ => d.succeeded ≠ [] →
      decides host reviewId tenantId d.reviews resolution.decision = true
  | .recalling resolution => d.succeeded ≠ [] →
      decides host reviewId tenantId d.reviews resolution.decision = true
  | _ => True

/-- Nothing is posted while another execution posts or after one succeeded, and no other
decision is written after one succeeded. -/
def InTurn (d : Desk rt) : DeskOp → Prop
  | .advance flight weather =>
      ∀ current ∈ d.flights[flight]?, FlightInTurn host reviewId tenantId d weather current
  | _ => True

instance (d : Desk rt) (weather : StepWeather) :
    (flight : Flight) → Decidable (FlightInTurn host reviewId tenantId d weather flight)
  | .reading => inferInstanceAs (Decidable (_ → _))
  | .updating _ _ => inferInstanceAs (Decidable (_ → _))
  | .recalling _ => inferInstanceAs (Decidable (_ → _))
  | .looking => isTrue trivial
  | .posting _ _ _ => isTrue trivial
  | .selecting _ => isTrue trivial
  | .answered _ => isTrue trivial

instance (d : Desk rt) : (op : DeskOp) → Decidable (InTurn host reviewId tenantId d op)
  | .advance _ _ => inferInstanceAs (Decidable (∀ _ ∈ _, _))
  | .resolve _ _ => isTrue trivial
  | .execute => isTrue trivial

end

section
variable {host : AdminHost} {reviewId tenantId : String} {d : Desk rt} {s : ReviewState rt}
  {flight : Flight} {weather : StepWeather}

/-! ## At most one call -/

/-- A permit for each execution that posts and for each call that succeeded. -/
def permits (d : Desk rt) : ℕ := d.flights.countP isPosting + d.succeeded.length

theorem permits_set {i : ℕ} {moved : Flight} {reviews : ReviewState rt} {calls : List ApiRequest}
    (hflight : d.flights[i]? = some flight) :
    permits ⟨reviews, d.flights.set i moved, d.succeeded ++ calls⟩ + (isPosting flight).toNat =
      permits d + (isPosting moved).toNat + calls.length := by
  obtain ⟨hi, rfl⟩ := List.getElem?_eq_some_iff.mp hflight
  have hle : (if isPosting d.flights[i] then 1 else 0) ≤ d.flights.countP isPosting :=
    List.boole_getElem_le_countP hi
  have hcount : (d.flights.set i moved).countP isPosting = d.flights.countP isPosting -
      (if isPosting d.flights[i] then 1 else 0) + (if isPosting moved then 1 else 0) :=
    List.countP_set hi
  have hnat : ∀ b : Bool, (if b = true then 1 else 0) = b.toNat := by decide
  simp only [hnat] at hle hcount
  simp only [permits, List.length_append]
  omega

/-- Only a look-up of the service takes a permit, and a call that succeeds keeps it. -/
theorem advance_permits (s : ReviewState rt) (weather : StepWeather) (flight : Flight) :
    let moved := advance host reviewId tenantId s weather flight
    (isPosting moved.1).toNat + moved.2.2.toList.length ≤ (isPosting flight).toNat +
      (match flight with
        | .reading => (callsTelegram host reviewId tenantId s weather).toNat
        | _ => 0) := by
  cases flight with
  | looking =>
      simp only [advance]
      split
      · exact le_rfl
      · split <;> exact le_rfl
  | reading =>
      simp only [advance, callsTelegram]
      cases preparation host reviewId tenantId s weather with
      | error error => exact le_rfl
      | ok prepared => cases prepared <;> exact le_rfl
  | posting decision request attempt =>
      simp only [advance, afterPost]
      cases weather.reply with
      | response statusCode text =>
          by_cases hserver : 500 ≤ statusCode ∧ attempt < 2
          · have hfails : statusCode ≠ 200 := by omega
            simp [hserver, hfails, callSucceeds, isPosting]
          · dsimp only
            rw [if_neg hserver]
            cases hsucceeds : callSucceeds (.response statusCode text) <;> simp [isPosting]
      | transient error => by_cases hagain : attempt < 2 <;> simp [hagain, callSucceeds, isPosting]
      | failure error => simp [callSucceeds, isPosting]
  | selecting resolution =>
      simp only [advance]
      split
      · exact le_rfl
      · split <;> exact le_rfl
  | updating resolution review => exact le_rfl
  | recalling resolution => exact le_rfl
  | answered response => exact le_rfl

theorem receiveResolve_not_posting (resolution : JsonDict) (resolvedAt : String) :
    isPosting (receiveResolve host tenantId s resolution resolvedAt).1 = false := by
  unfold receiveResolve
  split
  · rfl
  · dsimp only
    split <;> rfl

theorem permits_step {op : DeskOp} (h : permits d ≤ 1) (hop : InTurn host reviewId tenantId d op) :
    permits (deskStep host reviewId tenantId d op).2 ≤ 1 := by
  cases op with
  | resolve resolution resolvedAt =>
      simpa [permits, deskStep, receiveResolve_not_posting] using h
  | execute => simpa [permits, deskStep, isPosting] using h
  | advance i weather =>
      simp only [deskStep]
      cases hflight : d.flights[i]? with
      | none => exact h
      | some flight =>
          have hset := @permits_set _ d flight i
            (advance host reviewId tenantId d.reviews weather flight).1
            (advance host reviewId tenantId d.reviews weather flight).2.1
            (advance host reviewId tenantId d.reviews weather flight).2.2.toList hflight
          have hmoved := @advance_permits _ host reviewId tenantId d.reviews weather flight
          dsimp only at hmoved ⊢
          have hop := hop flight hflight
          cases flight with
          | reading =>
              cases hcalls : callsTelegram host reviewId tenantId d.reviews weather with
              | false =>
                  rw [hcalls] at hmoved
                  simp only [Bool.toNat_false] at hmoved
                  omega
              | true =>
                  rw [hcalls] at hmoved
                  obtain ⟨hidle, hnone⟩ := hop hcalls
                  have hfree : permits d = 0 := by rw [permits, hidle, hnone]; rfl
                  simp only [Bool.toNat_true, isPosting, Bool.toNat_false] at hmoved hset
                  omega
          | _ => simp only at hmoved; omega

/-! ## The decision -/

theorem decides_iff {decision : String} : decides host reviewId tenantId s decision = true ↔
    storedDecision host reviewId tenantId s = .ok (some (.str decision)) := by
  unfold decides
  cases storedDecision host reviewId tenantId s with
  | error error => simp
  | ok stored => cases stored <;> simp [isText_iff]

theorem storedDecision_of_row {row : ReviewRow}
    (h : s.rowOf reviewId (tenantOf host.reviews (some tenantId)) = some row) :
    storedDecision host reviewId tenantId s =
      (host.reviews.column.load row.data).map fun review => some (review.get "admin_decision") := by
  simp only [storedDecision, reviewToExecute, if_true, h]
  cases host.reviews.column.load row.data <;> rfl

theorem storedDecision_of_noRow
    (h : s.rowOf reviewId (tenantOf host.reviews (some tenantId)) = none) :
    storedDecision host reviewId tenantId s =
      .ok ((s.copyOf reviewId (tenantOf host.reviews (some tenantId))).map
        fun review => review.get "admin_decision") := by
  simp only [storedDecision, reviewToExecute, if_true, h]
  rfl

theorem get_apply (resolution : Resolution) (review : JsonDict) :
    (resolution.apply review).get "admin_decision" = .str resolution.decision := by
  simp [Resolution.apply, get_set]

theorem items_apply (resolution : Resolution) (review : JsonDict) :
    (resolution.apply review).items ≠ [] := by
  intro hempty
  have hget := get_apply resolution review
  rw [show resolution.apply review = Dict.empty from Dict.ext hempty] at hget
  cases hget

theorem storedDecision_updateRow {resolution : Resolution} {review : JsonDict}
    (h : decides host reviewId tenantId s resolution.decision = true) :
    storedDecision host reviewId tenantId (updateRow s reviewId (resolution.apply review)) =
      storedDecision host reviewId tenantId s := by
  rw [decides_iff] at h
  unfold updateRow
  cases hrow : s.rows.get? reviewId with
  | none => rfl
  | some row =>
      dsimp only
      by_cases htenant : row.tenantId = tenantOf host.reviews (some tenantId)
      · have hbefore : s.rowOf reviewId (tenantOf host.reviews (some tenantId)) = some row := by
          simp [ReviewState.rowOf, hrow, htenant]
        have hafter : (s.setRow reviewId { row with
            data := resolution.apply review, status := "resolved" }).rowOf reviewId
              (tenantOf host.reviews (some tenantId)) =
                some { row with data := resolution.apply review, status := "resolved" } := by
          simp [ReviewState.rowOf, ReviewState.setRow, htenant]
        rw [h, storedDecision_of_row hafter]
        rw [storedDecision_of_row hbefore] at h
        cases hcolumn : host.reviews.column with
        | text => simp [JsonColumn.load, Except.map, get_apply]
        | decoded => simp [hcolumn, JsonColumn.load, Except.map] at h
      · have hbefore : s.rowOf reviewId (tenantOf host.reviews (some tenantId)) = none := by
          simp [ReviewState.rowOf, hrow, htenant]
        have hafter : (s.setRow reviewId { row with
            data := resolution.apply review, status := "resolved" }).rowOf reviewId
              (tenantOf host.reviews (some tenantId)) = none := by
          simp [ReviewState.rowOf, ReviewState.setRow, htenant]
        rw [storedDecision_of_noRow hbefore, storedDecision_of_noRow hafter]
        rfl

theorem storedDecision_resolveCopy {resolution : Resolution}
    (h : decides host reviewId tenantId s resolution.decision = true) :
    storedDecision host reviewId tenantId
        (resolveCopy s reviewId (tenantOf host.reviews (some tenantId)) resolution).2 =
      storedDecision host reviewId tenantId s := by
  rw [decides_iff] at h
  unfold resolveCopy
  cases hcopy : s.copyOf reviewId (tenantOf host.reviews (some tenantId)) with
  | none => rfl
  | some review =>
      dsimp only
      cases hrow : s.rowOf reviewId (tenantOf host.reviews (some tenantId)) with
      | some row =>
          have hafter : (s.setCopy reviewId (tenantOf host.reviews (some tenantId))
              (resolution.apply review)).rowOf reviewId
                (tenantOf host.reviews (some tenantId)) = some row := hrow
          rw [storedDecision_of_row hrow, storedDecision_of_row hafter]
      | none =>
          have hafter : (s.setCopy reviewId (tenantOf host.reviews (some tenantId))
              (resolution.apply review)).copyOf reviewId
                (tenantOf host.reviews (some tenantId)) = some (resolution.apply review) := by
            simp [ReviewState.copyOf, ReviewState.setCopy, items_apply]
          have hnone : (s.setCopy reviewId (tenantOf host.reviews (some tenantId))
              (resolution.apply review)).rowOf reviewId
                (tenantOf host.reviews (some tenantId)) = none := hrow
          rw [h, storedDecision_of_noRow hnone, hafter, Option.map_some, get_apply]

theorem storedDecision_step {op : DeskOp} (hop : InTurn host reviewId tenantId d op)
    (hsucceeded : d.succeeded ≠ []) :
    (deskStep host reviewId tenantId d op).2.succeeded ≠ [] ∧
      storedDecision host reviewId tenantId (deskStep host reviewId tenantId d op).2.reviews =
        storedDecision host reviewId tenantId d.reviews := by
  cases op with
  | resolve resolution resolvedAt =>
      refine ⟨hsucceeded, ?_⟩
      simp only [deskStep, receiveResolve]
      split
      · rfl
      · split <;> rfl
  | execute => exact ⟨hsucceeded, rfl⟩
  | advance i weather =>
      simp only [deskStep]
      cases hflight : d.flights[i]? with
      | none => exact ⟨hsucceeded, rfl⟩
      | some flight =>
          refine ⟨by simp [hsucceeded], ?_⟩
          have hop := hop flight hflight
          cases flight with
          | looking =>
              simp only [advance]
              split
              · rfl
              · split <;> rfl
          | reading =>
              simp only [advance]
              split <;> rfl
          | posting decision request attempt => rfl
          | selecting resolution =>
              simp only [advance]
              split
              · rfl
              · split <;> rfl
          | updating resolution review => exact storedDecision_updateRow (hop hsucceeded)
          | recalling resolution => exact storedDecision_resolveCopy (hop hsucceeded)
          | answered response => rfl

/-! ## Runs -/

/-- Nobody has asked for anything yet. -/
structure Fresh (d : Desk rt) : Prop where
  flights : d.flights = []
  succeeded : d.succeeded = []

theorem permits_run {ops : List DeskOp} (h : permits d ≤ 1)
    (hops : Isolation.AlongRun (deskStep host reviewId tenantId)
      (InTurn host reviewId tenantId) d ops) :
    permits (Isolation.run (deskStep host reviewId tenantId) d ops) ≤ 1 := by
  have hstep : ∀ (d : Desk rt) op, permits d ≤ 1 → InTurn host reviewId tenantId d op →
      permits (deskStep host reviewId tenantId d op).2 ≤ 1 := fun _ _ h hop => permits_step h hop
  exact Isolation.alongRun_invariant hstep h hops

theorem storedDecision_run {ops : List DeskOp} (hsucceeded : d.succeeded ≠ [])
    (hops : Isolation.AlongRun (deskStep host reviewId tenantId)
      (InTurn host reviewId tenantId) d ops) :
    storedDecision host reviewId tenantId
        (Isolation.run (deskStep host reviewId tenantId) d ops).reviews =
      storedDecision host reviewId tenantId d.reviews := by
  let Kept (after : Desk rt) : Prop := after.succeeded ≠ [] ∧
    storedDecision host reviewId tenantId after.reviews =
      storedDecision host reviewId tenantId d.reviews
  have hstep : ∀ after op, Kept after → InTurn host reviewId tenantId after op →
      Kept (deskStep host reviewId tenantId after op).2 := by
    intro after op hkept hop
    obtain ⟨hsucceeded, hsame⟩ := storedDecision_step hop hkept.1
    exact ⟨hsucceeded, hsame.trans hkept.2⟩
  have hkept : Kept d := ⟨hsucceeded, rfl⟩
  exact (Isolation.alongRun_invariant hstep hkept hops).2

end

/-! ## A review with a message to act on -/

def moderatedHost : AdminHost where
  reviews :=
    { configs := emptyEnvironment
      tokens :=
        { environ := fun name => if name = "TELEGRAM_BOT_TOKEN" then some "123:abc" else none
          upper := id
          lower := id
          fernetDecrypt := fun _ => none }
      column := .text
      tenantId := "default" }
  fernetEncrypt := some

def pendingReview : JsonDict :=
  ofFields [("status", .str "pending"), ("telegram_refs",
    .obj [("chat_id", .num 7), ("message_id", .num 1), ("sender_id", .num 5)])]

def moderatedDesk : Desk textPatterns where
  reviews :=
    { tenants :=
        { configs := Dict.empty.set "default" emptyConfig
          adapters := Dict.empty.set "default" ⟨Dict.empty, Dict.empty⟩
          guardAdapters := Dict.empty.set "default" ⟨Dict.empty, Dict.empty⟩ }
      tokens := Dict.empty
      rows := Dict.empty.set "r1" ⟨"default", pendingReview, "pending"⟩
      pendingReviews := Dict.empty }
  flights := []
  succeeded := []

/-- Telegram answers every call with success. -/
def willing : StepWeather := ⟨.response 200 "\x7b\x7d", fun _ => some (.obj []), 0⟩

/-- A request that comes when so many came before, and takes its steps at once. -/
def atOnce (request : DeskOp) (steps before : ℕ) : List DeskOp :=
  request :: List.replicate steps (.advance before willing)

def banned : List DeskOp :=
  atOnce (.resolve (ofFields [("decision", .str "ban")]) "2026-01-01") 2 0 ++ atOnce .execute 3 1

end TruePresenceESE.Telegram.Interleaved
