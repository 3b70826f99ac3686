import TruePresenceESE.Telegram.TenantIsolation

/-! # Resolved reviews across outages

A resolution is written where the review was found: to the row while the database
answers, to the copy in memory while it does not. What a later read sees follows from
the calls that were answered before it.
-/

namespace TruePresenceESE.Telegram

open PyValue JsonDict

variable {rt : TextRuntime}

/-! ## The calls that concern a review -/

abbrev AnsweredCall := ReviewOp × ReviewAnswer

/-- How the database was at a call that added the review. -/
def addedWith (host : ReviewHost) (reviewId tenantId : String) : AnsweredCall → Option Bool
  | (.add database _ added _ tenant, .added (.ok _)) =>
      if added = reviewId ∧ tenantOf host tenant = tenantId then some database else none
  | _ => none

/-- How the database was at a call that resolved the review. -/
def resolvedWith (host : ReviewHost) (reviewId tenantId : String) : AnsweredCall → Option Bool
  | (.resolve database resolved _ tenant, .resolved (.ok true)) =>
      if resolved = reviewId ∧ tenantOf host tenant = tenantId then some database else none
  | _ => none

section
variable (host : ReviewHost) (calls : List AnsweredCall) (reviewId tenantId : String)

def addedWhile (database : Bool) : Bool :=
  calls.any fun call => addedWith host reviewId tenantId call = some database

def resolvedWhile (database : Bool) : Bool :=
  calls.any fun call => resolvedWith host reviewId tenantId call = some database

def isAdded : Bool :=
  addedWhile host calls reviewId tenantId true || addedWhile host calls reviewId tenantId false

def isResolved : Bool :=
  resolvedWhile host calls reviewId tenantId true ||
    resolvedWhile host calls reviewId tenantId false

/-- Rows are resolved while the database is up, if they can be loaded. -/
def rowResolved : Bool :=
  host.column = .text && resolvedWhile host calls reviewId tenantId true

def copyResolved : Bool :=
  resolvedWhile host calls reviewId tenantId false ||
    (host.column = .decoded && resolvedWhile host calls reviewId tenantId true)

end

/-! ## One review in the two stores -/

def rowShows (s : ReviewState rt) (reviewId tenantId : String) : Option (String × Json × Json) :=
  (s.rowOf reviewId tenantId).map fun row =>
    (row.status, row.data.get "status", row.data.get "review_id")

def copyShows (s : ReviewState rt) (reviewId tenantId : String) : Option (Json × Json) :=
  (((s.pendingReviews.get? tenantId).getD Dict.empty).get? reviewId).map fun review =>
    (review.get "status", review.get "review_id")

def statusText (resolved : Bool) : String := if resolved then "resolved" else "pending"

/-- The stores hold of a review what the calls have made of it. -/
structure Tracks (host : ReviewHost) (calls : List AnsweredCall) (s : ReviewState rt)
    (reviewId tenantId : String) : Prop where
  known : isResolved host calls reviewId tenantId = true →
    isAdded host calls reviewId tenantId = true
  row : rowShows s reviewId tenantId =
    if addedWhile host calls reviewId tenantId true then
      let status := statusText (rowResolved host calls reviewId tenantId)
      some (status, .str status, .str reviewId)
    else none
  copy : copyShows s reviewId tenantId =
    if isAdded host calls reviewId tenantId then
      some (.str (statusText (copyResolved host calls reviewId tenantId)), .str reviewId)
    else none

section
variable {host : ReviewHost} {calls : List AnsweredCall} {s t : ReviewState rt}
  {reviewId other tenantId : String} {row : ReviewRow} {review : JsonDict} {call : AnsweredCall}
  {resolution : Resolution} {database : Bool}

theorem rowShows_setRow (h : row.tenantId = tenantId) :
    rowShows (s.setRow reviewId row) reviewId tenantId =
      some (row.status, row.data.get "status", row.data.get "review_id") := by
  rw [rowShows, ReviewState.rowOf, ReviewState.setRow, Dict.get?_set_self]
  simp [h]

theorem rowShows_setRow_ne (h : reviewId ≠ other) :
    rowShows (s.setRow reviewId row) other tenantId = rowShows s other tenantId := by
  rw [rowShows, ReviewState.rowOf, ReviewState.setRow, Dict.get?_set_ne _ _ h, rowShows,
    ReviewState.rowOf]

theorem copyShows_setCopy : copyShows (s.setCopy reviewId tenantId review) reviewId tenantId =
    some (review.get "status", review.get "review_id") := by
  rw [copyShows, ReviewState.setCopy, Dict.get?_set_self, Option.getD_some, Dict.get?_set_self]
  rfl

theorem copyShows_setCopy_ne (h : reviewId ≠ other) :
    copyShows (s.setCopy reviewId tenantId review) other tenantId =
      copyShows s other tenantId := by
  rw [copyShows, ReviewState.setCopy, Dict.get?_set_self, Option.getD_some,
    Dict.get?_set_ne _ _ h, copyShows]

theorem rowShows_insertReview (hnew : s.rows.get? reviewId = none) :
    rowShows (insertReview s database reviewId tenantId review) reviewId tenantId =
      if database then some ("pending", review.get "status", review.get "review_id")
      else none := by
  cases database with
  | true =>
      rw [insertReview, if_pos ⟨rfl, by rw [hnew]; rfl⟩]
      exact rowShows_setRow rfl
  | false =>
      rw [insertReview, if_neg (fun h => nomatch h.1), rowShows, ReviewState.rowOf, hnew]
      rfl

theorem rowShows_insertReview_ne (h : reviewId ≠ other) :
    rowShows (insertReview s database reviewId tenantId review) other tenantId =
      rowShows s other tenantId := by
  unfold insertReview
  split
  · exact rowShows_setRow_ne h
  · rfl

theorem copyShows_insertReview :
    copyShows (insertReview s database reviewId tenantId review) other tenantId =
      copyShows s other tenantId := by
  unfold insertReview
  split <;> rfl

theorem SameFor.rowShows (h : SameFor tenantId s t) :
    rowShows s reviewId tenantId = rowShows t reviewId tenantId := by
  rw [Telegram.rowShows, h.rowOf, Telegram.rowShows]

theorem SameFor.copyShows (h : SameFor tenantId s t) :
    copyShows s reviewId tenantId = copyShows t reviewId tenantId := by
  rw [Telegram.copyShows, h.copies, Telegram.copyShows]

theorem get_status_newReview (reviewData : JsonDict) (createdAt : String) :
    (newReview reviewData reviewId createdAt tenantId).get "status" = .str "pending" ∧
      (newReview reviewData reviewId createdAt tenantId).get "review_id" = .str reviewId := by
  simp [newReview, get_set]

theorem get_status_resolution :
    (resolution.apply review).get "status" = .str "resolved" ∧
      (resolution.apply review).get "review_id" = review.get "review_id" := by
  simp [Resolution.apply, get_set]

/-- What a resolution does: nothing, or it changes the row, or it changes the copy. -/
theorem resolveStored_cases :
    resolveStored host s database reviewId tenantId resolution = (false, s) ∨
    (∃ row, database = true ∧ host.column = .text ∧ s.rowOf reviewId tenantId = some row ∧
      resolveStored host s database reviewId tenantId resolution =
        (true, resolveRow s reviewId row row.data resolution)) ∨
    ∃ review, (database = false ∨ host.column = .decoded) ∧
      s.copyOf reviewId tenantId = some review ∧
      resolveStored host s database reviewId tenantId resolution =
        (true, s.setCopy reviewId tenantId (resolution.apply review)) := by
  have hcopied : (resolveCopy s reviewId tenantId resolution = (false, s)) ∨
      ∃ review, s.copyOf reviewId tenantId = some review ∧
        resolveCopy s reviewId tenantId resolution =
          (true, s.setCopy reviewId tenantId (resolution.apply review)) := by
    unfold resolveCopy
    cases hcopy : s.copyOf reviewId tenantId with
    | none => exact .inl rfl
    | some review => exact .inr ⟨review, rfl, rfl⟩
  cases database with
  | false =>
      rcases hcopied with hnone | ⟨review, hcopy, hresult⟩
      · exact .inl hnone
      · exact .inr (.inr ⟨review, .inl rfl, hcopy, hresult⟩)
  | true =>
      cases hrow : s.rowOf reviewId tenantId with
      | none => exact .inl (by simp [resolveStored, hrow])
      | some row =>
          cases hcolumn : host.column with
          | text =>
              refine .inr (.inl ⟨row, rfl, rfl, rfl, ?_⟩)
              simp [resolveStored, hrow, hcolumn, JsonColumn.load]
          | decoded =>
              have hstored : resolveStored host s true reviewId tenantId resolution =
                  resolveCopy s reviewId tenantId resolution := by
                simp [resolveStored, hrow, hcolumn, JsonColumn.load]
              rw [hstored]
              rcases hcopied with hnone | ⟨review, hcopy, hresult⟩
              · exact .inl hnone
              · exact .inr (.inr ⟨review, .inr rfl, hcopy, hresult⟩)

/-! ## One call -/

theorem addedWhile_append : addedWhile host (calls ++ [call]) reviewId tenantId database =
    (addedWhile host calls reviewId tenantId database ||
      decide (addedWith host reviewId tenantId call = some database)) := by
  simp [addedWhile, List.any_append]

theorem resolvedWhile_append : resolvedWhile host (calls ++ [call]) reviewId tenantId database =
    (resolvedWhile host calls reviewId tenantId database ||
      decide (resolvedWith host reviewId tenantId call = some database)) := by
  simp [resolvedWhile, List.any_append]

theorem Tracks.unchanged (h : Tracks host calls s reviewId tenantId)
    (hadded : addedWith host reviewId tenantId call = none)
    (hresolved : resolvedWith host reviewId tenantId call = none)
    (hrow : rowShows t reviewId tenantId = rowShows s reviewId tenantId)
    (hcopy : copyShows t reviewId tenantId = copyShows s reviewId tenantId) :
    Tracks host (calls ++ [call]) t reviewId tenantId := by
  have hadd : ∀ d, addedWhile host (calls ++ [call]) reviewId tenantId d =
      addedWhile host calls reviewId tenantId d := by
    simp [addedWhile_append, hadded]
  have hresolve : ∀ d, resolvedWhile host (calls ++ [call]) reviewId tenantId d =
      resolvedWhile host calls reviewId tenantId d := by
    simp [resolvedWhile_append, hresolved]
  have hisAdded : isAdded host (calls ++ [call]) reviewId tenantId =
      isAdded host calls reviewId tenantId := by
    simp only [isAdded, hadd]
  constructor
  · rw [hisAdded]
    simpa only [isResolved, hresolve] using h.known
  · rw [hrow, h.row, rowResolved, rowResolved, hadd, hresolve]
  · rw [hcopy, h.copy, hisAdded, copyResolved, copyResolved, hresolve, hresolve]

/-- A call for another tenant concerns no review of this one. -/
theorem concerns_tenant {op : ReviewOp} {answer : ReviewAnswer}
    (h : opTenant host op ≠ tenantId) :
    addedWith host reviewId tenantId (op, answer) = none ∧
      resolvedWith host reviewId tenantId (op, answer) = none := by
  have hne : ∀ tenant, opTenant host op = tenantOf host tenant →
      ¬tenantOf host tenant = tenantId := fun _ heq htenant => h (heq.trans htenant)
  constructor
  · unfold addedWith
    split
    · rename_i heq
      cases heq
      rw [if_neg fun hsame => hne _ rfl hsame.2]
    · rfl
  · unfold resolvedWith
    split
    · rename_i heq
      cases heq
      rw [if_neg fun hsame => hne _ rfl hsame.2]
    · rfl

theorem Tracks.added {reviewData : JsonDict} {added createdAt : String} {tenant : Option String}
    (h : Tracks host calls s reviewId (tenantOf host tenant))
    (hfresh : s.rows.get? added = none)
    (hnew : isAdded host calls added (tenantOf host tenant) = false) :
    Tracks host
      (calls ++ [(.add database reviewData added createdAt tenant,
        (answerReview host s (.add database reviewData added createdAt tenant)).1)])
      (answerReview host s (.add database reviewData added createdAt tenant)).2 reviewId
      (tenantOf host tenant) := by
  simp only [answerReview, addPendingReview]
  split
  · exact h.unchanged rfl rfl rfl rfl
  · dsimp only
    by_cases hid : added = reviewId
    · subst hid
      obtain ⟨hstatus, hreviewId⟩ := @get_status_newReview added (tenantOf host tenant) reviewData
        createdAt
      have hunresolved : isResolved host calls added (tenantOf host tenant) = false := by
        by_contra hresolved
        rw [h.known (by simpa using hresolved)] at hnew
        cases hnew
      simp only [isAdded, isResolved, Bool.or_eq_false_iff] at hnew hunresolved
      constructor
      · intro _
        cases database <;> simp [isAdded, addedWhile_append, addedWith]
      · rw [rowShows_insertReview (by exact hfresh), hstatus, hreviewId]
        cases database <;>
          simp [addedWhile_append, addedWith, hnew, rowResolved, resolvedWhile_append, resolvedWith,
            hunresolved, statusText]
      · rw [copyShows_insertReview, copyShows_setCopy, hstatus, hreviewId]
        cases database <;>
          simp [isAdded, addedWhile_append, addedWith, copyResolved, resolvedWhile_append,
            resolvedWith, hunresolved, statusText]
    · refine h.unchanged (if_neg fun hsame => hid hsame.1) rfl ?_ ?_
      · exact rowShows_insertReview_ne hid
      · rw [copyShows_insertReview, copyShows_setCopy_ne hid]
        rfl

theorem Tracks.of_row (h : Tracks host calls s reviewId tenantId)
    (hrow : s.rowOf reviewId tenantId = some row) :
    addedWhile host calls reviewId tenantId true = true ∧
      row.status = statusText (rowResolved host calls reviewId tenantId) ∧
      row.data.get "status" = .str row.status ∧ row.data.get "review_id" = .str reviewId := by
  have hshows := h.row
  rw [rowShows, hrow] at hshows
  split at hshows
  · rename_i hadded
    rw [Option.map_some, Option.some.injEq, Prod.mk.injEq, Prod.mk.injEq] at hshows
    obtain ⟨hstatus, hdata, hid⟩ := hshows
    exact ⟨hadded, hstatus, hstatus ▸ hdata, hid⟩
  · cases hshows

theorem Tracks.of_copy (h : Tracks host calls s reviewId tenantId)
    (hcopy : s.copyOf reviewId tenantId = some review) :
    isAdded host calls reviewId tenantId = true ∧ review.get "status" =
      .str (statusText (copyResolved host calls reviewId tenantId)) ∧
      review.get "review_id" = .str reviewId := by
  have hshows := h.copy
  rw [copyShows, (Option.filter_eq_some_iff.mp hcopy).1] at hshows
  split at hshows
  · rename_i hadded
    rw [Option.map_some, Option.some.injEq, Prod.mk.injEq] at hshows
    exact ⟨hadded, hshows⟩
  · cases hshows

theorem Tracks.resolved {resolved : String} {tenant : Option String}
    (h : ∀ reviewId, Tracks host calls s reviewId (tenantOf host tenant)) :
    Tracks host
      (calls ++ [(.resolve database resolved resolution tenant,
        (answerReview host s (.resolve database resolved resolution tenant)).1)])
      (answerReview host s (.resolve database resolved resolution tenant)).2 reviewId
      (tenantOf host tenant) := by
  simp only [answerReview, resolveReview]
  split
  · exact (h reviewId).unchanged rfl rfl rfl rfl
  · dsimp only
    rcases @resolveStored_cases rt host
        { s with tenants := (ensureTenant host.configs s.tenants (tenantOf host tenant)).2 }
        resolved (tenantOf host tenant) resolution database with
      hkept | ⟨row, rfl, hcolumn, hrow, hdone⟩ | ⟨review, hdown, hcopy, hdone⟩
    · rw [hkept]
      exact (h reviewId).unchanged rfl rfl rfl rfl
    · rw [hdone]
      dsimp only
      by_cases hid : resolved = reviewId
      · subst hid
        obtain ⟨hadded, -, -, hreviewId⟩ := (h resolved).of_row hrow
        obtain ⟨hstatus, hkept⟩ := @get_status_resolution row.data resolution
        have hcopy := (h resolved).copy
        constructor
        · intro _
          simp [isAdded, addedWhile_append, hadded]
        · refine Eq.trans (rowShows_setRow (ownOrNew_of_rowOf hrow).1) ?_
          rw [hstatus, hkept, hreviewId]
          simp [addedWhile_append, hadded, rowResolved, hcolumn, resolvedWhile_append, resolvedWith,
            statusText]
        · refine Eq.trans hcopy ?_
          simp [isAdded, addedWhile_append, addedWith, copyResolved, hcolumn, resolvedWhile_append,
            resolvedWith]
      · exact (h reviewId).unchanged rfl (if_neg fun hsame => hid hsame.1) (rowShows_setRow_ne hid)
          rfl
    · rw [hdone]
      dsimp only
      by_cases hid : resolved = reviewId
      · subst hid
        obtain ⟨hadded, -, hreviewId⟩ := (h resolved).of_copy hcopy
        obtain ⟨hstatus, hkept⟩ := @get_status_resolution review resolution
        have hrow := (h resolved).row
        constructor
        · intro _
          simpa [isAdded, addedWhile_append, addedWith] using hadded
        · refine Eq.trans hrow ?_
          rcases hdown with rfl | hcolumn
          · simp [addedWhile_append, addedWith, rowResolved, resolvedWhile_append, resolvedWith]
          · simp [addedWhile_append, addedWith, rowResolved, hcolumn]
        · rw [copyShows_setCopy, hstatus, hkept, hreviewId]
          have hnow : copyResolved host
              (calls ++ [(.resolve database resolved resolution tenant, .resolved (.ok true))])
              resolved (tenantOf host tenant) = true := by
            rcases hdown with rfl | hcolumn
            · simp [copyResolved, resolvedWhile_append, resolvedWith]
            · cases database <;>
                simp [copyResolved, resolvedWhile_append, resolvedWith, hcolumn]
          rw [hnow, if_pos (by simpa [isAdded, addedWhile_append, addedWith] using hadded)]
          rfl
      · exact (h reviewId).unchanged rfl (if_neg fun hsame => hid hsame.1) rfl
          (copyShows_setCopy_ne hid)

theorem addedIds_of_addedWith {op : ReviewOp} {answer : ReviewAnswer}
    (h : addedWith host reviewId tenantId (op, answer) = some database) :
    reviewId ∈ addedIds [op] := by
  unfold addedWith at h
  split at h
  · rename_i heq
    cases heq
    split at h
    · rename_i hsame
      simp [addedIds, hsame.1]
    · cases h
  · cases h

/-- Ids are given once, and the stores hold what the calls so far have made of them. -/
structure Outages (host : ReviewHost) (calls : List AnsweredCall) (s : ReviewState rt)
    (rest : List ReviewOp) : Prop where
  once : (addedIds rest).Nodup
  fresh : ∀ reviewId ∈ addedIds rest, ∀ tenantId, isAdded host calls reviewId tenantId = false
  tracks : ∀ reviewId tenantId, Tracks host calls s reviewId tenantId

theorem Outages.rows_none {rest : List ReviewOp} (h : Outages host calls s rest)
    (hid : reviewId ∈ addedIds rest) : s.rows.get? reviewId = none := by
  cases hrow : s.rows.get? reviewId with
  | none => rfl
  | some row =>
      have hrowOf : s.rowOf reviewId row.tenantId = some row := by
        simp [ReviewState.rowOf, hrow]
      have hadded := ((h.tracks reviewId row.tenantId).of_row hrowOf).1
      have hnever := h.fresh reviewId hid row.tenantId
      rw [isAdded, hadded] at hnever
      cases hnever

theorem Outages.step {op : ReviewOp} {rest : List ReviewOp}
    (h : Outages host calls s (op :: rest)) :
    Outages host (calls ++ [(op, (answerReview host s op).1)]) (answerReview host s op).2 rest := by
  have hsplit : addedIds (op :: rest) = addedIds [op] ++ addedIds rest := by
    unfold addedIds
    rw [← List.filterMap_append]
    rfl
  have hids := h.once
  rw [hsplit, List.nodup_append] at hids
  refine ⟨hids.2.1, fun reviewId hid tenantId => ?_, fun reviewId tenantId => ?_⟩
  · have hnever := h.fresh reviewId (hsplit ▸ List.mem_append_right _ hid) tenantId
    have hother : ∀ database, addedWith host reviewId tenantId (op, (answerReview host s op).1) ≠
        some database := fun _ hadded =>
      hids.2.2 reviewId (addedIds_of_addedWith hadded) reviewId hid rfl
    simpa [isAdded, addedWhile_append, hother] using hnever
  · by_cases htenant : opTenant host op = tenantId
    · subst htenant
      cases op with
      | add database reviewData added createdAt tenant =>
          have hid : added ∈ addedIds (.add database reviewData added createdAt tenant :: rest) := by
            simp [addedIds]
          exact (h.tracks reviewId _).added (h.rows_none hid) (h.fresh added hid _)
      | resolve database resolved resolution tenant =>
          exact Tracks.resolved fun reviewId => h.tracks reviewId _
      | list database tenant => exact (h.tracks reviewId _).unchanged rfl rfl rfl rfl
      | get database found tenant => exact (h.tracks reviewId _).unchanged rfl rfl rfl rfl
      | execute weather executed tenant => exact (h.tracks reviewId _).unchanged rfl rfl rfl rfl
    · obtain ⟨hadded, hresolved⟩ := concerns_tenant htenant
      have hsame := @answerReview_hidden rt host s op tenantId htenant
      exact (h.tracks reviewId tenantId).unchanged hadded hresolved hsame.rowShows hsame.copyShows

/-! ## Reads -/

theorem Tracks.copyOf (h : Tracks host calls s reviewId tenantId) :
    (s.copyOf reviewId tenantId).map (·.get "status") =
      if isAdded host calls reviewId tenantId then
        some (.str (statusText (copyResolved host calls reviewId tenantId)))
      else none := by
  have hshows := h.copy
  rw [copyShows] at hshows
  rw [ReviewState.copyOf]
  cases hcopy : ((s.pendingReviews.get? tenantId).getD Dict.empty).get? reviewId with
  | none =>
      rw [hcopy] at hshows
      split at hshows
      · cases hshows
      · rename_i hnot
        rw [if_neg hnot]
        rfl
  | some review =>
      rw [hcopy] at hshows
      split at hshows
      · rename_i hadded
        rw [Option.map_some, Option.some.injEq, Prod.mk.injEq] at hshows
        have hitems : review.items ≠ [] := by
          intro hempty
          have : review = Dict.empty := Dict.ext hempty
          rw [this] at hshows
          cases hshows.2
        rw [if_pos hadded, Option.filter_some, if_pos (by simpa using hitems), Option.map_some,
          hshows.1]
      · cases hshows

theorem statusText_eq_pending {resolved : Bool} : statusText resolved = "pending" ↔
    resolved = false := by
  cases resolved <;> decide

/-- The rows that are listed are those never resolved while rows could be. -/
theorem listed_rows_iff (h : ∀ reviewId, Tracks host calls s reviewId tenantId) :
    (∃ review ∈ (pendingRows s tenantId).map (·.data), review.get "review_id" = .str reviewId) ↔
      addedWhile host calls reviewId tenantId true = true ∧
        rowResolved host calls reviewId tenantId = false := by
  rw [pendingRows_eq]
  constructor
  · rintro ⟨review, hreview, hid⟩
    obtain ⟨row, hrow, rfl⟩ := List.mem_map.mp hreview
    obtain ⟨hstored, hpending⟩ := List.mem_filter.mp hrow
    obtain ⟨⟨key, _⟩, hmem, rfl⟩ := List.mem_map.mp hstored
    obtain ⟨hadded, hstatus, -, hkey⟩ := (h key).of_row (rowOf_eq_some_iff.mpr hmem)
    obtain rfl : key = reviewId := by simpa using hkey.symm.trans hid
    rw [of_decide_eq_true hpending] at hstatus
    exact ⟨hadded, statusText_eq_pending.mp hstatus.symm⟩
  · rintro ⟨hadded, hresolved⟩
    have hrow := (h reviewId).row
    rw [if_pos hadded] at hrow
    obtain ⟨row, hrowOf, -⟩ := Option.map_eq_some_iff.mp hrow
    obtain ⟨-, hstatus, -, hid⟩ := (h reviewId).of_row hrowOf
    have hpending : row.status = "pending" := hstatus.trans (statusText_eq_pending.mpr hresolved)
    have hmem : row ∈ (rowsFor s tenantId).map Prod.snd :=
      List.mem_map.mpr ⟨_, rowOf_eq_some_iff.mp hrowOf, rfl⟩
    exact ⟨row.data, List.mem_map.mpr
      ⟨row, List.mem_filter.mpr ⟨hmem, decide_eq_true hpending⟩, rfl⟩, hid⟩

/-- The copies that are listed are those never resolved while copies were. -/
theorem listed_copies_iff (h : ∀ reviewId, Tracks host calls s reviewId tenantId) :
    (∃ review ∈ pendingCopies s tenantId, review.get "review_id" = .str reviewId) ↔
      isAdded host calls reviewId tenantId = true ∧
        copyResolved host calls reviewId tenantId = false := by
  constructor
  · rintro ⟨review, hreview, hid⟩
    obtain ⟨hstored, hpending⟩ := List.mem_filter.mp hreview
    obtain ⟨⟨key, _⟩, hmem, rfl⟩ := List.mem_map.mp hstored
    have hcopy := (h key).copy
    rw [copyShows, Dict.get?_eq_some_iff.mpr hmem] at hcopy
    split at hcopy
    · rename_i hadded
      rw [Option.map_some, Option.some.injEq, Prod.mk.injEq, hid, Json.str.injEq] at hcopy
      obtain ⟨hstatus, rfl⟩ := hcopy
      rw [isPending, hstatus] at hpending
      exact ⟨hadded, statusText_eq_pending.mp (of_decide_eq_true hpending)⟩
    · cases hcopy
  · rintro ⟨hadded, hresolved⟩
    have hcopy := (h reviewId).copy
    rw [if_pos hadded] at hcopy
    obtain ⟨review, hget, hshows⟩ := Option.map_eq_some_iff.mp hcopy
    rw [Prod.mk.injEq, statusText_eq_pending.mpr hresolved] at hshows
    have hpending : isPending review = true := by
      rw [isPending, hshows.1]
      rfl
    have hmem : review ∈ ((s.pendingReviews.get? tenantId).getD Dict.empty).values :=
      List.mem_map.mpr ⟨_, Dict.get?_eq_some_iff.mp hget, rfl⟩
    exact ⟨review, List.mem_filter.mpr ⟨hmem, hpending⟩, hshows.2⟩

end

/-! ## What stays resolved -/

/-- What a read shows of the reviews that are resolved. -/
def StaysResolved (host : ReviewHost) (calls : List AnsweredCall) : AnsweredCall → Prop
  | (.list _ tenant, .listed reviews) =>
      ∀ reviewId, isResolved host calls reviewId (tenantOf host tenant) = true →
        ∀ review ∈ reviews, review.get "review_id" ≠ .str reviewId
  | (.get _ reviewId tenant, .found (some review)) =>
      isResolved host calls reviewId (tenantOf host tenant) = true →
        review.get "status" = .str "resolved"
  | _ => True

/-- The read looks where the review was resolved, or where it never was; a database
whose rows cannot be loaded is not looked at. -/
def SeenResolved (host : ReviewHost) (calls : List AnsweredCall) (reviewId tenantId : String)
    (database : Bool) : Prop :=
  isResolved host calls reviewId tenantId = true →
    host.column = .decoded ∨ resolvedWhile host calls reviewId tenantId database = true ∨
      (database = true ∧ addedWhile host calls reviewId tenantId true = false)

def ReadsResolved (host : ReviewHost) (calls : List AnsweredCall) : ReviewOp → Prop
  | .list database tenant =>
      ∀ reviewId, SeenResolved host calls reviewId (tenantOf host tenant) database
  | .get database reviewId tenant => SeenResolved host calls reviewId (tenantOf host tenant) database
  | _ => True

section
variable {host : ReviewHost} {calls : List AnsweredCall} {s : ReviewState rt}
  {reviewId tenantId : String} {database : Bool} {tenant : Option String}

theorem copyResolved_of_isResolved (hcolumn : host.column = .decoded)
    (h : isResolved host calls reviewId tenantId = true) :
    copyResolved host calls reviewId tenantId = true := by
  simpa [copyResolved, hcolumn, isResolved, or_comm] using h

theorem loadRows_text (rows : List ReviewRow) :
    rows.mapM (fun row => JsonColumn.text.load row.data) = .ok (rows.map (·.data)) := by
  induction rows with
  | nil => rfl
  | cons row rest ih =>
      rw [List.mapM_cons, ih]
      rfl

theorem getPendingReviews_text (hcolumn : host.column = .text) :
    getPendingReviews host s true tenant =
      (pendingRows s (tenantOf host tenant)).map (·.data) := by
  rw [getPendingReviews, if_pos rfl, hcolumn, loadRows_text]

theorem getPendingReviews_decoded (hcolumn : host.column = .decoded) :
    getPendingReviews host s true tenant = [] ∨
      getPendingReviews host s true tenant = pendingCopies s (tenantOf host tenant) := by
  rw [getPendingReviews, if_pos rfl, hcolumn]
  cases pendingRows s (tenantOf host tenant) with
  | nil => exact .inl rfl
  | cons row rest => exact .inr rfl

theorem listing_stays_iff
    (h : ∀ reviewId, Tracks host calls s reviewId (tenantOf host tenant)) :
    StaysResolved host calls
        (.list database tenant, .listed (getPendingReviews host s database tenant)) ↔
      ReadsResolved host calls (.list database tenant) := by
  refine forall_congr' fun reviewId => ?_
  unfold SeenResolved
  refine imp_congr_right fun hresolved => ?_
  have hadded := (h reviewId).known hresolved
  have hlisted : (∀ review ∈ getPendingReviews host s database tenant,
      review.get "review_id" ≠ .str reviewId) ↔
      ¬∃ review ∈ getPendingReviews host s database tenant,
        review.get "review_id" = .str reviewId := by
    simp
  rw [hlisted]
  cases database with
  | false =>
      have hcopies : getPendingReviews host s false tenant =
          pendingCopies s (tenantOf host tenant) := rfl
      rw [hcopies, listed_copies_iff h]
      cases hcolumn : host.column with
      | text => simp [copyResolved, hcolumn, hadded]
      | decoded => simp [copyResolved_of_isResolved hcolumn hresolved]
  | true =>
      cases hcolumn : host.column with
      | text =>
          rw [getPendingReviews_text hcolumn, listed_rows_iff h]
          cases hrow : addedWhile host calls reviewId (tenantOf host tenant) true with
          | true => simp [rowResolved, hcolumn]
          | false => simp
      | decoded =>
          have hcopies := @listed_copies_iff _ _ _ _ reviewId _ h
          rw [copyResolved_of_isResolved hcolumn hresolved] at hcopies
          rcases @getPendingReviews_decoded rt host s tenant hcolumn with hnone | hcopied
          · simp [hnone]
          · rw [hcopied, hcopies]
            simp

theorem statusText_eq_resolved {resolved : Bool} : statusText resolved = "resolved" ↔
    resolved = true := by
  cases resolved <;> decide

theorem found_stays_iff {found : Option JsonDict} :
    StaysResolved host calls (.get database reviewId tenant, .found found) ↔
      (isResolved host calls reviewId (tenantOf host tenant) = true →
        ∀ review, found = some review → review.get "status" = .str "resolved") := by
  cases found with
  | none => exact ⟨fun _ _ _ h => (nomatch h), fun _ => trivial⟩
  | some review =>
      exact ⟨fun h hresolved _ hfound => Option.some.inj hfound ▸ h hresolved,
        fun h hresolved => h hresolved review rfl⟩

theorem lookup_stays_iff
    (h : Tracks host calls s reviewId (tenantOf host tenant)) :
    StaysResolved host calls
        (.get database reviewId tenant, .found (getReview host s database reviewId tenant)) ↔
      ReadsResolved host calls (.get database reviewId tenant) := by
  rw [found_stays_iff]
  refine imp_congr_right fun hresolved => ?_
  have hadded := h.known hresolved
  have hcopy := h.copyOf
  rw [if_pos hadded] at hcopy
  obtain ⟨copied, hcopied, hstatus⟩ := Option.map_eq_some_iff.mp hcopy
  cases database with
  | false =>
      have hfound : getReview host s false reviewId tenant = some copied := hcopied
      cases hcolumn : host.column with
      | text => simp [hfound, hstatus, statusText_eq_resolved, copyResolved, hcolumn]
      | decoded => simp [hfound, hstatus, statusText_eq_resolved,
          copyResolved_of_isResolved hcolumn hresolved]
  | true =>
      cases hrow : s.rowOf reviewId (tenantOf host tenant) with
      | none =>
          have hshows := h.row
          rw [rowShows, hrow] at hshows
          have hnever : addedWhile host calls reviewId (tenantOf host tenant) true = false := by
            by_contra hwhile
            rw [if_pos (by simpa using hwhile)] at hshows
            cases hshows
          simp [getReview, hrow, hnever]
      | some row =>
          obtain ⟨hwhile, hrowStatus, hdata, -⟩ := h.of_row hrow
          cases hcolumn : host.column with
          | text =>
              simp [getReview, hrow, hcolumn, JsonColumn.load, hdata, hrowStatus,
                statusText_eq_resolved, rowResolved, hwhile]
          | decoded =>
              simp [getReview, hrow, hcolumn, JsonColumn.load, hcopied, hstatus,
                statusText_eq_resolved, copyResolved_of_isResolved hcolumn hresolved]

theorem answer_stays_iff {op : ReviewOp} (h : ∀ reviewId tenantId, Tracks host calls s reviewId tenantId) :
    StaysResolved host calls (op, (answerReview host s op).1) ↔ ReadsResolved host calls op := by
  cases op with
  | list database tenant => exact listing_stays_iff fun reviewId => h reviewId _
  | get database reviewId tenant => exact lookup_stays_iff (h reviewId _)
  | add database reviewData reviewId createdAt tenant => exact Iff.rfl
  | resolve database reviewId resolution tenant => exact Iff.rfl
  | execute weather reviewId tenant => exact Iff.rfl

end

/-! ## Runs -/

/-- No review is stored. -/
structure NoReviews (s : ReviewState rt) : Prop where
  rows : s.rows = Dict.empty
  copies : s.pendingReviews = Dict.empty

theorem NoReviews.outages {host : ReviewHost} {s : ReviewState rt} {ops : List ReviewOp}
    (h : NoReviews s) (hids : (addedIds ops).Nodup) : Outages host [] s ops := by
  refine ⟨hids, fun _ _ _ => rfl, fun reviewId tenantId => ⟨fun h => (nomatch h), ?_, ?_⟩⟩
  · rw [rowShows, ReviewState.rowOf, h.rows]
    rfl
  · rw [copyShows, h.copies]
    rfl

/-- A review is added and resolved, and the database goes away before the reviews are
listed. -/
def outageCalls : List ReviewOp :=
  [.add true Dict.empty "r1" "" (some "client1"),
    .resolve true "r1" ⟨"ban", .str "", ""⟩ (some "client1"), .list false (some "client1")]

end TruePresenceESE.Telegram
