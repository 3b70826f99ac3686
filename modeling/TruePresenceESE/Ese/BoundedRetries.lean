import TruePresenceESE.Ese.ResponsesRequest

/-! # Bounded retries

A request ends after so many attempts. That it ends with a text or with the adapter's own
error takes answers that can be read, delays that are numbers from zero on, and a backoff
that the clock can wait for.
-/

namespace TruePresenceESE.Ese

open Retrying

/-- The request ends in time, the way its callers expect, and waits in between only. -/
structure BoundedRetries (maxRetries : ℕ) (run : Run PyFloat RequestOutcome) : Prop where
  requests : run.requests ≤ maxRetries + 1
  outcome : (∃ text, run.result = .text text) ∨
    ∃ message, run.result = .adapterExecutionError message
  delays : ∀ delay ∈ run.delays, ∃ q, 0 ≤ q ∧ delay = .finite q

/-! ## Conditions on what a server does -/

def Answered (outcome : RequestOutcome) : Prop :=
  (∃ text, outcome = .text text) ∨ ∃ message, outcome = .adapterExecutionError message

def NonnegDelay (delay : PyFloat) : Prop := ∃ q, 0 ≤ q ∧ delay = .finite q

/-- A number of seconds one could wait for, if only for some of them. -/
def PyFloat.IsNonneg : PyFloat → Prop
  | .finite q => 0 ≤ q
  | .posInf => True
  | .negInf | .nan => False

section
variable (host : RequestHost) (request : ResponsesRequest)

/-- The body is text, and if it is no JSON it is so by its syntax. -/
def ReadableAnswer (body : ByteArray) : Prop :=
  ∃ text, String.fromUTF8? body = some text ∧
    ∀ error, host.loads text = .error error → error = .jsonDecodeError

def BackoffFits (attempt : ℕ) : Prop :=
  request.retryBackoffSeconds * attempt * host.uniform attempt < sleepLimit

/-- The server leaves room for another attempt. -/
def Retried (attempt : ℕ) : ServerBehaviour → Prop
  | .answer _ => False
  | .httpError status _ _ => attempt < attempts request ∧ isRetryableStatus status = true
  | .unreachable _ => attempt < attempts request

/-- What a server does at an attempt is within what the request can deal with. -/
def Harmless (attempt : ℕ) : ServerBehaviour → Prop
  | .answer body => ReadableAnswer host body
  | .httpError status retryAfter _ =>
      attempt < attempts request → isRetryableStatus status = true →
        match if status = 429 then parseRetryAfter host attempt retryAfter else none with
        | some stated => stated.IsNonneg
        | none => BackoffFits host request attempt
  | .unreachable _ => attempt < attempts request → BackoffFits host request attempt

end

/-! ## One attempt -/

section
variable {host : RequestHost} {request : ResponsesRequest} {attempt : ℕ}

theorem answered_extractOpenaiText (data : JsonDict) : Answered (extractOpenaiText data) := by
  rw [extractOpenaiText]
  split
  · exact .inl ⟨_, rfl⟩
  · split
    · exact .inl ⟨_, rfl⟩
    · exact .inr ⟨_, rfl⟩

theorem answered_answerOutcome_iff (body : ByteArray) :
    Answered (answerOutcome host request body) ↔ ReadableAnswer host body := by
  rw [answerOutcome, ReadableAnswer]
  cases hbody : String.fromUTF8? body with
  | none => simp [Answered]
  | some text =>
      cases hloads : host.loads text with
      | ok value =>
          refine iff_of_true ?_ ⟨text, rfl, by simp [hloads]⟩
          dsimp only
          rw [hloads]
          cases value with
          | obj fields => exact answered_extractOpenaiText _
          | null | bool _ | num _ | str _ | arr _ => exact .inr ⟨_, rfl⟩
      | error error => cases error <;> simp [Answered, hloads]

theorem sleepLimit_pos : 0 < sleepLimit := by norm_num [sleepLimit]

theorem sleep_finite_iff (q : ℚ) : sleep (.finite q) = none ↔ 0 ≤ q ∧ q < sleepLimit := by
  have hpos := sleepLimit_pos
  rw [sleep]
  by_cases hfar : sleepLimit ≤ q ∨ q < -sleepLimit
  · rw [if_pos hfar]
    refine iff_of_false (by simp) fun h => ?_
    cases hfar with
    | inl hlarge => exact not_le.mpr h.2 hlarge
    | inr hsmall => linarith [h.1]
  · rw [if_neg hfar]
    rw [not_or, not_le] at hfar
    by_cases hneg : q < 0
    · rw [if_pos hneg]
      exact iff_of_false (by simp) fun h => not_le.mpr hneg h.1
    · rw [if_neg hneg]
      exact iff_of_true rfl ⟨not_lt.mp hneg, hfar.1⟩

theorem settled_finite_iff (q : ℚ) :
    (NonnegDelay (.finite q) ∧ sleep (.finite q) = none) ↔ 0 ≤ q ∧ q < sleepLimit := by
  rw [sleep_finite_iff]
  exact ⟨And.right, fun h => ⟨⟨q, h.1, rfl⟩, h⟩⟩

theorem capped_settled_iff (stated : PyFloat) :
    (NonnegDelay (capped stated) ∧ sleep (capped stated) = none) ↔ stated.IsNonneg := by
  have hlimit : maxRetryAfterSeconds < sleepLimit := by
    norm_num [maxRetryAfterSeconds, sleepLimit]
  have hzero : 0 ≤ maxRetryAfterSeconds := by norm_num [maxRetryAfterSeconds]
  cases stated with
  | finite q =>
      rw [capped, settled_finite_iff, PyFloat.IsNonneg]
      split
      · next hlarge => exact iff_of_true ⟨hzero, hlimit⟩ (hzero.trans hlarge.le)
      · next hsmall => exact and_iff_left ((not_lt.mp hsmall).trans_lt hlimit)
  | posInf => exact iff_of_true ((settled_finite_iff _).mpr ⟨hzero, hlimit⟩) trivial
  | negInf => simp [capped, NonnegDelay, PyFloat.IsNonneg]
  | nan => simp [capped, NonnegDelay, PyFloat.IsNonneg]

theorem retryDelay_nonneg (hbackoff : 0 < request.retryBackoffSeconds) :
    0 ≤ retryDelay host request attempt := by
  have huniform := (host.uniform_mem attempt).1
  exact mul_nonneg (mul_nonneg hbackoff.le (Nat.cast_nonneg _)) (by linarith)

theorem backoff_settled_iff (hbackoff : 0 < request.retryBackoffSeconds) :
    (NonnegDelay (.finite (retryDelay host request attempt)) ∧
      sleep (.finite (retryDelay host request attempt)) = none) ↔
        BackoffFits host request attempt := by
  rw [settled_finite_iff]
  exact and_iff_right (retryDelay_nonneg hbackoff)

/-- A reply is settled where the server is harmless. -/
theorem settled_replyTo_iff (hbackoff : 0 < request.retryBackoffSeconds)
    (behaviour : ServerBehaviour) :
    Retrying.Settled sleep Answered NonnegDelay (replyTo host request attempt behaviour) ↔
      Harmless host request attempt behaviour := by
  cases behaviour with
  | answer body => exact answered_answerOutcome_iff body
  | httpError status retryAfter body =>
      rw [replyTo, Harmless]
      by_cases hauth : status = 401 ∨ status = 403
      · rw [if_pos hauth]
        refine iff_of_true (.inr ⟨_, rfl⟩) fun _ hretryable => ?_
        rcases hauth with rfl | rfl <;> simp [isRetryableStatus] at hretryable
      · rw [if_neg hauth]
        by_cases hagain : attempt < attempts request ∧ isRetryableStatus status = true
        · rw [if_pos hagain, imp_iff_right hagain.1, imp_iff_right hagain.2]
          rw [Retrying.Settled, delayAfter, retryAfterDelay]
          by_cases hbusy : status = 429
          · rw [if_pos hbusy, if_pos hbusy]
            cases parseRetryAfter host attempt retryAfter with
            | some stated => exact capped_settled_iff stated
            | none => exact backoff_settled_iff hbackoff
          · rw [if_neg hbusy, if_neg hbusy]
            exact backoff_settled_iff hbackoff
        · rw [if_neg hagain]
          exact iff_of_true (.inr ⟨_, rfl⟩) fun hlt hretryable => absurd ⟨hlt, hretryable⟩ hagain
  | unreachable error =>
      rw [replyTo, Harmless]
      by_cases hagain : attempt < attempts request
      · rw [if_pos hagain, imp_iff_right hagain]
        exact backoff_settled_iff hbackoff
      · rw [if_neg hagain]
        exact iff_of_true (.inr ⟨_, rfl⟩) fun hlt => absurd hlt hagain

theorem isAgain_replyTo_iff (behaviour : ServerBehaviour) :
    (replyTo host request attempt behaviour).IsAgain ↔ Retried request attempt behaviour := by
  cases behaviour with
  | answer body => exact Iff.rfl
  | httpError status retryAfter body =>
      rw [replyTo, Retried]
      by_cases hauth : status = 401 ∨ status = 403
      · rw [if_pos hauth]
        refine iff_of_false id fun h => ?_
        have hretryable := h.2
        rcases hauth with rfl | rfl <;> simp [isRetryableStatus] at hretryable
      · rw [if_neg hauth]
        by_cases hagain : attempt < attempts request ∧ isRetryableStatus status = true
        · rw [if_pos hagain]
          exact iff_of_true trivial hagain
        · rw [if_neg hagain]
          exact iff_of_false id hagain
  | unreachable error =>
      rw [replyTo, Retried]
      by_cases hagain : attempt < attempts request
      · rw [if_pos hagain]
        exact iff_of_true trivial hagain
      · rw [if_neg hagain]
        exact iff_of_false id hagain

end

/-! ## All attempts -/

theorem not_answered_of_sleep (delay : PyFloat) (raised : RequestOutcome)
    (h : sleep delay = some raised) : ¬ Answered raised := by
  have hsleep : ∃ error, raised = .sleepError error := by
    cases delay with
    | finite q =>
        rw [sleep] at h
        split at h
        · exact ⟨_, (Option.some.inj h).symm⟩
        · split at h
          · exact ⟨_, (Option.some.inj h).symm⟩
          · cases h
    | posInf | negInf | nan => exact ⟨_, (Option.some.inj h).symm⟩
  obtain ⟨error, rfl⟩ := hsleep
  simp [Answered]

/-- A host that knows an empty list and two headers. -/
def plainHost : RequestHost where
  loads text := if text = "[]" then .ok (.arr []) else .error .jsonDecodeError
  decodeReplace _ := ""
  floatOf text :=
    if text = "nan" then some .nan else if text = "5" then some (.finite 5) else none
  secondsUntil _ _ := none
  redact text := text
  uniform _ := 1
  uniform_mem _ := by norm_num

def plainRequest : ResponsesRequest where
  maxRetries := 2
  retryBackoffSeconds := 1
  authErrorMessage := "OpenAI authentication failed."
  providerName := "OpenAI"
  role := "architect"

/-- Busy first, and then an answer. -/
def busyServer (attempt : ℕ) : ServerBehaviour :=
  if attempt = 1 then .httpError 429 (some "5") ⟨#[]⟩ else .answer ⟨#[0x5b, 0x5d]⟩

end TruePresenceESE.Ese
