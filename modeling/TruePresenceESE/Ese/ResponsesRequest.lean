import TruePresenceESE.Lib.JsonDict
import TruePresenceESE.Lib.PyText
import TruePresenceESE.Lib.Retrying
import Mathlib.Tactic

/-! # Requests to a responses interface

A role prompt is sent to a provider, again after a delay where the provider is busy or out of
reach. A busy provider may name the delay, as a number or as a date.
-/

namespace TruePresenceESE.Ese

open PyValue JsonDict PyText Retrying

inductive PyFloat where
  | finite (q : ℚ)
  | posInf
  | negInf
  | nan

/-- Why `json.loads` gives up: the text is no JSON, or an integer in it has too many digits, or
it is nested too deeply. -/
inductive LoadsError where
  | jsonDecodeError
  | valueError
  | recursionError
  deriving DecidableEq

/-- What the requests use of Python and of the time they are made at. -/
structure RequestHost where
  loads : String → Except LoadsError Json
  /-- `body.decode("utf-8", errors="replace")` -/
  decodeReplace : ByteArray → String
  /-- `float(text)`, if the text is a number. -/
  floatOf : String → Option PyFloat
  /-- The seconds from an attempt to a date, if the text is one. -/
  secondsUntil : ℕ → String → Option ℚ
  redact : String → String
  /-- The random factor of the delay after an attempt. -/
  uniform : ℕ → ℚ
  uniform_mem : ∀ attempt, 0.9 ≤ uniform attempt ∧ uniform attempt ≤ 1.1

/-- What comes of one request. -/
inductive ServerBehaviour where
  | answer (body : ByteArray)
  | httpError (status : ℕ) (retryAfter : Option String) (body : ByteArray)
  | unreachable (error : String)

inductive RequestOutcome where
  | text (value : String)
  | adapterExecutionError (message : String)
  | unicodeDecodeError
  | loadsError (error : LoadsError)
  | sleepError (error : PyError)

structure ResponsesRequest where
  maxRetries : ℕ
  retryBackoffSeconds : ℚ
  authErrorMessage : String
  providerName : String
  role : String

/-! ## Answers -/

def contentTexts : Json → List String
  | .obj fields =>
      match (ofFields fields).get? "content" with
      | some (.arr parts) => parts.filterMap fun
          | .obj part =>
              match (ofFields part).get? "text" with
              | some (.str text) => if strip text ≠ "" then some (strip text) else none
              | _ => none
          | _ => none
      | _ => []
  | _ => []

def outputTexts (data : JsonDict) : List String :=
  match data.get? "output" with
  | some (.arr items) => items.flatMap contentTexts
  | _ => []

def outputText? (data : JsonDict) : Option String :=
  match data.get? "output_text" with
  | some (.str text) => if strip text ≠ "" then some (strip text) else none
  | _ => none

def extractOpenaiText (data : JsonDict) : RequestOutcome :=
  match outputText? data with
  | some text => .text text
  | none =>
      if outputTexts data ≠ [] then .text ("\n\n".intercalate (outputTexts data))
      else .adapterExecutionError "OpenAI response did not contain text output"

section
variable (host : RequestHost) (request : ResponsesRequest)

def answerOutcome (body : ByteArray) : RequestOutcome :=
  match String.fromUTF8? body with
  | none => .unicodeDecodeError
  | some text =>
      match host.loads text with
      | .ok (.obj fields) => extractOpenaiText (ofFields fields)
      | .ok _ => .adapterExecutionError
          (request.providerName ++ " response JSON must be an object")
      | .error .jsonDecodeError => .adapterExecutionError
          (request.providerName ++ " response was not valid JSON for role '" ++ request.role ++ "'")
      | .error error => .loadsError error

end

/-! ## Delays -/

def isRetryableStatus (status : ℕ) : Bool := [408, 409, 429].contains status || decide (500 ≤ status)

def maxRetryAfterSeconds : ℚ := 30

/-- `min(delay, MAX_RETRY_AFTER_SECONDS)`, which is the delay unless the maximum is less. -/
def capped : PyFloat → PyFloat
  | .finite q => .finite (if maxRetryAfterSeconds < q then maxRetryAfterSeconds else q)
  | .posInf => .finite maxRetryAfterSeconds
  | .negInf => .negInf
  | .nan => .nan

/-- The first second too far away for a timestamp of nanoseconds. -/
def sleepLimit : ℚ := 2 ^ 63 / 10 ^ 9

/-- `time.sleep(delay)` and what it raises. -/
def sleep : PyFloat → Option RequestOutcome
  | .finite q =>
      if sleepLimit ≤ q ∨ q < -sleepLimit then some (.sleepError .overflowError)
      else if q < 0 then some (.sleepError .valueError)
      else none
  | .posInf | .negInf => some (.sleepError .overflowError)
  | .nan => some (.sleepError .valueError)

section
variable (host : RequestHost) (request : ResponsesRequest)

def retryDelay (attempt : ℕ) : ℚ := request.retryBackoffSeconds * attempt * host.uniform attempt

/-- The delay a provider asks for; a date that has passed asks for none. -/
def parseRetryAfter (attempt : ℕ) : Option String → Option PyFloat
  | none => none
  | some headerValue =>
      if headerValue = "" then none
      else match host.floatOf headerValue with
        | some value => some value
        | none =>
            match host.secondsUntil attempt headerValue with
            | some delta => if 0 < delta then some (.finite delta) else none
            | none => none

def retryAfterDelay (attempt : ℕ) (headerValue : Option String) : Option PyFloat :=
  (parseRetryAfter host attempt headerValue).map capped

/-- Only too many requests are answered with a delay that counts. -/
def delayAfter (attempt status : ℕ) (retryAfter : Option String) : PyFloat :=
  if status = 429 then
    (retryAfterDelay host attempt retryAfter).getD (.finite (retryDelay host request attempt))
  else .finite (retryDelay host request attempt)

end

/-! ## The request -/

def truncateForError (text : String) : String :=
  let cleaned := [' '].intercalate (words text.toList)
  String.ofList (if cleaned.length ≤ 500 then cleaned else cleaned.take 497 ++ ['.', '.', '.'])

section
variable (host : RequestHost) (request : ResponsesRequest)

def attempts : ℕ := request.maxRetries + 1

def attemptText (attempt : ℕ) : String :=
  "attempt=" ++ toString attempt ++ "/" ++ toString (attempts request)

def httpErrorNote (attempt status : ℕ) (body : ByteArray) : String :=
  "provider=" ++ request.providerName ++ " role=" ++ request.role ++ " status=" ++
    toString status ++ " " ++ attemptText request attempt ++ " body=" ++
      truncateForError (host.redact (host.decodeReplace body))

def unreachableNote (attempt : ℕ) (error : String) : String :=
  "provider=" ++ request.providerName ++ " role=" ++ request.role ++ " " ++
    attemptText request attempt ++ " error=" ++ truncateForError (host.redact error)

/-- One turn of the loop: the answer, the last error, or another attempt after a delay. -/
def replyTo (attempt : ℕ) : ServerBehaviour → Reply PyFloat String RequestOutcome
  | .answer body => .finish (answerOutcome host request body)
  | .httpError status retryAfter body =>
      if status = 401 ∨ status = 403 then
        .finish (.adapterExecutionError
          (request.authErrorMessage ++ " Role: " ++ request.role ++ "."))
      else if attempt < attempts request ∧ isRetryableStatus status then
        .again (delayAfter host request attempt status retryAfter)
          (httpErrorNote host request attempt status body)
      else .finish (.adapterExecutionError (request.providerName ++ " request failed (" ++
        httpErrorNote host request attempt status body ++ ")"))
  | .unreachable error =>
      if attempt < attempts request then
        .again (.finite (retryDelay host request attempt))
          (unreachableNote host request attempt error)
      else .finish (.adapterExecutionError (request.providerName ++
        " request failed after retries: " ++ unreachableNote host request attempt error))

/-- The end of a loop that no attempt ended. -/
def exhausted (lastError : Option String) : RequestOutcome :=
  .adapterExecutionError (request.providerName ++ " request failed after retries: " ++
    lastError.getD "unknown error")

/-- The request against a server that behaves in some way at every attempt. -/
def executeResponsesRequest (server : ℕ → ServerBehaviour) : Run PyFloat RequestOutcome :=
  run (fun attempt => replyTo host request attempt (server attempt)) sleep (exhausted request)
    (attempts request) 1 none

end

end TruePresenceESE.Ese
