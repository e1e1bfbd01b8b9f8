import TenantOS.Domain.Workspace
import TenantOS.Shared.PropertyLookup

/-! The single exit point for every error the API produces. What is thrown may be anything;
where the filter itself throws, there is no reply of its own making. -/
namespace TenantOS.Shared
open Domain (Detail ErrorCode ErrorKind Failure Json JsonObject)

/-! What can be thrown. -/

/-- What `JSON.stringify` makes of the value of a property. -/
inductive Serialized where
  | written (json : Json)
  | omitted
  | throws

/-- A value that nothing looks into. -/
structure Value where
  /-- `String(value)`; none where this throws. -/
  text : Option String
  json : Serialized

def Value.ofString (text : String) : Value where
  text := some text
  json := .written (.string text)

def Value.ofStrings (texts : List String) : Value where
  text := some (",".intercalate texts)
  json := .written (.array (texts.map .string))

def Value.ofFields (fields : List (String × List String)) : Value where
  text := some "[object Object]"
  json := .written (.object (fields.map fun entry => (entry.1, .array (entry.2.map .string))))

abbrev Record := List (String × Value)

/-- What every `Error` has; the name is that of its class. -/
structure ErrorObject where
  name : String
  message : String
  stack : Option String := none
  cause : Option Value := none

inductive HttpResponseBody where
  | text (body : String)
  | messages (raw : List Value)
  | message (raw : Value)
  /-- An object without a `message`, or what is no object. -/
  | other

/-- The path as text, an index included. -/
structure ZodIssue where
  path : List String
  message : String

inductive Thrown where
  /-- The kind is the abstract subclass the error extends, if it extends one. -/
  | domain (error : ErrorObject) (kind : Option ErrorKind) (code : ErrorCode)
      (details : Option Record) (isExpected : Bool)
  | throttler (error : ErrorObject)
  | http (error : ErrorObject) (status : Int) (response : HttpResponseBody)
  | zod (error : ErrorObject) (issues : List ZodIssue)
  | infrastructure (error : ErrorObject) (code : ErrorCode) (context : Option Record)
  | prisma (error : ErrorObject) (code : String)
  | timeout (error : ErrorObject)
  | error (error : ErrorObject)
  | value (type : String) (value : Value)

def ofDetail : Detail → Value
  | .text value => .ofString value
  | .texts values => .ofStrings values

def ofFailure : Failure → Thrown
  | .domain error => .domain { name := error.name, message := error.message } error.kind
      error.code (error.details.map fun details => details.map fun detail =>
        (detail.1, ofDetail detail.2)) true
  | .infrastructure code message =>
      .infrastructure { name := "InfrastructureError", message := message } code none
  | .prisma code _ => .prisma { name := "PrismaClientKnownRequestError", message := "" } code
  | .unexpected message => .error { name := "Error", message := message }

/-! The tables. -/

def DOMAIN_ERROR_STATUS : List (ErrorKind × Int) :=
  [(.notFound, 404), (.conflict, 409), (.authentication, 401), (.authorization, 403),
    (.businessRule, 422)]

def HTTP_STATUS_ERROR_CODE : List (Int × ErrorCode) :=
  [(400, .badRequest), (401, .unauthenticated), (403, .forbidden), (404, .notFound),
    (405, .methodNotAllowed), (408, .requestTimeout), (409, .conflict), (413, .payloadTooLarge),
    (415, .unsupportedMediaType), (422, .validationFailed), (429, .rateLimitExceeded),
    (503, .serviceUnavailable)]

structure NormalizedError where
  status : Int
  errorCode : ErrorCode
  message : String
  details : Option Record
  isExpected : Bool

namespace GlobalExceptionFilter

def codeForStatus (status : Int) : ErrorCode :=
  (HTTP_STATUS_ERROR_CODE.lookup status).getD .internalError

def fromDomainError (error : ErrorObject) (kind : Option ErrorKind) (code : ErrorCode)
    (details : Option Record) (isExpected : Bool) : NormalizedError where
  status := ((DOMAIN_ERROR_STATUS.find? fun entry => kind = some entry.1).map Prod.snd).getD 400
  errorCode := code
  message := error.message
  details := details
  isExpected := isExpected

def fromHttpException (error : ErrorObject) (status : Int) :
    HttpResponseBody → Option NormalizedError
  | .messages raw => do
    let violations ← raw.mapM Value.text
    return {
      status := 422
      errorCode := .validationFailed
      message := "Request validation failed."
      details := some [("violations", .ofStrings violations)]
      isExpected := true }
  | .message raw => do
    let message ← raw.text
    return answer message
  | .text body => some (answer body)
  | .other => some (answer error.message)
where
  answer (message : String) : NormalizedError := {
    status := status
    errorCode := codeForStatus status
    message := message
    details := none
    isExpected := decide (status < 500) }

def issueKey (issue : ZodIssue) : String :=
  let path := ".".intercalate issue.path
  if path = "" then "_" else path

/-- `(fields[key] ??= []).push(message)`: what an object inherits is there already, and is
no array. -/
def pushIssue (fields : List (String × List String)) (issue : ZodIssue) :
    Option (List (String × List String)) :=
  let key := issueKey issue
  if key ∈ fields.map Prod.fst then
    some (fields.map fun entry =>
      if entry.1 = key then (entry.1, entry.2 ++ [issue.message]) else entry)
  else if key ∈ inheritedNames then none
  else some (fields ++ [(key, [issue.message])])

def fromZodError (issues : List ZodIssue) : Option NormalizedError := do
  let fields ← issues.foldlM pushIssue []
  return {
    status := 422
    errorCode := .validationFailed
    message := "Request validation failed."
    details := some [("fields", .ofFields fields)]
    isExpected := true }

def fromPrismaError (code : String) : NormalizedError :=
  if code = "P2002" then {
    status := 409
    errorCode := .conflict
    message := "That value is already taken."
    details := none
    isExpected := false }
  else if code = "P2025" then {
    status := 404
    errorCode := .notFound
    message := "The requested resource does not exist."
    details := none
    isExpected := false }
  else if code = "P2003" then {
    status := 409
    errorCode := .conflict
    message := "The operation conflicts with a related record."
    details := none
    isExpected := false }
  else {
    status := 500
    errorCode := .databaseUnavailable
    message := "An unexpected error occurred."
    details := none
    isExpected := false }

def unexpected : NormalizedError where
  status := 500
  errorCode := .internalError
  message := "An unexpected error occurred."
  details := none
  isExpected := false

def normalize : Thrown → Option NormalizedError
  | .domain error kind code details isExpected =>
      some (fromDomainError error kind code details isExpected)
  | .throttler _ => some {
      status := 429
      errorCode := .rateLimitExceeded
      message := "Too many requests. Slow down and retry after the interval in Retry-After."
      details := none
      isExpected := true }
  | .http error status response => fromHttpException error status response
  | .zod _ issues => fromZodError issues
  | .infrastructure _ code _ => some {
      status := 503
      errorCode := code
      -- The real message names hosts, ports and sometimes credentials.
      message := "A downstream dependency is unavailable. Retry shortly."
      details := none
      isExpected := false }
  | .prisma _ code => some (fromPrismaError code)
  | .timeout _ => some unexpected
  | .error _ => some unexpected
  | .value _ _ => some unexpected

end GlobalExceptionFilter

/-! The request, its log line and its reply. -/

structure HttpHost where
  method : String
  originalUrl : String
  requestId : Option String
  headersSent : Bool
  retryAfter : Option String
  now : String

inductive Host where
  | http (host : HttpHost)
  /-- A web socket's or an RPC's. -/
  | other

inductive LoggedError where
  | itself (exception : Thrown)
  /-- `new Error(String(exception))` -/
  | converted (message : String)

structure LogLine where
  errorCode : ErrorCode
  status : Int
  method : String
  path : String
  err : Option LoggedError
  reason : Option String
  warned : Bool

structure ApiErrorResponse where
  message : String
  errorCode : ErrorCode
  traceId : String
  details : Option Record
  timestamp : String

/-- `JSON.stringify` of a record: a property that has no form in JSON is left out. -/
def stringifyRecord : Record → Option JsonObject
  | [] => some []
  | (key, value) :: rest => do
    let rest ← stringifyRecord rest
    match value.json with
    | .written json => some ((key, json) :: rest)
    | .omitted => some rest
    | .throws => none

/-- `if (params.details) this.details = params.details` -/
def stringifyDetails : Option Record → Option JsonObject
  | none => some []
  | some record => (stringifyRecord record).map fun fields => [("details", .object fields)]

def ApiErrorResponse.stringify (response : ApiErrorResponse) : Option Json := do
  let details ← stringifyDetails response.details
  return .object ([("success", .bool false), ("message", .string response.message),
    ("errorCode", .string response.errorCode.text)] ++ details ++
    [("traceId", .string response.traceId), ("timestamp", .string response.timestamp)])

inductive Caught where
  /-- Another filter's: thrown on as it is. -/
  | rethrown (exception : Thrown)
  | failed
  /-- The connection is cut: a reply had been started. -/
  | destroyed (log : LogLine)
  | answered (log : LogLine) (status : Int) (retryAfter : Option String) (body : Json)

namespace GlobalExceptionFilter

def loggedError : Thrown → Option LoggedError
  | .value _ value => value.text.map .converted
  | exception => some (.itself exception)

def log (normalized : NormalizedError) (exception : Thrown) (host : HttpHost) :
    Option LogLine := do
  let err ← loggedError exception
  return {
    errorCode := normalized.errorCode
    status := normalized.status
    method := host.method
    path := host.originalUrl
    -- No stack: this is a valid request producing a negative answer.
    err := if normalized.isExpected then none else some err
    reason := if normalized.isExpected then some normalized.message else none
    warned := normalized.isExpected }

/-- Express is taken to throw for any other argument of `response.status`. -/
def validStatus (status : Int) : Bool :=
  100 ≤ status && status ≤ 999

/-- An empty header counts as none. -/
def retryAfterOf (normalized : NormalizedError) (host : HttpHost) : Option String :=
  if normalized.status = 429 && (host.retryAfter.filter (· ≠ "")).isNone then some "60"
  else host.retryAfter

def responseOf (normalized : NormalizedError) (host : HttpHost) : ApiErrorResponse where
  message := normalized.message
  errorCode := normalized.errorCode
  traceId := host.requestId.getD "unknown"
  details := normalized.details
  timestamp := host.now

def reply (normalized : NormalizedError) (logged : LogLine) (host : HttpHost) : Caught :=
  if host.headersSent then .destroyed logged
  else if validStatus normalized.status then
    match (responseOf normalized host).stringify with
    | some body => .answered logged normalized.status (retryAfterOf normalized host) body
    | none => .failed
  else .failed

def «catch» (exception : Thrown) : Host → Caught
  | .other => .rethrown exception
  | .http host =>
    match normalize exception with
    | none => .failed
    | some normalized =>
      match log normalized exception host with
      | none => .failed
      | some logged => reply normalized logged host

end GlobalExceptionFilter

end TenantOS.Shared
