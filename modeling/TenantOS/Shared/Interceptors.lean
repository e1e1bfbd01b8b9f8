import TenantOS.Shared.GlobalExceptionFilter

/-! What wraps the result of a handler, and what bounds the wait for it. -/
namespace TenantOS.Shared

open Domain (Date Json)

inductive HandlerResult where
  | undefined
  | json (data : Json)
  | streamableFile

structure ApiSuccessResponse where
  data : Json
  traceId : String
  timestamp : String

inductive SentBody where
  | plain (result : HandlerResult)
  | enveloped (response : ApiSuccessResponse)

namespace ResponseEnvelopeInterceptor

/-- `data ?? null` -/
def orNull : HandlerResult → Json
  | .json data => data
  | .undefined | .streamableFile => .null

def envelope (skip : Bool) (requestId : Option String) (timestamp : String)
    (result : HandlerResult) : SentBody :=
  match skip, result with
  | true, _ | _, .streamableFile => .plain result
  | false, result => .enveloped ⟨orNull result, requestId.getD "unknown", timestamp⟩

/-- `x-response-time`, which is not set behind a reply that has started. -/
def responseTime (headersSent : Bool) (startedAt now : Date) : Option String :=
  if headersSent then none else some (toString (Int.sub now startedAt) ++ "ms")

end ResponseEnvelopeInterceptor

namespace TimeoutInterceptor

def timeoutError : Thrown := .timeout { name := "TimeoutError", message := "Timeout has occurred" }

def requestTimeoutException (timeoutMs : Nat) : Thrown :=
  let message := "Request exceeded " ++ toString timeoutMs ++ "ms"
  .http { name := "RequestTimeoutException", message := message } 408 (.message (.ofString message))

def catchError (timeoutMs : Nat) : Thrown → Thrown
  | .timeout _ => requestTimeoutException timeoutMs
  | thrown => thrown

end TimeoutInterceptor

end TenantOS.Shared
