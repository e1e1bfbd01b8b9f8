import TenantOS.Domain.User
import TenantOS.Shared.Uuid

/-! The context a request runs in: its ids, and who is calling once that is known. -/
namespace TenantOS.Shared

open Domain (Date sliceUnits)

/-- `/^[0-9a-f]{8}-[0-9a-f]{4}-[1-8][0-9a-f]{3}-[89ab][0-9a-f]{3}-[0-9a-f]{12}$/i` -/
def UUID_PATTERN (text : String) : Bool :=
  isUuid text.toList && text.toList[14]?.any (fun version => '1' ≤ version && version ≤ '8') &&
    text.toList[19]?.any fun variant => variant ∈ ['8', '9', 'a', 'b', 'A', 'B']

structure IncomingRequest where
  requestId : Option String
  correlationId : Option String
  userAgent : Option String
  ip : Option String
  method : String
  originalUrl : String

structure RequestContext where
  requestId : String
  correlationId : String
  ip : Option String
  userAgent : Option String
  method : String
  path : String
  startedAt : Date
  userId : Option String := none
  tenantId : Option String := none

structure EchoedIds where
  requestId : String
  correlationId : String

/-- Anything that isn't a UUID is discarded rather than sanitised. -/
def sanitizeId (value : Option String) : Option String :=
  value.filter fun text => text ≠ "" && UUID_PATTERN text

def RequestContextMiddleware.use (req : IncomingRequest) (randomUUID : String) (now : Date) :
    RequestContext × EchoedIds :=
  let requestId := (sanitizeId req.requestId).getD randomUUID
  let correlationId := (sanitizeId req.correlationId).getD requestId
  ({ requestId := requestId
     correlationId := correlationId
     ip := req.ip
     userAgent := req.userAgent.map fun agent => String.ofList (sliceUnits 255 agent.toList)
     method := req.method
     path := req.originalUrl
     startedAt := now }, ⟨requestId, correlationId⟩)

def RequestContext.setPrincipal (context : RequestContext) (userId tenantId : Option String) :
    RequestContext :=
  { context with userId := userId.or context.userId, tenantId := tenantId.or context.tenantId }

theorem UUID_PATTERN_of_sanitizeId {value : Option String} {text : String}
    (h : sanitizeId value = some text) : UUID_PATTERN text = true := by
  have kept := (Option.filter_eq_some_iff.mp h).2
  simp only [Bool.and_eq_true] at kept
  exact kept.2

section

variable {req : IncomingRequest} {randomUUID : String} {now : Date}

@[simp] theorem use_requestId : (RequestContextMiddleware.use req randomUUID now).2.requestId =
    (RequestContextMiddleware.use req randomUUID now).1.requestId := rfl

/-- Whatever the client sends, the ids in use are uuids. -/
theorem use_ids (drawn : UUID_PATTERN randomUUID = true) :
    UUID_PATTERN (RequestContextMiddleware.use req randomUUID now).2.requestId = true ∧
      UUID_PATTERN (RequestContextMiddleware.use req randomUUID now).2.correlationId = true := by
  have requestId : UUID_PATTERN ((sanitizeId req.requestId).getD randomUUID) = true := by
    cases found : sanitizeId req.requestId with
    | none => exact drawn
    | some text => exact UUID_PATTERN_of_sanitizeId found
  refine ⟨requestId, ?_⟩
  cases found : sanitizeId req.correlationId with
  | none =>
    simp only [RequestContextMiddleware.use, found]
    exact requestId
  | some text =>
    simp only [RequestContextMiddleware.use, found]
    exact UUID_PATTERN_of_sanitizeId found

end

end TenantOS.Shared
