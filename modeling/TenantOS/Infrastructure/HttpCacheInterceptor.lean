import TenantOS.Infrastructure.CacheService
import TenantOS.Shared.Uuid

/-! The interceptor of routes marked with `@CacheResponse()`: whose response may be
stored, and under which key. -/
namespace TenantOS.Infrastructure

open TenantOS.Interleaving TenantOS.Shared

inductive CacheScope where
  | user | tenant | «public»
deriving DecidableEq, Repr

structure CacheResponseOptions where
  ttlSeconds : Int
  scope : CacheScope

/-- Who is calling, as far as the guards found out. An id that is there is a uuid. -/
structure RequestContext where
  userId : Option String
  tenantId : Option String
  userId_uuid : ∀ id, userId = some id → isUuid id.toList = true
  tenantId_uuid : ∀ id, tenantId = some id → isUuid id.toList = true

/-- A call the interceptor is put before: its kind, the options its handler or controller
is decorated with, the request and the context it runs in. -/
structure ExecutionContext where
  type : String
  options : Option CacheResponseOptions
  method : String
  originalUrl : String
  context : Option RequestContext

namespace HttpCacheInterceptor

/-- `createHash('sha256').update(url).digest('base64url')` -/
abbrev Digest := String → String

variable (digest : Digest)

/-- `slice(0, 22)` -/
def urlHash (url : String) : String :=
  String.ofList ((digest url).toList.take 22)

/-- The identity a scope asks for, if the request has it. -/
def identity (call : ExecutionContext) : CacheScope → Option String
  | .user => do
    let context ← call.context
    let userId ← context.userId
    if userId = "" then none else some ("u:" ++ userId)
  | .tenant => do
    let context ← call.context
    let tenantId ← context.tenantId
    if tenantId = "" then none else some ("t:" ++ tenantId)
  | .public => some "public"

def buildKey (call : ExecutionContext) (options : CacheResponseOptions) : Option String :=
  (identity call options.scope).map fun identity =>
    "v1:res:" ++ identity ++ ":" ++ urlHash digest call.originalUrl

/-- A response as the client gets it: out of the cache, or from the handler. -/
inductive Served (json : JSON) where
  | cached (value : json.Value)
  | handled (value : json.Value)

variable {json : JSON}

def handle : CacheProgram json json.Value :=
  Program.perform (I := cacheInterface json) .handle

/-- `next.handle()` and nothing else. -/
def uncached : CacheProgram json (Served json) := do
  let response ← handle
  pure (.handled response)

/-- The client does not wait for the write; nothing depends on it but the cache. -/
def intercept (call : ExecutionContext) : CacheProgram json (Served json) :=
  if call.type ≠ "http" then uncached
  else
    match call.options with
    | none => uncached
    | some options =>
      if call.method ≠ "GET" then uncached
      else
        match buildKey digest call options with
        | none => uncached
        | some key => do
          let cached ← CacheService.get key
          match cached with
          | some value => pure (.cached value)
          | none => do
            let response ← handle
            CacheService.set key response options.ttlSeconds
            pure (.handled response)

end HttpCacheInterceptor

end TenantOS.Infrastructure
