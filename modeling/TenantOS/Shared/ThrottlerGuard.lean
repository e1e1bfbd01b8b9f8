import TenantOS.Infrastructure.RedisThrottlerStorage
import TenantOS.Modules.Routes

/-! The rate-limit guard in front of every route: the throttlers of the
application module, what a controller skips, and the key a hit is counted on. -/
namespace TenantOS.Shared

open TenantOS.Infrastructure TenantOS.Modules TenantOS.Redis
open TenantOS.Infrastructure.Config (AppConfigService)
open RedisThrottlerStorage (Delivery)

structure Route where
  controller : Controller
  handler : Handler
  mounted : controller ∈ controllers
  declared : handler ∈ controller.handlers
deriving DecidableEq

/-- `request.url?.startsWith('/health')` -/
def skipIf (url : String) : Bool :=
  "/health".toList.isPrefixOf url.toList

structure Request (config : AppConfigService) where
  route : Route
  url : String
  routed : RoutesTo config route.controller route.handler url
  ip : Option String
  remoteAddress : Option String
  time : Int
  delivery : String → Delivery

structure ThrottleConfig where
  ttlS : Nat
  limit : Nat
  authLimit : Nat
  ttlS_pos : 0 < ttlS
  limit_pos : 0 < limit
  authLimit_pos : 0 < authLimit

structure ThrottlerOptions where
  name : String
  ttl : Nat
  limit : Nat
deriving DecidableEq, Repr

def throttlers (limits : ThrottleConfig) : List ThrottlerOptions :=
  [⟨"default", limits.ttlS * 1000, limits.limit⟩, ⟨"auth", limits.ttlS * 1000, limits.authLimit⟩]

namespace ThrottlerBehindProxyGuard

variable {config : AppConfigService}

/-- `req.ip ?? req.socket.remoteAddress ?? 'unknown'` -/
def getTracker (request : Request config) : String :=
  (request.ip <|> request.remoteAddress).getD "unknown"

variable (hash : String → String)

def generateKey (route : Route) (tracker name : String) : String :=
  hash (route.controller.name ++ "-" ++ route.handler.name ++ "-" ++ name ++ "-" ++ tracker)

/-- The library blocks for `ttl` where no block duration is given. -/
def handleRequest (request : Request config) (throttler : ThrottlerOptions)
    (db : Keyspace String) : Bool × Keyspace String :=
  let key := generateKey hash request.route (getTracker request) throttler.name
  let (verdict, db) := RedisThrottlerStorage.increment key throttler.ttl throttler.limit
    throttler.ttl throttler.name (request.delivery throttler.name) request.time db
  (!verdict.isBlocked, db)

def skips (request : Request config) (name : String) : Bool :=
  request.route.controller.skipThrottle.contains name || skipIf request.url

/-- The throttlers are asked in turn, until one of them refuses. -/
def canActivate (request : Request config) : List ThrottlerOptions → Keyspace String →
    Bool × Keyspace String
  | [], db => (true, db)
  | throttler :: rest, db =>
      if skips request throttler.name then canActivate request rest db
      else
        let (allowed, db) := handleRequest hash request throttler db
        if allowed then canActivate request rest db else (false, db)

def serve (limits : ThrottleConfig) : List (Request config) → Keyspace String →
    List (Request config × Bool)
  | [], _ => []
  | request :: rest, db =>
      let (allowed, db) := canActivate hash request (throttlers limits) db
      (request, allowed) :: serve limits rest db

end ThrottlerBehindProxyGuard

end TenantOS.Shared
