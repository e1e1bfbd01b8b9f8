import TenantOS.Interleaving.Schedule
import TenantOS.Redis.Strings

/-! The application's cache: keys, and the methods of the service over Redis. Every
method fails open. -/
namespace TenantOS.Infrastructure

open TenantOS.Interleaving

/-- `JSON` of the host. A value may have no text, and a text no value. -/
structure JSON where
  Value : Type
  isNull : Value → Bool
  stringify : Value → Option String
  parse : String → Option Value

inductive RedisCall where
  | get (key : String)
  | setEx (key value : String) (seconds : Int)
  | del (keys : List String)

/-- The commands of the cache, and the handler behind a cached route. -/
inductive CacheCall where
  | redis (c : RedisCall)
  | handle

def CacheCall.Reply (json : JSON) : CacheCall → Type
  | .redis (.get _) => Option String
  | .redis (.setEx ..) => Unit
  | .redis (.del _) => Unit
  | .handle => json.Value

abbrev cacheInterface (json : JSON) : Interface where
  Call := CacheCall
  Reply := CacheCall.Reply json

/-- What is thrown is only ever logged or passed on. -/
abbrev CacheProgram (json : JSON) (α : Type) := Program (cacheInterface json) String α

/-- Where a cache key of the application comes from, other than a cached response. -/
inductive CacheKey where
  | user (userId : String)
  | membership (userId tenantId : String)
  | userTenants (userId : String)
  | tenant (tenantId : String)
  | tenantBySlug (slug : String)
  | denylist (jti : String)
  | tenantScope (tenantId : String)
deriving DecidableEq, Repr

namespace CacheKey

def schemaVersion : String := "v1"

/-- `[SCHEMA_VERSION, ...parts].join(':')` -/
def key (parts : List String) : String :=
  ":".intercalate (schemaVersion :: parts)

def text : CacheKey → String
  | .user userId => key ["user", userId]
  | .membership userId tenantId => key ["membership", userId, tenantId]
  | .userTenants userId => key ["user-tenants", userId]
  | .tenant tenantId => key ["tenant", tenantId]
  | .tenantBySlug slug => key ["tenant-slug", slug]
  | .denylist jti => key ["denylist", jti]
  | .tenantScope tenantId => key ["t", tenantId]

end CacheKey

namespace CacheService

variable {json : JSON}

abbrev redis {json : JSON} (c : RedisCall) : CacheProgram json (CacheCall.Reply json (.redis c)) :=
  Program.perform (I := cacheInterface json) (.redis c)

/-- `none` is null. -/
def get (key : String) : CacheProgram json (Option json.Value) :=
  tryCatch (do
    let raw ← redis (.get key)
    match raw with
    | none => pure none
    | some raw =>
      match json.parse raw with
      | none => throw "SyntaxError"
      | some value => pure (if json.isNull value then none else some value)) fun _ => pure none

def set (key : String) (value : json.Value) (ttlSeconds : Int) : CacheProgram json Unit :=
  tryCatch (
    match json.stringify value with
    | none => throw "TypeError"
    | some text => redis (.setEx key text ttlSeconds)) fun _ => pure ()

def delete (keys : List String) : CacheProgram json Unit :=
  if keys = [] then pure ()
  else tryCatch (redis (.del keys)) fun _ => pure ()

end CacheService

end TenantOS.Infrastructure
