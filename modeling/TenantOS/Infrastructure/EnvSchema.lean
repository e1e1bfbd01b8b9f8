import TenantOS.Schema.Outcome
import TenantOS.Domain.User
import Mathlib.Data.Rat.Defs
import Mathlib.Data.List.Infix

/-! The environment the process boots with. What Node.js itself decides is a parameter:
Unicode's lower case, the number a string stands for, what is a URL. -/
namespace TenantOS.Infrastructure.Config
open Schema
open Domain (jsTrim utf16Length)

/-- The numbers of JavaScript but NaN. -/
inductive Number where
  | negInfinity
  | finite (value : ℚ)
  | infinity
deriving DecidableEq

namespace Number

instance (n : Nat) : OfNat Number n := ⟨.finite n⟩

def isInteger : Number → Bool
  | finite value => value.den = 1
  | _ => false

def le : Number → Number → Bool
  | negInfinity, _ => true
  | _, infinity => true
  | finite a, finite b => a ≤ b
  | _, _ => false

/-- `value * n`, for `n` above zero. -/
def times : Number → Nat → Number
  | negInfinity, _ => negInfinity
  | finite value, n => finite (value * n)
  | infinity, _ => infinity

end Number

structure NodeRuntime where
  toLowerCase : String → String
  /-- `Number(text)`; NaN is `none`. -/
  toNumber : String → Option Number
  Url : Type
  parseUrl : String → Option Url
  searchParams : Url → List (String × String)
  /-- `url.search = params.toString()`, then `url.toString()`. -/
  withSearch : Url → List (String × String) → String

/-- A value the environment may hold: `unknown`, undefined aside. `other` is any object,
with what the schema calls it and what it converts to. -/
inductive RawValue where
  | string (text : String)
  | number (value : Option Number)
  | boolean (value : Bool)
  | null
  | other (parsedType : String) (toNumber : Option Number)

def RawValue.parsedType : RawValue → String
  | string _ => "string"
  | number none => "nan"
  | number (some _) => "number"
  | boolean _ => "boolean"
  | null => "null"
  | other parsedType _ => parsedType

/-- A name that is not set has no value. -/
abbrev RawEnv := String → Option RawValue

structure Issue where
  path : List String
  message : String
deriving DecidableEq, Repr

/-! Schemas of one variable. An issue of theirs is its message. -/

abbrev FieldSchema (α : Type) := Option RawValue → Outcome String α

/-- `schema.default(value)` -/
def withDefault {α : Type} (value : RawValue) (schema : FieldSchema α) : FieldSchema α :=
  fun raw => schema (some (raw.getD value))

/-- `z.string()` -/
def string : FieldSchema String
  | some (.string text) => .valid text
  | none => .invalid "Required"
  | some value => .invalid ("Expected string, received " ++ value.parsedType)

/-- `z.string().optional()` -/
def optionalString : FieldSchema (Option String)
  | none => .valid none
  | some value => (string (some value)).map some

/-- `z.string().min(1)` -/
def nonEmpty : FieldSchema String := fun raw =>
  (string raw).refine fun text =>
    if utf16Length text < 1 then ["String must contain at least 1 character(s)"] else []

/-- `z.enum(options)` -/
def «enum» {α : Type} (options : List (String × α)) : FieldSchema α
  | none => .invalid "Required"
  | some (.string text) =>
      match options.lookup text with
      | some value => .valid value
      | none => .invalid ("Invalid enum value. Expected " ++ expected ++ ", received '" ++
          text ++ "'")
  | some value => .invalid ("Expected " ++ expected ++ ", received " ++ value.parsedType)
where
  expected : String := " | ".intercalate (options.map fun option => "'" ++ option.1 ++ "'")

inductive NumberCheck where
  | int
  | min (value : Nat) (inclusive : Bool)
  | max (value : Nat)

def NumberCheck.issues (value : Number) : NumberCheck → List String
  | int => if value.isInteger then [] else ["Expected integer, received float"]
  | min bound true =>
      if (Number.finite bound).le value then []
      else ["Number must be greater than or equal to " ++ toString bound]
  | min bound false =>
      if value.le (.finite bound) then ["Number must be greater than " ++ toString bound] else []
  | max bound =>
      if value.le (.finite bound) then []
      else ["Number must be less than or equal to " ++ toString bound]

def port : List NumberCheck := [.int, .min 1 true, .max 65535]

def positiveInt : List NumberCheck := [.int, .min 0 false]

/-- The ends of a list that are not slashes: `replace(/^\/+|\/+$/g, '')` -/
def stripSlashes (text : String) : String :=
  String.ofList (((text.toList.dropWhile (· = '/')).reverse.dropWhile (· = '/')).reverse)

def startsWith (text start : String) : Bool :=
  start.toList.isPrefixOf text.toList

def withLeadingSlash (text : String) : String :=
  if startsWith text "/" then text else "/" ++ text

/-- `value.split(',')`, each part trimmed. -/
def parts (value : String) : List String :=
  (value.toList.splitOn ',').map fun part => jsTrim (String.ofList part)

/-- A `Set` keeps the first of its equal entries, in order. -/
def entries (value : String) : List String :=
  ((parts value).filter fun part => part ≠ "").eraseDups

example : entries " https://a.example,, *,https://a.example" = ["https://a.example", "*"] := by
  decide +kernel

/-- Comma-separated list -> trimmed, de-duplicated, empty entries dropped. -/
def csv (defaultValue : String) : FieldSchema (List String) := fun raw =>
  (withDefault (.string defaultValue) string raw).transform entries

/-- Secrets must be long enough that a dictionary attack on the JWT is pointless. -/
def secret : FieldSchema String := fun raw =>
  (string raw).refine fun text =>
    if utf16Length text < 32 then
      ["must be at least 32 characters — generate with `openssl rand -base64 48`"]
    else []

/-- `z.string().default(value)` made of one of the rewritings. -/
def rewritten (defaultValue : String) (rewrite : String → String) : FieldSchema String :=
  fun raw => (withDefault (.string defaultValue) string raw).transform rewrite

section

variable (runtime : NodeRuntime)

/-- `z.coerce.number()` with its checks. -/
def coerceNumber (checks : List NumberCheck) : FieldSchema Number := fun raw =>
  match converted raw with
  | none => .invalid "Expected number, received nan"
  | some value => (Outcome.valid value).refine fun value => checks.flatMap (·.issues value)
where
  converted : Option RawValue → Option Number
    | none => none
    | some (.string text) => runtime.toNumber text
    | some (.number value) => value
    | some (.boolean value) => if value then some 1 else some 0
    | some .null => some 0
    | some (.other _ value) => value

def numberWithDefault (defaultValue : Nat) (checks : List NumberCheck) : FieldSchema Number :=
  withDefault (.number (some (.finite defaultValue))) (coerceNumber runtime checks)

/-- Accepts the spellings people actually write in a .env file. -/
def booleanish (defaultValue : Bool) : FieldSchema Bool := fun raw =>
  let lowered := withDefault (.string (toString defaultValue))
    (fun raw => (string raw).map fun text => runtime.toLowerCase (jsTrim text)) raw
  (lowered.refine fun text =>
    if text ∈ ["true", "false", "1", "0", "yes", "no", "on", "off"] then []
    else ["must be a boolean (true/false, 1/0, yes/no, on/off)"]).transform
      fun text => decide (text ∈ ["true", "1", "yes", "on"])

/-- A URL of one of two schemes. -/
def connectionUrl (schemes : List String) (message : String) : FieldSchema String := fun raw =>
  ((string raw).refine fun text =>
    if (runtime.parseUrl text).isSome then [] else ["must be a valid URL"]).refine fun text =>
      if schemes.any (startsWith text) then [] else [message]

end

/-! The object, in the sections it is written in. -/

inductive NodeEnv where
  | development | test | production
deriving DecidableEq, Repr

inductive HasherAlgorithm where
  | argon2 | bcrypt
deriving DecidableEq, Repr

inductive SameSite where
  | lax | strict | none
deriving DecidableEq, Repr

inductive LogLevel where
  | fatal | error | warn | info | debug | trace | silent
deriving DecidableEq, Repr

structure ApplicationEnv where
  nodeEnv : NodeEnv
  appName : String
  appPort : Number
  appHost : String
  apiPrefix : String
  apiVersion : String
  shutdownTimeoutMs : Number

structure DatabaseEnv where
  databaseUrl : String
  databasePoolSize : Number
  databaseConnectTimeoutS : Number
  databaseStatementTimeoutMs : Number
  databaseLogQueries : Bool

structure RedisEnv where
  redisUrl : String
  redisKeyPrefix : String
  redisTls : Bool
  cacheDefaultTtlS : Number

structure AuthEnv where
  jwtAccessSecret : String
  jwtRefreshSecret : String
  jwtAccessTtlS : Number
  jwtRefreshTtlS : Number
  jwtIssuer : String
  jwtAudience : String
  passwordHasherAlgorithm : HasherAlgorithm
  argon2MemoryCostKib : Number
  argon2TimeCost : Number
  argon2Parallelism : Number
  bcryptCostRounds : Number

structure CookiesEnv where
  authCookieEnabled : Bool
  authCookieDomain : Option String
  authCookieSecure : Bool
  authCookieSameSite : SameSite

structure HttpEnv where
  corsOrigins : List String
  corsCredentials : Bool
  trustProxy : Number

structure RateLimitingEnv where
  throttleTtlS : Number
  throttleLimit : Number
  authThrottleLimit : Number

structure ObservabilityEnv where
  logLevel : LogLevel
  logPretty : Bool
  inlineLogsEnabled : Bool
  metricsEnabled : Bool
  metricsPath : String
  swaggerEnabled : Bool
  swaggerPath : String

structure WebSocketsEnv where
  wsEnabled : Bool
  wsPath : String
  wsCorsOrigins : List String

structure Env extends ApplicationEnv, DatabaseEnv, RedisEnv, AuthEnv, CookiesEnv, HttpEnv,
  RateLimitingEnv, ObservabilityEnv, WebSocketsEnv

def field {α : Type} (key : String) (schema : FieldSchema α) (raw : RawEnv) : Outcome Issue α :=
  (schema (raw key)).relabel fun message => { path := [key], message }

section

variable (runtime : NodeRuntime) (raw : RawEnv)

def applicationEnv : Outcome Issue ApplicationEnv :=
  Outcome.valid ApplicationEnv.mk
    |>.seq (field "NODE_ENV" (withDefault (.string "development")
        («enum» [("development", .development), ("test", .test), ("production", .production)])) raw)
    |>.seq (field "APP_NAME" (withDefault (.string "tenantos-backend") nonEmpty) raw)
    |>.seq (field "APP_PORT" (numberWithDefault runtime 3000 port) raw)
    |>.seq (field "APP_HOST" (withDefault (.string "0.0.0.0") nonEmpty) raw)
    |>.seq (field "API_PREFIX" (rewritten "api" stripSlashes) raw)
    |>.seq (field "API_VERSION" (withDefault (.string "1") fun raw =>
        (string raw).refine fun text =>
          if text ≠ "" ∧ text.toList.all Char.isDigit then [] else ["must be a whole number"]) raw)
    |>.seq (field "SHUTDOWN_TIMEOUT_MS"
        (numberWithDefault runtime 10000 (positiveInt ++ [.max 120000])) raw)

def databaseEnv : Outcome Issue DatabaseEnv :=
  Outcome.valid DatabaseEnv.mk
    |>.seq (field "DATABASE_URL" (connectionUrl runtime ["postgres://", "postgresql://"]
        "must be a postgres:// or postgresql:// connection string") raw)
    |>.seq (field "DATABASE_POOL_SIZE"
        (numberWithDefault runtime 10 (positiveInt ++ [.max 200])) raw)
    |>.seq (field "DATABASE_CONNECT_TIMEOUT_S"
        (numberWithDefault runtime 10 (positiveInt ++ [.max 120])) raw)
    |>.seq (field "DATABASE_STATEMENT_TIMEOUT_MS"
        (numberWithDefault runtime 15000 (positiveInt ++ [.max 600000])) raw)
    |>.seq (field "DATABASE_LOG_QUERIES" (booleanish runtime false) raw)

def redisEnv : Outcome Issue RedisEnv :=
  Outcome.valid RedisEnv.mk
    |>.seq (field "REDIS_URL" (connectionUrl runtime ["redis://", "rediss://"]
        "must be a redis:// or rediss:// connection string") raw)
    |>.seq (field "REDIS_KEY_PREFIX" (withDefault (.string "tenantos") nonEmpty) raw)
    |>.seq (field "REDIS_TLS" (booleanish runtime false) raw)
    |>.seq (field "CACHE_DEFAULT_TTL_S"
        (numberWithDefault runtime 60 (positiveInt ++ [.max 86400])) raw)

def authEnv : Outcome Issue AuthEnv :=
  Outcome.valid AuthEnv.mk
    |>.seq (field "JWT_ACCESS_SECRET" secret raw)
    |>.seq (field "JWT_REFRESH_SECRET" secret raw)
    |>.seq (field "JWT_ACCESS_TTL_S"
        (numberWithDefault runtime 900 (positiveInt ++ [.max 3600])) raw)
    |>.seq (field "JWT_REFRESH_TTL_S"
        (numberWithDefault runtime 2592000 (positiveInt ++ [.max 31536000])) raw)
    |>.seq (field "JWT_ISSUER" (withDefault (.string "tenantos") nonEmpty) raw)
    |>.seq (field "JWT_AUDIENCE" (withDefault (.string "tenantos-api") nonEmpty) raw)
    |>.seq (field "PASSWORD_HASHER_ALGORITHM" (withDefault (.string "argon2")
        («enum» [("argon2", .argon2), ("bcrypt", .bcrypt)])) raw)
    |>.seq (field "ARGON2_MEMORY_COST_KIB" (numberWithDefault runtime 19456
        (positiveInt ++ [.min 8192 true, .max 1048576])) raw)
    |>.seq (field "ARGON2_TIME_COST"
        (numberWithDefault runtime 2 (positiveInt ++ [.min 1 true, .max 10])) raw)
    |>.seq (field "ARGON2_PARALLELISM"
        (numberWithDefault runtime 1 (positiveInt ++ [.min 1 true, .max 16])) raw)
    |>.seq (field "BCRYPT_COST_ROUNDS"
        (numberWithDefault runtime 12 (positiveInt ++ [.min 10 true, .max 15])) raw)

def cookiesEnv : Outcome Issue CookiesEnv :=
  Outcome.valid CookiesEnv.mk
    |>.seq (field "AUTH_COOKIE_ENABLED" (booleanish runtime true) raw)
    |>.seq (field "AUTH_COOKIE_DOMAIN" optionalString raw)
    |>.seq (field "AUTH_COOKIE_SECURE" (booleanish runtime false) raw)
    |>.seq (field "AUTH_COOKIE_SAME_SITE" (withDefault (.string "lax")
        («enum» [("lax", .lax), ("strict", .strict), ("none", .none)])) raw)

def httpEnv : Outcome Issue HttpEnv :=
  Outcome.valid HttpEnv.mk
    |>.seq (field "CORS_ORIGINS" (csv "http://localhost:3000") raw)
    |>.seq (field "CORS_CREDENTIALS" (booleanish runtime true) raw)
    |>.seq (field "TRUST_PROXY"
        (numberWithDefault runtime 1 [.int, .min 0 true, .max 10]) raw)

def rateLimitingEnv : Outcome Issue RateLimitingEnv :=
  Outcome.valid RateLimitingEnv.mk
    |>.seq (field "THROTTLE_TTL_S"
        (numberWithDefault runtime 60 (positiveInt ++ [.max 3600])) raw)
    |>.seq (field "THROTTLE_LIMIT" (numberWithDefault runtime 120 positiveInt) raw)
    |>.seq (field "AUTH_THROTTLE_LIMIT" (numberWithDefault runtime 10 positiveInt) raw)

def observabilityEnv : Outcome Issue ObservabilityEnv :=
  Outcome.valid ObservabilityEnv.mk
    |>.seq (field "LOG_LEVEL" (withDefault (.string "info")
        («enum» [("fatal", .fatal), ("error", .error), ("warn", .warn), ("info", .info),
          ("debug", .debug), ("trace", .trace), ("silent", .silent)])) raw)
    |>.seq (field "LOG_PRETTY" (booleanish runtime false) raw)
    |>.seq (field "INLINE_LOGS_ENABLED" (booleanish runtime false) raw)
    |>.seq (field "METRICS_ENABLED" (booleanish runtime true) raw)
    |>.seq (field "METRICS_PATH" (rewritten "/metrics" withLeadingSlash) raw)
    |>.seq (field "SWAGGER_ENABLED" (booleanish runtime true) raw)
    |>.seq (field "SWAGGER_PATH" (rewritten "docs" stripSlashes) raw)

def webSocketsEnv : Outcome Issue WebSocketsEnv :=
  Outcome.valid WebSocketsEnv.mk
    |>.seq (field "WS_ENABLED" (booleanish runtime true) raw)
    |>.seq (field "WS_PATH" (rewritten "/ws" withLeadingSlash) raw)
    |>.seq (field "WS_CORS_ORIGINS" (csv "") raw)

def envObject : Outcome Issue Env :=
  Outcome.valid Env.mk
    |>.seq (applicationEnv runtime raw)
    |>.seq (databaseEnv runtime raw)
    |>.seq (redisEnv runtime raw)
    |>.seq (authEnv runtime raw)
    |>.seq (cookiesEnv runtime raw)
    |>.seq (httpEnv runtime raw)
    |>.seq (rateLimitingEnv runtime raw)
    |>.seq (observabilityEnv runtime raw)
    |>.seq (webSocketsEnv runtime raw)

end

/-! The invariants between variables. -/

def failIf (condition : Prop) [Decidable condition] (path message : String) : List Issue :=
  if condition then [{ path := [path], message }] else []

def placeholderSecretMarkers : List String :=
  ["change-me", "dev-only", "test-only", "secret", "password"]

/-- `text.includes(part)` -/
def includes (text part : String) : Bool :=
  decide (part.toList <:+: text.toList)

def looksLikePlaceholder (runtime : NodeRuntime) (secret : String) : Bool :=
  placeholderSecretMarkers.any (includes (runtime.toLowerCase secret))

def productionIssues (runtime : NodeRuntime) (env : Env) : List Issue :=
  failIf (looksLikePlaceholder runtime env.jwtAccessSecret) "JWT_ACCESS_SECRET"
    "looks like a placeholder — refusing to boot production with a known secret" ++
  failIf (looksLikePlaceholder runtime env.jwtRefreshSecret) "JWT_REFRESH_SECRET"
    "looks like a placeholder — refusing to boot production with a known secret" ++
  failIf (env.authCookieEnabled ∧ ¬ env.authCookieSecure) "AUTH_COOKIE_SECURE"
    "must be true in production (auth cookies over plaintext HTTP)" ++
  failIf ("*" ∈ env.corsOrigins) "CORS_ORIGINS"
    "wildcard origin is not allowed in production" ++
  failIf (env.corsOrigins.any fun origin => startsWith origin "http://") "CORS_ORIGINS"
    "plaintext http:// origins are not allowed in production" ++
  failIf env.logPretty "LOG_PRETTY"
    "must be false in production (log shippers expect newline-delimited JSON)" ++
  failIf env.inlineLogsEnabled "INLINE_LOGS_ENABLED"
    "must be false in production (bypasses log redaction and JSON framing)" ++
  failIf env.databaseLogQueries "DATABASE_LOG_QUERIES"
    "must be false in production (leaks row data into logs)"

def superRefine (runtime : NodeRuntime) (env : Env) : List Issue :=
  failIf (env.jwtAccessSecret = env.jwtRefreshSecret) "JWT_REFRESH_SECRET"
    "must differ from JWT_ACCESS_SECRET" ++
  failIf (env.jwtRefreshTtlS.le env.jwtAccessTtlS) "JWT_REFRESH_TTL_S"
    "must be greater than JWT_ACCESS_TTL_S" ++
  failIf (env.authCookieSameSite = .none ∧ ¬ env.authCookieSecure) "AUTH_COOKIE_SECURE"
    "must be true when AUTH_COOKIE_SAME_SITE=none" ++
  if env.nodeEnv = .production then productionIssues runtime env else []

def envSchema (runtime : NodeRuntime) (raw : RawEnv) : Outcome Issue Env :=
  (envObject runtime raw).refine (superRefine runtime)

/-- One line for each problem. -/
def report (issues : List Issue) : String :=
  let count := toString issues.length
  let details := issues.map fun issue =>
    let path := ".".intercalate issue.path
    "  • " ++ (if path = "" then "(root)" else path) ++ ": " ++ issue.message
  "Invalid environment configuration (" ++ count ++ " problem(s)):\n" ++
    "\n".intercalate details ++ "\n\n" ++
    "See .env.example / docs/ENVIRONMENT.md for the expected values."

/-- Parses the environment; refused, it throws one readable error listing every problem. -/
def validateEnv (runtime : NodeRuntime) (raw : RawEnv) : Except String Env :=
  match (envSchema runtime raw).safeParse with
  | .ok env => .ok env
  | .error issues => .error (report issues)

end TenantOS.Infrastructure.Config
