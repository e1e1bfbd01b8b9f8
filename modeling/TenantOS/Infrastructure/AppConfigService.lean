import TenantOS.Infrastructure.EnvSchema

/-! The façade over the validated environment, assembled once. -/
namespace TenantOS.Infrastructure.Config

structure AppConfig where
  name : String
  port : Number
  host : String
  apiPrefix : String
  apiVersion : String
  shutdownTimeoutMs : Number
  trustProxy : Number

structure DatabaseConfig where
  url : String
  poolSize : Number
  connectTimeoutS : Number
  statementTimeoutMs : Number
  logQueries : Bool

structure RedisConfig where
  url : String
  keyPrefix : String
  tls : Bool
  defaultTtlS : Number

structure JwtConfig where
  accessSecret : String
  refreshSecret : String
  accessTtlS : Number
  refreshTtlS : Number
  issuer : String
  audience : String

structure Argon2Config where
  memoryCost : Number
  timeCost : Number
  parallelism : Number

structure CookiesConfig where
  enabled : Bool
  domain : Option String
  secure : Bool
  sameSite : SameSite

structure CorsConfig where
  origins : List String
  credentials : Bool

structure ThrottleConfig where
  ttlS : Number
  limit : Number
  authLimit : Number

structure LoggingConfig where
  level : LogLevel
  pretty : Bool
  inlined : Bool

structure ObservabilityConfig where
  metricsEnabled : Bool
  metricsPath : String
  swaggerEnabled : Bool
  swaggerPath : String

structure WebSocketConfig where
  enabled : Bool
  path : String
  corsOrigins : List String

structure AppConfigService where
  nodeEnv : NodeEnv
  app : AppConfig
  database : DatabaseConfig
  redis : RedisConfig
  jwt : JwtConfig
  passwordHashing : HasherAlgorithm
  argon2 : Argon2Config
  bcryptCostRounds : Number
  cookies : CookiesConfig
  cors : CorsConfig
  throttle : ThrottleConfig
  logging : LoggingConfig
  observability : ObservabilityConfig
  websocket : WebSocketConfig

/-- `String(value)` of a number. The schema lets through integers alone. -/
def Number.toString : Number → String
  | .negInfinity => "-Infinity"
  | .finite value => if value.den = 1 then ToString.toString value.num else ToString.toString value
  | .infinity => "Infinity"

/-- `if (!params.has(name)) params.set(name, value)` -/
def setUnlessPresent (name value : String) (params : List (String × String)) :
    List (String × String) :=
  if params.any fun param => param.1 = name then params else params ++ [(name, value)]

/-- `new URL` throws where there is none. -/
def buildDatabaseUrl (runtime : NodeRuntime) (rawUrl : String)
    (poolSize connectTimeoutS statementTimeoutMs : Number) : Except String String :=
  match runtime.parseUrl rawUrl with
  | none => .error "Invalid URL"
  | some url =>
      let params := runtime.searchParams url
        |> setUnlessPresent "connection_limit" poolSize.toString
        |> setUnlessPresent "connect_timeout" connectTimeoutS.toString
        |> setUnlessPresent "pool_timeout" "10"
        |> setUnlessPresent "options" ("-c statement_timeout=" ++ statementTimeoutMs.toString)
      .ok (runtime.withSearch url params)

namespace AppConfigService

def assemble (env : Env) (databaseUrl : String) : AppConfigService where
  nodeEnv := env.nodeEnv
  app := {
    name := env.appName
    port := env.appPort
    host := env.appHost
    apiPrefix := env.apiPrefix
    apiVersion := env.apiVersion
    shutdownTimeoutMs := env.shutdownTimeoutMs
    trustProxy := env.trustProxy }
  database := {
    url := databaseUrl
    poolSize := env.databasePoolSize
    connectTimeoutS := env.databaseConnectTimeoutS
    statementTimeoutMs := env.databaseStatementTimeoutMs
    logQueries := env.databaseLogQueries }
  redis := {
    url := env.redisUrl
    keyPrefix := env.redisKeyPrefix
    tls := env.redisTls
    defaultTtlS := env.cacheDefaultTtlS }
  jwt := {
    accessSecret := env.jwtAccessSecret
    refreshSecret := env.jwtRefreshSecret
    accessTtlS := env.jwtAccessTtlS
    refreshTtlS := env.jwtRefreshTtlS
    issuer := env.jwtIssuer
    audience := env.jwtAudience }
  passwordHashing := env.passwordHasherAlgorithm
  argon2 := {
    memoryCost := env.argon2MemoryCostKib
    timeCost := env.argon2TimeCost
    parallelism := env.argon2Parallelism }
  bcryptCostRounds := env.bcryptCostRounds
  cookies := {
    enabled := env.authCookieEnabled
    domain := env.authCookieDomain
    secure := env.authCookieSecure
    sameSite := env.authCookieSameSite }
  cors := { origins := env.corsOrigins, credentials := env.corsCredentials }
  throttle := {
    ttlS := env.throttleTtlS
    limit := env.throttleLimit
    authLimit := env.authThrottleLimit }
  logging := {
    level := env.logLevel
    pretty := env.logPretty
    inlined := env.inlineLogsEnabled }
  observability := {
    metricsEnabled := env.metricsEnabled
    metricsPath := env.metricsPath
    swaggerEnabled := env.swaggerEnabled
    swaggerPath := env.swaggerPath }
  websocket := {
    enabled := env.wsEnabled
    path := env.wsPath
    -- WS origins fall back to the HTTP CORS list
    corsOrigins := if env.wsCorsOrigins.length > 0 then env.wsCorsOrigins else env.corsOrigins }

/-- The prefix every controller route is mounted behind: `/api/v1` -/
def apiBasePath (config : AppConfigService) : String :=
  "/" ++ config.app.apiPrefix ++ "/v" ++ config.app.apiVersion

def new (runtime : NodeRuntime) (env : Env) : Except String AppConfigService :=
  (buildDatabaseUrl runtime env.databaseUrl env.databasePoolSize env.databaseConnectTimeoutS
    env.databaseStatementTimeoutMs).map (assemble env)

/-- A deployment on the schema's defaults, but for what is given. -/
def ofDefaults (apiPrefix : String) (cookieEnabled : Bool) : AppConfigService where
  nodeEnv := .development
  app := {
    name := "tenantos-backend"
    port := 3000
    host := "0.0.0.0"
    apiPrefix := apiPrefix
    apiVersion := "1"
    shutdownTimeoutMs := 10000
    trustProxy := 1 }
  database := {
    url := "postgres://database/tenantos"
    poolSize := 10
    connectTimeoutS := 10
    statementTimeoutMs := 15000
    logQueries := false }
  redis := { url := "redis://cache:6379", keyPrefix := "tenantos", tls := false, defaultTtlS := 60 }
  jwt := {
    accessSecret := "k3yF0rTheAccessTokens-0123456789ab"
    refreshSecret := "k3yF0rTheRefreshTokens-0123456789ab"
    accessTtlS := 900
    refreshTtlS := 2592000
    issuer := "tenantos"
    audience := "tenantos-api" }
  passwordHashing := .argon2
  argon2 := { memoryCost := 19456, timeCost := 2, parallelism := 1 }
  bcryptCostRounds := 12
  cookies := { enabled := cookieEnabled, domain := none, secure := false, sameSite := .lax }
  cors := { origins := ["http://localhost:3000"], credentials := true }
  throttle := { ttlS := 60, limit := 120, authLimit := 10 }
  logging := { level := .info, pretty := false, inlined := false }
  observability := {
    metricsEnabled := true
    metricsPath := "/metrics"
    swaggerEnabled := true
    swaggerPath := "docs" }
  websocket := { enabled := true, path := "/ws", corsOrigins := ["http://localhost:3000"] }

end AppConfigService

end TenantOS.Infrastructure.Config
