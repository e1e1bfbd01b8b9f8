import TenantOS.Infrastructure.AppConfigService
import TenantOS.Modules.AuthController

/-! The cookies a reply sets, with the options the browser keeps them under. -/
namespace TenantOS.Modules.Response
open Infrastructure.Config

structure CookieOptions where
  httpOnly : Bool
  secure : Bool
  sameSite : SameSite
  domain : Option String
  /-- In milliseconds. -/
  maxAge : Option Number
  path : String

structure Cookie where
  name : String
  value : String
  options : CookieOptions

/-- Under which a browser keeps a cookie: what has the same three replaces it. -/
def Cookie.key (cookie : Cookie) : String × Option String × String :=
  (cookie.name, cookie.options.domain, cookie.options.path)

namespace COOKIE

def accessToken : String := "tos_at"

def refreshToken : String := "tos_rt"

end COOKIE

structure Tokens where
  accessToken : String
  refreshToken : String

namespace AuthCookieService

variable (config : AppConfigService)

def enabled : Bool := config.cookies.enabled

/-- A domain that is empty is not sent. -/
def baseOptions (path : String) (maxAge : Option Number) : CookieOptions where
  httpOnly := true
  secure := config.cookies.secure
  sameSite := config.cookies.sameSite
  domain := config.cookies.domain.filter fun domain => domain ≠ ""
  maxAge := maxAge
  path := path

/-- Narrow path: the refresh token is only ever presented to the refresh and logout
endpoints. -/
def refreshPath : String := config.apiBasePath ++ "/auth"

def setAuthCookies (tokens : Tokens) : List Cookie :=
  if !enabled config then []
  else [
    { name := COOKIE.accessToken
      value := tokens.accessToken
      options := baseOptions config "/" (some (config.jwt.accessTtlS.times 1000)) },
    { name := COOKIE.refreshToken
      value := tokens.refreshToken
      options := baseOptions config (refreshPath config)
        (some (config.jwt.refreshTtlS.times 1000)) }]

/-- `clearCookie` sets an empty value that has expired. -/
def clearAuthCookies : List Cookie :=
  if !enabled config then []
  else [
    { name := COOKIE.accessToken
      value := ""
      options := baseOptions config "/" none },
    { name := COOKIE.refreshToken
      value := ""
      options := baseOptions config (refreshPath config) none }]

/-- The clear matches what was set exactly, or the browser keeps the cookie. -/
theorem key_clearAuthCookies (tokens : Tokens) :
    (clearAuthCookies config).map Cookie.key = (setAuthCookies config tokens).map Cookie.key := by
  unfold clearAuthCookies setAuthCookies
  split <;> rfl

variable {config}

theorem refresh_cookie_set (enabled : config.cookies.enabled = true) (tokens : Tokens) :
    ∃ cookie ∈ setAuthCookies config tokens, cookie.name = COOKIE.refreshToken := by
  simp [setAuthCookies, AuthCookieService.enabled, enabled]

theorem enabled_of_mem {tokens : Tokens} {cookie : Cookie}
    (mem : cookie ∈ setAuthCookies config tokens) : config.cookies.enabled = true := by
  by_contra disabled
  simp [setAuthCookies, enabled, disabled] at mem

theorem path_of_refresh_cookie {tokens : Tokens} {cookie : Cookie}
    (mem : cookie ∈ setAuthCookies config tokens) (name : cookie.name = COOKIE.refreshToken) :
    cookie.options.path = refreshPath config := by
  unfold setAuthCookies at mem
  split at mem
  · cases mem
  · simp only [List.mem_cons, List.not_mem_nil, or_false] at mem
    rcases mem with rfl | rfl
    · simp [COOKIE.accessToken, COOKIE.refreshToken] at name
    · rfl

/-! What the browser holds after a reply. -/

/-- A cookie without an age is one that is cleared. -/
def heldAfter (cookies : List Cookie) (name : String) (before : Option String) : Option String :=
  match cookies.find? fun cookie => cookie.name = name with
  | some cookie => cookie.options.maxAge.map fun _ => cookie.value
  | none => before

theorem refreshToken_after_set (tokens : Tokens) (accessToken : Application.AccessTokenClaims)
    (before : AuthCookies) :
    heldAfter (setAuthCookies config tokens) COOKIE.refreshToken before.refreshToken =
      (Modules.AuthCookieService.setAuthCookies config.cookies.enabled accessToken
        tokens.refreshToken before).refreshToken := by
  cases set : config.cookies.enabled with
  | false =>
    simp [setAuthCookies, Modules.AuthCookieService.setAuthCookies, enabled, set, heldAfter]
  | true =>
    simp [setAuthCookies, Modules.AuthCookieService.setAuthCookies, enabled, set, heldAfter,
      COOKIE.accessToken, COOKIE.refreshToken, baseOptions]

theorem refreshToken_after_clear (before : AuthCookies) :
    heldAfter (clearAuthCookies config) COOKIE.refreshToken before.refreshToken =
      (Modules.AuthCookieService.clearAuthCookies config.cookies.enabled before).refreshToken := by
  cases set : config.cookies.enabled with
  | false =>
    simp [clearAuthCookies, Modules.AuthCookieService.clearAuthCookies, enabled, set, heldAfter]
  | true =>
    simp [clearAuthCookies, Modules.AuthCookieService.clearAuthCookies, enabled, set, heldAfter,
      COOKIE.accessToken, COOKIE.refreshToken, baseOptions, AuthCookies.empty]

end AuthCookieService

end TenantOS.Modules.Response
