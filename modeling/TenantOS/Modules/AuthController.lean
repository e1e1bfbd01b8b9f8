import TenantOS.Application.AuthUseCases

/-! The authentication endpoints, and the guard in front of those that are not public.
A session's tokens travel as cookies or in the body, as `AUTH_COOKIE_ENABLED` says.
Each handler is cut at the call of its use case: the command it hands over, and the
reply it makes of the result. -/
namespace TenantOS.Modules

open TenantOS.Domain TenantOS.Interleaving TenantOS.Application

/-- The cookies `tos_at` and `tos_rt`. -/
structure AuthCookies where
  accessToken : Option AccessTokenClaims
  refreshToken : Option String
deriving DecidableEq, Repr

def AuthCookies.empty : AuthCookies := ⟨none, none⟩

/-- What guard and handlers read of a request, its body aside. -/
structure AuthRequest where
  cookies : AuthCookies
  /-- The token of `Authorization: Bearer`. -/
  bearer : Option AccessTokenClaims
  ip : Option String
  userAgent : Option String
deriving DecidableEq, Repr

structure LoginDto where
  email : String
  password : String
deriving DecidableEq, Repr

structure RefreshTokenDto where
  refreshToken : Option String
deriving DecidableEq, Repr

structure AuthResponse where
  accessToken : AccessTokenClaims
  refreshToken : Option String
  tokenType : String
  expiresIn : Int
  principal : AuthenticatedPrincipal
deriving DecidableEq, Repr

def AuthResponse.«from» (result : AuthenticationResult) (includeRefreshToken : Bool) :
    AuthResponse where
  accessToken := result.tokens.accessToken
  refreshToken := if includeRefreshToken then some result.tokens.refreshToken else none
  tokenType := result.tokens.tokenType
  expiresIn := result.tokens.expiresIn
  principal := result.principal

/-! The cookies a client holds after a reply. -/

namespace AuthCookieService

variable (enabled : Bool)

def setAuthCookies (accessToken : AccessTokenClaims) (refreshToken : String)
    (cookies : AuthCookies) : AuthCookies :=
  if !enabled then cookies else ⟨some accessToken, some refreshToken⟩

def clearAuthCookies (cookies : AuthCookies) : AuthCookies :=
  if !enabled then cookies else .empty

end AuthCookieService

namespace AuthController

def fingerprintOf (request : AuthRequest) : ClientFingerprint where
  ipAddress := request.ip
  userAgent := request.userAgent

def login (dto : LoginDto) (request : AuthRequest) : LoginCommand where
  email := dto.email
  password := dto.password
  fingerprint := fingerprintOf request

/-- Cookie first. -/
def refresh (dto : RefreshTokenDto) (request : AuthRequest) :
    Except DomainError RefreshTokensCommand :=
  match request.cookies.refreshToken <|> dto.refreshToken with
  | none => .error (invalidTokenError "No refresh token supplied")
  | some token =>
    if token = "" then .error (invalidTokenError "No refresh token supplied")
    else .ok ⟨token, fingerprintOf request⟩

/-- The body is not read. -/
def logout (user : AuthenticatedUser) (request : AuthRequest) : LogoutCommand where
  userId := user.userId
  refreshToken := request.cookies.refreshToken.filter fun token => token ≠ ""
  accessTokenJti := some user.jti
  accessTokenExpiresAt := some user.tokenExpiresAt

def respondWithTokens (enabled : Bool) (result : AuthenticationResult) (cookies : AuthCookies) :
    AuthResponse × AuthCookies :=
  (.from result !enabled, AuthCookieService.setAuthCookies enabled result.tokens.accessToken
    result.tokens.refreshToken cookies)

end AuthController

/-! The guard. -/

namespace JwtStrategy

/-- The cookie is checked first. -/
def jwtFromRequest (request : AuthRequest) : Option AccessTokenClaims :=
  request.cookies.accessToken <|> request.bearer

/-- What Passport checks of a signed token before `validate` runs. -/
def verify (host : Host) (claims : AccessTokenClaims) (now : Date) : Except DomainError Unit :=
  if claims.exp ≤ now / 1000 then .error tokenExpiredError
  else if claims.aud ≠ host.audience || claims.iss ≠ host.issuer then
    .error (invalidTokenError "No valid access token was supplied")
  else .ok ()

end JwtStrategy

/-- The guard of a route that is not public, with Passport's failures translated. -/
def JwtAuthGuard.canActivate (host : Host) (request : AuthRequest) : UseCase AuthenticatedUser :=
  match JwtStrategy.jwtFromRequest request with
  | none => throw (.domain (invalidTokenError "No valid access token was supplied"))
  | some claims => do
    let time ← runtime.now
    check (JwtStrategy.verify host claims time)
    Application.JwtStrategy.validate claims

end TenantOS.Modules
