import TenantOS.Application.AuthPorts

/-! The authentication use cases, as the calls they issue in order. -/
namespace TenantOS.Application

open TenantOS.Domain TenantOS.Infrastructure TenantOS.Interleaving

abbrev UseCase (α : Type) := Program authInterface Failure α

/-- A check of the domain: its error is thrown. -/
def check (result : Except DomainError Unit) : UseCase Unit :=
  match result with
  | .ok () => pure ()
  | .error error => throw (.domain error)

/-! The ports' methods. -/

abbrev ask (c : AuthCall) : UseCase c.Reply :=
  Program.perform (I := authInterface) c

namespace refreshTokens

abbrev findByHash (tokenHash : String) : UseCase (Option RefreshToken) :=
  ask (.refreshTokens (.findByHash tokenHash))

abbrev create (token : RefreshToken) : UseCase RefreshToken :=
  ask (.refreshTokens (.create token))

abbrev consume (tokenId : Uuid) (reason : RevocationReason) (time : Date) : UseCase Bool :=
  ask (.refreshTokens (.consume tokenId reason time))

abbrev revokeFamily (familyId : Uuid) (reason : RevocationReason) (time : Date) : UseCase Nat :=
  ask (.refreshTokens (.revokeFamily familyId reason time))

abbrev revokeAllForUser (userId : Uuid) (reason : RevocationReason) (time : Date) : UseCase Nat :=
  ask (.refreshTokens (.revokeAllForUser userId reason time))

abbrev findActiveByUser (userId : Uuid) (now : Date) : UseCase (List RefreshToken) :=
  ask (.refreshTokens (.findActiveByUser userId now))

abbrev deleteExpiredBefore (cutoff : Date) : UseCase Nat :=
  ask (.refreshTokens (.deleteExpiredBefore cutoff))

end refreshTokens

namespace users

abbrev findById (id : Uuid) (includeDeleted : Bool) : UseCase (Option User) :=
  ask (.users (.findById id includeDeleted))

abbrev findByEmail (email : Email) (includeDeleted : Bool) : UseCase (Option User) :=
  ask (.users (.findByEmail email includeDeleted))

abbrev findAuthSnapshot (id : Uuid) : UseCase (Option PrismaUserRepository.AuthSnapshot) :=
  ask (.users (.findAuthSnapshot id))

abbrev save (user : User) : UseCase User :=
  ask (.users (.save user))

abbrev touchLastLogin (userId : Uuid) (time : Date) : UseCase Unit :=
  ask (.users (.touchLastLogin userId time))

end users

namespace hasher

abbrev hash (plaintext : String) : UseCase String :=
  ask (.hasher (.hash plaintext))

abbrev verify (hash plaintext : String) : UseCase Bool :=
  ask (.hasher (.verify hash plaintext))

abbrev simulateVerification : UseCase Unit :=
  ask (.hasher .simulateVerification)

end hasher

namespace redis

abbrev set (jti : Uuid) (ttlSeconds : Int) : UseCase Unit :=
  ask (.redis (.set jti ttlSeconds))

abbrev exists_ (jti : Uuid) : UseCase Bool :=
  ask (.redis (.exists jti))

end redis

namespace runtime

abbrev now : UseCase Date :=
  ask (.runtime .now)

abbrev randomUUID : UseCase Uuid :=
  ask (.runtime .randomUUID)

abbrev randomBytes : UseCase String :=
  ask (.runtime .randomBytes)

abbrev signAsync (sub : Uuid) (tv : Int) (adm : Bool) (jti : Uuid) : UseCase AccessTokenClaims :=
  ask (.runtime (.signAsync sub tv adm jti))

end runtime

structure IssuedTokenPair where
  accessToken : AccessTokenClaims
  refreshToken : String
  tokenType : String
  expiresIn : Int
  refreshExpiresIn : Int
deriving DecidableEq, Repr

structure AuthenticatedPrincipal where
  userId : Uuid
  email : String
  displayName : String
  isPlatformAdmin : Bool
deriving DecidableEq, Repr

structure AuthenticationResult where
  tokens : IssuedTokenPair
  principal : AuthenticatedPrincipal
deriving DecidableEq, Repr

/-! The token service. -/

structure IssuedAccessToken where
  token : AccessTokenClaims
  jti : Uuid
  expiresAt : Date
  expiresInSeconds : Int

section

variable (host : Host)

def issueAccessToken (user : User) : UseCase IssuedAccessToken := do
  let jti ← runtime.randomUUID
  let token ← runtime.signAsync user.id user.tokenVersion user.isPlatformAdmin jti
  let issuedAt ← runtime.now
  pure ⟨token, jti, issuedAt + host.accessTtlS * 1000, host.accessTtlS⟩

def buildAuthenticationResult (user : User) : UseCase AuthenticationResult := do
  let access ← issueAccessToken host user
  let raw ← runtime.randomBytes
  pure {
    tokens := {
      accessToken := access.token
      refreshToken := raw
      tokenType := "Bearer"
      expiresIn := access.expiresInSeconds
      refreshExpiresIn := host.refreshTtlS }
    principal := {
      userId := user.id
      email := user.email.value
      displayName := user.displayName
      isPlatformAdmin := user.isPlatformAdmin } }

/-! Login. -/

structure LoginCommand where
  email : String
  password : String
  fingerprint : ClientFingerprint
deriving DecidableEq, Repr

namespace LoginUseCase

/-- Burn the same CPU a real verification would, then fail identically. -/
def rejectUnknown : UseCase AuthenticationResult := do
  hasher.simulateVerification
  throw (.domain invalidCredentialsError)

/-- The hash is upgraded while the plaintext is at hand. -/
def upgradeHash (user : User) (passwordHash plaintext : String) : UseCase User := do
  if host.needsRehash passwordHash then
    let hash ← hasher.hash plaintext
    let time ← runtime.now
    let upgraded := user.upgradePasswordHash hash time
    let _ ← users.save upgraded
    pure upgraded
  else
    pure user

/-- A login opens a family of its own. -/
def openSession (user : User) (fingerprint : ClientFingerprint) : UseCase AuthenticationResult := do
  let result ← buildAuthenticationResult host user
  let time ← runtime.now
  let id ← runtime.randomUUID
  let familyId ← runtime.randomUUID
  let _ ← refreshTokens.create (.issue id user.id familyId
    (host.sha256Hex result.tokens.refreshToken) host.refreshTtlS fingerprint time)
  let loggedInAt ← runtime.now
  users.touchLastLogin user.id loggedInAt
  pure result

def execute (command : LoginCommand) : UseCase AuthenticationResult :=
  match Email.create host.toLowerCase command.email with
  | .error error => throw (.domain error)
  | .ok email => do
    let found ← users.findByEmail email false
    match found with
    | none => rejectUnknown
    | some user =>
      match user.passwordHash with
      | none => rejectUnknown
      | some passwordHash => do
        let passwordMatches ← hasher.verify passwordHash command.password
        if !passwordMatches then
          throw (.domain invalidCredentialsError)
        else do
          check user.assertCanAuthenticate
          let user ← upgradeHash host user passwordHash command.password
          openSession host user command.fingerprint

end LoginUseCase

/-! Refresh. -/

structure RefreshTokensCommand where
  refreshToken : String
  fingerprint : ClientFingerprint
deriving DecidableEq, Repr

namespace RefreshTokensUseCase

/-- Committed before the throw, and outside any transaction. -/
def detectedReuse (familyId : Uuid) (time : Date) : UseCase AuthenticationResult := do
  let _ ← refreshTokens.revokeFamily familyId .reuseDetected time
  throw (.domain refreshTokenReusedError)

/-- The successor joins the family of the token it replaces. -/
def issueSuccessor (user : User) (stored : RefreshToken) (fingerprint : ClientFingerprint)
    (time : Date) : UseCase AuthenticationResult := do
  let result ← buildAuthenticationResult host user
  let id ← runtime.randomUUID
  let _ ← refreshTokens.create (.issue id user.id stored.familyId
    (host.sha256Hex result.tokens.refreshToken) host.refreshTtlS fingerprint time)
  pure result

def execute (command : RefreshTokensCommand) : UseCase AuthenticationResult := do
  let time ← runtime.now
  let found ← refreshTokens.findByHash (host.sha256Hex command.refreshToken)
  match found with
  | none => throw (.domain (invalidTokenError "Unknown refresh token"))
  | some stored =>
    if stored.isRevoked then detectedReuse stored.familyId time
    else if stored.isExpired time then throw (.domain tokenExpiredError)
    else do
      let won ← refreshTokens.consume stored.id .rotated time
      if !won then detectedReuse stored.familyId time
      else do
        let found ← users.findById stored.userId false
        match found with
        | none => throw (.domain (userNotFoundError stored.userId))
        | some user => do
          check user.assertCanAuthenticate
          issueSuccessor host user stored command.fingerprint time

end RefreshTokensUseCase

/-! Logout. -/

structure LogoutCommand where
  userId : Uuid
  refreshToken : Option String
  accessTokenJti : Option Uuid
  accessTokenExpiresAt : Option Date
deriving DecidableEq, Repr

namespace TokenDenylistService

def add (jti : Uuid) (expiresAt : Date) : UseCase Unit := do
  let time ← runtime.now
  -- `Math.ceil` of the remaining seconds
  let ttlSeconds := -((time - expiresAt) / 1000)
  if ttlSeconds ≤ 0 then pure ()
  else tryCatch (redis.set jti ttlSeconds) fun _ =>
    throw (.infrastructure .cacheUnavailable "Could not revoke the token")

/-- Fails closed. -/
def has (jti : Uuid) : UseCase Bool :=
  tryCatch (redis.exists_ jti) fun _ => pure true

end TokenDenylistService

namespace LogoutUseCase

def denylistAccessToken (command : LogoutCommand) : UseCase Unit :=
  match command.accessTokenJti, command.accessTokenExpiresAt with
  | some jti, some expiresAt =>
      if jti = "" then pure ()
      else tryCatch (TokenDenylistService.add jti expiresAt) fun _ => pure ()
  | _, _ => pure ()

/-- The family is revoked, not just the row. -/
def revokeSession (command : LogoutCommand) (time : Date) : UseCase Unit :=
  match command.refreshToken with
  | none => pure ()
  | some refreshToken =>
      if refreshToken = "" then pure ()
      else do
        let found ← refreshTokens.findByHash (host.sha256Hex refreshToken)
        match found with
        | none => pure ()
        | some stored =>
            if stored.userId = command.userId then do
              let _ ← refreshTokens.revokeFamily stored.familyId .logout time
              pure ()
            else pure ()

def execute (command : LogoutCommand) : UseCase Unit := do
  let time ← runtime.now
  revokeSession host command time
  denylistAccessToken command

/-- The second half of `executeAll`: `tokenVersion` is bumped and saved. -/
def invalidateAccessTokens (userId : Uuid) : UseCase Unit := do
  let found ← users.findById userId false
  match found with
  | none => pure ()
  | some user => do
    let time ← runtime.now
    let _ ← users.save (user.invalidateSessions time)
    pure ()

def executeAll (command : LogoutCommand) : UseCase Unit := do
  let time ← runtime.now
  let _ ← refreshTokens.revokeAllForUser command.userId .logoutAll time
  invalidateAccessTokens command.userId
  denylistAccessToken command

end LogoutUseCase

/-! Password change. -/

structure ChangePasswordCommand where
  userId : Uuid
  currentPassword : String
  newPassword : String
deriving DecidableEq, Repr

namespace UpdateUserUseCase

/-- Ordered after the save on purpose: revoking first and then failing the write
would sign the user out while leaving the old password working. -/
def storePassword (user : User) (newPassword : Password) : UseCase Unit := do
  let hash ← hasher.hash newPassword.value
  let time ← runtime.now
  let _ ← users.save (user.setPasswordHash hash time)
  let revokedAt ← runtime.now
  let _ ← refreshTokens.revokeAllForUser user.id .passwordChanged revokedAt
  pure ()

/-- The policy is applied once the caller has proved the old password. -/
def replacePassword (user : User) (passwordHash newPassword : String) : UseCase Unit :=
  match Password.create host.toLowerCase newPassword with
  | .error error => throw (.domain error)
  | .ok newPassword => do
    let isReuse ← hasher.verify passwordHash newPassword.value
    if isReuse then throw (.domain passwordReusedError)
    else storePassword user newPassword

def changePassword (command : ChangePasswordCommand) : UseCase Unit := do
  let found ← users.findById command.userId false
  match found with
  | none => throw (.domain (userNotFoundError command.userId))
  | some user =>
    match user.passwordHash with
    | none => throw (.domain passwordNotSetError)
    | some passwordHash => do
      let currentMatches ← hasher.verify passwordHash command.currentPassword
      if !currentMatches then throw (.domain currentPasswordIncorrectError)
      else replacePassword host user passwordHash command.newPassword

end UpdateUserUseCase

/-! Housekeeping, and any other holder of the user repository. -/

def deleteExpiredBefore (cutoff : Date) : UseCase Nat :=
  refreshTokens.deleteExpiredBefore cutoff

structure SessionResponse where
  id : Uuid
  createdAt : Date
  expiresAt : Date
  userAgent : Option String
  ipAddress : Option String
  current : Bool
deriving DecidableEq, Repr

/-- `GET /auth/sessions`; the cookie tells which entry is the caller's own. -/
def AuthController.sessions (userId : Uuid) (cookie : Option String) :
    UseCase (List SessionResponse) := do
  let time ← runtime.now
  let active ← refreshTokens.findActiveByUser userId time
  let currentHash := (cookie.filter fun raw => raw ≠ "").map host.sha256Hex
  pure (active.map fun token => {
    id := token.id
    createdAt := token.createdAt
    expiresAt := token.expiresAt
    userAgent := token.userAgent
    ipAddress := token.ipAddress
    current := currentHash = some token.tokenHash })

inductive UserLookup where
  | byId (id : Uuid) (includeDeleted : Bool)
  | byEmail (email : Email) (includeDeleted : Bool)
deriving DecidableEq, Repr

def UserLookup.call : UserLookup → UseCase (Option User)
  | .byId id includeDeleted => users.findById id includeDeleted
  | .byEmail email includeDeleted => users.findByEmail email includeDeleted

/-- A client that loads a user, calls methods on it and saves it. -/
def editUser (lookup : UserLookup) (calls : List (Date × UserMethod)) :
    UseCase (Option User) := do
  let found ← lookup.call
  match found with
  | none => pure none
  | some user => do
    let saved ← users.save (user.applyAll calls)
    pure (some saved)

/-! The guard of every authenticated request. -/

structure AuthenticatedUser where
  userId : Uuid
  isPlatformAdmin : Bool
  tenantId : Option Uuid
  role : Option String
  jti : Uuid
  tokenExpiresAt : Date
deriving DecidableEq, Repr

namespace JwtStrategy

/-- `...(claim ? { claim } : {})` -/
private def presentClaim (claim : Option String) : Option String :=
  claim.filter fun value => value ≠ ""

def validate (claims : AccessTokenClaims) : UseCase AuthenticatedUser :=
  if claims.sub = "" || claims.jti = "" then
    throw (.domain (invalidTokenError "Token is missing required claims"))
  else do
    let denied ← TokenDenylistService.has claims.jti
    if denied then throw (.domain (tokenRevokedError "This token has been revoked"))
    else do
      let found ← users.findAuthSnapshot claims.sub
      match found with
      | none => throw (.domain invalidTokenError)
      | some snapshot =>
        if snapshot.deletedAt.isSome then throw (.domain invalidTokenError)
        else if snapshot.tokenVersion ≠ claims.tv then
          throw (.domain (tokenRevokedError "Your session has ended. Sign in again."))
        else if snapshot.status ≠ .active then
          throw (.domain (accountNotActiveError snapshot.status.name))
        else
          pure {
            userId := snapshot.id
            isPlatformAdmin := snapshot.isPlatformAdmin
            tenantId := presentClaim claims.tid
            role := presentClaim claims.role
            jti := claims.jti
            tokenExpiresAt := claims.exp * 1000 }

end JwtStrategy

end

end TenantOS.Application
