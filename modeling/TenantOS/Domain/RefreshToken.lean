import TenantOS.Domain.User

/-! Refresh tokens: one entity per issued token, one family per login. -/
namespace TenantOS.Domain

inductive RevocationReason where
  | rotated | logout | logoutAll | reuseDetected | passwordChanged | adminRevoked | expiredSweep
deriving DecidableEq, Repr

def RevocationReason.text : RevocationReason → String
  | .rotated => "rotated"
  | .logout => "logout"
  | .logoutAll => "logout-all"
  | .reuseDetected => "reuse-detected"
  | .passwordChanged => "password-changed"
  | .adminRevoked => "admin-revoked"
  | .expiredSweep => "expired-sweep"

/-- One issued refresh token. The plaintext never reaches it, only its hash. -/
structure RefreshToken where
  id : Uuid
  userId : Uuid
  familyId : Uuid
  tokenHash : String
  expiresAt : Date
  revokedAt : Option Date
  revokedReason : Option String
  userAgent : Option String
  ipAddress : Option String
  createdAt : Date
deriving DecidableEq, Repr

/-- Who is calling, as far as the transport tells. -/
structure ClientFingerprint where
  userAgent : Option String
  ipAddress : Option String
deriving DecidableEq, Repr

namespace RefreshToken

/-- `id`, and for a new family `familyId`, are drawn by the caller. -/
def issue (id userId familyId : Uuid) (tokenHash : String) (ttlSeconds : Int)
    (fingerprint : ClientFingerprint) (now : Date) : RefreshToken where
  id := id
  userId := userId
  familyId := familyId
  tokenHash := tokenHash
  expiresAt := now + ttlSeconds * 1000
  revokedAt := none
  revokedReason := none
  userAgent := fingerprint.userAgent.map fun agent => String.ofList (sliceUnits 255 agent.toList)
  ipAddress := fingerprint.ipAddress
  createdAt := now

def isRevoked (token : RefreshToken) : Bool :=
  token.revokedAt.isSome

def isExpired (token : RefreshToken) (now : Date) : Bool :=
  token.expiresAt ≤ now

/-- The first revocation wins. -/
def revoke (token : RefreshToken) (reason : RevocationReason) (now : Date) : RefreshToken :=
  if token.isRevoked then token
  else { token with revokedAt := some now, revokedReason := some reason.text }

end RefreshToken

end TenantOS.Domain
