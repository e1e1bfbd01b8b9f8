import TenantOS.Infrastructure.AuthTables
import TenantOS.Interleaving.Schedule

/-! The ports the authentication use cases call through, and what answers them:
two tables, a denylist, and the host's clock and random source. -/
namespace TenantOS.Application

open TenantOS.Domain TenantOS.Infrastructure TenantOS.Interleaving

/-- Claims carried by an access token. A signed token is modelled by the claims
its signature covers. -/
structure AccessTokenClaims where
  sub : Uuid
  tv : Int
  adm : Bool
  tid : Option Uuid
  role : Option String
  jti : Uuid
  iat : Int
  exp : Int
  iss : String
  aud : String
deriving DecidableEq, Repr

/-- What this deployment of the service runs on. -/
structure Host where
  toLowerCase : String → String
  sha256Hex : String → String
  verify : String → String → Bool
  needsRehash : String → Bool
  accessTtlS : Int
  refreshTtlS : Int
  issuer : String
  audience : String

inductive RefreshTokenRepositoryPort where
  | findByHash (tokenHash : String)
  | create (token : RefreshToken)
  | consume (tokenId : Uuid) (reason : RevocationReason) (time : Date)
  | revokeFamily (familyId : Uuid) (reason : RevocationReason) (time : Date)
  | revokeAllForUser (userId : Uuid) (reason : RevocationReason) (time : Date)
  | findActiveByUser (userId : Uuid) (now : Date)
  | deleteExpiredBefore (cutoff : Date)

inductive UserRepositoryPort where
  | findById (id : Uuid) (includeDeleted : Bool)
  | findByEmail (email : Email) (includeDeleted : Bool)
  | findAuthSnapshot (id : Uuid)
  | save (user : User)
  | touchLastLogin (userId : Uuid) (time : Date)

inductive PasswordHasherPort where
  | hash (plaintext : String)
  | verify (hash plaintext : String)
  | simulateVerification

inductive RedisCommand where
  | set (jti : Uuid) (ttlSeconds : Int)
  | exists (jti : Uuid)

inductive RuntimeCall where
  | now
  | randomUUID
  /-- `randomBytes(32).toString('base64url')` -/
  | randomBytes
  /-- Adds `iat`, `exp`, `iss` and `aud` to the payload. -/
  | signAsync (sub : Uuid) (tv : Int) (adm : Bool) (jti : Uuid)

inductive AuthCall where
  | refreshTokens (c : RefreshTokenRepositoryPort)
  | users (c : UserRepositoryPort)
  | hasher (c : PasswordHasherPort)
  | redis (c : RedisCommand)
  | runtime (c : RuntimeCall)

def AuthCall.Reply : AuthCall → Type
  | .refreshTokens (.findByHash _) => Option RefreshToken
  | .refreshTokens (.create _) => RefreshToken
  | .refreshTokens (.consume ..) => Bool
  | .refreshTokens (.revokeFamily ..) => Nat
  | .refreshTokens (.revokeAllForUser ..) => Nat
  | .refreshTokens (.findActiveByUser ..) => List RefreshToken
  | .refreshTokens (.deleteExpiredBefore _) => Nat
  | .users (.findById ..) => Option User
  | .users (.findByEmail ..) => Option User
  | .users (.findAuthSnapshot _) => Option PrismaUserRepository.AuthSnapshot
  | .users (.save _) => User
  | .users (.touchLastLogin ..) => Unit
  | .hasher (.hash _) => String
  | .hasher (.verify ..) => Bool
  | .hasher .simulateVerification => Unit
  | .redis (.set ..) => Unit
  | .redis (.exists _) => Bool
  | .runtime .now => Date
  | .runtime .randomUUID => Uuid
  | .runtime .randomBytes => String
  | .runtime (.signAsync ..) => AccessTokenClaims

abbrev authInterface : Interface where
  Call := AuthCall
  Reply := AuthCall.Reply

/-- What the service keeps between calls. `ids` and `hashes` are the ids and the
refresh-token hashes the random source has given out so far. -/
structure Store where
  users : List UserRow
  refreshTokens : List RefreshTokenRow
  denylist : List (Uuid × Date)
  ids : List Uuid
  hashes : List String
deriving DecidableEq

/-- One clock reading and one draw of the random source. -/
structure Input where
  now : Date
  random : String

variable (host : Host)

def answerRefreshTokens : (c : RefreshTokenRepositoryPort) → Store →
    Except Failure (AuthCall.Reply (.refreshTokens c)) × Store
  | .findByHash tokenHash, store =>
      (.ok (PrismaRefreshTokenRepository.findByHash tokenHash store.refreshTokens), store)
  | .create token, store =>
      let (reply, tokens) := PrismaRefreshTokenRepository.create token store.users
        store.refreshTokens
      (reply, { store with refreshTokens := tokens })
  | .consume tokenId reason time, store =>
      let (won, tokens) := PrismaRefreshTokenRepository.consume tokenId reason time
        store.refreshTokens
      (.ok won, { store with refreshTokens := tokens })
  | .revokeFamily familyId reason time, store =>
      let (count, tokens) := PrismaRefreshTokenRepository.revokeFamily familyId reason time
        store.refreshTokens
      (.ok count, { store with refreshTokens := tokens })
  | .revokeAllForUser userId reason time, store =>
      let (count, tokens) := PrismaRefreshTokenRepository.revokeAllForUser userId reason time
        store.refreshTokens
      (.ok count, { store with refreshTokens := tokens })
  | .findActiveByUser userId now, store =>
      (.ok (PrismaRefreshTokenRepository.findActiveByUser userId now store.refreshTokens), store)
  | .deleteExpiredBefore cutoff, store =>
      let (count, tokens) := PrismaRefreshTokenRepository.deleteExpiredBefore cutoff
        store.refreshTokens
      (.ok count, { store with refreshTokens := tokens })

def answerUsers (now : Date) : (c : UserRepositoryPort) → Store →
    Except Failure (AuthCall.Reply (.users c)) × Store
  | .findById id includeDeleted, store =>
      (PrismaUserRepository.findById id includeDeleted store.users, store)
  | .findByEmail email includeDeleted, store =>
      (PrismaUserRepository.findByEmail email includeDeleted store.users, store)
  | .findAuthSnapshot id, store =>
      (PrismaUserRepository.findAuthSnapshot id store.users, store)
  | .save user, store =>
      let (reply, users) := PrismaUserRepository.save user store.users
      (reply, { store with users := users })
  | .touchLastLogin userId time, store =>
      (.ok (), { store with
        users := PrismaUserRepository.touchLastLogin userId time now store.users })

def answerHasher (random : String) : (c : PasswordHasherPort) → AuthCall.Reply (.hasher c)
  | .hash _ => random
  | .verify hash plaintext => host.verify hash plaintext
  | .simulateVerification => ()

/-- An entry is kept until its time to live has run out. -/
def answerRedis (now : Date) : (c : RedisCommand) → Store → AuthCall.Reply (.redis c) × Store
  | .set jti ttlSeconds, store =>
      ((), { store with denylist := (jti, now + ttlSeconds * 1000) :: store.denylist })
  | .exists jti, store =>
      (store.denylist.any fun entry => entry.1 = jti && now ≤ entry.2, store)

/-- Ids and refresh-token hashes are never drawn twice. -/
def answerRuntime (input : Input) : (c : RuntimeCall) → Store →
    Option (AuthCall.Reply (.runtime c) × Store)
  | .now, store => some (input.now, store)
  | .randomUUID, store =>
      if input.random ∈ store.ids then none
      else some (input.random, { store with ids := input.random :: store.ids })
  | .randomBytes, store =>
      if host.sha256Hex input.random ∈ store.hashes then none
      else some (input.random,
        { store with hashes := host.sha256Hex input.random :: store.hashes })
  | .signAsync sub tv adm jti, store =>
      some ({
        sub := sub
        tv := tv
        adm := adm
        tid := none
        role := none
        jti := jti
        iat := input.now / 1000
        exp := input.now / 1000 + host.accessTtlS
        iss := host.issuer
        aud := host.audience }, store)

def answer (input : Input) : (c : AuthCall) → Store → Option (Except Failure c.Reply × Store)
  | .refreshTokens c, store => some (answerRefreshTokens c store)
  | .users c, store => some (answerUsers input.now c store)
  | .hasher c, store => some (.ok (answerHasher host input.random c), store)
  | .redis c, store =>
      let (reply, store) := answerRedis input.now c store
      some (.ok reply, store)
  | .runtime c, store => (answerRuntime host input c store).map fun settled =>
      (.ok settled.1, settled.2)

end TenantOS.Application
