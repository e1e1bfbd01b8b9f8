import TenantOS.Application.AuthUseCases

/-! The two doors of the application: the strategy behind every authenticated
request, and the handshake of the event gateway. Both start from the claims of a
token that verified, and differ in what they ask of those claims. -/
namespace TenantOS.Auth.Admission

open TenantOS.Domain TenantOS.Infrastructure TenantOS.Interleaving TenantOS.Application

/-- What a verified token claims, as far as either door reads it. The signature
does not say that a claim is there. -/
structure VerifiedClaims where
  sub : Option String
  tv : Option Int
  tid : Option String
  role : Option String
  jti : Option String
  exp : Option Int
deriving DecidableEq, Repr

/-- The truth of a string in a condition. -/
def truthy (value : Option String) : Bool := value.any fun text => text ≠ ""

/-- `request.user`; the expiry is `none` where the date is invalid. -/
structure AuthenticatedUser where
  userId : Uuid
  isPlatformAdmin : Bool
  tenantId : Option String
  role : Option String
  jti : Option String
  tokenExpiresAt : Option Date
deriving DecidableEq, Repr

structure SocketPrincipal where
  userId : Option String
  tenantIds : List String
  isPlatformAdmin : Bool
deriving DecidableEq, Repr

/-- What the checks look at. The database reads a text as an id with `readUuid`,
and refuses a text that is none; the keys Redis holds are `none` while it cannot
be reached. -/
structure Backend where
  readUuid : String → Option Uuid
  users : List UserRow
  redis : Option (List String)
  /-- The empty text is no id. -/
  readUuid_empty : readUuid "" = none

namespace CacheKey

/-- `[SCHEMA_VERSION, ...parts].join(':')`, where an absent part is left empty. -/
def denylist (jti : Option String) : String :=
  "v1:denylist:" ++ jti.getD ""

end CacheKey

variable (backend : Backend)

/-- Fails closed. -/
def has (jti : Option String) : Bool :=
  match backend.redis with
  | none => true
  | some keys => CacheKey.denylist jti ∈ keys

def findAuthSnapshot (id : Option String) :
    Except Failure (Option PrismaUserRepository.AuthSnapshot) :=
  match id with
  | none => .error (.unexpected "Argument `where` needs at least one of `id` or `email`")
  | some text =>
    match backend.readUuid text with
    | none => .error (.prisma "P2023" [])
    | some id => PrismaUserRepository.findAuthSnapshot id backend.users

namespace JwtStrategy

def toPrincipal (claims : VerifiedClaims) (snapshot : PrismaUserRepository.AuthSnapshot) :
    AuthenticatedUser where
  userId := snapshot.id
  isPlatformAdmin := snapshot.isPlatformAdmin
  tenantId := claims.tid.filter fun tid => tid ≠ ""
  role := claims.role.filter fun role => role ≠ ""
  jti := claims.jti
  tokenExpiresAt := claims.exp.map (· * 1000)

def validate (claims : VerifiedClaims) : Except Failure AuthenticatedUser :=
  if !truthy claims.sub || !truthy claims.jti then
    throw (.domain (invalidTokenError "Token is missing required claims"))
  else if has backend claims.jti then
    throw (.domain (tokenRevokedError "This token has been revoked"))
  else do
    let found ← findAuthSnapshot backend claims.sub
    match found with
    | none => throw (.domain invalidTokenError)
    | some snapshot =>
      if snapshot.deletedAt.isSome then throw (.domain invalidTokenError)
      else if some snapshot.tokenVersion ≠ claims.tv then
        throw (.domain (tokenRevokedError "Your session has ended. Sign in again."))
      else if snapshot.status ≠ .active then
        throw (.domain (accountNotActiveError snapshot.status.name))
      else pure (toPrincipal claims snapshot)

end JwtStrategy

namespace EventsGateway

def wsException (message : String) : Failure := .unexpected message

def authenticate (claims : VerifiedClaims) : Except Failure SocketPrincipal :=
  if has backend claims.jti then throw (wsException "Token revoked")
  else do
    let found ← findAuthSnapshot backend claims.sub
    match found with
    | none => throw (wsException "Session is no longer valid")
    | some snapshot =>
      if snapshot.deletedAt.isSome || some snapshot.tokenVersion ≠ claims.tv ||
          snapshot.status ≠ .active then
        throw (wsException "Session is no longer valid")
      else pure ⟨claims.sub, [], snapshot.isPlatformAdmin⟩

end EventsGateway

/-- The checks both doors make: the token is not revoked, and it names a user who
is there, active, and of the token's version. -/
def Live (claims : VerifiedClaims) (snapshot : PrismaUserRepository.AuthSnapshot) : Prop :=
  has backend claims.jti = false ∧ findAuthSnapshot backend claims.sub = .ok (some snapshot) ∧
    snapshot.deletedAt = none ∧ some snapshot.tokenVersion = claims.tv ∧ snapshot.status = .active

/-- The doors agree on a token, and on whom they let in. -/
structure Agree (claims : VerifiedClaims) : Prop where
  admission : (JwtStrategy.validate backend claims).isOk =
    (EventsGateway.authenticate backend claims).isOk
  principal : ∀ user socket, JwtStrategy.validate backend claims = .ok user →
    EventsGateway.authenticate backend claims = .ok socket →
    socket.userId = some user.userId ∧ socket.isPlatformAdmin = user.isPlatformAdmin

variable {backend} {claims : VerifiedClaims} {snapshot : PrismaUserRepository.AuthSnapshot}

/-- A user is found under an id that is there, and that reads as the user's. -/
theorem findAuthSnapshot_sub (h : findAuthSnapshot backend claims.sub = .ok (some snapshot)) :
    truthy claims.sub ∧ claims.sub.bind backend.readUuid = some snapshot.id := by
  cases sub : claims.sub with
  | none =>
    rw [sub] at h
    cases h
  | some text =>
    rw [sub, findAuthSnapshot] at h
    cases read : backend.readUuid text with
    | none =>
      rw [read] at h
      cases h
    | some id =>
      rw [read] at h
      rw [PrismaUserRepository.findAuthSnapshot_id h]
      refine ⟨decide_eq_true fun empty => ?_, read⟩
      rw [empty, backend.readUuid_empty] at read
      cases read

/-! What each door lets in. -/

theorem validate_eq_ok {user : AuthenticatedUser} :
    JwtStrategy.validate backend claims = .ok user ↔
      truthy claims.jti ∧ ∃ snapshot, Live backend claims snapshot ∧
        user = JwtStrategy.toPrincipal claims snapshot := by
  constructor
  · intro h
    unfold JwtStrategy.validate at h
    split at h
    · cases h
    · rename_i required
      split at h
      · cases h
      · rename_i allowed
        cases found : findAuthSnapshot backend claims.sub with
        | error failure =>
          rw [found] at h
          cases h
        | ok result =>
          rw [found] at h
          cases result with
          | none => cases h
          | some snapshot =>
            change (if _ then _ else if _ then _ else if _ then _ else _) = _ at h
            split at h
            · cases h
            split at h
            · cases h
            split at h
            · cases h
            cases h
            simp_all [Live]
  · rintro ⟨jti, snapshot, ⟨allowed, found, present, version, status⟩, rfl⟩
    have sub := (findAuthSnapshot_sub found).1
    rw [JwtStrategy.validate, sub, jti, allowed, found]
    change (if _ then _ else if _ then _ else if _ then _ else if _ then _ else if _ then _ else _) = _
    rw [present, version, status]
    simp
    rfl

theorem authenticate_eq_ok {socket : SocketPrincipal} :
    EventsGateway.authenticate backend claims = .ok socket ↔
      ∃ snapshot, Live backend claims snapshot ∧
        socket = ⟨claims.sub, [], snapshot.isPlatformAdmin⟩ := by
  constructor
  · intro h
    unfold EventsGateway.authenticate at h
    split at h
    · cases h
    · rename_i allowed
      cases found : findAuthSnapshot backend claims.sub with
      | error failure =>
        rw [found] at h
        cases h
      | ok result =>
        rw [found] at h
        cases result with
        | none => cases h
        | some snapshot =>
          change (if _ then _ else _) = _ at h
          split at h
          · cases h
          cases h
          simp_all [Live]
  · rintro ⟨snapshot, ⟨allowed, found, present, version, status⟩, rfl⟩
    rw [EventsGateway.authenticate, allowed, found]
    change (if _ then _ else if _ then _ else _) = _
    rw [present, version, status]
    simp
    rfl

theorem Live.unique {snapshot' : PrismaUserRepository.AuthSnapshot}
    (h : Live backend claims snapshot) (h' : Live backend claims snapshot') :
    snapshot = snapshot' := by
  have same := h.2.1.symm.trans h'.2.1
  cases same
  rfl

/-- The token carries an id of its own, and names its user as the database does. -/
def Regular (backend : Backend) (claims : VerifiedClaims) : Prop :=
  truthy claims.jti ∧ claims.sub.bind backend.readUuid = claims.sub

theorem authenticate_isOk :
    (EventsGateway.authenticate backend claims).isOk = true ↔ ∃ snapshot, Live backend claims snapshot := by
  constructor
  · intro h
    cases result : EventsGateway.authenticate backend claims with
    | error failure =>
      rw [result] at h
      cases h
    | ok socket =>
      obtain ⟨snapshot, live, -⟩ := authenticate_eq_ok.mp result
      exact ⟨snapshot, live⟩
  · rintro ⟨snapshot, live⟩
    rw [authenticate_eq_ok.mpr ⟨snapshot, live, rfl⟩]
    rfl

theorem validate_isOk :
    (JwtStrategy.validate backend claims).isOk = true ↔
      truthy claims.jti ∧ ∃ snapshot, Live backend claims snapshot := by
  constructor
  · intro h
    cases result : JwtStrategy.validate backend claims with
    | error failure =>
      rw [result] at h
      cases h
    | ok user =>
      obtain ⟨jti, snapshot, live, -⟩ := validate_eq_ok.mp result
      exact ⟨jti, snapshot, live⟩
  · rintro ⟨jti, snapshot, live⟩
    rw [validate_eq_ok.mpr ⟨jti, snapshot, live, rfl⟩]
    rfl

/-- The doors agree on a token unless it passes every check they share and still
lacks an id, or spells its user's id in another way than the database. -/
theorem doors_agree_iff (backend : Backend) (claims : VerifiedClaims) :
    Agree backend claims ↔ ∀ snapshot, Live backend claims snapshot → Regular backend claims := by
  constructor
  · intro h snapshot live
    have admitted := (h.admission.trans (authenticate_isOk.mpr ⟨snapshot, live⟩))
    have jti := (validate_isOk.mp admitted).1
    refine ⟨jti, ?_⟩
    have same := h.principal _ _ (validate_eq_ok.mpr ⟨jti, snapshot, live, rfl⟩)
      (authenticate_eq_ok.mpr ⟨snapshot, live, rfl⟩)
    exact (findAuthSnapshot_sub live.2.1).2.trans same.1.symm
  · intro h
    constructor
    · rw [Bool.eq_iff_iff, validate_isOk, authenticate_isOk]
      constructor
      · intro both
        exact both.2
      · rintro ⟨snapshot, live⟩
        exact ⟨(h snapshot live).1, snapshot, live⟩
    · intro user socket admitted admitted'
      obtain ⟨jti, snapshot, live, rfl⟩ := validate_eq_ok.mp admitted
      obtain ⟨snapshot', live', rfl⟩ := authenticate_eq_ok.mp admitted'
      cases live.unique live'
      refine ⟨?_, rfl⟩
      exact (h snapshot live).2.symm.trans (findAuthSnapshot_sub live.2.1).2

/-! The tokens the service signs carry every claim, and its strategy is the one
the use cases run behind. -/

def VerifiedClaims.ofAccessToken (claims : AccessTokenClaims) : VerifiedClaims where
  sub := some claims.sub
  tv := some claims.tv
  tid := claims.tid
  role := claims.role
  jti := some claims.jti
  exp := some claims.exp

def Backend.ofStore (now : Date) (store : Store) : Backend where
  readUuid text := if text = "" then none else some text
  users := store.users
  redis := some ((store.denylist.filter fun entry => now ≤ entry.2).map fun entry =>
    CacheKey.denylist (some entry.1))
  readUuid_empty := rfl

def AuthenticatedUser.ofService (user : Application.AuthenticatedUser) : AuthenticatedUser where
  userId := user.userId
  isPlatformAdmin := user.isPlatformAdmin
  tenantId := user.tenantId
  role := user.role
  jti := some user.jti
  tokenExpiresAt := some user.tokenExpiresAt

theorem has_ofStore (now : Date) (store : Store) (jti : String) :
    has (.ofStore now store) (some jti) =
      store.denylist.any fun entry => entry.1 = jti && now ≤ entry.2 := by
  change decide (CacheKey.denylist (some jti) ∈ List.map _ (store.denylist.filter _)) = _
  apply Bool.eq_iff_iff.mpr
  rw [decide_eq_true_iff, List.mem_map, List.any_eq_true]
  constructor
  · rintro ⟨entry, mem, same⟩
    obtain ⟨mem, live⟩ := List.mem_filter.mp mem
    have same : entry.1 = jti := (String.append_right_inj _).mp same
    exact ⟨entry, mem, by rw [decide_eq_true same, live]; rfl⟩
  · rintro ⟨entry, mem, both⟩
    rw [Bool.and_eq_true, decide_eq_true_eq] at both
    exact ⟨entry, List.mem_filter.mpr ⟨mem, both.2⟩, by rw [both.1]⟩

section

variable {α : Type} {host : Host} {inputs : Nat → Input} {store : Store}

theorem eval_has (jti : Uuid) (next : Bool → UseCase α) :
    (TokenDenylistService.has jti >>= next).eval (answer host) inputs store =
      (next (store.denylist.any fun entry => entry.1 = jti && (inputs 0).now ≤ entry.2)).eval
        (answer host) (fun n => inputs (n + 1)) store :=
  rfl

theorem eval_findAuthSnapshot (id : Uuid)
    (next : Option PrismaUserRepository.AuthSnapshot → UseCase α) :
    (users.findAuthSnapshot id >>= next).eval (answer host) inputs store =
      match PrismaUserRepository.findAuthSnapshot id store.users with
      | .error failure => some (.error failure, store)
      | .ok found => (next found).eval (answer host) (fun n => inputs (n + 1)) store := by
  change Option.bind (some (PrismaUserRepository.findAuthSnapshot id store.users, store)) _ = _
  cases PrismaUserRepository.findAuthSnapshot id store.users with
  | error failure => rfl
  | ok found => rfl

end

theorem validate_ofStore (host : Host) (claims : AccessTokenClaims) (inputs : Nat → Input)
    (store : Store) :
    ∃ result, (Application.JwtStrategy.validate claims).eval (answer host) inputs store =
        some (result, store) ∧
      result.map AuthenticatedUser.ofService =
        JwtStrategy.validate (.ofStore (inputs 0).now store) (.ofAccessToken claims) := by
  unfold Application.JwtStrategy.validate JwtStrategy.validate
  have required : (!truthy (some claims.sub) || !truthy (some claims.jti)) =
      (claims.sub = "" || claims.jti = "") := by
    simp [truthy]
  change ∃ result, _ ∧ _ = if (!truthy (some claims.sub) || !truthy (some claims.jti)) = true then _
    else if has _ (some claims.jti) = true then _ else _
  rw [required, has_ofStore]
  split
  · exact ⟨_, rfl, rfl⟩
  · rename_i present
    rw [Bool.or_eq_true, decide_eq_true_eq, decide_eq_true_eq, not_or] at present
    have named : findAuthSnapshot (.ofStore (inputs 0).now store) (some claims.sub) =
        PrismaUserRepository.findAuthSnapshot claims.sub store.users := by
      rw [findAuthSnapshot, Backend.ofStore]
      simp only [if_neg present.1]
    rw [eval_has]
    split
    · exact ⟨_, rfl, rfl⟩
    · change ∃ result, _ ∧ _ = (findAuthSnapshot _ (some claims.sub) >>= _)
      rw [named, eval_findAuthSnapshot]
      cases PrismaUserRepository.findAuthSnapshot claims.sub store.users with
      | error failure => exact ⟨_, rfl, rfl⟩
      | ok found =>
        cases found with
        | none => exact ⟨_, rfl, rfl⟩
        | some snapshot =>
          have sameVersion : some snapshot.tokenVersion ≠ (VerifiedClaims.ofAccessToken claims).tv ↔
              snapshot.tokenVersion ≠ claims.tv := not_congr Option.some_inj
          dsimp only [bind, Except.bind]
          by_cases deleted : snapshot.deletedAt.isSome = true
          · rw [if_pos deleted, if_pos deleted]
            exact ⟨_, rfl, rfl⟩
          rw [if_neg deleted, if_neg deleted]
          by_cases stale : snapshot.tokenVersion ≠ claims.tv
          · rw [if_pos stale, if_pos (sameVersion.mpr stale)]
            exact ⟨_, rfl, rfl⟩
          rw [if_neg stale, if_neg (mt sameVersion.mp stale)]
          by_cases inactive : snapshot.status ≠ .active
          · rw [if_pos inactive, if_pos inactive]
            exact ⟨_, rfl, rfl⟩
          rw [if_neg inactive, if_neg inactive]
          exact ⟨_, rfl, rfl⟩

/-- One user, and a Redis that holds no key. -/
def sampleBackend : Backend where
  readUuid text := if text = "" then none else some text
  users := [{
    id := "6f1c0b9e-6f0e-4c57-9d0a-2f1d6c1b7a11"
    registrarUserId := none
    email := "ann@example.com"
    passwordHash := some "$argon2id$"
    firstName := none
    lastName := none
    status := "ACTIVE"
    isPlatformAdmin := false
    tokenVersion := 0
    lastLoginAt := none
    version := 0
    createdAt := 0
    updatedAt := 0
    deletedAt := none }]
  redis := some []
  readUuid_empty := rfl

/-- A token that verified, without a `jti`. -/
def anonymousClaims : VerifiedClaims where
  sub := some "6f1c0b9e-6f0e-4c57-9d0a-2f1d6c1b7a11"
  tv := some 0
  tid := none
  role := none
  jti := none
  exp := some 1700000000

/-- The gateway lets in what the strategy refuses. -/
theorem doors_disagree : ¬ Agree sampleBackend anonymousClaims := by
  intro h
  exact absurd h.admission (by decide)

end TenantOS.Auth.Admission
