import TenantOS.Domain.Errors

/-! The user aggregate, its value objects and its mutators. -/
namespace TenantOS.Domain

/-! JavaScript's string operations, where they differ from Lean's: lengths and
slices count UTF-16 code units, and `trim` strips ECMAScript whitespace. -/

def utf16Units (c : Char) : Nat :=
  if c.val < 0x10000 then 1 else 2

def utf16Length (s : String) : Nat :=
  s.toList.foldr (fun c units => utf16Units c + units) 0

def isJsSpace (c : Char) : Bool :=
  c ∈ ['\t', '\n', '\x0b', '\x0c', '\r', ' ', '\u00a0', '\u1680', '\u2028', '\u2029', '\u202f',
    '\u205f', '\u3000', '\ufeff'] || ('\u2000' ≤ c && c ≤ '\u200a')

def jsTrim (s : String) : String :=
  String.ofList (((s.toList.dropWhile isJsSpace).reverse.dropWhile isJsSpace).reverse)

/-- `slice(0, limit)` as the database receives it: a surrogate pair cut in two
leaves half a character, which is written as U+FFFD. -/
def sliceUnits : Nat → List Char → List Char
  | _, [] => []
  | limit, c :: cs =>
      if utf16Units c ≤ limit then c :: sliceUnits (limit - utf16Units c) cs
      else if limit = 0 then [] else ['\ufffd']

/-- `slice(start)` likewise. -/
def dropUnits : Nat → List Char → List Char
  | _, [] => []
  | start, c :: cs =>
      if start = 0 then c :: cs
      else if utf16Units c ≤ start then dropUnits (start - utf16Units c) cs
      else '\ufffd' :: cs

/-! Email. -/

structure Email where
  value : String
deriving DecidableEq, Repr

namespace Email

def maxLength : Nat := 320

/-- `(\.[^\s@.]+)+$`: one or more dot-separated, non-empty labels. -/
private def isLabel (label : List Char) : Bool :=
  label ≠ [] && label.all fun c => !isJsSpace c && c ≠ '@'

/-- `/^[^\s@]+@[^\s@.]+(\.[^\s@.]+)+$/`. Neither side of the at sign can hold
another one, so the split at it is the only one to try. -/
def matchesPattern (s : String) : Bool :=
  match s.toList.splitOn '@' with
  | [localPart, domain] =>
      let labels := domain.splitOn '.'
      isLabel localPart && decide (2 ≤ labels.length) && labels.all isLabel
  | _ => false

/-- `toLowerCase` is the host's, so the parser is given it. -/
def create (toLowerCase : String → String) (raw : String) : Except DomainError Email :=
  let normalized := toLowerCase (jsTrim raw)
  if utf16Length normalized = 0 then .error (invalidEmailError "must not be empty")
  else if utf16Length normalized > maxLength then
    .error (invalidEmailError "must be at most 320 characters")
  else if !matchesPattern normalized then .error (invalidEmailError "must be a valid address")
  else .ok ⟨normalized⟩

/-- Skips validation by design. -/
def fromPersisted (value : String) : Email :=
  ⟨value⟩

end Email

/-! Password. -/

structure Password where
  value : String
deriving DecidableEq, Repr

namespace Password

def minLength : Nat := 12
def maxLength : Nat := 128

def blocklist : List String :=
  ["password", "password1", "password123", "qwertyuiop", "123456789012", "administrator",
    "letmein12345"]

/-- The line terminators that `.` does not match. -/
private def isLineTerminator (c : Char) : Bool :=
  c ∈ ['\n', '\r', '\u2028', '\u2029']

/-- The code units of a character, as `/^(.)\1+$/` sees them. -/
private def codeUnits (c : Char) : List Nat :=
  if c.val < 0x10000 then [c.toNat]
  else [0xd800 + (c.toNat - 0x10000) / 0x400, 0xdc00 + (c.toNat - 0x10000) % 0x400]

/-- `/^(.)\1+$/` -/
def isRepeated (raw : String) : Bool :=
  match raw.toList.flatMap codeUnits with
  | first :: second :: rest =>
      !(raw.toList.any isLineTerminator) && (second :: rest).all (· == first)
  | _ => false

def failures (toLowerCase : String → String) (raw : String) : List String :=
  (if utf16Length raw < minLength then ["must be at least 12 characters"] else []) ++
  (if utf16Length raw > maxLength then ["must be at most 128 characters"] else []) ++
  (if raw ≠ jsTrim raw then ["must not start or end with whitespace"] else []) ++
  (if toLowerCase raw ∈ blocklist then ["is among the most commonly used passwords"] else []) ++
  (if isRepeated raw then ["must not be a single repeated character"] else [])

def create (toLowerCase : String → String) (raw : String) : Except DomainError Password :=
  if failures toLowerCase raw = [] then .ok ⟨raw⟩
  else .error (weakPasswordError (failures toLowerCase raw))

end Password

/-! The aggregate. -/

inductive UserStatus where
  | invited | active | suspended
deriving DecidableEq, Repr

def UserStatus.name : UserStatus → String
  | .invited => "INVITED"
  | .active => "ACTIVE"
  | .suspended => "SUSPENDED"

/-- The flat, persistence-shaped view of a user. -/
structure UserSnapshot where
  id : Uuid
  email : String
  passwordHash : Option String
  firstName : Option String
  lastName : Option String
  status : UserStatus
  isPlatformAdmin : Bool
  tokenVersion : Int
  lastLoginAt : Option Date
  version : Int
  createdAt : Date
  updatedAt : Date
  deletedAt : Option Date
  registrarUserId : Option Uuid
deriving DecidableEq, Repr

structure User where
  id : Uuid
  email : Email
  passwordHash : Option String
  firstName : Option String
  lastName : Option String
  status : UserStatus
  isPlatformAdmin : Bool
  tokenVersion : Int
  lastLoginAt : Option Date
  version : Int
  createdAt : Date
  updatedAt : Date
  deletedAt : Option Date
  registrarUserId : Option Uuid
deriving DecidableEq, Repr

namespace User

def fromSnapshot (s : UserSnapshot) : User where
  id := s.id
  email := .fromPersisted s.email
  passwordHash := s.passwordHash
  firstName := s.firstName
  lastName := s.lastName
  status := s.status
  isPlatformAdmin := s.isPlatformAdmin
  tokenVersion := s.tokenVersion
  lastLoginAt := s.lastLoginAt
  version := s.version
  createdAt := s.createdAt
  updatedAt := s.updatedAt
  deletedAt := s.deletedAt
  registrarUserId := s.registrarUserId

def toSnapshot (u : User) : UserSnapshot where
  id := u.id
  email := u.email.value
  passwordHash := u.passwordHash
  firstName := u.firstName
  lastName := u.lastName
  status := u.status
  isPlatformAdmin := u.isPlatformAdmin
  tokenVersion := u.tokenVersion
  lastLoginAt := u.lastLoginAt
  version := u.version
  createdAt := u.createdAt
  updatedAt := u.updatedAt
  deletedAt := u.deletedAt
  registrarUserId := u.registrarUserId

@[simp] theorem toSnapshot_fromSnapshot (s : UserSnapshot) : (fromSnapshot s).toSnapshot = s := rfl

@[simp] theorem fromSnapshot_toSnapshot (u : User) : fromSnapshot u.toSnapshot = u := rfl

def isDeleted (u : User) : Bool :=
  u.deletedAt.isSome

/-- Falls back to the address so the label is never empty. -/
def displayName (u : User) : String :=
  let name := " ".intercalate
    ((u.firstName.toList ++ u.lastName.toList).filter fun part => part ≠ "")
  if name = "" then u.email.value else name

/-- The single gate every authentication path goes through. -/
def assertCanAuthenticate (u : User) : Except DomainError Unit :=
  if u.isDeleted || u.status = .suspended then
    .error (accountNotActiveError (if u.isDeleted then "DELETED" else u.status.name))
  else if u.status = .invited || u.passwordHash.isNone then .error passwordNotSetError
  else .ok ()

theorem passwordHash_of_authenticated (u : User) (h : u.assertCanAuthenticate = .ok ()) :
    u.passwordHash.isSome := by
  unfold assertCanAuthenticate at h
  split at h
  · contradiction
  split at h
  · contradiction
  rename_i ready
  simp_all [Option.isSome_iff_ne_none]

theorem standing_of_authenticated (u : User) (h : u.assertCanAuthenticate = .ok ()) :
    u.status = .active ∧ u.deletedAt = none := by
  unfold assertCanAuthenticate at h
  split at h
  · contradiction
  rename_i admitted
  split at h
  · contradiction
  rename_i ready
  cases status : u.status <;> simp_all [isDeleted]

private def touch (u : User) (now : Date) : User :=
  { u with updatedAt := now }

/-- One bump invalidates every access token minted before this moment. -/
private def revokeIssuedTokens (u : User) : User :=
  { u with tokenVersion := u.tokenVersion + 1 }

/-- `name?.trim() || null` -/
private def cleanName (name : Option String) : Option String :=
  (name.map jsTrim).filter fun trimmed => trimmed ≠ ""

def rename (u : User) (firstName lastName : Option String) (now : Date) : User :=
  { u with firstName := cleanName firstName, lastName := cleanName lastName }.touch now

def changeEmail (u : User) (email : Email) (now : Date) : User :=
  if u.email = email then u else ({ u with email := email }.revokeIssuedTokens).touch now

/-- Sets a password, and completes the invitation if one was outstanding. -/
def setPasswordHash (u : User) (hash : String) (now : Date) : User :=
  ({ u with
      passwordHash := some hash
      status := if u.status = UserStatus.invited then UserStatus.active else u.status }.revokeIssuedTokens).touch now

/-- Re-hashes the same password, so it must not bump `tokenVersion`. -/
def upgradePasswordHash (u : User) (hash : String) (now : Date) : User :=
  { u with passwordHash := some hash }.touch now

def activate (u : User) (now : Date) : User :=
  if u.status = .active then u else { u with status := .active }.touch now

def suspend (u : User) (now : Date) : User :=
  if u.status = .suspended then u
  else ({ u with status := .suspended }.revokeIssuedTokens).touch now

def grantPlatformAdmin (u : User) (now : Date) : User :=
  if u.isPlatformAdmin then u
  else ({ u with isPlatformAdmin := true }.revokeIssuedTokens).touch now

def revokePlatformAdmin (u : User) (now : Date) : User :=
  if !u.isPlatformAdmin then u
  else ({ u with isPlatformAdmin := false }.revokeIssuedTokens).touch now

/-- Telemetry: intentionally no `touch`. -/
def recordSuccessfulLogin (u : User) (now : Date) : User :=
  { u with lastLoginAt := some now }

/-- GDPR-shaped erasure: the row survives, the personal data does not. -/
def softDelete (u : User) (now : Date) : User :=
  if u.isDeleted then u
  else ({ u with
      deletedAt := some now
      status := .suspended
      email := .fromPersisted (u.id ++ "@deleted.invalid")
      passwordHash := none
      firstName := none
      lastName := none }.revokeIssuedTokens).touch now

def invalidateSessions (u : User) (now : Date) : User :=
  u.revokeIssuedTokens.touch now

end User

/-- The mutators, as data: what a client may call on an aggregate it loaded. -/
inductive UserMethod where
  | rename (firstName lastName : Option String)
  | changeEmail (email : Email)
  | setPasswordHash (hash : String)
  | upgradePasswordHash (hash : String)
  | activate
  | suspend
  | grantPlatformAdmin
  | revokePlatformAdmin
  | recordSuccessfulLogin
  | softDelete
  | invalidateSessions
deriving DecidableEq, Repr

namespace User

def apply (u : User) (now : Date) : UserMethod → User
  | .rename firstName lastName => u.rename firstName lastName now
  | .changeEmail email => u.changeEmail email now
  | .setPasswordHash hash => u.setPasswordHash hash now
  | .upgradePasswordHash hash => u.upgradePasswordHash hash now
  | .activate => u.activate now
  | .suspend => u.suspend now
  | .grantPlatformAdmin => u.grantPlatformAdmin now
  | .revokePlatformAdmin => u.revokePlatformAdmin now
  | .recordSuccessfulLogin => u.recordSuccessfulLogin now
  | .softDelete => u.softDelete now
  | .invalidateSessions => u.invalidateSessions now

/-- A sequence of mutator calls, each with the `now` it was given. -/
def applyAll (u : User) (calls : List (Date × UserMethod)) : User :=
  calls.foldl (fun u call => u.apply call.1 call.2) u

/-- The calls that are meant to end the tokens issued so far. A call whose guard
returns early ends none. -/
def revokes (u : User) : UserMethod → Bool
  | .setPasswordHash _ | .invalidateSessions => true
  | .changeEmail email => u.email ≠ email
  | .suspend => u.status ≠ .suspended
  | .grantPlatformAdmin => !u.isPlatformAdmin
  | .revokePlatformAdmin => u.isPlatformAdmin
  | .softDelete => !u.isDeleted
  | .rename .. | .upgradePasswordHash _ | .activate | .recordSuccessfulLogin => false

/-- Some call of the sequence revokes, on the aggregate as the calls before it left it. -/
def revokesAny (u : User) : List (Date × UserMethod) → Bool
  | [] => false
  | call :: calls => u.revokes call.2 || (u.apply call.1 call.2).revokesAny calls

@[simp] theorem applyAll_nil (u : User) : u.applyAll [] = u := rfl

@[simp] theorem applyAll_cons (u : User) (call : Date × UserMethod)
    (calls : List (Date × UserMethod)) :
    u.applyAll (call :: calls) = (u.apply call.1 call.2).applyAll calls := rfl

/-! Every mutator keeps the identity of the aggregate; only the repository moves `version`. -/

private theorem apply_identity (u : User) (now : Date) (method : UserMethod) :
    (u.apply now method).id = u.id ∧ (u.apply now method).version = u.version ∧
      (u.apply now method).registrarUserId = u.registrarUserId ∧
      (u.apply now method).createdAt = u.createdAt := by
  cases method <;>
    simp only [apply, rename, changeEmail, setPasswordHash, upgradePasswordHash, activate, suspend,
      grantPlatformAdmin, revokePlatformAdmin, recordSuccessfulLogin, softDelete,
      invalidateSessions] <;>
    first
    | exact ⟨rfl, rfl, rfl, rfl⟩
    | exact ⟨trivial, trivial, trivial, trivial⟩
    | (split <;> exact ⟨rfl, rfl, rfl, rfl⟩)

private theorem applyAll_identity (u : User) (calls : List (Date × UserMethod)) :
    (u.applyAll calls).id = u.id ∧ (u.applyAll calls).version = u.version ∧
      (u.applyAll calls).registrarUserId = u.registrarUserId ∧
      (u.applyAll calls).createdAt = u.createdAt := by
  induction calls generalizing u with
  | nil => exact ⟨rfl, rfl, rfl, rfl⟩
  | cons call calls ih =>
    obtain ⟨id, version, registrarUserId, createdAt⟩ := u.apply_identity call.1 call.2
    obtain ⟨id', version', registrarUserId', createdAt'⟩ := ih (u.apply call.1 call.2)
    exact ⟨id'.trans id, version'.trans version, registrarUserId'.trans registrarUserId,
      createdAt'.trans createdAt⟩

@[simp] theorem applyAll_id (u : User) (calls : List (Date × UserMethod)) :
    (u.applyAll calls).id = u.id :=
  (u.applyAll_identity calls).1

@[simp] theorem applyAll_version (u : User) (calls : List (Date × UserMethod)) :
    (u.applyAll calls).version = u.version :=
  (u.applyAll_identity calls).2.1

@[simp] theorem applyAll_registrarUserId (u : User) (calls : List (Date × UserMethod)) :
    (u.applyAll calls).registrarUserId = u.registrarUserId :=
  (u.applyAll_identity calls).2.2.1

@[simp] theorem applyAll_createdAt (u : User) (calls : List (Date × UserMethod)) :
    (u.applyAll calls).createdAt = u.createdAt :=
  (u.applyAll_identity calls).2.2.2

/-- The aggregate, its telemetry aside. No method reads the telemetry. -/
def withoutTelemetry (u : User) : User :=
  { u with lastLoginAt := none, updatedAt := 0 }

theorem apply_withoutTelemetry {u v : User} (h : u.withoutTelemetry = v.withoutTelemetry)
    (now : Date) (method : UserMethod) :
    (u.apply now method).withoutTelemetry = (v.apply now method).withoutTelemetry := by
  obtain ⟨lastLoginAt, updatedAt, rfl⟩ : ∃ lastLoginAt updatedAt,
      v = { u with lastLoginAt := lastLoginAt, updatedAt := updatedAt } := by
    refine ⟨v.lastLoginAt, v.updatedAt, ?_⟩
    cases u
    cases v
    simp_all [withoutTelemetry]
  cases method with
  | softDelete =>
    have same : isDeleted { u with lastLoginAt := lastLoginAt, updatedAt := updatedAt } =
        u.isDeleted := rfl
    simp only [apply, softDelete, same]
    split <;> rfl
  | _ =>
    simp only [apply, rename, changeEmail, setPasswordHash, upgradePasswordHash, activate, suspend,
      grantPlatformAdmin, revokePlatformAdmin, recordSuccessfulLogin, invalidateSessions]
    first
    | rfl
    | (split <;> rfl)

theorem applyAll_withoutTelemetry {u v : User} (h : u.withoutTelemetry = v.withoutTelemetry)
    (calls : List (Date × UserMethod)) :
    (u.applyAll calls).withoutTelemetry = (v.applyAll calls).withoutTelemetry := by
  induction calls generalizing u v with
  | nil => exact h
  | cons call calls ih => exact ih (apply_withoutTelemetry h call.1 call.2)

/-- A revoking call bumps `tokenVersion` by one, and every other call leaves it. -/
theorem apply_tokenVersion (u : User) (now : Date) (method : UserMethod) :
    (u.apply now method).tokenVersion =
      if u.revokes method then u.tokenVersion + 1 else u.tokenVersion := by
  cases method <;>
    simp only [apply, rename, changeEmail, setPasswordHash, upgradePasswordHash, activate, suspend,
      grantPlatformAdmin, revokePlatformAdmin, recordSuccessfulLogin, softDelete,
      invalidateSessions, revokes, touch, revokeIssuedTokens] <;>
    first | rfl | (split <;> simp_all)

/-- Only erasure takes a password hash away, and erasure revokes. -/
theorem apply_passwordHash (u : User) (now : Date) (method : UserMethod)
    (hash : u.passwordHash.isSome) :
    (u.apply now method).passwordHash.isSome ∨ u.revokes method := by
  cases method <;>
    simp only [apply, rename, changeEmail, setPasswordHash, upgradePasswordHash, activate, suspend,
      grantPlatformAdmin, revokePlatformAdmin, recordSuccessfulLogin, softDelete,
      invalidateSessions, revokes, touch, revokeIssuedTokens] <;>
    first | exact .inl hash | (split <;> simp_all) | simp_all

theorem apply_tokenVersion_le (u : User) (now : Date) (method : UserMethod) :
    u.tokenVersion ≤ (u.apply now method).tokenVersion := by
  rw [apply_tokenVersion]
  split <;> omega

theorem applyAll_tokenVersion_le (u : User) (calls : List (Date × UserMethod)) :
    u.tokenVersion ≤ (u.applyAll calls).tokenVersion := by
  induction calls generalizing u with
  | nil => exact Int.le_refl _
  | cons call calls ih => exact Int.le_trans (u.apply_tokenVersion_le call.1 call.2) (ih _)

theorem applyAll_tokenVersion_lt (u : User) (calls : List (Date × UserMethod))
    (h : u.revokesAny calls) : u.tokenVersion < (u.applyAll calls).tokenVersion := by
  induction calls generalizing u with
  | nil => simp [revokesAny] at h
  | cons call calls ih =>
    simp only [revokesAny, Bool.or_eq_true] at h
    have step := u.apply_tokenVersion call.1 call.2
    have rest := applyAll_tokenVersion_le (u.apply call.1 call.2) calls
    rcases h with now | later
    · rw [if_pos now] at step
      rw [applyAll_cons]
      omega
    · exact Int.lt_of_le_of_lt (u.apply_tokenVersion_le call.1 call.2) (ih _ later)

/-- What revokes nothing leaves an account in good standing. -/
theorem apply_standing {u : User} (active : u.status = .active) (alive : u.deletedAt = none)
    (now : Date) (method : UserMethod) (quiet : u.revokes method = false) :
    (u.apply now method).status = .active ∧ (u.apply now method).deletedAt = none := by
  cases method with
  | setPasswordHash | invalidateSessions => cases quiet
  | suspend => simp [revokes, active] at quiet
  | softDelete => simp [revokes, isDeleted, alive] at quiet
  | rename | upgradePasswordHash | recordSuccessfulLogin => exact ⟨active, alive⟩
  | changeEmail | activate | grantPlatformAdmin | revokePlatformAdmin =>
    simp only [apply, changeEmail, activate, grantPlatformAdmin, revokePlatformAdmin]
    split <;> exact ⟨active, alive⟩

theorem applyAll_standing {u : User} (active : u.status = .active) (alive : u.deletedAt = none)
    (calls : List (Date × UserMethod)) (quiet : u.revokesAny calls = false) :
    (u.applyAll calls).status = .active ∧ (u.applyAll calls).deletedAt = none ∧
      (u.applyAll calls).tokenVersion = u.tokenVersion := by
  induction calls generalizing u with
  | nil => exact ⟨active, alive, rfl⟩
  | cons call calls ih =>
    rw [revokesAny, Bool.or_eq_false_iff] at quiet
    obtain ⟨active', alive'⟩ := apply_standing active alive call.1 call.2 quiet.1
    obtain ⟨active'', alive'', sameToken⟩ := ih active' alive' quiet.2
    refine ⟨active'', alive'', sameToken.trans ?_⟩
    rw [apply_tokenVersion, quiet.1]
    rfl

/-! Erasure. -/

/-- The address `softDelete` leaves behind. -/
def erasedAddress (id : Uuid) : Email :=
  .fromPersisted (id ++ "@deleted.invalid")

/-- The personal data is gone. -/
structure Erased (u : User) : Prop where
  email : u.email = erasedAddress u.id
  passwordHash : u.passwordHash = none
  firstName : u.firstName = none
  lastName : u.lastName = none

/-- No name is left once it is trimmed. -/
def blank (name : Option String) : Bool :=
  name.all fun text => jsTrim text = ""

/-- The calls that bring no personal data back. -/
def keepsErased (id : Uuid) : UserMethod → Bool
  | .rename firstName lastName => blank firstName && blank lastName
  | .changeEmail email => email = erasedAddress id
  | .setPasswordHash _ | .upgradePasswordHash _ => false
  | .activate | .suspend | .grantPlatformAdmin | .revokePlatformAdmin | .recordSuccessfulLogin
  | .softDelete | .invalidateSessions => true

private theorem cleanName_eq_none {name : Option String} : cleanName name = none ↔ blank name := by
  cases name <;> simp [cleanName, blank]

theorem softDelete_deletedAt (u : User) (now : Date) :
    (u.softDelete now).deletedAt = some (u.deletedAt.getD now) := by
  unfold softDelete isDeleted
  cases deleted : u.deletedAt with
  | none => rfl
  | some first => exact deleted

theorem erased_softDelete_iff (u : User) (now : Date) :
    Erased (u.softDelete now) ↔ (u.isDeleted → Erased u) := by
  unfold softDelete
  cases u.isDeleted with
  | false =>
    constructor
    · intro _ deleted
      cases deleted
    · intro _
      exact ⟨rfl, rfl, rfl, rfl⟩
  | true => simp

/-- No call moves the date of the deletion. -/
theorem apply_deletedAt {u : User} {first : Date} (deleted : u.deletedAt = some first) (now : Date)
    (method : UserMethod) : (u.apply now method).deletedAt = some first := by
  cases method <;>
    simp only [apply, rename, changeEmail, setPasswordHash, upgradePasswordHash, activate, suspend,
      grantPlatformAdmin, revokePlatformAdmin, recordSuccessfulLogin, softDelete,
      invalidateSessions, touch, revokeIssuedTokens] <;>
    first
    | exact deleted
    | (split <;> first | exact deleted | simp_all [isDeleted])

theorem apply_erased_iff {u : User} (deleted : u.isDeleted) (erased : Erased u) (now : Date)
    (method : UserMethod) : Erased (u.apply now method) ↔ keepsErased u.id method := by
  cases method with
  | rename firstName lastName =>
    rw [keepsErased, Bool.and_eq_true, ← cleanName_eq_none, ← cleanName_eq_none]
    exact ⟨fun h => ⟨h.firstName, h.lastName⟩, fun h => ⟨erased.email, erased.passwordHash, h.1, h.2⟩⟩
  | changeEmail email =>
    rw [keepsErased, decide_eq_true_iff, apply, changeEmail]
    split
    · rename_i same
      rw [← same]
      exact ⟨fun _ => erased.email, fun _ => erased⟩
    · exact ⟨fun h => h.email, fun h => ⟨h, erased.passwordHash, erased.firstName, erased.lastName⟩⟩
  | setPasswordHash hash =>
    constructor
    · intro h
      cases h.passwordHash
    · intro h
      cases h
  | upgradePasswordHash hash =>
    constructor
    · intro h
      cases h.passwordHash
    · intro h
      cases h
  | recordSuccessfulLogin => exact ⟨fun _ => rfl, fun _ => ⟨erased.1, erased.2, erased.3, erased.4⟩⟩
  | invalidateSessions => exact ⟨fun _ => rfl, fun _ => ⟨erased.1, erased.2, erased.3, erased.4⟩⟩
  | softDelete =>
    have same : u.apply now .softDelete = u := if_pos deleted
    rw [same]
    exact ⟨fun _ => rfl, fun _ => erased⟩
  | _ =>
    refine ⟨fun _ => rfl, fun _ => ?_⟩
    simp only [apply, activate, suspend, grantPlatformAdmin, revokePlatformAdmin]
    split
    · exact erased
    · exact ⟨erased.1, erased.2, erased.3, erased.4⟩

/-- A sequence that leaves `tokenVersion` alone leaves a password hash in place. -/
theorem applyAll_passwordHash (u : User) (calls : List (Date × UserMethod))
    (same : (u.applyAll calls).tokenVersion = u.tokenVersion) (hash : u.passwordHash.isSome) :
    (u.applyAll calls).passwordHash.isSome := by
  induction calls generalizing u with
  | nil => exact hash
  | cons call calls ih =>
    have step := u.apply_tokenVersion call.1 call.2
    have rest := applyAll_tokenVersion_le (u.apply call.1 call.2) calls
    rw [applyAll_cons] at same ⊢
    by_cases revoking : u.revokes call.2
    · rw [if_pos revoking] at step
      omega
    · rw [if_neg revoking] at step
      refine ih _ (by omega) ?_
      exact (u.apply_passwordHash call.1 call.2 hash).resolve_right revoking

/-- The calls that put a password hash in place. -/
def storesHash : UserMethod → Bool
  | .setPasswordHash _ | .upgradePasswordHash _ => true
  | _ => false

theorem apply_storesHash (u : User) (now : Date) (method : UserMethod)
    (other : storesHash method = false) :
    (u.apply now method).passwordHash = u.passwordHash ∨
      (u.apply now method).passwordHash = none := by
  cases method with
  | setPasswordHash hash => cases other
  | upgradePasswordHash hash => cases other
  | softDelete =>
    simp only [apply, softDelete]
    split
    · exact .inl rfl
    · exact .inr rfl
  | rename | recordSuccessfulLogin | invalidateSessions => exact .inl rfl
  | changeEmail | activate | suspend | grantPlatformAdmin | revokePlatformAdmin =>
    refine .inl ?_
    simp only [apply, changeEmail, activate, suspend, grantPlatformAdmin, revokePlatformAdmin]
    split <;> rfl

/-- Every other sequence leaves the hash as it was, or erases it. -/
theorem applyAll_storesHash (u : User) (calls : List (Date × UserMethod))
    (others : ∀ call ∈ calls, storesHash call.2 = false) :
    (u.applyAll calls).passwordHash = u.passwordHash ∨ (u.applyAll calls).passwordHash = none := by
  induction calls generalizing u with
  | nil => exact .inl rfl
  | cons call calls ih =>
    have first := u.apply_storesHash call.1 call.2 (others call List.mem_cons_self)
    rcases ih (u.apply call.1 call.2) fun later mem => others later (List.mem_cons_of_mem call mem)
      with same | erased
    · exact first.imp same.trans same.trans
    · exact .inr erased

end User

end TenantOS.Domain
