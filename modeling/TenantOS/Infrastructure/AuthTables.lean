import TenantOS.Domain.RefreshToken
import TenantOS.Relational.Table

/-! The `users` and `refresh_tokens` tables, and the repositories over them with
each call as one atomic step. -/
namespace TenantOS.Infrastructure

open TenantOS.Domain TenantOS.Relational

/-- A row of `users`. `status` is a plain string column. -/
structure UserRow where
  id : Uuid
  registrarUserId : Option Uuid
  email : String
  passwordHash : Option String
  firstName : Option String
  lastName : Option String
  status : String
  isPlatformAdmin : Bool
  tokenVersion : Int
  lastLoginAt : Option Date
  version : Int
  createdAt : Date
  updatedAt : Date
  deletedAt : Option Date
deriving DecidableEq, Repr

/-- A row of `refresh_tokens`. -/
structure RefreshTokenRow where
  id : Uuid
  userId : Uuid
  familyId : Uuid
  tokenHash : String
  expiresAt : Date
  revokedAt : Option Date
  revokedReason : Option String
  userAgent : Option String
  ipAddress : Option String
  createdAt : Date
deriving DecidableEq, Repr

/-! Failures of the driver. -/

def uniqueViolation (target : List String) : Failure :=
  .prisma "P2002" target

def foreignKeyViolation : Failure :=
  .prisma "P2003" []

def recordNotFound : Failure :=
  .prisma "P2025" []

def includes (text part : String) : Bool :=
  text.toList.tails.any fun rest => part.toList.isPrefixOf rest

/-- `fields.some((field) => field.includes(target))` -/
def isUniqueViolation (failure : Failure) (target : String) : Bool :=
  match failure with
  | .prisma code fields => code == "P2002" && fields.any fun field => includes field target
  | _ => false

def isRecordNotFound (failure : Failure) : Bool :=
  match failure with
  | .prisma code _ => code == "P2025"
  | _ => false

def toInfrastructureError (failure : Failure) (operation : String) : Failure :=
  match failure with
  | .prisma "P2024" _ =>
      .infrastructure .databaseUnavailable ("Connection pool exhausted during " ++ operation)
  | _ => .infrastructure .databaseUnavailable ("Database error during " ++ operation)

theorem toInfrastructureError_eq (failure : Failure) (operation : String) :
    ∃ code message, toInfrastructureError failure operation = .infrastructure code message := by
  unfold toInfrastructureError
  split <;> exact ⟨_, _, rfl⟩

/-- What the driver throws of its own accord: never an error of the domain. -/
inductive DriverFault where
  | prisma (code : String) (target : List String)
  | unexpected (message : String)

def DriverFault.raise : DriverFault → Failure
  | .prisma code target => .prisma code target
  | .unexpected message => .unexpected message

theorem DriverFault.raise_ne_domain (fault : DriverFault) (error : DomainError) :
    fault.raise ≠ .domain error := by
  cases fault <;> simp [raise]

/-! Mappers. -/

def toUserStatus (value : String) : Except Failure UserStatus :=
  if value = "INVITED" then .ok .invited
  else if value = "ACTIVE" then .ok .active
  else if value = "SUSPENDED" then .ok .suspended
  else .error (.unexpected ("Unrecognised user status in the database: " ++ value))

@[simp] theorem toUserStatus_name (status : UserStatus) :
    toUserStatus status.name = .ok status := by
  cases status <;> rfl

theorem toUserStatus_eq_ok {value : String} {status : UserStatus} :
    toUserStatus value = .ok status ↔ value = status.name := by
  constructor
  · intro h
    unfold toUserStatus at h
    split at h
    · cases h
      assumption
    split at h
    · cases h
      assumption
    split at h
    · cases h
      assumption
    · cases h
  · rintro rfl
    exact toUserStatus_name status

def UserRow.toSnapshot (row : UserRow) (status : UserStatus) : UserSnapshot where
  id := row.id
  email := row.email
  passwordHash := row.passwordHash
  firstName := row.firstName
  lastName := row.lastName
  status := status
  isPlatformAdmin := row.isPlatformAdmin
  tokenVersion := row.tokenVersion
  lastLoginAt := row.lastLoginAt
  version := row.version
  createdAt := row.createdAt
  updatedAt := row.updatedAt
  deletedAt := row.deletedAt
  registrarUserId := row.registrarUserId

def toUserEntity (row : UserRow) : Except Failure User :=
  (toUserStatus row.status).map fun status => .fromSnapshot (row.toSnapshot status)

theorem toUserEntity_eq_ok {row : UserRow} {user : User} :
    toUserEntity row = .ok user ↔
      ∃ status, toUserStatus row.status = .ok status ∧
        user = .fromSnapshot (row.toSnapshot status) := by
  unfold toUserEntity
  cases toUserStatus row.status with
  | error failure => simp [Except.map]
  | ok status => simp [Except.map, eq_comm]

theorem toUserEntity_eq_error {row : UserRow} {failure : Failure}
    (h : toUserEntity row = .error failure) : ∃ message, failure = .unexpected message := by
  unfold toUserEntity toUserStatus at h
  split at h
  · cases h
  split at h
  · cases h
  split at h
  · cases h
  · cases h
    exact ⟨_, rfl⟩

def toRefreshTokenEntity (row : RefreshTokenRow) : RefreshToken where
  id := row.id
  userId := row.userId
  familyId := row.familyId
  tokenHash := jsTrim row.tokenHash
  expiresAt := row.expiresAt
  revokedAt := row.revokedAt
  revokedReason := row.revokedReason
  userAgent := row.userAgent
  ipAddress := row.ipAddress
  createdAt := row.createdAt

namespace PrismaUserRepository

/-- Deleted users are hidden after the probe, not by it. -/
private def visible (includeDeleted : Bool) : Option UserRow → Except Failure (Option User)
  | none => .ok none
  | some row =>
      if row.deletedAt.isSome && !includeDeleted then .ok none
      else (toUserEntity row).map some

def findById (id : Uuid) (includeDeleted : Bool) (users : List UserRow) :
    Except Failure (Option User) :=
  visible includeDeleted (users.find? fun row => row.id = id)

def findByEmail (email : Email) (includeDeleted : Bool) (users : List UserRow) :
    Except Failure (Option User) :=
  visible includeDeleted (users.find? fun row => row.email = email.value)

private theorem visible_eq_some {includeDeleted : Bool} {found : Option UserRow} {user : User}
    (h : visible includeDeleted found = .ok (some user)) :
    ∃ row, found = some row ∧ toUserEntity row = .ok user := by
  unfold visible at h
  split at h
  · simp at h
  · rename_i row
    split at h
    · simp at h
    · refine ⟨row, rfl, ?_⟩
      cases entity : toUserEntity row with
      | error failure => simp [entity, Except.map] at h
      | ok value => simpa [entity, Except.map] using h

private theorem visible_eq_error {includeDeleted : Bool} {found : Option UserRow}
    {failure : Failure} (h : visible includeDeleted found = .error failure) :
    ∃ message, failure = .unexpected message := by
  unfold visible at h
  split at h
  · cases h
  · rename_i row
    split at h
    · cases h
    · cases entity : toUserEntity row with
      | ok value =>
        rw [entity] at h
        cases h
      | error failure' =>
        rw [entity] at h
        cases h
        exact toUserEntity_eq_error entity

/-- The lookups fail only over a status the mapper does not know. -/
theorem findById_eq_error {id : Uuid} {includeDeleted : Bool} {users : List UserRow}
    {failure : Failure} (h : findById id includeDeleted users = .error failure) :
    ∃ message, failure = .unexpected message :=
  visible_eq_error h

theorem findByEmail_eq_error {email : Email} {includeDeleted : Bool} {users : List UserRow}
    {failure : Failure} (h : findByEmail email includeDeleted users = .error failure) :
    ∃ message, failure = .unexpected message :=
  visible_eq_error h

theorem findById_eq_some {id : Uuid} {includeDeleted : Bool} {users : List UserRow} {user : User}
    (h : findById id includeDeleted users = .ok (some user)) :
    ∃ row ∈ users, row.id = id ∧ toUserEntity row = .ok user := by
  obtain ⟨row, hfound, entity⟩ := visible_eq_some h
  exact ⟨row, List.mem_of_find?_eq_some hfound, by simpa using List.find?_some hfound, entity⟩

theorem findByEmail_eq_some {email : Email} {includeDeleted : Bool} {users : List UserRow}
    {user : User} (h : findByEmail email includeDeleted users = .ok (some user)) :
    ∃ row ∈ users, row.email = email.value ∧ toUserEntity row = .ok user := by
  obtain ⟨row, hfound, entity⟩ := visible_eq_some h
  exact ⟨row, List.mem_of_find?_eq_some hfound, by simpa using List.find?_some hfound, entity⟩

theorem findByEmail_of_find {users : List UserRow} {email : Email} {row : UserRow}
    {status : UserStatus} (found : users.find? (fun row => row.email = email.value) = some row)
    (visible : row.deletedAt = none) (known : row.status = status.name) :
    findByEmail email false users = .ok (some (.fromSnapshot (row.toSnapshot status))) := by
  simp [findByEmail, PrismaUserRepository.visible, found, visible, toUserEntity, known, Except.map]

theorem findById_of_find {users : List UserRow} {id : Uuid} {row : UserRow} {status : UserStatus}
    (found : users.find? (fun row => row.id = id) = some row) (visible : row.deletedAt = none)
    (known : row.status = status.name) :
    findById id false users = .ok (some (.fromSnapshot (row.toSnapshot status))) := by
  simp [findById, PrismaUserRepository.visible, found, visible, toUserEntity, known, Except.map]

/-- Every stored status is one the mapper recognises. -/
def KnownStatuses (users : List UserRow) : Prop :=
  ∀ row ∈ users, ∃ status : UserStatus, row.status = status.name

/-- Over known statuses a lookup by address answers: nothing, or the user of a
visible row. -/
theorem findByEmail_answers {users : List UserRow} (known : KnownStatuses users) (email : Email) :
    findByEmail email false users = .ok none ∨
      ∃ row ∈ users, ∃ status, row.email = email.value ∧ row.deletedAt = none ∧
        findByEmail email false users = .ok (some (.fromSnapshot (row.toSnapshot status))) := by
  unfold findByEmail visible
  cases found : users.find? fun row => row.email = email.value with
  | none => exact .inl rfl
  | some row =>
    have hrow := List.mem_of_find?_eq_some found
    have address : row.email = email.value := by simpa using List.find?_some found
    cases deleted : row.deletedAt with
    | some time => exact .inl (by simp [deleted])
    | none =>
      obtain ⟨status, hstatus⟩ := known row hrow
      exact .inr ⟨row, hrow, status, address, deleted,
        by simp [deleted, toUserEntity, hstatus, Except.map]⟩

structure AuthSnapshot where
  id : Uuid
  tokenVersion : Int
  status : UserStatus
  isPlatformAdmin : Bool
  deletedAt : Option Date
deriving DecidableEq, Repr

def findAuthSnapshot (id : Uuid) (users : List UserRow) : Except Failure (Option AuthSnapshot) :=
  match users.find? fun row => row.id = id with
  | none => .ok none
  | some row => (toUserStatus row.status).map fun status =>
      some ⟨row.id, row.tokenVersion, status, row.isPlatformAdmin, row.deletedAt⟩

theorem findAuthSnapshot_eq_some {id : Uuid} {users : List UserRow}
    {snapshot : AuthSnapshot}
    (h : findAuthSnapshot id users = .ok (some snapshot)) :
    ∃ row ∈ users, row.id = id ∧ row.tokenVersion = snapshot.tokenVersion ∧
      toUserStatus row.status = .ok snapshot.status ∧ row.deletedAt = snapshot.deletedAt := by
  unfold findAuthSnapshot at h
  split at h
  · simp at h
  · rename_i row found
    cases status : toUserStatus row.status with
    | error failure => simp [status, Except.map] at h
    | ok value =>
      simp only [status, Except.map, Except.ok.injEq, Option.some.injEq] at h
      subst h
      exact ⟨row, List.mem_of_find?_eq_some found, by simpa using List.find?_some found, rfl,
        status, rfl⟩

theorem findAuthSnapshot_eq_error {id : Uuid} {users : List UserRow} {failure : Failure}
    (h : findAuthSnapshot id users = .error failure) : ∃ message, failure = .unexpected message := by
  unfold findAuthSnapshot toUserStatus at h
  split at h
  · cases h
  split at h
  · cases h
  split at h
  · cases h
  split at h
  · cases h
  · cases h
    exact ⟨_, rfl⟩

theorem findAuthSnapshot_id {id : Uuid} {users : List UserRow} {snapshot : AuthSnapshot}
    (h : findAuthSnapshot id users = .ok (some snapshot)) : snapshot.id = id := by
  unfold findAuthSnapshot at h
  split at h
  · cases h
  · rename_i row found
    cases status : toUserStatus row.status with
    | error failure => simp [status, Except.map] at h
    | ok value =>
      simp only [status, Except.map, Except.ok.injEq, Option.some.injEq] at h
      subst h
      simpa using List.find?_some found

/-- The `data` of the create. -/
def created (s : UserSnapshot) : UserRow where
  id := s.id
  registrarUserId := s.registrarUserId
  email := s.email
  passwordHash := s.passwordHash
  firstName := s.firstName
  lastName := s.lastName
  status := s.status.name
  isPlatformAdmin := s.isPlatformAdmin
  tokenVersion := s.tokenVersion
  lastLoginAt := s.lastLoginAt
  version := s.version
  createdAt := s.createdAt
  updatedAt := s.updatedAt
  deletedAt := s.deletedAt

theorem toUserEntity_created (user : User) :
    toUserEntity (created user.toSnapshot) = .ok user :=
  toUserEntity_eq_ok.mpr ⟨user.status, toUserStatus_name user.status, rfl⟩

/-- The `where` of the save: the loaded version is part of it. -/
def lockedOn (s : UserSnapshot) (row : UserRow) : Bool :=
  row.id = s.id && row.version = s.version

/-- The `data` of the save. `lastLoginAt` and `registrar_user_id` are absent. -/
def saved (s : UserSnapshot) (row : UserRow) : UserRow :=
  { row with
    email := s.email
    passwordHash := s.passwordHash
    firstName := s.firstName
    lastName := s.lastName
    status := s.status.name
    isPlatformAdmin := s.isPlatformAdmin
    tokenVersion := s.tokenVersion
    deletedAt := s.deletedAt
    updatedAt := s.updatedAt
    version := row.version + 1 }

/-- A row the update would leave with the address of another row. -/
def emailTaken (s : UserSnapshot) (users : List UserRow) : Bool :=
  users.any (lockedOn s) && users.any fun row => row.email = s.email && row.id ≠ s.id

def save (user : User) (users : List UserRow) : Except Failure User × List UserRow :=
  let s := user.toSnapshot
  if emailTaken s users then (.error (.domain emailAlreadyExistsError), users)
  else if users.any (lockedOn s) then
    let written := updateMany (lockedOn s) (saved s) users
    match written.find? fun row => row.id = s.id with
    | none => (.error recordNotFound, users)
    | some row =>
        match toUserEntity row with
        | .ok entity => (.ok entity, written)
        | .error failure => (.error failure, users)
  else if users.any fun row => row.id = s.id then
    (.error (.domain (concurrentModificationError "User" s.id)), users)
  else (.error (.domain (userNotFoundError s.id)), users)

/-- Login telemetry, outside the lock. `@updatedAt` moves as well. -/
def touchLastLogin (userId : Uuid) (time now : Date) (users : List UserRow) : List UserRow :=
  updateMany (fun row => row.id = userId)
    (fun row => { row with lastLoginAt := some time, updatedAt := now }) users

/-! What the calls do to the rows. -/

/-- A save either fails and changes nothing, or writes the row it is locked on. -/
theorem save_users (user : User) (users : List UserRow) :
    (save user users).2 = users ∨
      (save user users).2 = updateMany (lockedOn user.toSnapshot) (saved user.toSnapshot) users ∧
        emailTaken user.toSnapshot users = false ∧
        ∃ row ∈ users, lockedOn user.toSnapshot row := by
  unfold save
  dsimp only
  split
  · exact .inl rfl
  rename_i free
  split
  · rename_i locked
    split
    · exact .inl rfl
    · split
      · exact .inr ⟨rfl, by simpa using free, by simpa using locked⟩
      · exact .inl rfl
  · split <;> exact .inl rfl

end PrismaUserRepository

namespace PrismaRefreshTokenRepository

def findByHash (tokenHash : String) (tokens : List RefreshTokenRow) : Option RefreshToken :=
  (tokens.find? fun row => row.tokenHash = tokenHash).map toRefreshTokenEntity

/-- What the insert stores: the revocation columns are not in its data. -/
def inserted (token : RefreshToken) : RefreshTokenRow where
  id := token.id
  userId := token.userId
  familyId := token.familyId
  tokenHash := token.tokenHash
  expiresAt := token.expiresAt
  revokedAt := none
  revokedReason := none
  userAgent := token.userAgent
  ipAddress := token.ipAddress
  createdAt := token.createdAt

def create (token : RefreshToken) (users : List UserRow) (tokens : List RefreshTokenRow) :
    Except Failure RefreshToken × List RefreshTokenRow :=
  let failed := fun failure => (.error (toInfrastructureError failure "refreshToken.create"), tokens)
  if tokens.any fun row => row.id = token.id then failed (uniqueViolation ["id"])
  else if tokens.any fun row => row.tokenHash = token.tokenHash then
    failed (uniqueViolation ["token_hash"])
  else if !users.any fun row => row.id = token.userId then failed foreignKeyViolation
  else (.ok (toRefreshTokenEntity (inserted token)), tokens ++ [inserted token])

/-- The `data` of the save: only the revocation columns. -/
def savedRevocation (token : RefreshToken) (row : RefreshTokenRow) : RefreshTokenRow :=
  { row with revokedAt := token.revokedAt, revokedReason := token.revokedReason }

def save (token : RefreshToken) (tokens : List RefreshTokenRow) :
    Except Failure RefreshToken × List RefreshTokenRow :=
  match tokens.find? fun row => row.id = token.id with
  | none => (.error (toInfrastructureError recordNotFound "refreshToken.save"), tokens)
  | some row => (.ok (toRefreshTokenEntity (savedRevocation token row)),
      updateMany (fun row => row.id = token.id) (savedRevocation token) tokens)

def revoked (reason : RevocationReason) (time : Date) (row : RefreshTokenRow) : RefreshTokenRow :=
  { row with revokedAt := some time, revokedReason := some reason.text }

/-- The rows a revocation matches: its own filter, and `revokedAt: null`. -/
def revoke (filter : RefreshTokenRow → Bool) (reason : RevocationReason) (time : Date)
    (tokens : List RefreshTokenRow) : Nat × List RefreshTokenRow :=
  let matched := fun row => filter row && row.revokedAt.isNone
  (tokens.countP matched, updateMany matched (revoked reason time) tokens)

def consume (tokenId : Uuid) (reason : RevocationReason) (time : Date)
    (tokens : List RefreshTokenRow) : Bool × List RefreshTokenRow :=
  let (count, tokens) := revoke (fun row => row.id = tokenId) reason time tokens
  (count = 1, tokens)

def revokeFamily (familyId : Uuid) (reason : RevocationReason) (time : Date)
    (tokens : List RefreshTokenRow) : Nat × List RefreshTokenRow :=
  revoke (fun row => row.familyId = familyId) reason time tokens

def revokeAllForUser (userId : Uuid) (reason : RevocationReason) (time : Date)
    (tokens : List RefreshTokenRow) : Nat × List RefreshTokenRow :=
  revoke (fun row => row.userId = userId) reason time tokens

/-- Newest first. -/
def findActiveByUser (userId : Uuid) (now : Date) (tokens : List RefreshTokenRow) :
    List RefreshToken :=
  ((tokens.filter fun row => row.userId = userId && row.revokedAt.isNone && now < row.expiresAt)
    |>.mergeSort fun first second => second.createdAt ≤ first.createdAt).map toRefreshTokenEntity

def deleteExpiredBefore (cutoff : Date) (tokens : List RefreshTokenRow) :
    Nat × List RefreshTokenRow :=
  let expired := fun row : RefreshTokenRow => row.expiresAt < cutoff
  (tokens.countP expired, deleteMany expired tokens)

/-! What the calls do to the rows. -/

/-- A row after some call: its identity is fixed, and a revocation is never undone. -/
structure Evolves (before after : RefreshTokenRow) : Prop where
  id : after.id = before.id
  userId : after.userId = before.userId
  familyId : after.familyId = before.familyId
  tokenHash : after.tokenHash = before.tokenHash
  revoked : before.revokedAt.isSome → after.revokedAt.isSome

theorem Evolves.refl (row : RefreshTokenRow) : Evolves row row :=
  ⟨rfl, rfl, rfl, rfl, fun h => h⟩

theorem Evolves.trans {first second third : RefreshTokenRow} (h : Evolves first second)
    (h' : Evolves second third) : Evolves first third :=
  ⟨h'.id.trans h.id, h'.userId.trans h.userId, h'.familyId.trans h.familyId,
    h'.tokenHash.trans h.tokenHash, fun revoked => h'.revoked (h.revoked revoked)⟩

section

variable {filter : RefreshTokenRow → Bool} {reason : RevocationReason} {time : Date}
  {users : List UserRow} {tokens : List RefreshTokenRow} {token : RefreshToken}
  {row : RefreshTokenRow}

theorem findByHash_eq_some {tokenHash : String} {stored : RefreshToken}
    (h : findByHash tokenHash tokens = some stored) :
    ∃ row ∈ tokens, row.tokenHash = tokenHash ∧ stored = toRefreshTokenEntity row := by
  obtain ⟨row, found, entity⟩ := Option.map_eq_some_iff.mp h
  exact ⟨row, List.mem_of_find?_eq_some found, by simpa using List.find?_some found, entity.symm⟩

/-- After a revocation every matching row is revoked, by it or by an earlier one. -/
theorem mem_revoke (h : row ∈ (revoke filter reason time tokens).2) :
    ∃ before ∈ tokens, Evolves before row ∧ (filter before → row.revokedAt.isSome) := by
  obtain ⟨before, hmem, rfl⟩ := mem_updateMany.mp h
  refine ⟨before, hmem, ?_⟩
  by_cases matched : (filter before && before.revokedAt.isNone) = true
  · rw [if_pos matched]
    exact ⟨⟨rfl, rfl, rfl, rfl, fun _ => rfl⟩, fun _ => rfl⟩
  · rw [if_neg matched]
    refine ⟨.refl before, fun hfilter => ?_⟩
    cases hrevoked : before.revokedAt with
    | none => simp [hfilter, hrevoked] at matched
    | some time => rfl

theorem unique_revoke (h : UniqueKey RefreshTokenRow.id tokens) :
    UniqueKey RefreshTokenRow.id (revoke filter reason time tokens).2 :=
  h.updateMany fun _ => rfl

/-- The winner of a consume found its row unrevoked. -/
theorem consume_won {tokenId : Uuid} (h : (consume tokenId reason time tokens).1 = true) :
    ∃ row ∈ tokens, row.id = tokenId ∧ row.revokedAt = none := by
  have count := of_decide_eq_true h
  obtain ⟨row, hmem, hmatched⟩ := List.countP_pos_iff.mp (by rw [count]; exact Nat.one_pos)
  simp only [Bool.and_eq_true, decide_eq_true_eq, Option.isNone_iff_eq_none] at hmatched
  exact ⟨row, hmem, hmatched⟩

/-- The loser of a consume, if the row is there at all, left it revoked by someone else. -/
theorem consume_lost {tokenId : Uuid} (unique : UniqueKey RefreshTokenRow.id tokens)
    (h : (consume tokenId reason time tokens).1 = false) (hrow : row ∈ tokens)
    (same : row.id = tokenId) : row.revokedAt.isSome := by
  by_contra unrevoked
  have named : ∀ row ∈ tokens, (decide (row.id = tokenId) && row.revokedAt.isNone) = true →
      row.id = tokenId := fun row _ hit => of_decide_eq_true (Bool.and_eq_true_iff.mp hit).1
  have one := unique.countP_le_one named
  have some : 0 < tokens.countP fun row => row.id = tokenId && row.revokedAt.isNone :=
    List.countP_pos_iff.mpr ⟨row, hrow, by simpa [same] using unrevoked⟩
  exact of_decide_eq_false h (Nat.le_antisymm one some)

/-- An insert either fails and changes nothing, or adds a row with a fresh id and hash. -/
theorem create_tokens (token : RefreshToken) (users : List UserRow)
    (tokens : List RefreshTokenRow) :
    (create token users tokens).2 = tokens ∨
      (create token users tokens).2 = tokens ++ [inserted token] ∧
        (create token users tokens).1 = .ok (toRefreshTokenEntity (inserted token)) ∧
        ∀ row ∈ tokens, row.id ≠ token.id := by
  unfold create
  dsimp only
  split
  · exact .inl rfl
  rename_i freshId
  split
  · exact .inl rfl
  split
  · exact .inl rfl
  · exact .inr ⟨rfl, rfl, by simpa using freshId⟩

theorem mem_create (h : row ∈ tokens) : row ∈ (create token users tokens).2 := by
  rcases create_tokens token users tokens with unchanged | ⟨added, -⟩
  · rw [unchanged]
    exact h
  · rw [added]
    exact List.mem_append_left _ h

/-- A token with a new id and hash, of a user there is, is inserted. -/
theorem create_ok (freshId : ∀ row ∈ tokens, row.id ≠ token.id)
    (freshHash : ∀ row ∈ tokens, row.tokenHash ≠ token.tokenHash)
    (owner : ∃ row ∈ users, row.id = token.userId) :
    ∃ stored, (create token users tokens).1 = .ok stored := by
  have noId : ¬(tokens.any fun row => row.id = token.id) := by simpa using freshId
  have noHash : ¬(tokens.any fun row => row.tokenHash = token.tokenHash) := by simpa using freshHash
  have found : (users.any fun row => row.id = token.userId) = true := by simpa using owner
  unfold create
  dsimp only
  rw [if_neg noId, if_neg noHash, found]
  exact ⟨_, rfl⟩

theorem create_eq_error {failure : Failure} (h : (create token users tokens).1 = .error failure) :
    ∃ code message, failure = .infrastructure code message := by
  have wrapped (cause : Failure) (same : (.error (toInfrastructureError cause
      "refreshToken.create") : Except Failure RefreshToken) = .error failure) :
      ∃ code message, failure = .infrastructure code message := by
    obtain ⟨code, message, heq⟩ := toInfrastructureError_eq cause "refreshToken.create"
    rw [heq] at same
    cases same
    exact ⟨code, message, rfl⟩
  unfold create at h
  dsimp only at h
  split at h
  · exact wrapped _ h
  split at h
  · exact wrapped _ h
  split at h
  · exact wrapped _ h
  · cases h

theorem unique_create (h : UniqueKey RefreshTokenRow.id tokens) :
    UniqueKey RefreshTokenRow.id (create token users tokens).2 := by
  rcases create_tokens token users tokens with
    unchanged | ⟨added, -, fresh⟩
  · rw [unchanged]
    exact h
  · rw [added]
    exact h.append fresh

end

end PrismaRefreshTokenRepository

end TenantOS.Infrastructure
