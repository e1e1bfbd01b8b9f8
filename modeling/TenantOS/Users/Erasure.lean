import TenantOS.Auth.Admission
import TenantOS.Users.OptimisticLock

/-! A deleted user: refused at every door for good, and free of personal data for as long
as no call brings any back. -/
namespace TenantOS.Users

open TenantOS.Domain TenantOS.Infrastructure
open TenantOS.Auth.Admission (Backend VerifiedClaims validate_eq_ok findAuthSnapshot_sub)
open TenantOS.Auth.Admission.JwtStrategy (validate)

/-- Each call is made on the aggregate as it was last saved, and saved. -/
def saveEach (row : UserRow) (calls : List (Date × UserMethod)) : UserRow :=
  calls.foldl (fun row call => mutate [call] row) row

def afterErasure (user : User) (now : Date) (calls : List (Date × UserMethod)) : UserRow :=
  saveEach (mutate [(now, .softDelete)] (PrismaUserRepository.created user.toSnapshot)) calls

/-- Neither a password nor a token lets the user in. -/
structure Refused (row : UserRow) : Prop where
  password : ∃ user, toUserEntity row = .ok user ∧
    ∃ error, user.assertCanAuthenticate = .error error
  token : ∀ (backend : Backend) (claims : VerifiedClaims),
    backend.users.find? (fun other => other.id = row.id) = some row →
      claims.sub.bind backend.readUuid = some row.id →
        ∃ failure, validate backend claims = .error failure

/-- What the row keeps of the user is the id. -/
structure ErasedRow (row : UserRow) : Prop where
  email : row.email = row.id ++ "@deleted.invalid"
  passwordHash : row.passwordHash = none
  firstName : row.firstName = none
  lastName : row.lastName = none

/-- The erasure of a user holds of the row. -/
structure ErasureHolds (user : User) (now : Date) (row : UserRow) : Prop where
  id : row.id = user.id
  refused : Refused row
  /-- The first deletion counts. -/
  deletedAt : row.deletedAt = some (user.deletedAt.getD now)
  erased : ErasedRow row

/-! One call. -/

variable {row : UserRow} {user : User}

theorem erasedRow_iff (loads : toUserEntity row = .ok user) : ErasedRow row ↔ user.Erased := by
  obtain ⟨status, -, rfl⟩ := toUserEntity_eq_ok.mp loads
  constructor
  · intro h
    exact ⟨congrArg Email.mk h.email, h.passwordHash, h.firstName, h.lastName⟩
  · intro h
    exact ⟨congrArg Email.value h.email, h.passwordHash, h.firstName, h.lastName⟩

theorem id_of_loads (loads : toUserEntity row = .ok user) : row.id = user.id := by
  obtain ⟨status, -, rfl⟩ := toUserEntity_eq_ok.mp loads
  rfl

theorem deletedAt_of_loads (loads : toUserEntity row = .ok user) :
    row.deletedAt = user.deletedAt := by
  obtain ⟨status, -, rfl⟩ := toUserEntity_eq_ok.mp loads
  rfl

/-- A saved call leaves a row that loads, with what the call left of the aggregate. -/
theorem mutate_loads (loads : toUserEntity row = .ok user) (call : Date × UserMethod) :
    ∃ after, toUserEntity (mutate [call] row) = .ok after ∧ after.id = user.id ∧
      after.deletedAt = (user.apply call.1 call.2).deletedAt ∧
      (after.Erased ↔ (user.apply call.1 call.2).Erased) := by
  have written : mutate [call] row =
      PrismaUserRepository.saved (user.apply call.1 call.2).toSnapshot row := by
    rw [mutate, loads]
    rfl
  have same : user.id = (user.apply call.1 call.2).id := (user.applyAll_id [call]).symm
  have id := id_of_loads loads
  rw [written]
  refine ⟨_, toUserEntity_eq_ok.mpr ⟨_, toUserStatus_name _, rfl⟩, id, rfl, ?_⟩
  have reserved : row.id = (user.apply call.1 call.2).id := id.trans same
  constructor
  · intro h
    exact ⟨h.email.trans (congrArg User.erasedAddress reserved), h.passwordHash, h.firstName,
      h.lastName⟩
  · intro h
    exact ⟨h.email.trans (congrArg User.erasedAddress reserved.symm), h.passwordHash, h.firstName,
      h.lastName⟩

/-! The runs. -/

/-- The date of the deletion stays, whatever is called. -/
theorem saveEach_deleted {first : Date} (loads : toUserEntity row = .ok user)
    (deleted : user.deletedAt = some first) (calls : List (Date × UserMethod)) :
    ∃ after, toUserEntity (saveEach row calls) = .ok after ∧ after.id = user.id ∧
      after.deletedAt = some first := by
  induction calls generalizing row user with
  | nil => exact ⟨user, loads, rfl, deleted⟩
  | cons call calls ih =>
    obtain ⟨next, loads', id, date, -⟩ := mutate_loads loads call
    rw [User.apply_deletedAt deleted] at date
    obtain ⟨after, last, same, kept⟩ := ih loads' date
    exact ⟨after, last, same.trans id, kept⟩

/-- The personal data stays away along a run exactly when no call brings any back. -/
theorem saveEach_erased_iff {first : Date} (loads : toUserEntity row = .ok user)
    (deleted : user.deletedAt = some first) (calls : List (Date × UserMethod)) :
    (∀ n, ErasedRow (saveEach row (calls.take n))) ↔
      user.Erased ∧ ∀ call ∈ calls, User.keepsErased user.id call.2 := by
  induction calls generalizing row user with
  | nil =>
    rw [← erasedRow_iff loads]
    simp [saveEach]
  | cons call calls ih =>
    obtain ⟨next, loads', id, date, erased⟩ := mutate_loads loads call
    rw [User.apply_deletedAt deleted] at date
    have rest := ih loads' date
    rw [erased, id] at rest
    have split : (∀ n, ErasedRow (saveEach row ((call :: calls).take n))) ↔
        ErasedRow row ∧ ∀ n, ErasedRow (saveEach (mutate [call] row) (calls.take n)) :=
      Nat.and_forall_add_one.symm
    rw [split, rest, erasedRow_iff loads, List.forall_mem_cons, ← and_assoc, ← and_assoc]
    refine and_congr_left' (and_congr_right fun before => ?_)
    exact User.apply_erased_iff (by rw [User.isDeleted, deleted]; rfl) before call.1 call.2

theorem refused_of_deleted {first : Date} (loads : toUserEntity row = .ok user)
    (deleted : user.deletedAt = some first) : Refused row := by
  have gone : user.isDeleted := by
    rw [User.isDeleted, deleted]
    rfl
  refine ⟨⟨user, loads, ?_⟩, ?_⟩
  · rw [User.assertCanAuthenticate, if_pos (by rw [gone]; rfl)]
    exact ⟨_, rfl⟩
  · intro backend claims found named
    cases answer : validate backend claims with
    | error failure => exact ⟨failure, rfl⟩
    | ok principal =>
      obtain ⟨-, snapshot, ⟨-, stored, present, -⟩, -⟩ := validate_eq_ok.mp answer
      obtain ⟨text, sub, read⟩ := Option.bind_eq_some_iff.mp named
      rw [sub, Auth.Admission.findAuthSnapshot, read] at stored
      change PrismaUserRepository.findAuthSnapshot row.id backend.users = _ at stored
      rw [PrismaUserRepository.findAuthSnapshot, found] at stored
      obtain ⟨status, known, rfl⟩ := toUserEntity_eq_ok.mp loads
      simp only [known, Except.map, Except.ok.injEq, Option.some.injEq] at stored
      have date : row.deletedAt = none := (congrArg (·.deletedAt) stored).trans present
      cases date.symm.trans deleted

theorem afterErasure_refused (user : User) (now : Date) (calls : List (Date × UserMethod)) :
    (afterErasure user now calls).id = user.id ∧ Refused (afterErasure user now calls) ∧
      (afterErasure user now calls).deletedAt = some (user.deletedAt.getD now) := by
  obtain ⟨deleted, loads, id, date, -⟩ :=
    mutate_loads (PrismaUserRepository.toUserEntity_created user) (now, .softDelete)
  rw [show (user.apply now .softDelete) = user.softDelete now from rfl,
    User.softDelete_deletedAt] at date
  obtain ⟨after, last, same, kept⟩ := saveEach_deleted loads date calls
  exact ⟨(id_of_loads last).trans (same.trans id), refused_of_deleted last kept,
    (deletedAt_of_loads last).trans kept⟩

/-- Erasure is final exactly when the user was not deleted before with personal data left, and
no later call brings any back. -/
theorem erasure_final_iff (user : User) (now : Date) (calls : List (Date × UserMethod)) :
    (∀ n, ErasureHolds user now (afterErasure user now (calls.take n))) ↔
      (user.isDeleted → user.Erased) ∧ ∀ call ∈ calls, User.keepsErased user.id call.2 := by
  obtain ⟨deleted, loads, id, date, erased⟩ :=
    mutate_loads (PrismaUserRepository.toUserEntity_created user) (now, .softDelete)
  rw [show (user.apply now .softDelete) = user.softDelete now from rfl,
    User.softDelete_deletedAt] at date
  rw [show (user.apply now .softDelete) = user.softDelete now from rfl,
    User.erased_softDelete_iff] at erased
  have personal := saveEach_erased_iff loads date calls
  rw [erased, id] at personal
  rw [← personal]
  constructor
  · intro h n
    exact (h n).erased
  · intro h n
    obtain ⟨same, refused, first⟩ := afterErasure_refused user now (calls.take n)
    exact ⟨same, refused, first, h n⟩

/-! A password for a deleted user. -/

def invitedUser : User where
  id := "6f1a4b52-8c1e-4c53-9d1f-0a2b3c4d5e6f"
  email := ⟨"ada@example.com"⟩
  passwordHash := none
  firstName := some "Ada"
  lastName := none
  status := .invited
  isPlatformAdmin := false
  tokenVersion := 0
  lastLoginAt := none
  version := 0
  createdAt := 0
  updatedAt := 0
  deletedAt := none
  registrarUserId := none

theorem password_not_erased : ¬∀ n, ErasureHolds invitedUser 1
    (afterErasure invitedUser 1 ([(2, .setPasswordHash "hash")].take n)) := by
  intro h
  have gone := (h 1).erased.passwordHash
  exact absurd gone (by decide)

end TenantOS.Users
