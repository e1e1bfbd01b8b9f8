import TenantOS.Application.AuthUseCases
import TenantOS.Relational.Enlistment

/-! `PrismaUserRepository` again, statement by statement, and its clients: each
loads a user, calls methods on it and saves it, or records a login. -/
namespace TenantOS.Users

open TenantOS.Domain TenantOS.Infrastructure TenantOS.Interleaving TenantOS.Relational
open TenantOS.Application
open PrismaUserRepository (lockedOn saved)

/-- The unique indexes of `users`: the primary key, and `email`. -/
def usersClash (row other : UserRow) : Option (List String) :=
  if row.id = other.id then some ["id"]
  else if row.email = other.email then some ["email"]
  else none

theorem usersClash_eq_none {row other : UserRow} :
    usersClash row other = none ↔ row.id ≠ other.id ∧ row.email ≠ other.email := by
  unfold usersClash
  split
  · simp [*]
  · split <;> simp [*]

abbrev userSchema : Schema where
  Table := Unit
  Row _ := UserRow
  clash _ := usersClash
  symm _ row other h := by
    rw [usersClash_eq_none] at h ⊢
    exact ⟨Ne.symm h.1, Ne.symm h.2⟩

abbrev UserSql (α : Type) := Sql userSchema Failure α

/-! Reads. -/

def lookupWhere : UserLookup → UserRow → Bool
  | .byId id _, row => row.id = id
  | .byEmail email _, row => row.email = email.value

def readUser : UserLookup → List UserRow → Except Failure (Option User)
  | .byId id includeDeleted, rows => PrismaUserRepository.findById id includeDeleted rows
  | .byEmail email includeDeleted, rows => PrismaUserRepository.findByEmail email includeDeleted rows

def orThrow {α : Type} : Except Failure α → UserSql α
  | .ok value => pure value
  | .error failure => throw failure

def find (lookup : UserLookup) : UserSql (Option User) := do
  let rows ← Sql.findMany none () (lookupWhere lookup)
  orThrow (readUser lookup rows)

/-! Writes. -/

def rowOf (id : Uuid) (row : UserRow) : Bool :=
  row.id = id

/-- `catch` of the locked update. -/
def saveFailure (failure : Failure) : Failure :=
  if isUniqueViolation failure "email" then .domain emailAlreadyExistsError
  else toInfrastructureError failure "user.save"

/-- Zero rows has two causes. -/
def refuseSave (tx : Nat) (id : Uuid) : UserSql User := do
  let exists_ ← Sql.findMany (some tx) () (rowOf id)
  if exists_.isEmpty then throw (.domain (userNotFoundError id))
  else throw (.domain (concurrentModificationError "User" id))

/-- Re-read inside the same transaction, so the returned aggregate carries the
incremented `version`. -/
def rereadSaved (tx : Nat) (id : Uuid) : UserSql User := do
  let rows ← Sql.findMany (some tx) () (rowOf id)
  match rows with
  | [] => throw recordNotFound
  | row :: _ => orThrow (toUserEntity row)

def save (user : User) : UserSql User :=
  let s := user.toSnapshot
  Sql.runInTransaction fun tx => do
    let count ← tryCatch (Sql.updateMany tx () (lockedOn s) (saved s)) fun failure =>
      throw (saveFailure failure)
    if count = 0 then refuseSave tx s.id else rereadSaved tx s.id

/-- `@updatedAt` moves as well. -/
def touched (time now : Date) (row : UserRow) : UserRow :=
  { row with lastLoginAt := some time, updatedAt := now }

/-- A statement of its own, outside the lock. -/
def touchLastLogin (userId : Uuid) (time now : Date) : UserSql Unit :=
  tryCatch
    (do
      let _ ← Sql.runInTransaction fun tx =>
        Sql.updateMany tx () (rowOf userId) (touched time now)
      pure ())
    fun failure => throw (toInfrastructureError failure "user.touchLastLogin")

/-! Clients. -/

inductive Command where
  | edit (lookup : UserLookup) (calls : List (Date × UserMethod))
  | touchLastLogin (userId : Uuid) (time now : Date)
deriving DecidableEq

inductive Outcome where
  | missing
  | saved (user : User)
  | touched
deriving DecidableEq

def body : Command → UserSql Outcome
  | .edit lookup calls => do
      let found ← find lookup
      match found with
      | none => pure .missing
      | some user => do
          let stored ← save (user.applyAll calls)
          pure (.saved stored)
  | .touchLastLogin userId time now => do
      touchLastLogin userId time now
      pure .touched

abbrev service : System :=
  sqlService userSchema uniqueViolation DriverFault.raise body

/-! What a client has learnt so far. -/

structure Knowledge where
  command : Command
  /-- The aggregate it loaded. -/
  user : Option User
  tx : Option Nat
  /-- A row its update was answered to have written. -/
  wrote : Bool
  /-- The row its re-read showed it. -/
  reread : Option UserRow
  /-- What became of the commit it asked for. -/
  commit : Option (Except Failure Unit)
  /-- It has asked for the rollback. -/
  aborted : Bool

def Knowledge.start (command : Command) : Knowledge where
  command := command
  user := none
  tx := none
  wrote := false
  reread := none
  commit := none
  aborted := false

def Knowledge.loads (k : Knowledge) (rows : List UserRow) : Option User :=
  match k.command with
  | .edit lookup _ => (readUser lookup rows).toOption.join
  | .touchLastLogin .. => none

def observe (k : Knowledge) : (c : SqlCall userSchema) → Except Failure c.Reply → Knowledge
  | .begin, .ok tx => { k with tx := some tx, wrote := false }
  | .select none _ _, .ok rows => { k with user := k.loads rows }
  | .select (some _) _ _, .ok rows => { k with reread := List.head? rows }
  | .update .., .ok true => { k with wrote := true }
  | .commit _, reply => { k with commit := some reply }
  | .rollback _, _ => { k with aborted := true }
  | _, _ => k

def Knowledge.Open (k : Knowledge) (tx : Nat) : Prop :=
  k.tx = some tx ∧ k.commit = none ∧ k.aborted = false

/-- The one update a client issues: its `WHERE` and its `SET`. -/
def Knowledge.Issues (k : Knowledge) (whereClause : UserRow → Bool) (data : UserRow → UserRow) :
    Prop :=
  (∃ lookup calls user, k.command = .edit lookup calls ∧ k.user = some user ∧
    whereClause = lockedOn (user.applyAll calls).toSnapshot ∧
    data = saved (user.applyAll calls).toSnapshot) ∨
  ∃ userId time now, k.command = .touchLastLogin userId time now ∧ whereClause = rowOf userId ∧
    data = touched time now

def permits (k : Knowledge) : SqlCall userSchema → Prop
  | .begin => k.tx = none
  | .commit tx => k.Open tx ∧
      ∀ lookup calls, k.command = .edit lookup calls → k.wrote ∧ k.reread.isSome
  | .rollback tx => k.tx = some tx
  | .select none _ whereClause => k.tx = none ∧
      ∃ lookup calls, k.command = .edit lookup calls ∧ whereClause = lookupWhere lookup
  | .select (some tx) _ whereClause => k.Open tx ∧
      ∃ lookup calls user, k.command = .edit lookup calls ∧ k.user = some user ∧
        whereClause = rowOf user.id
  | .targets tx _ _ => k.tx = some tx
  | .update tx _ _ whereClause data =>
      k.Open tx ∧ k.reread = none ∧ k.Issues whereClause data
  | .insert .. => False

/-- What a failed client may say: no error of the domain once the commit was asked for. -/
def Fails (k : Knowledge) : Failure → Prop
  | .domain error => k.commit = none ∨ k.commit = some (.error (.domain error))
  | _ => True

def accepts (k : Knowledge) : Except Failure Outcome → Prop
  | .ok (.saved user) => (∃ lookup calls, k.command = .edit lookup calls) ∧
      k.commit = some (.ok ()) ∧ ∃ row, k.reread = some row ∧ toUserEntity row = .ok user
  | .error failure => Fails k failure
  | .ok _ => True

abbrev monitor : Monitor (sqlInterface userSchema) Failure where
  State := Knowledge
  observe := observe
  permits := permits

/-! Every client follows the discipline. -/

theorem conforms_orThrow {α : Type} {accepts : Knowledge → Except Failure α → Prop} {k : Knowledge}
    {result : Except Failure α} (h : accepts k result) :
    monitor.Conforms accepts k (orThrow result) := by
  cases result <;> exact h

theorem fails_of_uncommitted {k : Knowledge} (h : k.commit = none) (failure : Failure) :
    Fails k failure := by
  cases failure <;> first | exact .inl h | trivial

/-- A save of what the client loaded. -/
def SaveEnds (k : Knowledge) : Except Failure User → Prop
  | .ok user => (∃ lookup calls, k.command = .edit lookup calls) ∧
      k.commit = some (.ok ()) ∧ ∃ row, k.reread = some row ∧ toUserEntity row = .ok user
  | .error failure => Fails k failure

theorem aborts_save {k : Knowledge} {tx : Nat} {failure : Failure} (enlisted : k.tx = some tx)
    (fails : Fails k failure) : Sql.Aborts monitor SaveEnds tx k failure :=
  ⟨enlisted, fun _ => fails⟩

/-- The client is inside its transaction, which may still commit. -/
structure Inside (command : Command) (user : Option User) (tx : Nat) (k : Knowledge) : Prop where
  command : k.command = command
  user : k.user = user
  still : k.Open tx
  unread : k.reread = none

theorem conforms_updateMany {command : Command} {user : Option User} {tx : Nat} {k : Knowledge}
    {whereClause : UserRow → Bool} {data : UserRow → UserRow} (inside : Inside command user tx k)
    (issues : ∀ k, Inside command user tx k → k.Issues whereClause data) :
    monitor.Conforms (fun (k : Knowledge) result => Inside command user tx k ∧
      ∀ count, result = .ok count → count ≠ 0 → k.wrote) k
      (Sql.updateMany tx () whereClause data) := by
  refine Monitor.conforms_perform_bind.mpr ⟨inside.still.1, fun is => ?_, fun _ => ⟨inside, nofun⟩⟩
  refine Sql.conforms_updateRows
    (P := fun (k : Knowledge) count => Inside command user tx k ∧ (count ≠ 0 → k.wrote)) ?_ ?_
    ⟨inside, nofun⟩ is
  · rintro k count i ⟨inside, wrote⟩
    refine ⟨⟨inside.still, inside.unread, issues k inside⟩, fun matched => ?_,
      fun _ => ⟨inside, nofun⟩⟩
    cases matched with
    | false => exact ⟨inside, wrote⟩
    | true => exact ⟨⟨inside.command, inside.user, inside.still, inside.unread⟩, fun _ => rfl⟩
  · rintro k count ⟨inside, wrote⟩
    exact ⟨inside, fun _ same => by cases same; exact wrote⟩

theorem conforms_save {lookup : UserLookup} {calls : List (Date × UserMethod)} {user : User}
    {k : Knowledge} (edits : k.command = .edit lookup calls) (loaded : k.user = some user)
    (outside : k.tx = none) (fresh : k.commit = none) (unaborted : k.aborted = false)
    (unread : k.reread = none) :
    monitor.Conforms SaveEnds k (save (user.applyAll calls)) := by
  refine Sql.conforms_runInTransaction outside (fails_of_uncommitted fresh) fun tx => ?_
  refine Monitor.Conforms.bind (Monitor.Conforms.recover ?_)
  have aborts {k : Knowledge} (inside : Inside (.edit lookup calls) (some user) tx k)
      (failure : Failure) : Sql.Aborts monitor SaveEnds tx k failure :=
    aborts_save inside.still.1 (fails_of_uncommitted inside.still.2.1 failure)
  refine (conforms_updateMany (k := { k with tx := some tx, wrote := false }) ⟨edits, loaded, ⟨rfl, fresh, unaborted⟩, unread⟩ fun k inside =>
    .inl ⟨lookup, calls, user, inside.command, inside.user, rfl, rfl⟩).mono ?_
  rintro k result ⟨inside, wrote⟩
  have shown (row : Option UserRow) (failure : Failure) :
      Sql.Aborts monitor SaveEnds tx { k with reread := row } failure :=
    aborts_save inside.still.1 (fails_of_uncommitted inside.still.2.1 failure)
  have reads : permits k (.select (some tx) () (rowOf user.id)) :=
    ⟨inside.still, lookup, calls, user, inside.command, inside.user, rfl⟩
  cases result with
  | error failure => exact aborts inside _
  | ok count =>
    dsimp only
    have sameId : (user.applyAll calls).toSnapshot.id = user.id := user.applyAll_id calls
    rw [sameId]
    split
    · refine Monitor.conforms_perform_bind.mpr ⟨reads, fun (rows : List UserRow) => ?_,
        fun failure => aborts inside _⟩
      split
      · exact shown rows.head? _
      · exact shown rows.head? _
    rename_i matched
    refine Monitor.conforms_perform_bind.mpr ⟨reads, fun (rows : List UserRow) => ?_,
      fun failure => aborts inside _⟩
    cases rows with
    | nil => exact shown none _
    | cons row rest =>
      refine conforms_orThrow ?_
      cases entity : toUserEntity row with
      | error failure => exact shown (some row) failure
      | ok stored =>
        refine ⟨⟨inside.still, fun _ _ _ => ⟨wrote count rfl matched, rfl⟩⟩,
          ⟨⟨lookup, calls, inside.command⟩, rfl, row, rfl, entity⟩, fun failure => aborts_save inside.still.1 ?_⟩
        cases failure <;> first | exact .inr rfl | trivial

theorem conforms_touchLastLogin {userId : Uuid} {time now : Date} {k : Knowledge}
    (touches : k.command = .touchLastLogin userId time now) (outside : k.tx = none)
    (fresh : k.commit = none) (unaborted : k.aborted = false)
    (unread : k.reread = none) :
    monitor.Conforms (fun _ _ => True) k
      (Sql.runInTransaction fun tx => Sql.updateMany tx () (rowOf userId) (touched time now)) := by
  refine Sql.conforms_runInTransaction outside (fun _ => trivial) fun tx => ?_
  refine (conforms_updateMany (k := { k with tx := some tx, wrote := false }) ⟨touches, rfl, ⟨rfl, fresh, unaborted⟩, unread⟩
    fun k inside => .inr ⟨userId, time, now, inside.command, rfl, rfl⟩).mono ?_
  rintro k result ⟨inside, -⟩
  cases result with
  | error failure => exact ⟨inside.still.1, fun _ => trivial⟩
  | ok count =>
    refine ⟨⟨inside.still, fun lookup calls edits => ?_⟩, trivial,
      fun failure => ⟨inside.still.1, fun _ => trivial⟩⟩
    rw [inside.command] at edits
    contradiction

theorem conforms_body (command : Command) :
    monitor.Conforms accepts (.start command) (body command) := by
  cases command with
  | edit lookup calls =>
    have outside : (Knowledge.start (.edit lookup calls)).commit = none := rfl
    refine Monitor.Conforms.bind (Monitor.conforms_perform_bind.mpr
      ⟨⟨rfl, lookup, calls, rfl, rfl⟩, fun (rows : List UserRow) => conforms_orThrow ?_,
        fun failure => fails_of_uncommitted outside failure⟩)
    cases found : readUser lookup rows with
    | error failure => exact fails_of_uncommitted outside failure
    | ok user =>
      cases user with
      | none => exact trivial
      | some user =>
        refine Monitor.Conforms.bind ((conforms_save rfl ?_ rfl rfl rfl rfl).mono ?_)
        · simp [observe, Knowledge.loads, Knowledge.start, found, Except.toOption]
        · rintro k result ends
          cases result with
          | error failure => exact ends
          | ok stored => exact ends
  | touchLastLogin userId time now =>
    refine Monitor.Conforms.bind (Monitor.Conforms.recover (Monitor.Conforms.bind
      ((conforms_touchLastLogin rfl rfl rfl rfl rfl).mono ?_)))
    rintro k result -
    cases result with
    | ok count => exact trivial
    | error failure =>
      obtain ⟨code, message, same⟩ := toInfrastructureError_eq failure "user.touchLastLogin"
      change Fails k (toInfrastructureError failure "user.touchLastLogin")
      rw [same]
      trivial

abbrev discipline : Discipline service where
  State := Knowledge
  observe := observe
  permits := permits
  initial := .start
  accepts := accepts
  conforms := conforms_body

end TenantOS.Users
