import TenantOS.Relational.Alone
import TenantOS.Users.Serialization

/-! The locked save of `PrismaUserRepository`, statement by statement and as one step. -/
namespace TenantOS.Transactions

open TenantOS.Domain TenantOS.Infrastructure TenantOS.Interleaving TenantOS.Relational
open TenantOS.Application TenantOS.Users
open PrismaUserRepository (lockedOn saved emailTaken)

/-- The rows of `users`, the only table there is. -/
def usersOnly (users : List UserRow) : Contents userSchema :=
  fun _ => users

theorem update_users {users rows : List UserRow} :
    Function.update (usersOnly users) () rows = usersOnly rows :=
  funext fun _ => Function.update_self ..

/-! What the statements of the save do to the rows. -/

def ofExcept {α : Type} : Except Failure α → Sql.Joined userSchema Failure α
  | .ok value => pure value
  | .error failure => throw failure

def refused (id : Uuid) : Sql.Joined userSchema Failure User := do
  let exists_ ← Sql.rowsWhere (S := userSchema) () (rowOf id)
  if exists_.isEmpty then throw (.domain (userNotFoundError id))
  else throw (.domain (concurrentModificationError "User" id))

def firstUser : List UserRow → Sql.Joined userSchema Failure User
  | [] => throw recordNotFound
  | row :: _ => ofExcept (toUserEntity row)

def reread (id : Uuid) : Sql.Joined userSchema Failure User :=
  Sql.rowsWhere (S := userSchema) () (rowOf id) >>= firstUser

def saveStep (user : User) : Sql.Joined userSchema Failure User :=
  (fun contents => (Sql.rewritten (S := userSchema) uniqueViolation () (lockedOn user.toSnapshot)
    (saved user.toSnapshot) contents).mapError saveFailure) >>= fun count =>
      if count = 0 then refused user.toSnapshot.id else reread user.toSnapshot.id

theorem performs_save (user : User) (tx : Nat) : Sql.Performs uniqueViolation tx
    (do
      let count ← tryCatch (Sql.updateMany (S := userSchema) tx () (lockedOn user.toSnapshot)
        (saved user.toSnapshot)) fun failure => throw (saveFailure failure)
      if count = 0 then refuseSave tx user.toSnapshot.id else rereadSaved tx user.toSnapshot.id)
    (saveStep user) := by
  refine (Sql.performs_updateMany.rethrowing saveFailure).bind fun count => ?_
  split
  · refine Sql.performs_findMany.bind fun rows => ?_
    split <;> exact Sql.performs_throw _
  · refine Sql.performs_findMany.bind fun rows => ?_
    cases rows with
    | nil => exact Sql.performs_throw _
    | cons row _ =>
      cases entity : toUserEntity row with
      | ok user =>
        simp only [firstUser, entity]
        exact Sql.performs_pure user
      | error failure =>
        simp only [firstUser, entity]
        exact Sql.performs_throw failure

/-! The save as one step. -/

section

variable {users : List UserRow} {user : User}

theorem unique_of_usersClash (distinct : Distinct usersClash users) : UniqueKey (·.id) users :=
  List.pairwise_map.mpr (distinct.imp fun apart => (usersClash_eq_none.mp apart).1)

theorem named_of_lockedOn {s : UserSnapshot} {row : UserRow} (matched : lockedOn s row) :
    row.id = s.id := by
  simp only [lockedOn, Bool.and_eq_true, decide_eq_true_eq] at matched
  exact matched.1

theorem saveStep_missed (missed : users.find? (lockedOn user.toSnapshot) = none) :
    saveStep user (usersOnly users) =
      if users.any fun row => row.id = user.toSnapshot.id then
        .error (.domain (concurrentModificationError "User" user.toSnapshot.id))
      else .error (.domain (userNotFoundError user.toSnapshot.id)) := by
  have unmatched : ∀ row ∈ users, lockedOn user.toSnapshot row = false :=
    fun row present => by simpa using List.find?_eq_none.mp missed row present
  have counts : (Sql.rewritten (S := userSchema) uniqueViolation () (lockedOn user.toSnapshot)
      (saved user.toSnapshot) : Sql.Joined userSchema Failure Nat) (usersOnly users) = _ :=
    Sql.rewritten_of_ok (rewriteRows_unmatched unmatched)
  have empty : (users.filter (rowOf user.toSnapshot.id)).isEmpty =
      !users.any fun row => row.id = user.toSnapshot.id := by
    rw [Bool.eq_iff_iff]
    simp [rowOf]
  rw [saveStep, Sql.joined_bind, counts]
  change (if (users.filter (rowOf user.toSnapshot.id)).isEmpty then
    throw (.domain (userNotFoundError user.toSnapshot.id)) else
    throw (.domain (concurrentModificationError "User" user.toSnapshot.id)) : Sql.Joined userSchema Failure User)
      (usersOnly users) = _
  rw [empty]
  cases users.any fun row => row.id = user.toSnapshot.id <;> rfl

/-- The new version of a row collides with the others on the address alone. -/
theorem clash_of_saved {s : UserSnapshot} {row : UserRow} {rest : List UserRow}
    (others : ∀ other ∈ rest, other.id ≠ s.id) (named : row.id = s.id) :
    rest.findSome? (usersClash (saved s row)) =
      if rest.any (fun other => other.email = s.email) then some ["email"] else none := by
  induction rest with
  | nil => rfl
  | cons other rest ih =>
    have apart : row.id ≠ other.id := fun same => others other List.mem_cons_self (same ▸ named)
    have clash : usersClash (saved s row) other = if other.email = s.email then some ["email"] else none := by
      by_cases same : other.email = s.email
      · simp [usersClash, saved, apart, same]
      · simp [usersClash, saved, apart, same, Ne.symm same]
    rw [List.findSome?_cons, clash, List.any_cons,
      ih fun next present => others next (List.mem_cons_of_mem _ present)]
    by_cases same : other.email = s.email <;> simp [same]

theorem emailTaken_split {s : UserSnapshot} {row : UserRow} {pre post : List UserRow}
    (matched : lockedOn s row) (named : row.id = s.id) (others : ∀ other ∈ pre ++ post, other.id ≠ s.id) :
    emailTaken s (pre ++ row :: post) = (pre ++ post).any fun other => other.email = s.email := by
  have locked : (pre ++ row :: post).any (lockedOn s) = true :=
    List.any_eq_true.mpr ⟨row, by simp, matched⟩
  rw [emailTaken, locked, Bool.true_and, Bool.eq_iff_iff, List.any_eq_true, List.any_eq_true]
  constructor
  · rintro ⟨other, present, taken⟩
    simp only [Bool.and_eq_true, decide_eq_true_eq] at taken
    refine ⟨other, ?_, by simpa using taken.1⟩
    rcases List.mem_append.mp present with earlier | later
    · exact List.mem_append_left _ earlier
    · rcases List.mem_cons.mp later with rfl | later
      · exact absurd named taken.2
      · exact List.mem_append_right _ later
  · rintro ⟨other, present, taken⟩
    refine ⟨other, ?_, ?_⟩
    · rcases List.mem_append.mp present with earlier | later <;> simp [*]
    · simpa [others other present] using taken

theorem reread_eq {id : Uuid} {rows : List UserRow} {row : UserRow}
    (one : rows.filter (rowOf id) = [row]) :
    reread id (usersOnly rows) = (toUserEntity row).map fun entity => (entity, usersOnly rows) := by
  have selects : (Sql.rowsWhere (S := userSchema) () (rowOf id) : Sql.Joined userSchema Failure _)
      (usersOnly rows) = .ok ([row], usersOnly rows) :=
    congrArg (fun found => Except.ok (found, usersOnly rows)) one
  rw [reread, Sql.joined_bind, selects]
  change ofExcept (toUserEntity row) (usersOnly rows) = _
  cases toUserEntity row <;> rfl

theorem saveStep_eq (distinct : Distinct usersClash users) :
    Sql.atomically (saveStep user) (usersOnly users) =
      ((PrismaUserRepository.save user users).1,
        usersOnly (PrismaUserRepository.save user users).2) := by
  cases found : users.find? (lockedOn user.toSnapshot) with
  | none =>
    have unlocked : users.any (lockedOn user.toSnapshot) = false := by
      simpa using List.find?_eq_none.mp found
    rw [Sql.atomically, saveStep_missed found]
    simp only [PrismaUserRepository.save, emailTaken, unlocked]
    cases users.any fun row => row.id = user.toSnapshot.id <;> rfl
  | some row =>
    obtain ⟨pre, post, rfl, matched, named, others⟩ :=
      split_of_find (unique_of_usersClash distinct) (fun _ => named_of_lockedOn) found
    have elsewhere (other : UserRow) (present : other ∈ pre ++ post) :
        lockedOn user.toSnapshot other = false := by
      simp [lockedOn, others other present]
    have written : rewriteRows usersClash (lockedOn user.toSnapshot) (saved user.toSnapshot) []
        (pre ++ row :: post) 0 = _ := rewriteRows_one matched
      (fun other present => elsewhere other (List.mem_append_left _ present))
      (fun other present => elsewhere other (List.mem_append_right _ present))
    rw [List.nil_append, clash_of_saved others named] at written
    have locked : (pre ++ row :: post).any (lockedOn user.toSnapshot) = true :=
      List.any_eq_true.mpr ⟨row, by simp, matched⟩
    cases taken : (pre ++ post).any fun other => other.email = user.toSnapshot.email with
    | true =>
      rw [taken, if_pos rfl] at written
      have refuses : (Sql.rewritten (S := userSchema) uniqueViolation () (lockedOn user.toSnapshot)
          (saved user.toSnapshot) : Sql.Joined userSchema Failure Nat)
            (usersOnly (pre ++ row :: post)) = _ := Sql.rewritten_of_error written
      rw [Sql.atomically, saveStep, Sql.joined_bind, refuses, PrismaUserRepository.save,
        emailTaken_split matched named others, taken]
      rfl
    | false =>
      rw [taken, if_neg Bool.false_ne_true] at written
      have writes : (Sql.rewritten (S := userSchema) uniqueViolation () (lockedOn user.toSnapshot)
          (saved user.toSnapshot) : Sql.Joined userSchema Failure Nat)
            (usersOnly (pre ++ row :: post)) = _ := Sql.rewritten_of_ok written
      have updated : updateMany (lockedOn user.toSnapshot) (saved user.toSnapshot)
          (pre ++ row :: post) = _ := updateMany_one matched elsewhere
      have rereads : (pre ++ saved user.toSnapshot row :: post).filter (rowOf user.toSnapshot.id) =
          [saved user.toSnapshot row] := filter_key named others
      have finds : (pre ++ saved user.toSnapshot row :: post).find?
          (fun other => other.id = user.toSnapshot.id) = some (saved user.toSnapshot row) := by
        rw [← List.head?_filter]
        exact congrArg List.head? rereads
      have settled : saveStep user (usersOnly (pre ++ row :: post)) =
          (toUserEntity (saved user.toSnapshot row)).map fun entity =>
            (entity, usersOnly (pre ++ saved user.toSnapshot row :: post)) := by
        rw [saveStep, Sql.joined_bind, writes, update_users, ← reread_eq rereads]
        rfl
      rw [Sql.atomically, settled, PrismaUserRepository.save,
        emailTaken_split matched named others, taken]
      simp only [locked, updated, finds]
      cases toUserEntity (saved user.toSnapshot row) <;> rfl

end

/-! Its clients. -/

/-- A command as one step over the rows of `users`. -/
def userStep : Users.Command → List UserRow → Except Failure Users.Outcome × List UserRow
  | .edit lookup calls, users =>
      match readUser lookup users with
      | .error failure => (.error failure, users)
      | .ok none => (.ok .missing, users)
      | .ok (some user) =>
          let settled := PrismaUserRepository.save (user.applyAll calls) users
          (settled.1.map .saved, settled.2)
  | .touchLastLogin userId time now, users =>
      (.ok .touched, PrismaUserRepository.touchLastLogin userId time now users)

theorem readUser_filter {lookup : UserLookup} {users : List UserRow} :
    readUser lookup (users.filter (lookupWhere lookup)) = readUser lookup users := by
  cases lookup with
  | byId id includeDeleted =>
    simp only [readUser, PrismaUserRepository.findById, List.find?_filter, lookupWhere]
    simp
  | byEmail email includeDeleted =>
    simp only [readUser, PrismaUserRepository.findByEmail, List.find?_filter, lookupWhere]
    simp

/-- Alone over `users`, the client ends with `result` and leaves `users'`. -/
def Ends {α : Type} (users : List UserRow) (program : UserSql α) (result : Except Failure α)
    (users' : List UserRow) : Prop :=
  ∀ db : Database userSchema, db.Quiet → db.tables = usersOnly users → ∃ db',
    Sql.Settles uniqueViolation program db result db' ∧ db'.Quiet ∧ db'.tables = usersOnly users'

section

variable {α β : Type} {users users' mid : List UserRow}

theorem ends_of_commits {program : UserSql α} {step : Sql.Committed userSchema Failure α}
    {result : Except Failure α} (commits : Sql.Commits uniqueViolation program step)
    (same : step (usersOnly users) = (result, usersOnly users')) : Ends users program result users' := by
  intro db quiet holds
  obtain ⟨db', settles, quiet', left⟩ := commits db quiet
  rw [holds, same] at settles left
  exact ⟨db', settles, quiet', left⟩

theorem ends_done {result : Except Failure α} : Ends users (.done result) result users :=
  fun db quiet holds => ⟨db, rfl, quiet, holds⟩

theorem Ends.bind {program : UserSql α} {next : α → UserSql β} {value : α} {result : Except Failure β}
    (h : Ends users program (.ok value) mid) (rest : Ends mid (next value) result users') :
    Ends users (program >>= next) result users' := by
  intro db quiet holds
  obtain ⟨db₁, settles, quiet₁, left⟩ := h db quiet holds
  obtain ⟨db', settles', quiet', left'⟩ := rest db₁ quiet₁ left
  exact ⟨db', settles.bind settles', quiet', left'⟩

theorem Ends.bind_error {program : UserSql α} {next : α → UserSql β} {failure : Failure}
    (h : Ends users program (.error failure) users') :
    Ends users (program >>= next) (.error failure) users' := by
  intro db quiet holds
  obtain ⟨db', settles, quiet', left⟩ := h db quiet holds
  exact ⟨db', settles.bind_error, quiet', left⟩

theorem ends_find (lookup : UserLookup) : Ends users (find lookup) (readUser lookup users) users := by
  have reads : Ends users (Sql.findMany (S := userSchema) none () (lookupWhere lookup))
      (.ok (users.filter (lookupWhere lookup))) users := ends_of_commits Sql.commits_findMany rfl
  refine reads.bind ?_
  rw [readUser_filter]
  cases readUser lookup users <;> exact ends_done

theorem ends_save (user : User) (distinct : Distinct usersClash users) :
    Ends users (save user) (PrismaUserRepository.save user users).1
      (PrismaUserRepository.save user users).2 :=
  ends_of_commits (Sql.commits_runInTransaction (performs_save user)) (saveStep_eq distinct)

theorem ends_touchLastLogin (userId : Uuid) (time now : Date) (distinct : Distinct usersClash users) :
    Ends users (touchLastLogin userId time now) (.ok ())
      (PrismaUserRepository.touchLastLogin userId time now users) := by
  have symm (row other : UserRow) : usersClash row other = none → usersClash other row = none :=
    userSchema.symm () row other
  have writes : (Sql.rewritten (S := userSchema) uniqueViolation () (rowOf userId) (touched time now) :
      Sql.Joined userSchema Failure Nat) (usersOnly users) = _ :=
    Sql.rewritten_of_ok (rewriteRows_blind symm (fun _ _ => rfl) distinct)
  have update : Ends users (Sql.runInTransaction fun tx =>
      Sql.updateMany (S := userSchema) tx () (rowOf userId) (touched time now))
      (.ok (0 + users.countP (rowOf userId)))
      (PrismaUserRepository.touchLastLogin userId time now users) := by
    refine ends_of_commits (Sql.commits_runInTransaction fun tx => Sql.performs_updateMany) ?_
    rw [Sql.atomically, writes]
    exact congrArg (Prod.mk _) update_users
  have finished : Ends users (Sql.runInTransaction (fun tx =>
      Sql.updateMany (S := userSchema) tx () (rowOf userId) (touched time now)) >>= fun _ => pure ())
      (.ok ()) (PrismaUserRepository.touchLastLogin userId time now users) := update.bind ends_done
  intro db quiet holds
  obtain ⟨db', settles, quiet', left⟩ := finished db quiet holds
  exact ⟨db', settles.recover, quiet', left⟩

end

/-- A client that is alone ends as it would in one step, and leaves the same rows. -/
theorem body_realises_userStep (command : Users.Command) {users : List UserRow}
    (distinct : Distinct usersClash users) {db : Database userSchema} (quiet : db.Quiet)
    (holds : db.tables = usersOnly users) : ∃ db',
    Sql.Settles uniqueViolation (Users.body command) db (userStep command users).1 db' ∧ db'.Quiet ∧
      db'.tables = usersOnly (userStep command users).2 := by
  suffices ends : Ends users (Users.body command) (userStep command users).1
    (userStep command users).2 from ends db quiet holds
  cases command with
  | edit lookup calls =>
    have found := @ends_find users lookup
    change Ends users (find lookup >>= _) _ _
    simp only [userStep]
    cases read : readUser lookup users with
    | error failure =>
      rw [read] at found
      exact found.bind_error
    | ok loaded =>
      rw [read] at found
      cases loaded with
      | none => exact found.bind ends_done
      | some user =>
        have settled := ends_save (user.applyAll calls) distinct
        refine found.bind ?_
        change Ends users (save (user.applyAll calls) >>= fun stored => pure (Users.Outcome.saved stored))
          ((PrismaUserRepository.save (user.applyAll calls) users).1.map .saved)
          (PrismaUserRepository.save (user.applyAll calls) users).2
        cases saved : PrismaUserRepository.save (user.applyAll calls) users with
        | mk result users' =>
          rw [saved] at settled
          cases result with
          | error failure => exact settled.bind_error
          | ok stored => exact settled.bind ends_done
  | touchLastLogin userId time now => exact (ends_touchLastLogin userId time now distinct).bind ends_done

def renamesAnn : Users.Command :=
  .edit (.byId "ann" false) [(5, .rename (some "Ann") none)]

theorem body_realises_userStep_ann : ∃ db',
    Sql.Settles uniqueViolation (Users.body renamesAnn) sampleWorld.store
      (userStep renamesAnn [sampleRow]).1 db' ∧ db'.Quiet ∧
      (db'.tables ()).map UserRow.firstName = [some "Ann"] := by
  have quiet : sampleWorld.store.Quiet := fun _ => List.forall_mem_singleton.mpr rfl
  have distinct : Distinct usersClash [sampleRow] := List.pairwise_singleton ..
  obtain ⟨db', settles, quiet', left⟩ := body_realises_userStep renamesAnn distinct quiet rfl
  exact ⟨db', settles, quiet', congrArg (List.map UserRow.firstName) (congrFun left ())⟩

end TenantOS.Transactions
