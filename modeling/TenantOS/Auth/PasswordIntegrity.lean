import TenantOS.Auth.TokenVersion
import TenantOS.Auth.Transcripts

/-! The stored password hash: with the lock, it is replaced only by a client that was shown to
know the password the replaced hash verifies. -/
namespace TenantOS.Auth

open TenantOS.Domain TenantOS.Infrastructure TenantOS.Relational TenantOS.Interleaving
open TenantOS.Application
open PrismaUserRepository (lockedOn saved)

variable {host : Host}

theorem versioned_of_idle {w : World (service host)} (idle : w.threads = [])
    (unique : UniqueKey UserRow.id w.store.users) : (ledger w).Versioned := by
  refine ⟨unique, fun i k user hi => ?_, fun i k claims hi => ?_⟩ <;>
    simp [Discipline.view, idle] at hi

/-! What is heard is true. -/

section

variable {w₀ w w' : World (service host)} {es : List (Event (service host))} {i : Nat}
  {t : Thread (service host)}

theorem heard_verify (idle : w₀.threads = []) (hrun : w₀.run es = some w)
    (thread : w.threads[i]? = some t) {hash plaintext : String} {result : Bool}
    (mem : ⟨.hasher (.verify hash plaintext), .ok result⟩ ∈ t.heard) :
    host.verify hash plaintext = result := by
  obtain ⟨before, w₁, fate, u, store, settledAt, -⟩ :=
    World.settledAt_of_heard idle hrun thread mem
  obtain ⟨input, -, hanswer⟩ := fate.settle_ok settledAt.settled
  cases hanswer
  rfl

theorem heard_findById (idle : w₀.threads = []) (hrun : w₀.run es = some w)
    (thread : w.threads[i]? = some t) {id : Uuid} {includeDeleted : Bool} {user : User}
    (mem : ⟨.users (.findById id includeDeleted), .ok (some user)⟩ ∈ t.heard) : user.id = id := by
  obtain ⟨before, w₁, fate, u, store, settledAt, -⟩ :=
    World.settledAt_of_heard idle hrun thread mem
  obtain ⟨row, -, same, entity⟩ :=
    PrismaUserRepository.findById_eq_some (findById_settle settledAt.settled)
  obtain ⟨status, -, rfl⟩ := toUserEntity_eq_ok.mp entity
  exact same

end

/-- Who may put another hash in the place of `before`, or take it away. -/
inductive Authorised (host : Host) (t : Thread (service host)) (before after : UserRow) : Prop where
  /-- A login with the right password, whose hash has aged; it is the password that was hashed. -/
  | upgrade {command : LoginCommand} {old new : String} (login : t.command = .login command)
      (was : before.passwordHash = some old) (known : host.verify old command.password = true)
      (aged : host.needsRehash old = true)
      (hashed : ⟨.hasher (.hash command.password), .ok new⟩ ∈ t.heard)
      (becomes : after.passwordHash = some new)
  /-- The user, with the right password and an acceptable new one. -/
  | change {command : ChangePasswordCommand} {password : Password} {old new : String}
      (changing : t.command = .changePassword command) (own : before.id = command.userId)
      (was : before.passwordHash = some old)
      (known : host.verify old command.currentPassword = true)
      (policy : Password.create host.toLowerCase command.newPassword = .ok password)
      (another : host.verify old password.value = false)
      (hashed : ⟨.hasher (.hash password.value), .ok new⟩ ∈ t.heard)
      (becomes : after.passwordHash = some new)
      (revokes : after.tokenVersion = before.tokenVersion + 1)
  /-- Another client erases the account; none of its calls takes a hash. -/
  | erase {lookup : UserLookup} {calls : List (Date × UserMethod)}
      (editing : t.command = .editUser lookup calls) (becomes : after.passwordHash = none)

/-- No client outside the two use cases sets a hash. -/
def KeepsHashes (w : World (service host)) : Prop :=
  ∀ (i : Nat) (t : Thread (service host)) (lookup : UserLookup) (calls : List (Date × UserMethod)),
    w.threads[i]? = some t → t.command = .editUser lookup calls →
      ∀ call ∈ calls, User.storesHash call.2 = false

theorem authorised_of_saves {w₀ w : World (service host)} {es : List (Event (service host))}
    {i : Nat} {t : Thread (service host)} {user : User} {row : UserRow}
    (idle : w₀.threads = []) (hrun : w₀.run es = some w) (versioned : (ledger w).Versioned)
    (keeps : KeepsHashes w) (thread : w.threads[i]? = some t)
    (saves : Saves host ⟨t.command, t.heard⟩ user) (hrow : row ∈ w.store.users)
    (locked : lockedOn user.toSnapshot row)
    (changed : (saved user.toSnapshot row).passwordHash ≠ row.passwordHash) :
    Authorised host t row (saved user.toSnapshot row) := by
  -- the row is the one the aggregate was loaded from
  have loadedFrom {loaded : User} {calls : List (Date × UserMethod)}
      (known : ((discipline host).seen t).user = some loaded)
      (locked : lockedOn (loaded.applyAll calls).toSnapshot row) :
      rowCredentials row = userCredentials loaded :=
    versioned.locked ((discipline host).view_client thread) known hrow locked
  cases saves with
  | @login command loaded old new time same upgrades result =>
    subst result
    obtain ⟨hash, aged, email, heard⟩ := upgrades
    dsimp only at same heard
    have known : ((discipline host).seen t).user = some loaded := by
      simp [Discipline.seen, heard, observe]
    have sameRow := @loadedFrom loaded [(time, .upgradePasswordHash new)] known locked
    have was : row.passwordHash = some old := (congrArg Credentials.passwordHash sameRow).trans hash
    refine .upgrade same was ?_ aged ?_ rfl
    · exact heard_verify idle hrun thread (by simp [heard])
    · simp [heard]
  | @logoutAll command loaded revokedAt time count same heard result =>
    subst result
    dsimp only at same heard
    have known : ((discipline host).seen t).user = some loaded := by
      simp [Discipline.seen, heard, observe]
    have sameRow := @loadedFrom loaded [(time, .invalidateSessions)] known locked
    exact absurd (congrArg Credentials.passwordHash sameRow).symm changed
  | @changePassword command loaded old new time same replaces result =>
    subst result
    obtain ⟨hash, password, policy, heard⟩ := replaces
    dsimp only at same heard
    have known : ((discipline host).seen t).user = some loaded := by
      simp [Discipline.seen, heard, observe]
    have sameRow := @loadedFrom loaded [(time, .setPasswordHash new)] known locked
    have was : row.passwordHash = some old := (congrArg Credentials.passwordHash sameRow).trans hash
    have read : ⟨.users (.findById command.userId false), .ok (some loaded)⟩ ∈ t.heard := by
      simp [heard]
    have own : loaded.id = command.userId := heard_findById idle hrun thread read
    refine .change same ((congrArg Credentials.id sameRow).trans own) was ?_ policy ?_ ?_ rfl ?_
    · exact heard_verify idle hrun thread (by simp [heard])
    · exact heard_verify idle hrun thread (by simp [heard])
    · simp [heard]
    · exact congrArg (· + 1) (congrArg Credentials.tokenVersion sameRow).symm
  | @editUser lookup calls loaded same heard result =>
    subst result
    dsimp only at same heard
    have known : ((discipline host).seen t).user = some loaded := by
      cases lookup <;> simp [Discipline.seen, heard, observe, loadedBy]
    have sameRow := loadedFrom known locked
    have kept := loaded.applyAll_storesHash calls (keeps i t lookup calls thread same)
    refine .erase same (kept.resolve_left fun unchanged => changed ?_)
    exact unchanged.trans (congrArg Credentials.passwordHash sameRow).symm

/-- A stored password hash changes only in the hands of a client that was shown to know the
password it stands for, or goes with the account. -/
theorem password_replaced_by_holder {w₀ w w' : World (service host)}
    {es : List (Event (service host))} {e : Event (service host)} {row row' : UserRow}
    (idle : w₀.threads = []) (unique : UniqueKey UserRow.id w₀.store.users)
    (hrun : w₀.run es = some w) (keeps : KeepsHashes w) (hstep : Step w e w')
    (hrow : row ∈ w.store.users) (hrow' : row' ∈ w'.store.users) (same : row'.id = row.id)
    (changed : row'.passwordHash ≠ row.passwordHash) :
    ∃ i fate t, e = .advance i fate ∧ w.threads[i]? = some t ∧ Authorised host t row row' := by
  have versioned := versioned_run ((discipline host).holds_of_idle idle)
    (versioned_of_idle idle unique) hrun
  cases hstep with
  | join command =>
    cases versioned.unique.eq_of_mem hrow hrow' same.symm
    exact absurd rfl changed
  | @resume i fate t c next reply store thread waiting settled =>
    refine ⟨i, fate, t, rfl, thread, ?_⟩
    obtain ⟨move, moved, steps⟩ := users_settle settled
    have moved : row' ∈ w.store.users.map move := moved ▸ hrow'
    obtain ⟨before, hbefore, rfl⟩ := List.mem_map.mp moved
    have step := steps before hbefore
    obtain rfl := versioned.unique.eq_of_mem hbefore hrow (step.id.symm.trans same)
    generalize move before = after at step changed
    cases step with
    | kept lastLoginAt updatedAt => exact absurd rfl changed
    | saved user save locked =>
      subst save
      have scribed := (transcripts host).holds_run ((transcripts host).holds_of_idle idle) hrun
      have saves := (transcripts host).permits_of_waiting scribed thread waiting
      rw [seen_transcripts] at saves
      exact authorised_of_saves idle hrun versioned keeps thread saves hrow locked changed

/-! A user replaces her password. -/

def replacement : List (Event (service sampleHost)) :=
  [.start (.changePassword ⟨"ann", "correct horse battery", "a much better phrase"⟩)] ++
    answered 0 ["", "", "", "new-hash", ""]

def aboutToReplace : World (service sampleHost) :=
  (sampleWorld.run replacement).getD sampleWorld

def replaced : World (service sampleHost) :=
  (aboutToReplace.step (.advance 0 (.answered ⟨0, ""⟩))).getD sampleWorld

def replacedUser : UserRow :=
  { sampleUser with passwordHash := some "new-hash", tokenVersion := 1, version := 1 }

theorem password_replaced_by_holder_ann :
    ∃ i fate t, (.advance 0 (.answered ⟨0, ""⟩) : Event (service sampleHost)) = .advance i fate ∧
      aboutToReplace.threads[i]? = some t ∧ Authorised sampleHost t sampleUser replacedUser := by
  have keeps : KeepsHashes aboutToReplace := by
    intro i t lookup calls thread editing
    match i, thread with
    | 0, thread =>
      cases thread
      cases editing
  exact password_replaced_by_holder (rfl : sampleWorld.threads = []) (List.nodup_singleton _)
    (rfl : sampleWorld.run replacement = some aboutToReplace) keeps
    (World.step_iff.mp rfl : Step _ _ replaced) (List.mem_singleton_self _)
    (List.mem_singleton_self _) rfl (by decide)

end TenantOS.Auth
