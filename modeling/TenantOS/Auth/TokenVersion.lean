import TenantOS.Auth.Revocation

/-! Access tokens against the user row. `tokenVersion` never goes down, the lock
lets a save through only over the row it was computed from, and so a token minted
from an aggregate is accepted only while nothing has revoked it since. -/
namespace TenantOS.Auth

open TenantOS.Domain TenantOS.Infrastructure TenantOS.Relational TenantOS.Interleaving
open TenantOS.Application
open PrismaUserRepository (lockedOn saved)

variable {host : Host}

/-- A row after some call: telemetry aside, it is the row before, or what a save
locked on it wrote. -/
inductive RowStep (c : AuthCall) (row : UserRow) : UserRow → Prop where
  | kept (lastLoginAt : Option Date) (updatedAt : Date) :
      RowStep c row { row with lastLoginAt := lastLoginAt, updatedAt := updatedAt }
  | saved (user : User) (save : c = .users (.save user)) (locked : lockedOn user.toSnapshot row) :
      RowStep c row (saved user.toSnapshot row)

theorem RowStep.id {c : AuthCall} {row row' : UserRow} (h : RowStep c row row') :
    row'.id = row.id := by
  cases h <;> rfl

section

variable {input : Input} {c : AuthCall} {reply : Except Failure c.Reply} {store store' : Store}

/-- The users table keeps its rows, and moves each of them by one step. -/
theorem users_answer (h : answer host input c store = some (reply, store')) :
    ∃ move : UserRow → UserRow, store'.users = store.users.map move ∧
      ∀ row ∈ store.users, RowStep c row (move row) := by
  have still : store'.users = store.users → ∃ move : UserRow → UserRow,
      store'.users = store.users.map move ∧ ∀ row ∈ store.users, RowStep c row (move row) := by
    intro same
    exact ⟨fun row => row, by simp [same], fun row _ => .kept row.lastLoginAt row.updatedAt⟩
  rcases (frame_answer h).2.1 with same | ⟨call, rfl⟩
  · exact still same
  cases call with
  | findById id includeDeleted => cases Option.some.inj h; exact still rfl
  | findByEmail email includeDeleted => cases Option.some.inj h; exact still rfl
  | findAuthSnapshot id => cases Option.some.inj h; exact still rfl
  | touchLastLogin userId time =>
    cases Option.some.inj h
    refine ⟨_, rfl, fun row _ => ?_⟩
    split
    · exact .kept (some time) input.now
    · exact .kept row.lastLoginAt row.updatedAt
  | save user =>
    cases Option.some.inj h
    rcases PrismaUserRepository.save_users user store.users with unchanged | ⟨written, -, -⟩
    · exact still unchanged
    · refine ⟨_, written, fun row _ => ?_⟩
      split
      · rename_i locked
        exact .saved user rfl locked
      · exact .kept row.lastLoginAt row.updatedAt

end

theorem users_settle {fate : Fate (service host)} {c : AuthCall} {reply : Except Failure c.Reply}
    {store store' : Store} (h : fate.settle c store = some (reply, store')) :
    ∃ move : UserRow → UserRow, store'.users = store.users.map move ∧
      ∀ row ∈ store.users, RowStep c row (move row) := by
  rcases fate.settle_store h with rfl | ⟨input, reply', hanswer⟩
  · exact ⟨fun row => row, by simp, fun row _ => .kept row.lastLoginAt row.updatedAt⟩
  · exact users_answer hanswer

/-! What the lock protects. -/

/-- What the columns of a row, or the fields of an aggregate loaded from it, say
about the user's credentials. -/
structure Credentials where
  id : Uuid
  version : Int
  tokenVersion : Int
  passwordHash : Option String

def userCredentials (user : User) : Credentials :=
  ⟨user.id, user.version, user.tokenVersion, user.passwordHash⟩

def rowCredentials (row : UserRow) : Credentials :=
  ⟨row.id, row.version, row.tokenVersion, row.passwordHash⟩

/-- The later state of one user's credentials. -/
structure Credentials.Precedes (before after : Credentials) : Prop where
  id : after.id = before.id
  version : before.version ≤ after.version
  tokenVersion : before.tokenVersion ≤ after.tokenVersion
  same : after.version = before.version → after = before
  hash : after.tokenVersion = before.tokenVersion → before.passwordHash.isSome →
    after.passwordHash.isSome

theorem Credentials.Precedes.refl (c : Credentials) : c.Precedes c :=
  ⟨rfl, Int.le_refl _, Int.le_refl _, fun _ => rfl, fun _ hash => hash⟩

theorem Credentials.Precedes.trans {first second third : Credentials} (h : first.Precedes second)
    (h' : second.Precedes third) : first.Precedes third where
  id := h'.id.trans h.id
  version := Int.le_trans h.version h'.version
  tokenVersion := Int.le_trans h.tokenVersion h'.tokenVersion
  same even := by
    have le := h.version
    have le' := h'.version
    exact (h'.same (by omega)).trans (h.same (by omega))
  hash even hash := by
    have le := h.tokenVersion
    have le' := h'.tokenVersion
    exact h'.hash (by omega) (h.hash (by omega) hash)

namespace Ledger

/-- Every aggregate and every access token comes from a row that is still there,
no older than what was read. -/
structure Versioned (v : Ledger host) : Prop where
  unique : UniqueKey UserRow.id v.store.users
  loaded : ∀ i k user, v.clients i = some k → k.user = some user →
    ∃ row ∈ v.store.users, (userCredentials user).Precedes (rowCredentials row)
  minted : ∀ i k claims, v.clients i = some k → k.signed = some claims →
    ∃ user, k.user = some user ∧ user.assertCanAuthenticate = .ok () ∧ claims.sub = user.id ∧
      claims.tv = user.tokenVersion

variable {v v' : Ledger host} {n : Nat} {k : Knowledge} {c : AuthCall}

theorem Versioned.locked (h : v.Versioned) (client : v.clients n = some k) {loaded : User}
    (hloaded : k.user = some loaded) {calls : List (Date × UserMethod)} {row : UserRow}
    (hrow : row ∈ v.store.users) (locked : lockedOn (loaded.applyAll calls).toSnapshot row) :
    rowCredentials row = userCredentials loaded := by
  simp only [lockedOn, User.toSnapshot, User.applyAll_id, User.applyAll_version,
    Bool.and_eq_true, decide_eq_true_eq] at locked
  obtain ⟨held, hheld, precedes⟩ := h.loaded n k loaded client hloaded
  obtain rfl := h.unique.eq_of_mem hrow hheld (locked.1.trans precedes.id.symm)
  exact precedes.same locked.2

theorem Versioned.precedes (h : v.Versioned) (client : v.clients n = some k)
    (permitted : permits host k c) {row row' : UserRow} (hrow : row ∈ v.store.users)
    (hstep : RowStep c row row') : (rowCredentials row).Precedes (rowCredentials row') := by
  cases hstep with
  | kept lastLoginAt updatedAt => exact .refl _
  | saved user save locked =>
    subst save
    obtain ⟨loaded, calls, hloaded, rfl⟩ := permitted
    have same := h.locked client hloaded hrow locked
    simp only [rowCredentials, userCredentials, Credentials.mk.injEq] at same
    obtain ⟨-, -, sameToken, sameHash⟩ := same
    refine ⟨rfl, Int.le_add_one (Int.le_refl _), ?_, fun even => ?_, fun even hash => ?_⟩
    · simpa [rowCredentials, saved, User.toSnapshot, sameToken] using
        loaded.applyAll_tokenVersion_le calls
    · have : row.version + 1 = row.version := even
      omega
    · simp only [rowCredentials, saved, User.toSnapshot, sameToken] at even hash ⊢
      exact loaded.applyAll_passwordHash calls even (sameHash ▸ hash)

theorem Versioned.row_step (h : v.Versioned) {e : Event (service host)}
    (hstep : Discipline.View.Step (discipline host) v e v') {row : UserRow}
    (hrow : row ∈ v.store.users) :
    ∃ row' ∈ v'.store.users, (rowCredentials row).Precedes (rowCredentials row') := by
  cases hstep with
  | join command free => exact ⟨row, hrow, .refl _⟩
  | settle client permitted settled =>
    obtain ⟨move, moved, steps⟩ := users_settle settled
    exact ⟨move row, moved ▸ List.mem_map_of_mem hrow,
      h.precedes client permitted hrow (steps row hrow)⟩

theorem credentials_of_entity {row : UserRow} {user : User} (h : toUserEntity row = .ok user) :
    userCredentials user = rowCredentials row := by
  obtain ⟨status, -, rfl⟩ := toUserEntity_eq_ok.mp h
  rfl

theorem loaded_observe {fate : Fate (service host)} {reply : Except Failure c.Reply}
    {store store' : Store} (settled : fate.settle c store = some (reply, store')) {user : User}
    (h : (observe host k c reply).user = some user) :
    k.user = some user ∨ ∃ row ∈ store.users, userCredentials user = rowCredentials row := by
  rcases user_observe h with old | ⟨id, includeDeleted, heard⟩ | ⟨email, includeDeleted, heard⟩
  · exact .inl old
  · cases heard
    obtain ⟨row, hrow, -, entity⟩ :=
      PrismaUserRepository.findById_eq_some (findById_settle settled)
    exact .inr ⟨row, hrow, credentials_of_entity entity⟩
  · cases heard
    obtain ⟨row, hrow, -, entity⟩ :=
      PrismaUserRepository.findByEmail_eq_some (findByEmail_settle settled)
    exact .inr ⟨row, hrow, credentials_of_entity entity⟩

theorem Versioned.step (h : v.Versioned) {e : Event (service host)}
    (hstep : Discipline.View.Step (discipline host) v e v') : v'.Versioned := by
  have follow {credentials : Credentials}
      (before : ∃ row ∈ v.store.users, credentials.Precedes (rowCredentials row)) :
      ∃ row ∈ v'.store.users, credentials.Precedes (rowCredentials row) := by
    obtain ⟨row, hrow, precedes⟩ := before
    obtain ⟨row', hrow', precedes'⟩ := h.row_step hstep hrow
    exact ⟨row', hrow', precedes.trans precedes'⟩
  cases hstep with
  | join command free =>
    refine ⟨h.unique, fun i k user hi huser => ?_, fun i k claims hi hsigned => ?_⟩
    · rcases Discipline.update_client.mp hi with ⟨-, rfl⟩ | ⟨-, old⟩
      · cases huser
      · exact h.loaded i k user old huser
    · rcases Discipline.update_client.mp hi with ⟨-, rfl⟩ | ⟨-, old⟩
      · cases hsigned
      · exact h.minted i k claims old hsigned
  | @settle n fate k c reply store client permitted settled =>
    refine ⟨?_, fun i k' user hi huser => ?_, fun i k' claims hi hsigned => ?_⟩
    · obtain ⟨move, moved, steps⟩ := users_settle settled
      have ids : (v.store.users.map move).map UserRow.id = v.store.users.map UserRow.id := by
        rw [List.map_map]
        exact List.map_congr_left fun row hrow => (steps row hrow).id
      rw [UniqueKey, moved, ids]
      exact h.unique
    · rcases Discipline.update_client.mp hi with ⟨-, rfl⟩ | ⟨-, old⟩
      · rcases loaded_observe settled huser with old | ⟨row, hrow, same⟩
        · exact follow (h.loaded n k user client old)
        · exact follow ⟨row, hrow, same ▸ .refl _⟩
      · exact follow (h.loaded i k' user old huser)
    · rcases Discipline.update_client.mp hi with ⟨-, rfl⟩ | ⟨-, old⟩
      · have grows : k.Grows (observe host k c reply) := grows_observe permitted
        rcases signed_observe hsigned with old | ⟨sub, tv, adm, jti, heard⟩
        · obtain ⟨user, huser, minted⟩ := h.minted n k claims client old
          exact ⟨user, grows.user user huser, minted⟩
        · cases heard
          obtain ⟨rfl, rfl⟩ := signAsync_settle settled
          obtain ⟨user, huser, minted⟩ := permitted
          exact ⟨user, grows.user user huser, minted⟩
      · exact h.minted i k' claims old hsigned

end Ledger

/-! The guard of a request. -/

/-- The guard lets a request with these claims pass in this state. -/
def Accepts (host : Host) (store : Store) (claims : AccessTokenClaims) : Prop :=
  ∃ inputs principal store',
    (JwtStrategy.validate claims).eval (answer host) inputs store = some (.ok principal, store')

/-- The denylist answers, one way or the other, and changes nothing. -/
theorem eval_has {α : Type} {jti : Uuid} {next : Bool → UseCase α} {inputs : Nat → Input}
    {store store' : Store} {value : α}
    (h : (TokenDenylistService.has jti >>= next).eval (answer host) inputs store =
      some (.ok value, store')) :
    ∃ denied, (next denied).eval (answer host) (fun n => inputs (n + 1)) store =
      some (.ok value, store') :=
  ⟨_, h⟩

theorem Accepts.row {store : Store} {claims : AccessTokenClaims} (h : Accepts host store claims) :
    ∃ row ∈ store.users, row.id = claims.sub ∧ row.tokenVersion = claims.tv ∧
      toUserStatus row.status = .ok .active ∧ row.deletedAt = none := by
  obtain ⟨inputs, principal, store', h⟩ := h
  unfold JwtStrategy.validate at h
  split at h
  · cases h
  obtain ⟨denied, h⟩ := eval_has h
  split at h
  · cases h
  obtain ⟨found, mid, hanswer, h⟩ := Program.eval_perform_bind h
  have read := congrArg Prod.fst (Option.some.inj hanswer)
  cases found with
  | none => cases h
  | some snapshot =>
    obtain ⟨row, hrow, sameId, sameToken, status, sameDeleted⟩ := PrismaUserRepository.findAuthSnapshot_eq_some read
    dsimp only at h
    split at h
    · cases h
    rename_i notDeleted
    split at h
    · cases h
    rename_i current
    split at h
    · cases h
    rename_i active
    refine ⟨row, hrow, sameId, sameToken.trans (not_not.mp current), ?_, ?_⟩
    · rw [status, not_not.mp active]
    · rw [sameDeleted]
      simpa using notDeleted

/-! Minting, revoking, accepting. -/

/-- The client loads the aggregate in this step. -/
def Loads (w w' : World (service host)) (i : Nat) (user : User) : Prop :=
  (∃ k, (ledger w).clients i = some k ∧ k.user = none) ∧
    ∃ k, (ledger w').clients i = some k ∧ k.user = some user

def Minted (w : World (service host)) (i : Nat) (claims : AccessTokenClaims) : Prop :=
  ∃ k, (ledger w).clients i = some k ∧ k.signed = some claims

/-- A save commits an aggregate of this user on which, since it was loaded, some
effective revoking method was called. -/
def RevokingSave (userId : Uuid) (w : World (service host)) (e : Event (service host))
    (w' : World (service host)) : Prop :=
  ∃ j fate t loaded calls next, e = .advance j fate ∧ w.threads[j]? = some t ∧
    t.rest = .call (.users (.save (loaded.applyAll calls))) next ∧
    ((discipline host).seen t).user = some loaded ∧ loaded.id = userId ∧
    loaded.revokesAny calls ∧ w'.store.users ≠ w.store.users

theorem versioned_run {w w' : World (service host)} {es : List (Event (service host))}
    (holds : (discipline host).Holds w) (h : (ledger w).Versioned) (hrun : w.run es = some w') :
    (ledger w').Versioned :=
  (discipline host).view_invariant (P := Ledger.Versioned) (fun _ _ _ hv hstep => hv.step hstep)
    holds h hrun

/-- A row is never lost, and its credentials only move on. -/
theorem row_run {w w' : World (service host)} {es : List (Event (service host))}
    (holds : (discipline host).Holds w) (h : (ledger w).Versioned) (hrun : w.run es = some w')
    {row : UserRow} (hrow : row ∈ w.store.users) :
    ∃ row' ∈ w'.store.users, (rowCredentials row).Precedes (rowCredentials row') := by
  have both : (ledger w').Versioned ∧
      ∃ row' ∈ w'.store.users, (rowCredentials row).Precedes (rowCredentials row') := by
    refine (discipline host).view_invariant (P := fun v => Ledger.Versioned v ∧
      ∃ row' ∈ v.store.users, (rowCredentials row).Precedes (rowCredentials row'))
      ?_ holds ⟨h, row, hrow, .refl _⟩ hrun
    rintro v e v' ⟨versioned, row', hrow', precedes⟩ hstep
    obtain ⟨row'', hrow'', precedes'⟩ := versioned.row_step hstep hrow'
    exact ⟨versioned.step hstep, row'', hrow'', precedes.trans precedes'⟩
  exact both.2

/-- A revoking save leaves the row with a `tokenVersion` that every aggregate
loaded before it is below. -/
theorem RevokingSave.raises {w w' : World (service host)} {e : Event (service host)}
    {userId : Uuid} (h : RevokingSave userId w e w') (hstep : Step w e w')
    (versioned : (ledger w).Versioned) {i : Nat} {k : Knowledge} {user : User}
    (client : (ledger w).clients i = some k) (loaded : k.user = some user)
    (same : user.id = userId) :
    ∃ row ∈ w'.store.users, row.id = userId ∧ user.tokenVersion < row.tokenVersion := by
  obtain ⟨j, fate, t, base, calls, next, rfl, thread, waiting, hbase, rfl, revokes, moved⟩ := h
  cases hstep with
  | @resume _ _ t' c next' reply store thread' waiting' settled =>
    cases thread.symm.trans thread'
    cases waiting.symm.trans waiting'
    have clientj := (discipline host).view_client thread
    rcases fate.settle_store settled with rfl | ⟨input, reply', hanswer⟩
    · exact absurd rfl moved
    obtain rfl : _ = store := congrArg Prod.snd (Option.some.inj hanswer)
    rcases PrismaUserRepository.save_users (base.applyAll calls) w.store.users with
      unchanged | ⟨written, -, row, hrow, locked⟩
    · exact absurd unchanged moved
    have sameRow := versioned.locked clientj hbase hrow locked
    simp only [rowCredentials, userCredentials, Credentials.mk.injEq] at sameRow
    obtain ⟨sameId, -, sameToken, -⟩ := sameRow
    refine ⟨saved (base.applyAll calls).toSnapshot row, ?_, sameId, ?_⟩
    · refine (congrArg (_ ∈ ·) written).mpr (mem_updateMany.mpr ⟨row, hrow, ?_⟩)
      rw [if_pos locked]
    · obtain ⟨held, hheld, precedes⟩ := versioned.loaded i k user client loaded
      have one : held = row := versioned.unique.eq_of_mem hheld hrow
        (precedes.id.trans (same.trans sameId.symm))
      subst one
      have below : user.tokenVersion ≤ held.tokenVersion := precedes.tokenVersion
      have raised := base.applyAll_tokenVersion_lt calls revokes
      change user.tokenVersion < (base.applyAll calls).tokenVersion
      omega

/-- A minted token is accepted only while no effective revoking method has been
saved since its aggregate was loaded, and only for a user who could sign in now. -/
theorem accepted_token_unrevoked {w₀ w₁ w₂ w₃ : World (service host)}
    {before after : List (Event (service host))} {e : Event (service host)} {i : Nat}
    {user : User} {claims : AccessTokenClaims} (idle : w₀.threads = [])
    (unique : UniqueKey UserRow.id w₀.store.users) (hbefore : w₀.run before = some w₁)
    (hstep : Step w₁ e w₂) (loads : Loads w₁ w₂ i user) (hafter : w₂.run after = some w₃)
    (minted : Minted w₃ i claims) (accepts : Accepts host w₃.store claims) :
    (w₂.Along after fun w e w' => ¬ RevokingSave user.id w e w') ∧
      ∃ row ∈ w₃.store.users, row.id = claims.sub ∧
        ∃ current, toUserEntity row = .ok current ∧ current.assertCanAuthenticate = .ok () := by
  have holds₀ := (discipline host).holds_of_idle idle
  have versioned₀ : (ledger w₀).Versioned := by
    refine ⟨unique, fun i k user hi => ?_, fun i k claims hi => ?_⟩ <;>
      simp [Discipline.view, idle] at hi
  have hbefore₂ : w₀.run (before ++ [e]) = some w₂ := World.run_snoc hbefore hstep
  have holds₂ := (discipline host).holds_run holds₀ hbefore₂
  have versioned₂ := versioned_run holds₀ versioned₀ hbefore₂
  obtain ⟨-, k₂, client₂, loaded₂⟩ := loads
  have known {es : List (Event (service host))} {w : World (service host)}
      (hrun : w₂.run es = some w) : ∃ k, (ledger w).clients i = some k ∧ k.user = some user := by
    refine (discipline host).view_invariant
      (P := fun v => ∃ k, v.clients i = some k ∧ k.user = some user)
      ?_ holds₂ ⟨k₂, client₂, loaded₂⟩ hrun
    rintro v e v' ⟨k, client, loaded⟩ hv
    obtain ⟨k', client', grows⟩ := Ledger.grows_step hv client
    exact ⟨k', client', grows.user user loaded⟩
  have versioned₃ := versioned_run holds₂ versioned₂ hafter
  obtain ⟨k₃, client₃, loaded₃⟩ := known hafter
  obtain ⟨k₃', client₃', signed⟩ := minted
  cases client₃.symm.trans client₃'
  obtain ⟨user', loaded', authenticated, sub, tv⟩ := versioned₃.minted i k₃ claims client₃ signed
  cases loaded₃.symm.trans loaded'
  obtain ⟨row, hrow, rowId, rowToken, status, notDeleted⟩ := accepts.row
  constructor
  · rintro first e' rest w w' rfl hfirst hstep' revoking
    obtain ⟨k, client, loaded⟩ := known hfirst
    obtain ⟨raised, hraised, raisedId, higher⟩ := revoking.raises hstep'
      (versioned_run holds₂ versioned₂ hfirst) client loaded rfl
    obtain ⟨w'', hw'', hrest⟩ := World.run_split hafter
    cases hfirst.symm.trans hw''
    obtain ⟨mid, hmid, hrest⟩ := World.run_cons hrest
    obtain rfl : w' = mid :=
      Option.some.inj ((World.step_iff.mpr hstep').symm.trans (World.step_iff.mpr hmid))
    have hnext := World.run_snoc hfirst hstep'
    obtain ⟨last, hlast, precedes⟩ := row_run ((discipline host).holds_run holds₂ hnext)
      (versioned_run holds₂ versioned₂ hnext) hrest hraised
    have lastId : last.id = user.id := precedes.id.trans raisedId
    obtain rfl := versioned₃.unique.eq_of_mem hlast hrow (lastId.trans (sub.symm.trans rowId.symm))
    have later : raised.tokenVersion ≤ last.tokenVersion := precedes.tokenVersion
    omega
  · obtain ⟨held, hheld, precedes⟩ := versioned₃.loaded i k₃ user client₃ loaded₃
    have heldId : held.id = user.id := precedes.id
    obtain rfl := versioned₃.unique.eq_of_mem hheld hrow (heldId.trans (sub.symm.trans rowId.symm))
    have hash : held.passwordHash.isSome :=
      precedes.hash (rowToken.trans tv) (user.passwordHash_of_authenticated authenticated)
    exact ⟨held, hrow, rowId, .fromSnapshot (held.toSnapshot .active),
      toUserEntity_eq_ok.mpr ⟨.active, status, rfl⟩, by
        simp [User.assertCanAuthenticate, User.fromSnapshot, UserRow.toSnapshot, User.isDeleted,
          notDeleted, Option.isSome_iff_ne_none.mp hash]⟩

/-! A login whose access token the guard still accepts. -/

def beforeLookup : World (service sampleHost) :=
  sampleWorld.join (.login ⟨"ann@example.com", "correct horse battery", ⟨none, none⟩⟩)

def afterLookup : World (service sampleHost) :=
  (beforeLookup.step (.advance 0 (.answered ⟨0, ""⟩))).getD sampleWorld

def afterLogin : World (service sampleHost) :=
  (afterLookup.run (answered 0 loginDraws.tail)).getD sampleWorld

def loginClaims : AccessTokenClaims :=
  ⟨"ann", 0, false, none, none, "jti-0", 0, 900, "tenantos", "tenantos"⟩

theorem accepted_token_unrevoked_login :
    (afterLookup.Along (answered 0 loginDraws.tail) fun w e w' => ¬ RevokingSave "ann" w e w') ∧
      ∃ row ∈ afterLogin.store.users, row.id = "ann" ∧
        ∃ current, toUserEntity row = .ok current ∧ current.assertCanAuthenticate = .ok () := by
  have loads : Loads beforeLookup afterLookup 0 (.fromSnapshot (sampleUser.toSnapshot .active)) :=
    ⟨⟨_, rfl, rfl⟩, _, rfl, rfl⟩
  have minted : Minted afterLogin 0 loginClaims := ⟨_, rfl, rfl⟩
  have accepts : Accepts sampleHost afterLogin.store loginClaims := ⟨fun _ => ⟨0, ""⟩, _, _, rfl⟩
  have lookup : Step beforeLookup (.advance 0 (.answered ⟨0, ""⟩)) afterLookup :=
    World.step_iff.mp rfl
  exact accepted_token_unrevoked (rfl : sampleWorld.threads = []) (List.nodup_singleton _)
    (rfl : sampleWorld.run [sampleLogin] = some beforeLookup) lookup loads rfl minted accepts

end TenantOS.Auth
