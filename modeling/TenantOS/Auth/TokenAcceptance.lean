import TenantOS.Auth.Admission
import TenantOS.Auth.PasswordIntegrity

/-! When a request with a minted token passes. The row that let the token be minted
lets it in until a revoking save, and no other client can change that. -/
namespace TenantOS.Auth

open TenantOS.Domain TenantOS.Infrastructure TenantOS.Relational TenantOS.Interleaving
open TenantOS.Application
open PrismaUserRepository (lockedOn saved)

variable {host : Host}

/-- The guard lets a request with these claims pass, under these readings of the clock. -/
def Admits (host : Host) (inputs : Nat → Input) (store : Store) (claims : AccessTokenClaims) :
    Prop :=
  ∃ principal store',
    (JwtStrategy.validate claims).eval (answer host) inputs store = some (.ok principal, store')

/-- The denylist holds the token, and Redis has not dropped the entry yet. -/
def Denied (store : Store) (jti : Uuid) (now : Date) : Bool :=
  store.denylist.any fun entry => entry.1 = jti && now ≤ entry.2

/-- The row lets in the tokens of this version of the user. -/
structure Honours (userId : Uuid) (tokenVersion : Int) (row : UserRow) : Prop where
  id : row.id = userId
  tokenVersion : row.tokenVersion = tokenVersion
  status : row.status = UserStatus.active.name
  deletedAt : row.deletedAt = none

theorem findAuthSnapshot_of_honours {users : List UserRow} (unique : UniqueKey UserRow.id users)
    {userId : Uuid} {tokenVersion : Int} {row : UserRow} (hrow : row ∈ users)
    (honours : Honours userId tokenVersion row) :
    PrismaUserRepository.findAuthSnapshot userId users =
      .ok (some ⟨userId, tokenVersion, .active, row.isPlatformAdmin, none⟩) := by
  have found : users.find? (fun row => row.id = userId) = some row :=
    unique.find_eq_some.mpr ⟨hrow, honours.id⟩
  rw [PrismaUserRepository.findAuthSnapshot, found]
  simp only [honours.status, toUserStatus_name, Except.map, honours.id, honours.tokenVersion,
    honours.deletedAt]

theorem admits_iff {store : Store} (unique : UniqueKey UserRow.id store.users)
    {inputs : Nat → Input} {claims : AccessTokenClaims} :
    Admits host inputs store claims ↔
      claims.sub ≠ "" ∧ claims.jti ≠ "" ∧ Denied store claims.jti (inputs 0).now = false ∧
        ∃ row ∈ store.users, Honours claims.sub claims.tv row := by
  constructor
  · intro h
    obtain ⟨row, hrow, id, tokenVersion, status, deletedAt⟩ := Accepts.row ⟨inputs, h⟩
    obtain ⟨principal, store', h⟩ := h
    unfold JwtStrategy.validate at h
    split at h
    · cases h
    rename_i present
    rw [Bool.or_eq_true, decide_eq_true_eq, decide_eq_true_eq, not_or] at present
    rw [Admission.eval_has] at h
    split at h
    · cases h
    rename_i allowed
    exact ⟨present.1, present.2, Bool.eq_false_iff.mpr allowed, row, hrow, id, tokenVersion,
      toUserStatus_eq_ok.mp status, deletedAt⟩
  · rintro ⟨sub, jti, allowed, row, hrow, honours⟩
    unfold Admits JwtStrategy.validate
    rw [if_neg (by simp [sub, jti]), Admission.eval_has]
    rw [Denied] at allowed
    rw [if_neg (by rw [allowed]; exact Bool.false_ne_true), Admission.eval_findAuthSnapshot,
      findAuthSnapshot_of_honours unique hrow honours]
    simp only [Option.isSome_none, Bool.false_eq_true, if_false, ne_eq, not_true_eq_false]
    exact ⟨_, _, rfl⟩

/-! The row under the aggregate. -/

section

variable {k : Knowledge} {c : AuthCall} {reply : Except Failure c.Reply}

theorem entity_observe {fate : Fate (service host)} {store store' : Store}
    (settled : fate.settle c store = some (reply, store')) {user : User}
    (h : (observe host k c reply).user = some user) :
    k.user = some user ∨ (∃ row ∈ store.users, toUserEntity row = .ok user) ∧
      ∀ aggregate, c ≠ .users (.save aggregate) := by
  rcases user_observe h with old | ⟨id, includeDeleted, heard⟩ | ⟨email, includeDeleted, heard⟩
  · exact .inl old
  · cases heard
    obtain ⟨row, hrow, -, entity⟩ :=
      PrismaUserRepository.findById_eq_some (findById_settle settled)
    exact .inr ⟨⟨row, hrow, entity⟩, fun _ same => by cases same⟩
  · cases heard
    obtain ⟨row, hrow, -, entity⟩ :=
      PrismaUserRepository.findByEmail_eq_some (findByEmail_settle settled)
    exact .inr ⟨⟨row, hrow, entity⟩, fun _ same => by cases same⟩

end

/-- The row shows the status and the deletion that the aggregate has. -/
def Shows (user : User) (row : UserRow) : Prop :=
  row.status = user.status.name ∧ row.deletedAt = user.deletedAt

theorem shows_of_entity {row : UserRow} {user : User} (h : toUserEntity row = .ok user) :
    row.id = user.id ∧ Shows user row := by
  obtain ⟨status, known, rfl⟩ := toUserEntity_eq_ok.mp h
  exact ⟨rfl, toUserStatus_eq_ok.mp known, rfl⟩

namespace Ledger

/-- Until its row moves on, an aggregate shows it as it is. -/
def Faithful (v : Ledger host) : Prop :=
  ∀ i k user, v.clients i = some k → k.user = some user → ∀ row ∈ v.store.users,
    row.id = user.id → row.version = user.version → Shows user row

variable {v v' : Ledger host}

/-- A save moves the version past every aggregate there is. -/
theorem Faithful.kept (h : v.Faithful) (versioned : v.Versioned) {i : Nat} {k : Knowledge}
    {user : User} (client : v.clients i = some k) (loaded : k.user = some user) {c : AuthCall}
    {row row' : UserRow} (hrow : row ∈ v.store.users) (step : RowStep c row row')
    (id : row'.id = user.id) (version : row'.version = user.version) : Shows user row' := by
  cases step with
  | kept lastLoginAt updatedAt => exact h i k user client loaded row hrow id version
  | saved other save locked =>
    obtain ⟨held, hheld, precedes⟩ := versioned.loaded i k user client loaded
    have heldId : held.id = user.id := precedes.id
    have newId : row.id = user.id := id
    obtain rfl := versioned.unique.eq_of_mem hheld hrow (heldId.trans newId.symm)
    have noOlder : user.version ≤ held.version := precedes.version
    have moved : held.version + 1 = user.version := version
    omega

theorem Faithful.step (h : v.Faithful) (versioned : v.Versioned) {e : Event (service host)}
    (hstep : Discipline.View.Step (discipline host) v e v') : v'.Faithful := by
  cases hstep with
  | join command free =>
    intro i k user hi huser
    rcases Discipline.update_client.mp hi with ⟨-, rfl⟩ | ⟨-, old⟩
    · cases huser
    · exact h i k user old huser
  | @settle n fate k c reply store client permitted settled =>
    intro i k' user hi huser row' hrow' id version
    obtain ⟨move, moved, steps⟩ := users_settle settled
    have hrow' : row' ∈ v.store.users.map move := moved ▸ hrow'
    obtain ⟨row, hrow, rfl⟩ := List.mem_map.mp hrow'
    have step := steps row hrow
    rcases Discipline.update_client.mp hi with ⟨-, rfl⟩ | ⟨-, old⟩
    · rcases entity_observe settled huser with old | ⟨⟨source, hsource, entity⟩, reads⟩
      · exact h.kept versioned client old hrow step id version
      · obtain ⟨sourceId, shows⟩ := shows_of_entity entity
        obtain rfl := versioned.unique.eq_of_mem hrow hsource
          (step.id.symm.trans (id.trans sourceId.symm))
        generalize move row = after at step
        cases step with
        | kept lastLoginAt updatedAt => exact shows
        | saved other save locked => exact absurd save (reads other)
    · exact h.kept versioned old huser hrow step id version

end Ledger

theorem faithful_run {w w' : World (service host)} {es : List (Event (service host))}
    (idle : w.threads = []) (unique : UniqueKey UserRow.id w.store.users)
    (hrun : w.run es = some w') : (ledger w').Versioned ∧ (ledger w').Faithful := by
  refine (discipline host).view_invariant (P := fun v => Ledger.Versioned v ∧ Ledger.Faithful v)
    ?_ ((discipline host).holds_of_idle idle) ⟨versioned_of_idle idle unique, ?_⟩ hrun
  · rintro v e v' ⟨versioned, faithful⟩ hstep
    exact ⟨versioned.step hstep, faithful.step versioned hstep⟩
  · intro i k user hi
    simp [Discipline.view, idle] at hi

/-! One step, and a run. -/

section

variable {w w' : World (service host)} {e : Event (service host)} {userId : Uuid}
  {tokenVersion : Int}

/-- What is no revoking save leaves the row as welcoming as it was. -/
theorem honours_step (holds : (discipline host).Holds w) (versioned : (ledger w).Versioned)
    (faithful : (ledger w).Faithful) (hstep : Step w e w') (quiet : ¬ RevokingSave userId w e w')
    (h : ∃ row ∈ w.store.users, Honours userId tokenVersion row) :
    ∃ row ∈ w'.store.users, Honours userId tokenVersion row := by
  obtain ⟨row, hrow, honours⟩ := h
  cases hstep with
  | join command => exact ⟨row, hrow, honours⟩
  | @resume j fate t c next reply store thread waiting settled =>
    obtain ⟨move, moved, steps⟩ := users_settle settled
    refine ⟨move row, moved ▸ List.mem_map_of_mem hrow, ?_⟩
    have step := steps row hrow
    generalize becomes : move row = after at step
    cases step with
    | kept lastLoginAt updatedAt =>
      exact ⟨honours.id, honours.tokenVersion, honours.status, honours.deletedAt⟩
    | saved user save locked =>
      subst save
      have client := (discipline host).view_client thread
      obtain ⟨loaded, calls, hloaded, rfl⟩ : permits host ((discipline host).seen t)
        (.users (.save user)) := (discipline host).permits_of_waiting holds thread waiting
      have same := versioned.locked client hloaded hrow locked
      simp only [rowCredentials, userCredentials, Credentials.mk.injEq] at same
      obtain ⟨sameId, sameVersion, sameToken, -⟩ := same
      obtain ⟨status, deletedAt⟩ :=
        faithful j _ loaded client hloaded row hrow sameId sameVersion
      have active : loaded.status = .active := by
        have := congrArg toUserStatus (status.symm.trans honours.status)
        simpa using this
      have alive : loaded.deletedAt = none := deletedAt.symm.trans honours.deletedAt
      have still : loaded.revokesAny calls = false := by
        by_contra revokes
        refine quiet ⟨j, fate, t, loaded, calls, next, rfl, thread, waiting, hloaded,
          sameId.symm.trans honours.id, by simpa using revokes, fun unmoved => ?_⟩
        have fixed : move row = row := by
          have each := List.map_inj_left.mp (moved.symm.trans (unmoved.trans (List.map_id _).symm))
          exact each row hrow
        have bumped := congrArg UserRow.version (becomes.symm.trans fixed)
        change row.version + 1 = row.version at bumped
        omega
      obtain ⟨active', alive', sameToken'⟩ := User.applyAll_standing active alive calls still
      exact ⟨honours.id, sameToken'.trans (sameToken.symm.trans honours.tokenVersion),
        congrArg UserStatus.name active', alive'⟩

end

theorem honours_run {w w' : World (service host)} {es : List (Event (service host))}
    {userId : Uuid} {tokenVersion : Int} (holds : (discipline host).Holds w)
    (versioned : (ledger w).Versioned) (faithful : (ledger w).Faithful)
    (hrun : w.run es = some w')
    (quiet : w.Along es fun w e w' => ¬ RevokingSave userId w e w')
    (h : ∃ row ∈ w.store.users, Honours userId tokenVersion row) :
    ∃ row ∈ w'.store.users, Honours userId tokenVersion row := by
  have all : (discipline host).Holds w' ∧ (ledger w').Versioned ∧ (ledger w').Faithful ∧
      ∃ row ∈ w'.store.users, Honours userId tokenVersion row := by
    refine World.run_induction (P := fun first w' => first <+: es → (discipline host).Holds w' ∧
      (ledger w').Versioned ∧ (ledger w').Faithful ∧
      ∃ row ∈ w'.store.users, Honours userId tokenVersion row) ?_ ?_ es w' hrun (List.prefix_refl es)
    · exact fun _ => ⟨holds, versioned, faithful, h⟩
    · intro first e w₁ w₂ hfirst ih hstep hstart
      obtain ⟨rest, rfl⟩ := hstart
      obtain ⟨holds₁, versioned₁, faithful₁, honoured⟩ :=
        ih ((List.prefix_append first [e]).trans (List.prefix_append _ rest))
      have hview := (discipline host).view_step holds₁ hstep
      exact ⟨(discipline host).holds_step holds₁ hstep, versioned₁.step hview,
        faithful₁.step versioned₁ hview, honours_step holds₁ versioned₁ faithful₁ hstep
          (quiet first e rest w₁ w₂ (by simp) hfirst hstep) honoured⟩
  exact all.2.2.2

/-- The aggregate that can sign in was loaded from a row that lets it in. -/
theorem honours_of_loads {w w' : World (service host)} {e : Event (service host)}
    (holds : (discipline host).Holds w) (hstep : Step w e w') {i : Nat} {user : User}
    (loads : Loads w w' i user) (authenticated : user.assertCanAuthenticate = .ok ()) :
    ∃ row ∈ w'.store.users, Honours user.id user.tokenVersion row := by
  obtain ⟨⟨k, client, blank⟩, k', client', loaded⟩ := loads
  have hview : Discipline.View.Step (discipline host) (ledger w) e (ledger w') :=
    (discipline host).view_step holds hstep
  change ∃ row ∈ (ledger w').store.users, Honours user.id user.tokenVersion row
  generalize ledger w = v at client hview
  generalize ledger w' = v' at client' hview ⊢
  cases hview with
  | join command free =>
    rcases Discipline.update_client.mp client' with ⟨-, rfl⟩ | ⟨-, old⟩
    · cases loaded
    · cases client.symm.trans old
      cases blank.symm.trans loaded
  | @settle n fate held c reply store held' permitted settled =>
    rcases Discipline.update_client.mp client' with ⟨rfl, rfl⟩ | ⟨-, old⟩
    · cases client.symm.trans held'
      rcases entity_observe settled loaded with old | ⟨⟨row, hrow, entity⟩, reads⟩
      · cases blank.symm.trans old
      · obtain ⟨move, moved, steps⟩ := users_settle settled
        obtain ⟨id, status, deletedAt⟩ := shows_of_entity entity
        have token : row.tokenVersion = user.tokenVersion :=
          (congrArg Credentials.tokenVersion (Ledger.credentials_of_entity entity)).symm
        obtain ⟨active, alive⟩ := user.standing_of_authenticated authenticated
        refine ⟨move row, moved ▸ List.mem_map_of_mem hrow, ?_⟩
        have step := steps row hrow
        generalize move row = after at step
        cases step with
        | kept lastLoginAt updatedAt =>
          exact ⟨id, token, status.trans (congrArg UserStatus.name active), deletedAt.trans alive⟩
        | saved other save locked => exact absurd save (reads other)
    · cases client.symm.trans old
      cases blank.symm.trans loaded

theorem loaded_run {w w' : World (service host)} {es : List (Event (service host))} {i : Nat}
    {user : User} (holds : (discipline host).Holds w) (hrun : w.run es = some w')
    (h : ∃ k, (ledger w).clients i = some k ∧ k.user = some user) :
    ∃ k, (ledger w').clients i = some k ∧ k.user = some user := by
  refine (discipline host).view_invariant
    (P := fun v => ∃ k, v.clients i = some k ∧ k.user = some user) ?_ holds h hrun
  rintro v e v' ⟨k, client, loaded⟩ hstep
  obtain ⟨k', client', grows⟩ := Ledger.grows_step hstep client
  exact ⟨k', client', grows.user user loaded⟩

/-- After a revoking save the row is ahead of the aggregate for good. -/
theorem outdated_of_revoked {w w' : World (service host)} {es : List (Event (service host))}
    {i : Nat} {user : User} (holds : (discipline host).Holds w)
    (versioned : (ledger w).Versioned)
    (known : ∃ k, (ledger w).clients i = some k ∧ k.user = some user)
    (hrun : w.run es = some w')
    (revoked : ¬ w.Along es fun w e w' => ¬ RevokingSave user.id w e w') :
    ∃ row ∈ w'.store.users, row.id = user.id ∧ user.tokenVersion < row.tokenVersion := by
  simp only [World.Along, not_forall, not_not] at revoked
  obtain ⟨first, e, rest, w₁, w₂, rfl, hfirst, hstep, revoking⟩ := revoked
  obtain ⟨k, client, loaded⟩ := loaded_run holds hfirst known
  obtain ⟨raised, hraised, raisedId, higher⟩ := revoking.raises hstep
    (versioned_run holds versioned hfirst) client loaded rfl
  obtain ⟨w₁', hfirst', hrest⟩ := World.run_split hrun
  cases hfirst.symm.trans hfirst'
  obtain ⟨mid, hmid, hrest⟩ := World.run_cons hrest
  obtain rfl : w₂ = mid :=
    Option.some.inj ((World.step_iff.mpr hstep).symm.trans (World.step_iff.mpr hmid))
  have hnext := World.run_snoc hfirst hstep
  obtain ⟨last, hlast, precedes⟩ := row_run ((discipline host).holds_run holds hnext)
    (versioned_run holds versioned hnext) hrest hraised
  have later : raised.tokenVersion ≤ last.tokenVersion := precedes.tokenVersion
  exact ⟨last, hlast, precedes.id.trans raisedId, by omega⟩

/-- A minted token passes the guard exactly while its user was saved by no revoking method
since it was loaded, and the denylist does not hold it. -/
theorem minted_token_admitted_iff {w₀ w₁ w₂ w₃ : World (service host)}
    {before after : List (Event (service host))} {e : Event (service host)} {i : Nat}
    {user : User} {claims : AccessTokenClaims} (idle : w₀.threads = [])
    (unique : UniqueKey UserRow.id w₀.store.users) (hbefore : w₀.run before = some w₁)
    (hstep : Step w₁ e w₂) (loads : Loads w₁ w₂ i user) (hafter : w₂.run after = some w₃)
    (minted : Minted w₃ i claims) (inputs : Nat → Input) :
    Admits host inputs w₃.store claims ↔
      claims.sub ≠ "" ∧ claims.jti ≠ "" ∧ Denied w₃.store claims.jti (inputs 0).now = false ∧
        w₂.Along after fun w e w' => ¬ RevokingSave user.id w e w' := by
  have holds₁ := (discipline host).holds_run ((discipline host).holds_of_idle idle) hbefore
  have holds₂ := (discipline host).holds_step holds₁ hstep
  obtain ⟨versioned₂, faithful₂⟩ := faithful_run idle unique (World.run_snoc hbefore hstep)
  have versioned₃ := versioned_run holds₂ versioned₂ hafter
  have known₂ : ∃ k, (ledger w₂).clients i = some k ∧ k.user = some user := loads.2
  obtain ⟨k, client, signed⟩ := minted
  obtain ⟨user', loaded', authenticated, sub, tv⟩ := versioned₃.minted i k claims client signed
  obtain ⟨k', client', loaded⟩ := loaded_run holds₂ hafter known₂
  cases client.symm.trans client'
  cases loaded.symm.trans loaded'
  have welcome := honours_of_loads holds₁ hstep loads authenticated
  have unique₃ : UniqueKey UserRow.id w₃.store.users := versioned₃.unique
  rw [admits_iff unique₃, sub, tv]
  refine and_congr_right fun _ => and_congr_right fun _ => and_congr_right fun _ => ?_
  constructor
  · rintro ⟨row, hrow, honours⟩
    by_contra revoked
    obtain ⟨last, hlast, id, higher⟩ :=
      outdated_of_revoked holds₂ versioned₂ known₂ hafter revoked
    obtain rfl := versioned₃.unique.eq_of_mem hlast hrow (id.trans honours.id.symm)
    have := honours.tokenVersion
    omega
  · intro quiet
    exact honours_run holds₂ versioned₂ faithful₂ hafter quiet welcome

theorem minted_token_admitted_iff_login :
    Admits sampleHost (fun _ => ⟨0, ""⟩) afterLogin.store loginClaims ↔
      loginClaims.sub ≠ "" ∧ loginClaims.jti ≠ "" ∧
        Denied afterLogin.store loginClaims.jti 0 = false ∧
        afterLookup.Along (answered 0 loginDraws.tail) fun w e w' => ¬ RevokingSave "ann" w e w' := by
  have loads : Loads beforeLookup afterLookup 0 (.fromSnapshot (sampleUser.toSnapshot .active)) :=
    ⟨⟨_, rfl, rfl⟩, _, rfl, rfl⟩
  have minted : Minted afterLogin 0 loginClaims := ⟨_, rfl, rfl⟩
  have lookup : Step beforeLookup (.advance 0 (.answered ⟨0, ""⟩)) afterLookup :=
    World.step_iff.mp rfl
  exact minted_token_admitted_iff (rfl : sampleWorld.threads = []) (List.nodup_singleton _)
    (rfl : sampleWorld.run [sampleLogin] = some beforeLookup) lookup loads rfl minted _

end TenantOS.Auth
