import TenantOS.Auth.Exchanges
import TenantOS.Interleaving.Allotment

/-! Any number of logins of one account at once, with nobody else writing the
`users` table and every port call answered. -/
namespace TenantOS.Auth.Logins

open TenantOS.Domain TenantOS.Infrastructure TenantOS.Relational TenantOS.Interleaving
open TenantOS.Application
open PrismaUserRepository (lockedOn saved)

/-- A client that signs in under one address, however it typed it. -/
structure SignIn (host : Host) (email : Email) where
  typed : String
  reads : Email.create host.toLowerCase typed = .ok email
  fingerprint : ClientFingerprint

/-- The hasher makes hashes that verify. -/
def honest (host : Host) (input : Input) : AuthCall → Bool
  | .hasher (.hash plaintext) => host.verify input.random plaintext
  | _ => true

/-- The logins of one account with its password. No call fails on the way. -/
abbrev logins (host : Host) (email : Email) (password : String) : System where
  interface := authInterface
  Failure := Failure
  Fault := Empty
  raise := Empty.elim
  Outcome := AuthenticationResult
  Command := SignIn host email
  Store := Store
  Input := Input
  body signIn := LoginUseCase.execute host ⟨signIn.typed, password, signIn.fingerprint⟩
  answer input c store := if honest host input c then answer host input c store else none

/-- What a login has learnt and done so far. -/
structure Knowledge where
  /-- The replies it has heard. -/
  calls : Nat
  /-- The aggregate it loaded. -/
  user : Option User
  /-- The hash it is about to store. -/
  hash : Option String
  ids : List Uuid
  /-- The hash of the refresh token it generated. -/
  generated : Option String
  /-- It has asked for the insert of its refresh token. -/
  created : Bool
  /-- Its save was refused. -/
  refused : Bool
  /-- Every reply was the one a login goes on from. -/
  fine : Bool
deriving Repr

def Knowledge.start : Knowledge where
  calls := 0
  user := none
  hash := none
  ids := []
  generated := none
  created := false
  refused := false
  fine := true

variable (host : Host)

def learn (k : Knowledge) : (c : AuthCall) → Except Failure c.Reply → Knowledge
  | .users (.findByEmail ..), .ok (some user) =>
      { k with user := some user, fine := k.fine && user.assertCanAuthenticate = .ok () }
  | .users (.findByEmail ..), _ => { k with fine := false }
  | .users (.save _), .error _ => { k with refused := true, fine := false }
  | .hasher (.verify ..), .ok passwordMatches => { k with fine := k.fine && passwordMatches }
  | .hasher (.hash _), .ok hash => { k with hash := some hash }
  | .runtime .randomUUID, .ok id => { k with ids := id :: k.ids }
  | .runtime .randomBytes, .ok raw => { k with generated := some (host.sha256Hex raw) }
  | .refreshTokens (.create _), .ok _ => { k with created := true }
  | .refreshTokens (.create _), .error _ => { k with created := true, fine := false }
  | _, .ok _ => k
  | _, .error _ => { k with fine := false }

def observe (k : Knowledge) (c : AuthCall) (reply : Except Failure c.Reply) : Knowledge :=
  { learn host k c reply with calls := k.calls + 1 }

variable (email : Email) (password : String)

/-- A login that rehashes hears fifteen replies. -/
def mostCalls : Nat := 15

def asks (k : Knowledge) : AuthCall → Prop
  | .users (.findByEmail address includeDeleted) =>
      k.user = none ∧ address = email ∧ includeDeleted = false
  | .users (.save user) => ∃ loaded hash time, k.user = some loaded ∧ k.hash = some hash ∧
      loaded.assertCanAuthenticate = .ok () ∧ user = loaded.upgradePasswordHash hash time
  | .users (.touchLastLogin ..) => True
  | .hasher (.verify hash plaintext) =>
      plaintext = password ∧ ∃ user, k.user = some user ∧ user.passwordHash = some hash
  | .hasher (.hash plaintext) => plaintext = password
  | .hasher .simulateVerification => True
  | .runtime .randomBytes => k.generated = none
  | .runtime _ => True
  | .refreshTokens (.create token) =>
      k.created = false ∧ token.id ∈ k.ids ∧ k.generated = some token.tokenHash ∧
        ∃ user, k.user = some user ∧ token.userId = user.id
  | _ => False

/-- A login whose save was refused issues no further call. -/
def permits (k : Knowledge) (c : AuthCall) : Prop :=
  k.refused = false ∧ k.calls < mostCalls ∧ asks email password k c

def accepts (k : Knowledge) (result : Except Failure AuthenticationResult) : Prop :=
  k.fine ↔ ∃ value, result = .ok value

abbrev monitor : Monitor authInterface Failure where
  State := Knowledge
  observe := observe host
  permits := permits email password

abbrev Safe (k : Knowledge) (program : UseCase AuthenticationResult) : Prop :=
  (monitor host email password).Conforms accepts k program

variable {host email password}

theorem safe_ask {k : Knowledge} {c : AuthCall} {next : c.Reply → UseCase AuthenticationResult}
    (permitted : permits email password k c)
    (failed : ∀ failure, (observe host k c (.error failure)).fine = false)
    (step : ∀ value, Safe host email password (observe host k c (.ok value)) (next value)) :
    Safe host email password k (ask c >>= next) := by
  refine Monitor.conforms_perform_bind.mpr ⟨permitted, step, fun failure => ?_⟩
  simp [accepts, failed failure]

theorem safe_check {k : Knowledge} {result : Except DomainError Unit}
    {next : Unit → UseCase AuthenticationResult} (refused : result ≠ .ok () → k.fine = false)
    (ok : result = .ok () → Safe host email password k (next ())) :
    Safe host email password k (check result >>= next) := by
  cases result with
  | ok value => exact ok rfl
  | error error =>
    have unfine := refused (by simp)
    simp [check, Monitor.Conforms, accepts, unfine]

theorem safe_openSession {k : Knowledge} {loaded user : User} {fingerprint : ClientFingerprint}
    (hloaded : k.user = some loaded) (sameId : user.id = loaded.id) (fine : k.fine = true)
    (accepted : k.refused = false) (uncreated : k.created = false) (fresh : k.generated = none)
    (early : k.calls ≤ 5) :
    Safe host email password k (LoginUseCase.openSession host user fingerprint) := by
  have soon {n : Nat} (h : n ≤ 9) : k.calls + n < mostCalls := by
    unfold mostCalls
    omega
  simp only [LoginUseCase.openSession, buildAuthenticationResult, issueAccessToken,
    Program.bind_assoc]
  refine safe_ask ⟨accepted, soon (n := 0) (by omega), trivial⟩ (fun _ => rfl) fun jti => ?_
  refine safe_ask ⟨accepted, soon (n := 1) (by omega), trivial⟩ (fun _ => rfl) fun token => ?_
  refine safe_ask ⟨accepted, soon (n := 2) (by omega), trivial⟩ (fun _ => rfl) fun issuedAt => ?_
  refine safe_ask ⟨accepted, soon (n := 3) (by omega), fresh⟩ (fun _ => rfl) fun raw => ?_
  refine safe_ask ⟨accepted, soon (n := 4) (by omega), trivial⟩ (fun _ => rfl) fun time => ?_
  refine safe_ask ⟨accepted, soon (n := 5) (by omega), trivial⟩ (fun _ => rfl) fun id => ?_
  refine safe_ask ⟨accepted, soon (n := 6) (by omega), trivial⟩ (fun _ => rfl) fun familyId => ?_
  refine safe_ask ⟨accepted, soon (n := 7) (by omega), uncreated,
    List.mem_cons_of_mem _ List.mem_cons_self, rfl, loaded, hloaded, sameId⟩ (fun _ => rfl)
    fun _ => ?_
  refine safe_ask ⟨accepted, soon (n := 8) (by omega), trivial⟩ (fun _ => rfl) fun now => ?_
  refine safe_ask ⟨accepted, soon (n := 9) (by omega), trivial⟩ (fun _ => rfl) fun _ => ?_
  exact ⟨fun _ => ⟨_, rfl⟩, fun _ => fine⟩

theorem safe_login (signIn : SignIn host email) :
    Safe host email password .start ((logins host email password).body signIn) := by
  change Safe host email password .start (LoginUseCase.execute host _)
  simp only [LoginUseCase.execute, signIn.reads]
  refine safe_ask ⟨rfl, (by decide : 0 < mostCalls), rfl, rfl, rfl⟩ (fun _ => rfl) fun found => ?_
  cases found with
  | none =>
    refine safe_ask ⟨rfl, (by decide : 1 < mostCalls), trivial⟩ (fun _ => rfl) fun _ => ?_
    simp [accepts, observe, learn, Monitor.Conforms]
  | some user =>
    dsimp only
    split
    · rename_i missing
      have locked : user.assertCanAuthenticate ≠ .ok () := by
        intro authenticated
        have := user.passwordHash_of_authenticated authenticated
        simp [missing] at this
      refine safe_ask ⟨rfl, (by decide : 1 < mostCalls), trivial⟩ (fun _ => rfl) fun _ => ?_
      simp [accepts, observe, learn, Knowledge.start, Monitor.Conforms, locked]
    rename_i passwordHash hash
    refine safe_ask ⟨rfl, (by decide : 1 < mostCalls), rfl, user, rfl, hash⟩ (fun _ => rfl)
      fun passwordMatches => ?_
    cases passwordMatches with
    | false => simp [accepts, observe, learn, Knowledge.start, Monitor.Conforms]
    | true =>
      refine safe_check (fun locked => ?_) fun authenticated => ?_
      · simp [observe, learn, Knowledge.start, locked]
      unfold LoginUseCase.upgradeHash
      split
      · simp only [Program.bind_assoc]
        refine safe_ask ⟨rfl, (by decide : 2 < mostCalls), rfl⟩ (fun _ => rfl) fun hash => ?_
        refine safe_ask ⟨rfl, (by decide : 3 < mostCalls), trivial⟩ (fun _ => rfl) fun time => ?_
        refine safe_ask ⟨rfl, (by decide : 4 < mostCalls), user, hash, time, rfl, rfl,
          authenticated, rfl⟩ (fun _ => rfl) fun _ => ?_
        refine safe_openSession rfl rfl ?_ rfl rfl rfl (by decide : 5 ≤ 5)
        simp [observe, learn, Knowledge.start, authenticated]
      · refine safe_openSession rfl rfl ?_ rfl rfl rfl (by decide : 2 ≤ 5)
        simp [observe, learn, Knowledge.start, authenticated]

abbrev discipline (host : Host) (email : Email) (password : String) :
    Discipline (logins host email password) where
  toMonitor := monitor host email password
  initial _ := .start
  accepts := accepts
  conforms := safe_login

/-! The draws of the random source. -/

variable {v v' : (discipline host email password).View}
  {e : Event (logins host email password)}

theorem settle_answer {fate : Fate (logins host email password)} {c : AuthCall}
    {reply : Except Failure c.Reply} {store store' : Store}
    (settled : fate.settle c store = some (reply, store')) :
    ∃ input, honest host input c ∧ answer host input c store = some (reply, store') := by
  cases fate with
  | answered input =>
    simp only [Fate.settle, Option.ite_none_right_eq_some] at settled
    exact ⟨input, settled⟩
  | lost fault => exact fault.elim
  | unheard input fault => exact fault.elim

section

variable {k : Knowledge} {c : AuthCall} {reply : Except Failure c.Reply}

theorem ids_observe {id : Uuid} (h : id ∈ (observe host k c reply).ids) :
    id ∈ k.ids ∨ Heard c reply = Heard (.runtime .randomUUID) (.ok id) := by
  unfold observe learn at h
  split at h <;> first | exact .inl h | skip
  rcases List.mem_cons.mp h with rfl | old
  · exact .inr rfl
  · exact .inl old

theorem generated_observe {tokenHash : String}
    (h : (observe host k c reply).generated = some tokenHash) :
    k.generated = some tokenHash ∨ ∃ raw, tokenHash = host.sha256Hex raw ∧
      Heard c reply = Heard (.runtime .randomBytes) (.ok raw) := by
  unfold observe learn at h
  split at h <;> first | exact .inl h | skip
  exact .inr ⟨_, (Option.some.inj h).symm, rfl⟩

theorem created_observe (h : (observe host k c reply).created = false) :
    k.created = false ∧ ∀ token, c ≠ .refreshTokens (.create token) := by
  have kept : k.created = true → (observe host k c reply).created = true := by
    intro created
    unfold observe learn
    split <;> first | exact created | rfl
  constructor
  · cases created : k.created with
    | false => rfl
    | true => rw [kept created] at h; cases h
  · rintro token rfl
    cases reply <;> cases h

end

/-- Ids and hashes are drawn once, and a client's are its own until it inserts them. -/
structure Drawn (v : (discipline host email password).View) : Prop where
  rowIds : ∀ row ∈ v.store.refreshTokens, row.id ∈ v.store.ids
  rowHashes : ∀ row ∈ v.store.refreshTokens, row.tokenHash ∈ v.store.hashes
  ids : ∀ i k, v.clients i = some k → ∀ id ∈ k.ids, id ∈ v.store.ids
  hashes : ∀ i k, v.clients i = some k → ∀ tokenHash, k.generated = some tokenHash →
    tokenHash ∈ v.store.hashes
  ownIds : ∀ i j k k', v.clients i = some k → v.clients j = some k' → ∀ id ∈ k.ids, id ∈ k'.ids →
    i = j
  ownHashes : ∀ i j k k', v.clients i = some k → v.clients j = some k' →
    ∀ tokenHash, k.generated = some tokenHash → k'.generated = some tokenHash → i = j
  unused : ∀ i k, v.clients i = some k → k.created = false → ∀ row ∈ v.store.refreshTokens,
    row.id ∉ k.ids ∧ k.generated ≠ some row.tokenHash

theorem ids_fresh {input : Input} {k : Knowledge} {c : AuthCall} {reply : Except Failure c.Reply}
    {store store' : Store} (hanswer : answer host input c store = some (reply, store')) {id : Uuid}
    (h : id ∈ (observe host k c reply).ids) :
    id ∈ k.ids ∨ id ∉ store.ids ∧ id ∈ store'.ids := by
  rcases ids_observe h with old | heard
  · exact .inl old
  · cases heard
    obtain ⟨_, same, fresh, added⟩ := randomUUID_answer hanswer
    cases same
    exact .inr ⟨fresh, added ▸ List.mem_cons_self⟩

theorem generated_fresh {input : Input} {k : Knowledge} {c : AuthCall}
    {reply : Except Failure c.Reply} {store store' : Store}
    (hanswer : answer host input c store = some (reply, store')) {tokenHash : String}
    (h : (observe host k c reply).generated = some tokenHash) :
    k.generated = some tokenHash ∨ tokenHash ∉ store.hashes ∧ tokenHash ∈ store'.hashes := by
  rcases generated_observe h with old | ⟨raw, rfl, heard⟩
  · exact .inl old
  · cases heard
    obtain ⟨_, same, fresh, added⟩ := randomBytes_answer hanswer
    cases same
    exact .inr ⟨fresh, added ▸ List.mem_cons_self⟩

theorem row_settle {fate : Fate (logins host email password)} {c : AuthCall}
    {reply : Except Failure c.Reply} {store store' : Store}
    (settled : fate.settle c store = some (reply, store')) {row : RefreshTokenRow}
    (hrow : row ∈ store'.refreshTokens) :
    (∃ before ∈ store.refreshTokens, row.id = before.id ∧ row.tokenHash = before.tokenHash) ∨
      ∃ token, c = .refreshTokens (.create token) ∧ row.id = token.id ∧
        row.tokenHash = token.tokenHash := by
  obtain ⟨input, -, hanswer⟩ := settle_answer settled
  rcases mem_tokens_answer hanswer hrow with ⟨before, hbefore, evolves⟩ | ⟨token, rfl, rfl⟩
  · exact .inl ⟨before, hbefore, evolves.id, evolves.tokenHash⟩
  · exact .inr ⟨token, rfl, rfl, rfl⟩

theorem pools_answer {input : Input} {c : AuthCall} {reply : Except Failure c.Reply}
    {store store' : Store} (hanswer : answer host input c store = some (reply, store')) :
    store.ids ⊆ store'.ids ∧ store.hashes ⊆ store'.hashes := by
  obtain ⟨-, -, ids, hashes⟩ := frame_answer hanswer
  constructor
  · rcases ids with same | rfl
    · exact same ▸ List.Subset.refl _
    · obtain ⟨_, -, -, added⟩ := randomUUID_answer hanswer
      exact added ▸ List.subset_cons_self ..
  · rcases hashes with same | rfl
    · exact same ▸ List.Subset.refl _
    · obtain ⟨_, -, -, added⟩ := randomBytes_answer hanswer
      exact added ▸ List.subset_cons_self ..

theorem Drawn.allotted (h : Drawn v) :
    Allotted (fun k id => id ∈ k.ids) (· ∈ v.store.ids) v.clients ∧
      Allotted (fun k tokenHash => k.generated = some tokenHash) (· ∈ v.store.hashes) v.clients :=
  ⟨⟨h.ids, h.ownIds⟩, ⟨h.hashes, h.ownHashes⟩⟩

theorem Drawn.join {n : Nat} (h : Drawn v) :
    Drawn ⟨v.store, Function.update v.clients n (some Knowledge.start)⟩ := by
  obtain ⟨ids, hashes⟩ := h.allotted
  have ids' := ids.join (n := n) (k := Knowledge.start) fun id => List.not_mem_nil
  have hashes' := hashes.join (n := n) (k := Knowledge.start) fun tokenHash generated => by
    cases generated
  refine ⟨h.rowIds, h.rowHashes, ids'.issued, hashes'.issued, ids'.own, hashes'.own, ?_⟩
  intro i k hi uncreated row hrow
  rcases Discipline.update_client.mp hi with ⟨-, rfl⟩ | ⟨-, old⟩
  · exact ⟨List.not_mem_nil, by simp [Knowledge.start]⟩
  · exact h.unused i k old uncreated row hrow

theorem Drawn.settle {n : Nat} {fate : Fate (logins host email password)} {k : Knowledge}
    {c : AuthCall} {reply : Except Failure c.Reply} {store : Store} (h : Drawn v)
    (client : v.clients n = some k) (permitted : permits email password k c)
    (settled : fate.settle c v.store = some (reply, store)) :
    Drawn ⟨store, Function.update v.clients n (some (observe host k c reply))⟩ := by
  obtain ⟨input, -, hanswer⟩ := settle_answer settled
  obtain ⟨moreIds, moreHashes⟩ := pools_answer hanswer
  obtain ⟨ids, hashes⟩ := h.allotted
  have ids' := ids.draw client (fun id drawn => moreIds drawn) fun id hid =>
    ids_fresh hanswer hid
  have hashes' := hashes.draw client (fun tokenHash drawn => moreHashes drawn)
    fun tokenHash generated => generated_fresh hanswer generated
  have inserts {token : RefreshToken} (insert : c = .refreshTokens (.create token)) :
      k.created = false ∧ token.id ∈ k.ids ∧ k.generated = some token.tokenHash := by
    subst insert
    exact ⟨permitted.2.2.1, permitted.2.2.2.1, permitted.2.2.2.2.1⟩
  refine ⟨?_, ?_, ids'.issued, hashes'.issued, ids'.own, hashes'.own, ?_⟩
  · intro row hrow
    rcases row_settle settled hrow with ⟨before, hbefore, id, -⟩ | ⟨token, insert, id, -⟩
    · exact moreIds (id ▸ h.rowIds before hbefore)
    · exact moreIds (id ▸ h.ids n k client _ (inserts insert).2.1)
  · intro row hrow
    rcases row_settle settled hrow with ⟨before, hbefore, -, hash⟩ | ⟨token, insert, -, hash⟩
    · exact moreHashes (hash ▸ h.rowHashes before hbefore)
    · exact moreHashes (hash ▸ h.hashes n k client _ (inserts insert).2.2)
  · intro i ki hi uncreated row hrow
    rcases Discipline.update_client.mp hi with ⟨rfl, rfl⟩ | ⟨other, hi'⟩
    · obtain ⟨before, uninserted⟩ := created_observe uncreated
      rcases row_settle settled hrow with ⟨old, hold, id, hash⟩ | ⟨token, insert, -⟩
      · obtain ⟨unusedId, unusedHash⟩ := h.unused _ _ client before old hold
        rw [id, hash]
        refine ⟨fun hid => ?_, fun hgen => ?_⟩
        · rcases ids_fresh hanswer hid with mine | ⟨fresh, -⟩
          · exact unusedId mine
          · exact fresh (h.rowIds old hold)
        · rcases generated_fresh hanswer hgen with mine | ⟨fresh, -⟩
          · exact unusedHash mine
          · exact fresh (h.rowHashes old hold)
      · exact absurd insert (uninserted token)
    · rcases row_settle settled hrow with ⟨old, hold, id, hash⟩ | ⟨token, insert, id, hash⟩
      · rw [id, hash]
        exact h.unused _ _ hi' uncreated old hold
      · obtain ⟨-, drawn, generated⟩ := inserts insert
        rw [id, hash]
        exact ⟨fun hid => other (h.ownIds _ _ _ _ hi' client _ hid drawn),
          fun hgen => other (h.ownHashes _ _ _ _ hi' client _ hgen generated)⟩

/-! The account. -/

/-- The row of a user who may sign in with the password. -/
def MaySignIn (host : Host) (email : Email) (password : String) (row : UserRow) : Prop :=
  row.email = email.value ∧ row.status = UserStatus.active.name ∧ row.deletedAt = none ∧
    ∃ hash, row.passwordHash = some hash ∧ host.verify hash password

/-- The address and the id are unique in `users`, and the address is an account's. -/
structure Account (host : Host) (email : Email) (password : String) (users : List UserRow) :
    Prop where
  ids : UniqueKey UserRow.id users
  emails : UniqueKey UserRow.email users
  row : ∃ row ∈ users, MaySignIn host email password row

/-- What a login read of the account, at whatever version. -/
structure LoadedFrom (host : Host) (email : Email) (password : String) (row : UserRow)
    (user : User) : Prop where
  id : user.id = row.id
  email : user.email = email
  status : user.status = .active
  alive : user.deletedAt = none
  hash : ∃ hash, user.passwordHash = some hash ∧ host.verify hash password

theorem LoadedFrom.authenticates {row : UserRow} {user : User}
    (h : LoadedFrom host email password row user) : user.assertCanAuthenticate = .ok () := by
  obtain ⟨hash, hhash, -⟩ := h.hash
  simp [User.assertCanAuthenticate, User.isDeleted, h.alive, h.status, hhash]

theorem MaySignIn.loads {row : UserRow} {users : List UserRow}
    (account : Account host email password users) (hrow : row ∈ users)
    (h : MaySignIn host email password row) :
    ∃ user, PrismaUserRepository.findByEmail email false users = .ok (some user) ∧
      LoadedFrom host email password row user ∧ user.version = row.version := by
  obtain ⟨address, status, alive, hash⟩ := h
  have found : users.find? (fun row => row.email = email.value) = some row :=
    account.emails.find_eq_some.mpr ⟨hrow, address⟩
  refine ⟨.fromSnapshot (row.toSnapshot .active), ?_, ⟨rfl, ?_, rfl, alive, hash⟩, rfl⟩
  · exact PrismaUserRepository.findByEmail_of_find found alive status
  · cases email
    exact congrArg Email.mk address

/-! The save of an upgraded hash. -/

section

variable {users : List UserRow} {row : UserRow} {loaded : User} {hash : String} {time : Date}

theorem LoadedFrom.address_free (account : Account host email password users) (hrow : row ∈ users)
    (maySignIn : MaySignIn host email password row)
    (h : LoadedFrom host email password row loaded) :
    PrismaUserRepository.emailTaken (loaded.upgradePasswordHash hash time).toSnapshot users =
      false := by
  apply Bool.eq_false_iff.mpr
  intro taken
  simp only [PrismaUserRepository.emailTaken, Bool.and_eq_true, List.any_eq_true,
    decide_eq_true_eq] at taken
  obtain ⟨-, other, hother, address, different⟩ := taken
  have same : other.email = row.email :=
    (address.trans (congrArg Email.value h.email)).trans maySignIn.1.symm
  exact different ((congrArg UserRow.id (account.emails.eq_of_mem hother hrow same)).trans h.id.symm)

theorem LoadedFrom.locked_iff (account : Account host email password users) (hrow : row ∈ users)
    (h : LoadedFrom host email password row loaded) {other : UserRow} (hother : other ∈ users) :
    lockedOn (loaded.upgradePasswordHash hash time).toSnapshot other ↔
      other = row ∧ row.version = loaded.version := by
  have id : (loaded.upgradePasswordHash hash time).toSnapshot.id = row.id := h.id
  have version : (loaded.upgradePasswordHash hash time).toSnapshot.version = loaded.version := rfl
  simp only [lockedOn, Bool.and_eq_true, decide_eq_true_eq, id, version]
  constructor
  · rintro ⟨same, current⟩
    obtain rfl := account.ids.eq_of_mem hother hrow same
    exact ⟨rfl, current⟩
  · rintro ⟨rfl, current⟩
    exact ⟨rfl, current⟩

/-- The lock lets the save through exactly at the version that was loaded. -/
theorem LoadedFrom.save_ok_iff (account : Account host email password users) (hrow : row ∈ users)
    (maySignIn : MaySignIn host email password row)
    (h : LoadedFrom host email password row loaded) :
    (∃ value, (PrismaUserRepository.save (loaded.upgradePasswordHash hash time) users).1 =
      .ok value) ↔ row.version = loaded.version := by
  have free : PrismaUserRepository.emailTaken (loaded.upgradePasswordHash hash time).toSnapshot
      users = false := h.address_free account hrow maySignIn
  have locked {other : UserRow} (hother : other ∈ users) :
      lockedOn (loaded.upgradePasswordHash hash time).toSnapshot other ↔
        other = row ∧ row.version = loaded.version := h.locked_iff account hrow hother
  unfold PrismaUserRepository.save
  dsimp only
  rw [free, if_neg Bool.false_ne_true]
  generalize snapshot : (loaded.upgradePasswordHash hash time).toSnapshot = s at locked ⊢
  have id : s.id = row.id := snapshot ▸ h.id
  by_cases current : row.version = loaded.version
  · have mine : lockedOn s row := (locked hrow).mpr ⟨rfl, current⟩
    rw [if_pos (List.any_eq_true.mpr ⟨row, hrow, mine⟩)]
    have ids : UniqueKey UserRow.id (updateMany (lockedOn s) (saved s) users) :=
      account.ids.updateMany fun _ => rfl
    have written : saved s row ∈ updateMany (lockedOn s) (saved s) users :=
      mem_updateMany.mpr ⟨row, hrow, (if_pos mine).symm⟩
    have entity : toUserEntity (saved s row) = .ok (.fromSnapshot ((saved s row).toSnapshot s.status)) :=
      toUserEntity_eq_ok.mpr ⟨s.status, toUserStatus_eq_ok.mpr rfl, rfl⟩
    rw [ids.find_eq_some.mpr ⟨written, id.symm⟩]
    simp only [entity]
    exact ⟨fun _ => current, fun _ => ⟨_, rfl⟩⟩
  · have none : ¬users.any (lockedOn s) := by
      intro any
      obtain ⟨other, hother, matched⟩ := List.any_eq_true.mp any
      exact current ((locked hother).mp matched).2
    rw [if_neg none]
    simp only [current, iff_false, not_exists]
    intro value
    split <;> simp

/-- Two writes of the account's row: neither takes anything a login needs. -/
structure Harmless (host : Host) (email : Email) (password : String) (users users' : List UserRow) :
    Prop where
  account : Account host email password users → Account host email password users'
  row : ∀ row ∈ users, MaySignIn host email password row → ∃ row' ∈ users',
    MaySignIn host email password row' ∧ row'.id = row.id

theorem Harmless.refl (users : List UserRow) : Harmless host email password users users :=
  ⟨fun account => account, fun row hrow maySignIn => ⟨row, hrow, maySignIn, rfl⟩⟩

theorem Harmless.updateMany {whereClause : UserRow → Bool} {data : UserRow → UserRow}
    (keeps : ∀ row ∈ users, whereClause row → (data row).id = row.id ∧
      (data row).email = row.email ∧
      (MaySignIn host email password row → MaySignIn host email password (data row))) :
    Harmless host email password users (updateMany whereClause data users) := by
  have rows : ∀ row ∈ users, MaySignIn host email password row →
      ∃ row' ∈ Relational.updateMany whereClause data users,
        MaySignIn host email password row' ∧ row'.id = row.id := by
    intro row hrow maySignIn
    refine ⟨_, mem_updateMany.mpr ⟨row, hrow, rfl⟩, ?_⟩
    split
    · obtain ⟨id, -, kept⟩ := keeps row hrow ‹_›
      exact ⟨kept maySignIn, id⟩
    · exact ⟨maySignIn, rfl⟩
  refine ⟨fun account => ⟨?_, ?_, ?_⟩, rows⟩
  · exact account.ids.updateMany_of_mem fun row hrow matched => (keeps row hrow matched).1
  · exact account.emails.updateMany_of_mem fun row hrow matched => (keeps row hrow matched).2.1
  · obtain ⟨row, hrow, maySignIn⟩ := account.row
    obtain ⟨row', hrow', maySignIn', -⟩ := rows row hrow maySignIn
    exact ⟨row', hrow', maySignIn'⟩

theorem harmless_save (account : Account host email password users) (hrow : row ∈ users)
    (maySignIn : MaySignIn host email password row)
    (h : LoadedFrom host email password row loaded) (verifies : host.verify hash password) :
    Harmless host email password users
      (PrismaUserRepository.save (loaded.upgradePasswordHash hash time) users).2 := by
  rcases PrismaUserRepository.save_users (loaded.upgradePasswordHash hash time) users with
    same | ⟨written, -⟩
  · rw [same]
    exact .refl users
  rw [written]
  refine .updateMany fun other hother matched => ?_
  obtain ⟨rfl, -⟩ := (h.locked_iff account hrow hother).mp matched
  have address : (saved (loaded.upgradePasswordHash hash time).toSnapshot other).email =
      email.value := congrArg Email.value h.email
  exact ⟨rfl, address.trans maySignIn.1.symm, fun _ => ⟨address, congrArg UserStatus.name h.status,
    h.alive, hash, rfl, verifies⟩⟩

theorem harmless_touchLastLogin (userId : Uuid) (time now : Date) :
    Harmless host email password users
      (PrismaUserRepository.touchLastLogin userId time now users) :=
  .updateMany fun _ _ _ => ⟨rfl, rfl, id⟩

end

/-! The run. -/

/-- What holds of the logins and the tables, whatever the schedule. -/
structure Sound (v : (discipline host email password).View) : Prop extends Drawn v where
  account : Account host email password v.store.users
  loaded : ∀ i k user, v.clients i = some k → k.user = some user →
    ∃ row ∈ v.store.users, MaySignIn host email password row ∧
      LoadedFrom host email password row user
  verifies : ∀ i k hash, v.clients i = some k → k.hash = some hash → host.verify hash password

theorem LoadedFrom.moved {row row' : UserRow} {user : User}
    (h : LoadedFrom host email password row user) (same : row'.id = row.id) :
    LoadedFrom host email password row' user :=
  { h with id := h.id.trans same.symm }

theorem user_observe {k : Knowledge} {c : AuthCall} {reply : Except Failure c.Reply} {user : User}
    (h : (observe host k c reply).user = some user) :
    k.user = some user ∨ ∃ address includeDeleted,
      Heard c reply = Heard (.users (.findByEmail address includeDeleted)) (.ok (some user)) := by
  unfold observe learn at h
  split at h <;> first | exact .inl h | skip
  cases Option.some.inj h
  exact .inr ⟨_, _, rfl⟩

theorem hash_observe {k : Knowledge} {c : AuthCall} {reply : Except Failure c.Reply}
    {hash : String} (h : (observe host k c reply).hash = some hash) :
    k.hash = some hash ∨ ∃ plaintext,
      Heard c reply = Heard (.hasher (.hash plaintext)) (.ok hash) := by
  unfold observe learn at h
  split at h <;> first | exact .inl h | skip
  cases Option.some.inj h
  exact .inr ⟨_, rfl⟩

section

variable {n : Nat} {fate : Fate (logins host email password)} {k : Knowledge} {c : AuthCall}
  {reply : Except Failure c.Reply} {store : Store}

theorem Sound.harmless (h : Sound v) (client : v.clients n = some k)
    (permitted : permits email password k c)
    (settled : fate.settle c v.store = some (reply, store)) :
    Harmless host email password v.store.users store.users := by
  obtain ⟨input, -, hanswer⟩ := settle_answer settled
  rcases (frame_answer hanswer).2.1 with same | ⟨call, rfl⟩
  · exact same ▸ .refl _
  cases call with
  | findByEmail address includeDeleted =>
    cases Option.some.inj hanswer
    exact .refl _
  | touchLastLogin userId time =>
    cases Option.some.inj hanswer
    exact harmless_touchLastLogin userId time input.now
  | save user =>
    obtain ⟨-, -, loaded, hash, time, hloaded, hhash, -, rfl⟩ := permitted
    obtain ⟨row, hrow, maySignIn, from_⟩ := h.loaded n k loaded client hloaded
    cases Option.some.inj hanswer
    exact harmless_save h.account hrow maySignIn from_ (h.verifies n k hash client hhash)
  | findById id includeDeleted => exact permitted.2.2.elim
  | findAuthSnapshot id => exact permitted.2.2.elim

theorem Sound.settle (h : Sound v) (client : v.clients n = some k)
    (permitted : permits email password k c)
    (settled : fate.settle c v.store = some (reply, store)) :
    Sound ⟨store, Function.update v.clients n (some (observe host k c reply))⟩ := by
  have harmless := h.harmless client permitted settled
  obtain ⟨input, trusted, hanswer⟩ := settle_answer settled
  refine ⟨h.toDrawn.settle client permitted settled, harmless.account h.account, ?_, ?_⟩
  · intro i ki user hi huser
    have before : ∃ row ∈ v.store.users, MaySignIn host email password row ∧
        LoadedFrom host email password row user := by
      rcases Discipline.update_client.mp hi with ⟨rfl, rfl⟩ | ⟨-, hi'⟩
      · rcases user_observe huser with old | ⟨address, includeDeleted, heard⟩
        · exact h.loaded _ _ user client old
        · cases heard
          obtain ⟨-, -, -, rfl, rfl⟩ := permitted
          obtain ⟨row, hrow, maySignIn⟩ := h.account.row
          obtain ⟨user', found, from_, -⟩ := maySignIn.loads h.account hrow
          have same := congrArg Prod.fst (Option.some.inj hanswer)
          cases (Except.ok.inj (found.symm.trans same))
          exact ⟨row, hrow, maySignIn, from_⟩
      · exact h.loaded _ _ user hi' huser
    obtain ⟨row, hrow, maySignIn, from_⟩ := before
    obtain ⟨row', hrow', maySignIn', same⟩ := harmless.row row hrow maySignIn
    exact ⟨row', hrow', maySignIn', from_.moved same⟩
  · intro i ki hash hi hhash
    rcases Discipline.update_client.mp hi with ⟨rfl, rfl⟩ | ⟨-, hi'⟩
    · rcases hash_observe hhash with old | ⟨plaintext, heard⟩
      · exact h.verifies _ _ hash client old
      · cases heard
        obtain rfl : plaintext = password := permitted.2.2
        cases Except.ok.inj (congrArg Prod.fst (Option.some.inj hanswer))
        exact trusted
    · exact h.verifies _ _ hash hi' hhash

end

theorem Sound.step (h : Sound v) (hstep : Discipline.View.Step (discipline host email password) v e v') :
    Sound v' := by
  cases hstep with
  | @join n command free =>
    have old {i k} (hi : Function.update v.clients n (some Knowledge.start) i = some k) :
        v.clients i = some k ∨ k = .start :=
      (Discipline.update_client.mp hi).elim (fun new => .inr new.2) (fun old => .inl old.2)
    refine ⟨h.toDrawn.join, h.account, ?_, ?_⟩
    · intro i k user hi huser
      rcases old hi with hi | rfl
      · exact h.loaded i k user hi huser
      · cases huser
    · intro i k hash hi hhash
      rcases old hi with hi | rfl
      · exact h.verifies i k hash hi hhash
      · cases hhash
  | settle client permitted settled => exact h.settle client permitted settled

def Current (users : List UserRow) : AuthCall → Prop
  | .users (.save user) => ∃ row ∈ users, row.id = user.id ∧ row.version = user.version
  | _ => True

theorem Sound.save_settle {n : Nat} {input : Input} {k : Knowledge} {user : User}
    {reply : Except Failure (AuthCall.Reply (.users (.save user)))} {store : Store} (h : Sound v)
    (client : v.clients n = some k) (permitted : permits email password k (.users (.save user)))
    (hanswer : answer host input (.users (.save user)) v.store = some (reply, store)) :
    (∃ value, reply = .ok value) ↔ Current v.store.users (.users (.save user)) := by
  obtain ⟨-, -, loaded, hash, time, hloaded, -, -, rfl⟩ := permitted
  obtain ⟨row, hrow, maySignIn, from_⟩ := h.loaded n k loaded client hloaded
  have same : (PrismaUserRepository.save (loaded.upgradePasswordHash hash time)
      v.store.users).1 = reply := by
    have answered := Option.some.inj hanswer
    exact congrArg Prod.fst answered
  have accepted : (∃ value, (PrismaUserRepository.save (loaded.upgradePasswordHash hash time)
      v.store.users).1 = .ok value) ↔ row.version = loaded.version :=
    from_.save_ok_iff h.account hrow maySignIn
  rw [same] at accepted
  refine accepted.trans ⟨?_, ?_⟩
  · intro version
    exact ⟨row, hrow, from_.id.symm, version⟩
  · rintro ⟨other, hother, id, version⟩
    obtain rfl := h.account.ids.eq_of_mem hother hrow (id.trans from_.id)
    exact version

/-- A reply a login does not go on from is a save refused by the lock. -/
theorem Sound.fine_settle {n : Nat} {fate : Fate (logins host email password)} {k : Knowledge}
    {c : AuthCall} {reply : Except Failure c.Reply} {store : Store} (h : Sound v)
    (client : v.clients n = some k) (permitted : permits email password k c)
    (settled : fate.settle c v.store = some (reply, store)) :
    (observe host k c reply).fine = true ↔ k.fine = true ∧ Current v.store.users c := by
  obtain ⟨input, -, hanswer⟩ := settle_answer settled
  cases c with
  | users call =>
    cases call with
    | findByEmail address includeDeleted =>
      obtain ⟨-, -, -, rfl, rfl⟩ := permitted
      obtain ⟨row, hrow, maySignIn⟩ := h.account.row
      obtain ⟨user, found, from_, -⟩ := maySignIn.loads h.account hrow
      have same := congrArg Prod.fst (Option.some.inj hanswer)
      obtain rfl := found.symm.trans same
      simp [observe, learn, from_.authenticates, Current]
    | touchLastLogin userId time =>
      cases Option.some.inj hanswer
      simp [observe, learn, Current]
    | save user =>
      rw [← h.save_settle client permitted hanswer]
      cases reply with
      | error failure => simp [observe, learn]
      | ok value => exact ⟨fun fine => ⟨fine, value, rfl⟩, fun h => h.1⟩
    | findById id includeDeleted => exact permitted.2.2.elim
    | findAuthSnapshot id => exact permitted.2.2.elim
  | hasher call =>
    cases call with
    | verify hash plaintext =>
      obtain ⟨-, -, rfl, user, huser, hhash⟩ := permitted
      obtain ⟨row, hrow, maySignIn, from_⟩ := h.loaded n k user client huser
      obtain ⟨stored, hstored, verifies⟩ := from_.hash
      cases hhash.symm.trans hstored
      cases Option.some.inj hanswer
      simp [observe, learn, answerHasher, verifies, Current]
    | hash plaintext =>
      cases Option.some.inj hanswer
      simp [observe, learn, Current]
    | simulateVerification =>
      cases Option.some.inj hanswer
      simp [observe, learn, Current]
  | runtime call =>
    obtain ⟨⟨value, after⟩, -, heq⟩ := Option.map_eq_some_iff.mp hanswer
    cases heq
    cases call <;> simp [observe, learn, Current]
  | refreshTokens call =>
    cases call with
    | create token =>
      obtain ⟨-, -, uncreated, drawn, generated, user, huser, owner⟩ := permitted
      obtain ⟨row, hrow, -, from_⟩ := h.loaded n k user client huser
      have unused := h.unused n k client uncreated
      obtain ⟨stored, inserted⟩ := PrismaRefreshTokenRepository.create_ok
        (fun other hother same => (unused other hother).1 (same ▸ drawn))
        (fun other hother same => (unused other hother).2 (same ▸ generated))
        ⟨row, hrow, from_.id.symm.trans owner.symm⟩
      have same : (PrismaRefreshTokenRepository.create token v.store.users
          v.store.refreshTokens).1 = reply := by
        have answered := Option.some.inj hanswer
        exact congrArg Prod.fst answered
      obtain rfl := inserted.symm.trans same
      simp [observe, learn, Current]
    | _ => exact permitted.2.2.elim
  | redis call => exact permitted.2.2.elim

theorem Sound.refused_settle {n : Nat} {fate : Fate (logins host email password)} {k : Knowledge}
    {c : AuthCall} {reply : Except Failure c.Reply} {store : Store} (h : Sound v)
    (client : v.clients n = some k) (permitted : permits email password k c)
    (settled : fate.settle c v.store = some (reply, store)) (stale : ¬Current v.store.users c) :
    (observe host k c reply).refused = true ∧ (observe host k c reply).fine = false := by
  obtain ⟨input, -, hanswer⟩ := settle_answer settled
  obtain ⟨user, rfl⟩ : ∃ user, c = .users (.save user) := by
    unfold Current at stale
    split at stale
    · exact ⟨_, rfl⟩
    · exact absurd trivial stale
  cases reply with
  | error failure => exact ⟨rfl, rfl⟩
  | ok value => exact absurd ((h.save_settle client permitted hanswer).mp ⟨value, rfl⟩) stale

/-- Before the first login: the account, and no id or hash to be drawn again. -/
structure Opening (w : World (logins host email password)) : Prop where
  idle : w.threads = []
  account : Account host email password w.store.users
  ids : ∀ row ∈ w.store.refreshTokens, row.id ∈ w.store.ids
  hashes : ∀ row ∈ w.store.refreshTokens, row.tokenHash ∈ w.store.hashes

/-- Every login has returned a result, or is waiting for one of its fifteen replies. -/
def Succeed (w : World (logins host email password)) : Prop :=
  ∀ (i : Nat) (t : Thread (logins host email password)), w.threads[i]? = some t →
    (∃ result, t.Returned (.ok result)) ∨
      (∃ c next, t.rest = .call c next) ∧ t.heard.length < mostCalls

/-- No save of an upgraded hash comes after another one of the same account that its
login has not seen: the row is at the version that was loaded. -/
def Unraced (w : World (logins host email password)) : Event (logins host email password) → Prop
  | .start _ => True
  | .advance i _ => ∀ t c next, w.threads[i]? = some t → t.rest = .call c next →
      Current w.store.users c

variable {start w w' : World (logins host email password)}
  {es : List (Event (logins host email password))}

theorem Opening.sound (h : Opening start) :
    Sound ((discipline host email password).view start) where
  rowIds := h.ids
  rowHashes := h.hashes
  account := h.account
  ids i k hi := by simp [Discipline.view, h.idle] at hi
  hashes i k hi := by simp [Discipline.view, h.idle] at hi
  ownIds i j k k' hi := by simp [Discipline.view, h.idle] at hi
  ownHashes i j k k' hi := by simp [Discipline.view, h.idle] at hi
  unused i k hi := by simp [Discipline.view, h.idle] at hi
  loaded i k user hi := by simp [Discipline.view, h.idle] at hi
  verifies i k hash hi := by simp [Discipline.view, h.idle] at hi

theorem Opening.run (h : Opening start) (hrun : start.run es = some w) :
    (discipline host email password).Holds w ∧
      Sound ((discipline host email password).view w) := by
  have holds := (discipline host email password).holds_of_idle h.idle
  exact ⟨(discipline host email password).holds_run holds hrun,
    (discipline host email password).view_invariant (fun _ _ _ hv hstep => hv.step hstep) holds
      h.sound hrun⟩

theorem calls_seen (t : Thread (logins host email password)) :
    ((discipline host email password).seen t).calls = t.heard.length := by
  have fold (heard : List (Exchange authInterface Failure)) (k : Knowledge) :
      (heard.foldl (fun k x => observe host k x.call x.reply) k).calls =
        k.calls + heard.length := by
    induction heard generalizing k with
    | nil => rfl
    | cons x heard ih =>
      rw [List.foldl_cons, ih, List.length_cons]
      have : (observe host k x.call x.reply).calls = k.calls + 1 := rfl
      omega
  exact (fold t.heard .start).trans (Nat.zero_add _)

theorem succeed_of_fine (holds : (discipline host email password).Holds w)
    (fine : ∀ (i : Nat) (t : Thread (logins host email password)), w.threads[i]? = some t →
      ((discipline host email password).seen t).fine = true) : Succeed w := by
  intro i t thread
  cases rest : t.rest with
  | done result =>
    have ends := (discipline host email password).accepts_of_returned holds thread rest
    obtain ⟨value, rfl⟩ := ends.mp (fine i t thread)
    exact .inl ⟨value, rest⟩
  | call c next =>
    have permitted := (discipline host email password).permits_of_waiting holds thread rest
    exact .inr ⟨⟨c, next, rfl⟩, calls_seen t ▸ permitted.2.1⟩

theorem thrown_of_refused (holds : (discipline host email password).Holds w) {i : Nat}
    {t : Thread (logins host email password)} (thread : w.threads[i]? = some t)
    (refused : ((discipline host email password).seen t).refused = true)
    (unfine : ((discipline host email password).seen t).fine = false) :
    ∃ failure, t.Returned (.error failure) := by
  cases rest : t.rest with
  | call c next =>
    have permitted := (discipline host email password).permits_of_waiting holds thread rest
    exact absurd permitted.1 (by simp [refused])
  | done result =>
    have ends := (discipline host email password).accepts_of_returned holds thread rest
    cases result with
    | error failure => exact ⟨failure, rest⟩
    | ok value => exact absurd (ends.mpr ⟨value, rfl⟩) (by simp [unfine])

theorem fine_run (opening : Opening start) (hrun : start.run es = some w)
    (unraced : start.Along es fun w e _ => Unraced w e) :
    ∀ (i : Nat) (t : Thread (logins host email password)), w.threads[i]? = some t →
      ((discipline host email password).seen t).fine = true := by
  refine World.run_induction (P := fun es w => start.Along es (fun w e _ => Unraced w e) →
    ∀ (i : Nat) (t : Thread (logins host email password)), w.threads[i]? = some t →
      ((discipline host email password).seen t).fine = true) ?_ ?_ es w hrun unraced
  · intro _ i t thread
    simp [opening.idle] at thread
  · intro es e w w' hes ih hstep unraced j u hu
    have before := ih unraced.start
    have here := unraced.last hes hstep
    obtain ⟨holds, sound⟩ := opening.run hes
    cases hstep with
    | join command =>
      rcases World.join_thread.mp hu with old | ⟨-, rfl⟩
      · exact before j u old
      · rfl
    | @resume i fate t c next reply store thread waiting settled =>
      rcases (World.resume_thread thread).mp hu with ⟨rfl, rfl⟩ | ⟨-, old⟩
      · rw [Discipline.seen_after]
        exact (sound.fine_settle ((discipline host email password).view_client thread)
          ((discipline host email password).permits_of_waiting holds thread waiting) settled).mpr
          ⟨before _ t thread, here t c next thread waiting⟩
      · exact before j u old

/-- A login that saves past the lock is seen to have thrown for the rest of the run. -/
theorem unraced_of_succeed (opening : Opening start) (hrun : start.run es = some w)
    (succeed : Succeed w) : start.Along es fun w e _ => Unraced w e := by
  rintro first e rest w₁ w₂ rfl hfirst hstep
  cases e with
  | start command => trivial
  | advance i fate =>
    intro t c next thread waiting
    by_contra stale
    obtain ⟨holds, sound⟩ := opening.run hfirst
    have client := (discipline host email password).view_client thread
    have permitted := (discipline host email password).permits_of_waiting holds thread waiting
    have now := World.run_snoc hfirst hstep
    obtain ⟨mid, hmid, hrest⟩ := World.run_split (List.append_cons first _ rest ▸ hrun)
    cases now.symm.trans hmid
    have later := (opening.run now).1
    cases hstep with
    | @resume _ _ _ _ _ reply store thread' waiting' settled =>
      cases thread.symm.trans thread'
      cases waiting.symm.trans waiting'
      obtain ⟨refused, unfine⟩ := sound.refused_settle client permitted settled stale
      have ended : (w₁.resume i (t.after c next reply) store).threads[i]? =
          some (t.after c next reply) := (World.resume_thread thread).mpr (.inl ⟨rfl, rfl⟩)
      obtain ⟨failure, thrown⟩ := thrown_of_refused later ended
        (by rw [Discipline.seen_after]; exact refused) (by rw [Discipline.seen_after]; exact unfine)
      have kept : w.threads[i]? = some (t.after c next reply) :=
        World.run_invariant (P := fun w => w.threads[i]? = some (t.after c next reply))
          (fun _ _ _ there hstep => World.step_keeps_returned hstep there thrown) ended hrest
      rcases succeed i _ kept with ⟨result, returned⟩ | ⟨⟨c', next', waits⟩, -⟩
      · exact absurd (returned.symm.trans thrown) (by simp)
      · exact absurd (waits.symm.trans thrown) (by simp)

/-- In a run of logins each of them succeeds exactly when no save of an upgraded
hash loses the optimistic lock to the save of another one. -/
theorem concurrent_logins_succeed_iff (host : Host) (email : Email) (password : String)
    {start w : World (logins host email password)} {es : List (Event (logins host email password))}
    (opening : Opening start) (hrun : start.run es = some w) :
    Succeed w ↔ start.Along es fun w e _ => Unraced w e := by
  constructor
  · intro succeed
    exact unraced_of_succeed opening hrun succeed
  · intro unraced
    exact succeed_of_fine (opening.run hrun).1 (fine_run opening hrun unraced)

/-! The race, once the hashing cost was raised: both logins load the old hash, and
both save a new one. -/

def raisedCost : Host :=
  { sampleHost with
    verify := fun hash plaintext => hash = plaintext || hash = "v2:" ++ plaintext
    needsRehash := fun hash => hash = "correct horse battery" }

def ann : Email :=
  ⟨"ann@example.com"⟩

abbrev annLogins : System :=
  logins raisedCost ann "correct horse battery"

def annWorld : World annLogins where
  store := sampleWorld.store
  threads := []

def annSignsIn : Event annLogins :=
  .start ⟨"ann@example.com", rfl, ⟨none, none⟩⟩

def draws (i : Nat) (randoms : List String) : List (Event annLogins) :=
  randoms.map fun random => .advance i (.answered ⟨0, random⟩)

def rehashRace : List (Event annLogins) :=
  [annSignsIn, annSignsIn] ++ draws 0 ["", "", "v2:correct horse battery", ""] ++
    draws 1 ["", "", "v2:correct horse battery", ""] ++ draws 0 [""] ++ draws 1 [""]

def afterRehashRace : World annLogins :=
  (annWorld.run rehashRace).getD annWorld

private theorem annWorld_opening : Opening annWorld where
  idle := rfl
  account := {
    ids := List.nodup_singleton _
    emails := List.nodup_singleton _
    row := ⟨sampleUser, List.mem_singleton_self _, rfl, rfl, rfl, _, rfl, by decide⟩ }
  ids _ h := nomatch h
  hashes _ h := nomatch h

theorem concurrent_logins_succeed_iff_race :
    Succeed afterRehashRace ↔ annWorld.Along rehashRace fun w e _ => Unraced w e :=
  concurrent_logins_succeed_iff raisedCost ann "correct horse battery" annWorld_opening rfl

/-- The second login is told that another request modified the user. -/
theorem rehash_refuses_login :
    ¬ ∀ (start w : World annLogins) (es : List (Event annLogins)),
      Opening start → start.run es = some w → Succeed w := by
  intro claim
  have succeed := claim annWorld afterRehashRace rehashRace annWorld_opening rfl
  rcases succeed 1 _ rfl with ⟨result, returned⟩ | ⟨⟨c, next, waits⟩, -⟩
  · cases returned
  · cases waits

end TenantOS.Auth.Logins
