import TenantOS.Auth.LogoutFailures
import TenantOS.Auth.Revocation
import TenantOS.Configuration.RefreshCookie

/-! A logout against the session it is called for. Login and refresh take and give the
refresh token by either transport; what a logout revokes is the family of the token it
is shown, and only a cookie shows it one. -/
namespace TenantOS.Auth

open TenantOS.Domain TenantOS.Infrastructure TenantOS.Relational TenantOS.Interleaving
open TenantOS.Application TenantOS.Modules TenantOS.Infrastructure.Config TenantOS.Configuration
open TenantOS.Http
open PrismaRefreshTokenRepository (Evolves inserted)

variable {host : Host}

/-! Requests served one at a time. -/

def Quiet (w : World (service host)) : Prop :=
  ∀ (i : Nat) (t : Thread (service host)), w.threads[i]? = some t → ∃ result, t.Returned result

/-- One call of a client, as its fate says. -/
abbrev settle (host : Host) (fate : Fate (service host)) (c : AuthCall) (store : Store) :
    Option (Except Failure c.Reply × Store) :=
  fate.settle c store

/-- The request is served with no other advanced meanwhile, each of its calls settled as its
fate says. -/
def Serves (w : World (service host)) (command : Command) (fates : Nat → Fate (service host))
    (result : Except Failure Outcome) (w' : World (service host)) : Prop :=
  ∃ count t, w.run (.start command ::
      ((List.range count).map fates).map (.advance w.threads.length)) = some w' ∧
    w'.threads[w.threads.length]? = some t ∧ t.Returned result

section

variable {w w' : World (service host)} {command : Command} {fates : Nat → Fate (service host)}
  {result : Except Failure Outcome}

theorem Serves.run (h : Serves w command fates result w') : ∃ es, w.run es = some w' := by
  obtain ⟨count, t, hrun, -⟩ := h
  exact ⟨_, hrun⟩

theorem Serves.quiet (h : Serves w command fates result w') (quiet : Quiet w) : Quiet w' := by
  obtain ⟨count, t, hrun, thread, returned⟩ := h
  obtain ⟨mid, hstep, hrest⟩ := World.run_cons hrun
  cases hstep with
  | join command =>
    intro j u hu
    by_cases hj : j = w.threads.length
    · subst hj
      cases thread.symm.trans hu
      exact ⟨result, returned⟩
    · rw [World.run_advance_others hrest hj] at hu
      rcases World.join_thread.mp hu with old | ⟨new, -⟩
      · exact quiet j u old
      · exact absurd new hj

theorem Serves.eval (h : Serves w command fates result w') :
    (body host command).eval (settle host) fates w.store = some (result, w'.store) := by
  obtain ⟨count, t, hrun, thread, returned⟩ := h
  obtain ⟨mid, hstep, hrest⟩ := World.run_cons hrun
  cases hstep with
  | join command =>
    exact World.run_eval (t := .fresh command) (World.join_thread.mpr (.inr ⟨rfl, rfl⟩)) hrest
      thread returned

/-- In a quiet world a sealed family is sealed for good: nobody is left who could still
insert into it. -/
theorem Quiet.final {familyId userId : Uuid} {o : Nat} (quiet : Quiet w) (reachable : Reachable w)
    (opens : (ledger w).Opens o familyId userId) (sealed : (ledger w).Sealed familyId)
    {es : List (Event (service host))} : Final w es familyId := by
  have kept : ∀ es' w', es' <+: es → w.run es' = some w' →
      KeptSealed (· = familyId) (ledger w) (ledger w') := by
    refine KeptSealed.run reachable ?_ ?_
    · rintro _ rfl
      exact sealed
    · intro first e rest w₁ w₂ hes hfirst hstep i k token inserts family client permitted issues
      have reachable₁ := reachable.run hfirst
      constructor
      · intro opened
        have opens' := opens.run reachable hfirst
        rw [← family] at opens'
        exact reachable₁.linear.unopened client permitted opened
          ((discipline host).view_step reachable₁.holds hstep) issues opens'
      · rintro stored ⟨k', client', -⟩ -
        -- whoever had won a row has returned since
        obtain ⟨t, thread, -⟩ := (discipline host).thread_of_client client'
        obtain ⟨result, returned⟩ := quiet i t thread
        have still := World.run_invariant (P := fun v => v.threads[i]? = some t)
          (fun _ _ _ hv hs => World.step_keeps_returned hs hv returned) thread hfirst
        obtain ⟨fate, u, next, -, hu, waiting, -⟩ := inserts
        cases still.symm.trans hu
        rw [Thread.Returned, waiting] at returned
        contradiction
  refine ⟨fun es' w' hstart hrun => (kept es' w' hstart hrun).sealed familyId rfl, ?_⟩
  rintro w' hrun j t command result late thread refresh ⟨i, token, issues, family, presented⟩
  exact (kept es w' (List.prefix_refl es) hrun).refuses (reachable.run hrun) late thread refresh
    issues family presented

end

/-! What a request leaves in the table. -/

section

variable {c : AuthCall} {store : Store}

/-- The row of a token pair: it has the hash of the refresh token, and belongs to the
user of the access token. -/
structure RowOf (host : Host) (result : AuthenticationResult) (row : RefreshTokenRow) : Prop where
  tokenHash : row.tokenHash = host.sha256Hex result.tokens.refreshToken
  userId : row.userId = result.tokens.accessToken.sub

/-- Only a genuine answer is heard as a success. -/
theorem answer_of_settle {fate : Fate (service host)} {mid : Store} {value : c.Reply}
    (h : settle host fate c store = some (.ok value, mid)) :
    ∃ input, answer host input c store = some (.ok value, mid) := by
  obtain ⟨input, -, answered⟩ := fate.settle_ok h
  exact ⟨input, answered⟩

/-- What a client returns on the way out leaves the table alone. -/
theorem ensures_ask {α : Type} {next : c.Reply → UseCase α} {post : α → Store → Prop}
    (step : ∀ reply mid, mid.refreshTokens = store.refreshTokens →
      (next reply).Ensures (settle host) mid post)
    (other : ∀ call, c ≠ .refreshTokens call := by rintro _ ⟨⟩) :
    (ask c >>= next).Ensures (settle host) store post :=
  Program.ensures_perform_bind fun _ reply mid h =>
    step reply mid (tokens_answer (answer_of_settle h).choose_spec other)

theorem ensures_check {α : Type} {result : Except DomainError Unit} {next : Unit → UseCase α}
    {post : α → Store → Prop} (step : result = .ok () → (next ()).Ensures (settle host) store post) :
    (check result >>= next).Ensures (settle host) store post := by
  cases result with
  | error error => exact Program.ensures_throw
  | ok value => exact step rfl

theorem ensures_buildAuthenticationResult {α : Type} {user : User}
    {next : AuthenticationResult → UseCase α} {post : α → Store → Prop}
    (step : ∀ result mid, mid.refreshTokens = store.refreshTokens →
      result.tokens.accessToken.sub = user.id → (next result).Ensures (settle host) mid post) :
    (buildAuthenticationResult host user >>= next).Ensures (settle host) store post := by
  simp only [buildAuthenticationResult, issueAccessToken, Program.bind_assoc]
  refine ensures_ask fun jti s₁ same₁ => ?_
  refine Program.ensures_perform_bind fun _ claims s₂ settled => ?_
  obtain ⟨input, signed⟩ := answer_of_settle settled
  have same₂ := tokens_answer signed (by rintro _ ⟨⟩)
  refine ensures_ask fun issuedAt s₃ same₃ => ?_
  refine ensures_ask fun raw s₄ same₄ => ?_
  refine step _ s₄ (same₄.trans (same₃.trans (same₂.trans same₁))) ?_
  obtain rfl : _ = claims := Except.ok.inj (congrArg Prod.fst (Option.some.inj signed))
  rfl

end

/-! The two requests that hand out a token pair, with its row in the table. -/

theorem ensures_login (command : LoginCommand) (store : Store) :
    (body host (.login command)).Ensures (settle host) store fun outcome store' =>
      ∀ result, outcome = .authenticated result →
        ∃ row ∈ store'.refreshTokens, RowOf host result row := by
  simp only [body, LoginUseCase.execute]
  split
  · exact Program.ensures_throw
  rw [Program.bind_assoc]
  refine ensures_ask fun found s₁ _ => ?_
  cases found with
  | none =>
    simp only [LoginUseCase.rejectUnknown, Program.bind_assoc]
    exact ensures_ask fun _ _ _ => Program.ensures_throw
  | some user =>
    dsimp only
    split
    · simp only [LoginUseCase.rejectUnknown, Program.bind_assoc]
      exact ensures_ask fun _ _ _ => Program.ensures_throw
    rename_i hash _
    rw [Program.bind_assoc]
    refine ensures_ask fun passwordMatches s₂ _ => ?_
    split
    · exact Program.ensures_throw
    simp only [Program.bind_assoc]
    refine ensures_check fun _ => ?_
    have opens (user : User) (store : Store) :
        (LoginUseCase.openSession host user command.fingerprint >>= fun result =>
          (pure (.authenticated result) : UseCase Outcome)).Ensures (settle host) store
            fun outcome store' => ∀ result, outcome = .authenticated result →
              ∃ row ∈ store'.refreshTokens, RowOf host result row := by
      simp only [LoginUseCase.openSession, Program.bind_assoc]
      refine ensures_buildAuthenticationResult fun result s₁ _ sub => ?_
      refine ensures_ask fun time s₂ _ => ?_
      refine ensures_ask fun id s₃ _ => ?_
      refine ensures_ask fun familyId s₄ _ => ?_
      refine Program.ensures_perform_bind fun _ stored s₅ settled => ?_
      obtain ⟨input, created⟩ := answer_of_settle settled
      have added := create_answer created
      refine ensures_ask fun loggedInAt s₆ same₆ => ?_
      refine ensures_ask fun _ s₇ same₇ => ?_
      refine Program.ensures_pure fun _ same => ?_
      cases same
      rw [← same₆, ← same₇] at added
      exact ⟨_, added, rfl, sub.symm⟩
    unfold LoginUseCase.upgradeHash
    split
    · simp only [Program.bind_assoc]
      refine ensures_ask fun hash s₃ _ => ?_
      refine ensures_ask fun time s₄ _ => ?_
      refine ensures_ask fun _ s₅ _ => ?_
      exact opens _ s₅
    · exact opens user s₂

/-- The successor's row is in the family of the row that was presented. -/
theorem ensures_refresh (command : RefreshTokensCommand) (store : Store) :
    (body host (.refresh command)).Ensures (settle host) store fun outcome store' =>
      ∀ result, outcome = .authenticated result →
        ∃ row ∈ store'.refreshTokens, RowOf host result row ∧ ∃ stored,
          PrismaRefreshTokenRepository.findByHash (host.sha256Hex command.refreshToken)
            store.refreshTokens = some stored ∧ row.familyId = stored.familyId := by
  simp only [body, RefreshTokensUseCase.execute, Program.bind_assoc]
  refine ensures_ask fun time s₁ same₁ => ?_
  refine Program.ensures_perform_bind fun _ found s₂ settled => ?_
  obtain ⟨input, read⟩ := answer_of_settle settled
  obtain ⟨rfl, rfl⟩ := findByHash_answer read
  rw [same₁]
  cases found : PrismaRefreshTokenRepository.findByHash (host.sha256Hex command.refreshToken)
      store.refreshTokens with
  | none => exact Program.ensures_throw
  | some stored =>
    have detected (store : Store) {post : Outcome → Store → Prop} :
        (RefreshTokensUseCase.detectedReuse stored.familyId time >>= fun result =>
          (pure (.authenticated result) : UseCase Outcome)).Ensures (settle host) store post := by
      simp only [RefreshTokensUseCase.detectedReuse, Program.bind_assoc]
      exact Program.ensures_perform_bind fun _ _ _ _ => Program.ensures_throw
    dsimp only
    split
    · exact detected s₂
    split
    · exact Program.ensures_throw
    simp only [Program.bind_assoc]
    refine Program.ensures_perform_bind fun _ won s₃ _ => ?_
    cases won with
    | false => exact detected s₃
    | true =>
      simp only [Bool.not_true, Bool.false_eq_true, if_false, Program.bind_assoc]
      refine ensures_ask fun found s₄ _ => ?_
      cases found with
      | none => exact Program.ensures_throw
      | some user =>
        simp only [Program.bind_assoc]
        refine ensures_check fun _ => ?_
        simp only [RefreshTokensUseCase.issueSuccessor, Program.bind_assoc]
        refine ensures_buildAuthenticationResult fun result s₅ _ sub => ?_
        refine ensures_ask fun id s₆ _ => ?_
        refine Program.ensures_perform_bind fun _ _ s₇ settled => ?_
        obtain ⟨input, created⟩ := answer_of_settle settled
        refine Program.ensures_pure fun _ same => ?_
        cases same
        exact ⟨_, create_answer created, ⟨rfl, sub.symm⟩, stored, rfl, rfl⟩

/-! What a logout that succeeds has done. -/

/-- The process can read its own clock. -/
def ClockRead (fate : Fate (service host)) (c : AuthCall) : Prop :=
  ReadsClock c → ∃ input, fate = .answered input

/-- The `SET` of an entry reaches the denylist, whether or not that is heard. -/
def DenylistReached (fate : Fate (service host)) (c : AuthCall) : Prop :=
  ∀ jti ttlSeconds, c = .redis (.set jti ttlSeconds) → fate.Reaches

/-- Run alone, the client returns a value, and its calls go as `allowed` says. -/
structure Succeeds {α : Type} (host : Host)
    (allowed : Fate (service host) → AuthCall → Prop) (program : UseCase α)
    (fates : Nat → Fate (service host)) (store : Store) (value : α) (store' : Store) : Prop where
  eval : program.eval (settle host) fates store = some (.ok value, store')
  each : program.EachCall (settle host) allowed fates store

section

variable {allowed : Fate (service host) → AuthCall → Prop} {fates : Nat → Fate (service host)}
  {command : LogoutCommand} {store store' : Store}

theorem Succeeds.step {α : Type} {c : AuthCall} {next : c.Reply → UseCase α} {value : α}
    (h : Succeeds host allowed (ask c >>= next) fates store value store') :
    ∃ input reply mid, fates 0 = .answered input ∧
      answer host input c store = some (.ok reply, mid) ∧
      Succeeds host allowed (next reply) (fun n => fates (n + 1)) mid value store' := by
  obtain ⟨reply, mid, settled, rest⟩ := Program.eval_perform_bind h.eval
  obtain ⟨input, fate, answered⟩ := (fates 0).settle_ok settled
  exact ⟨input, reply, mid, fate, answered, rest, h.each.2 (.ok reply, mid) settled⟩

/-- The family of the token it was shown is revoked, if that token is its user's. -/
theorem revokeSession_succeeds {α : Type} {time : Date} {next : Unit → UseCase α} {value : α}
    (h : Succeeds host allowed (LogoutUseCase.revokeSession host command time >>= next) fates store
      value store') :
    ∃ n mid, Succeeds host allowed (next ()) (fun i => fates (i + n)) mid value store' ∧
      (command.refreshToken = none → mid.refreshTokens = store.refreshTokens) ∧
      ∀ refreshToken stored, command.refreshToken = some refreshToken → refreshToken ≠ "" →
        PrismaRefreshTokenRepository.findByHash (host.sha256Hex refreshToken) store.refreshTokens =
          some stored → stored.userId = command.userId → mid.refreshTokens =
            (PrismaRefreshTokenRepository.revokeFamily stored.familyId .logout time
              store.refreshTokens).2 := by
  unfold LogoutUseCase.revokeSession at h
  cases presented : command.refreshToken with
  | none =>
    rw [presented] at h
    exact ⟨0, store, h, fun _ => rfl, by rintro _ _ ⟨⟩⟩
  | some refreshToken =>
    rw [presented] at h
    dsimp only at h
    by_cases empty : refreshToken = ""
    · rw [if_pos empty] at h
      refine ⟨0, store, h, by rintro ⟨⟩, ?_⟩
      rintro _ stored ⟨⟩ nonempty
      exact absurd empty nonempty
    rw [if_neg empty, Program.bind_assoc] at h
    obtain ⟨input, found, mid, -, read, h⟩ := h.step
    obtain ⟨same, rfl⟩ := findByHash_answer read
    cases found with
    | none =>
      refine ⟨1, mid, h, by rintro ⟨⟩, ?_⟩
      rintro _ stored ⟨⟩ - found
      cases same.trans found
    | some stored =>
      dsimp only at h
      by_cases own : stored.userId = command.userId
      · rw [if_pos own, Program.bind_assoc] at h
        obtain ⟨input', count, left, -, revoked, h⟩ := h.step
        refine ⟨2, left, h, by rintro ⟨⟩, ?_⟩
        rintro _ _ ⟨⟩ - found -
        cases same.trans found
        cases Option.some.inj revoked
        rfl
      · rw [if_neg own] at h
        refine ⟨1, mid, h, by rintro ⟨⟩, ?_⟩
        rintro _ _ ⟨⟩ - found own'
        cases same.trans found
        exact absurd own' own

private theorem expired_of_ttl {now expiresAt : Int} (h : -((now - expiresAt) / 1000) ≤ 0) :
    expiresAt ≤ now := by
  omega

/-- Rounded up to whole seconds, an entry outlives its token. -/
private theorem expiresAt_le {now set expiresAt : Int} (later : now ≤ set) :
    expiresAt ≤ set + -((now - expiresAt) / 1000) * 1000 := by
  omega

/-- The token is put on the denylist until it expires, unless it has already. A `SET` that
goes unheard is swallowed, and has been made. -/
theorem denylistAccessToken_succeeds {jti : Uuid} {expiresAt : Date}
    (carries : Carries command jti expiresAt)
    (h : Succeeds host (fun fate c => ClockRead fate c ∧ DenylistReached fate c)
      (LogoutUseCase.denylistAccessToken command >>= fun _ => (pure .finished : UseCase Outcome))
      fates store .finished store') :
    (∃ first, (fates 0).input? = some first ∧ store' = store ∧ expiresAt ≤ first.now) ∨
      ∃ first second, (fates 0).input? = some first ∧ (fates 1).input? = some second ∧
        store' = { store with denylist := (jti, second.now +
          -((first.now - expiresAt) / 1000) * 1000) :: store.denylist } := by
  obtain ⟨eval, each⟩ := h
  unfold LogoutUseCase.denylistAccessToken at eval each
  rw [carries.named, carries.expires] at eval each
  dsimp only at eval each
  rw [if_neg carries.drawn] at eval each
  obtain ⟨first, read⟩ := each.1.1 rfl
  have settled : settle host (fates 0) (.runtime .now) store = some (.ok first.now, store) := by
    rw [read]
    rfl
  have rest := each.2 _ settled
  change (settle host (fates 0) (.runtime .now) store).bind _ = _ at eval
  rw [settled] at eval
  have input : (fates 0).input? = some first := by rw [read]; rfl
  change Program.eval (I := authInterface) (settle host) ((Program.recover
    (if -((first.now - expiresAt) / 1000) ≤ 0 then _ else _) _).bind _) _ store = _ at eval
  change Program.EachCall (I := authInterface) (settle host) _ ((Program.recover
    (if -((first.now - expiresAt) / 1000) ≤ 0 then _ else _) _).bind _) _ store at rest
  split at eval
  · rename_i expired
    cases eval
    exact .inl ⟨first, input, rfl, expired_of_ttl expired⟩
  · rename_i live
    rw [if_neg live] at rest
    have reaches : (fates 1).Reaches := rest.1.2 _ _ rfl
    change (settle host (fates 1) _ store).bind _ = _ at eval
    refine .inr ⟨first, ?_⟩
    cases fate : fates 1 with
    | lost fault =>
      rw [fate] at reaches
      exact reaches.elim
    | answered second =>
      rw [fate] at eval
      cases eval
      exact ⟨second, input, rfl, rfl⟩
    | unheard second fault =>
      rw [fate] at eval
      cases eval
      exact ⟨second, input, rfl, rfl⟩

end

theorem logout_succeeds {host : Host} {fates : Nat → Fate (service host)} {command : LogoutCommand}
    {store store' : Store} {jti : Uuid} {expiresAt : Date} (carries : Carries command jti expiresAt)
    (clock : ∀ n first second, (fates n).input? = some first → (fates (n + 1)).input? = some second →
      first.now ≤ second.now)
    (h : Succeeds host (fun fate c => ClockRead fate c ∧ DenylistReached fate c)
      (body host (.logout command)) fates store .finished store') :
    (command.refreshToken = none → store'.refreshTokens = store.refreshTokens) ∧
    (∀ refreshToken stored, command.refreshToken = some refreshToken → refreshToken ≠ "" →
      PrismaRefreshTokenRepository.findByHash (host.sha256Hex refreshToken) store.refreshTokens =
        some stored → stored.userId = command.userId → ∃ time, store'.refreshTokens =
          (PrismaRefreshTokenRepository.revokeFamily stored.familyId .logout time
            store.refreshTokens).2) ∧
    ((∃ n input, (fates n).input? = some input ∧ expiresAt ≤ input.now) ∨
      ∃ entry ∈ store'.denylist, entry.1 = jti ∧ expiresAt ≤ entry.2) := by
  simp only [body, LogoutUseCase.execute, Program.bind_assoc] at h
  obtain ⟨input, time, start, -, read, h⟩ := h.step
  obtain rfl : store = start := congrArg Prod.snd (Option.some.inj read)
  obtain ⟨n, mid, h, unshown, shown⟩ := revokeSession_succeeds h
  have denied : store'.refreshTokens = mid.refreshTokens ∧
      ((∃ n input, (fates n).input? = some input ∧ expiresAt ≤ input.now) ∨
        ∃ entry ∈ store'.denylist, entry.1 = jti ∧ expiresAt ≤ entry.2) := by
    rcases denylistAccessToken_succeeds carries h with
      ⟨first, at₁, rfl, expired⟩ | ⟨first, second, at₁, at₂, rfl⟩
    · exact ⟨rfl, .inl ⟨_, first, at₁, expired⟩⟩
    · refine ⟨rfl, .inr ⟨_, List.mem_cons_self, rfl, expiresAt_le (clock (n + 1) first second ?_ ?_)⟩⟩
      · rw [← at₁, Nat.zero_add]
      · rw [← at₂, Nat.add_comm 1 n]
  refine ⟨fun none => denied.1.trans (unshown none), ?_, denied.2⟩
  intro refreshToken stored presented nonempty found own
  exact ⟨time, denied.1.trans (shown refreshToken stored presented nonempty found own)⟩

/-! The guard fails closed: whoever is let in was looked up. -/

section

variable {claims : AccessTokenClaims} {fates : Nat → Fate (service host)} {store store' : Store}
  {user : AuthenticatedUser}

/-- The strategy lets in the user the token names, with the token's id and expiry, and
only while the token is on no denylist. -/
theorem validate_ok
    (h : (Application.JwtStrategy.validate claims).eval (settle host) fates store =
      some (.ok user, store')) :
    claims.jti ≠ "" ∧ user.userId = claims.sub ∧ user.jti = claims.jti ∧
      user.tokenExpiresAt = claims.exp * 1000 ∧ store' = store ∧
      ∃ input, fates 0 = .answered input ∧
        ∀ entry ∈ store.denylist, entry.1 = claims.jti → entry.2 < input.now := by
  unfold Application.JwtStrategy.validate at h
  split at h
  · cases h
  rename_i present
  simp only [Bool.or_eq_true, decide_eq_true_eq, not_or] at present
  change (settle host (fates 0) (.redis (.exists claims.jti)) store).bind _ = _ at h
  cases fate : fates 0 with
  | lost fault =>
    rw [fate] at h
    cases h
  | unheard input fault =>
    rw [fate] at h
    cases h
  | answered input =>
    rw [fate] at h
    change Program.eval (I := authInterface) (settle host) (if (store.denylist.any fun entry =>
      entry.1 = claims.jti && input.now ≤ entry.2) = true then _ else _) _ store = _ at h
    split at h
    · cases h
    rename_i live
    have absent : ∀ entry ∈ store.denylist, entry.1 = claims.jti → entry.2 < input.now := by
      rintro ⟨jti, deadline⟩ mem rfl
      have := live
      simp only [List.any_eq_true, Bool.and_eq_true, decide_eq_true_eq, not_exists, not_and] at this
      exact Int.not_le.mp (this _ mem rfl)
    obtain ⟨found, mid, settled, h⟩ := Program.eval_perform_bind h
    obtain ⟨input', answered⟩ := answer_of_settle settled
    have read := congrArg Prod.fst (Option.some.inj answered)
    obtain rfl : store = mid := congrArg Prod.snd (Option.some.inj answered)
    cases found with
    | none => cases h
    | some snapshot =>
      have same : snapshot.id = claims.sub :=
        Infrastructure.PrismaUserRepository.findAuthSnapshot_id read
      dsimp only at h
      split at h
      · cases h
      split at h
      · cases h
      split at h
      · cases h
      cases h
      exact ⟨present.2, same, rfl, rfl, rfl, input, rfl, absent⟩

theorem canActivate_ok {request : AuthRequest}
    (h : (JwtAuthGuard.canActivate host request).eval (settle host) fates store =
      some (.ok user, store')) :
    ∃ claims, JwtStrategy.jwtFromRequest request = some claims ∧
      (Application.JwtStrategy.validate claims).eval (settle host) (fun n => fates (n + 1)) store =
        some (.ok user, store') := by
  unfold JwtAuthGuard.canActivate at h
  split at h
  · cases h
  rename_i claims supplied
  refine ⟨claims, supplied, ?_⟩
  obtain ⟨time, mid, settled, h⟩ := Program.eval_perform_bind h
  obtain ⟨input, answered⟩ := answer_of_settle settled
  obtain rfl : store = mid := congrArg Prod.snd (Option.some.inj answered)
  cases verified : JwtStrategy.verify host claims time with
  | error error =>
    rw [verified] at h
    cases h
  | ok value =>
    rw [verified] at h
    exact h

end

/-! The session. -/

/-- What the replies of a session leave with its client. -/
structure Client where
  response : AuthResponse
  cookies : AuthCookies

namespace Client

variable (config : AppConfigService)

def receive (result : AuthenticationResult) (cookies : AuthCookies) : Client :=
  let (response, cookies) := AuthController.respondWithTokens config.cookies.enabled result cookies
  ⟨response, cookies⟩

/-- The body of its next refresh. -/
def dto (client : Client) : RefreshTokenDto :=
  ⟨client.response.refreshToken⟩

/-- A cookie goes along where its path matches that of the request. -/
def attached {α : Type} (path url : String) (value : Option α) : Option α :=
  value.filter fun _ => pathMatches path.toList (pathOf url)

/-- A request under the URL, with the cookies under the paths they were set with. -/
def request (client : Client) (url : String) (bearer : Option AccessTokenClaims)
    (ip userAgent : Option String) : AuthRequest where
  cookies := {
    accessToken := attached "/" url client.cookies.accessToken
    refreshToken := attached (Response.AuthCookieService.refreshPath config) url
      client.cookies.refreshToken }
  bearer := bearer
  ip := ip
  userAgent := userAgent

variable {config}

theorem receive_receive (first second : AuthenticationResult) (cookies : AuthCookies) :
    receive config second (receive config first cookies).cookies =
      receive config second cookies := by
  unfold receive AuthController.respondWithTokens AuthCookieService.setAuthCookies
  cases config.cookies.enabled <;> rfl

@[simp] theorem attached_none {α : Type} {path url : String} :
    attached path url (none : Option α) = none := rfl

theorem attached_eq {α : Type} {path url : String} {value : Option α} :
    attached path url value = if pathMatches path.toList (pathOf url) then value else none := by
  cases value <;> simp [attached, Option.filter]

/-- Where the refresh cookie goes, the cookie of the access token goes as well. -/
theorem attached_root {α : Type} {url : String} {value : Option α}
    (below : pathMatches (Response.AuthCookieService.refreshPath config).toList (pathOf url) = true) :
    attached "/" url value = value := by
  obtain ⟨rest, path⟩ := isPrefix_of_pathMatches below
  rw [toList_refreshPath, rooted_cons] at path
  have root : pathMatches "/".toList (pathOf url) = true := by
    rw [← path]
    exact pathMatches_iff.mpr ⟨_, rfl, .inr (.inl rfl)⟩
  rw [attached_eq, if_pos root]

end Client

/-- A session: opened by a login, rotated by refreshes of what its client was given, and
between these any requests of others that have come to rest. A drawn refresh token is not
empty: `randomBytes(32)` in base64url. -/
inductive Session (host : Host) (config : AppConfigService) :
    World (service host) → Client → Uuid → Prop where
  | login {w w' : World (service host)} {dto : LoginDto} {request : AuthRequest}
      {fates : Nat → Fate (service host)} {result : AuthenticationResult} {row : RefreshTokenRow}
      (reachable : Reachable w) (quiet : Quiet w)
      (served : Serves w (.login (AuthController.login dto request)) fates
        (.ok (.authenticated result)) w')
      (drawn : result.tokens.refreshToken ≠ "")
      (hrow : row ∈ w'.store.refreshTokens) (rowOf : RowOf host result row) :
      Session host config w' (.receive config result .empty) row.familyId
  | refresh {w w' : World (service host)} {client : Client} {familyId : Uuid}
      {url : String} {bearer : Option AccessTokenClaims} {ip userAgent : Option String}
      {command : RefreshTokensCommand} {fates : Nat → Fate (service host)}
      {result : AuthenticationResult}
      (session : Session host config w client familyId)
      (routed : RoutesTo config authController refreshHandler url)
      (presents : AuthController.refresh client.dto
        (client.request config url bearer ip userAgent) = .ok command)
      (served : Serves w (.refresh command) fates (.ok (.authenticated result)) w')
      (drawn : result.tokens.refreshToken ≠ "") :
      Session host config w' (.receive config result client.cookies) familyId
  | elsewhere {w w' : World (service host)} {client : Client} {familyId : Uuid}
      {es : List (Event (service host))} (session : Session host config w client familyId)
      (hrun : w.run es = some w') (quiet : Quiet w')
      (keeps : w.Along es fun w e _ => ¬ Sweeps w e) :
      Session host config w' client familyId

/-- A call of logout: its URL and what its request carries besides the cookies, whom the guard
lets in, and how the calls of guard and use case end. -/
structure LogoutCall (host : Host) where
  url : String
  bearer : Option AccessTokenClaims
  ip : Option String
  userAgent : Option String
  user : AuthenticatedUser
  reads : Nat → Fate (service host)
  fates : Nat → Fate (service host)

namespace LogoutCall

variable (call : LogoutCall host) (config : AppConfigService) (client : Client)

def request : AuthRequest :=
  client.request config call.url call.bearer call.ip call.userAgent

/-- There is a refresh cookie, and its path leads to where the client calls logout. -/
def CarriesRefreshCookie : Prop :=
  config.cookies.enabled = true ∧
    pathMatches (Response.AuthCookieService.refreshPath config).toList (pathOf call.url) = true

def command : LogoutCommand :=
  AuthController.logout call.user (call.request config client)

def EachCall (allowed : Fate (service host) → AuthCall → Prop) (w : World (service host)) : Prop :=
  (body host (.logout (call.command config client))).EachCall (settle host) allowed call.fates w.store

variable {call config}

/-- Under the path as it is mounted it leads there exactly if there is a prefix. -/
theorem carriesRefreshCookie_iff
    (mounted : pathOf call.url = (mountedPath config authController logoutHandler).toList) :
    call.CarriesRefreshCookie config ↔
      config.cookies.enabled = true ∧ config.app.apiPrefix ≠ "" := by
  rw [CarriesRefreshCookie, mounted]
  refine and_congr_right fun _ => ⟨?_, fun prefixed => (keptToAuth_iff.mpr prefixed).needed _ (by simp)⟩
  intro leads unprefixed
  rw [mountedPath, not_matches_unprefixed rfl unprefixed] at leads
  cases leads

end LogoutCall

/-- The client calls logout, and is told that it succeeded. The access token is the one the
guard found and let in. The process reads its own clock, which does not run backwards during
the call; what reaches the tables and Redis is left open. -/
structure LogsOut (config : AppConfigService) (w : World (service host)) (client : Client)
    (call : LogoutCall host) (claims : AccessTokenClaims) (since : Date)
    (w' : World (service host)) : Prop where
  routed : RoutesTo config authController logoutHandler call.url
  supplied : JwtStrategy.jwtFromRequest (call.request config client) = some claims
  admitted : (JwtAuthGuard.canActivate host (call.request config client)).eval (settle host)
    call.reads w.store = some (.ok call.user, w.store)
  served : Serves w (.logout (call.command config client)) call.fates (.ok .finished) w'
  clock : call.EachCall config client ClockRead w
  forward : ∀ n first second, (call.fates n).input? = some first →
    (call.fates (n + 1)).input? = some second → first.now ≤ second.now
  past : ∀ n input, (call.fates n).input? = some input → input.now ≤ since

/-- The session is over: whatever runs from here on, no refresh that starts exchanges a
token issued in the family, and the strategy refuses the access token for as long as it
has not expired. -/
structure Ended (w : World (service host)) (familyId : Uuid) (claims : AccessTokenClaims)
    (since : Date) : Prop where
  final : ∀ es, Final w es familyId
  denied : ∀ es w', w.run es = some w' → ∀ (fates : Nat → Fate (service host))
    (user : AuthenticatedUser) (store : Store),
    (∀ input, fates 0 = .answered input → since ≤ input.now ∧ input.now < claims.exp * 1000) →
    (Application.JwtStrategy.validate claims).eval (settle host) fates w'.store ≠
      some (.ok user, store)

/-! What the client holds, and what the table holds for it. -/

section

variable {config : AppConfigService} {w w' : World (service host)} {client : Client}
  {familyId : Uuid} {claims : AccessTokenClaims} {since : Date} {call : LogoutCall host}

theorem Ledger.Coherent.row_of_tokenHash {v : Ledger host} (h : v.Coherent)
    {row row' : RefreshTokenRow} (hrow : row ∈ v.store.refreshTokens)
    (hrow' : row' ∈ v.store.refreshTokens) (same : row.tokenHash = row'.tokenHash) : row = row' := by
  obtain ⟨i, token, issues, evolves⟩ := h.row row hrow
  obtain ⟨j, token', issues', evolves'⟩ := h.row row' hrow'
  obtain ⟨-, rfl⟩ := h.eq_of_tokenHash issues issues'
    (evolves.tokenHash.symm.trans (same.trans evolves'.tokenHash))
  exact h.unique.eq_of_mem hrow hrow' (evolves.id.trans evolves'.id.symm)

theorem Ledger.Coherent.findByHash_mem {v : Ledger host} (h : v.Coherent) {row : RefreshTokenRow}
    (hrow : row ∈ v.store.refreshTokens) :
    PrismaRefreshTokenRepository.findByHash row.tokenHash v.store.refreshTokens =
      some (toRefreshTokenEntity row) := by
  unfold PrismaRefreshTokenRepository.findByHash
  cases found : v.store.refreshTokens.find? fun other => other.tokenHash = row.tokenHash with
  | none => simpa using List.find?_eq_none.mp found row hrow
  | some other =>
    obtain rfl := h.row_of_tokenHash (List.mem_of_find?_eq_some found) hrow
      (by simpa using List.find?_some found)
    rfl

theorem Session.of_login {dto : LoginDto} {request : AuthRequest}
    {fates : Nat → Fate (service host)} {result : AuthenticationResult} (reachable : Reachable w)
    (quiet : Quiet w) (served : Serves w (.login (AuthController.login dto request)) fates
      (.ok (.authenticated result)) w') (drawn : result.tokens.refreshToken ≠ "") :
    ∃ familyId, Session host config w' (.receive config result .empty) familyId := by
  obtain ⟨row, hrow, rowOf⟩ := ensures_login _ w.store fates _ _ served.eval result rfl
  exact ⟨row.familyId, .login reachable quiet served drawn hrow rowOf⟩

/-- The client holds the latest token pair of its session, and the row of the refresh
token is in the table. -/
structure Session.Holds (host : Host) (config : AppConfigService) (w : World (service host))
    (client : Client) (familyId : Uuid) (result : AuthenticationResult) : Prop where
  reachable : Reachable w
  quiet : Quiet w
  client : client = .receive config result .empty
  drawn : result.tokens.refreshToken ≠ ""
  row : ∃ row ∈ w.store.refreshTokens, RowOf host result row ∧ row.familyId = familyId

/-- Whichever transport gave the client its token, a refresh that gets through is shown it. -/
theorem presented_of_refresh {result : AuthenticationResult} {url : String}
    {bearer : Option AccessTokenClaims} {ip userAgent : Option String}
    {command : RefreshTokensCommand}
    (presents : AuthController.refresh (Client.receive config result .empty).dto
      ((Client.receive config result .empty).request config url bearer ip userAgent) =
        .ok command) :
    command.refreshToken = result.tokens.refreshToken := by
  have shown : (((Client.receive config result .empty).request config url bearer ip
        userAgent).cookies.refreshToken <|> (Client.receive config result .empty).dto.refreshToken) =
      if config.cookies.enabled = true →
          pathMatches (Response.AuthCookieService.refreshPath config).toList (pathOf url) = true then
        some result.tokens.refreshToken else none := by
    cases enabled : config.cookies.enabled <;>
      cases leads : pathMatches (Response.AuthCookieService.refreshPath config).toList (pathOf url) <;>
      simp [Client.request, Client.receive, Client.dto, AuthController.respondWithTokens,
        AuthCookieService.setAuthCookies, AuthResponse.from, AuthCookies.empty, enabled,
        Client.attached_eq, leads]
  unfold AuthController.refresh at presents
  rw [shown] at presents
  split at presents
  · cases presents
  · rename_i token given
    split at presents
    · cases presents
    · cases presents
      split at given
      · exact (Option.some.inj given).symm
      · cases given

theorem Session.holds (h : Session host config w client familyId) :
    ∃ result, Session.Holds host config w client familyId result := by
  induction h with
  | @login w w' dto request fates result row reachable quiet served drawn hrow rowOf =>
    obtain ⟨es, hrun⟩ := served.run
    exact ⟨result, reachable.run hrun, served.quiet quiet, rfl, drawn, row, hrow, rowOf, rfl⟩
  | @refresh w w' client familyId url bearer ip userAgent command fates result session routed
      presents served drawn ih =>
    obtain ⟨earlier, holds⟩ := ih
    obtain ⟨es, hrun⟩ := served.run
    obtain rfl := holds.client
    refine ⟨result, holds.reachable.run hrun, served.quiet holds.quiet,
      Client.receive_receive .., drawn, ?_⟩
    obtain ⟨row, hrow, rowOf, stored, found, family⟩ :=
      ensures_refresh command w.store fates _ _ served.eval result rfl
    obtain ⟨previous, hprevious, previousOf, rfl⟩ := holds.row
    rw [presented_of_refresh presents, ← previousOf.tokenHash] at found
    cases (holds.reachable.linear.toCoherent.findByHash_mem hprevious).symm.trans found
    exact ⟨row, hrow, rowOf, family⟩
  | @elsewhere w w' client familyId es session hrun quiet keeps ih =>
    obtain ⟨result, holds⟩ := ih
    obtain ⟨row, hrow, rowOf, family⟩ := holds.row
    obtain ⟨row', hrow', evolves⟩ := kept_run hrun keeps hrow
    exact ⟨result, holds.reachable.run hrun, quiet, holds.client, holds.drawn, row', hrow',
      ⟨evolves.tokenHash.trans rowOf.tokenHash, evolves.userId.trans rowOf.userId⟩,
      evolves.familyId.trans family⟩

/-- A logout shows its use case the refresh token exactly where there is a cookie and its path
leads there. -/
theorem presented_of_logout (carries : call.CarriesRefreshCookie config)
    {result : AuthenticationResult} (drawn : result.tokens.refreshToken ≠ "") :
    (call.command config (.receive config result .empty)).refreshToken =
      some result.tokens.refreshToken := by
  obtain ⟨enabled, leads⟩ := carries
  simp [LogoutCall.command, LogoutCall.request, AuthController.logout, Client.request,
    Client.receive, AuthController.respondWithTokens, AuthCookieService.setAuthCookies, enabled,
    drawn, Client.attached_eq, leads]

theorem unpresented_of_logout (bare : ¬ call.CarriesRefreshCookie config)
    {result : AuthenticationResult} :
    (call.command config (.receive config result .empty)).refreshToken = none := by
  cases enabled : config.cookies.enabled with
  | false =>
    simp [LogoutCall.command, LogoutCall.request, AuthController.logout, Client.request,
      Client.receive, AuthController.respondWithTokens, AuthCookieService.setAuthCookies,
      AuthCookies.empty, enabled]
  | true =>
    have astray : ¬ pathMatches (Response.AuthCookieService.refreshPath config).toList
        (pathOf call.url) = true := fun leads => bare ⟨enabled, leads⟩
    simp [LogoutCall.command, LogoutCall.request, AuthController.logout, Client.request,
      Client.attached_eq, astray]

theorem supplied_of_cookie (carries : call.CarriesRefreshCookie config)
    {result : AuthenticationResult}
    (supplied : JwtStrategy.jwtFromRequest (call.request config (.receive config result .empty)) =
      some claims) : result.tokens.accessToken = claims := by
  simpa [JwtStrategy.jwtFromRequest, LogoutCall.request, Client.request, Client.receive,
    AuthController.respondWithTokens, AuthCookieService.setAuthCookies, carries.1,
    Client.attached_root carries.2] using supplied

/-- A logout that succeeds ends its session if the `SET` of its denylist entry reaches Redis
and the refresh token reaches its use case, which takes a cookie. Where it does not, if the
family had been revoked before. -/
theorem logout_ends_session (session : Session host config w client familyId)
    (logout : LogsOut config w client call claims since w')
    (shown : call.CarriesRefreshCookie config ∨ (ledger w).Sealed familyId)
    (denylisted : call.EachCall config client DenylistReached w) :
    Ended w' familyId claims since := by
  obtain ⟨result, holds⟩ := session.holds
  obtain rfl := holds.client
  obtain ⟨claims', supplied, validated⟩ := canActivate_ok logout.admitted
  cases logout.supplied.symm.trans supplied
  obtain ⟨present, userId, jti, expiresAt, -⟩ := validate_ok validated
  have carries : Carries (call.command config (.receive config result .empty)) claims.jti
      (claims.exp * 1000) := ⟨congrArg some jti, present, congrArg some expiresAt⟩
  obtain ⟨unshown, revoked, denied⟩ := logout_succeeds carries logout.forward
    ⟨logout.served.eval, logout.clock.and denylisted⟩
  obtain ⟨es, hrun⟩ := logout.served.run
  obtain ⟨row, hrow, rowOf, family⟩ := holds.row
  have coherent := holds.reachable.linear.toCoherent
  have sealed : (ledger w').Sealed familyId := by
    by_cases carried : call.CarriesRefreshCookie config
    · -- the cookies name the family and its owner
      obtain rfl := supplied_of_cookie carried supplied
      have presented := presented_of_logout carried holds.drawn
      have found := coherent.findByHash_mem hrow
      rw [rowOf.tokenHash] at found
      obtain ⟨time, tokens⟩ := revoked _ _ presented holds.drawn found
        (rowOf.userId.trans userId.symm)
      intro row' hrow' same
      change row' ∈ w'.store.refreshTokens at hrow'
      rw [tokens] at hrow'
      obtain ⟨before, -, evolves, matched⟩ := PrismaRefreshTokenRepository.mem_revoke hrow'
      refine matched (decide_eq_true ?_)
      exact evolves.familyId.symm.trans (same.trans family.symm)
    · intro row' hrow' same
      have unchanged := unshown (unpresented_of_logout carried)
      change row' ∈ w'.store.refreshTokens at hrow'
      rw [unchanged] at hrow'
      exact (shown.resolve_left carried) row' hrow' same
  constructor
  · intro es'
    obtain ⟨o, opens⟩ := coherent.row_opened hrow
    rw [family] at opens
    exact (logout.served.quiet holds.quiet).final (holds.reachable.run hrun)
      (opens.run holds.reachable hrun) sealed
  · intro es' w'' hrun' fates' user' store later accepted
    obtain ⟨-, -, -, -, -, input, read, off⟩ := validate_ok accepted
    obtain ⟨since_le, live⟩ := later input read
    rcases denied with ⟨n, input', at_, expired⟩ | ⟨entry, mem, same, outlives⟩
    · exact absurd live (Int.not_lt.mpr
        (Int.le_trans expired (Int.le_trans (logout.past n input' at_) since_le)))
    · exact absurd (off entry (denylist_run hrun' mem) same)
        (Int.not_lt.mpr (Int.le_trans (Int.le_of_lt live) outlives))

end

/-! A session that was opened and is logged out of, by either transport. -/

/-- Every call answered, with the draws it needs. -/
def sampleFates (draws : List String) (n : Nat) : Fate (service sampleHost) :=
  .answered ⟨0, draws.getD n ""⟩

def signedIn : World (service sampleHost) :=
  (sampleWorld.run ([sampleLogin] ++ answered 0 loginDraws)).getD sampleWorld

def samplePair : AuthenticationResult where
  tokens := {
    accessToken := {
      sub := "ann", tv := 0, adm := false, tid := none, role := none, jti := "jti-0", iat := 0
      exp := 900, iss := "tenantos", aud := "tenantos" }
    refreshToken := "raw-0"
    tokenType := "Bearer"
    expiresIn := 900
    refreshExpiresIn := 604800 }
  principal := ⟨"ann", "ann@example.com", "ann@example.com", false⟩

def samplePrincipal : AuthenticatedUser where
  userId := "ann"
  isPlatformAdmin := false
  tenantId := none
  role := none
  jti := "jti-0"
  tokenExpiresAt := 900000

def sampleConfig (cookieEnabled : Bool) : AppConfigService :=
  .ofDefaults "api" cookieEnabled

def sampleClient (cookieEnabled : Bool) : Client :=
  .receive (sampleConfig cookieEnabled) samplePair .empty

/-- The request carries the access token in the header as well. -/
def sampleCall : LogoutCall sampleHost where
  url := "/api/v1/auth/logout"
  bearer := some samplePair.tokens.accessToken
  ip := none
  userAgent := none
  user := samplePrincipal
  reads := sampleFates []
  fates := sampleFates []

def signedOut (cookieEnabled : Bool) : World (service sampleHost) :=
  (signedIn.run ([.start (.logout
    (sampleCall.command (sampleConfig cookieEnabled) (sampleClient cookieEnabled)))] ++
      answered 1 (if cookieEnabled then ["", "", "", "", ""] else ["", "", ""]))).getD signedIn

private theorem sampleSession (cookieEnabled : Bool) :
    Session sampleHost (sampleConfig cookieEnabled) signedIn (sampleClient cookieEnabled)
      "family-0" := by
  have served : Serves sampleWorld (.login (AuthController.login
      ⟨"ann@example.com", "correct horse battery"⟩ ⟨.empty, none, none, none⟩))
      (sampleFates loginDraws) (.ok (.authenticated samplePair)) signedIn :=
    ⟨12, _, rfl, rfl, rfl⟩
  have hrow : inserted (.issue "id-0" "ann" "family-0" "sha256:raw-0" 604800 ⟨none, none⟩ 0) ∈
      signedIn.store.refreshTokens := by decide
  exact .login ⟨sampleWorld, [], ⟨rfl, rfl⟩, rfl⟩ nofun served (by decide) hrow ⟨rfl, rfl⟩

private theorem each_sampleCall {cookieEnabled : Bool}
    {allowed : Fate (service sampleHost) → AuthCall → Prop}
    (answered : ∀ input c, allowed (.answered input) c) :
    sampleCall.EachCall (sampleConfig cookieEnabled) (sampleClient cookieEnabled) allowed
      signedIn :=
  Program.eachCall_of_forall fun _ c => answered _ c

private theorem sampleLogout (cookieEnabled : Bool) :
    LogsOut (sampleConfig cookieEnabled) signedIn (sampleClient cookieEnabled) sampleCall
      samplePair.tokens.accessToken 0 (signedOut cookieEnabled) where
  routed := ⟨"api", id, "/api/v1/auth/logout".toList, [], [], fun _ => rfl, by decide,
    by cases cookieEnabled <;> decide +kernel, .inl rfl, .inl rfl⟩
  supplied := by cases cookieEnabled <;> rfl
  admitted := by cases cookieEnabled <;> rfl
  served := by
    cases cookieEnabled with
    | true => exact ⟨5, _, rfl, rfl, rfl⟩
    | false => exact ⟨3, _, rfl, rfl, rfl⟩
  clock := each_sampleCall fun input c _ => ⟨input, rfl⟩
  forward := by
    rintro n first second ⟨⟩ ⟨⟩
    exact Int.le_refl 0
  past := by
    rintro n input ⟨⟩
    exact Int.le_refl 0

theorem logout_ends_session_sample :
    Ended (signedOut true) "family-0" samplePair.tokens.accessToken 0 :=
  logout_ends_session (sampleSession true) (sampleLogout true) (.inl ⟨rfl, by decide +kernel⟩)
    (each_sampleCall fun _ _ _ _ _ => trivial)

/-- The client that was given its refresh token in the body exchanges it after the logout. -/
def bodyExchange : List (Event (service sampleHost)) :=
  [sampleRefresh "raw-0"] ++ answered 2 ["", "", "", "", "jti-1", "", "", "raw-1", "id-1", ""]

theorem logout_keeps_body_session :
    ¬ ∀ (config : AppConfigService) (w w' : World (service sampleHost)) (client : Client)
      (call : LogoutCall sampleHost) (familyId : Uuid) (claims : AccessTokenClaims) (since : Date),
      Session sampleHost config w client familyId → LogsOut config w client call claims since w' →
        Ended w' familyId claims since := by
  intro claim
  have final := (claim (sampleConfig false) signedIn (signedOut false) _ _ "family-0" _ 0
    (sampleSession false) (sampleLogout false)).final bodyExchange
  exact final.refused _ rfl 2 _ ⟨"raw-0", ⟨none, none⟩⟩ _ (by decide) rfl rfl
    ⟨0, _, ⟨_, rfl, rfl⟩, rfl, rfl⟩ rfl

end TenantOS.Auth
