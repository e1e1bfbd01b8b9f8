import TenantOS.Auth.ReuseAlarm
import TenantOS.Auth.PasswordIntegrity
import TenantOS.Interleaving.Rely

/-! A session lives as long as nobody ends it. While the others revoke and sweep no
unrevoked token of its family, each refresh of its holder is answered with a pair, and
the token of that pair is the one to present next. -/
namespace TenantOS.Auth

open TenantOS.Domain TenantOS.Infrastructure TenantOS.Relational TenantOS.Interleaving
open TenantOS.Application
open PrismaRefreshTokenRepository (Evolves inserted)

variable {host : Host}

/-! The row of an unrevoked token. -/

/-- The call revokes the row, or sweeps it. -/
def Strikes (row : RefreshTokenRow) : AuthCall → Prop
  | .refreshTokens (.deleteExpiredBefore cutoff) => row.expiresAt < cutoff
  | c => Matches row c

section

variable {row : RefreshTokenRow} {c : AuthCall} {store store' : Store}

theorem spared_answer {input : Input} {reply : Except Failure c.Reply}
    (h : answer host input c store = some (reply, store')) (hrow : row ∈ store.refreshTokens)
    (spared : ¬ Strikes row c) : row ∈ store'.refreshTokens := by
  rcases (frame_answer h).1 with same | ⟨call, rfl⟩
  · exact same ▸ hrow
  have unmatched {filter : RefreshTokenRow → Bool} {reason : RevocationReason} {time : Date}
      (other : filter row = false) : row ∈ (PrismaRefreshTokenRepository.revoke filter reason time
        store.refreshTokens).2 :=
    mem_updateMany.mpr ⟨row, hrow, by simp [other]⟩
  cases call with
  | create token =>
    cases Option.some.inj h
    exact PrismaRefreshTokenRepository.mem_create hrow
  | consume tokenId reason time =>
    cases Option.some.inj h
    exact unmatched (decide_eq_false fun same => spared same.symm)
  | revokeFamily familyId reason time =>
    cases Option.some.inj h
    exact unmatched (decide_eq_false fun same => spared same.symm)
  | revokeAllForUser userId reason time =>
    cases Option.some.inj h
    exact unmatched (decide_eq_false fun same => spared same.symm)
  | deleteExpiredBefore cutoff =>
    cases Option.some.inj h
    exact mem_deleteMany.mpr ⟨hrow, decide_eq_false spared⟩
  | findByHash tokenHash => cases Option.some.inj h; exact hrow
  | findActiveByUser userId now => cases Option.some.inj h; exact hrow

theorem spared_settle {fate : Fate (service host)} {reply : Except Failure c.Reply}
    (h : fate.settle c store = some (reply, store')) (hrow : row ∈ store.refreshTokens)
    (spared : fate.Reaches → ¬ Strikes row c) : row ∈ store'.refreshTokens := by
  cases fate with
  | lost fault =>
    cases Option.some.inj h
    exact hrow
  | answered input => exact spared_answer h hrow (spared trivial)
  | unheard input fault =>
    obtain ⟨settled, hanswer, heq⟩ := Option.map_eq_some_iff.mp h
    cases heq
    exact spared_answer hanswer hrow (spared trivial)

end

/-- A call of another client revokes or sweeps the unrevoked token of the session. -/
def Struck (i : Nat) (familyId : Uuid) (w : World (service host)) (e : Event (service host)) :
    Prop :=
  ∃ j fate t c next row, e = .advance j fate ∧ j ≠ i ∧ fate.Reaches ∧ w.threads[j]? = some t ∧
    t.rest = .call c next ∧ row ∈ w.store.refreshTokens ∧ row.familyId = familyId ∧
    row.revokedAt = none ∧ Strikes row c

/-- The token stays while the others spare the session, and its client does too. -/
theorem spared_run {w w' : World (service host)} {es : List (Event (service host))} {i : Nat}
    {t t' : Thread (service host)} {said : List (Exchange authInterface Failure)}
    {row : RefreshTokenRow} (hrun : w.run es = some w')
    (spared : w.Along es fun w e _ => ¬ Struck i row.familyId w e)
    (hrow : row ∈ w.store.refreshTokens) (live : row.revokedAt = none)
    (thread : w.threads[i]? = some t) (thread' : w'.threads[i]? = some t')
    (told : t'.heard = t.heard ++ said) (own : ∀ x ∈ said, ¬ Strikes row x.call) :
    row ∈ w'.store.refreshTokens := by
  refine World.run_induction (P := fun es w' => w.Along es (fun w e _ =>
    ¬ Struck i row.familyId w e) → ∀ t' said, w'.threads[i]? = some t' →
      t'.heard = t.heard ++ said → (∀ x ∈ said, ¬ Strikes row x.call) →
      row ∈ w'.store.refreshTokens) ?_ ?_ es w' hrun spared t' said thread' told own
  · exact fun _ _ _ _ _ _ => hrow
  · intro es e w₁ w₂ hes ih hstep spared u said hu told own
    obtain ⟨v, hv, -, earlier, split⟩ := World.run_keeps_thread hes thread
    obtain ⟨u', hu', -, latest⟩ := World.step_keeps_thread hstep hv
    cases hu.symm.trans hu'
    have before : row ∈ w₁.store.refreshTokens := by
      refine ih spared.start v earlier hv split.symm fun x hx => own x ?_
      obtain ⟨new, htold⟩ := latest
      rw [← split, told, List.append_assoc] at htold
      exact List.append_cancel_left htold ▸ List.mem_append_left _ hx
    have spares := spared.last hes hstep
    cases hstep with
    | join command => exact before
    | @resume j fate x c next reply store hx waiting settled =>
      refine spared_settle settled before fun reaches strikes => ?_
      rcases (World.resume_thread hx).mp hu with ⟨rfl, rfl⟩ | ⟨other, -⟩
      · cases hx.symm.trans hv
        refine own ⟨c, reply⟩ ?_ strikes
        have whole : v.heard ++ [⟨c, reply⟩] = t.heard ++ said := told
        rw [← split, List.append_assoc] at whole
        exact List.append_cancel_left whole ▸
          List.mem_append_right _ (List.mem_singleton_self _)
      · exact spares ⟨j, fate, x, c, next, row, rfl, Ne.symm other, reaches, hx, waiting, before,
          rfl, live, strikes⟩

/-! What the holder can rely on. -/

def Welcome (userId : Uuid) (users : List UserRow) : Prop :=
  ∃ row ∈ users, row.id = userId ∧
    ∃ user, toUserEntity row = .ok user ∧ user.assertCanAuthenticate = .ok ()

theorem findById_of_welcome {users : List UserRow} (unique : UniqueKey UserRow.id users)
    {userId : Uuid} (welcome : Welcome userId users) :
    ∃ user, PrismaUserRepository.findById userId false users = .ok (some user) ∧
      user.id = userId ∧ user.assertCanAuthenticate = .ok () := by
  obtain ⟨row, hrow, id, user, entity, authenticated⟩ := welcome
  obtain ⟨status, known, rfl⟩ := toUserEntity_eq_ok.mp entity
  obtain ⟨-, alive⟩ := User.standing_of_authenticated _ authenticated
  refine ⟨_, ?_, id, authenticated⟩
  exact PrismaUserRepository.findById_of_find (unique.find_eq_some.mpr ⟨hrow, id⟩) alive
    (toUserStatus_eq_ok.mp known)

/-- None of these calls ended the token. -/
def Untouched (row : RefreshTokenRow) (heard : List (Exchange authInterface Failure)) : Prop :=
  ∀ x ∈ heard, ¬ Strikes row x.call

/-- The replies a refresh gets that presents the unrevoked token in time. -/
def Obliges (row : RefreshTokenRow) : Reliance authInterface Failure
  | heard, .runtime .now, reply => ∃ time : Date, reply = .ok time ∧
      (heard = [] → time < row.expiresAt)
  | heard, .refreshTokens (.findByHash tokenHash), reply =>
      tokenHash = row.tokenHash → Untouched row heard → reply = .ok (some (toRefreshTokenEntity row))
  | heard, .refreshTokens (.consume tokenId _ _), reply =>
      tokenId = row.id → Untouched row heard → reply = .ok true
  | _, .users (.findById id false), reply =>
      id = row.userId → ∃ user : User, reply = .ok (some user) ∧ user.id = row.userId ∧
        user.assertCanAuthenticate = .ok ()
  | _, .refreshTokens (.create token), reply =>
      token.userId = row.userId → ∃ stored : RefreshToken, reply = .ok stored
  | _, .runtime _, reply => ∃ value, reply = .ok value
  | _, _, _ => True

/-- The calls of such a refresh, all of them answered. -/
def refreshCalls : Nat := 10

/-- Not all of them are behind it. -/
def Underway (heard : List (Exchange authInterface Failure)) (_ : AuthCall) : Prop :=
  heard.length < refreshCalls

/-- The last thing the refresh heard is that the token of its pair was inserted into the
session. -/
def Renewed (host : Host) (row : RefreshTokenRow)
    (heard : List (Exchange authInterface Failure)) (result : Except Failure Outcome) : Prop :=
  ∃ pair token stored front, result = .ok (.authenticated pair) ∧
    heard = front ++ [Heard (.refreshTokens (.create token)) (.ok stored)] ∧
    token.userId = row.userId ∧ token.familyId = row.familyId ∧
    token.tokenHash = host.sha256Hex pair.tokens.refreshToken ∧ pair.principal.userId = row.userId

theorem refresh_relies {row : RefreshTokenRow} {command : RefreshTokensCommand}
    (live : row.revokedAt = none)
    (presented : row.tokenHash = host.sha256Hex command.refreshToken) :
    (body host (.refresh command)).Relies (Obliges row) Underway (Renewed host row) [] := by
  have unrevoked : (toRefreshTokenEntity row).isRevoked = false := by
    simp [RefreshToken.isRevoked, toRefreshTokenEntity, live]
  simp only [body, RefreshTokensUseCase.execute, Program.bind_assoc]
  refine Program.relies_perform_bind (by simp [Underway, refreshCalls])
    (fun _ met => Exists.imp (fun _ => And.left) met) fun (time : Date) clock => ?_
  obtain ⟨_, ⟨⟩, inTime⟩ := clock
  have quiet : Untouched row [Heard (.runtime .now) (.ok time)] := by
    simp [Untouched, Strikes, Matches]
  refine Program.relies_perform_bind (by simp [Underway, refreshCalls])
    (fun _ met => ⟨_, met presented.symm quiet⟩) fun found met => ?_
  cases met presented.symm quiet
  have unexpired : (toRefreshTokenEntity row).isExpired time = false :=
    decide_eq_false (Int.not_le.mpr (inTime rfl))
  simp only [unrevoked, unexpired, Bool.false_eq_true, if_false, Program.bind_assoc]
  have still : Untouched row ([Heard (.runtime .now) (.ok time)] ++ [Heard (.refreshTokens
      (.findByHash (host.sha256Hex command.refreshToken)))
      (.ok (some (toRefreshTokenEntity row)))]) := by simp [Untouched, Strikes, Matches]
  refine Program.relies_perform_bind (by simp [Underway, refreshCalls])
    (fun _ met => ⟨_, met rfl still⟩) fun won met => ?_
  cases met rfl still
  simp only [Bool.not_true, Bool.false_eq_true, if_false, Program.bind_assoc]
  refine Program.relies_perform_bind (by simp [Underway, refreshCalls])
    (fun _ met => ?_) fun found met => ?_
  · obtain ⟨user, same, -⟩ := met rfl
    exact ⟨_, same⟩
  obtain ⟨user, ⟨⟩, owner, authenticated⟩ := met rfl
  simp only [authenticated, check, Program.bind_assoc]
  simp only [RefreshTokensUseCase.issueSuccessor, buildAuthenticationResult, issueAccessToken,
    Program.bind_assoc]
  refine Program.relies_perform_bind (by simp [Underway, refreshCalls])
    (fun _ met => met) fun jti _ => ?_
  refine Program.relies_perform_bind (by simp [Underway, refreshCalls])
    (fun _ met => met) fun claims _ => ?_
  refine Program.relies_perform_bind (by simp [Underway, refreshCalls])
    (fun _ met => Exists.imp (fun _ => And.left) met) fun _ _ => ?_
  refine Program.relies_perform_bind (by simp [Underway, refreshCalls])
    (fun _ met => met) fun raw _ => ?_
  refine Program.relies_perform_bind (by simp [Underway, refreshCalls])
    (fun _ met => met) fun id _ => ?_
  refine Program.relies_perform_bind (by simp [Underway, refreshCalls])
    (fun _ met => met owner) fun stored _ => ?_
  exact ⟨_, _, stored, _, rfl, rfl, owner, rfl, rfl, owner⟩

/-! That the service meets it. -/

namespace Ledger

variable {v : Ledger host}

theorem Coherent.findByHash_eq (h : v.Coherent) {row : RefreshTokenRow}
    (hrow : row ∈ v.store.refreshTokens) :
    PrismaRefreshTokenRepository.findByHash row.tokenHash v.store.refreshTokens =
      some (toRefreshTokenEntity row) := by
  obtain ⟨found, hfound⟩ := Option.isSome_iff_exists.mp
    (List.find?_isSome.mpr ⟨row, hrow, decide_eq_true rfl⟩ :
      (v.store.refreshTokens.find? fun other => other.tokenHash = row.tokenHash).isSome)
  have hmem := List.mem_of_find?_eq_some hfound
  have same : found.tokenHash = row.tokenHash := by simpa using List.find?_some hfound
  obtain ⟨i, token, issues, evolves⟩ := h.row found hmem
  obtain ⟨j, token', issues', evolves'⟩ := h.row row hrow
  obtain ⟨-, rfl⟩ := h.eq_of_tokenHash issues issues'
    (evolves.tokenHash.symm.trans (same.trans evolves'.tokenHash))
  obtain rfl := h.unique.eq_of_mem hmem hrow (evolves.id.trans evolves'.id.symm)
  simp [PrismaRefreshTokenRepository.findByHash, hfound]

theorem Coherent.create_ok (h : v.Coherent) {n : Nat} {k : Knowledge} {token : RefreshToken}
    (client : v.clients n = some k) (permitted : permits host k (.refreshTokens (.create token)))
    (owner : ∃ row ∈ v.store.users, row.id = token.userId) :
    ∃ stored, (PrismaRefreshTokenRepository.create token v.store.users
      v.store.refreshTokens).1 = .ok stored := by
  obtain ⟨nothing, drawn, generated, -⟩ := permitted
  have other {i : Nat} {k' : Knowledge} {earlier : RefreshToken} (client' : v.clients i = some k')
      (created : k'.created = some earlier) : i ≠ n := by
    rintro rfl
    cases client.symm.trans client'
    rw [nothing] at created
    contradiction
  refine PrismaRefreshTokenRepository.create_ok ?_ ?_ owner
  · intro row hrow same
    obtain ⟨i, earlier, ⟨k', client', created⟩, evolves⟩ := h.row row hrow
    have id : token.id = earlier.id := same.symm.trans evolves.id
    exact other client' created (h.ownId i n k' k client' client token.id
      (id ▸ (h.issued i k' earlier client' created).1) drawn)
  · intro row hrow same
    obtain ⟨i, earlier, ⟨k', client', created⟩, evolves⟩ := h.row row hrow
    have hash : token.tokenHash = earlier.tokenHash := same.symm.trans evolves.tokenHash
    exact other client' created (h.ownHash i n k' k client' client token.tokenHash
      (hash ▸ (h.issued i k' earlier client' created).2.1) generated)

end Ledger

/-- While the client runs: the others spare the session, and whenever it moves it is
answered, its user can sign in, and it came before the token expired. -/
structure Undisturbed (i : Nat) (userId familyId : Uuid) (tokenHash : String)
    (w : World (service host)) (e : Event (service host)) : Prop where
  spared : ¬ Struck i familyId w e
  answered : ∀ fate, e = .advance i fate → ∃ input, fate = .answered input
  welcome : ∀ fate, e = .advance i fate → Welcome userId w.store.users
  inTime : ∀ input t, e = .advance i (.answered input) → w.threads[i]? = some t → t.heard = [] →
    ∀ row ∈ w.store.refreshTokens, row.tokenHash = tokenHash → input.now < row.expiresAt

section

variable {w₀ w : World (service host)} {es : List (Event (service host))}

/-- The client is answered as it relies on, as far as its token has stayed. -/
theorem meets_of_undisturbed (coherent : (ledger w).Coherent) (holds : (discipline host).Holds w)
    (unique : UniqueKey UserRow.id w.store.users) {i : Nat} {e : Event (service host)}
    {row : RefreshTokenRow} (live : row.revokedAt = none)
    (stays : ∀ t, w.threads[i]? = some t → Untouched row t.heard → row ∈ w.store.refreshTokens)
    (undisturbed : Undisturbed i row.userId row.familyId row.tokenHash w e) :
    World.Meets (Obliges row) i w e := by
  rintro fate t c next reply store rfl thread waiting settled
  obtain ⟨input, rfl⟩ := undisturbed.answered fate rfl
  have welcome := undisturbed.welcome _ rfl
  have hanswer : answer host input c w.store = some (reply, store) := settled
  cases c with
  | refreshTokens call =>
    cases call with
    | findByHash tokenHash =>
      rintro rfl quiet
      cases Option.some.inj hanswer
      exact congrArg Except.ok (coherent.findByHash_eq (stays t thread quiet))
    | consume tokenId reason time =>
      rintro rfl quiet
      have hrow := stays t thread quiet
      cases Option.some.inj hanswer
      cases won : (PrismaRefreshTokenRepository.consume row.id reason time
        w.store.refreshTokens).1 with
      | true => exact congrArg Except.ok won
      | false =>
        have revoked := PrismaRefreshTokenRepository.consume_lost coherent.unique won hrow rfl
        rw [live] at revoked
        contradiction
    | create token =>
      intro owner
      obtain ⟨user, huser, id, -⟩ := welcome
      obtain ⟨stored, created⟩ := coherent.create_ok ((discipline host).view_client thread)
        ((discipline host).permits_of_waiting holds thread waiting)
        ⟨user, huser, id.trans owner.symm⟩
      exact ⟨stored, (congrArg Prod.fst (Option.some.inj hanswer)).symm.trans created⟩
    | revokeFamily | revokeAllForUser | findActiveByUser | deleteExpiredBefore => trivial
  | users call =>
    cases call with
    | findById id includeDeleted =>
      cases includeDeleted with
      | true => trivial
      | false =>
        rintro rfl
        obtain ⟨user, found, id, authenticated⟩ := findById_of_welcome unique welcome
        exact ⟨user, (congrArg Prod.fst (Option.some.inj hanswer)).symm.trans found, id,
          authenticated⟩
    | findByEmail | findAuthSnapshot | save | touchLastLogin => trivial
  | hasher | redis => trivial
  | runtime call =>
    obtain ⟨⟨value, after⟩, hruntime, heq⟩ := Option.map_eq_some_iff.mp hanswer
    cases heq
    cases call with
    | now =>
      cases Option.some.inj hruntime
      refine ⟨input.now, rfl, fun first => ?_⟩
      have hrow := stays t thread (by simp [Untouched, first])
      exact undisturbed.inTime input t rfl thread first row hrow rfl
    | randomUUID | randomBytes | signAsync => exact ⟨value, rfl⟩

end

/-! A session, renewed again and again. -/

/-- The token is the unrevoked one of the session. -/
def Alive (w : World (service host)) (userId familyId : Uuid) (refreshToken : String) : Prop :=
  ∃ row ∈ w.store.refreshTokens, row.userId = userId ∧ row.familyId = familyId ∧
    row.tokenHash = host.sha256Hex refreshToken ∧ row.revokedAt = none

/-- The holder of the token presents it in this world, and is left in peace up to that one. -/
structure Renewing (userId familyId : Uuid) (w : World (service host)) (refreshToken : String)
    (fingerprint : ClientFingerprint) (es : List (Event (service host)))
    (w' : World (service host)) : Prop where
  run : (w.join (.refresh ⟨refreshToken, fingerprint⟩)).run es = some w'
  undisturbed : (w.join (.refresh ⟨refreshToken, fingerprint⟩)).Along es fun w₁ e _ =>
    Undisturbed w.threads.length userId familyId (host.sha256Hex refreshToken) w₁ e

structure Round (userId familyId : Uuid) (w : World (service host)) (refreshToken : String)
    (fingerprint : ClientFingerprint) (es : List (Event (service host)))
    (result : Except Failure Outcome) (w' : World (service host)) : Prop
    extends Renewing userId familyId w refreshToken fingerprint es w' where
  returned : ∃ t, w'.threads[w.threads.length]? = some t ∧ t.Returned result

/-- The token the holder goes on with. -/
def carried (refreshToken : String) : Except Failure Outcome → String
  | .ok (.authenticated pair) => pair.tokens.refreshToken
  | _ => refreshToken

/-- Round after round, each with the token the last one left the holder with. -/
inductive Rounds (userId familyId : Uuid) (w : World (service host)) (refreshToken : String) :
    List (Except Failure Outcome) → World (service host) → String → Prop where
  | none : Rounds userId familyId w refreshToken [] w refreshToken
  | more {results : List (Except Failure Outcome)} {w₁ w₂ : World (service host)}
      {held : String} {fingerprint : ClientFingerprint} {es : List (Event (service host))}
      {result : Except Failure Outcome}
      (before : Rounds userId familyId w refreshToken results w₁ held)
      (round : Round userId familyId w₁ held fingerprint es result w₂) :
      Rounds userId familyId w refreshToken (results ++ [result]) w₂ (carried held result)

section

variable {w₀ w w' : World (service host)} {es₀ : List (Event (service host))}
  {userId familyId : Uuid} {refreshToken : String}

theorem renewing_start {fingerprint : ClientFingerprint} :
    (w.join (.refresh ⟨refreshToken, fingerprint⟩)).threads[w.threads.length]? =
      some (.fresh (.refresh ⟨refreshToken, fingerprint⟩)) :=
  World.join_thread.mpr (.inr ⟨rfl, rfl⟩)

/-- The service meets what the holder relies on. -/
theorem Renewing.relies {fingerprint : ClientFingerprint} {es : List (Event (service host))}
    {row : RefreshTokenRow} {t : Thread (service host)} (fresh : Fresh w₀)
    (unique : UniqueKey UserRow.id w₀.store.users) (hrun : w₀.run es₀ = some w)
    (hrow : row ∈ w.store.refreshTokens) (live : row.revokedAt = none)
    (presented : row.tokenHash = host.sha256Hex refreshToken)
    (renewing : Renewing row.userId row.familyId w refreshToken fingerprint es w')
    (thread : w'.threads[w.threads.length]? = some t) :
    t.rest.Relies (Obliges row) Underway (Renewed host row) t.heard := by
  have holds₀ := (discipline host).holds_of_idle fresh.threads
  have hstart : w₀.run (es₀ ++ [.start (.refresh ⟨refreshToken, fingerprint⟩)]) =
      some (w.join (.refresh ⟨refreshToken, fingerprint⟩)) :=
    World.run_snoc hrun (.join _)
  have spared := renewing.undisturbed.mono fun _ _ _ undisturbed => undisturbed.spared
  refine World.relies_run renewing.run ?_ renewing_start (refresh_relies live presented) thread
  rintro first e rest w₁ w₂ rfl hfirst hstep
  have hrun₁ := World.run_concat hstart hfirst
  have holds₁ := (discipline host).holds_run holds₀ hrun₁
  have versioned := versioned_run holds₀ (versioned_of_idle fresh.threads unique) hrun₁
  refine meets_of_undisturbed (linear_run fresh hrun₁).toCoherent holds₁ versioned.unique live ?_
    (presented ▸ renewing.undisturbed first e rest w₁ w₂ rfl hfirst hstep)
  -- until its client has touched it, the token is as it was
  intro u hu quiet
  exact spared_run hfirst spared.start hrow live renewing_start hu rfl quiet

/-- A refresh under way is never stuck, and ends with a pair. -/
theorem Renewing.progress {fingerprint : ClientFingerprint} {es : List (Event (service host))}
    (fresh : Fresh w₀) (unique : UniqueKey UserRow.id w₀.store.users) (hrun : w₀.run es₀ = some w)
    (alive : Alive w userId familyId refreshToken)
    (renewing : Renewing userId familyId w refreshToken fingerprint es w') :
    ∃ t, w'.threads[w.threads.length]? = some t ∧ (t.heard.length < refreshCalls ∨
      ∃ pair, t.Returned (.ok (.authenticated pair)) ∧ pair.principal.userId = userId) := by
  obtain ⟨row, hrow, rfl, rfl, presented, live⟩ := alive
  obtain ⟨t, thread, -⟩ := World.run_keeps_thread renewing.run renewing_start
  have relies := renewing.relies fresh unique hrun hrow live presented thread
  refine ⟨t, thread, ?_⟩
  cases rest : t.rest with
  | call c next =>
    rw [rest] at relies
    exact .inl relies.1
  | done result =>
    rw [rest] at relies
    obtain ⟨pair, -, -, -, rfl, -, -, -, -, principal⟩ := relies
    exact .inr ⟨pair, rest, principal⟩

theorem Round.renews {fingerprint : ClientFingerprint} {es : List (Event (service host))}
    {result : Except Failure Outcome} (fresh : Fresh w₀)
    (unique : UniqueKey UserRow.id w₀.store.users) (hrun : w₀.run es₀ = some w)
    (alive : Alive w userId familyId refreshToken)
    (round : Round userId familyId w refreshToken fingerprint es result w') :
    ∃ pair, result = .ok (.authenticated pair) ∧ pair.principal.userId = userId ∧
      Alive w' userId familyId pair.tokens.refreshToken := by
  obtain ⟨row, hrow, rfl, rfl, presented, live⟩ := alive
  obtain ⟨t, thread, returned⟩ := round.returned
  have spared := round.undisturbed.mono fun _ _ _ undisturbed => undisturbed.spared
  have ends := round.relies fresh unique hrun hrow live presented thread
  rw [returned] at ends
  obtain ⟨pair, token, stored, front, rfl, told, owner, family, hash, principal⟩ := ends
  refine ⟨pair, rfl, principal, inserted token, ?_, owner, family, hash, rfl⟩
  -- the insert was the last call of its client
  obtain ⟨before, w₁, fate, u, store, settled, same⟩ := World.settledAt_of_split
    (fun v hv => by cases renewing_start.symm.trans hv; rfl) round.run thread told
  obtain ⟨input, -, answered⟩ := fate.settle_ok settled.settled
  have hanswer : answer host input (.refreshTokens (.create token)) w₁.store =
    some (.ok stored, store) := answered
  obtain ⟨rest, rfl⟩ := settled.within
  obtain ⟨next, hstep⟩ := settled.step
  obtain ⟨w₂, hmid, hrest⟩ := World.run_split round.run
  cases (World.run_snoc settled.run hstep).symm.trans hmid
  rw [← family] at spared
  have whole : t.heard = u.heard ++ [Heard (.refreshTokens (.create token)) (.ok stored)] ++ [] := by
    rw [told, same, List.append_nil]
  refine spared_run hrest (spared.rest hmid) (create_answer hanswer) rfl
    ((World.resume_thread settled.thread).mpr (.inl ⟨rfl, rfl⟩)) thread whole ?_
  rintro _ ⟨⟩

/-- However often a session is renewed, and whatever the others do meanwhile: unless they
end it, every refresh of its holder ends with a pair, whose token is the next one to present. -/
theorem undisturbed_session_renews {results : List (Except Failure Outcome)} {held : String}
    (fresh : Fresh w₀) (unique : UniqueKey UserRow.id w₀.store.users)
    (hrun : w₀.run es₀ = some w) (alive : Alive w userId familyId refreshToken)
    (rounds : Rounds userId familyId w refreshToken results w' held) :
    (∀ result ∈ results, ∃ pair, result = .ok (.authenticated pair) ∧
      pair.principal.userId = userId) ∧
    Alive w' userId familyId held ∧
    ∀ fingerprint es w'', Renewing userId familyId w' held fingerprint es w'' →
      ∃ t, w''.threads[w'.threads.length]? = some t ∧ (t.heard.length < refreshCalls ∨
        ∃ pair, t.Returned (.ok (.authenticated pair)) ∧ pair.principal.userId = userId) := by
  have all : (∃ es, w₀.run es = some w') ∧ (∀ result ∈ results, ∃ pair,
      result = .ok (.authenticated pair) ∧ pair.principal.userId = userId) ∧
      Alive w' userId familyId held := by
    induction rounds with
    | none =>
      refine ⟨⟨es₀, hrun⟩, ?_, alive⟩
      rintro _ ⟨⟩
    | more before round ih =>
      obtain ⟨⟨es₁, hrun₁⟩, answered, alive₁⟩ := ih
      obtain ⟨pair, rfl, principal, alive₂⟩ := round.renews fresh unique hrun₁ alive₁
      refine ⟨⟨_, World.run_concat (World.run_snoc hrun₁ (.join _)) round.run⟩, ?_, alive₂⟩
      intro result mem
      rcases List.mem_append.mp mem with old | new
      · exact answered result old
      · cases List.mem_singleton.mp new
        exact ⟨pair, rfl, principal⟩
  obtain ⟨⟨es, hrun'⟩, answered, alive'⟩ := all
  exact ⟨answered, alive', fun _ _ _ renewing => renewing.progress fresh unique hrun' alive'⟩

end

/-! The session of the login above, renewed once. -/

def renewalDraws : List String :=
  ["", "", "", "", "jti-1", "", "", "raw-1", "id-1", ""]

def beforeRenewal : World (service sampleHost) :=
  afterLogin.join (.refresh ⟨"raw-0", ⟨none, none⟩⟩)

def afterRenewal : World (service sampleHost) :=
  (beforeRenewal.run (answered 1 renewalDraws)).getD sampleWorld

def renewedPair : AuthenticationResult where
  tokens := {
    accessToken := ⟨"ann", 0, false, none, none, "jti-1", 0, 900, "tenantos", "tenantos"⟩
    refreshToken := "raw-1"
    tokenType := "Bearer"
    expiresIn := 900
    refreshExpiresIn := 604800 }
  principal := ⟨"ann", "ann@example.com", "ann@example.com", false⟩

/-- Until it has returned, the user is as the login left it, and no token has expired. -/
private theorem renewal_prefixes :
    ((List.range 10).all fun n => (beforeRenewal.run ((answered 1 renewalDraws).take n)).any fun w =>
      decide (w.store.users = afterLogin.store.users) &&
        w.store.refreshTokens.all fun row => decide (0 < row.expiresAt)) = true := by
  decide +kernel

private theorem renewal_round :
    Round "ann" "family-0" afterLogin "raw-0" ⟨none, none⟩ (answered 1 renewalDraws)
      (.ok (.authenticated renewedPair)) afterRenewal := by
  refine ⟨⟨rfl, ?_⟩, _, rfl, rfl⟩
  intro first e rest w₁ w₂ split hfirst hstep
  have mem : e ∈ answered 1 renewalDraws := split ▸ List.mem_append_right _ List.mem_cons_self
  obtain ⟨random, -, rfl⟩ := List.mem_map.mp mem
  have short : first.length < 10 := by
    have := congrArg List.length split
    simp only [List.length_append, List.length_cons] at this
    have : (answered 1 renewalDraws).length = 10 := rfl
    omega
  have start : (answered 1 renewalDraws).take first.length = first := by
    rw [split, List.take_left]
  have facts := List.all_eq_true.mp renewal_prefixes first.length (List.mem_range.mpr short)
  rw [start] at facts
  change (World.run beforeRenewal first).any _ = true at facts
  rw [show beforeRenewal.run first = some w₁ from hfirst, Option.any_some, Bool.and_eq_true,
    decide_eq_true_eq] at facts
  obtain ⟨users, unexpired⟩ := facts
  refine ⟨?_, ?_, ?_, ?_⟩
  · rintro ⟨j, fate, t, c, next, row, moves, other, -⟩
    cases moves
    exact other rfl
  · rintro fate ⟨⟩
    exact ⟨_, rfl⟩
  · rintro fate ⟨⟩
    rw [users]
    exact ⟨_, List.mem_cons_self, rfl, _, rfl, rfl⟩
  · rintro input t ⟨⟩ - - row hrow -
    exact of_decide_eq_true (List.all_eq_true.mp unexpired row hrow)

theorem undisturbed_session_renews_login :
    Rounds "ann" "family-0" afterLogin "raw-0" [.ok (.authenticated renewedPair)] afterRenewal
        "raw-1" ∧
      Alive afterRenewal "ann" "family-0" "raw-1" := by
  have rounds : Rounds "ann" "family-0" afterLogin "raw-0" [.ok (.authenticated renewedPair)]
      afterRenewal "raw-1" := .more .none renewal_round
  have alive : Alive afterLogin "ann" "family-0" "raw-0" :=
    ⟨_, List.mem_cons_self, rfl, rfl, rfl, rfl⟩
  have hrun : sampleWorld.run (sampleLogin :: answered 0 loginDraws) = some afterLogin := rfl
  have fresh : Fresh sampleWorld := ⟨rfl, rfl⟩
  exact ⟨rounds,
    (undisturbed_session_renews fresh (List.nodup_singleton _) hrun alive rounds).2.1⟩

end TenantOS.Auth
