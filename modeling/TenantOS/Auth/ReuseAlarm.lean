import TenantOS.Auth.Revocation
import TenantOS.Interleaving.History

/-! The alarm of the reuse detection, and what has to have happened for it to be
raised. A refresh consumes its token before it looks up the user, signs and inserts,
so a refresh that fails at one of these leaves a token behind that nobody exchanged
and that raises the alarm all the same. -/
namespace TenantOS.Auth

open TenantOS.Domain TenantOS.Infrastructure TenantOS.Relational TenantOS.Interleaving
open TenantOS.Application
open PrismaRefreshTokenRepository (Evolves inserted)

variable {host : Host}

/-! What a refresh has heard when it throws. -/

/-- The alarm itself: `RefreshTokenReusedError`. -/
abbrev reused : Failure :=
  .domain refreshTokenReusedError

/-- A refresh throws the alarm for a row it was shown revoked, or failed to consume,
after it revoked the family; or a port threw it. -/
def AlarmHeard (host : Host) (command : Command) (heard : List (Exchange authInterface Failure))
    (result : Except Failure Outcome) : Prop :=
  ∀ refresh, command = .refresh refresh → result = .error reused →
    (∃ x ∈ heard, x.reply = .error reused) ∨
    ∃ time stored count, let tokenHash := host.sha256Hex refresh.refreshToken
      (heard = [Heard (.runtime .now) (.ok time),
          Heard (.refreshTokens (.findByHash tokenHash)) (.ok (some stored)),
          Heard (.refreshTokens (.revokeFamily stored.familyId .reuseDetected time)) (.ok count)] ∧
        stored.isRevoked) ∨
      heard = [Heard (.runtime .now) (.ok time),
        Heard (.refreshTokens (.findByHash tokenHash)) (.ok (some stored)),
        Heard (.refreshTokens (.consume stored.id .rotated time)) (.ok false),
        Heard (.refreshTokens (.revokeFamily stored.familyId .reuseDetected time)) (.ok count)]

section

variable {command : Command} {heard : List (Exchange authInterface Failure)}

theorem alarmHeard_ok {outcome : Outcome} : AlarmHeard host command heard (.ok outcome) :=
  fun _ _ h => by cases h

theorem alarmHeard_domain {error : DomainError} (other : error.code ≠ .refreshTokenReused) :
    AlarmHeard host command heard (.error (.domain error)) := by
  intro _ _ h
  cases h
  exact absurd rfl other

theorem alarmHeard_failed {c : AuthCall} {failure : Failure} :
    AlarmHeard host command (heard ++ [⟨c, .error failure⟩]) (.error failure) := by
  intro _ _ h
  cases h
  exact .inl ⟨_, List.mem_append_right _ (List.mem_singleton_self _), rfl⟩

theorem ends_alarm {c : AuthCall} {next : c.Reply → UseCase Outcome}
    (ok : ∀ value, (next value).Ends (AlarmHeard host command) (heard ++ [⟨c, .ok value⟩])) :
    (ask c >>= next).Ends (AlarmHeard host command) heard :=
  Program.ends_perform_bind ok fun _ => alarmHeard_failed

theorem ends_check_alarm {result : Except DomainError Unit} {next : Unit → UseCase Outcome}
    (harmless : ∀ error, result = .error error → error.code ≠ .refreshTokenReused)
    (ok : (next ()).Ends (AlarmHeard host command) heard) :
    (check result >>= next).Ends (AlarmHeard host command) heard := by
  cases result with
  | error error => exact alarmHeard_domain (harmless error rfl)
  | ok value => exact ok

end

theorem assertCanAuthenticate_code {user : User} {error : DomainError}
    (h : user.assertCanAuthenticate = .error error) : error.code ≠ .refreshTokenReused := by
  unfold User.assertCanAuthenticate at h
  split at h
  · cases h
    nofun
  split at h
  · cases h
    nofun
  · cases h

theorem refresh_alarm (command : RefreshTokensCommand) :
    (body host (.refresh command)).Ends (AlarmHeard host (.refresh command)) [] := by
  have detected {heard : List (Exchange authInterface Failure)} {stored : RefreshToken}
      {time : Date} (raised : ∀ count, AlarmHeard host (.refresh command) (heard ++
        [Heard (.refreshTokens (.revokeFamily stored.familyId .reuseDetected time)) (.ok count)])
        (.error reused)) :
      (RefreshTokensUseCase.detectedReuse stored.familyId time >>= fun result =>
        (pure (.authenticated result) : UseCase Outcome)).Ends
          (AlarmHeard host (.refresh command)) heard := by
    simp only [RefreshTokensUseCase.detectedReuse, Program.bind_assoc]
    exact ends_alarm fun count => raised count
  simp only [body, RefreshTokensUseCase.execute, Program.bind_assoc]
  refine ends_alarm fun time => ?_
  refine ends_alarm fun found => ?_
  cases found with
  | none => exact alarmHeard_domain (by rintro ⟨⟩)
  | some stored =>
    dsimp only
    split
    · rename_i revoked
      refine detected fun count => ?_
      rintro _ ⟨⟩ -
      exact .inr ⟨time, stored, count, .inl ⟨rfl, revoked⟩⟩
    split
    · exact alarmHeard_domain (by rintro ⟨⟩)
    simp only [Program.bind_assoc]
    refine ends_alarm fun won => ?_
    cases won with
    | false =>
      refine detected fun count => ?_
      rintro _ ⟨⟩ -
      exact .inr ⟨time, stored, count, .inr rfl⟩
    | true =>
      simp only [Bool.not_true, Bool.false_eq_true, if_false, Program.bind_assoc]
      refine ends_alarm fun found => ?_
      cases found with
      | none => exact alarmHeard_domain (by rintro ⟨⟩)
      | some user =>
        simp only [Program.bind_assoc]
        refine ends_check_alarm (fun _ => assertCanAuthenticate_code) ?_
        simp only [RefreshTokensUseCase.issueSuccessor, buildAuthenticationResult,
          issueAccessToken, Program.bind_assoc]
        refine ends_alarm fun jti => ?_
        refine ends_alarm fun token => ?_
        refine ends_alarm fun issuedAt => ?_
        refine ends_alarm fun raw => ?_
        refine ends_alarm fun id => ?_
        exact ends_alarm fun _ => alarmHeard_ok

theorem alarm_heard (command : Command) :
    (body host command).Ends (AlarmHeard host command) [] := by
  cases command with
  | refresh command => exact refresh_alarm command
  | login | logout | logoutAll | changePassword | deleteExpiredBefore | sessions | editUser =>
    exact Program.ends_of_forall fun _ _ _ h => by cases h

theorem save_not_reused {user : User} {users : List UserRow} {failure : Failure}
    (h : (PrismaUserRepository.save user users).1 = .error failure) : failure ≠ reused := by
  unfold PrismaUserRepository.save at h
  dsimp only at h
  split at h
  · cases h
    simp [emailAlreadyExistsError, refreshTokenReusedError]
  split at h
  · split at h
    · cases h
      nofun
    · rename_i row _
      cases entity : toUserEntity row with
      | ok value =>
        rw [entity] at h
        cases h
      | error failure' =>
        rw [entity] at h
        cases h
        obtain ⟨message, rfl⟩ := toUserEntity_eq_error entity
        nofun
  split at h
  · cases h
    simp [concurrentModificationError, refreshTokenReusedError]
  · cases h
    simp [userNotFoundError, refreshTokenReusedError]

theorem answer_not_reused {input : Input} {c : AuthCall} {failure : Failure} {store store' : Store}
    (h : answer host input c store = some (.error failure, store')) : failure ≠ reused := by
  have mapper (unexpected : ∃ message, failure = .unexpected message) : failure ≠ reused := by
    obtain ⟨message, rfl⟩ := unexpected
    nofun
  cases c with
  | refreshTokens call =>
    cases call with
    | create token =>
      have failed : (PrismaRefreshTokenRepository.create token store.users
          store.refreshTokens).1 = .error failure := congrArg Prod.fst (Option.some.inj h)
      obtain ⟨code, message, rfl⟩ := PrismaRefreshTokenRepository.create_eq_error failed
      nofun
    | findByHash | consume | revokeFamily | revokeAllForUser | findActiveByUser
      | deleteExpiredBefore => cases Option.some.inj h
  | users call =>
    have answered := congrArg Prod.fst (Option.some.inj h)
    cases call with
    | findById id includeDeleted => exact mapper (PrismaUserRepository.findById_eq_error answered)
    | findByEmail email includeDeleted =>
      exact mapper (PrismaUserRepository.findByEmail_eq_error answered)
    | findAuthSnapshot id => exact mapper (PrismaUserRepository.findAuthSnapshot_eq_error answered)
    | save user => exact save_not_reused answered
    | touchLastLogin userId time => cases answered
  | hasher call => cases Option.some.inj h
  | redis call => cases call <;> cases Option.some.inj h
  | runtime call =>
    obtain ⟨settled, -, heq⟩ := Option.map_eq_some_iff.mp h
    cases heq

/-! What revokes a row. -/

/-- The call revokes the row, if it finds it unrevoked. -/
def Matches (row : RefreshTokenRow) : AuthCall → Prop
  | .refreshTokens (.consume tokenId _ _) => tokenId = row.id
  | .refreshTokens (.revokeFamily familyId _ _) => familyId = row.familyId
  | .refreshTokens (.revokeAllForUser userId _ _) => userId = row.userId
  | _ => False

theorem revoked_answer {input : Input} {c : AuthCall} {reply : Except Failure c.Reply}
    {store store' : Store} (h : answer host input c store = some (reply, store'))
    {row : RefreshTokenRow} (hrow : row ∈ store'.refreshTokens) (revoked : row.revokedAt.isSome) :
    ∃ held ∈ store.refreshTokens, Evolves held row ∧
      (held.revokedAt.isSome ∨ Matches row c) := by
  rcases (frame_answer h).1 with same | ⟨call, rfl⟩
  · exact ⟨row, same ▸ hrow, .refl row, .inl revoked⟩
  have matched {filter : RefreshTokenRow → Bool} {reason : RevocationReason} {time : Date}
      (fits : ∀ held, Evolves held row → filter held → Matches row (.refreshTokens call))
      (hmem : row ∈ (PrismaRefreshTokenRepository.revoke filter reason time
        store.refreshTokens).2) : ∃ held ∈ store.refreshTokens, Evolves held row ∧
      (held.revokedAt.isSome ∨ Matches row (.refreshTokens call)) := by
    obtain ⟨held, hheld, heq⟩ := mem_updateMany.mp hmem
    by_cases fit : (filter held && held.revokedAt.isNone) = true
    · rw [if_pos fit] at heq
      have evolves : Evolves held row := heq ▸ ⟨rfl, rfl, rfl, rfl, fun _ => rfl⟩
      exact ⟨held, hheld, evolves, .inr (fits held evolves (Bool.and_eq_true_iff.mp fit).1)⟩
    · rw [if_neg fit] at heq
      subst heq
      exact ⟨row, hheld, .refl row, .inl revoked⟩
  cases call with
  | create token =>
    cases Option.some.inj h
    change row ∈ (PrismaRefreshTokenRepository.create token store.users store.refreshTokens).2
      at hrow
    rcases PrismaRefreshTokenRepository.create_tokens token store.users store.refreshTokens with
      unchanged | ⟨added, -⟩
    · rw [unchanged] at hrow
      exact ⟨row, hrow, .refl row, .inl revoked⟩
    · rw [added] at hrow
      rcases List.mem_append.mp hrow with old | new
      · exact ⟨row, old, .refl row, .inl revoked⟩
      · cases List.mem_singleton.mp new
        cases revoked
  | consume tokenId reason time =>
    cases Option.some.inj h
    exact matched (fun held evolves fit => (of_decide_eq_true fit).symm.trans evolves.id.symm) hrow
  | revokeFamily familyId reason time =>
    cases Option.some.inj h
    exact matched (fun held evolves fit => (of_decide_eq_true fit).symm.trans evolves.familyId.symm)
      hrow
  | revokeAllForUser userId reason time =>
    cases Option.some.inj h
    exact matched (fun held evolves fit => (of_decide_eq_true fit).symm.trans evolves.userId.symm)
      hrow
  | deleteExpiredBefore cutoff =>
    cases Option.some.inj h
    exact ⟨row, (mem_deleteMany.mp hrow).1, .refl row, .inl revoked⟩
  | findByHash tokenHash => cases Option.some.inj h; exact ⟨row, hrow, .refl row, .inl revoked⟩
  | findActiveByUser userId now => cases Option.some.inj h; exact ⟨row, hrow, .refl row, .inl revoked⟩

theorem Matches.evolves {held row : RefreshTokenRow} {c : AuthCall} (h : Matches held c)
    (evolves : Evolves held row) : Matches row c := by
  unfold Matches at h ⊢
  split at h
  · exact h.trans evolves.id.symm
  · exact h.trans evolves.familyId.symm
  · exact h.trans evolves.userId.symm
  · exact h

/-- The call revoked the row at some moment of the schedule. -/
def RevokedAt (w₀ : World (service host)) (es before : List (Event (service host)))
    (w : World (service host)) (i : Nat) (t : Thread (service host)) (c : AuthCall)
    (row : RefreshTokenRow) : Prop :=
  ∃ fate reply store, World.SettledAt w₀ es before w i fate t c reply store ∧ fate.Reaches ∧
    Matches row c ∧ ∃ held ∈ w.store.refreshTokens, Evolves held row ∧ held.revokedAt = none

section

variable {w₀ w : World (service host)} {es : List (Event (service host))}

theorem revokedAt_of_revoked (fresh : Fresh w₀) (hrun : w₀.run es = some w) {row : RefreshTokenRow}
    (hrow : row ∈ w.store.refreshTokens) (revoked : row.revokedAt.isSome) :
    ∃ before w₁ i t c, RevokedAt w₀ es before w₁ i t c row := by
  refine World.run_induction (P := fun es (w : World (service host)) =>
    ∀ row ∈ w.store.refreshTokens, row.revokedAt.isSome → ∃ before w₁ i t c, RevokedAt w₀ es before w₁ i t c row) ?_ ?_ es w hrun
    row hrow revoked
  · intro row hrow
    rw [fresh.refreshTokens] at hrow
    cases hrow
  · intro es e w w' hes ih hstep row hrow revoked
    have earlier {held : RefreshTokenRow} (hheld : held ∈ w.store.refreshTokens)
        (evolves : Evolves held row) (revoked : held.revokedAt.isSome) :
        ∃ before w₁ i t c, RevokedAt w₀ (es ++ [e]) before w₁ i t c row := by
      obtain ⟨before, w₁, i, t, c, fate, reply, store, settled, reaches, fits, first, hfirst,
        evolves', unrevoked⟩ := ih held hheld revoked
      exact ⟨before, w₁, i, t, c, fate, reply, store, settled.mono (List.prefix_append ..), reaches,
        fits.evolves evolves, first, hfirst, evolves'.trans evolves, unrevoked⟩
    cases hstep with
    | join command => exact earlier hrow (.refl row) revoked
    | @resume n fate t c next reply store thread waiting settled =>
      have now (reaches : fate.Reaches) :
          ∃ before w₁ i t c, RevokedAt w₀ (es ++ [.advance n fate]) before w₁ i t c row := by
        obtain ⟨input, reply', hanswer⟩ := fate.settle_reaches reaches settled
        obtain ⟨held, hheld, evolves, already | fits⟩ := revoked_answer hanswer hrow revoked
        · exact earlier hheld evolves already
        · cases unrevoked : held.revokedAt with
          | some time => exact earlier hheld evolves (by simp [unrevoked])
          | none => exact ⟨es, w, n, t, c, fate, reply, store,
              ⟨List.prefix_refl _, hes, thread, ⟨next, waiting⟩, settled⟩, reaches, fits, held,
              hheld, evolves, unrevoked⟩
      cases fate with
      | lost fault =>
        cases Option.some.inj settled
        exact earlier hrow (.refl row) revoked
      | answered input => exact now trivial
      | unheard input fault => exact now trivial

theorem stored_present (fresh : Fresh w₀) (hrun : w₀.run es = some w)
    (keeps : w₀.Along es fun w e _ => ¬ Sweeps w e) {i : Nat} {k : Knowledge}
    {stored : RefreshToken} (client : (ledger w).clients i = some k)
    (hstored : k.stored = some stored) : ∃ row ∈ w.store.refreshTokens, row.id = stored.id := by
  have holds := (discipline host).holds_of_idle fresh.threads
  refine World.run_induction (P := fun es (w : World (service host)) =>
    w₀.Along es (fun w e _ => ¬ Sweeps w e) → ∀ i k stored, (ledger w).clients i = some k →
      k.stored = some stored → ∃ row ∈ w.store.refreshTokens, row.id = stored.id) ?_ ?_ es w hrun
    keeps i k stored client hstored
  · intro _ i k stored client
    simp [Discipline.view, fresh.threads] at client
  · intro es e w w' hes ih hstep keeps i k stored client hstored
    have present {i : Nat} {k : Knowledge} (client : (ledger w).clients i = some k)
        (hstored : k.stored = some stored) : ∃ row ∈ w'.store.refreshTokens, row.id = stored.id := by
      obtain ⟨row, hrow, same⟩ := ih keeps.start i k stored client hstored
      obtain ⟨row', hrow', evolves⟩ := kept_step hstep (keeps.last hes hstep) hrow
      exact ⟨row', hrow', evolves.id.trans same⟩
    obtain ⟨t, thread, rfl⟩ := (discipline host).thread_of_client client
    have stays := keeps.last hes hstep
    cases hstep with
    | join command =>
      rcases World.join_thread.mp thread with old | ⟨-, rfl⟩
      · exact present ((discipline host).view_client old) hstored
      · cases hstored
    | @resume n fate u c next reply store hu waiting settled =>
      rcases (World.resume_thread hu).mp thread with ⟨rfl, rfl⟩ | ⟨-, old⟩
      · rw [Discipline.seen_after] at hstored
        rcases stored_observe hstored with before | ⟨tokenHash, heard⟩
        · exact present ((discipline host).view_client hu) before
        · cases heard
          obtain ⟨row, hrow, -, rfl⟩ :=
            PrismaRefreshTokenRepository.findByHash_eq_some (findByHash_settle settled)
          obtain ⟨row', hrow', evolves⟩ := kept_step (.resume hu waiting settled) stays hrow
          exact ⟨row', hrow', evolves.id⟩
      · exact present ((discipline host).view_client old) hstored

/-- The port of the call throws the alarm itself. -/
def ThrowsAlarm : Event (service host) → Prop
  | .advance _ (.lost fault) | .advance _ (.unheard _ fault) => fault = reused
  | _ => False

theorem heard_not_reused (fresh : Fresh w₀) (hrun : w₀.run es = some w)
    (ports : ∀ e ∈ es, ¬ ThrowsAlarm e) {i : Nat} {t : Thread (service host)}
    (thread : w.threads[i]? = some t) {x : Exchange authInterface Failure} (mem : x ∈ t.heard) :
    x.reply ≠ .error reused := by
  intro alarm
  obtain ⟨before, w₁, fate, u, store, settled, -⟩ :=
    World.settledAt_of_heard fresh.threads hrun thread mem
  have answered := settled.settled
  rw [alarm] at answered
  have inside : Event.advance i fate ∈ es :=
    settled.within.subset (List.mem_append_right _ (List.mem_singleton_self _))
  cases fate with
  | answered input => exact answer_not_reused answered rfl
  | lost fault =>
    cases Option.some.inj answered
    exact ports _ inside rfl
  | unheard input fault =>
    obtain ⟨moved, -, heq⟩ := Option.map_eq_some_iff.mp answered
    cases heq
    exact ports _ inside rfl

private theorem heard_front {α : Type} {a b : List α} {x y : α}
    (h : a ++ [x] <+: b ++ [y]) : a <+: b := by
  refine List.prefix_of_prefix_length_le ((List.prefix_append a [x]).trans h)
    (List.prefix_append b [y]) ?_
  have := h.length_le
  simp only [List.length_append, List.length_singleton] at this
  omega

theorem lost_revoked {before : List (Event (service host))} {w₁ : World (service host)} {j : Nat}
    {fate : Fate (service host)} {u : Thread (service host)} {tokenId : Uuid}
    {reason : RevocationReason} {time : Date} {store : Store} {command : RefreshTokensCommand}
    (fresh : Fresh w₀) (keeps : w₀.Along es fun w e _ => ¬ Sweeps w e)
    (settled : World.SettledAt w₀ es before w₁ j fate u
      (AuthCall.refreshTokens (.consume tokenId reason time)) (.ok false) store)
    (refresh : u.command = .refresh command) :
    ∃ row ∈ w₁.store.refreshTokens, row.revokedAt.isSome ∧
      row.tokenHash = host.sha256Hex command.refreshToken := by
  have linear := linear_run fresh settled.run
  have holds := (discipline host).holds_run ((discipline host).holds_of_idle fresh.threads)
    settled.run
  have client : (ledger w₁).clients j = some ((discipline host).seen u) :=
    (discipline host).view_client settled.thread
  obtain ⟨next, waiting⟩ := settled.waiting
  obtain ⟨-, -, -, -, stored, hstored, rfl, -⟩ :=
    (discipline host).permits_of_waiting holds settled.thread waiting
  have keeps₁ : w₀.Along before fun w e _ => ¬ Sweeps w e := by
    obtain ⟨rest, rfl⟩ := settled.within
    exact keeps.start.start
  obtain ⟨row, hrow, same⟩ := stored_present fresh settled.run keeps₁ client hstored
  obtain ⟨input, -, hanswer⟩ := fate.settle_ok settled.settled
  have lost : (PrismaRefreshTokenRepository.consume stored.id reason time
      w₁.store.refreshTokens).1 = false :=
    Except.ok.inj (congrArg Prod.fst (Option.some.inj hanswer))
  refine ⟨row, hrow, PrismaRefreshTokenRepository.consume_lost linear.unique lost hrow same, ?_⟩
  obtain ⟨i, token, issues, sameId, -, -, presented⟩ := linear.stored j _ stored client hstored
  obtain ⟨i', token', issues', evolves⟩ := linear.row row hrow
  obtain ⟨-, rfl⟩ := linear.eq_of_id issues issues' (sameId.symm.trans (same.symm.trans evolves.id))
  rw [command_seen, refresh] at presented
  exact evolves.tokenHash.trans (Option.some.inj presented).symm

/-- Before the alarm its client is told of a revoked row of the token, and has revoked
nothing itself until then. -/
theorem shown_revoked (fresh : Fresh w₀) (hrun : w₀.run es = some w)
    (keeps : w₀.Along es fun w e _ => ¬ Sweeps w e) (ports : ∀ e ∈ es, ¬ ThrowsAlarm e) {j : Nat}
    {t : Thread (service host)} {command : RefreshTokensCommand} (thread : w.threads[j]? = some t)
    (refresh : t.command = .refresh command) (alarm : t.Returned (.error reused)) :
    ∃ before w₁ fate u c reply store, World.SettledAt w₀ es before w₁ j fate u c reply store ∧
      (∃ row ∈ w₁.store.refreshTokens, row.revokedAt.isSome ∧
        row.tokenHash = host.sha256Hex command.refreshToken) ∧
      ∀ x ∈ u.heard, ∀ row, ¬ Matches row x.call := by
  have ends := World.ends_run (S := service host) alarm_heard fresh.threads hrun thread
  rw [alarm] at ends
  rcases ends command refresh rfl with ⟨x, mem, failed⟩ |
    ⟨time, stored, count, ⟨heard, revoked⟩ | heard⟩
  · exact absurd failed (heard_not_reused fresh hrun ports thread mem)
  · obtain ⟨before, w₁, fate, u, store, settled, le⟩ :=
      World.settledAt_of_heard fresh.threads hrun thread (x := Heard
        (.refreshTokens (.findByHash (host.sha256Hex command.refreshToken))) (.ok (some stored)))
        (by simp [heard])
    refine ⟨before, w₁, fate, u, _, _, store, settled, ?_, ?_⟩
    · obtain ⟨row, hrow, same, rfl⟩ :=
        PrismaRefreshTokenRepository.findByHash_eq_some (findByHash_settle settled.settled)
      exact ⟨row, hrow, revoked, same⟩
    · rw [heard] at le
      intro x hx
      have earlier : x ∈ [Heard (.runtime .now) (.ok time), Heard (.refreshTokens
          (.findByHash (host.sha256Hex command.refreshToken))) (.ok (some stored))] :=
        (heard_front (b := [_, _]) le).subset hx
      simp only [List.mem_cons, List.not_mem_nil, or_false] at earlier
      rcases earlier with rfl | rfl <;> exact fun _ => id
  · obtain ⟨before, w₁, fate, u, store, settled, le⟩ :=
      World.settledAt_of_heard fresh.threads hrun thread (x := Heard
        (.refreshTokens (.consume stored.id .rotated time)) (.ok false)) (by simp [heard])
    refine ⟨before, w₁, fate, u, _, _, store, settled, ?_, ?_⟩
    · obtain ⟨t', thread', same, -⟩ := settled.heard hrun
      cases thread.symm.trans thread'
      exact lost_revoked fresh keeps settled (same.symm.trans refresh)
    · rw [heard] at le
      intro x hx
      have short : u.heard.length < 3 := by
        rcases Nat.lt_or_ge u.heard.length 3 with lt | ge
        · exact lt
        · -- the consume is not the last call
          have whole := le.eq_of_length (by
            have := le.length_le
            simp only [List.length_append, List.length_cons, List.length_nil] at this ⊢
            omega)
          have last := congrArg List.getLast? whole
          simp at last
      have earlier : x ∈ [Heard (.runtime .now) (.ok time), Heard (.refreshTokens
          (.findByHash (host.sha256Hex command.refreshToken))) (.ok (some stored))] :=
        (List.prefix_of_prefix_length_le ((List.prefix_append ..).trans le)
          (List.prefix_append [_, _] [_, _]) (Nat.le_of_lt_succ short)).subset hx
      simp only [List.mem_cons, List.not_mem_nil, or_false] at earlier
      rcases earlier with rfl | rfl <;> exact fun _ => id

/-! When an alarm is justified. -/

/-- The client is a refresh that presents the token with this hash. -/
def Presents (w : World (service host)) (i : Nat) (tokenHash : String) : Prop :=
  ∃ t command, w.threads[i]? = some t ∧ t.command = .refresh command ∧
    host.sha256Hex command.refreshToken = tokenHash

/-- The client's consume of the token took effect. -/
def Consumed (w₀ : World (service host)) (es : List (Event (service host))) (i : Nat)
    (tokenHash : String) : Prop :=
  ∃ before w fate t row reason time reply store,
    World.SettledAt w₀ es before w i fate t
      (AuthCall.refreshTokens (.consume row.id reason time)) reply store ∧
    fate.Reaches ∧ row ∈ w.store.refreshTokens ∧ row.tokenHash = tokenHash ∧ row.revokedAt = none

/-- Another client revoked the whole family before this one returned: by a logout, a
logout-all, a password change or a reuse it detected. -/
def FamilyRevoked (w₀ : World (service host)) (es : List (Event (service host))) (j : Nat)
    (familyId : Uuid) : Prop :=
  ∃ before w i fate t c reply store, World.SettledAt w₀ es before w i fate t c reply store ∧
    i ≠ j ∧ fate.Reaches ∧ Covers (ledger w) familyId c ∧
    ∀ u result, w.threads[j]? = some u → ¬ u.Returned result

/-- The token had been exchanged before the client started, or was presented by another
meanwhile, or its family was revoked. -/
inductive Justified (w₀ w : World (service host)) (es : List (Event (service host))) (j : Nat)
    (tokenHash : String) : Prop where
  | exchanged {i : Nat} {outcome : Outcome} (presents : Presents w i tokenHash)
      (returned : World.ReturnedBefore w₀ es i j (.ok outcome))
  | overlapped {i : Nat} (other : i ≠ j) (presents : Presents w i tokenHash)
      (overlap : World.Overlap w₀ es i j)
  | familyRevoked {o : Nat} {token : RefreshToken} (issues : (ledger w).Issues o token)
      (same : token.tokenHash = tokenHash) (revoked : FamilyRevoked w₀ es j token.familyId)

/-- The token was consumed by a refresh that failed, and that had ended before the client
started. -/
def Wasted (w₀ w : World (service host)) (es : List (Event (service host))) (j : Nat)
    (tokenHash : String) : Prop :=
  ∃ i failure, Presents w i tokenHash ∧ Consumed w₀ es i tokenHash ∧
    World.ReturnedBefore w₀ es i j (.error failure)

theorem Ledger.Issues.run {w' : World (service host)} (holds : (discipline host).Holds w)
    (hrun : w.run es = some w') {o : Nat} {token : RefreshToken}
    (h : (ledger w).Issues o token) : (ledger w').Issues o token :=
  (discipline host).view_invariant (P := fun v => @Ledger.Issues host v o token)
    (fun _ _ _ hv hstep => hv.step hstep) holds h hrun

/-- A call that revokes a row is a refresh's consume of its token, or covers its family. -/
theorem RevokedAt.cases {before : List (Event (service host))} {w₁ : World (service host)} {i : Nat}
    {t : Thread (service host)} {c : AuthCall} {row : RefreshTokenRow} (fresh : Fresh w₀)
    (hrun : w₀.run es = some w) (h : RevokedAt w₀ es before w₁ i t c row) :
    (Presents w i row.tokenHash ∧ Consumed w₀ es i row.tokenHash) ∨
      Covers (ledger w₁) row.familyId c := by
  obtain ⟨fate, reply, store, settled, reaches, fits, held, hheld, evolves, unrevoked⟩ := h
  have linear := linear_run fresh settled.run
  have holds := (discipline host).holds_run ((discipline host).holds_of_idle fresh.threads)
    settled.run
  obtain ⟨next, waiting⟩ := settled.waiting
  have permitted := (discipline host).permits_of_waiting holds settled.thread waiting
  unfold Matches at fits
  split at fits
  · left
    obtain ⟨refresh, -, -, -, stored, hstored, rfl, -⟩ := permitted
    constructor
    · obtain ⟨o, token, issues, sameId, -, -, presented⟩ := linear.stored i _ stored
        ((discipline host).view_client settled.thread) hstored
      obtain ⟨o', token', issues', evolves'⟩ := linear.row held hheld
      obtain ⟨-, rfl⟩ := linear.eq_of_id issues issues'
        (sameId.symm.trans (fits.trans (evolves.id.trans evolves'.id)))
      obtain ⟨t', thread', same, -⟩ := settled.heard hrun
      rw [command_seen] at refresh presented
      cases command : t.command with
      | refresh presenting =>
        rw [command] at presented
        exact ⟨t', presenting, thread', same.trans command, (Option.some.inj presented).trans
          (evolves'.tokenHash.symm.trans evolves.tokenHash.symm)⟩
      | login | logout | logoutAll | changePassword | deleteExpiredBefore | sessions | editUser =>
        rw [command] at refresh
        cases refresh
    · have same : stored.id = held.id := fits.trans evolves.id
      rw [same] at settled
      exact ⟨before, w₁, fate, t, held, _, _, reply, store, settled, reaches, hheld,
        evolves.tokenHash.symm, unrevoked⟩
  · exact .inr fits
  · right
    obtain ⟨o, opens⟩ := linear.row_opened hheld
    exact ⟨o, fits ▸ evolves.userId ▸ evolves.familyId ▸ opens⟩
  · exact fits.elim

theorem justified_or_wasted (fresh : Fresh w₀) (hrun : w₀.run es = some w)
    (keeps : w₀.Along es fun w e _ => ¬ Sweeps w e) (ports : ∀ e ∈ es, ¬ ThrowsAlarm e) {j : Nat}
    {t : Thread (service host)} {command : RefreshTokensCommand} (thread : w.threads[j]? = some t)
    (refresh : t.command = .refresh command) (alarm : t.Returned (.error reused)) :
    Justified w₀ w es j (host.sha256Hex command.refreshToken) ∨
      Wasted w₀ w es j (host.sha256Hex command.refreshToken) := by
  obtain ⟨before, w₁, fate, u, c, reply, store, settled, ⟨row, hrow, revoked, same⟩, clean⟩ :=
    shown_revoked fresh hrun keeps ports thread refresh alarm
  obtain ⟨earlier, w₂, i, v, cause, revokedAt⟩ := revokedAt_of_revoked fresh settled.run hrow revoked
  have within : before <+: es := (List.prefix_append ..).trans settled.within
  have again := revokedAt
  obtain ⟨fate', reply', store', settled', reaches, fits, -⟩ := again
  obtain ⟨v', present, -, heard⟩ := settled'.heard settled.run
  have other : i ≠ j := by
    rintro rfl
    cases settled.thread.symm.trans present
    exact clean ⟨cause, reply'⟩ (heard.subset (List.mem_append_right _ (List.mem_singleton_self _)))
      row fits
  have atEnd : RevokedAt w₀ es earlier w₂ i v cause row := by
    obtain ⟨fate, reply, store, settled, rest⟩ := revokedAt
    exact ⟨fate, reply, store, settled.mono within, rest⟩
  rcases atEnd.cases fresh hrun with ⟨presents, consumed⟩ | covers
  · rw [same] at presents consumed
    by_cases overlap : World.Overlap w₀ es i j
    · exact .inl (.overlapped other presents overlap)
    · rcases not_and_or.mp overlap with ended | ended
      · obtain ⟨result, ended⟩ := not_forall.mp ended
        cases result with
        | ok outcome => exact .inl (.exchanged presents (not_not.mp ended))
        | error failure => exact .inr ⟨i, failure, presents, consumed, not_not.mp ended⟩
      · -- the client of the alarm was still waiting when the other was there
        obtain ⟨result, ended⟩ := not_forall.mp ended
        exact absurd (not_not.mp ended) (World.not_returnedBefore within settled.run settled.thread
          settled.waiting present)
  · obtain ⟨o, token, issues, evolves⟩ := (linear_run fresh settled.run).row row hrow
    have holds := (discipline host).holds_run ((discipline host).holds_of_idle fresh.threads)
      settled.run
    obtain ⟨rest, rfl⟩ := within
    obtain ⟨mid, hmid, hrest⟩ := World.run_split hrun
    cases settled.run.symm.trans hmid
    refine .inl (.familyRevoked (issues.run holds hrest) (evolves.tokenHash.symm.trans same)
      ⟨earlier, w₂, i, fate', v, cause, reply', store', settled'.mono (List.prefix_append ..), other,
        reaches, ?_, ?_⟩)
    · have family : row.familyId = token.familyId := evolves.familyId
      rwa [family] at covers
    · intro u' result thread' returned
      obtain ⟨rest', hbefore⟩ := (List.prefix_append ..).trans settled'.within
      rw [← hbefore] at hmid
      obtain ⟨mid', hmid', hrest'⟩ := World.run_split hmid
      cases settled'.run.symm.trans hmid'
      cases settled.thread.symm.trans (World.run_keeps_returned hrest' thread' returned)
      obtain ⟨next, waiting⟩ := settled.waiting
      rw [Thread.Returned, waiting] at returned
      contradiction

/-- An alarm is justified unless the token was wasted: consumed by a refresh that failed
before this one was started. -/
theorem reuse_alarm_justified (fresh : Fresh w₀) (hrun : w₀.run es = some w)
    (keeps : w₀.Along es fun w e _ => ¬ Sweeps w e) (ports : ∀ e ∈ es, ¬ ThrowsAlarm e) {j : Nat}
    {t : Thread (service host)} {command : RefreshTokensCommand} (thread : w.threads[j]? = some t)
    (refresh : t.command = .refresh command) (alarm : t.Returned (.error reused))
    (spared : ¬ Wasted w₀ w es j (host.sha256Hex command.refreshToken)) :
    Justified w₀ w es j (host.sha256Hex command.refreshToken) :=
  (justified_or_wasted fresh hrun keeps ports thread refresh alarm).resolve_right spared

end

/-! Two alarms over one token: the token was exchanged, or the lookup of its user failed. -/

/-- The token is presented again after the first refresh of it has ended. -/
def presentedTwice (first : List (Event (service sampleHost))) : List (Event (service sampleHost)) :=
  [sampleLogin] ++ answered 0 loginDraws ++ [sampleRefresh "raw-0"] ++ first ++
    [sampleRefresh "raw-0"] ++ answered 2 ["", "", ""]

def exchange : List (Event (service sampleHost)) :=
  answered 1 ["", "", "", "", "jti-1", "", "", "raw-1", "id-1", ""]

/-- The consume is answered, and the user lookup after it is not. -/
def failedExchange : List (Event (service sampleHost)) :=
  answered 1 ["", "", ""] ++
    [.advance 1 (.lost (.infrastructure .databaseUnavailable "Database error during user.findById"))]

def afterAlarm (first : List (Event (service sampleHost))) : World (service sampleHost) :=
  (sampleWorld.run (presentedTwice first)).getD sampleWorld

/-- The call revokes a family, or sweeps the expired. -/
def isRevocation : AuthCall → Bool
  | .refreshTokens (.revokeFamily ..) | .refreshTokens (.revokeAllForUser ..) => true
  | _ => false

def isSweep : AuthCall → Bool
  | .refreshTokens (.deleteExpiredBefore _) => true
  | _ => false

theorem keeps_of_heard {w₀ w : World (service host)} {es : List (Event (service host))}
    (hrun : w₀.run es = some w)
    (unswept : ∀ t ∈ w.threads, (t.heard.all fun x => !isSweep x.call) = true) :
    w₀.Along es fun w e _ => ¬ Sweeps w e := by
  rintro first e rest w₁ w₂ rfl hfirst hstep ⟨i, fate, t, cutoff, next, rfl, thread, waiting⟩
  cases hstep with
  | @resume _ _ u c next' reply store hu waiting' settled =>
    cases thread.symm.trans hu
    cases waiting.symm.trans waiting'
    have settledAt : World.SettledAt w₀ (first ++ .advance i fate :: rest) first w₁ i fate t
        (AuthCall.refreshTokens (.deleteExpiredBefore cutoff)) reply store :=
      ⟨⟨rest, by simp⟩, hfirst, thread, ⟨next, waiting⟩, settled⟩
    obtain ⟨t', thread', -, heard⟩ := settledAt.heard hrun
    have absent := List.all_eq_true.mp (unswept t' (List.mem_of_getElem? thread')) _
      (heard.subset (List.mem_append_right _ (List.mem_singleton_self _)))
    cases absent

private theorem exchange_run :
    sampleWorld.run (presentedTwice exchange) = some (afterAlarm exchange) := rfl

private theorem failedExchange_run :
    sampleWorld.run (presentedTwice failedExchange) = some (afterAlarm failedExchange) := rfl

private theorem presentedTwice_ports {first : List (Event (service sampleHost))}
    (ports : ∀ e ∈ first, ¬ ThrowsAlarm e) : ∀ e ∈ presentedTwice first, ¬ ThrowsAlarm e := by
  have answered {i : Nat} {draws : List String} :
      ∀ e ∈ answered i draws, ¬ ThrowsAlarm e := by
    intro e he
    obtain ⟨random, -, rfl⟩ := List.mem_map.mp he
    exact id
  intro e he
  simp only [presentedTwice, List.mem_append, List.mem_singleton] at he
  rcases he with ((((rfl | login) | rfl) | refresh) | rfl) | alarm
  · exact id
  · exact answered e login
  · exact id
  · exact ports e refresh
  · exact id
  · exact answered e alarm

theorem reuse_alarm_justified_exchanged :
    Justified sampleWorld (afterAlarm exchange) (presentedTwice exchange) 2 "sha256:raw-0" := by
  have alarmed : ∃ t, (afterAlarm exchange).threads[2]? = some t ∧
      t.command = Command.refresh ⟨"raw-0", ⟨none, none⟩⟩ ∧ t.Returned (.error reused) :=
    ⟨_, rfl, rfl, rfl⟩
  obtain ⟨t, thread, refresh, alarm⟩ := alarmed
  refine reuse_alarm_justified ⟨rfl, rfl⟩ exchange_run (keeps_of_heard exchange_run (by decide))
    (presentedTwice_ports fun e he => ?_) thread refresh alarm ?_
  · obtain ⟨random, -, rfl⟩ := List.mem_map.mp he
    exact id
  · rintro ⟨i, failure, -, -, ended⟩
    obtain ⟨t, thread, returned⟩ := ended.returned exchange_run
    match i, ended.lt with
    | 0, _ => cases thread; cases returned
    | 1, _ => cases thread; cases returned

/-- The schedule up to where the token is presented again. -/
def firstPresented (first : List (Event (service sampleHost))) : List (Event (service sampleHost)) :=
  [sampleLogin] ++ answered 0 loginDraws ++ [sampleRefresh "raw-0"] ++ first

private theorem failed_before :
    World.ReturnedBefore sampleWorld (presentedTwice failedExchange) 1 2
      (.error (.infrastructure .databaseUnavailable "Database error during user.findById")) := by
  have hrun : sampleWorld.run (firstPresented failedExchange) =
      some ((sampleWorld.run (firstPresented failedExchange)).getD sampleWorld) := rfl
  have le : firstPresented failedExchange <+: presentedTwice failedExchange :=
    ⟨[sampleRefresh "raw-0"] ++ answered 2 ["", "", ""], by
      simp [firstPresented, presentedTwice, List.append_assoc]⟩
  exact ⟨_, _, _, le, hrun, rfl, rfl, Nat.le_refl 2⟩

/-- A refresh that failed after its consume, tried again, is reported as reuse: the token
was never exchanged, and nobody else presented it or revoked its family. -/
theorem retried_refresh_alarms :
    ¬ ∀ (w₀ w : World (service sampleHost)) (es : List (Event (service sampleHost))) (j : Nat)
      (t : Thread (service sampleHost)) (command : RefreshTokensCommand), Fresh w₀ →
      w₀.run es = some w → (w₀.Along es fun w e _ => ¬ Sweeps w e) →
      (∀ e ∈ es, ¬ ThrowsAlarm e) → w.threads[j]? = some t → t.command = .refresh command →
      t.Returned (.error reused) →
      Justified w₀ w es j (sampleHost.sha256Hex command.refreshToken) := by
  intro claim
  have justified := claim sampleWorld (afterAlarm failedExchange) (presentedTwice failedExchange) 2
    _ ⟨"raw-0", ⟨none, none⟩⟩ ⟨rfl, rfl⟩ failedExchange_run
    (keeps_of_heard failedExchange_run (by decide)) (presentedTwice_ports fun e he => ?_) rfl rfl rfl
  · cases justified with
    | @exchanged i outcome presents ended =>
      obtain ⟨t, thread, returned⟩ := ended.returned failedExchange_run
      obtain ⟨t', command, thread', refresh, -⟩ := presents
      cases thread.symm.trans thread'
      match i, ended.lt with
      | 0, _ => cases thread; cases refresh
      | 1, _ => cases thread; cases returned
    | @overlapped i other presents overlap =>
      obtain ⟨t, command, thread, refresh, -⟩ := presents
      have lt : i < 3 := (List.getElem?_eq_some_iff.mp thread).1
      match i, lt with
      | 0, _ => cases thread; cases refresh
      | 1, _ =>
        exact overlap.1 _ failed_before
      | 2, _ => exact other rfl
    | @familyRevoked o token issues same revoked =>
      obtain ⟨before, w, i, fate, t, c, reply, store, settled, other, -, covers, -⟩ := revoked
      obtain ⟨t', thread, -, heard⟩ := settled.heard failedExchange_run
      have lt : i < 3 := (List.getElem?_eq_some_iff.mp thread).1
      have mem := heard.subset (List.mem_append_right _ (List.mem_singleton_self _))
      have revocation : isRevocation c := by
        unfold Covers at covers
        split at covers
        · rfl
        · rfl
        · exact covers.elim
      have none : (t'.heard.all fun x => !isRevocation x.call) = true := by
        match i, lt with
        | 0, _ => cases thread; rfl
        | 1, _ => cases thread; rfl
        | 2, _ => exact absurd rfl other
      have := List.all_eq_true.mp none _ mem
      simp [revocation] at this
  · rcases List.mem_append.mp he with answers | lost
    · obtain ⟨random, -, rfl⟩ := List.mem_map.mp answers
      exact id
    · cases List.mem_singleton.mp lost
      nofun

end TenantOS.Auth
