import TenantOS.Auth.PasswordIntegrity
import TenantOS.Auth.ReuseAlarm

/-! The reason stored beside a revocation: a row keeps that of the call that revoked it, and
it says what the client had heard. -/
namespace TenantOS.Auth

open TenantOS.Domain TenantOS.Infrastructure TenantOS.Relational TenantOS.Interleaving
open TenantOS.Application
open PrismaRefreshTokenRepository (Evolves inserted)

variable {host : Host}

/-! What a revocation writes. -/

/-- The columns of the row are those the call writes. -/
def Stamps (row : RefreshTokenRow) : AuthCall → Prop
  | .refreshTokens (.consume _ reason time) | .refreshTokens (.revokeFamily _ reason time)
  | .refreshTokens (.revokeAllForUser _ reason time) =>
      row.revokedAt = some time ∧ row.revokedReason = some reason.text
  | _ => False

theorem stamped_answer {input : Input} {c : AuthCall} {reply : Except Failure c.Reply}
    {store store' : Store} (h : answer host input c store = some (reply, store'))
    {row : RefreshTokenRow} (hrow : row ∈ store'.refreshTokens) (revoked : row.revokedAt.isSome) :
    row ∈ store.refreshTokens ∨ ∃ held ∈ store.refreshTokens, Evolves held row ∧
      held.revokedAt = none ∧ Matches held c ∧ Stamps row c := by
  rcases (frame_answer h).1 with same | ⟨call, rfl⟩
  · exact .inl (same ▸ hrow)
  have written {filter : RefreshTokenRow → Bool} {reason : RevocationReason} {time : Date}
      (fits : ∀ held, filter held → Matches held (.refreshTokens call))
      (stamps : ∀ held, Stamps (PrismaRefreshTokenRepository.revoked reason time held)
        (.refreshTokens call))
      (hmem : row ∈ (PrismaRefreshTokenRepository.revoke filter reason time
        store.refreshTokens).2) : row ∈ store.refreshTokens ∨
      ∃ held ∈ store.refreshTokens, Evolves held row ∧ held.revokedAt = none ∧
        Matches held (.refreshTokens call) ∧ Stamps row (.refreshTokens call) := by
    obtain ⟨held, hheld, rfl⟩ := mem_updateMany.mp hmem
    by_cases fit : (filter held && held.revokedAt.isNone) = true
    · rw [if_pos fit]
      obtain ⟨chosen, unrevoked⟩ := Bool.and_eq_true_iff.mp fit
      exact .inr ⟨held, hheld, ⟨rfl, rfl, rfl, rfl, fun _ => rfl⟩,
        Option.isNone_iff_eq_none.mp unrevoked, fits held chosen, stamps held⟩
    · rw [if_neg fit]
      exact .inl hheld
  cases call with
  | create token =>
    cases Option.some.inj h
    change row ∈ (PrismaRefreshTokenRepository.create token store.users store.refreshTokens).2
      at hrow
    rcases PrismaRefreshTokenRepository.create_tokens token store.users store.refreshTokens with
      unchanged | ⟨added, -⟩
    · exact .inl (unchanged ▸ hrow)
    · rcases List.mem_append.mp (added ▸ hrow) with old | new
      · exact .inl old
      · cases List.mem_singleton.mp new
        cases revoked
  | consume tokenId reason time =>
    cases Option.some.inj h
    exact written (fun _ fit => (of_decide_eq_true fit).symm) (fun _ => ⟨rfl, rfl⟩) hrow
  | revokeFamily familyId reason time =>
    cases Option.some.inj h
    exact written (fun _ fit => (of_decide_eq_true fit).symm) (fun _ => ⟨rfl, rfl⟩) hrow
  | revokeAllForUser userId reason time =>
    cases Option.some.inj h
    exact written (fun _ fit => (of_decide_eq_true fit).symm) (fun _ => ⟨rfl, rfl⟩) hrow
  | deleteExpiredBefore cutoff =>
    cases Option.some.inj h
    exact .inl (mem_deleteMany.mp hrow).1
  | findByHash tokenHash => cases Option.some.inj h; exact .inl hrow
  | findActiveByUser userId now => cases Option.some.inj h; exact .inl hrow

/-- The moment a row was revoked; the row has kept what was written then. -/
theorem stamped_of_revoked {w₀ w : World (service host)} {es : List (Event (service host))}
    (fresh : Fresh w₀) (hrun : w₀.run es = some w) {row : RefreshTokenRow}
    (hrow : row ∈ w.store.refreshTokens) (revoked : row.revokedAt.isSome) :
    ∃ before w₁ i t c, RevokedAt w₀ es before w₁ i t c row ∧ Stamps row c := by
  refine World.run_induction (P := fun es (w : World (service host)) =>
    ∀ row ∈ w.store.refreshTokens, row.revokedAt.isSome →
      ∃ before w₁ i t c, RevokedAt w₀ es before w₁ i t c row ∧ Stamps row c) ?_ ?_ es w hrun
    row hrow revoked
  · intro row hrow
    rw [fresh.refreshTokens] at hrow
    cases hrow
  · intro es e w w' hes ih hstep row hrow revoked
    have earlier (hrow : row ∈ w.store.refreshTokens) :
        ∃ before w₁ i t c, RevokedAt w₀ (es ++ [e]) before w₁ i t c row ∧ Stamps row c := by
      obtain ⟨before, w₁, i, t, c, ⟨fate, reply, store, settled, rest⟩, stamps⟩ :=
        ih row hrow revoked
      exact ⟨before, w₁, i, t, c,
        ⟨fate, reply, store, settled.mono (List.prefix_append ..), rest⟩, stamps⟩
    cases hstep with
    | join command => exact earlier hrow
    | @resume n fate t c next reply store thread waiting settled =>
      have now (reaches : fate.Reaches) :
          ∃ before w₁ i t c, RevokedAt w₀ (es ++ [.advance n fate]) before w₁ i t c row ∧
            Stamps row c := by
        obtain ⟨input, reply', hanswer⟩ := fate.settle_reaches reaches settled
        rcases stamped_answer hanswer hrow revoked with
          old | ⟨held, hheld, evolves, unrevoked, fits, stamps⟩
        · exact earlier old
        · exact ⟨es, w, n, t, c, ⟨fate, reply, store,
            ⟨List.prefix_refl _, hes, thread, ⟨next, waiting⟩, settled⟩, reaches,
            fits.evolves evolves, held, hheld, evolves, unrevoked⟩, stamps⟩
      cases fate with
      | lost fault =>
        cases Option.some.inj settled
        exact earlier hrow
      | answered input => exact now trivial
      | unheard input fault => exact now trivial

/-! What the columns of a revoked row say. -/

/-- The text is that of a token of the family. -/
def TokenOf (v : Ledger host) (familyId : Uuid) (raw : String) : Prop :=
  ∃ j token, v.Issues j token ∧ token.familyId = familyId ∧ token.tokenHash = host.sha256Hex raw

/-- What the reason of a revoked row says of the client that revoked it. -/
inductive Accounts (host : Host) (v : Ledger host) (t : Thread (service host))
    (row : RefreshTokenRow) : Prop where
  /-- A refresh that presented this token. -/
  | rotated {command : RefreshTokensCommand} (refresh : t.command = .refresh command)
      (reason : row.revokedReason = some RevocationReason.rotated.text)
      (presented : row.tokenHash = host.sha256Hex command.refreshToken)
  /-- A refresh that presented a token of the family that was spent. -/
  | reuseDetected {command : RefreshTokensCommand} (refresh : t.command = .refresh command)
      (reason : row.revokedReason = some RevocationReason.reuseDetected.text)
      (presented : TokenOf v row.familyId command.refreshToken)
      (spent : ∃ stored, ⟨.refreshTokens (.findByHash (host.sha256Hex command.refreshToken)),
          .ok (some stored)⟩ ∈ t.heard ∧ (stored.isRevoked ∨
            ∃ time, ⟨.refreshTokens (.consume stored.id .rotated time), .ok false⟩ ∈ t.heard))
  /-- The owner's logout, with a token of the family. -/
  | logout {command : LogoutCommand} {raw : String} (logout : t.command = .logout command)
      (reason : row.revokedReason = some RevocationReason.logout.text)
      (own : row.userId = command.userId) (carried : command.refreshToken = some raw)
      (presented : TokenOf v row.familyId raw)
  /-- The owner's sign-out everywhere. -/
  | logoutAll {command : LogoutCommand} (logout : t.command = .logoutAll command)
      (reason : row.revokedReason = some RevocationReason.logoutAll.text)
      (own : row.userId = command.userId)
  /-- The owner proved the old password, and another one is saved. -/
  | passwordChanged {command : ChangePasswordCommand} {loaded saved : User} {old new : String}
      {savedAt : Date} (changing : t.command = .changePassword command)
      (reason : row.revokedReason = some RevocationReason.passwordChanged.text)
      (own : row.userId = command.userId)
      (verified : ⟨.hasher (.verify old command.currentPassword), .ok true⟩ ∈ t.heard)
      (replaced : ⟨.users (.save (loaded.setPasswordHash new savedAt)), .ok saved⟩ ∈ t.heard)

theorem TokenOf.mono {v v' : Ledger host} {familyId : Uuid} {raw : String}
    (issues : ∀ j token, v.Issues j token → v'.Issues j token) (h : TokenOf v familyId raw) :
    TokenOf v' familyId raw := by
  obtain ⟨j, token, issued, rest⟩ := h
  exact ⟨j, token, issues j token issued, rest⟩

theorem Accounts.mono {v v' : Ledger host} {t t' : Thread (service host)} {row : RefreshTokenRow}
    (issues : ∀ j token, v.Issues j token → v'.Issues j token) (same : t'.command = t.command)
    (heard : ∀ x ∈ t.heard, x ∈ t'.heard) (h : Accounts host v t row) : Accounts host v' t' row := by
  cases h with
  | rotated refresh reason presented => exact .rotated (same.trans refresh) reason presented
  | reuseDetected refresh reason presented spent =>
    obtain ⟨stored, read, spent⟩ := spent
    refine .reuseDetected (same.trans refresh) reason (presented.mono issues)
      ⟨stored, heard _ read, spent.imp_right ?_⟩
    rintro ⟨time, lost⟩
    exact ⟨time, heard _ lost⟩
  | logout logout reason own carried presented =>
    exact .logout (same.trans logout) reason own carried (presented.mono issues)
  | logoutAll logout reason own => exact .logoutAll (same.trans logout) reason own
  | passwordChanged changing reason own verified replaced =>
    exact .passwordChanged (same.trans changing) reason own (heard _ verified) (heard _ replaced)

section

variable {w₀ w : World (service host)} {es : List (Event (service host))} {i : Nat}
  {t : Thread (service host)} {stored : RefreshToken} {raw : String} {time : Date}

/-- The row that was shown is the row of an issued token, the one presented. -/
theorem issued_of_shown (fresh : Fresh w₀) (hrun : w₀.run es = some w)
    (thread : w.threads[i]? = some t) (hstored : ((discipline host).seen t).stored = some stored)
    (presents : t.command.presentedHash host = some (host.sha256Hex raw)) :
    ∃ j token, (ledger w).Issues j token ∧ stored.id = token.id ∧ stored.userId = token.userId ∧
      stored.familyId = token.familyId ∧ token.tokenHash = host.sha256Hex raw := by
  have client := (discipline host).view_client thread
  obtain ⟨j, token, issues, id, userId, familyId, presented⟩ :=
    (linear_run fresh hrun).stored i _ stored client hstored
  rw [command_seen, presents] at presented
  exact ⟨j, token, issues, id, userId, familyId, (Option.some.inj presented).symm⟩

/-- A call that was asked for on good grounds leaves a row that tells them. -/
theorem accounts_of_grounds (fresh : Fresh w₀) (hrun : w₀.run es = some w)
    (thread : w.threads[i]? = some t) {c : AuthCall} {held row : RefreshTokenRow}
    (grounds : Grounds host ⟨t.command, t.heard⟩ c) (hheld : held ∈ w.store.refreshTokens)
    (evolves : Evolves held row) (fits : Matches row c) (stamps : Stamps row c)
    (revoked : row.revokedAt = some time) :
    ⟨.runtime .now, .ok time⟩ ∈ t.heard ∧ Accounts host (ledger w) t row := by
  have linear := linear_run fresh hrun
  have presented {raw : String} {stored : RefreshToken}
      (hstored : ((discipline host).seen t).stored = some stored)
      (presents : t.command.presentedHash host = some (host.sha256Hex raw))
      (family : stored.familyId = row.familyId) : TokenOf (ledger w) row.familyId raw := by
    obtain ⟨j, token, issues, -, -, familyId, tokenHash⟩ :=
      issued_of_shown fresh hrun thread hstored presents
    exact ⟨j, token, issues, familyId.symm.trans family, tokenHash⟩
  cases grounds with
  | @rotated command stored readAt same heard =>
    dsimp only at same heard
    obtain ⟨stampedAt, reason⟩ := stamps
    cases revoked.symm.trans stampedAt
    have hstored : ((discipline host).seen t).stored = some stored := by
      simp [Discipline.seen, heard, shown, observe]
    obtain ⟨j, token, issues, id, -, -, tokenHash⟩ :=
      issued_of_shown fresh hrun thread hstored (congrArg (Command.presentedHash host) same)
    obtain ⟨j', token', issues', evolves'⟩ := linear.row held hheld
    obtain ⟨-, rfl⟩ := linear.eq_of_id issues issues'
      (id.symm.trans (fits.trans (evolves.id.trans evolves'.id)))
    refine ⟨by simp [heard, shown], .rotated same reason ?_⟩
    exact evolves.tokenHash.trans (evolves'.tokenHash.trans tokenHash)
  | @reuseShown command stored readAt same heard spent =>
    dsimp only at same heard
    obtain ⟨stampedAt, reason⟩ := stamps
    cases revoked.symm.trans stampedAt
    have hstored : ((discipline host).seen t).stored = some stored := by
      simp [Discipline.seen, heard, shown, observe]
    refine ⟨by simp [heard, shown], .reuseDetected same reason
      (presented hstored (congrArg (Command.presentedHash host) same) fits) ⟨stored, ?_, .inl spent⟩⟩
    simp [heard, shown]
  | @reuseLost command stored readAt same heard =>
    dsimp only at same heard
    obtain ⟨stampedAt, reason⟩ := stamps
    cases revoked.symm.trans stampedAt
    have hstored : ((discipline host).seen t).stored = some stored := by
      simp [Discipline.seen, heard, shown, observe]
    refine ⟨by simp [heard, shown], .reuseDetected same reason
      (presented hstored (congrArg (Command.presentedHash host) same) fits)
      ⟨stored, ?_, .inr ⟨time, ?_⟩⟩⟩ <;> simp [heard, shown]
  | @logout command raw stored readAt same carried heard own =>
    dsimp only at same heard
    obtain ⟨stampedAt, reason⟩ := stamps
    cases revoked.symm.trans stampedAt
    have hstored : ((discipline host).seen t).stored = some stored := by
      simp [Discipline.seen, heard, shown, observe]
    have presents : t.command.presentedHash host = some (host.sha256Hex raw) := by
      simp [same, Command.presentedHash, carried]
    obtain ⟨j, token, issues, -, userId, familyId, -⟩ :=
      issued_of_shown fresh hrun thread hstored presents
    have owner : row.userId = stored.userId := by
      obtain ⟨o, opens⟩ := linear.opened j token issues
      obtain ⟨o', opens'⟩ := linear.row_opened hheld
      have family : token.familyId = held.familyId :=
        familyId.symm.trans (fits.trans evolves.familyId)
      rw [family] at opens
      rw [evolves.userId, userId]
      exact (linear.opens_unique opens' opens).2
    exact ⟨by simp [heard, shown], .logout same reason (owner.trans own) carried
      (presented hstored presents fits)⟩
  | @logoutAll command readAt same heard =>
    dsimp only at same heard
    obtain ⟨stampedAt, reason⟩ := stamps
    cases revoked.symm.trans stampedAt
    exact ⟨by simp [heard], .logoutAll same reason fits.symm⟩
  | @passwordChanged command loaded saved old new savedAt readAt before same replaces heard =>
    dsimp only at same heard
    obtain ⟨stampedAt, reason⟩ := stamps
    cases revoked.symm.trans stampedAt
    obtain ⟨hash, password, policy, rfl⟩ := replaces
    have read : ⟨.users (.findById command.userId false), .ok (some loaded)⟩ ∈ t.heard := by
      simp [heard]
    have own : loaded.id = command.userId := heard_findById fresh.threads hrun thread read
    have verified : ⟨.hasher (.verify old command.currentPassword), .ok true⟩ ∈ t.heard := by
      simp [heard]
    have replaced : ⟨.users (.save (loaded.setPasswordHash new savedAt)), .ok saved⟩ ∈ t.heard := by
      simp [heard]
    exact ⟨by simp [heard], .passwordChanged same reason (fits.symm.trans own) verified replaced⟩

end

/-- Whenever a row is revoked, its reason tells what happened, and its date is a time the
client read. -/
theorem revocation_accounted {w₀ w : World (service host)} {es : List (Event (service host))}
    (fresh : Fresh w₀) (hrun : w₀.run es = some w) {row : RefreshTokenRow} {time : Date}
    (hrow : row ∈ w.store.refreshTokens) (revoked : row.revokedAt = some time) :
    ∃ (i : Nat) (t : Thread (service host)), w.threads[i]? = some t ∧
      ⟨.runtime .now, .ok time⟩ ∈ t.heard ∧ Accounts host (ledger w) t row := by
  obtain ⟨before, w₁, i, t, c, ⟨fate, reply, store, settled, reaches, fits, held, hheld, evolves,
    unrevoked⟩, stamps⟩ := stamped_of_revoked fresh hrun hrow (by simp [revoked])
  obtain ⟨next, waiting⟩ := settled.waiting
  have grounded := (transcripts host).holds_run ((transcripts host).holds_of_idle fresh.threads)
    settled.run
  have grounds := (transcripts host).permits_of_waiting grounded settled.thread waiting
  rw [seen_transcripts] at grounds
  have permitted : Grounds host ⟨t.command, t.heard⟩ c := by
    unfold Stamps at stamps
    split at stamps
    · exact grounds
    · exact grounds
    · exact grounds
    · exact stamps.elim
  obtain ⟨read, accounts⟩ := accounts_of_grounds fresh settled.run settled.thread permitted hheld
    evolves fits stamps revoked
  obtain ⟨t', thread', same, told⟩ := settled.heard hrun
  have later : ∀ x ∈ t.heard, x ∈ t'.heard :=
    fun x mem => told.subset (List.mem_append_left _ mem)
  have issues : ∀ j token, (ledger w₁).Issues j token → (ledger w).Issues j token := by
    intro j token issued
    obtain ⟨rest, rfl⟩ := (List.prefix_append ..).trans settled.within
    obtain ⟨mid, hmid, hrest⟩ := World.run_split hrun
    cases settled.run.symm.trans hmid
    exact issued.run ((discipline host).holds_run ((discipline host).holds_of_idle fresh.threads)
      settled.run) hrest
  exact ⟨i, t', thread', later _ read, accounts.mono issues same later⟩

/-! The successor of a token that is presented twice. -/

def alarmedRow : RefreshTokenRow where
  id := "id-1"
  userId := "ann"
  familyId := "family-0"
  tokenHash := "sha256:raw-1"
  expiresAt := 604800000
  revokedAt := some 0
  revokedReason := some "reuse-detected"
  userAgent := none
  ipAddress := none
  createdAt := 0

theorem revocation_accounted_alarm :
    ∃ (i : Nat) (t : Thread (service sampleHost)), (afterAlarm exchange).threads[i]? = some t ∧
      ⟨.runtime .now, .ok (0 : Date)⟩ ∈ t.heard ∧
      Accounts sampleHost (ledger (afterAlarm exchange)) t alarmedRow := by
  have fresh : Fresh sampleWorld := ⟨rfl, rfl⟩
  have run : sampleWorld.run (presentedTwice exchange) = some (afterAlarm exchange) := rfl
  exact revocation_accounted fresh run (List.mem_cons_of_mem _ List.mem_cons_self : alarmedRow ∈ _) rfl

end TenantOS.Auth
