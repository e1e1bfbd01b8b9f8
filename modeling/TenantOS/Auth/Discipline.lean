import TenantOS.Auth.Clients

/-! Every use case follows the discipline: one lemma per use case, checked call
by call against every reply it can hear. -/
namespace TenantOS.Auth

open TenantOS.Domain TenantOS.Infrastructure TenantOS.Interleaving TenantOS.Application

variable {host : Host}

/-- What is left of a client keeps to the discipline. -/
abbrev Safe (host : Host) (k : Knowledge) (program : UseCase Outcome) : Prop :=
  (monitor host).Conforms accepts k program

theorem safe_ask {k : Knowledge} {c : AuthCall} {next : c.Reply → UseCase Outcome}
    (permitted : permits host k c)
    (step : ∀ value, Safe host (observe host k c (.ok value)) (next value)) :
    Safe host k (ask c >>= next) :=
  Monitor.conforms_perform_bind.mpr ⟨permitted, step, fun _ => trivial⟩

theorem safe_check {k : Knowledge} {result : Except DomainError Unit}
    {next : Unit → UseCase Outcome} (ok : result = .ok () → Safe host k (next ())) : Safe host k (check result >>= next) := by
  cases result with
  | error error => trivial
  | ok value => exact ok rfl

theorem safe_buildAuthenticationResult {k : Knowledge} {loaded user : User}
    {next : AuthenticationResult → UseCase Outcome} (hloaded : k.user = some loaded)
    (authenticated : loaded.assertCanAuthenticate = .ok ()) (sameId : user.id = loaded.id)
    (sameVersion : user.tokenVersion = loaded.tokenVersion) (fresh : k.generated = none)
    (step : ∀ jti result, Safe host { k with
        ids := jti :: k.ids
        signed := some result.tokens.accessToken
        generated := some (host.sha256Hex result.tokens.refreshToken) } (next result)) :
    Safe host k (buildAuthenticationResult host user >>= next) := by
  simp only [buildAuthenticationResult, issueAccessToken, Program.bind_assoc]
  refine safe_ask trivial fun jti => ?_
  refine safe_ask ⟨loaded, hloaded, authenticated, sameId, sameVersion⟩ fun token => ?_
  refine safe_ask trivial fun issuedAt => ?_
  refine safe_ask fresh fun raw => ?_
  exact step jti ⟨⟨token, raw, "Bearer", _, _⟩, _⟩

theorem safe_upgradeHash {k : Knowledge} {user : User} {passwordHash plaintext : String}
    {next : User → UseCase Outcome} (hloaded : k.user = some user)
    (step : ∀ saved upgraded, upgraded.id = user.id → upgraded.tokenVersion = user.tokenVersion →
      Safe host { k with saved := saved } (next upgraded)) :
    Safe host k (LoginUseCase.upgradeHash host user passwordHash plaintext >>= next) := by
  unfold LoginUseCase.upgradeHash
  split
  · simp only [Program.bind_assoc]
    refine safe_ask trivial fun hash => ?_
    refine safe_ask trivial fun time => ?_
    refine safe_ask ⟨user, [(time, .upgradePasswordHash hash)], hloaded, rfl⟩ fun _ => ?_
    exact step true _ rfl rfl
  · exact step k.saved user rfl rfl

theorem safe_login (command : LoginCommand) :
    Safe host (.start (.login command)) (body host (.login command)) := by
  simp only [body, LoginUseCase.execute]
  split
  · trivial
  rename_i email _
  rw [Program.bind_assoc]
  refine safe_ask ⟨rfl, rfl, by simp [Knowledge.start]⟩ fun found => ?_
  cases found with
  | none =>
    simp only [LoginUseCase.rejectUnknown, Program.bind_assoc]
    exact safe_ask trivial fun _ => trivial
  | some user =>
    dsimp only
    split
    · simp only [LoginUseCase.rejectUnknown, Program.bind_assoc]
      exact safe_ask trivial fun _ => trivial
    rename_i hash _
    rw [Program.bind_assoc]
    refine safe_ask trivial fun passwordMatches => ?_
    split
    · trivial
    simp only [Program.bind_assoc]
    refine safe_check fun authenticated => ?_
    refine safe_upgradeHash rfl fun saved upgraded sameId sameVersion => ?_
    simp only [LoginUseCase.openSession, Program.bind_assoc]
    refine safe_buildAuthenticationResult rfl authenticated sameId sameVersion rfl
      fun jti result => ?_
    refine safe_ask trivial fun time => ?_
    refine safe_ask trivial fun id => ?_
    refine safe_ask trivial fun familyId => ?_
    refine safe_ask ?_ fun _ => ?_
    · exact ⟨rfl, List.mem_cons_of_mem _ List.mem_cons_self, rfl,
        .inl ⟨⟨command, rfl⟩, List.mem_cons_self, user, rfl, sameId⟩⟩
    refine safe_ask trivial fun loggedInAt => ?_
    refine safe_ask trivial fun _ => ?_
    exact ⟨rfl, rfl, fun h => by cases h⟩

theorem safe_detectedReuse {k : Knowledge} {stored : RefreshToken} {time : Date}
    {next : AuthenticationResult → UseCase Outcome} (hstored : k.stored = some stored) :
    Safe host k (RefreshTokensUseCase.detectedReuse stored.familyId time >>= next) := by
  simp only [RefreshTokensUseCase.detectedReuse, Program.bind_assoc]
  exact safe_ask ⟨stored, hstored, rfl⟩ fun _ => trivial

theorem safe_refresh (command : RefreshTokensCommand) :
    Safe host (.start (.refresh command)) (body host (.refresh command)) := by
  simp only [body, RefreshTokensUseCase.execute, Program.bind_assoc]
  refine safe_ask trivial fun time => ?_
  refine safe_ask ⟨rfl, rfl, rfl, rfl⟩ fun found => ?_
  cases found with
  | none => trivial
  | some stored =>
    dsimp only
    split
    · exact safe_detectedReuse rfl
    rename_i notRevoked
    split
    · trivial
    simp only [Program.bind_assoc]
    refine safe_ask ⟨rfl, rfl, rfl, rfl, stored, rfl, rfl, by simpa using notRevoked⟩ fun won => ?_
    cases won with
    | false => exact safe_detectedReuse rfl
    | true =>
      simp only [Bool.not_true, Bool.false_eq_true, if_false, Program.bind_assoc]
      refine safe_ask ⟨rfl, fun _ => ⟨stored, rfl, rfl⟩, fun _ h => by cases h⟩ fun found => ?_
      cases found with
      | none => trivial
      | some user =>
        simp only [Program.bind_assoc]
        refine safe_check fun authenticated => ?_
        simp only [RefreshTokensUseCase.issueSuccessor, Program.bind_assoc]
        refine safe_buildAuthenticationResult rfl authenticated rfl rfl rfl fun jti result => ?_
        refine safe_ask trivial fun id => ?_
        refine safe_ask ?_ fun _ => ?_
        · exact ⟨rfl, List.mem_cons_self, rfl,
            .inr ⟨rfl, rfl, stored, user, rfl, rfl, rfl, rfl⟩⟩
        exact ⟨rfl, rfl, fun _ => ⟨rfl, rfl⟩⟩

theorem safe_denylistAccessToken {k : Knowledge} {command : LogoutCommand}
    {next : Unit → UseCase Outcome} (step : Safe host k (next ())) :
    Safe host k (LogoutUseCase.denylistAccessToken command >>= next) := by
  unfold LogoutUseCase.denylistAccessToken
  split
  · rename_i jti expiresAt _ _
    split
    · exact step
    · refine ⟨trivial, fun reply => ?_⟩
      cases reply with
      | error failure => exact step
      | ok time =>
        change Safe host k ((Program.recover
          (if -(Int.sub time expiresAt / 1000) ≤ 0 then _ else _) _).bind next)
        split
        · exact step
        · refine ⟨trivial, fun reply => ?_⟩
          cases reply <;> exact step
  · exact step

theorem safe_logout (command : LogoutCommand) :
    Safe host (.start (.logout command)) (body host (.logout command)) := by
  simp only [body, LogoutUseCase.execute, LogoutUseCase.revokeSession, Program.bind_assoc]
  refine safe_ask trivial fun time => ?_
  split
  · exact safe_denylistAccessToken trivial
  rename_i refreshToken hpresented
  split
  · exact safe_denylistAccessToken trivial
  simp only [Program.bind_assoc]
  refine safe_ask ⟨rfl, rfl, rfl, ?_⟩ fun found => ?_
  · simp [Command.presentedHash, hpresented, observe, Knowledge.start]
  cases found with
  | none => exact safe_denylistAccessToken trivial
  | some stored =>
    dsimp only
    split
    · simp only [Program.bind_assoc]
      exact safe_ask ⟨stored, rfl, rfl⟩ fun _ => safe_denylistAccessToken trivial
    · exact safe_denylistAccessToken trivial

theorem safe_logoutAll (command : LogoutCommand) :
    Safe host (.start (.logoutAll command)) (body host (.logoutAll command)) := by
  simp only [body, LogoutUseCase.executeAll, LogoutUseCase.invalidateAccessTokens,
    Program.bind_assoc]
  refine safe_ask trivial fun time => ?_
  refine safe_ask (.inl ⟨command, rfl, rfl⟩) fun _ => ?_
  refine safe_ask ⟨rfl, (fun h => by cases h), (fun _ h => by cases h)⟩ fun found => ?_
  cases found with
  | none => exact safe_denylistAccessToken trivial
  | some user =>
    simp only [Program.bind_assoc]
    refine safe_ask trivial fun time => ?_
    refine safe_ask ⟨user, [(time, .invalidateSessions)], rfl, rfl⟩ fun _ => ?_
    exact safe_denylistAccessToken trivial

theorem safe_changePassword (command : ChangePasswordCommand) :
    Safe host (.start (.changePassword command)) (body host (.changePassword command)) := by
  simp only [body, UpdateUserUseCase.changePassword, Program.bind_assoc]
  refine safe_ask ⟨rfl, (fun h => by cases h), (fun _ h => by cases h; rfl)⟩ fun found => ?_
  cases found with
  | none => trivial
  | some user =>
    dsimp only
    split
    · trivial
    simp only [Program.bind_assoc]
    refine safe_ask trivial fun currentMatches => ?_
    split
    · trivial
    simp only [UpdateUserUseCase.replacePassword]
    split
    · trivial
    simp only [Program.bind_assoc]
    refine safe_ask trivial fun isReuse => ?_
    split
    · trivial
    simp only [UpdateUserUseCase.storePassword, Program.bind_assoc]
    refine safe_ask trivial fun hash => ?_
    refine safe_ask trivial fun time => ?_
    refine safe_ask ⟨user, [(time, .setPasswordHash hash)], rfl, rfl⟩ fun _ => ?_
    refine safe_ask trivial fun revokedAt => ?_
    exact safe_ask (.inr ⟨command, user, rfl, rfl, rfl, rfl⟩) fun _ => trivial

theorem safe_editUser (lookup : UserLookup) (calls : List (Date × UserMethod)) :
    Safe host (.start (.editUser lookup calls)) (body host (.editUser lookup calls)) := by
  simp only [body, editUser, Program.bind_assoc]
  cases lookup with
  | byId id includeDeleted =>
    refine safe_ask ⟨rfl, (fun h => by cases h), (fun _ h => by cases h)⟩ fun found => ?_
    cases found with
    | none => trivial
    | some user =>
      simp only [Program.bind_assoc]
      exact safe_ask ⟨user, calls, rfl, rfl⟩ fun _ => trivial
  | byEmail email includeDeleted =>
    refine safe_ask ⟨rfl, rfl, fun _ h => by cases h⟩ fun found => ?_
    cases found with
    | none => trivial
    | some user =>
      simp only [Program.bind_assoc]
      exact safe_ask ⟨user, calls, rfl, rfl⟩ fun _ => trivial

/-- Every use case follows the discipline. -/
abbrev discipline (host : Host) : Discipline (service host) where
  toMonitor := monitor host
  initial := .start
  accepts := accepts
  conforms
    | .login command => safe_login command
    | .refresh command => safe_refresh command
    | .logout command => safe_logout command
    | .logoutAll command => safe_logoutAll command
    | .changePassword command => safe_changePassword command
    | .deleteExpiredBefore _ => safe_ask trivial fun _ => trivial
    | .sessions _ _ => by
      simp only [body, AuthController.sessions, Program.bind_assoc]
      exact safe_ask trivial fun _ => safe_ask trivial fun _ => trivial
    | .editUser lookup calls => safe_editUser lookup calls

end TenantOS.Auth
