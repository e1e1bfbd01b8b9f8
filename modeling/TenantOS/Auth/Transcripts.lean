import TenantOS.Auth.Revocation
import TenantOS.Interleaving.History

/-! What a client has heard when it saves a user, and when it asks for a revocation: the exact
replies, from the first to the last. -/
namespace TenantOS.Auth

open TenantOS.Domain TenantOS.Infrastructure TenantOS.Interleaving TenantOS.Application

structure Transcript where
  command : Command
  heard : List (Exchange authInterface Failure)

/-- The password was verified, and its hash has aged. -/
structure UpgradesHash (host : Host) (command : LoginCommand)
    (heard : List (Exchange authInterface Failure)) (loaded : User) (old new : String) (time : Date) :
    Prop where
  hash : loaded.passwordHash = some old
  aged : host.needsRehash old = true
  heard : ∃ email, heard = [⟨.users (.findByEmail email false), .ok (some loaded)⟩,
    ⟨.hasher (.verify old command.password), .ok true⟩,
    ⟨.hasher (.hash command.password), .ok new⟩, ⟨.runtime .now, .ok time⟩]

/-- The current password was verified; the new one is acceptable and another one. -/
structure ReplacesPassword (host : Host) (command : ChangePasswordCommand)
    (heard : List (Exchange authInterface Failure)) (loaded : User) (old new : String) (time : Date) :
    Prop where
  hash : loaded.passwordHash = some old
  heard : ∃ password, Password.create host.toLowerCase command.newPassword = .ok password ∧
    heard = [⟨.users (.findById command.userId false), .ok (some loaded)⟩,
      ⟨.hasher (.verify old command.currentPassword), .ok true⟩,
      ⟨.hasher (.verify old password.value), .ok false⟩,
      ⟨.hasher (.hash password.value), .ok new⟩, ⟨.runtime .now, .ok time⟩]

def loadedBy (lookup : UserLookup) (user : User) : Exchange authInterface Failure :=
  match lookup with
  | .byId id includeDeleted => ⟨.users (.findById id includeDeleted), .ok (some user)⟩
  | .byEmail email includeDeleted => ⟨.users (.findByEmail email includeDeleted), .ok (some user)⟩

inductive Saves (host : Host) (k : Transcript) (user : User) : Prop where
  | login {command : LoginCommand} {loaded : User} {old new : String} {time : Date}
      (same : k.command = .login command)
      (upgrades : UpgradesHash host command k.heard loaded old new time)
      (saved : user = loaded.upgradePasswordHash new time)
  | logoutAll {command : LogoutCommand} {loaded : User} {revokedAt time : Date} {count : Nat}
      (same : k.command = .logoutAll command)
      (heard : k.heard = [⟨.runtime .now, .ok revokedAt⟩,
        ⟨.refreshTokens (.revokeAllForUser command.userId .logoutAll revokedAt), .ok count⟩,
        ⟨.users (.findById command.userId false), .ok (some loaded)⟩, ⟨.runtime .now, .ok time⟩])
      (saved : user = loaded.invalidateSessions time)
  | changePassword {command : ChangePasswordCommand} {loaded : User} {old new : String} {time : Date}
      (same : k.command = .changePassword command)
      (replaces : ReplacesPassword host command k.heard loaded old new time)
      (saved : user = loaded.setPasswordHash new time)
  | editUser {lookup : UserLookup} {calls : List (Date × UserMethod)} {loaded : User}
      (same : k.command = .editUser lookup calls) (heard : k.heard = [loadedBy lookup loaded])
      (saved : user = loaded.applyAll calls)

/-- The clock was read, and then the row of the presented token. -/
def shown (host : Host) (raw : String) (time : Date) (stored : RefreshToken) :
    List (Exchange authInterface Failure) :=
  [⟨.runtime .now, .ok time⟩,
    ⟨.refreshTokens (.findByHash (host.sha256Hex raw)), .ok (some stored)⟩]

inductive Grounds (host : Host) (k : Transcript) : AuthCall → Prop where
  | rotated {command : RefreshTokensCommand} {stored : RefreshToken} {time : Date}
      (same : k.command = .refresh command)
      (heard : k.heard = shown host command.refreshToken time stored) :
      Grounds host k (.refreshTokens (.consume stored.id .rotated time))
  | reuseShown {command : RefreshTokensCommand} {stored : RefreshToken} {time : Date}
      (same : k.command = .refresh command)
      (heard : k.heard = shown host command.refreshToken time stored) (spent : stored.isRevoked) :
      Grounds host k (.refreshTokens (.revokeFamily stored.familyId .reuseDetected time))
  | reuseLost {command : RefreshTokensCommand} {stored : RefreshToken} {time : Date}
      (same : k.command = .refresh command)
      (heard : k.heard = shown host command.refreshToken time stored ++
        [⟨.refreshTokens (.consume stored.id .rotated time), .ok false⟩]) :
      Grounds host k (.refreshTokens (.revokeFamily stored.familyId .reuseDetected time))
  | logout {command : LogoutCommand} {raw : String} {stored : RefreshToken} {time : Date}
      (same : k.command = .logout command) (carried : command.refreshToken = some raw)
      (heard : k.heard = shown host raw time stored) (own : stored.userId = command.userId) :
      Grounds host k (.refreshTokens (.revokeFamily stored.familyId .logout time))
  | logoutAll {command : LogoutCommand} {time : Date} (same : k.command = .logoutAll command)
      (heard : k.heard = [⟨.runtime .now, .ok time⟩]) :
      Grounds host k (.refreshTokens (.revokeAllForUser command.userId .logoutAll time))
  | passwordChanged {command : ChangePasswordCommand} {loaded saved : User} {old new : String}
      {savedAt time : Date} {before : List (Exchange authInterface Failure)}
      (same : k.command = .changePassword command)
      (replaces : ReplacesPassword host command before loaded old new savedAt)
      (heard : k.heard = before ++
        [⟨.users (.save (loaded.setPasswordHash new savedAt)), .ok saved⟩,
          ⟨.runtime .now, .ok time⟩]) :
      Grounds host k (.refreshTokens (.revokeAllForUser loaded.id .passwordChanged time))

/-- The replies a call of the use cases tells of, if it is one that writes to a user or revokes. -/
def Told (host : Host) (k : Transcript) : AuthCall → Prop
  | .users (.save user) => Saves host k user
  | .refreshTokens (.consume tokenId reason time) =>
      Grounds host k (.refreshTokens (.consume tokenId reason time))
  | .refreshTokens (.revokeFamily familyId reason time) =>
      Grounds host k (.refreshTokens (.revokeFamily familyId reason time))
  | .refreshTokens (.revokeAllForUser userId reason time) =>
      Grounds host k (.refreshTokens (.revokeAllForUser userId reason time))
  | _ => True

abbrev scribe (host : Host) : Monitor authInterface Failure where
  State := Transcript
  observe k c reply := { k with heard := k.heard ++ [⟨c, reply⟩] }
  permits := Told host

variable {host : Host}

abbrev Scribed (host : Host) (k : Transcript) (program : UseCase Outcome) : Prop :=
  (scribe host).Conforms (fun _ _ => True) k program

theorem scribed_ask {k : Transcript} {c : AuthCall} {next : c.Reply → UseCase Outcome}
    (permitted : (scribe host).permits k c)
    (step : ∀ value, Scribed host { k with heard := k.heard ++ [⟨c, .ok value⟩] } (next value)) :
    Scribed host k (ask c >>= next) :=
  Monitor.conforms_perform_bind.mpr ⟨permitted, step, fun _ => trivial⟩

theorem scribed_check {k : Transcript} {result : Except DomainError Unit}
    {next : Unit → UseCase Outcome} (step : Scribed host k (next ())) :
    Scribed host k (check result >>= next) := by
  cases result with
  | error error => trivial
  | ok value => exact step

theorem scribed_buildAuthenticationResult {user : User} {k : Transcript}
    {next : AuthenticationResult → UseCase Outcome}
    (step : ∀ result k, Scribed host k (next result)) :
    Scribed host k (buildAuthenticationResult host user >>= next) := by
  simp only [buildAuthenticationResult, issueAccessToken, Program.bind_assoc]
  refine scribed_ask trivial fun _ => scribed_ask trivial fun _ => ?_
  refine scribed_ask trivial fun _ => scribed_ask trivial fun _ => ?_
  exact step _ _

theorem scribed_openSession {user : User} {fingerprint : ClientFingerprint} {k : Transcript} :
    Scribed host k (LoginUseCase.openSession host user fingerprint >>= fun result =>
      pure (.authenticated result)) := by
  simp only [LoginUseCase.openSession, Program.bind_assoc]
  refine scribed_buildAuthenticationResult fun _ _ => ?_
  refine scribed_ask trivial fun _ => scribed_ask trivial fun _ => scribed_ask trivial fun _ => ?_
  exact scribed_ask trivial fun _ => scribed_ask trivial fun _ => scribed_ask trivial fun _ => trivial

theorem scribed_login (command : LoginCommand) :
    Scribed host ⟨.login command, []⟩ (body host (.login command)) := by
  simp only [body, LoginUseCase.execute]
  split
  · trivial
  rename_i email _
  rw [Program.bind_assoc]
  refine scribed_ask trivial fun found => ?_
  cases found with
  | none =>
    simp only [LoginUseCase.rejectUnknown, Program.bind_assoc]
    exact scribed_ask trivial fun _ => trivial
  | some loaded =>
    dsimp only
    split
    · simp only [LoginUseCase.rejectUnknown, Program.bind_assoc]
      exact scribed_ask trivial fun _ => trivial
    rename_i old hash
    rw [Program.bind_assoc]
    refine scribed_ask trivial fun (passwordMatches : Bool) => ?_
    cases passwordMatches with
    | false => trivial
    | true =>
      simp only [Bool.not_true, Bool.false_eq_true, if_false, Program.bind_assoc]
      refine scribed_check ?_
      unfold LoginUseCase.upgradeHash
      split
      · rename_i aged
        simp only [Program.bind_assoc]
        refine scribed_ask trivial fun new => scribed_ask trivial fun time => ?_
        exact scribed_ask (Saves.login rfl ⟨hash, aged, email, rfl⟩ rfl) fun _ => scribed_openSession
      · exact scribed_openSession

theorem scribed_detectedReuse {k : Transcript} {familyId : Uuid} {time : Date}
    (grounds : Grounds host k (.refreshTokens (.revokeFamily familyId .reuseDetected time))) :
    Scribed host k (RefreshTokensUseCase.detectedReuse familyId time >>= fun result =>
      pure (.authenticated result)) := by
  simp only [RefreshTokensUseCase.detectedReuse, Program.bind_assoc]
  exact scribed_ask grounds fun _ => trivial

theorem scribed_refresh (command : RefreshTokensCommand) :
    Scribed host ⟨.refresh command, []⟩ (body host (.refresh command)) := by
  simp only [body, RefreshTokensUseCase.execute, Program.bind_assoc]
  refine scribed_ask trivial fun time => scribed_ask trivial fun found => ?_
  cases found with
  | none => trivial
  | some stored =>
    dsimp only
    split
    · rename_i spent
      exact scribed_detectedReuse (.reuseShown rfl rfl spent)
    split
    · trivial
    simp only [Program.bind_assoc]
    refine scribed_ask (Grounds.rotated rfl rfl) fun (won : Bool) => ?_
    cases won with
    | false => exact scribed_detectedReuse (.reuseLost rfl rfl)
    | true =>
      simp only [Bool.not_true, Bool.false_eq_true, if_false, Program.bind_assoc]
      refine scribed_ask trivial fun found => ?_
      cases found with
      | none => trivial
      | some user =>
        simp only [Program.bind_assoc]
        refine scribed_check ?_
        simp only [RefreshTokensUseCase.issueSuccessor, Program.bind_assoc]
        refine scribed_buildAuthenticationResult fun _ _ => ?_
        exact scribed_ask trivial fun _ => scribed_ask trivial fun _ => trivial

theorem scribed_denylistAccessToken {k : Transcript} {command : LogoutCommand} :
    Scribed host k (LogoutUseCase.denylistAccessToken command >>= fun _ => pure .finished) := by
  unfold LogoutUseCase.denylistAccessToken
  split
  · split
    · trivial
    · refine ⟨trivial, fun reply => ?_⟩
      cases reply with
      | error failure => trivial
      | ok time =>
        change Scribed host _ ((Program.recover
          (if -(Int.sub time _ / 1000) ≤ 0 then _ else _) _).bind _)
        split
        · trivial
        · refine ⟨trivial, fun reply => ?_⟩
          cases reply <;> trivial
  · trivial

theorem scribed_logout (command : LogoutCommand) :
    Scribed host ⟨.logout command, []⟩ (body host (.logout command)) := by
  simp only [body, LogoutUseCase.execute, LogoutUseCase.revokeSession, Program.bind_assoc]
  refine scribed_ask trivial fun time => ?_
  split
  · exact scribed_denylistAccessToken
  rename_i carried
  split
  · exact scribed_denylistAccessToken
  simp only [Program.bind_assoc]
  refine scribed_ask trivial fun found => ?_
  cases found with
  | none => exact scribed_denylistAccessToken
  | some stored =>
    dsimp only
    split
    · rename_i own
      simp only [Program.bind_assoc]
      exact scribed_ask (Grounds.logout rfl carried rfl own) fun _ => scribed_denylistAccessToken
    · exact scribed_denylistAccessToken

theorem scribed_logoutAll (command : LogoutCommand) :
    Scribed host ⟨.logoutAll command, []⟩ (body host (.logoutAll command)) := by
  simp only [body, LogoutUseCase.executeAll, LogoutUseCase.invalidateAccessTokens,
    Program.bind_assoc]
  refine scribed_ask trivial fun revokedAt => ?_
  refine scribed_ask (Grounds.logoutAll rfl rfl) fun count => scribed_ask trivial fun found => ?_
  cases found with
  | none => exact scribed_denylistAccessToken
  | some loaded =>
    simp only [Program.bind_assoc]
    refine scribed_ask trivial fun time => ?_
    exact scribed_ask (Saves.logoutAll rfl rfl rfl) fun _ => scribed_denylistAccessToken

theorem scribed_changePassword (command : ChangePasswordCommand) :
    Scribed host ⟨.changePassword command, []⟩ (body host (.changePassword command)) := by
  simp only [body, UpdateUserUseCase.changePassword, Program.bind_assoc]
  refine scribed_ask trivial fun found => ?_
  cases found with
  | none => trivial
  | some loaded =>
    dsimp only
    split
    · trivial
    rename_i old hash
    simp only [Program.bind_assoc]
    refine scribed_ask trivial fun (currentMatches : Bool) => ?_
    cases currentMatches with
    | false => trivial
    | true =>
      simp only [Bool.not_true, Bool.false_eq_true, if_false, UpdateUserUseCase.replacePassword]
      split
      · trivial
      rename_i password policy
      simp only [Program.bind_assoc]
      refine scribed_ask trivial fun (isReuse : Bool) => ?_
      cases isReuse with
      | true => trivial
      | false =>
        simp only [Bool.false_eq_true, if_false, UpdateUserUseCase.storePassword,
          Program.bind_assoc]
        refine scribed_ask trivial fun new => scribed_ask trivial fun savedAt => ?_
        have replaces : ReplacesPassword host command
            [⟨.users (.findById command.userId false), .ok (some loaded)⟩,
              ⟨.hasher (.verify old command.currentPassword), .ok true⟩,
              ⟨.hasher (.verify old password.value), .ok false⟩,
              ⟨.hasher (.hash password.value), .ok new⟩, ⟨.runtime .now, .ok savedAt⟩]
            loaded old new savedAt := ⟨hash, password, policy, rfl⟩
        refine scribed_ask (Saves.changePassword rfl replaces rfl) fun saved => ?_
        refine scribed_ask trivial fun time => ?_
        exact scribed_ask (Grounds.passwordChanged rfl replaces rfl) fun _ => trivial

theorem scribed_editUser (lookup : UserLookup) (calls : List (Date × UserMethod)) :
    Scribed host ⟨.editUser lookup calls, []⟩ (body host (.editUser lookup calls)) := by
  simp only [body, editUser, Program.bind_assoc]
  cases lookup with
  | byId id includeDeleted =>
    refine scribed_ask trivial fun found => ?_
    cases found with
    | none => trivial
    | some loaded =>
      simp only [Program.bind_assoc]
      exact scribed_ask (Saves.editUser rfl rfl rfl) fun _ => trivial
  | byEmail email includeDeleted =>
    refine scribed_ask trivial fun found => ?_
    cases found with
    | none => trivial
    | some loaded =>
      simp only [Program.bind_assoc]
      exact scribed_ask (Saves.editUser rfl rfl rfl) fun _ => trivial

/-- Every client, with all it has heard. -/
abbrev transcripts (host : Host) : Discipline (service host) where
  toMonitor := scribe host
  initial command := ⟨command, []⟩
  accepts _ _ := True
  conforms
    | .login command => scribed_login command
    | .refresh command => scribed_refresh command
    | .logout command => scribed_logout command
    | .logoutAll command => scribed_logoutAll command
    | .changePassword command => scribed_changePassword command
    | .deleteExpiredBefore _ => scribed_ask trivial fun _ => trivial
    | .sessions _ _ => by
      simp only [body, AuthController.sessions, Program.bind_assoc]
      exact scribed_ask trivial fun _ => scribed_ask trivial fun _ => trivial
    | .editUser lookup calls => scribed_editUser lookup calls

theorem seen_transcripts (t : Thread (service host)) :
    (transcripts host).seen t = ⟨t.command, t.heard⟩ := by
  have fold (heard : List (Exchange authInterface Failure)) (k : Transcript) :
      heard.foldl (fun k x => (scribe host).observe k x.call x.reply) k =
        ⟨k.command, k.heard ++ heard⟩ := by
    induction heard generalizing k with
    | nil => simp
    | cons x heard ih =>
      rw [List.foldl_cons, ih]
      simp
  exact (fold t.heard _).trans (by simp)

end TenantOS.Auth
