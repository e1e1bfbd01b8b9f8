import TenantOS.Auth.Clients

/-! A failed login says the same thing whatever the users table holds, and does
the work of exactly one password verification before it says it. -/
namespace TenantOS.Auth

open TenantOS.Domain TenantOS.Infrastructure TenantOS.Interleaving TenantOS.Application
open PrismaUserRepository (KnownStatuses findByEmail_answers)

variable {host : Host}

/-- The call does the work of one password verification. -/
def isVerification : AuthCall → Bool
  | .hasher (.verify ..) => true
  | .hasher .simulateVerification => true
  | _ => false

/-- The call writes to `users` or to `refresh_tokens`. -/
def isWrite : AuthCall → Bool
  | .users (.save _) | .users (.touchLastLogin ..) => true
  | .refreshTokens (.findByHash _) | .refreshTokens (.findActiveByUser ..) => false
  | .refreshTokens _ => true
  | _ => false

/-- The password verifies against no hash stored for the normalised address: there
is no visible row, or it has no hash, or its hash does not match. -/
def Unverified (host : Host) (command : LoginCommand) (users : List UserRow) : Prop :=
  ∀ email, Email.create host.toLowerCase command.email = .ok email →
    ∀ row ∈ users, row.email = email.value → row.deletedAt = none →
      ∀ hash, row.passwordHash = some hash → host.verify hash command.password = false

/-- What the refusal of a login says. It is read off the command alone. -/
def refusal (host : Host) (command : LoginCommand) : DomainError :=
  match Email.create host.toLowerCase command.email with
  | .error error => error
  | .ok _ => invalidCredentialsError

/-- One run of a login that is refused. -/
structure Refused (host : Host) (command : LoginCommand) (inputs : Nat → Input) (store : Store) :
    Prop where
  answer : (LoginUseCase.execute host command).eval (answer host) inputs store =
    some (.error (.domain (refusal host command)), store)
  verifies : ∀ email, Email.create host.toLowerCase command.email = .ok email →
    ((LoginUseCase.execute host command).trace (Application.answer host) inputs store).countP
      isVerification = 1
  reads : ∀ c ∈ (LoginUseCase.execute host command).trace (Application.answer host) inputs store,
    isWrite c = false

section

variable {command : LoginCommand} {inputs : Nat → Input} {store : Store} {email : Email}

theorem refused_of_unparsed {error : DomainError}
    (parsed : Email.create host.toLowerCase command.email = .error error) :
    Refused host command inputs store := by
  have program : LoginUseCase.execute host command = throw (.domain error) := by
    simp only [LoginUseCase.execute, parsed]
  have refused : refusal host command = error := by simp only [refusal, parsed]
  refine ⟨?_, fun email h => ?_, ?_⟩
  · rw [program, refused]
    rfl
  · cases parsed.symm.trans h
  · rw [program]
    exact List.forall_mem_nil _

theorem refused_of_verification {c : AuthCall} (verification : isVerification c)
    (parsed : Email.create host.toLowerCase command.email = .ok email)
    (run : (LoginUseCase.execute host command).eval (answer host) inputs store =
      some (.error (.domain invalidCredentialsError), store))
    (calls : (LoginUseCase.execute host command).trace (answer host) inputs store =
      [.users (.findByEmail email false), c]) : Refused host command inputs store := by
  have harmless : isWrite c = false := by
    unfold isVerification at verification
    split at verification
    · rfl
    · rfl
    · contradiction
  refine ⟨?_, fun _ _ => ?_, ?_⟩
  · simp only [refusal, parsed]
    exact run
  · rw [calls, List.countP_cons_of_neg Bool.false_ne_true, List.countP_singleton, if_pos verification]
  · rw [calls]
    exact List.forall_mem_cons.mpr ⟨rfl, List.forall_mem_singleton.mpr harmless⟩

theorem lookup_answered {found : Option User}
    (lookup : PrismaUserRepository.findByEmail email false store.users = .ok found) :
    answer host (inputs 0) (.users (.findByEmail email false)) store = some (.ok found, store) :=
  congrArg (fun reply => some (reply, store)) lookup

/-- Nobody visible: the verification is simulated. -/
theorem refused_of_nobody (parsed : Email.create host.toLowerCase command.email = .ok email)
    (lookup : PrismaUserRepository.findByEmail email false store.users = .ok none) :
    Refused host command inputs store := by
  refine refused_of_verification (c := .hasher .simulateVerification) rfl parsed ?_ ?_
  · simp only [LoginUseCase.execute, parsed]
    refine (Program.eval_answered (lookup_answered lookup) _).trans ?_
    rfl
  · simp only [LoginUseCase.execute, parsed]
    refine (Program.trace_answered (lookup_answered lookup) _).trans ?_
    rfl

/-- A user without a hash: the same. -/
theorem refused_of_invited {user : User}
    (parsed : Email.create host.toLowerCase command.email = .ok email)
    (lookup : PrismaUserRepository.findByEmail email false store.users = .ok (some user))
    (invited : user.passwordHash = none) : Refused host command inputs store := by
  refine refused_of_verification (c := .hasher .simulateVerification) rfl parsed ?_ ?_
  · simp only [LoginUseCase.execute, parsed]
    refine (Program.eval_answered (lookup_answered lookup) _).trans ?_
    simp only [invited]
    rfl
  · simp only [LoginUseCase.execute, parsed]
    refine (Program.trace_answered (lookup_answered lookup) _).trans ?_
    simp only [invited]
    rfl

/-- A hash that does not match, whatever the status. -/
theorem refused_of_mismatch {user : User} {hash : String}
    (parsed : Email.create host.toLowerCase command.email = .ok email)
    (lookup : PrismaUserRepository.findByEmail email false store.users = .ok (some user))
    (stored : user.passwordHash = some hash) (mismatch : host.verify hash command.password = false) :
    Refused host command inputs store := by
  have verified (input : Input) : answer host input (.hasher (.verify hash command.password)) store =
      some (.ok false, store) := by
    rw [← mismatch]
    rfl
  refine refused_of_verification (c := .hasher (.verify hash command.password)) rfl parsed ?_ ?_
  · simp only [LoginUseCase.execute, parsed]
    refine (Program.eval_answered (lookup_answered lookup) _).trans ?_
    simp only [stored]
    refine (Program.eval_answered (verified _) _).trans ?_
    rfl
  · simp only [LoginUseCase.execute, parsed]
    refine (Program.trace_answered (lookup_answered lookup) _).trans ?_
    simp only [stored]
    refine congrArg _ ((Program.trace_answered (verified _) _).trans ?_)
    rfl

theorem login_refused (known : KnownStatuses store.users)
    (unverified : Unverified host command store.users) : Refused host command inputs store := by
  cases parsed : Email.create host.toLowerCase command.email with
  | error error => exact refused_of_unparsed parsed
  | ok email =>
    rcases findByEmail_answers known email with
      nobody | ⟨row, hrow, status, address, visible, lookup⟩
    · exact refused_of_nobody parsed nobody
    · cases stored : row.passwordHash with
      | none => exact refused_of_invited parsed lookup stored
      | some hash =>
        exact refused_of_mismatch parsed lookup stored
          (unverified email parsed row hrow address visible hash stored)

end

/-- Two users tables that do not verify the password are not told apart by a login:
it fails with the same error after one verification, and leaves every table as it was. -/
theorem login_failures_agree (command : LoginCommand) (inputs inputs' : Nat → Input)
    (store store' : Store) (known : KnownStatuses store.users)
    (known' : KnownStatuses store'.users) (unverified : Unverified host command store.users)
    (unverified' : Unverified host command store'.users) :
    ∃ error : DomainError,
      (LoginUseCase.execute host command).eval (answer host) inputs store =
        some (.error (.domain error), store) ∧
      (LoginUseCase.execute host command).eval (answer host) inputs' store' =
        some (.error (.domain error), store') ∧
      ((Email.create host.toLowerCase command.email).isOk →
        ((LoginUseCase.execute host command).trace (answer host) inputs store).countP
            isVerification = 1 ∧
          ((LoginUseCase.execute host command).trace (answer host) inputs' store').countP
            isVerification = 1) ∧
      (∀ c ∈ (LoginUseCase.execute host command).trace (answer host) inputs store,
        isWrite c = false) ∧
      ∀ c ∈ (LoginUseCase.execute host command).trace (answer host) inputs' store',
        isWrite c = false := by
  have refused : Refused host command inputs store := login_refused known unverified
  have refused' : Refused host command inputs' store' := login_refused known' unverified'
  refine ⟨refusal host command, refused.answer, refused'.answer, fun parses => ?_,
    refused.reads, refused'.reads⟩
  cases parsed : Email.create host.toLowerCase command.email with
  | error error =>
    rw [parsed] at parses
    contradiction
  | ok email => exact ⟨refused.verifies email parsed, refused'.verifies email parsed⟩

/-- No account, against a suspended one with another password. -/
theorem login_failures_agree_suspended :
    ∃ error : DomainError,
      (LoginUseCase.execute sampleHost ⟨"ann@example.com", "guess", ⟨none, none⟩⟩).eval
          (answer sampleHost) (fun _ => ⟨0, ""⟩) { sampleWorld.store with users := [] } =
        some (.error (.domain error), { sampleWorld.store with users := [] }) ∧
      (LoginUseCase.execute sampleHost ⟨"ann@example.com", "guess", ⟨none, none⟩⟩).eval
          (answer sampleHost) (fun _ => ⟨0, ""⟩)
          { sampleWorld.store with users := [{ sampleUser with status := "SUSPENDED" }] } =
        some (.error (.domain error),
          { sampleWorld.store with users := [{ sampleUser with status := "SUSPENDED" }] }) := by
  obtain ⟨error, first, second, -⟩ := @login_failures_agree sampleHost
    ⟨"ann@example.com", "guess", ⟨none, none⟩⟩ (fun _ => ⟨0, ""⟩) (fun _ => ⟨0, ""⟩)
    { sampleWorld.store with users := [] }
    { sampleWorld.store with users := [{ sampleUser with status := "SUSPENDED" }] }
    (List.forall_mem_nil _) (List.forall_mem_singleton.mpr ⟨.suspended, rfl⟩)
    (fun _ _ => List.forall_mem_nil _)
    (fun _ _ => List.forall_mem_singleton.mpr fun _ _ _ same => by cases same; decide)
  exact ⟨error, first, second⟩

end TenantOS.Auth
