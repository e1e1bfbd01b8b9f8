import TenantOS.Auth.Clients
import TenantOS.Interleaving.History

/-! A logout whose calls fail. Only the denylist is guarded: a failure of one of the
tables is thrown, and the access token is not denied. -/
namespace TenantOS.Auth

open TenantOS.Domain TenantOS.Infrastructure TenantOS.Interleaving TenantOS.Application

variable {host : Host}

/-- An empty jti is none. -/
structure Carries (command : LogoutCommand) (jti : Uuid) (expiresAt : Date) : Prop where
  named : command.accessTokenJti = some jti
  drawn : jti ≠ ""
  expires : command.accessTokenExpiresAt = some expiresAt

/-- The clients that sign out, of one session or of all, with the access token they carry. -/
inductive Command.SignsOut (jti : Uuid) (expiresAt : Date) : Command → Prop where
  | logout {command : LogoutCommand} (carries : Carries command jti expiresAt) :
      SignsOut jti expiresAt (.logout command)
  | logoutAll {command : LogoutCommand} (carries : Carries command jti expiresAt) :
      SignsOut jti expiresAt (.logoutAll command)

/-- The ports that lead to the database. -/
def OfTable : AuthCall → Prop
  | .refreshTokens _ | .users _ => True
  | .hasher _ | .redis _ | .runtime _ => False

def ReadsClock (c : AuthCall) : Prop :=
  c = .runtime .now

/-- None of these calls failed. -/
def Answered (calls : AuthCall → Prop) (heard : List (Exchange authInterface Failure)) : Prop :=
  ∀ x ∈ heard, calls x.call → ∃ value, x.reply = .ok value

/-- The last the client did was to have the access token denied: it found the token
expired, or issued the `SET`, whatever came of that. -/
inductive Denies (jti : Uuid) (expiresAt : Date) :
    List (Exchange authInterface Failure) → Prop where
  | expired {heard : List (Exchange authInterface Failure)} {time : Date}
      (late : -((time - expiresAt) / 1000) ≤ 0) :
      Denies jti expiresAt (heard ++ [⟨.runtime .now, .ok time⟩])
  | set {heard : List (Exchange authInterface Failure)} {time : Date} {reply : Except Failure Unit} :
      Denies jti expiresAt (heard ++ [⟨.runtime .now, .ok time⟩] ++
        [⟨.redis (.set jti (-((time - expiresAt) / 1000))), reply⟩])

/-- The logout resolved, and the access token's denylisting was attempted. -/
def BestEffort (jti : Uuid) (expiresAt : Date) (heard : List (Exchange authInterface Failure))
    (result : Except Failure Outcome) : Prop :=
  result = .ok .finished ∧ Denies jti expiresAt heard

section

variable {calls : AuthCall → Prop} {heard : List (Exchange authInterface Failure)} {c : AuthCall}

theorem answered_nil : Answered calls [] := by
  simp [Answered]

theorem Answered.snoc (h : Answered calls heard) (value : c.Reply) :
    Answered calls (heard ++ [⟨c, .ok value⟩]) := by
  intro x mem
  rcases List.mem_append.mp mem with old | new
  · exact h x old
  · rw [List.mem_singleton.mp new]
    exact fun _ => ⟨value, rfl⟩

theorem Answered.snoc_of_not (h : Answered calls heard) (other : ¬ calls c)
    (reply : Except Failure c.Reply) : Answered calls (heard ++ [⟨c, reply⟩]) := by
  intro x mem
  rcases List.mem_append.mp mem with old | new
  · exact h x old
  · rw [List.mem_singleton.mp new]
    exact fun called => absurd called other

theorem not_answered {failure : Failure} (called : calls c) :
    ¬ Answered calls (heard ++ [⟨c, .error failure⟩]) := by
  intro h
  obtain ⟨value, same⟩ := h ⟨c, .error failure⟩ (by simp) called
  cases same

end

/-! What a logout asks for, and what it has heard when it ends. -/

/-- The call can be answered from every store. -/
def Answerable (host : Host) (c : AuthCall) : Prop :=
  ∀ input store, ∃ settled, answer host input c store = some settled

/-- The tables answered and the logout did its best, or one of them failed and the logout
threw. -/
def LogoutEnded (jti : Uuid) (expiresAt : Date) (heard : List (Exchange authInterface Failure))
    (result : Except Failure Outcome) : Prop :=
  Answered ReadsClock heard →
    (Answered OfTable heard ∧ BestEffort jti expiresAt heard result) ∨
    (¬ Answered OfTable heard ∧ ∃ failure, result = .error failure)

structure Hearing where
  command : Command
  heard : List (Exchange authInterface Failure)

/-- Whoever signs out asks only for what can be had. -/
abbrev signOutMonitor (host : Host) : Monitor authInterface Failure where
  State := Hearing
  observe := fun k c reply => { k with heard := k.heard ++ [⟨c, reply⟩] }
  permits := fun k c =>
    (∃ jti expiresAt, k.command.SignsOut jti expiresAt) → Answerable host c

abbrev SignsOff {α : Type} (host : Host) (k : Hearing) (program : UseCase α)
    (accepts : List (Exchange authInterface Failure) → Except Failure α → Prop) : Prop :=
  (signOutMonitor host).Conforms (fun k => accepts k.heard) k program

theorem answerable_table {c : AuthCall} (table : OfTable c) : Answerable host c := by
  intro input store
  cases c with
  | refreshTokens c => exact ⟨_, rfl⟩
  | users c => exact ⟨_, rfl⟩
  | hasher c | redis c | runtime c => exact table.elim

section

variable {k : Hearing} {command : LogoutCommand} {jti : Uuid} {expiresAt : Date}

theorem signsOff_table {c : AuthCall} {next : c.Reply → UseCase Outcome} (table : OfTable c)
    (tables : Answered OfTable k.heard)
    (step : ∀ value, Answered OfTable (k.heard ++ [⟨c, .ok value⟩]) →
      SignsOff host ((signOutMonitor host).observe k c (.ok value)) (next value)
        (LogoutEnded jti expiresAt)) :
    SignsOff host k (ask c >>= next) (LogoutEnded jti expiresAt) := by
  apply Monitor.conforms_perform_bind.mpr
  refine ⟨fun _ => answerable_table table, ?_, ?_⟩
  · intro value
    exact step value (tables.snoc value)
  · intro failure _
    exact .inr ⟨not_answered table, failure, rfl⟩

theorem signsOff_now {next : Date → UseCase Outcome} (tables : Answered OfTable k.heard)
    (step : ∀ time, Answered OfTable (k.heard ++ [⟨.runtime .now, .ok time⟩]) →
      SignsOff host ((signOutMonitor host).observe k (.runtime .now) (.ok time)) (next time)
        (LogoutEnded jti expiresAt)) :
    SignsOff host k (runtime.now >>= next) (LogoutEnded jti expiresAt) := by
  apply Monitor.conforms_perform_bind.mpr
  refine ⟨fun _ _ _ => ⟨_, rfl⟩, ?_, ?_⟩
  · intro time
    exact step time (tables.snoc (c := .runtime .now) time)
  · intro failure clock
    exact absurd clock (not_answered rfl)

theorem signsOff_denylistAccessToken (carries : Carries command jti expiresAt)
    (tables : Answered OfTable k.heard) :
    SignsOff host k (LogoutUseCase.denylistAccessToken command >>= fun _ => pure .finished)
      (LogoutEnded jti expiresAt) := by
  simp only [LogoutUseCase.denylistAccessToken, carries.named, carries.expires,
    if_neg carries.drawn]
  apply Monitor.Conforms.bind
  apply Monitor.Conforms.recover
  unfold TokenDenylistService.add
  apply Monitor.conforms_perform_bind.mpr
  refine ⟨fun _ _ _ => ⟨_, rfl⟩, ?_, ?_⟩
  · intro time
    have read := tables.snoc (c := .runtime .now) time
    dsimp only
    split
    · rename_i late
      exact fun _ => .inl ⟨read, rfl, .expired late⟩
    · -- whatever the `SET` is answered, the handlers resolve
      apply Monitor.Conforms.recover
      refine ⟨fun _ _ _ => ⟨_, rfl⟩, fun reply => ?_⟩
      cases reply with
      | ok stored => exact fun _ => .inl ⟨read.snoc (c := .redis (.set _ _)) stored, rfl, .set⟩
      | error failure => exact fun _ => .inl ⟨read.snoc_of_not id _, rfl, .set⟩
  · intro failure clock
    exact absurd clock (not_answered rfl)

theorem signsOff_logout (carries : Carries command jti expiresAt) (start : k.heard = []) :
    SignsOff host k (body host (.logout command)) (LogoutEnded jti expiresAt) := by
  simp only [body, LogoutUseCase.execute, LogoutUseCase.revokeSession, Program.bind_assoc]
  refine signsOff_now (start ▸ answered_nil) fun time tables => ?_
  split
  · exact signsOff_denylistAccessToken carries tables
  split
  · exact signsOff_denylistAccessToken carries tables
  simp only [Program.bind_assoc]
  refine signsOff_table trivial tables fun found tables => ?_
  cases found with
  | none => exact signsOff_denylistAccessToken carries tables
  | some stored =>
    dsimp only
    split
    · simp only [Program.bind_assoc]
      exact signsOff_table trivial tables fun _ tables =>
        signsOff_denylistAccessToken carries tables
    · exact signsOff_denylistAccessToken carries tables

theorem signsOff_logoutAll (carries : Carries command jti expiresAt) (start : k.heard = []) :
    SignsOff host k (body host (.logoutAll command)) (LogoutEnded jti expiresAt) := by
  simp only [body, LogoutUseCase.executeAll, LogoutUseCase.invalidateAccessTokens,
    Program.bind_assoc]
  refine signsOff_now (start ▸ answered_nil) fun time tables => ?_
  refine signsOff_table trivial tables fun revoked tables => ?_
  refine signsOff_table trivial tables fun found tables => ?_
  cases found with
  | none => exact signsOff_denylistAccessToken carries tables
  | some user =>
    simp only [Program.bind_assoc]
    refine signsOff_now tables fun time tables => ?_
    exact signsOff_table trivial tables fun _ tables =>
      signsOff_denylistAccessToken carries tables

end

theorem Command.SignsOut.signsOff {command : Command} {jti : Uuid} {expiresAt : Date}
    (h : command.SignsOut jti expiresAt) :
    SignsOff host ⟨command, []⟩ (body host command) (LogoutEnded jti expiresAt) := by
  cases h with
  | logout carries => exact signsOff_logout carries rfl
  | logoutAll carries => exact signsOff_logoutAll carries rfl

theorem Command.SignsOut.token_unique {command : Command} {jti jti' : Uuid}
    {expiresAt expiresAt' : Date} (h : command.SignsOut jti expiresAt)
    (h' : command.SignsOut jti' expiresAt') : jti = jti' ∧ expiresAt = expiresAt' := by
  cases h with
  | logout carries | logoutAll carries =>
    cases h' with
    | _ carries' =>
      exact ⟨Option.some.inj (carries.named.symm.trans carries'.named),
        Option.some.inj (carries.expires.symm.trans carries'.expires)⟩

def signOut (host : Host) : Discipline (service host) where
  toMonitor := signOutMonitor host
  initial := fun command => ⟨command, []⟩
  accepts := fun k result => ∀ jti expiresAt, k.command.SignsOut jti expiresAt →
    LogoutEnded jti expiresAt k.heard result
  conforms := by
    intro command
    by_cases signsOut : ∃ jti expiresAt, command.SignsOut jti expiresAt
    · obtain ⟨jti, expiresAt, signsOut⟩ := signsOut
      refine (signsOut.signsOff.invariant (Q := fun k : Hearing => k.command = command) rfl ?_).mono ?_
      · exact fun _ _ _ same => same
      · rintro k result ⟨rfl, ended⟩ jti' expiresAt' signsOut'
        obtain ⟨rfl, rfl⟩ := signsOut.token_unique signsOut'
        exact ended
    · refine Monitor.conforms_of_forall (Q := fun k : Hearing => k.command = command) rfl ?_ ?_ ?_
      · exact fun _ _ _ same => same
      · rintro k c rfl
        exact fun other => absurd other signsOut
      · rintro k result rfl jti expiresAt other
        exact absurd ⟨jti, expiresAt, other⟩ signsOut

theorem signOut_command (t : Thread (service host)) :
    ((signOut host).seen t).command = t.command :=
  (signOut host).seen_keeps (·.command) (fun _ _ _ => rfl) t

theorem signOut_heard (t : Thread (service host)) : ((signOut host).seen t).heard = t.heard := by
  have fold (heard : List (Exchange authInterface Failure)) (k : Hearing) :
      (heard.foldl (fun k x => (signOut host).observe k x.call x.reply) k).heard =
        k.heard ++ heard := by
    induction heard generalizing k with
    | nil => exact (List.append_nil _).symm
    | cons x heard ih => exact (ih _).trans (List.append_assoc ..)
  exact fold t.heard _

/-- Whatever the fates of its calls, a logout ends, and it denies its access token and
resolves exactly when no call to a table failed. -/
theorem logout_best_effort {w₀ w : World (service host)} {es : List (Event (service host))}
    (idle : w₀.threads = []) (hrun : w₀.run es = some w) {i : Nat} {t : Thread (service host)}
    (thread : w.threads[i]? = some t) {jti : Uuid} {expiresAt : Date}
    (signsOut : t.command.SignsOut jti expiresAt) :
    (∀ fates : Nat → Fate (service host), ∃ count w' t' result,
      w.run ((List.range count).map fun n => .advance i (fates n)) = some w' ∧
      w'.threads[i]? = some t' ∧ t'.command = t.command ∧ t'.Returned result) ∧
    ∀ result, t.Returned result → Answered ReadsClock t.heard →
      (BestEffort jti expiresAt t.heard result ↔ Answered OfTable t.heard) := by
  have hholds := (signOut host).holds_run ((signOut host).holds_of_idle idle) hrun
  constructor
  · refine World.run_to_end (Q := fun k : Hearing => k.command = t.command) ?_ ?_ thread
      (signOut_command t) (hholds i t thread)
    · exact fun _ _ _ same => same
    · rintro k c store same permitted input
      exact permitted ⟨jti, expiresAt, same ▸ signsOut⟩ input store
  · intro result returned clock
    have ended := (signOut host).accepts_of_returned hholds thread returned jti expiresAt
      ((signOut_command t).symm ▸ signsOut)
    rw [signOut_heard] at ended
    rcases ended clock with ⟨tables, best⟩ | ⟨failed, failure, thrown⟩
    · exact ⟨fun _ => tables, fun _ => best⟩
    · refine ⟨fun best => ?_, fun tables => absurd tables failed⟩
      cases thrown.symm.trans best.1

/-! A logout that is answered, and one whose lookup gets no connection. -/

def signOutOfAnn : LogoutCommand where
  userId := "ann"
  refreshToken := some "raw-0"
  accessTokenJti := some "jti-0"
  accessTokenExpiresAt := some 900000

theorem signOutOfAnn_signsOut : (Command.logout signOutOfAnn).SignsOut "jti-0" 900000 :=
  .logout ⟨rfl, by decide, rfl⟩

def answeredHeard : List (Exchange authInterface Failure) :=
  [⟨.runtime .now, .ok (0 : Date)⟩, ⟨.refreshTokens (.findByHash "sha256:raw-0"), .ok none⟩,
    ⟨.runtime .now, .ok (0 : Date)⟩, ⟨.redis (.set "jti-0" 900), .ok ()⟩]

def unansweredHeard : List (Exchange authInterface Failure) :=
  [⟨.runtime .now, .ok (0 : Date)⟩,
    ⟨.refreshTokens (.findByHash "sha256:raw-0"), .error (.prisma "P2024" [])⟩]

def answeredSignOut : List (Event (service sampleHost)) :=
  [.start (.logout signOutOfAnn)] ++ answered 0 ["", "", "", ""]

def unansweredSignOut : List (Event (service sampleHost)) :=
  [.start (.logout signOutOfAnn)] ++ answered 0 [""] ++
    [.advance 0 (.lost (.prisma "P2024" []))]

theorem logout_best_effort_answered :
    BestEffort "jti-0" 900000 answeredHeard (.ok .finished) := by
  have all (calls : AuthCall → Prop) : Answered calls answeredHeard := by
    intro x mem
    simp only [answeredHeard, List.mem_cons, List.not_mem_nil, or_false] at mem
    rcases mem with rfl | rfl | rfl | rfl <;> exact fun _ => ⟨_, rfl⟩
  have hrun : sampleWorld.run answeredSignOut = some _ := rfl
  have ended := (logout_best_effort rfl hrun (i := 0) rfl signOutOfAnn_signsOut).2
    (.ok .finished) rfl (all ReadsClock)
  exact ended.mpr (all OfTable)

/-- Nothing is retried, and the access token stays good until it expires. -/
theorem lost_lookup_not_best_effort :
    ¬ ∀ (w₀ w : World (service sampleHost)) (es : List (Event (service sampleHost))) (i : Nat)
      (t : Thread (service sampleHost)) (jti : Uuid) (expiresAt : Date)
      (result : Except Failure Outcome), w₀.threads = [] → w₀.run es = some w →
      w.threads[i]? = some t → t.command.SignsOut jti expiresAt → t.Returned result →
      Answered ReadsClock t.heard → BestEffort jti expiresAt t.heard result := by
  intro claim
  have clock : Answered ReadsClock unansweredHeard := by
    intro x mem
    simp only [unansweredHeard, List.mem_cons, List.not_mem_nil, or_false] at mem
    rcases mem with rfl | rfl
    · exact fun _ => ⟨_, rfl⟩
    · rintro ⟨⟩
  have best := claim sampleWorld _ unansweredSignOut 0 _ "jti-0" 900000
    (.error (.prisma "P2024" [])) rfl rfl rfl signOutOfAnn_signsOut rfl clock
  cases best.1

end TenantOS.Auth
