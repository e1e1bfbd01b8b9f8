import TenantOS.Auth.Revocation

/-! A password change against the logins and refreshes in flight. The save ends the
old password for logins still to come, and the revocation ends the sessions that
exist; a login that verified the old password before the save can insert its row
after the revocation. -/
namespace TenantOS.Auth

open TenantOS.Domain TenantOS.Infrastructure TenantOS.Relational TenantOS.Interleaving
open TenantOS.Application
open PrismaRefreshTokenRepository (inserted)

variable {host : Host}

/-! The last thing a successful change does is to revoke the user's tokens. -/

def SignsOutLast (command : Command) (heard : List (Exchange authInterface Failure))
    (result : Except Failure Outcome) : Prop :=
  (∃ change, command = .changePassword change) → result = .ok .finished →
    ∃ first userId time count, heard = first ++
      [⟨.refreshTokens (.revokeAllForUser userId .passwordChanged time), .ok count⟩]

theorem changePassword_signs_out_last (command : ChangePasswordCommand) :
    (body host (.changePassword command)).Ends (SignsOutLast (.changePassword command)) [] := by
  have failed {heard failure} : SignsOutLast (.changePassword command) heard (.error failure) :=
    fun _ h => by cases h
  simp only [body, UpdateUserUseCase.changePassword, Program.bind_assoc]
  refine Program.ends_perform_bind (fun found => ?_) fun _ => failed
  cases found with
  | none => exact failed
  | some user =>
    dsimp only
    split
    · exact failed
    simp only [Program.bind_assoc]
    refine Program.ends_perform_bind (fun currentMatches => ?_) fun _ => failed
    split
    · exact failed
    simp only [UpdateUserUseCase.replacePassword]
    split
    · exact failed
    simp only [Program.bind_assoc]
    refine Program.ends_perform_bind (fun isReuse => ?_) fun _ => failed
    split
    · exact failed
    simp only [UpdateUserUseCase.storePassword, Program.bind_assoc]
    refine Program.ends_perform_bind (fun hash => ?_) fun _ => failed
    refine Program.ends_perform_bind (fun time => ?_) fun _ => failed
    refine Program.ends_perform_bind (fun saved => ?_) fun _ => failed
    refine Program.ends_perform_bind (fun revokedAt => ?_) fun _ => failed
    refine Program.ends_perform_bind (fun count => ?_) fun _ => failed
    exact fun _ _ => ⟨_, user.id, revokedAt, count, rfl⟩

theorem signs_out_last (command : Command) :
    (body host command).Ends (SignsOutLast command) [] := by
  cases command with
  | changePassword command => exact changePassword_signs_out_last command
  | login | refresh | logout | logoutAll | deleteExpiredBefore | sessions | editUser =>
    exact Program.ends_of_forall fun _ _ ⟨_, h⟩ => by cases h

/-- A change that succeeds: in `before` the client is about to save the new hash,
and its next-to-last world is `w₁`, in which it has yet to return. -/
structure PasswordChange (p : Nat) (command : ChangePasswordCommand)
    (before w₁ w₂ : World (service host)) : Prop where
  reachable : Reachable before
  saving : ∃ t user next, before.threads[p]? = some t ∧ t.command = .changePassword command ∧
    t.rest = .call (.users (.save user)) next
  meanwhile : ∃ fate w es, Step before (.advance p fate) w ∧ w.run es = some w₁
  returning : ∃ fate, Step w₁ (.advance p fate) w₂
  returned : ∃ t, w₂.threads[p]? = some t ∧ t.Returned (.ok .finished)

/-- A login that read the user before the new hash was saved, and so verifies the
password against a hash stored before the change. -/
def Outdated (before : World (service host)) (userId : Uuid) (o : Nat) : Prop :=
  ∃ k login user, (ledger before).clients o = some k ∧ k.command = .login login ∧
    k.user = some user ∧ user.id = userId

/-- A family opened by such a login. -/
def OutdatedFamily (before : World (service host)) (userId : Uuid) (w : World (service host))
    (familyId : Uuid) : Prop :=
  ∃ o, Outdated before userId o ∧ (ledger w).Opens o familyId userId

/-- From here on no session of an outdated login can be continued. -/
structure LockedOut (before : World (service host)) (userId : Uuid) (w : World (service host))
    (es : List (Event (service host))) : Prop where
  sealed : ∀ es' w', es' <+: es → w.run es' = some w' →
    ∀ familyId, OutdatedFamily before userId w' familyId → (ledger w').Sealed familyId
  refused : ∀ w', w.run es = some w' → ∀ (j : Nat) (t : Thread (service host))
    (command : RefreshTokensCommand) (result : AuthenticationResult), w.threads.length ≤ j →
    w'.threads[j]? = some t → t.command = .refresh command →
    (∃ i token, (ledger w').Issues i token ∧ OutdatedFamily before userId w' token.familyId ∧
      token.tokenHash = host.sha256Hex command.refreshToken) →
    ¬ t.Returned (.ok (.authenticated result))

/-- The insert of an outdated login, or of a refresh that had won a row of one's
family before the change returned. -/
def LateInsert (before : World (service host)) (userId : Uuid) (changed w : World (service host))
    (e : Event (service host)) (w' : World (service host)) : Prop :=
  ∃ i token, Inserts w e w' i token ∧
    (Outdated before userId i ∨
      OutdatedFamily before userId w token.familyId ∧
        ∃ stored, (ledger changed).Won i stored ∧ stored.familyId = token.familyId)

theorem PasswordChange.reachable₁ {p : Nat} {command : ChangePasswordCommand}
    {before w₁ w₂ : World (service host)} (h : PasswordChange p command before w₁ w₂) :
    Reachable w₁ := by
  obtain ⟨fate, w, es, hstep, hrun⟩ := h.meanwhile
  exact (h.reachable.run (World.run_single hstep)).run hrun

theorem PasswordChange.reachable₂ {p : Nat} {command : ChangePasswordCommand}
    {before w₁ w₂ : World (service host)} (h : PasswordChange p command before w₁ w₂) :
    Reachable w₂ := by
  obtain ⟨fate, hstep⟩ := h.returning
  exact h.reachable₁.run (World.run_single hstep)

theorem PasswordChange.revokes {p : Nat} {command : ChangePasswordCommand}
    {before w₁ w₂ : World (service host)} (h : PasswordChange p command before w₁ w₂)
    {row : RefreshTokenRow} (hrow : row ∈ w₂.store.refreshTokens)
    (same : row.userId = command.userId) : row.revokedAt.isSome := by
  obtain ⟨t₀, user, next₀, thread₀, changing₀, -⟩ := h.saving
  obtain ⟨fate₀, w, es, hstep₀, hrun₀⟩ := h.meanwhile
  obtain ⟨t₁, thread₁, changing₁, -⟩ :=
    World.run_keeps_thread (World.run_concat (World.run_single hstep₀) hrun₀) thread₀
  obtain ⟨fate, hstep⟩ := h.returning
  obtain ⟨t₂, thread₂, returned⟩ := h.returned
  have reachable₁ := h.reachable₁
  obtain ⟨w₀, es₀, fresh, hrun⟩ := h.reachable₂
  have ends := World.ends_run (S := service host) signs_out_last fresh.threads hrun thread₂
  rw [returned] at ends
  cases hstep with
  | @resume _ _ t c next reply store thread waiting settled =>
    cases thread₁.symm.trans thread
    obtain ⟨-, rfl⟩ | ⟨hne, -⟩ := (World.resume_thread thread).mp thread₂
    · have changing : t₁.command = .changePassword command := changing₁.trans changing₀
      obtain ⟨first, userId, time, count, heard⟩ := ends ⟨command, changing⟩ rfl
      obtain ⟨-, last⟩ := List.append_inj' heard rfl
      cases last
      rcases (discipline host).permits_of_waiting reachable₁.holds thread waiting with
        ⟨logout, other, -⟩ | ⟨change, user, -, loaded, rfl, -⟩
      · rw [command_seen, changing] at other
        cases other
      · have account := reachable₁.linear.account p _ command user
          ((discipline host).view_client thread) ((command_seen t₁).trans changing) loaded
        have reaches : fate.Reaches := by
          obtain ⟨input, rfl, -⟩ := fate.settle_ok settled
          trivial
        exact revokeAllForUser_settle reaches settled hrow (same.trans account.symm)
    · exact absurd rfl hne

theorem Outdated.run {before w : World (service host)} {es : List (Event (service host))}
    {userId : Uuid} {o : Nat} (h : Outdated before userId o) (reachable : Reachable before)
    (hrun : before.run es = some w) : Outdated w userId o := by
  refine (discipline host).view_invariant (P := fun v => ∃ k login user, v.clients o = some k ∧
    k.command = .login login ∧ k.user = some user ∧ user.id = userId) ?_ reachable.holds h hrun
  rintro v e v' ⟨k, login, user, client, isLogin, loaded, same⟩ hstep
  obtain ⟨k', client', grows⟩ := Ledger.grows_step hstep client
  exact ⟨k', login, user, client', grows.command.trans isLogin, grows.user user loaded, same⟩

theorem Outdated.opens {w w' : World (service host)} {e : Event (service host)} {userId : Uuid}
    {o : Nat} {token : RefreshToken} (h : Outdated w userId o) (reachable : Reachable w)
    (hstep : Step w e w') (inserts : Inserts w e w' o token) :
    (ledger w').Opens o token.familyId userId := by
  obtain ⟨k, k', client, permitted, client', grows, created⟩ :=
    inserts.grows reachable.holds hstep
  obtain ⟨k₀, login, user, client₀, isLogin, loaded, rfl⟩ := h
  cases client.symm.trans client₀
  rcases permitted.2.2.2 with own | ⟨refresh, -⟩
  · have ⟨_, _, user', loaded', owner⟩ := own
    cases loaded.symm.trans loaded'
    exact ⟨k', token, client', created, own.grows grows, rfl, owner⟩
  · rw [isLogin] at refresh
    cases refresh

theorem PasswordChange.run {p : Nat} {command : ChangePasswordCommand}
    {before w₁ w₂ w : World (service host)} {es : List (Event (service host))}
    (h : PasswordChange p command before w₁ w₂) (hrun : w₂.run es = some w) :
    ∃ es', before.run es' = some w := by
  obtain ⟨fate, w', es', hstep, hmeanwhile⟩ := h.meanwhile
  obtain ⟨fate', hreturning⟩ := h.returning
  exact ⟨_, World.run_concat (World.run_single hstep)
    (World.run_concat hmeanwhile (World.run_concat (World.run_single hreturning) hrun))⟩

/-- After a password change no session of an outdated login can be continued,
exactly when none of them is inserted late. -/
theorem passwordChange_locks_out_iff {p : Nat} {command : ChangePasswordCommand}
    {before w₁ w₂ w₃ : World (service host)} {es : List (Event (service host))}
    (change : PasswordChange p command before w₁ w₂) (hrun : w₂.run es = some w₃) :
    LockedOut before command.userId w₂ es ↔
      w₂.Along es fun w e w' => ¬ LateInsert before command.userId w₂ w e w' := by
  have reachable₂ := change.reachable₂
  constructor
  · rintro locked first e rest w w' rfl hfirst hstep ⟨i, token, inserts, late⟩
    have family : OutdatedFamily before command.userId w' token.familyId := by
      rcases late with outdated | ⟨⟨o, outdated, opens⟩, -⟩
      · obtain ⟨es', hbefore⟩ := change.run hfirst
        exact ⟨i, outdated, (outdated.run change.reachable hbefore).opens
          (reachable₂.run hfirst) hstep inserts⟩
      · exact ⟨o, outdated, opens.run (reachable₂.run hfirst) (World.run_single hstep)⟩
    obtain ⟨-, -, -, -, -, -, hrow⟩ := inserts
    have := locked.sealed (first ++ [e]) w' (by simp) (World.run_snoc hfirst hstep) _ family _
      hrow rfl
    simp [inserted] at this
  · intro clean
    have later {es' : List (Event (service host))} {w : World (service host)}
        (hstart : es' <+: es) (hrun' : w₂.run es' = some w) {o : Nat} {familyId userId : Uuid}
        (opens : (ledger w).Opens o familyId userId) : (ledger w₃).Opens o familyId userId := by
      obtain ⟨rest, rfl⟩ := hstart
      obtain ⟨w', hw', hrest⟩ := World.run_split hrun
      cases hrun'.symm.trans hw'
      exact opens.run (reachable₂.run hrun') hrest
    have coherent₃ := (reachable₂.run hrun).linear.toCoherent
    have kept : ∀ es' w', es' <+: es → w₂.run es' = some w' →
        KeptSealed (OutdatedFamily before command.userId w₃) (ledger w₂) (ledger w') := by
      refine KeptSealed.run reachable₂ ?_ ?_
      · rintro familyId ⟨o, outdated, opens⟩ row hrow rfl
        obtain ⟨o', opens'⟩ := reachable₂.linear.row_opened hrow
        obtain ⟨-, owner⟩ := coherent₃.opens_unique (later (List.nil_prefix) rfl opens') opens
        exact change.revokes hrow owner
      · rintro first e rest w w' hes hfirst hstep i k token inserts ⟨o, outdated, opened⟩ client
          permitted issues
        have hstart : first <+: es := hes ▸ List.prefix_append ..
        have honest := clean first e rest w w' hes hfirst hstep
        constructor
        · intro opens
          obtain ⟨k, k', client₀, -, client', grows, created⟩ :=
            inserts.grows (reachable₂.run hfirst).holds hstep
          cases client.symm.trans client₀
          have opens' : (ledger w').Opens i token.familyId token.userId :=
            ⟨k', token, client', created, opens.grows grows, rfl, rfl⟩
          obtain ⟨rfl, -⟩ := coherent₃.opens_unique
            (later (by simp [hes] : first ++ [e] <+: es) (World.run_snoc hfirst hstep) opens') opened
          exact honest ⟨i, token, inserts, .inl outdated⟩
        · rintro stored won same
          have shown := won
          obtain ⟨k', client', -, hstored⟩ := shown
          obtain ⟨j, earlier, issues', -, -, family, -⟩ :=
            reachable₂.linear.stored i k' stored client' hstored
          obtain ⟨o', opens'⟩ := reachable₂.linear.opened j earlier issues'
          rw [← family, same] at opens'
          obtain ⟨rfl, owner⟩ := coherent₃.opens_unique (later (List.nil_prefix) rfl opens') opened
          exact honest ⟨i, token, inserts, .inr ⟨⟨o', outdated, owner ▸
            opens'.run reachable₂ hfirst⟩, stored, won, same⟩⟩
    constructor
    · rintro es' w' hstart hrun' familyId ⟨o, outdated, opens⟩
      exact (kept es' w' hstart hrun').sealed familyId ⟨o, outdated, later hstart hrun' opens⟩
    · rintro w' hrun' j t refresh result late thread isRefresh ⟨i, token, issues, family, presented⟩
      cases hrun.symm.trans hrun'
      exact (kept es w₃ (List.prefix_refl es) hrun).refuses (reachable₂.run hrun) late thread
        isRefresh issues family presented

/-! The race: a login has verified the old password when the change runs. -/

def changeRace : List (Event (service sampleHost)) :=
  [sampleLogin] ++ answered 0 ["", ""] ++
    [.start (.changePassword ⟨"ann", "correct horse battery", "a much better phrase"⟩)] ++
    answered 1 ["", "", "", "new-hash", ""]

def beforeSave : World (service sampleHost) :=
  (sampleWorld.run changeRace).getD sampleWorld

def afterSave : World (service sampleHost) :=
  (beforeSave.step (.advance 1 (.answered ⟨0, ""⟩))).getD sampleWorld

def beforeSignOut : World (service sampleHost) :=
  (afterSave.run (answered 1 [""])).getD sampleWorld

def afterSignOut : World (service sampleHost) :=
  (beforeSignOut.step (.advance 1 (.answered ⟨0, ""⟩))).getD sampleWorld

/-- The login goes on to open its session, whose token a refresh then exchanges. -/
def changeRaceEnd : List (Event (service sampleHost)) :=
  answered 0 ["jti-0", "", "", "raw-0", "", "id-0", "family-0", ""] ++ [sampleRefresh "raw-0"] ++
    answered 2 ["", "", "", "", "jti-1", "", "", "raw-1", "id-1", ""]

def afterChangeRace : World (service sampleHost) :=
  (afterSignOut.run changeRaceEnd).getD sampleWorld

private theorem race_passwordChange :
    PasswordChange 1 ⟨"ann", "correct horse battery", "a much better phrase"⟩ beforeSave
      beforeSignOut afterSignOut where
  reachable := ⟨sampleWorld, changeRace, ⟨rfl, rfl⟩, rfl⟩
  saving := ⟨_, _, _, rfl, rfl, rfl⟩
  meanwhile := ⟨.answered ⟨0, ""⟩, afterSave, answered 1 [""], World.step_iff.mp rfl, rfl⟩
  returning := ⟨.answered ⟨0, ""⟩, World.step_iff.mp rfl⟩
  returned := ⟨_, rfl, rfl⟩

theorem passwordChange_locks_out_iff_race :
    LockedOut beforeSave "ann" afterSignOut changeRaceEnd ↔
      afterSignOut.Along changeRaceEnd fun w e w' =>
        ¬ LateInsert beforeSave "ann" afterSignOut w e w' :=
  passwordChange_locks_out_iff race_passwordChange
    (rfl : afterSignOut.run changeRaceEnd = some afterChangeRace)

/-- A session opened with the old password outlives the change. -/
theorem passwordChange_not_locked_out :
    ¬ ∀ (p : Nat) (command : ChangePasswordCommand)
      (before w₁ w₂ w₃ : World (service sampleHost)) (es : List (Event (service sampleHost))),
      PasswordChange p command before w₁ w₂ → w₂.run es = some w₃ →
      LockedOut before command.userId w₂ es := by
  intro claim
  have locked := claim 1 _ _ _ _ _ _ race_passwordChange
    (rfl : afterSignOut.run changeRaceEnd = some afterChangeRace)
  have outdated : OutdatedFamily beforeSave "ann" afterChangeRace "family-0" :=
    ⟨0, ⟨_, _, _, rfl, rfl, rfl, rfl⟩, _, _, rfl, rfl, ⟨⟨_, rfl⟩, by decide, _, rfl, rfl⟩, rfl, rfl⟩
  have sealed : ∀ row ∈ afterChangeRace.store.refreshTokens, row.familyId = "family-0" →
      row.revokedAt.isSome :=
    locked.sealed changeRaceEnd afterChangeRace (List.prefix_refl _) rfl "family-0" outdated
  exact absurd sealed (by decide)

end TenantOS.Auth
