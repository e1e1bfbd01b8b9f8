import TenantOS.Auth.Rotation

/-! Revocation against the refreshes and logins in flight. A revocation marks the
rows that exist when it commits; a client that has already won its consume, or
already verified a password, inserts its row whatever happened in between. -/
namespace TenantOS.Auth

open TenantOS.Domain TenantOS.Infrastructure TenantOS.Relational TenantOS.Interleaving
open TenantOS.Application
open PrismaRefreshTokenRepository (Evolves inserted)

variable {host : Host}

/-- The client's insert of the token takes effect in this step. -/
def Inserts (w : World (service host)) (e : Event (service host)) (w' : World (service host))
    (i : Nat) (token : RefreshToken) : Prop :=
  ∃ fate t next, e = .advance i fate ∧ w.threads[i]? = some t ∧
    t.rest = .call (.refreshTokens (.create token)) next ∧
    inserted token ∈ w'.store.refreshTokens

theorem row_of_step {w w' : World (service host)} {e : Event (service host)}
    (holds : (discipline host).Holds w) (hstep : Step w e w') {row : RefreshTokenRow}
    (hrow : row ∈ w'.store.refreshTokens) :
    (∃ before ∈ w.store.refreshTokens, Evolves before row) ∨
      ∃ i k token, row = inserted token ∧ Inserts w e w' i token ∧
        (ledger w).clients i = some k ∧ permits host k (.refreshTokens (.create token)) ∧
        (ledger w').Issues i token := by
  cases hstep with
  | join command => exact .inl ⟨row, hrow, .refl row⟩
  | @resume i fate t c next reply store thread waiting settled =>
    rcases mem_tokens_settle settled hrow with old | ⟨token, rfl, rfl⟩
    · exact .inl old
    · refine .inr ⟨i, (discipline host).seen t, token, rfl,
        ⟨fate, t, next, rfl, thread, waiting, hrow⟩, (discipline host).view_client thread,
        (discipline host).permits_of_waiting holds thread waiting, _,
        (discipline host).view_client ((World.resume_thread thread).mpr (.inl ⟨rfl, rfl⟩)), ?_⟩
      rw [Discipline.seen_after]
      rfl

theorem Inserts.grows {w w' : World (service host)} {e : Event (service host)} {i : Nat}
    {token : RefreshToken} (h : Inserts w e w' i token) (holds : (discipline host).Holds w)
    (hstep : Step w e w') :
    ∃ k k', (ledger w).clients i = some k ∧ permits host k (.refreshTokens (.create token)) ∧
      (ledger w').clients i = some k' ∧ k.Grows k' ∧ k'.created = some token := by
  obtain ⟨fate, t, next, rfl, thread, waiting, -⟩ := h
  cases hstep with
  | @resume _ _ t' c next' reply store thread' waiting' settled =>
    cases thread.symm.trans thread'
    cases waiting.symm.trans waiting'
    have permitted : permits host ((discipline host).seen t) (.refreshTokens (.create token)) :=
      (discipline host).permits_of_waiting holds thread waiting
    have grows : ((discipline host).seen t).Grows
        (observe host ((discipline host).seen t) (.refreshTokens (.create token)) reply) :=
      grows_observe permitted
    refine ⟨_, _, (discipline host).view_client thread, permitted,
      (discipline host).view_client ((World.resume_thread thread).mpr (.inl ⟨rfl, rfl⟩)), ?_⟩
    rw [Discipline.seen_after]
    exact ⟨grows, rfl⟩

/-- Families that stay sealed along a run: as long as no client that logs in into
one of them, or had won a row of one of them at the start, gets to insert. -/
structure KeptSealed (doomed : Uuid → Prop) (before after : Ledger host) : Prop where
  sealed : ∀ familyId, doomed familyId → after.Sealed familyId
  won : ∀ i stored, doomed stored.familyId → after.Won i stored → before.Won i stored

/-- The client may insert into a doomed family only if it is neither a login
opening it, nor a refresh that had won one of its rows before. -/
def Harmless (doomed : Uuid → Prop) (before : Ledger host) (w : World (service host))
    (e : Event (service host)) (w' : World (service host)) : Prop :=
  ∀ i k token, Inserts w e w' i token → doomed token.familyId →
    (ledger w).clients i = some k → permits host k (.refreshTokens (.create token)) →
    (ledger w').Issues i token →
    ¬ k.OpensFamily token ∧ ∀ stored, before.Won i stored → stored.familyId ≠ token.familyId

theorem KeptSealed.step {doomed : Uuid → Prop} {before : Ledger host}
    {w w' : World (service host)} {e : Event (service host)}
    (h : KeptSealed doomed before (ledger w)) (holds : (discipline host).Holds w)
    (coherent : (ledger w).Coherent) (hstep : Step w e w')
    (harmless : Harmless doomed before w e w') : KeptSealed doomed before (ledger w') := by
  constructor
  · intro familyId hdoomed row hrow same
    rcases row_of_step holds hstep hrow with ⟨held, hheld, evolves⟩ |
      ⟨i, k, token, rfl, inserts, client, permitted, issues⟩
    · exact evolves.revoked (h.sealed familyId hdoomed held hheld (evolves.familyId.symm.trans same))
    · obtain rfl : token.familyId = familyId := same
      have harm := harmless i k token inserts hdoomed client permitted issues
      rcases permitted.2.2.2 with opens | ⟨-, consumed, stored, -, hstored, -, family, -⟩
      · exact absurd opens harm.1
      · exact absurd family.symm (harm.2 stored
          (h.won i stored (family ▸ hdoomed) ⟨k, client, consumed, hstored⟩))
  · intro i stored hdoomed won
    rcases Ledger.won_step ((discipline host).view_step holds hstep) won with
      old | ⟨k, reason, time, fate, -, client, hstored, settled⟩
    · exact h.won i stored hdoomed old
    · -- a sealed family has no row left to win
      obtain ⟨held, hheld, sameId, unrevoked⟩ := (consume_settle settled).1
      have := h.sealed _ hdoomed held hheld (coherent.family_of_id client hstored hheld sameId)
      rw [unrevoked] at this
      contradiction

def Reachable (w : World (service host)) : Prop :=
  ∃ w₀ es, Fresh w₀ ∧ w₀.run es = some w

theorem Reachable.run {w w' : World (service host)} {es : List (Event (service host))}
    (h : Reachable w) (hrun : w.run es = some w') : Reachable w' := by
  obtain ⟨w₀, es₀, fresh, hrun₀⟩ := h
  exact ⟨w₀, es₀ ++ es, fresh, World.run_concat hrun₀ hrun⟩

theorem Reachable.linear {w : World (service host)} (h : Reachable w) : (ledger w).Linear := by
  obtain ⟨w₀, es, fresh, hrun⟩ := h
  exact linear_run fresh hrun

theorem Reachable.holds {w : World (service host)} (h : Reachable w) :
    (discipline host).Holds w := by
  obtain ⟨w₀, es, fresh, hrun⟩ := h
  exact (discipline host).holds_run ((discipline host).holds_of_idle fresh.threads) hrun

theorem KeptSealed.run {doomed : Uuid → Prop} {w : World (service host)}
    {es : List (Event (service host))} (reachable : Reachable w)
    (sealed : ∀ familyId, doomed familyId → (ledger w).Sealed familyId)
    (harmless : w.Along es (Harmless doomed (ledger w))) :
    ∀ es' w', es' <+: es → w.run es' = some w' → KeptSealed doomed (ledger w) (ledger w') := by
  intro es' w' hstart hrun
  refine World.run_induction (P := fun es' w' => es' <+: es →
    KeptSealed doomed (ledger w) (ledger w')) ?_ ?_ es' w' hrun hstart
  · exact fun _ => ⟨sealed, fun _ _ _ => id⟩
  · intro first e w₁ w₂ hfirst ih hstep hstart
    obtain ⟨rest, rfl⟩ := hstart
    have reachable₁ := reachable.run hfirst
    refine (ih ((List.prefix_append first [e]).trans (List.prefix_append _ rest))).step
      reachable₁.holds reachable₁.linear.toCoherent hstep ?_
    exact harmless first e rest w₁ w₂ (by simp) hfirst hstep

/-- A refresh that starts after its family was sealed gets no token pair. -/
theorem KeptSealed.refuses {doomed : Uuid → Prop} {w w' : World (service host)}
    (kept : KeptSealed doomed (ledger w) (ledger w')) (reachable : Reachable w') {j : Nat}
    {t : Thread (service host)} {command : RefreshTokensCommand} {result : AuthenticationResult}
    (late : w.threads.length ≤ j) (thread : w'.threads[j]? = some t)
    (refresh : t.command = .refresh command) {i : Nat} {token : RefreshToken}
    (issues : (ledger w').Issues i token) (hdoomed : doomed token.familyId)
    (presented : token.tokenHash = host.sha256Hex command.refreshToken) :
    ¬ t.Returned (.ok (.authenticated result)) := by
  intro returned
  have linear := reachable.linear
  obtain ⟨w₀, es, fresh, hrun⟩ := reachable
  obtain ⟨stored, a, token', won, issues', -, family, presented'⟩ :=
    won_of_returned fresh hrun thread refresh returned
  obtain ⟨-, rfl⟩ := linear.eq_of_tokenHash issues issues' (presented.trans presented'.symm)
  obtain ⟨k, client, -⟩ := kept.won j stored (family ▸ hdoomed) won
  obtain ⟨t₂, thread₂, -⟩ := (discipline host).thread_of_client client
  have := (List.getElem?_eq_some_iff.mp thread₂).1
  omega

theorem Ledger.Opens.run {w w' : World (service host)} {es : List (Event (service host))}
    (reachable : Reachable w) (hrun : w.run es = some w') {o : Nat} {familyId userId : Uuid}
    (h : (ledger w).Opens o familyId userId) : (ledger w').Opens o familyId userId :=
  (discipline host).view_invariant (P := fun v => @Ledger.Opens host v o familyId userId)
    (fun _ _ _ hv hstep => hv.step hstep) reachable.holds h hrun

/-! A revocation, and the schedule after it. -/

/-- The call revokes the family, or every family of its owner. -/
def Covers (v : Ledger host) (familyId : Uuid) : AuthCall → Prop
  | .refreshTokens (.revokeFamily revoked _ _) => revoked = familyId
  | .refreshTokens (.revokeAllForUser userId _ _) => ∃ o, v.Opens o familyId userId
  | _ => False

/-- A revocation covering the family commits in this step. -/
def Revokes (w : World (service host)) (e : Event (service host)) (familyId : Uuid) : Prop :=
  ∃ i fate t c next, e = .advance i fate ∧ fate.Reaches ∧ w.threads[i]? = some t ∧
    t.rest = .call c next ∧ Covers (ledger w) familyId c

/-- No row of the family is ever unrevoked again, and no refresh that starts later
exchanges one of its tokens. -/
structure Final (w : World (service host)) (es : List (Event (service host))) (familyId : Uuid) :
    Prop where
  sealed : ∀ es' w', es' <+: es → w.run es' = some w' → (ledger w').Sealed familyId
  refused : ∀ w', w.run es = some w' → ∀ (j : Nat) (t : Thread (service host))
    (command : RefreshTokensCommand) (result : AuthenticationResult), w.threads.length ≤ j →
    w'.threads[j]? = some t → t.command = .refresh command →
    (∃ i token, (ledger w').Issues i token ∧ token.familyId = familyId ∧
      token.tokenHash = host.sha256Hex command.refreshToken) →
    ¬ t.Returned (.ok (.authenticated result))

/-- The insert of a refresh that had won its consume before the revocation. -/
def Straddles (before : Ledger host) (familyId : Uuid) (w : World (service host))
    (e : Event (service host)) (w' : World (service host)) : Prop :=
  ∃ i token stored, Inserts w e w' i token ∧ token.familyId = familyId ∧
    before.Won i stored ∧ stored.familyId = familyId

theorem Revokes.opened {w : World (service host)} {e : Event (service host)} {familyId : Uuid}
    (h : Revokes w e familyId) (reachable : Reachable w) :
    ∃ o userId, (ledger w).Opens o familyId userId := by
  obtain ⟨i, fate, t, c, next, -, -, thread, waiting, covers⟩ := h
  unfold Covers at covers
  split at covers
  · subst covers
    obtain ⟨stored, hstored, rfl⟩ :=
      (discipline host).permits_of_waiting reachable.holds thread waiting
    obtain ⟨j, token, issues, -, -, family, -⟩ := reachable.linear.stored i _ stored
      ((discipline host).view_client thread) hstored
    obtain ⟨o, opens⟩ := reachable.linear.opened j token issues
    exact ⟨o, token.userId, family ▸ opens⟩
  · obtain ⟨o, opens⟩ := covers
    exact ⟨o, _, opens⟩
  · exact covers.elim

theorem Revokes.sealed {w w' : World (service host)} {e : Event (service host)} {familyId : Uuid}
    (h : Revokes w e familyId) (reachable : Reachable w) (hstep : Step w e w') :
    (ledger w').Sealed familyId := by
  obtain ⟨i, fate, t, c, next, rfl, reaches, thread, waiting, covers⟩ := h
  have hview := (discipline host).view_step reachable.holds hstep
  intro row hrow same
  cases hstep with
  | @resume _ _ t' c' next' reply store thread' waiting' settled =>
    cases thread.symm.trans thread'
    cases waiting.symm.trans waiting'
    unfold Covers at covers
    split at covers
    · exact revokeFamily_settle reaches settled hrow (same.trans covers.symm)
    · obtain ⟨o, opens⟩ := covers
      have coherent := reachable.linear.toCoherent.step hview
      obtain ⟨o', opens'⟩ := coherent.row_opened hrow
      rw [same] at opens'
      obtain ⟨-, owner⟩ := coherent.opens_unique opens' (opens.step hview)
      exact revokeAllForUser_settle reaches settled hrow owner
    · exact covers.elim

/-- A revocation is final exactly when no refresh that had already won its consume
inserts its successor into the family afterwards. -/
theorem revocation_final_iff {w₁ w₂ w₃ : World (service host)} {e : Event (service host)}
    {es : List (Event (service host))} {familyId : Uuid} (reachable : Reachable w₁)
    (revokes : Revokes w₁ e familyId) (hstep : Step w₁ e w₂) (hrun : w₂.run es = some w₃) :
    Final w₂ es familyId ↔
      w₂.Along es fun w e w' => ¬ Straddles (ledger w₂) familyId w e w' := by
  have reachable₂ : Reachable w₂ := reachable.run (World.run_single hstep)
  constructor
  · rintro final first e rest w w' rfl hfirst hstep ⟨i, token, stored, inserts, family, -⟩
    obtain ⟨-, -, -, -, -, -, hrow⟩ := inserts
    have := final.sealed (first ++ [e]) w' (by simp) (World.run_snoc hfirst hstep) _ hrow family
    simp [inserted] at this
  · intro clean
    have kept : ∀ es' w', es' <+: es → w₂.run es' = some w' →
        KeptSealed (· = familyId) (ledger w₂) (ledger w') := by
      refine KeptSealed.run reachable₂ ?_ ?_
      · rintro _ rfl
        exact revokes.sealed reachable hstep
      · intro first e rest w w' hes hfirst hstep' i k token inserts family client permitted issues
        constructor
        · intro opens
          obtain ⟨o, userId, opened⟩ := revokes.opened reachable
          have opened' := (opened.run reachable (World.run_single hstep)).run reachable₂ hfirst
          rw [← family] at opened'
          exact (reachable₂.run hfirst).linear.unopened client permitted opens
            ((discipline host).view_step (reachable₂.run hfirst).holds hstep') issues opened'
        · intro stored won same
          exact clean first e rest w w' hes hfirst hstep'
            ⟨i, token, stored, inserts, family, won, same.trans family⟩
    refine ⟨fun es' w' hstart hrun' => (kept es' w' hstart hrun').sealed familyId rfl, ?_⟩
    rintro w' hrun' j t command result late thread refresh ⟨i, token, issues, family, presented⟩
    exact (kept es w' (List.prefix_refl es) hrun').refuses (reachable₂.run hrun') late thread
      refresh issues family presented

/-! The race the condition is about: one refresh has consumed the token when
another is shown that it is revoked. -/

def reuseRace : List (Event (service sampleHost)) :=
  [sampleLogin] ++ answered 0 loginDraws ++ [sampleRefresh "raw-0"] ++ answered 1 ["", "", ""] ++
    [sampleRefresh "raw-0"] ++ answered 2 ["", ""]

/-- The reuse is detected, and the family revoked. -/
def reuseDetection : Event (service sampleHost) :=
  .advance 2 (.answered ⟨0, ""⟩)

/-- The winner inserts its successor, which a third refresh then exchanges. -/
def reuseRaceEnd : List (Event (service sampleHost)) :=
  answered 1 ["", "jti-1", "", "", "raw-1", "id-1", ""] ++ [sampleRefresh "raw-1"] ++
    answered 3 ["", "", "", "", "jti-2", "", "", "raw-2", "id-2", ""]

def beforeDetection : World (service sampleHost) :=
  (sampleWorld.run reuseRace).getD sampleWorld

def afterDetection : World (service sampleHost) :=
  (beforeDetection.step reuseDetection).getD sampleWorld

def afterRace : World (service sampleHost) :=
  (afterDetection.run reuseRaceEnd).getD sampleWorld

private theorem beforeDetection_reachable : Reachable beforeDetection :=
  ⟨sampleWorld, reuseRace, ⟨rfl, rfl⟩, rfl⟩

private theorem reuseDetection_revokes : Revokes beforeDetection reuseDetection "family-0" :=
  ⟨2, .answered ⟨0, ""⟩, _, _, _, rfl, trivial, rfl, rfl, rfl⟩

theorem revocation_final_iff_race :
    Final afterDetection reuseRaceEnd "family-0" ↔
      afterDetection.Along reuseRaceEnd fun w e w' =>
        ¬ Straddles (ledger afterDetection) "family-0" w e w' :=
  revocation_final_iff beforeDetection_reachable reuseDetection_revokes
    (World.step_iff.mp rfl) (rfl : afterDetection.run reuseRaceEnd = some afterRace)

/-- The family outlives the detection of its reuse. -/
theorem revocation_not_final :
    ¬ ∀ (w₁ w₂ w₃ : World (service sampleHost)) (e : Event (service sampleHost))
      (es : List (Event (service sampleHost))) (familyId : Uuid), Reachable w₁ →
      Revokes w₁ e familyId → Step w₁ e w₂ → w₂.run es = some w₃ → Final w₂ es familyId := by
  intro claim
  have final := claim beforeDetection afterDetection afterRace reuseDetection reuseRaceEnd
    "family-0" beforeDetection_reachable reuseDetection_revokes (World.step_iff.mp rfl) rfl
  have sealed : ∀ row ∈ afterRace.store.refreshTokens, row.familyId = "family-0" →
      row.revokedAt.isSome := final.sealed reuseRaceEnd afterRace (List.prefix_refl _) rfl
  exact absurd sealed (by decide)

end TenantOS.Auth
