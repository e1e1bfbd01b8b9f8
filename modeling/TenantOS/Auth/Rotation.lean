import TenantOS.Auth.Ledger

/-! Rotation is linear: counting the unrevoked rows of a family together with the
clients that have consumed one of its tokens and not yet inserted the successor,
there is never more than one. -/
namespace TenantOS.Auth

open TenantOS.Domain TenantOS.Infrastructure TenantOS.Relational TenantOS.Interleaving
open TenantOS.Application
open PrismaRefreshTokenRepository (Evolves inserted)

variable {host : Host}

namespace Ledger

/-- The client won the consume of the row it had been shown. -/
def Won (v : Ledger host) (i : Nat) (stored : RefreshToken) : Prop :=
  ∃ k, v.clients i = some k ∧ k.consumed ∧ k.stored = some stored

/-- The client owes the family a successor. -/
def Pending (v : Ledger host) (i : Nat) (familyId : Uuid) : Prop :=
  ∃ k stored, v.clients i = some k ∧ k.consumed ∧ k.created = none ∧ k.stored = some stored ∧
    stored.familyId = familyId

/-- No row of the family can be consumed any more. -/
def Sealed (v : Ledger host) (familyId : Uuid) : Prop :=
  ∀ row ∈ v.store.refreshTokens, row.familyId = familyId → row.revokedAt.isSome

structure Linear (v : Ledger host) : Prop extends Coherent v where
  spent : ∀ i stored, v.Won i stored →
    ∀ row ∈ v.store.refreshTokens, row.id = stored.id → row.revokedAt.isSome
  once : ∀ i j stored stored', v.Won i stored → v.Won j stored' → stored.id = stored'.id → i = j
  pendingSealed : ∀ i familyId, v.Pending i familyId → v.Sealed familyId
  onePending : ∀ i j familyId, v.Pending i familyId → v.Pending j familyId → i = j
  oneRow : ∀ row ∈ v.store.refreshTokens, ∀ row' ∈ v.store.refreshTokens,
    row.familyId = row'.familyId → row.revokedAt = none → row'.revokedAt = none → row = row'

variable {v : Ledger host} {n : Nat} {fate : Fate (service host)} {k : Knowledge} {c : AuthCall}
  {reply : Except Failure c.Reply} {store : Store}

theorem Coherent.family_of_id (h : v.Coherent) (client : v.clients n = some k)
    {stored : RefreshToken} (hstored : k.stored = some stored) {row : RefreshTokenRow}
    (hrow : row ∈ v.store.refreshTokens) (same : row.id = stored.id) :
    row.familyId = stored.familyId := by
  obtain ⟨i, token, issues, evolves⟩ := h.row row hrow
  obtain ⟨j, token', issues', sameId, -, sameFamily, -⟩ := h.stored n k stored client hstored
  obtain ⟨-, rfl⟩ := h.eq_of_id issues issues' (evolves.id.symm.trans (same.trans sameId))
  exact evolves.familyId.trans sameFamily.symm

theorem won_observe (permitted : permits host k c) {stored : RefreshToken}
    (consumed : (observe host k c reply).consumed)
    (hstored : (observe host k c reply).stored = some stored) :
    k.consumed ∧ k.stored = some stored ∨
      k.stored = some stored ∧ ∃ reason time,
        Heard c reply = Heard (.refreshTokens (.consume stored.id reason time)) (.ok true) := by
  rcases consumed_observe consumed with before | ⟨tokenId, reason, time, heard⟩
  · rcases stored_observe hstored with old | ⟨tokenHash, heard⟩
    · exact .inl ⟨before, old⟩
    · cases heard
      rw [permitted.2.1] at before
      contradiction
  · cases heard
    obtain ⟨-, -, -, -, stored', hstored', rfl, -⟩ := permitted
    obtain rfl : stored' = stored := Option.some.inj (hstored'.symm.trans hstored)
    exact .inr ⟨hstored', reason, time, rfl⟩

/-- Before a consume is won its family has no other claimant, and after it every
row of the family is revoked. -/
theorem Linear.consume_settle (h : v.Linear) (client : v.clients n = some k)
    {stored : RefreshToken} (hstored : k.stored = some stored) {reason : RevocationReason}
    {time : Date} (settled : fate.settle (.refreshTokens (.consume stored.id reason time)) v.store =
      some (.ok true, store)) :
    (∀ i, ¬ v.Pending i stored.familyId) ∧
      ∀ row ∈ store.refreshTokens, row.familyId = stored.familyId → row.revokedAt.isSome := by
  obtain ⟨⟨held, hheld, sameId, unrevoked⟩, revoked⟩ := Auth.consume_settle settled
  have family := h.family_of_id client hstored hheld sameId
  constructor
  · intro i pending
    have := h.pendingSealed i _ pending held hheld family
    rw [unrevoked] at this
    contradiction
  · intro row hrow same
    rcases mem_tokens_settle settled hrow with ⟨before, hbefore, evolves⟩ | ⟨token, hc, -⟩
    · cases active : before.revokedAt with
      | some time => exact evolves.revoked (by simp [active])
      | none =>
        obtain rfl := h.oneRow before hbefore held hheld
          ((evolves.familyId.symm.trans same).trans family.symm) active unrevoked
        exact revoked row hrow (evolves.id.trans sameId)
    · cases hc

/-- The family a login inserts into is its own: nobody opened it before. -/
theorem Coherent.unopened (h : v.Coherent) (client : v.clients n = some k) {token : RefreshToken}
    (permitted : permits host k (.refreshTokens (.create token))) (opens : k.OpensFamily token)
    {v' : Ledger host} {e : Event (service host)}
    (hstep : Discipline.View.Step (discipline host) v e v') (issues : v'.Issues n token) {o : Nat}
    {userId : Uuid} : ¬ v.Opens o token.familyId userId := by
  intro other
  obtain ⟨k', client', created⟩ := issues
  obtain ⟨k'', client'', grows⟩ := grows_step hstep client
  cases client'.symm.trans client''
  obtain ⟨rfl, -⟩ := (h.step hstep).opens_unique (other.step hstep)
    ⟨k', token, client', created, opens.grows grows, rfl, rfl⟩
  obtain ⟨k₀, token₀, client₀, created₀, -⟩ := other
  cases client.symm.trans client₀
  rw [permitted.1] at created₀
  contradiction

/-- An insert meets a family without an unrevoked row, and without a claimant but
the inserting client. -/
theorem Linear.create_settle (h : v.Linear) (client : v.clients n = some k) {token : RefreshToken}
    (permitted : permits host k (.refreshTokens (.create token))) {v' : Ledger host}
    {e : Event (service host)} (hstep : Discipline.View.Step (discipline host) v e v')
    (issues : v'.Issues n token) :
    v.Sealed token.familyId ∧ ∀ i, v.Pending i token.familyId → i = n := by
  rcases permitted.2.2.2 with opens | ⟨-, consumed, stored, user, hstored, -, family, -⟩
  · constructor
    · intro row hrow same
      obtain ⟨o, other⟩ := h.row_opened hrow
      exact absurd (same ▸ other) (h.unopened client permitted opens hstep issues)
    · rintro i ⟨ki, stored, clienti, -, -, hstored, same⟩
      obtain ⟨j, token', issues', -, -, family', -⟩ := h.stored i ki stored clienti hstored
      obtain ⟨o, other⟩ := h.opened j token' issues'
      rw [← family', same] at other
      exact absurd other (h.unopened client permitted opens hstep issues)
  · have pending : v.Pending n token.familyId :=
      ⟨k, stored, client, consumed, permitted.1, hstored, family.symm⟩
    exact ⟨h.pendingSealed n _ pending, fun i other => h.onePending i n _ other pending⟩

section

variable {v' : Ledger host} {e : Event (service host)}

theorem won_step (hstep : Discipline.View.Step (discipline host) v e v') {i : Nat}
    {stored : RefreshToken} (h : v'.Won i stored) :
    v.Won i stored ∨ ∃ k reason time fate,
      e = .advance i fate ∧ v.clients i = some k ∧ k.stored = some stored ∧
      fate.settle (.refreshTokens (.consume stored.id reason time)) v.store =
        some (.ok true, v'.store) := by
  obtain ⟨k', hi, consumed, hstored⟩ := h
  cases hstep with
  | join command free =>
    rcases Discipline.update_client.mp hi with ⟨-, rfl⟩ | ⟨-, old⟩
    · cases consumed
    · exact .inl ⟨k', old, consumed, hstored⟩
  | @settle n fate k c reply store client permitted settled =>
    rcases Discipline.update_client.mp hi with ⟨rfl, rfl⟩ | ⟨-, old⟩
    · rcases won_observe permitted consumed hstored with ⟨before, old⟩ | ⟨old, reason, time, heard⟩
      · exact .inl ⟨k, client, before, old⟩
      · cases heard
        exact .inr ⟨k, reason, time, fate, rfl, client, old, settled⟩
    · exact .inl ⟨k', old, consumed, hstored⟩

theorem pending_step (hstep : Discipline.View.Step (discipline host) v e v') {i : Nat}
    {familyId : Uuid} (h : v'.Pending i familyId) :
    v.Pending i familyId ∨ ∃ k stored reason time fate,
      e = .advance i fate ∧ v.clients i = some k ∧ k.stored = some stored ∧
      stored.familyId = familyId ∧
      fate.settle (.refreshTokens (.consume stored.id reason time)) v.store =
        some (.ok true, v'.store) := by
  obtain ⟨k', stored, hi, consumed, owing, hstored, family⟩ := h
  rcases won_step hstep ⟨k', hi, consumed, hstored⟩ with
    ⟨k, client, before, old⟩ | ⟨k, reason, time, fate, he, client, old, settled⟩
  · obtain ⟨k'', client'', grows⟩ := grows_step hstep client
    cases hi.symm.trans client''
    refine .inl ⟨k, stored, client, before, ?_, old, family⟩
    cases created : k.created with
    | none => rfl
    | some token =>
      rw [grows.created token created] at owing
      contradiction
  · exact .inr ⟨k, stored, reason, time, fate, he, client, old, family, settled⟩

theorem row_step (hstep : Discipline.View.Step (discipline host) v e v') {row : RefreshTokenRow}
    (hrow : row ∈ v'.store.refreshTokens) :
    (∃ before ∈ v.store.refreshTokens, Evolves before row) ∨
      ∃ i k token fate, e = .advance i fate ∧ row = inserted token ∧ v.clients i = some k ∧
        permits host k (.refreshTokens (.create token)) ∧ v'.Issues i token := by
  cases hstep with
  | join command free => exact .inl ⟨row, hrow, .refl row⟩
  | @settle n fate k c reply store client permitted settled =>
    rcases mem_tokens_settle settled hrow with old | ⟨token, rfl, rfl⟩
    · exact .inl old
    · exact .inr ⟨n, k, token, fate, rfl, rfl, client, permitted,
        ⟨_, Function.update_self .., rfl⟩⟩

theorem Coherent.create_fresh (h : v.Coherent) (client : v.clients n = some k)
    {token : RefreshToken} (permitted : permits host k (.refreshTokens (.create token)))
    (hstep : Discipline.View.Step (discipline host) v e v') (issues : v'.Issues n token) {j : Nat}
    {earlier : RefreshToken} (issues' : v.Issues j earlier) : earlier.id ≠ token.id := by
  intro same
  obtain ⟨rfl, rfl⟩ := (h.step hstep).eq_of_id (issues'.step hstep) issues same
  obtain ⟨k', client', created⟩ := issues'
  cases client.symm.trans client'
  rw [permitted.1] at created
  contradiction

theorem Linear.spent_step (h : v.Linear) (hstep : Discipline.View.Step (discipline host) v e v')
    {i : Nat} {stored : RefreshToken} (won : v'.Won i stored) {row : RefreshTokenRow}
    (hrow : row ∈ v'.store.refreshTokens) (same : row.id = stored.id) :
    row.revokedAt.isSome := by
  rcases won_step hstep won with old | ⟨k, reason, time, fate, -, client, hstored, settled⟩
  · rcases row_step hstep hrow with ⟨before, hbefore, evolves⟩ |
      ⟨n, k, token, fate, -, rfl, client, permitted, issues⟩
    · exact evolves.revoked (h.spent i stored old before hbefore (evolves.id.symm.trans same))
    · obtain ⟨ki, clienti, -, hstored⟩ := old
      obtain ⟨j, earlier, issues', sameId, -⟩ := h.stored i ki stored clienti hstored
      exact absurd (same.trans sameId).symm (h.create_fresh client permitted hstep issues issues')
  · exact (Auth.consume_settle settled).2 row hrow same

theorem Linear.once_step (h : v.Linear) (hstep : Discipline.View.Step (discipline host) v e v')
    {i j : Nat} {stored stored' : RefreshToken} (won : v'.Won i stored) (won' : v'.Won j stored')
    (same : stored.id = stored'.id) : i = j := by
  have spent {i : Nat} {stored stored' : RefreshToken} {reason : RevocationReason} {time : Date}
      {fate : Fate (service host)} (old : v.Won i stored) (same : stored.id = stored'.id)
      (settled : fate.settle (.refreshTokens (.consume stored'.id reason time)) v.store =
        some (.ok true, v'.store)) : False := by
    obtain ⟨held, hheld, sameId, unrevoked⟩ := (Auth.consume_settle settled).1
    have := h.spent i stored old held hheld (sameId.trans same.symm)
    rw [unrevoked] at this
    contradiction
  rcases won_step hstep won with old | ⟨_, _, _, _, he, _, _, settled⟩ <;>
    rcases won_step hstep won' with old' | ⟨_, _, _, _, he', _, _, settled'⟩
  · exact h.once i j stored stored' old old' same
  · exact (spent old same settled').elim
  · exact (spent old' same.symm settled).elim
  · cases he.symm.trans he'
    rfl

theorem Linear.pendingSealed_step (h : v.Linear)
    (hstep : Discipline.View.Step (discipline host) v e v') {i : Nat} {familyId : Uuid}
    (pending : v'.Pending i familyId) : v'.Sealed familyId := by
  intro row hrow same
  rcases pending_step hstep pending with
    old | ⟨k, stored, reason, time, fate, -, client, hstored, rfl, settled⟩
  · rcases row_step hstep hrow with ⟨before, hbefore, evolves⟩ |
      ⟨n, k, token, fate, -, rfl, client, permitted, issues⟩
    · exact evolves.revoked
        (h.pendingSealed i familyId old before hbefore (evolves.familyId.symm.trans same))
    · -- the client that inserted owes nothing any more
      subst same
      obtain rfl := (h.create_settle client permitted hstep issues).2 i old
      obtain ⟨k', client', created⟩ := issues
      obtain ⟨k'', -, client'', -, owing, -⟩ := pending
      cases client'.symm.trans client''
      rw [created] at owing
      contradiction
  · exact (h.consume_settle client hstored settled).2 row hrow same

theorem Linear.onePending_step (h : v.Linear)
    (hstep : Discipline.View.Step (discipline host) v e v') {i j : Nat} {familyId : Uuid}
    (pending : v'.Pending i familyId) (pending' : v'.Pending j familyId) : i = j := by
  rcases pending_step hstep pending with
      old | ⟨k, stored, _, _, _, he, client, hstored, family, settled⟩ <;>
    rcases pending_step hstep pending' with
      old' | ⟨k', stored', _, _, _, he', client', hstored', family', settled'⟩
  · exact h.onePending i j familyId old old'
  · subst family'
    exact ((h.consume_settle client' hstored' settled').1 i old).elim
  · subst family
    exact ((h.consume_settle client hstored settled).1 j old').elim
  · cases he.symm.trans he'
    rfl

theorem Linear.oneRow_step (h : v.Linear) (hstep : Discipline.View.Step (discipline host) v e v')
    {row row' : RefreshTokenRow} (hrow : row ∈ v'.store.refreshTokens)
    (hrow' : row' ∈ v'.store.refreshTokens) (same : row.familyId = row'.familyId)
    (active : row.revokedAt = none) (active' : row'.revokedAt = none) : row = row' := by
  have active_before {before row : RefreshTokenRow} (evolves : Evolves before row)
      (active : row.revokedAt = none) : before.revokedAt = none := by
    cases held : before.revokedAt with
    | none => rfl
    | some time =>
      have := evolves.revoked (by simp [held])
      rw [active] at this
      contradiction
  have sealed {before row : RefreshTokenRow} {n : Nat} {k : Knowledge} {token : RefreshToken}
      (hbefore : before ∈ v.store.refreshTokens) (evolves : Evolves before row)
      (active : row.revokedAt = none) (same : row.familyId = token.familyId)
      (client : v.clients n = some k) (permitted : permits host k (.refreshTokens (.create token)))
      (issues : v'.Issues n token) : False := by
    have := (h.create_settle client permitted hstep issues).1 before hbefore
      (evolves.familyId.symm.trans same)
    rw [active_before evolves active] at this
    contradiction
  rcases row_step hstep hrow with ⟨before, hbefore, evolves⟩ |
      ⟨n, k, token, fate, he, rfl, client, permitted, issues⟩ <;>
    rcases row_step hstep hrow' with ⟨before', hbefore', evolves'⟩ |
      ⟨n', k', token', fate', he', rfl, client', permitted', issues'⟩
  · obtain rfl := h.oneRow before hbefore before' hbefore'
      (evolves.familyId.symm.trans (same.trans evolves'.familyId))
      (active_before evolves active) (active_before evolves' active')
    exact (h.toCoherent.step hstep).unique.eq_of_mem hrow hrow' (evolves.id.trans evolves'.id.symm)
  · exact (sealed hbefore evolves active same client' permitted' issues').elim
  · exact (sealed hbefore' evolves' active' same.symm client permitted issues).elim
  · cases he.symm.trans he'
    obtain ⟨kn, clientn, created⟩ := issues
    obtain ⟨kn', clientn', created'⟩ := issues'
    cases clientn.symm.trans clientn'
    cases created.symm.trans created'
    rfl

theorem Linear.step (h : v.Linear) (hstep : Discipline.View.Step (discipline host) v e v') :
    v'.Linear where
  toCoherent := h.toCoherent.step hstep
  spent _ _ won _ hrow same := h.spent_step hstep won hrow same
  once _ _ _ _ won won' same := h.once_step hstep won won' same
  pendingSealed _ _ pending := h.pendingSealed_step hstep pending
  onePending _ _ _ pending pending' := h.onePending_step hstep pending pending'
  oneRow _ hrow _ hrow' same active active' := h.oneRow_step hstep hrow hrow' same active active'

end

theorem Linear.nodup (h : v.Linear) : v.store.refreshTokens.Nodup :=
  List.Nodup.of_map _ h.unique

theorem Linear.family_le_one (h : v.Linear) (familyId : Uuid) :
    (v.store.refreshTokens.filter fun row =>
      row.familyId = familyId && row.revokedAt.isNone).length ≤ 1 := by
  have same : ∀ row ∈ v.store.refreshTokens.filter fun row =>
        row.familyId = familyId && row.revokedAt.isNone,
      ∀ row' ∈ v.store.refreshTokens.filter fun row =>
        row.familyId = familyId && row.revokedAt.isNone, row = row' := by
    intro row hrow row' hrow'
    simp only [List.mem_filter, Bool.and_eq_true, decide_eq_true_eq,
      Option.isNone_iff_eq_none] at hrow hrow'
    exact h.oneRow row hrow.1 row' hrow'.1 (hrow.2.1.trans hrow'.2.1.symm) hrow.2.2 hrow'.2.2
  have nodup := h.nodup.filter fun row => row.familyId = familyId && row.revokedAt.isNone
  generalize v.store.refreshTokens.filter _ = active at same nodup ⊢
  match active with
  | [] => exact Nat.zero_le 1
  | [_] => exact Nat.le_refl 1
  | row :: row' :: rest =>
    have := same row List.mem_cons_self row' (List.mem_cons_of_mem _ List.mem_cons_self)
    simp [this] at nodup

theorem Linear.active_nodup (h : v.Linear) (userId : Uuid) (now : Date) :
    ((PrismaRefreshTokenRepository.findActiveByUser userId now v.store.refreshTokens).map
      RefreshToken.familyId).Nodup := by
  have sorted := List.mergeSort_perm (v.store.refreshTokens.filter fun row =>
    row.userId = userId && row.revokedAt.isNone && now < row.expiresAt)
    fun first second => second.createdAt ≤ first.createdAt
  simp only [PrismaRefreshTokenRepository.findActiveByUser, List.map_map]
  rw [(sorted.map _).nodup_iff]
  refine List.Nodup.map_on ?_ (h.nodup.filter _)
  intro row hrow row' hrow' same
  simp only [List.mem_filter, Bool.and_eq_true, Option.isNone_iff_eq_none] at hrow hrow'
  exact h.oneRow row hrow.1 row' hrow'.1 same hrow.2.1.2 hrow'.2.1.2

end Ledger

/-! Runs of the service. -/

/-- The service before its first client, with any users and any denylist. -/
structure Fresh (w : World (service host)) : Prop where
  threads : w.threads = []
  refreshTokens : w.store.refreshTokens = []

abbrev ledger (w : World (service host)) : Ledger host :=
  (discipline host).view w

theorem Fresh.linear {w : World (service host)} (h : Fresh w) : (ledger w).Linear := by
  have nobody {i k} (hi : (ledger w).clients i = some k) : False := by
    simp [Discipline.view, h.threads] at hi
  have nothing {row} (hrow : row ∈ (ledger w).store.refreshTokens) : False := by
    simp [Discipline.view, h.refreshTokens] at hrow
  constructor
  · constructor
    · constructor
      · exact fun _ _ hi => (nobody hi).elim
      · exact fun _ _ hi => (nobody hi).elim
      · exact fun _ _ _ _ hi => (nobody hi).elim
      · exact fun _ _ _ _ hi => (nobody hi).elim
    · simp [Discipline.view, h.refreshTokens, UniqueKey]
    · exact fun _ _ _ hi => (nobody hi).elim
    · exact fun _ hrow => (nothing hrow).elim
    · exact fun _ _ _ hi => (nobody hi).elim
    · exact fun _ _ _ hi => (nobody hi).elim
    · exact fun _ _ _ _ hi => (nobody hi).elim
    · rintro _ _ ⟨_, hi, -⟩
      exact (nobody hi).elim
  · rintro _ _ ⟨_, hi, -⟩
    exact (nobody hi).elim
  · rintro _ _ _ _ ⟨_, hi, -⟩
    exact (nobody hi).elim
  · rintro _ _ ⟨_, _, hi, -⟩
    exact (nobody hi).elim
  · rintro _ _ _ ⟨_, _, hi, -⟩
    exact (nobody hi).elim
  · exact fun _ hrow => (nothing hrow).elim

theorem linear_run {w₀ w : World (service host)} {es : List (Event (service host))} (h : Fresh w₀)
    (hrun : w₀.run es = some w) : (ledger w).Linear :=
  (discipline host).view_invariant (P := Ledger.Linear) (fun _ _ _ hv hstep => hv.step hstep)
    ((discipline host).holds_of_idle h.threads) h.linear hrun

/-- A refresh that returned a token pair won the row its token named. -/
theorem won_of_returned {w₀ w : World (service host)} {es : List (Event (service host))}
    (h : Fresh w₀) (hrun : w₀.run es = some w) {i : Nat} {t : Thread (service host)}
    {command : RefreshTokensCommand} {result : AuthenticationResult}
    (thread : w.threads[i]? = some t) (refresh : t.command = .refresh command)
    (returned : t.Returned (.ok (.authenticated result))) :
    ∃ stored j token, (ledger w).Won i stored ∧ (ledger w).Issues j token ∧
      stored.id = token.id ∧ stored.familyId = token.familyId ∧
      token.tokenHash = host.sha256Hex command.refreshToken := by
  have linear := linear_run h hrun
  have holds := (discipline host).holds_run ((discipline host).holds_of_idle h.threads) hrun
  have client : (ledger w).clients i = some ((discipline host).seen t) := by
    simp [Discipline.view, thread]
  have seen_refresh : ((discipline host).seen t).command = .refresh command :=
    (command_seen t).trans refresh
  obtain ⟨-, -, won⟩ := (discipline host).accepts_of_returned holds thread returned
  obtain ⟨consumed, hstored⟩ := won (by simp [seen_refresh, Command.isRefresh])
  obtain ⟨stored, hstored⟩ := Option.isSome_iff_exists.mp hstored
  obtain ⟨j, token, issues, sameId, -, family, presented⟩ := linear.stored i _ stored client hstored
  rw [seen_refresh] at presented
  exact ⟨stored, j, token, ⟨_, client, consumed, hstored⟩, issues, sameId, family,
    (Option.some.inj presented).symm⟩

/-- Every refresh token is exchanged at most once over a whole run, no family ever
has two unrevoked rows, and so no family is listed twice as a session. -/
theorem rotation_single_use {w₀ w : World (service host)} {es : List (Event (service host))}
    (fresh : Fresh w₀) (hrun : w₀.run es = some w) :
    (∀ (i j : Nat) (t u : Thread (service host)) (command command' : RefreshTokensCommand)
      (result result' : AuthenticationResult), w.threads[i]? = some t → w.threads[j]? = some u →
      t.command = .refresh command → u.command = .refresh command' →
      command.refreshToken = command'.refreshToken →
      t.Returned (.ok (.authenticated result)) → u.Returned (.ok (.authenticated result')) →
      i = j) ∧
    (∀ familyId, (w.store.refreshTokens.filter fun row =>
      row.familyId = familyId && row.revokedAt.isNone).length ≤ 1) ∧
    ∀ userId now, ((PrismaRefreshTokenRepository.findActiveByUser userId now
      w.store.refreshTokens).map RefreshToken.familyId).Nodup := by
  have linear := linear_run fresh hrun
  refine ⟨?_, fun familyId => ?_, fun userId now => ?_⟩
  · intro i j t u command command' result result' ht hu refresh refresh' same returned returned'
    obtain ⟨stored, a, token, won, issues, sameId, -, presented⟩ :=
      won_of_returned fresh hrun ht refresh returned
    obtain ⟨stored', b, token', won', issues', sameId', -, presented'⟩ :=
      won_of_returned fresh hrun hu refresh' returned'
    rw [same, ← presented'] at presented
    obtain ⟨-, rfl⟩ := linear.eq_of_tokenHash issues issues' presented
    exact linear.once i j stored stored' won won' (sameId.trans sameId'.symm)
  · exact linear.family_le_one familyId
  · exact linear.active_nodup userId now

/-- A login and the exchange of its token. -/
theorem rotation_single_use_sample :
    ∃ w, sampleWorld.run ([sampleLogin] ++ answered 0 loginDraws ++ [sampleRefresh "raw-0"] ++
        answered 1 ["", "", "", "", "jti-1", "", "", "raw-1", "id-1", ""]) = some w ∧
      ∀ familyId, (w.store.refreshTokens.filter fun row =>
        row.familyId = familyId && row.revokedAt.isNone).length ≤ 1 := by
  obtain ⟨w, hrun⟩ := Option.isSome_iff_exists.mp (by decide : (sampleWorld.run ([sampleLogin] ++
    answered 0 loginDraws ++ [sampleRefresh "raw-0"] ++
    answered 1 ["", "", "", "", "jti-1", "", "", "raw-1", "id-1", ""])).isSome = true)
  exact ⟨w, hrun, (rotation_single_use ⟨rfl, rfl⟩ hrun).2.1⟩

end TenantOS.Auth
