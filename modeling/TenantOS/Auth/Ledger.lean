import TenantOS.Auth.Exchanges
import TenantOS.Interleaving.Allotment

/-! Where each refresh-token row, and each thing a client knows, came from. Every
row was inserted by one client, from an id and a hash that only it drew, so ids
and hashes identify tokens over the whole run, and every family has one login
that opened it. -/
namespace TenantOS.Auth

open TenantOS.Domain TenantOS.Infrastructure TenantOS.Relational TenantOS.Interleaving
open TenantOS.Application
open PrismaRefreshTokenRepository (Evolves inserted)

variable {host : Host}

abbrev Ledger (host : Host) := (discipline host).View

namespace Ledger

/-- The client that asked for the token to be inserted. -/
def Issues (v : Ledger host) (i : Nat) (token : RefreshToken) : Prop :=
  ∃ k, v.clients i = some k ∧ k.created = some token

/-- The login that opened the family, for its owner. -/
def Opens (v : Ledger host) (i : Nat) (familyId userId : Uuid) : Prop :=
  ∃ k token, v.clients i = some k ∧ k.created = some token ∧ k.OpensFamily token ∧
    token.familyId = familyId ∧ token.userId = userId

/-- Each draw of the random source has one owner. -/
structure Drawn (v : Ledger host) : Prop where
  ids : ∀ i k, v.clients i = some k → ∀ id ∈ k.ids, id ∈ v.store.ids
  hashes : ∀ i k, v.clients i = some k → ∀ tokenHash, k.generated = some tokenHash →
    tokenHash ∈ v.store.hashes
  ownId : ∀ i j ki kj, v.clients i = some ki → v.clients j = some kj →
    ∀ id ∈ ki.ids, id ∈ kj.ids → i = j
  ownHash : ∀ i j ki kj, v.clients i = some ki → v.clients j = some kj →
    ∀ tokenHash, ki.generated = some tokenHash → kj.generated = some tokenHash → i = j

/-- Everything a row or a client holds was issued. -/
structure Coherent (v : Ledger host) : Prop extends Drawn v where
  unique : UniqueKey RefreshTokenRow.id v.store.refreshTokens
  issued : ∀ i k token, v.clients i = some k → k.created = some token →
    token.id ∈ k.ids ∧ k.generated = some token.tokenHash ∧
      (k.OpensFamily token ∨ k.ContinuesFamily token)
  row : ∀ row ∈ v.store.refreshTokens, ∃ i token, v.Issues i token ∧ Evolves (inserted token) row
  stored : ∀ i k stored, v.clients i = some k → k.stored = some stored →
    ∃ j token, v.Issues j token ∧ stored.id = token.id ∧ stored.userId = token.userId ∧
      stored.familyId = token.familyId ∧
      k.command.presentedHash host = some token.tokenHash
  owner : ∀ i k user, v.clients i = some k → k.command.isRefresh → k.user = some user →
    ∃ stored, k.stored = some stored ∧ user.id = stored.userId
  account : ∀ i k command user, v.clients i = some k → k.command = .changePassword command →
    k.user = some user → user.id = command.userId
  opened : ∀ i token, v.Issues i token → ∃ o, v.Opens o token.familyId token.userId

variable {v v' : Ledger host} {e : Event (service host)}

theorem grows_step (hstep : Discipline.View.Step (discipline host) v e v') {i : Nat}
    {k : Knowledge} (h : v.clients i = some k) : ∃ k', v'.clients i = some k' ∧ k.Grows k' := by
  cases hstep with
  | @join n command free =>
    have hi : i ≠ n := by
      rintro rfl
      rw [free] at h
      contradiction
    exact ⟨k, (Function.update_of_ne hi ..).trans h, .refl k⟩
  | @settle n fate k₀ c reply store client permitted settled =>
    by_cases hi : i = n
    · subst hi
      cases client.symm.trans h
      exact ⟨_, Function.update_self .., grows_observe permitted⟩
    · exact ⟨k, (Function.update_of_ne hi ..).trans h, .refl k⟩

theorem Issues.step (hstep : Discipline.View.Step (discipline host) v e v') {i : Nat}
    {token : RefreshToken} (h : v.Issues i token) : v'.Issues i token := by
  obtain ⟨k, client, created⟩ := h
  obtain ⟨k', client', grows⟩ := grows_step hstep client
  exact ⟨k', client', grows.created token created⟩

theorem Opens.step (hstep : Discipline.View.Step (discipline host) v e v') {i : Nat}
    {familyId userId : Uuid} (h : v.Opens i familyId userId) : v'.Opens i familyId userId := by
  obtain ⟨k, token, client, created, opens, same⟩ := h
  obtain ⟨k', client', grows⟩ := grows_step hstep client
  exact ⟨k', token, client', grows.created token created, opens.grows grows, same⟩

theorem ids_fresh {fate : Fate (service host)} {k : Knowledge} {c : AuthCall}
    {reply : Except Failure c.Reply} {store store' : Store}
    (settled : fate.settle c store = some (reply, store')) {id : Uuid}
    (h : id ∈ (observe host k c reply).ids) : id ∈ k.ids ∨ id ∉ store.ids ∧ id ∈ store'.ids := by
  rcases ids_observe h with old | heard
  · exact .inl old
  · cases heard
    obtain ⟨input, -, hanswer⟩ := fate.settle_ok settled
    obtain ⟨_, same, fresh, added⟩ := randomUUID_answer hanswer
    cases same
    exact .inr ⟨fresh, added ▸ List.mem_cons_self⟩

theorem generated_fresh {fate : Fate (service host)} {k : Knowledge} {c : AuthCall}
    {reply : Except Failure c.Reply} {store store' : Store}
    (settled : fate.settle c store = some (reply, store')) {tokenHash : String}
    (h : (observe host k c reply).generated = some tokenHash) :
    k.generated = some tokenHash ∨ tokenHash ∉ store.hashes ∧ tokenHash ∈ store'.hashes := by
  rcases generated_observe h with old | ⟨raw, rfl, heard⟩
  · exact .inl old
  · cases heard
    obtain ⟨input, -, hanswer⟩ := fate.settle_ok settled
    obtain ⟨_, same, fresh, added⟩ := randomBytes_answer hanswer
    cases same
    exact .inr ⟨fresh, added ▸ List.mem_cons_self⟩

theorem Drawn.allotted (h : v.Drawn) :
    Allotted (fun k id => id ∈ k.ids) (· ∈ v.store.ids) v.clients ∧
      Allotted (fun k tokenHash => k.generated = some tokenHash) (· ∈ v.store.hashes) v.clients :=
  ⟨⟨h.ids, h.ownId⟩, ⟨h.hashes, h.ownHash⟩⟩

theorem drawn_of_allotted
    (ids : Allotted (fun k id => id ∈ k.ids) (· ∈ v.store.ids) v.clients)
    (hashes : Allotted (fun k tokenHash => k.generated = some tokenHash) (· ∈ v.store.hashes)
      v.clients) : v.Drawn :=
  ⟨ids.issued, hashes.issued, ids.own, hashes.own⟩

theorem Drawn.step (h : v.Drawn) (hstep : Discipline.View.Step (discipline host) v e v') :
    v'.Drawn := by
  obtain ⟨ids, hashes⟩ := h.allotted
  cases hstep with
  | @join n command free =>
    apply drawn_of_allotted
    · apply ids.join
      intro id
      exact List.not_mem_nil
    · apply hashes.join
      intro tokenHash
      exact Option.some_ne_none tokenHash ∘ Eq.symm
  | @settle n fate k c reply store client permitted settled =>
    apply drawn_of_allotted
    · apply ids.draw client
      · intro id drawn
        exact ids_settle settled drawn
      · intro id hid
        exact ids_fresh settled hid
    · apply hashes.draw client
      · intro tokenHash drawn
        exact hashes_settle settled drawn
      · intro tokenHash generated
        exact generated_fresh settled generated

theorem Coherent.join {n : Nat} {command : Command} (h : v.Coherent)
    (hstep : Discipline.View.Step (discipline host) v (.start command)
      ⟨v.store, Function.update v.clients n (some (Knowledge.start command))⟩) :
    Coherent ⟨v.store, Function.update v.clients n (some (Knowledge.start command))⟩ := by
  have old {i k} (hi : Function.update v.clients n (some (Knowledge.start command)) i = some k) :
      v.clients i = some k ∨ k = .start command :=
    (Discipline.update_client.mp hi).elim (fun new => .inr new.2) (fun old => .inl old.2)
  refine ⟨h.toDrawn.step hstep, h.unique, ?_, ?_, ?_, ?_, ?_, ?_⟩
  · intro i k token hi created
    rcases old hi with hi | rfl
    · exact h.issued i k token hi created
    · cases created
  · intro row hrow
    obtain ⟨i, token, issues, evolves⟩ := h.row row hrow
    exact ⟨i, token, issues.step hstep, evolves⟩
  · intro i k stored hi hstored
    rcases old hi with hi | rfl
    · obtain ⟨j, token, issues, same⟩ := h.stored i k stored hi hstored
      exact ⟨j, token, issues.step hstep, same⟩
    · cases hstored
  · intro i k user hi refresh huser
    rcases old hi with hi | rfl
    · exact h.owner i k user hi refresh huser
    · cases huser
  · intro i k command user hi changing huser
    rcases old hi with hi | rfl
    · exact h.account i k command user hi changing huser
    · cases huser
  · rintro i token ⟨k, hi, created⟩
    rcases old hi with hi | rfl
    · obtain ⟨o, opens⟩ := h.opened i token ⟨k, hi, created⟩
      exact ⟨o, opens.step hstep⟩
    · cases created

section

variable {n : Nat} {fate : Fate (service host)} {k : Knowledge} {c : AuthCall}
  {reply : Except Failure c.Reply} {store : Store}

theorem Coherent.issued_settle (h : v.Coherent) (client : v.clients n = some k)
    (permitted : permits host k c) {token : RefreshToken}
    (created : (observe host k c reply).created = some token) :
    token.id ∈ (observe host k c reply).ids ∧
      (observe host k c reply).generated = some token.tokenHash ∧
      ((observe host k c reply).OpensFamily token ∨
        (observe host k c reply).ContinuesFamily token) := by
  have grows : k.Grows (observe host k c reply) := grows_observe permitted
  have before : token.id ∈ k.ids ∧ k.generated = some token.tokenHash ∧
      (k.OpensFamily token ∨ k.ContinuesFamily token) := by
    rcases created_observe created with old | rfl
    · exact h.issued n k token client old
    · exact permitted.2
  exact ⟨grows.ids _ before.1, grows.generated _ before.2.1,
    before.2.2.imp (·.grows grows) (·.grows grows)⟩

/-- A row that was shown to a client was issued, under the hash the client presented. -/
theorem Coherent.stored_settle (h : v.Coherent) (client : v.clients n = some k)
    (permitted : permits host k c) (settled : fate.settle c v.store = some (reply, store))
    {stored : RefreshToken} (hstored : (observe host k c reply).stored = some stored) :
    ∃ j token, v.Issues j token ∧ stored.id = token.id ∧ stored.userId = token.userId ∧
      stored.familyId = token.familyId ∧
      k.command.presentedHash host = some token.tokenHash := by
  rcases stored_observe hstored with old | ⟨tokenHash, heard⟩
  · exact h.stored n k stored client old
  cases heard
  obtain ⟨row, hrow, rfl, rfl⟩ :=
    PrismaRefreshTokenRepository.findByHash_eq_some (findByHash_settle settled)
  obtain ⟨j, token, issues, evolves⟩ := h.row row hrow
  exact ⟨j, token, issues, evolves.id, evolves.userId, evolves.familyId,
    permitted.2.2.2.trans (congrArg some evolves.tokenHash)⟩

theorem Coherent.owner_settle (h : v.Coherent) (client : v.clients n = some k)
    (permitted : permits host k c) (settled : fate.settle c v.store = some (reply, store))
    {user : User} (refresh : k.command.isRefresh)
    (huser : (observe host k c reply).user = some user) :
    ∃ stored, k.stored = some stored ∧ user.id = stored.userId := by
  rcases user_observe huser with old | ⟨id, includeDeleted, heard⟩ | ⟨email, includeDeleted, heard⟩
  · exact h.owner n k user client refresh old
  · cases heard
    obtain ⟨stored, hstored, rfl⟩ := permitted.2.1 refresh
    refine ⟨stored, hstored, ?_⟩
    obtain ⟨row, -, same, entity⟩ :=
      PrismaUserRepository.findById_eq_some (findById_settle settled)
    obtain ⟨status, -, rfl⟩ := toUserEntity_eq_ok.mp entity
    exact same
  · cases heard
    simp [permitted.2.1] at refresh

theorem Coherent.account_settle (h : v.Coherent) (client : v.clients n = some k)
    (permitted : permits host k c) (settled : fate.settle c v.store = some (reply, store))
    {user : User} {command : ChangePasswordCommand} (changing : k.command = .changePassword command)
    (huser : (observe host k c reply).user = some user) : user.id = command.userId := by
  rcases user_observe huser with old | ⟨id, includeDeleted, heard⟩ | ⟨email, includeDeleted, heard⟩
  · exact h.account n k command user client changing old
  · cases heard
    obtain ⟨row, -, same, entity⟩ :=
      PrismaUserRepository.findById_eq_some (findById_settle settled)
    obtain ⟨status, -, rfl⟩ := toUserEntity_eq_ok.mp entity
    exact same.trans (permitted.2.2 command changing).symm
  · cases heard
    exact absurd changing (permitted.2.2 command)

theorem Coherent.opened_settle (h : v.Coherent) (client : v.clients n = some k)
    (permitted : permits host k c)
    (hstep : Discipline.View.Step (discipline host) v e
      ⟨store, Function.update v.clients n (some (observe host k c reply))⟩)
    {token : RefreshToken} (created : (observe host k c reply).created = some token) :
    ∃ o, Opens ⟨store, Function.update v.clients n (some (observe host k c reply))⟩ o
      token.familyId token.userId := by
  have grows : k.Grows (observe host k c reply) := grows_observe permitted
  rcases created_observe created with old | rfl
  · obtain ⟨o, opens⟩ := h.opened n token ⟨k, client, old⟩
    exact ⟨o, opens.step hstep⟩
  rcases permitted.2.2.2 with opens | ⟨refresh, -, stored, user, hstored, huser, family, owner⟩
  · exact ⟨n, _, token, Function.update_self .., created, opens.grows grows, rfl, rfl⟩
  · obtain ⟨j, token', issues, -, sameUser, sameFamily, -⟩ := h.stored n k stored client hstored
    obtain ⟨stored', hstored', sameOwner⟩ := h.owner n k user client refresh huser
    cases hstored.symm.trans hstored'
    obtain ⟨o, opens⟩ := h.opened j token' issues
    rw [family, owner, sameOwner, sameUser, sameFamily]
    exact ⟨o, opens.step hstep⟩

theorem Coherent.settle (h : v.Coherent) (client : v.clients n = some k)
    (permitted : permits host k c) (settled : fate.settle c v.store = some (reply, store))
    (hstep : Discipline.View.Step (discipline host) v e
      ⟨store, Function.update v.clients n (some (observe host k c reply))⟩) :
    Coherent ⟨store, Function.update v.clients n (some (observe host k c reply))⟩ := by
  have grows : k.Grows (observe host k c reply) := grows_observe permitted
  refine ⟨h.toDrawn.step hstep, unique_settle settled h.unique, ?_, ?_, ?_, ?_, ?_, ?_⟩
  · intro i k' token hi created
    rcases Discipline.update_client.mp hi with ⟨-, rfl⟩ | ⟨-, old⟩
    · exact h.issued_settle client permitted created
    · exact h.issued i k' token old created
  · intro row hrow
    rcases mem_tokens_settle settled hrow with ⟨before, hbefore, evolves⟩ | ⟨token, rfl, rfl⟩
    · obtain ⟨i, token, issues, earlier⟩ := h.row before hbefore
      exact ⟨i, token, issues.step hstep, earlier.trans evolves⟩
    · exact ⟨n, token, ⟨_, Function.update_self .., rfl⟩, .refl _⟩
  · intro i k' stored hi hstored
    rcases Discipline.update_client.mp hi with ⟨-, rfl⟩ | ⟨-, old⟩
    · obtain ⟨j, token, issues, same⟩ := h.stored_settle client permitted settled hstored
      rw [command_observe]
      exact ⟨j, token, issues.step hstep, same⟩
    · obtain ⟨j, token, issues, same⟩ := h.stored i k' stored old hstored
      exact ⟨j, token, issues.step hstep, same⟩
  · intro i k' user hi refresh huser
    rcases Discipline.update_client.mp hi with ⟨-, rfl⟩ | ⟨-, old⟩
    · rw [command_observe] at refresh
      obtain ⟨stored, hstored, same⟩ := h.owner_settle client permitted settled refresh huser
      exact ⟨stored, grows.stored stored hstored, same⟩
    · exact h.owner i k' user old refresh huser
  · intro i k' command user hi changing huser
    rcases Discipline.update_client.mp hi with ⟨-, rfl⟩ | ⟨-, old⟩
    · rw [command_observe] at changing
      exact h.account_settle client permitted settled changing huser
    · exact h.account i k' command user old changing huser
  · rintro i token ⟨k', hi, created⟩
    rcases Discipline.update_client.mp hi with ⟨-, rfl⟩ | ⟨-, old⟩
    · exact h.opened_settle client permitted hstep created
    · obtain ⟨o, opens⟩ := h.opened i token ⟨k', old, created⟩
      exact ⟨o, opens.step hstep⟩

end

theorem Coherent.step (h : v.Coherent) (hstep : Discipline.View.Step (discipline host) v e v') :
    v'.Coherent := by
  have again := hstep
  cases hstep with
  | join command free => exact h.join again
  | settle client permitted settled => exact h.settle client permitted settled again

/-! What coherence says about two tokens. -/

theorem Coherent.eq_of_id (h : v.Coherent) {i j : Nat} {first second : RefreshToken}
    (hfirst : v.Issues i first) (hsecond : v.Issues j second) (same : first.id = second.id) :
    i = j ∧ first = second := by
  obtain ⟨ki, hi, created⟩ := hfirst
  obtain ⟨kj, hj, created'⟩ := hsecond
  obtain rfl : i = j := h.ownId i j ki kj hi hj first.id (h.issued i ki first hi created).1
    (same ▸ (h.issued j kj second hj created').1)
  cases hi.symm.trans hj
  exact ⟨rfl, Option.some.inj (created.symm.trans created')⟩

theorem Coherent.eq_of_tokenHash (h : v.Coherent) {i j : Nat} {first second : RefreshToken}
    (hfirst : v.Issues i first) (hsecond : v.Issues j second)
    (same : first.tokenHash = second.tokenHash) : i = j ∧ first = second := by
  obtain ⟨ki, hi, created⟩ := hfirst
  obtain ⟨kj, hj, created'⟩ := hsecond
  obtain rfl : i = j := h.ownHash i j ki kj hi hj first.tokenHash
    (h.issued i ki first hi created).2.1 (same ▸ (h.issued j kj second hj created').2.1)
  cases hi.symm.trans hj
  exact ⟨rfl, Option.some.inj (created.symm.trans created')⟩

theorem Coherent.opens_unique (h : v.Coherent) {i j : Nat} {familyId userId userId' : Uuid}
    (hi : v.Opens i familyId userId) (hj : v.Opens j familyId userId') :
    i = j ∧ userId = userId' := by
  obtain ⟨ki, token, client, created, ⟨-, drawn, -⟩, family, rfl⟩ := hi
  obtain ⟨kj, token', client', created', ⟨-, drawn', -⟩, family', rfl⟩ := hj
  obtain rfl : i = j := h.ownId i j ki kj client client' familyId (family ▸ drawn)
    (family' ▸ drawn')
  cases client.symm.trans client'
  cases created.symm.trans created'
  exact ⟨rfl, rfl⟩

/-- Every row of a family belongs to the login that opened it, and to its owner. -/
theorem Coherent.row_opened (h : v.Coherent) {row : RefreshTokenRow}
    (hrow : row ∈ v.store.refreshTokens) : ∃ o, v.Opens o row.familyId row.userId := by
  obtain ⟨i, token, issues, evolves⟩ := h.row row hrow
  rw [evolves.familyId, evolves.userId]
  exact h.opened i token issues

end Ledger

end TenantOS.Auth
