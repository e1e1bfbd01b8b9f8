import TenantOS.Auth.Discipline

/-! What one exchange does: to the client that hears it, and to the store. -/
namespace TenantOS.Auth

open TenantOS.Domain TenantOS.Infrastructure TenantOS.Relational TenantOS.Interleaving
open TenantOS.Application
open PrismaRefreshTokenRepository (Evolves inserted)

variable {host : Host}

/-! What one exchange adds to a client's knowledge. -/

abbrev Heard (c : AuthCall) (reply : Except Failure c.Reply) : Exchange authInterface Failure :=
  ⟨c, reply⟩

section

variable {k : Knowledge} {c : AuthCall} {reply : Except Failure c.Reply}

@[simp] theorem command_observe : (observe host k c reply).command = k.command := by
  unfold observe
  split <;> rfl

@[simp] theorem command_seen (t : Thread (service host)) :
    ((discipline host).seen t).command = t.command :=
  (discipline host).seen_keeps Knowledge.command (fun _ _ _ => command_observe) t

theorem stored_observe {stored : RefreshToken}
    (h : (observe host k c reply).stored = some stored) :
    k.stored = some stored ∨ ∃ tokenHash,
      Heard c reply = Heard (.refreshTokens (.findByHash tokenHash)) (.ok (some stored)) := by
  unfold observe at h
  split at h <;> first | exact .inl h | skip
  rename_i tokenHash found
  cases Option.some.inj h
  exact .inr ⟨tokenHash, rfl⟩

theorem consumed_observe (h : (observe host k c reply).consumed) :
    k.consumed ∨ ∃ tokenId reason time,
      Heard c reply = Heard (.refreshTokens (.consume tokenId reason time)) (.ok true) := by
  unfold observe at h
  split at h <;> first | exact .inl h | exact .inr ⟨_, _, _, rfl⟩

theorem user_observe {user : User} (h : (observe host k c reply).user = some user) :
    k.user = some user ∨
      (∃ id includeDeleted,
        Heard c reply = Heard (.users (.findById id includeDeleted)) (.ok (some user))) ∨
      ∃ email includeDeleted,
        Heard c reply = Heard (.users (.findByEmail email includeDeleted)) (.ok (some user)) := by
  unfold observe at h
  split at h <;> first | exact .inl h | skip
  · cases Option.some.inj h
    exact .inr (.inl ⟨_, _, rfl⟩)
  · cases Option.some.inj h
    exact .inr (.inr ⟨_, _, rfl⟩)

theorem ids_observe {id : Uuid} (h : id ∈ (observe host k c reply).ids) :
    id ∈ k.ids ∨ Heard c reply = Heard (.runtime .randomUUID) (.ok id) := by
  unfold observe at h
  split at h <;> first | exact .inl h | skip
  rcases List.mem_cons.mp h with rfl | old
  · exact .inr rfl
  · exact .inl old

theorem generated_observe {tokenHash : String}
    (h : (observe host k c reply).generated = some tokenHash) :
    k.generated = some tokenHash ∨ ∃ raw, tokenHash = host.sha256Hex raw ∧
      Heard c reply = Heard (.runtime .randomBytes) (.ok raw) := by
  unfold observe at h
  split at h <;> first | exact .inl h | skip
  exact .inr ⟨_, (Option.some.inj h).symm, rfl⟩

theorem created_observe {token : RefreshToken}
    (h : (observe host k c reply).created = some token) :
    k.created = some token ∨ c = .refreshTokens (.create token) := by
  unfold observe at h
  split at h <;> first | exact .inl h | skip
  cases Option.some.inj h
  exact .inr rfl

theorem signed_observe {claims : AccessTokenClaims}
    (h : (observe host k c reply).signed = some claims) :
    k.signed = some claims ∨ ∃ sub tv adm jti,
      Heard c reply = Heard (.runtime (.signAsync sub tv adm jti)) (.ok claims) := by
  unfold observe at h
  split at h <;> first | exact .inl h | skip
  cases Option.some.inj h
  exact .inr ⟨_, _, _, _, rfl⟩

/-- Knowledge that is never taken back. -/
structure Knowledge.Grows (k k' : Knowledge) : Prop where
  command : k'.command = k.command
  stored : ∀ stored, k.stored = some stored → k'.stored = some stored
  consumed : k.consumed → k'.consumed
  user : ∀ user, k.user = some user → k'.user = some user
  ids : ∀ id ∈ k.ids, id ∈ k'.ids
  generated : ∀ tokenHash, k.generated = some tokenHash → k'.generated = some tokenHash
  created : ∀ token, k.created = some token → k'.created = some token

theorem Knowledge.Grows.refl (k : Knowledge) : k.Grows k :=
  ⟨rfl, fun _ => id, id, fun _ => id, fun _ => id, fun _ => id, fun _ => id⟩

theorem Knowledge.Grows.trans {k k' k'' : Knowledge} (h : k.Grows k') (h' : k'.Grows k'') :
    k.Grows k'' where
  command := h'.command.trans h.command
  stored stored hk := h'.stored stored (h.stored stored hk)
  consumed hk := h'.consumed (h.consumed hk)
  user user hk := h'.user user (h.user user hk)
  ids id hk := h'.ids id (h.ids id hk)
  generated tokenHash hk := h'.generated tokenHash (h.generated tokenHash hk)
  created token hk := h'.created token (h.created token hk)

theorem Knowledge.OpensFamily.grows {k k' : Knowledge} {token : RefreshToken}
    (h : k.OpensFamily token) (grows : k.Grows k') : k'.OpensFamily token := by
  obtain ⟨⟨command, login⟩, family, user, loaded, owner⟩ := h
  exact ⟨⟨command, grows.command.trans login⟩, grows.ids _ family, user,
    grows.user user loaded, owner⟩

theorem Knowledge.ContinuesFamily.grows {k k' : Knowledge} {token : RefreshToken}
    (h : k.ContinuesFamily token) (grows : k.Grows k') : k'.ContinuesFamily token := by
  obtain ⟨refresh, consumed, stored, user, hstored, huser, same⟩ := h
  exact ⟨grows.command ▸ refresh, grows.consumed consumed, stored, user,
    grows.stored stored hstored, grows.user user huser, same⟩

/-- The discipline looks up, generates and inserts at most once. -/
theorem grows_observe (permitted : permits host k c) : k.Grows (observe host k c reply) := by
  unfold observe
  split <;> first | exact .refl k | skip
  all_goals refine ⟨rfl, ?_, ?_, ?_, ?_, ?_, ?_⟩
  all_goals first | exact fun _ => id | exact id | skip
  · exact fun stored h => by simp [permitted.1] at h
  · exact fun _ => rfl
  · exact fun token h => by simp [permitted.1] at h
  · exact fun user h => by simp [permitted.1] at h
  · exact fun user h => by simp [permitted.1] at h
  · exact fun id h => List.mem_cons_of_mem _ h
  · exact fun tokenHash h => by simp [show k.generated = none from permitted] at h

end

/-! What one answer does to the store. -/

section

variable {input : Input} {c : AuthCall} {reply : Except Failure c.Reply} {store store' : Store}

/-- Each table, and each pool of draws, moves under the calls of one port only. -/
theorem frame_answer (h : answer host input c store = some (reply, store')) :
    (store'.refreshTokens = store.refreshTokens ∨ ∃ call, c = .refreshTokens call) ∧
    (store'.users = store.users ∨ ∃ call, c = .users call) ∧
    (store'.ids = store.ids ∨ c = .runtime .randomUUID) ∧
    (store'.hashes = store.hashes ∨ c = .runtime .randomBytes) := by
  cases c with
  | refreshTokens call =>
    cases call <;> cases Option.some.inj h <;> exact ⟨.inr ⟨_, rfl⟩, .inl rfl, .inl rfl, .inl rfl⟩
  | users call =>
    cases call <;> cases Option.some.inj h <;> exact ⟨.inl rfl, .inr ⟨_, rfl⟩, .inl rfl, .inl rfl⟩
  | hasher call =>
    cases Option.some.inj h
    exact ⟨.inl rfl, .inl rfl, .inl rfl, .inl rfl⟩
  | redis call =>
    cases call <;> cases Option.some.inj h <;> exact ⟨.inl rfl, .inl rfl, .inl rfl, .inl rfl⟩
  | runtime call =>
    obtain ⟨settled, hruntime, heq⟩ := Option.map_eq_some_iff.mp h
    cases heq
    cases call with
    | now =>
      cases Option.some.inj hruntime
      exact ⟨.inl rfl, .inl rfl, .inl rfl, .inl rfl⟩
    | signAsync sub tv adm jti =>
      cases Option.some.inj hruntime
      exact ⟨.inl rfl, .inl rfl, .inl rfl, .inl rfl⟩
    | randomUUID =>
      simp only [answerRuntime, Option.ite_none_left_eq_some, Option.some.injEq] at hruntime
      obtain ⟨-, rfl⟩ := hruntime
      exact ⟨.inl rfl, .inl rfl, .inr rfl, .inl rfl⟩
    | randomBytes =>
      simp only [answerRuntime, Option.ite_none_left_eq_some, Option.some.injEq] at hruntime
      obtain ⟨-, rfl⟩ := hruntime
      exact ⟨.inl rfl, .inl rfl, .inl rfl, .inr rfl⟩

theorem randomUUID_answer {reply : Except Failure (AuthCall.Reply (.runtime .randomUUID))}
    (h : answer host input (.runtime .randomUUID) store = some (reply, store')) :
    ∃ id, reply = .ok id ∧ id ∉ store.ids ∧ store'.ids = id :: store.ids := by
  obtain ⟨settled, hruntime, heq⟩ := Option.map_eq_some_iff.mp h
  cases heq
  simp only [answerRuntime, Option.ite_none_left_eq_some, Option.some.injEq] at hruntime
  obtain ⟨fresh, rfl⟩ := hruntime
  exact ⟨_, rfl, fresh, rfl⟩

theorem randomBytes_answer {reply : Except Failure (AuthCall.Reply (.runtime .randomBytes))}
    (h : answer host input (.runtime .randomBytes) store = some (reply, store')) :
    ∃ raw, reply = .ok raw ∧ host.sha256Hex raw ∉ store.hashes ∧
      store'.hashes = host.sha256Hex raw :: store.hashes := by
  obtain ⟨settled, hruntime, heq⟩ := Option.map_eq_some_iff.mp h
  cases heq
  simp only [answerRuntime, Option.ite_none_left_eq_some, Option.some.injEq] at hruntime
  obtain ⟨fresh, rfl⟩ := hruntime
  exact ⟨_, rfl, fresh, rfl⟩

theorem mem_tokens_answer (h : answer host input c store = some (reply, store'))
    {row : RefreshTokenRow} (hrow : row ∈ store'.refreshTokens) :
    (∃ before ∈ store.refreshTokens, Evolves before row) ∨
      ∃ token, c = .refreshTokens (.create token) ∧ row = inserted token := by
  rcases (frame_answer h).1 with same | ⟨call, rfl⟩
  · exact .inl ⟨row, same ▸ hrow, .refl row⟩
  have revoked {filter reason time} (hmem : row ∈ (PrismaRefreshTokenRepository.revoke filter
      reason time store.refreshTokens).2) : ∃ before ∈ store.refreshTokens, Evolves before row := by
    obtain ⟨before, hbefore, evolves, -⟩ := PrismaRefreshTokenRepository.mem_revoke hmem
    exact ⟨before, hbefore, evolves⟩
  cases call with
  | create token =>
    cases Option.some.inj h
    rcases PrismaRefreshTokenRepository.create_tokens token store.users store.refreshTokens with unchanged | ⟨added, -⟩
    · exact .inl ⟨row, unchanged ▸ hrow, .refl row⟩
    · rcases List.mem_append.mp (added ▸ hrow) with old | new
      · exact .inl ⟨row, old, .refl row⟩
      · exact .inr ⟨token, rfl, List.mem_singleton.mp new⟩
  | consume tokenId reason time => cases Option.some.inj h; exact .inl (revoked hrow)
  | revokeFamily familyId reason time => cases Option.some.inj h; exact .inl (revoked hrow)
  | revokeAllForUser userId reason time => cases Option.some.inj h; exact .inl (revoked hrow)
  | deleteExpiredBefore cutoff =>
    cases Option.some.inj h
    exact .inl ⟨row, (mem_deleteMany.mp hrow).1, .refl row⟩
  | findByHash tokenHash => cases Option.some.inj h; exact .inl ⟨row, hrow, .refl row⟩
  | findActiveByUser userId now => cases Option.some.inj h; exact .inl ⟨row, hrow, .refl row⟩

theorem unique_answer (h : answer host input c store = some (reply, store'))
    (unique : UniqueKey RefreshTokenRow.id store.refreshTokens) :
    UniqueKey RefreshTokenRow.id store'.refreshTokens := by
  rcases (frame_answer h).1 with same | ⟨call, rfl⟩
  · rw [same]
    exact unique
  cases call with
  | create token =>
    cases Option.some.inj h
    exact PrismaRefreshTokenRepository.unique_create unique
  | consume tokenId reason time =>
    cases Option.some.inj h
    exact PrismaRefreshTokenRepository.unique_revoke unique
  | revokeFamily familyId reason time =>
    cases Option.some.inj h
    exact PrismaRefreshTokenRepository.unique_revoke unique
  | revokeAllForUser userId reason time =>
    cases Option.some.inj h
    exact PrismaRefreshTokenRepository.unique_revoke unique
  | deleteExpiredBefore cutoff =>
    cases Option.some.inj h
    exact unique.deleteMany
  | findByHash tokenHash => cases Option.some.inj h; exact unique
  | findActiveByUser userId now => cases Option.some.inj h; exact unique

theorem tokens_answer (h : answer host input c store = some (reply, store'))
    (other : ∀ call, c ≠ .refreshTokens call) : store'.refreshTokens = store.refreshTokens :=
  (frame_answer h).1.resolve_right fun touched => touched.elim other

/-- A row is never lost but to the sweep of the expired. -/
theorem kept_answer (h : answer host input c store = some (reply, store'))
    (keeps : ∀ cutoff, c ≠ .refreshTokens (.deleteExpiredBefore cutoff)) {row : RefreshTokenRow}
    (hrow : row ∈ store.refreshTokens) : ∃ row' ∈ store'.refreshTokens, Evolves row row' := by
  rcases (frame_answer h).1 with same | ⟨call, rfl⟩
  · exact ⟨row, same ▸ hrow, .refl row⟩
  have revoked (filter reason time) : ∃ row' ∈ (PrismaRefreshTokenRepository.revoke filter reason
      time store.refreshTokens).2, Evolves row row' := by
    refine ⟨_, mem_updateMany.mpr ⟨row, hrow, rfl⟩, ?_⟩
    split
    · exact ⟨rfl, rfl, rfl, rfl, fun _ => rfl⟩
    · exact .refl row
  cases call with
  | create token =>
    cases Option.some.inj h
    exact ⟨row, PrismaRefreshTokenRepository.mem_create hrow, .refl row⟩
  | consume tokenId reason time => cases Option.some.inj h; exact revoked _ reason time
  | revokeFamily familyId reason time => cases Option.some.inj h; exact revoked _ reason time
  | revokeAllForUser userId reason time => cases Option.some.inj h; exact revoked _ reason time
  | deleteExpiredBefore cutoff => exact absurd rfl (keeps cutoff)
  | findByHash tokenHash => cases Option.some.inj h; exact ⟨row, hrow, .refl row⟩
  | findActiveByUser userId now => cases Option.some.inj h; exact ⟨row, hrow, .refl row⟩

theorem denylist_answer (h : answer host input c store = some (reply, store'))
    {entry : Uuid × Date} (mem : entry ∈ store.denylist) : entry ∈ store'.denylist := by
  cases c with
  | refreshTokens call => cases call <;> cases Option.some.inj h <;> exact mem
  | users call => cases call <;> cases Option.some.inj h <;> exact mem
  | hasher call => cases Option.some.inj h; exact mem
  | redis call =>
    cases call with
    | set jti ttlSeconds => cases Option.some.inj h; exact List.mem_cons_of_mem _ mem
    | «exists» jti => cases Option.some.inj h; exact mem
  | runtime call =>
    obtain ⟨settled, hruntime, heq⟩ := Option.map_eq_some_iff.mp h
    cases heq
    cases call with
    | now | signAsync => cases Option.some.inj hruntime; exact mem
    | randomUUID | randomBytes =>
      simp only [answerRuntime, Option.ite_none_left_eq_some, Option.some.injEq] at hruntime
      obtain ⟨-, rfl⟩ := hruntime
      exact mem

theorem create_answer {token stored : RefreshToken}
    (h : answer host input (.refreshTokens (.create token)) store = some (.ok stored, store')) :
    inserted token ∈ store'.refreshTokens := by
  have answered := Option.some.inj h
  obtain rfl : _ = store' := congrArg Prod.snd answered
  rcases PrismaRefreshTokenRepository.create_tokens token store.users store.refreshTokens with
    unchanged | ⟨added, -⟩
  · have created : (PrismaRefreshTokenRepository.create token store.users
        store.refreshTokens).1 = .ok stored := congrArg Prod.fst answered
    unfold PrismaRefreshTokenRepository.create at created unchanged
    dsimp only at created unchanged
    split at created
    · cases created
    split at created
    · cases created
    split at created
    · cases created
    · rename_i freshId freshHash known
      rw [if_neg freshId, if_neg freshHash, if_neg known] at unchanged
      simp at unchanged
  · change inserted token ∈ (PrismaRefreshTokenRepository.create token store.users
      store.refreshTokens).2
    rw [added]
    exact List.mem_append_right _ (List.mem_singleton_self _)

theorem findByHash_answer {tokenHash : String} {found : Option RefreshToken}
    (h : answer host input (.refreshTokens (.findByHash tokenHash)) store = some (.ok found, store')) :
    found = PrismaRefreshTokenRepository.findByHash tokenHash store.refreshTokens ∧ store' = store := by
  cases Option.some.inj h
  exact ⟨rfl, rfl⟩

end

/-! The same, for a call that may be lost or go unheard. -/

section

variable {fate : Fate (service host)} {c : AuthCall} {reply : Except Failure c.Reply}
  {store store' : Store}

theorem mem_tokens_settle (h : fate.settle c store = some (reply, store')) {row : RefreshTokenRow}
    (hrow : row ∈ store'.refreshTokens) :
    (∃ before ∈ store.refreshTokens, Evolves before row) ∨
      ∃ token, c = .refreshTokens (.create token) ∧ row = inserted token := by
  rcases fate.settle_store h with rfl | ⟨input, reply', hanswer⟩
  · exact .inl ⟨row, hrow, .refl row⟩
  · exact mem_tokens_answer hanswer hrow

theorem unique_settle (h : fate.settle c store = some (reply, store'))
    (unique : UniqueKey RefreshTokenRow.id store.refreshTokens) :
    UniqueKey RefreshTokenRow.id store'.refreshTokens := by
  rcases fate.settle_store h with rfl | ⟨input, reply', hanswer⟩
  · exact unique
  · exact unique_answer hanswer unique

theorem ids_settle (h : fate.settle c store = some (reply, store')) {id : Uuid}
    (drawn : id ∈ store.ids) : id ∈ store'.ids := by
  rcases fate.settle_store h with rfl | ⟨input, reply', hanswer⟩
  · exact drawn
  rcases (frame_answer hanswer).2.2.1 with same | rfl
  · exact same ▸ drawn
  · obtain ⟨new, -, -, added⟩ := randomUUID_answer hanswer
    exact added ▸ List.mem_cons_of_mem _ drawn

theorem hashes_settle (h : fate.settle c store = some (reply, store')) {tokenHash : String}
    (drawn : tokenHash ∈ store.hashes) : tokenHash ∈ store'.hashes := by
  rcases fate.settle_store h with rfl | ⟨input, reply', hanswer⟩
  · exact drawn
  rcases (frame_answer hanswer).2.2.2 with same | rfl
  · exact same ▸ drawn
  · obtain ⟨new, -, -, added⟩ := randomBytes_answer hanswer
    exact added ▸ List.mem_cons_of_mem _ drawn

/-! An answer that was heard tells what the table held. -/

theorem findByHash_settle {tokenHash : String} {found : Option RefreshToken}
    (h : fate.settle (.refreshTokens (.findByHash tokenHash)) store = some (.ok found, store')) :
    PrismaRefreshTokenRepository.findByHash tokenHash store.refreshTokens = found := by
  obtain ⟨input, -, hanswer⟩ := fate.settle_ok h
  exact Except.ok.inj (congrArg Prod.fst (Option.some.inj hanswer))

theorem consume_settle {tokenId : Uuid} {reason : RevocationReason} {time : Date}
    (h : fate.settle (.refreshTokens (.consume tokenId reason time)) store =
      some (.ok true, store')) :
    (∃ row ∈ store.refreshTokens, row.id = tokenId ∧ row.revokedAt = none) ∧
      ∀ row ∈ store'.refreshTokens, row.id = tokenId → row.revokedAt.isSome := by
  obtain ⟨input, -, hanswer⟩ := fate.settle_ok h
  have answered := Option.some.inj hanswer
  have won : (PrismaRefreshTokenRepository.consume tokenId reason time store.refreshTokens).1 =
      true := Except.ok.inj (congrArg Prod.fst answered)
  refine ⟨PrismaRefreshTokenRepository.consume_won won, fun row hrow same => ?_⟩
  obtain rfl : _ = store' := congrArg Prod.snd answered
  obtain ⟨before, -, evolves, matched⟩ := PrismaRefreshTokenRepository.mem_revoke hrow
  exact matched (by simp [← evolves.id, same])

theorem revokeFamily_settle {familyId : Uuid} {reason : RevocationReason} {time : Date}
    {reply : Except Failure Nat} (reaches : fate.Reaches)
    (h : fate.settle (.refreshTokens (.revokeFamily familyId reason time)) store =
      some (reply, store')) {row : RefreshTokenRow} (hrow : row ∈ store'.refreshTokens)
    (same : row.familyId = familyId) : row.revokedAt.isSome := by
  obtain ⟨input, reply', hanswer⟩ := fate.settle_reaches reaches h
  obtain rfl : _ = store' := congrArg Prod.snd (Option.some.inj hanswer)
  obtain ⟨before, -, evolves, matched⟩ := PrismaRefreshTokenRepository.mem_revoke hrow
  exact matched (by simp [← evolves.familyId, same])

theorem revokeAllForUser_settle {userId : Uuid} {reason : RevocationReason} {time : Date}
    {reply : Except Failure Nat} (reaches : fate.Reaches)
    (h : fate.settle (.refreshTokens (.revokeAllForUser userId reason time)) store =
      some (reply, store')) {row : RefreshTokenRow} (hrow : row ∈ store'.refreshTokens)
    (same : row.userId = userId) : row.revokedAt.isSome := by
  obtain ⟨input, reply', hanswer⟩ := fate.settle_reaches reaches h
  obtain rfl : _ = store' := congrArg Prod.snd (Option.some.inj hanswer)
  obtain ⟨before, -, evolves, matched⟩ := PrismaRefreshTokenRepository.mem_revoke hrow
  exact matched (by simp [← evolves.userId, same])

theorem signAsync_settle {sub : Uuid} {tv : Int} {adm : Bool} {jti : Uuid}
    {claims : AccessTokenClaims}
    (h : fate.settle (.runtime (.signAsync sub tv adm jti)) store = some (.ok claims, store')) :
    claims.sub = sub ∧ claims.tv = tv := by
  obtain ⟨input, -, hanswer⟩ := fate.settle_ok h
  cases Except.ok.inj (congrArg Prod.fst (Option.some.inj hanswer))
  exact ⟨rfl, rfl⟩

theorem findById_settle {id : Uuid} {includeDeleted : Bool} {found : Option User}
    (h : fate.settle (.users (.findById id includeDeleted)) store = some (.ok found, store')) :
    PrismaUserRepository.findById id includeDeleted store.users = .ok found := by
  obtain ⟨input, -, hanswer⟩ := fate.settle_ok h
  exact congrArg Prod.fst (Option.some.inj hanswer)

theorem findByEmail_settle {email : Email} {includeDeleted : Bool} {found : Option User}
    (h : fate.settle (.users (.findByEmail email includeDeleted)) store =
      some (.ok found, store')) :
    PrismaUserRepository.findByEmail email includeDeleted store.users = .ok found := by
  obtain ⟨input, -, hanswer⟩ := fate.settle_ok h
  exact congrArg Prod.fst (Option.some.inj hanswer)

end

/-! The same, along a run. -/

/-- The sweep of expired rows, which no request performs. -/
def Sweeps (w : World (service host)) (e : Event (service host)) : Prop :=
  ∃ i fate t cutoff next, e = .advance i fate ∧ w.threads[i]? = some t ∧
    t.rest = .call (.refreshTokens (.deleteExpiredBefore cutoff)) next

section

variable {w w' : World (service host)} {es : List (Event (service host))}

theorem kept_step {e : Event (service host)} (hstep : Step w e w') (keeps : ¬ Sweeps w e)
    {row : RefreshTokenRow} (hrow : row ∈ w.store.refreshTokens) :
    ∃ row' ∈ w'.store.refreshTokens, Evolves row row' := by
  cases hstep with
  | join command => exact ⟨row, hrow, .refl row⟩
  | @resume i fate t c next reply store thread waiting settled =>
    rcases fate.settle_store settled with rfl | ⟨input, reply', hanswer⟩
    · exact ⟨row, hrow, .refl row⟩
    · refine kept_answer hanswer ?_ hrow
      rintro cutoff rfl
      exact keeps ⟨i, fate, t, cutoff, next, rfl, thread, waiting⟩

theorem kept_run (hrun : w.run es = some w')
    (keeps : w.Along es fun w e _ => ¬ Sweeps w e) {row : RefreshTokenRow}
    (hrow : row ∈ w.store.refreshTokens) : ∃ row' ∈ w'.store.refreshTokens, Evolves row row' := by
  refine World.run_induction (P := fun es' w' => w.Along es' (fun w e _ => ¬ Sweeps w e) →
    ∃ row' ∈ w'.store.refreshTokens, Evolves row row') ?_ ?_ es w' hrun keeps
  · exact fun _ => ⟨row, hrow, .refl row⟩
  · intro es e w₁ w₂ hes ih hstep keeps
    obtain ⟨row₁, hrow₁, evolves₁⟩ := ih keeps.start
    obtain ⟨row₂, hrow₂, evolves₂⟩ := kept_step hstep (keeps.last hes hstep) hrow₁
    exact ⟨row₂, hrow₂, evolves₁.trans evolves₂⟩

theorem denylist_run (hrun : w.run es = some w')
    {entry : Uuid × Date} (mem : entry ∈ w.store.denylist) : entry ∈ w'.store.denylist := by
  refine World.run_invariant (P := fun w : World (service host) => entry ∈ w.store.denylist) ?_
    mem hrun
  intro w₁ e w₂ mem hstep
  cases hstep with
  | join command => exact mem
  | @resume i fate t c next reply store thread waiting settled =>
    rcases fate.settle_store settled with rfl | ⟨input, reply', hanswer⟩
    · exact mem
    · exact denylist_answer hanswer mem

end

end TenantOS.Auth
