import TenantOS.Infrastructure.AuthTables
import Mathlib.Data.List.Induction

/-! The two revocation columns of a refresh token, under every call of its
repository. Clients keep the entities they were given, and may save them at any
time after. -/
namespace TenantOS.Auth.FirstRevocation

open TenantOS.Domain TenantOS.Infrastructure TenantOS.Relational

/-- The port's calls, and `revoke` on an entity some client holds. A save is of such an
entity. The users an insert is checked against are whoever is there then. -/
inductive Call where
  | create (token : RefreshToken) (users : List UserRow)
  | findByHash (tokenHash : String)
  | findActiveByUser (userId : Uuid) (now : Date)
  | consume (tokenId : Uuid) (reason : RevocationReason) (time : Date)
  | revokeFamily (familyId : Uuid) (reason : RevocationReason) (time : Date)
  | revokeAllForUser (userId : Uuid) (reason : RevocationReason) (time : Date)
  | deleteExpiredBefore (cutoff : Date)
  | revoke (i : Nat) (reason : RevocationReason) (now : Date)
  | save (i : Nat)

/-- The table, and the entities that were loaded from it. -/
structure State where
  tokens : List RefreshTokenRow
  held : List RefreshToken

namespace State

def step (s : State) : Call → State
  | .create token users =>
      let (reply, tokens) := PrismaRefreshTokenRepository.create token users s.tokens
      ⟨tokens, s.held ++ reply.toOption.toList⟩
  | .findByHash tokenHash =>
      ⟨s.tokens, s.held ++ (PrismaRefreshTokenRepository.findByHash tokenHash s.tokens).toList⟩
  | .findActiveByUser userId now =>
      ⟨s.tokens, s.held ++ PrismaRefreshTokenRepository.findActiveByUser userId now s.tokens⟩
  | .consume tokenId reason time =>
      ⟨(PrismaRefreshTokenRepository.consume tokenId reason time s.tokens).2, s.held⟩
  | .revokeFamily familyId reason time =>
      ⟨(PrismaRefreshTokenRepository.revokeFamily familyId reason time s.tokens).2, s.held⟩
  | .revokeAllForUser userId reason time =>
      ⟨(PrismaRefreshTokenRepository.revokeAllForUser userId reason time s.tokens).2, s.held⟩
  | .deleteExpiredBefore cutoff =>
      ⟨(PrismaRefreshTokenRepository.deleteExpiredBefore cutoff s.tokens).2, s.held⟩
  | .revoke i reason now => ⟨s.tokens, s.held.modify i fun token => token.revoke reason now⟩
  | .save i =>
      match s.held[i]? with
      | none => s
      | some token =>
        let (reply, tokens) := PrismaRefreshTokenRepository.save token s.tokens
        ⟨tokens, s.held ++ reply.toOption.toList⟩

def run (s : State) (calls : List Call) : State :=
  calls.foldl step s

end State

def revocation (row : RefreshTokenRow) : Option Date × Option String :=
  (row.revokedAt, row.revokedReason)

/-- From `s` on, a revoked row that is still there is revoked as it was. -/
def Permanent (s : State) (calls : List Call) : Prop :=
  ∀ row ∈ s.tokens, row.revokedAt.isSome → ∀ first, first <+: calls →
    (∀ between, between <+: first → ∃ other ∈ (s.run between).tokens, other.id = row.id) →
    ∀ later ∈ (s.run first).tokens, later.id = row.id → revocation later = revocation row

/-- A save that overwrites no revocation: the row is not revoked yet, or it is the very
revocation the entity carries. -/
def Current (s : State) : Call → Prop
  | .save i => ∀ token, s.held[i]? = some token → ∀ row ∈ s.tokens, row.id = token.id →
      row.revokedAt.isSome → revocation row = (token.revokedAt, token.revokedReason)
  | _ => True

section

variable {s : State} {call : Call} {calls : List Call} {tokens : List RefreshTokenRow}

theorem State.run_append (s : State) (first second : List Call) :
    s.run (first ++ second) = (s.run first).run second :=
  List.foldl_append

/-! The columns over one call. -/

def Keeps (before after : List RefreshTokenRow) : Prop :=
  ∀ row ∈ before, row.revokedAt.isSome → ∀ later ∈ after, later.id = row.id →
    revocation later = revocation row

theorem keeps_of_mem (unique : UniqueKey RefreshTokenRow.id s.tokens)
    (h : ∀ later ∈ tokens, later ∈ s.tokens ∨ ∀ row ∈ s.tokens, row.id ≠ later.id) :
    Keeps s.tokens tokens := by
  intro row hrow _ later hlater same
  rcases h later hlater with old | fresh
  · rw [unique.eq_of_mem old hrow same]
  · exact absurd same.symm (fresh row hrow)

/-- An update that leaves revoked rows as they were, or only ever writes what they have. -/
theorem keeps_updateMany {whereClause : RefreshTokenRow → Bool}
    {data : RefreshTokenRow → RefreshTokenRow} (unique : UniqueKey RefreshTokenRow.id s.tokens)
    (id : ∀ row, (data row).id = row.id)
    (spares : ∀ row ∈ s.tokens, row.revokedAt.isSome → whereClause row →
      revocation (data row) = revocation row) :
    Keeps s.tokens (updateMany whereClause data s.tokens) := by
  intro row hrow revoked later hlater same
  obtain ⟨before, hbefore, rfl⟩ := mem_updateMany.mp hlater
  by_cases matched : whereClause before = true
  · rw [if_pos matched] at same ⊢
    cases unique.eq_of_mem hbefore hrow ((id before).symm.trans same)
    exact spares _ hbefore revoked matched
  · rw [if_neg matched] at same ⊢
    rw [unique.eq_of_mem hbefore hrow same]

theorem keeps_revoke {filter : RefreshTokenRow → Bool} {reason : RevocationReason} {time : Date}
    (unique : UniqueKey RefreshTokenRow.id s.tokens) :
    Keeps s.tokens (PrismaRefreshTokenRepository.revoke filter reason time s.tokens).2 := by
  refine keeps_updateMany unique (fun _ => rfl) ?_
  intro row _ revoked matched
  rw [Bool.and_eq_true, Option.isNone_iff_eq_none] at matched
  rw [matched.2] at revoked
  contradiction

theorem keeps_save {token : RefreshToken} (unique : UniqueKey RefreshTokenRow.id s.tokens)
    (current : ∀ row ∈ s.tokens, row.id = token.id → row.revokedAt.isSome →
      revocation row = (token.revokedAt, token.revokedReason)) :
    Keeps s.tokens (PrismaRefreshTokenRepository.save token s.tokens).2 := by
  unfold PrismaRefreshTokenRepository.save
  split
  · exact keeps_of_mem unique fun later => .inl
  · refine keeps_updateMany unique (fun _ => rfl) ?_
    intro row hrow revoked matched
    exact (current row hrow (of_decide_eq_true matched) revoked).symm

/-- Of all the calls, only a save that is not current can move a revocation. -/
theorem keeps_step (unique : UniqueKey RefreshTokenRow.id s.tokens) (current : Current s call) :
    Keeps s.tokens (s.step call).tokens := by
  cases call with
  | create token users =>
    apply keeps_of_mem unique
    intro later hlater
    change later ∈ (PrismaRefreshTokenRepository.create token users s.tokens).2 at hlater
    rcases PrismaRefreshTokenRepository.create_tokens token users s.tokens with
      same | ⟨added, -, fresh⟩
    · rw [same] at hlater
      exact .inl hlater
    · rw [added, List.mem_append, List.mem_singleton] at hlater
      rcases hlater with old | rfl
      · exact .inl old
      · exact .inr fresh
  | consume | revokeFamily | revokeAllForUser => exact keeps_revoke unique
  | findByHash | findActiveByUser | revoke => exact keeps_of_mem unique fun later => .inl
  | deleteExpiredBefore cutoff =>
    apply keeps_of_mem unique
    intro later hlater
    exact .inl (mem_deleteMany.mp hlater).1
  | save i =>
    cases held : s.held[i]? with
    | none =>
      simp only [State.step, held]
      exact keeps_of_mem unique fun later => .inl
    | some token =>
      simp only [State.step, held]
      exact keeps_save unique (current token held)

theorem unique_step (unique : UniqueKey RefreshTokenRow.id s.tokens) :
    UniqueKey RefreshTokenRow.id (s.step call).tokens := by
  cases call with
  | create token users =>
    change UniqueKey _ (PrismaRefreshTokenRepository.create token users s.tokens).2
    rcases PrismaRefreshTokenRepository.create_tokens token users s.tokens with
      same | ⟨added, -, fresh⟩
    · rw [same]
      exact unique
    · rw [added]
      exact unique.append fresh
  | consume | revokeFamily | revokeAllForUser =>
    exact PrismaRefreshTokenRepository.unique_revoke unique
  | findByHash | findActiveByUser | revoke => exact unique
  | deleteExpiredBefore cutoff => exact unique.deleteMany
  | save i =>
    cases held : s.held[i]? with
    | none =>
      simp only [State.step, held]
      exact unique
    | some token =>
      simp only [State.step, held, PrismaRefreshTokenRepository.save]
      split
      · exact unique
      · exact unique.updateMany fun _ => rfl

theorem unique_run (unique : UniqueKey RefreshTokenRow.id s.tokens) :
    UniqueKey RefreshTokenRow.id (s.run calls).tokens := by
  induction calls generalizing s with
  | nil => exact unique
  | cons call calls ih => exact ih (unique_step unique)

/-! Whole runs. -/

theorem permanent_of_current (unique : UniqueKey RefreshTokenRow.id s.tokens)
    (current : ∀ first call rest, calls = first ++ call :: rest → Current (s.run first) call) :
    Permanent s calls := by
  intro row hrow revoked first
  induction first using List.reverseRecOn with
  | nil =>
    rintro - - later hlater same
    rw [unique.eq_of_mem hlater hrow same]
  | append_singleton first call ih =>
    intro le stays later hlater same
    obtain ⟨rest, rfl⟩ := le
    have before : first <+: first ++ [call] ++ rest := ⟨[call] ++ rest, by simp⟩
    -- the row as it was before the last call
    obtain ⟨other, hother, same'⟩ := stays first (List.prefix_append ..)
    have kept := ih before (fun between le => stays between (le.trans (List.prefix_append ..)))
      other hother same'
    have still : other.revokedAt.isSome := by
      rw [show other.revokedAt = row.revokedAt from congrArg Prod.fst kept]
      exact revoked
    rw [State.run_append] at hlater
    exact (keeps_step (unique_run unique) (current first call rest (by simp)) other hother still
      later hlater (same.trans same'.symm)).trans kept

theorem current_of_permanent (h : Permanent s (call :: calls)) : Current s call := by
  cases call with
  | save i =>
    intro token held row hrow same revoked
    obtain ⟨found, hfound⟩ : ∃ found, s.tokens.find? (fun row => row.id = token.id) = some found :=
      Option.isSome_iff_exists.mp (List.find?_isSome.mpr ⟨row, hrow, decide_eq_true same⟩)
    have written : PrismaRefreshTokenRepository.savedRevocation token row ∈
        (s.run [.save i]).tokens := by
      change _ ∈ (s.step (.save i)).tokens
      simp only [State.step, held, PrismaRefreshTokenRepository.save, hfound]
      exact mem_updateMany.mpr ⟨row, hrow, (if_pos (decide_eq_true same)).symm⟩
    refine (h row hrow revoked [.save i] ⟨calls, rfl⟩ ?_ _ written rfl).symm
    intro between le
    rcases List.prefix_cons_iff.mp le with rfl | ⟨rest, rfl, nil⟩
    · exact ⟨row, hrow, rfl⟩
    · rw [List.prefix_nil.mp nil]
      exact ⟨_, written, rfl⟩
  | _ => trivial

/-- The first revocation of a row stays, all through a run, exactly when no save of the run
finds its row with another revocation than the entity's own. -/
theorem first_revocation_permanent (unique : UniqueKey RefreshTokenRow.id s.tokens) :
    (∀ first rest, calls = first ++ rest → Permanent (s.run first) rest) ↔
      ∀ first call rest, calls = first ++ call :: rest → Current (s.run first) call := by
  constructor
  · rintro permanent first call rest rfl
    exact current_of_permanent (permanent first (call :: rest) rfl)
  · rintro current first rest rfl
    refine permanent_of_current (unique_run unique) ?_
    rintro between call rest' rfl
    rw [← State.run_append]
    exact current (first ++ between) call rest' (by simp)

end

/-! A token revoked by its rotation, in the table and in the hands of a client. -/

def sampleRow : RefreshTokenRow where
  id := "id-0"
  userId := "ann"
  familyId := "family-0"
  tokenHash := "hash-0"
  expiresAt := 604800000
  revokedAt := none
  revokedReason := none
  userAgent := none
  ipAddress := none
  createdAt := 0

def sampleState : State := ⟨[sampleRow], []⟩

/-- The entity was loaded after the token was used: saving it writes what is there. -/
theorem first_revocation_permanent_reloaded :
    Permanent sampleState [.consume "id-0" .rotated 1, .findByHash "hash-0", .save 0] := by
  have unique : UniqueKey RefreshTokenRow.id sampleState.tokens := List.nodup_singleton "id-0"
  refine (first_revocation_permanent unique).mpr ?_ [] _ rfl
  rintro first call rest split
  match first with
  | [] =>
    cases split
    exact trivial
  | [_] =>
    cases split
    exact trivial
  | [_, _] =>
    cases split
    rintro token ⟨⟩ row hrow - -
    rw [List.mem_singleton.mp hrow]
    rfl
  | _ :: _ :: _ :: _ => simp at split

/-- The entity was loaded before: saving it makes the used token usable again. -/
theorem stale_save_revives :
    ¬ ∀ first rest, [Call.findByHash "hash-0", .consume "id-0" .rotated 1, .save 0] = first ++ rest →
      Permanent (sampleState.run first) rest := by
  intro permanent
  have current := current_of_permanent
    (permanent [.findByHash "hash-0", .consume "id-0" .rotated 1] [.save 0] rfl)
  have same := current (toRefreshTokenEntity sampleRow) rfl
    (PrismaRefreshTokenRepository.revoked .rotated 1 sampleRow) (by decide) rfl rfl
  cases same

end TenantOS.Auth.FirstRevocation
