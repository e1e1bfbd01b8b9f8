import TenantOS.Users.Statements

/-! No update to a user is lost: the interleaved clients do to each row what their
saves do to it one after the other, in the order in which they commit. -/
namespace TenantOS.Users

open TenantOS.Domain TenantOS.Infrastructure TenantOS.Interleaving TenantOS.Relational
open TenantOS.Application
open PrismaUserRepository (lockedOn saved)

/-- The row, its telemetry aside. -/
def core (row : UserRow) : UserRow :=
  { row with lastLoginAt := none, updatedAt := 0 }

/-- One client alone: load the row, call the methods, save. -/
def mutate (calls : List (Date × UserMethod)) (row : UserRow) : UserRow :=
  match toUserEntity row with
  | .ok user => saved (user.applyAll calls).toSnapshot row
  | .error _ => row

theorem core_eq {row other : UserRow} : core row = core other ↔
    ∃ lastLoginAt updatedAt,
      row = { other with lastLoginAt := lastLoginAt, updatedAt := updatedAt } := by
  constructor
  · intro h
    refine ⟨row.lastLoginAt, row.updatedAt, ?_⟩
    cases row
    cases other
    simp_all [core]
  · rintro ⟨lastLoginAt, updatedAt, rfl⟩
    rfl

theorem core_saved {user other : User} {row row' : UserRow}
    (aggregates : user.withoutTelemetry = other.withoutTelemetry) (rows : core row = core row') :
    core (saved user.toSnapshot row) = core (saved other.toSnapshot row') := by
  obtain ⟨lastLoginAt, updatedAt, rfl⟩ := core_eq.mp rows
  obtain ⟨lastLoginAt', updatedAt', rfl⟩ : ∃ lastLoginAt updatedAt,
      other = { user with lastLoginAt := lastLoginAt, updatedAt := updatedAt } := by
    refine ⟨other.lastLoginAt, other.updatedAt, ?_⟩
    cases user
    cases other
    simp_all [User.withoutTelemetry]
  rfl

/-- The aggregate was loaded from this row, or from it with other telemetry. -/
def LoadedFrom (user : User) (row : UserRow) : Prop :=
  ∃ origin, toUserEntity origin = .ok user ∧ core origin = core row

/-- Saving what was loaded from a row is mutating the row. -/
theorem LoadedFrom.core_mutate {user : User} {row : UserRow} (h : LoadedFrom user row)
    (calls : List (Date × UserMethod)) :
    core (saved (user.applyAll calls).toSnapshot row) = core (mutate calls row) := by
  obtain ⟨origin, entity, same⟩ := h
  obtain ⟨lastLoginAt, updatedAt, rfl⟩ := core_eq.mp same
  obtain ⟨status, known, rfl⟩ := toUserEntity_eq_ok.mp entity
  have loads : toUserEntity row = .ok (.fromSnapshot (row.toSnapshot status)) :=
    toUserEntity_eq_ok.mpr ⟨status, known, rfl⟩
  simp only [mutate, loads]
  refine core_saved (User.applyAll_withoutTelemetry ?_ calls) rfl
  rfl

/-- What a client does to a row does not depend on the telemetry. -/
theorem core_mutate {row row' : UserRow} (same : core row = core row')
    (calls : List (Date × UserMethod)) : core (mutate calls row) = core (mutate calls row') := by
  cases entity : toUserEntity row with
  | ok user =>
    have loaded : LoadedFrom user row' := ⟨row, entity, same⟩
    rw [← loaded.core_mutate calls]
    simp only [mutate, entity]
    exact core_saved rfl same
  | error failure =>
    cases entity' : toUserEntity row' with
    | error failure' =>
      simp only [mutate, entity, entity']
      exact same
    | ok user =>
      obtain ⟨lastLoginAt, updatedAt, rfl⟩ := core_eq.mp same
      obtain ⟨status, known, -⟩ := toUserEntity_eq_ok.mp entity'
      cases entity.symm.trans (toUserEntity_eq_ok.mpr ⟨status, known, rfl⟩)

/-! What one client's update does to a row. -/

structure Precedes (before after : UserRow) : Prop where
  id : after.id = before.id
  version : before.version ≤ after.version
  same : after.version = before.version → core after = core before

theorem Precedes.refl (row : UserRow) : Precedes row row :=
  ⟨rfl, Int.le_refl _, fun _ => rfl⟩

theorem Precedes.trans {first second third : UserRow} (h : Precedes first second)
    (h' : Precedes second third) : Precedes first third where
  id := h'.id.trans h.id
  version := Int.le_trans h.version h'.version
  same even := by
    have le := h.version
    have le' := h'.version
    exact (h'.same (by omega)).trans (h.same (by omega))

theorem precedes_touched (time now : Date) (row : UserRow) : Precedes row (touched time now row) :=
  ⟨rfl, Int.le_refl _, fun _ => rfl⟩

theorem precedes_saved (s : UserSnapshot) (row : UserRow) : Precedes row (saved s row) where
  id := rfl
  version := Int.le_add_one (Int.le_refl _)
  same even := by
    have : row.version + 1 = row.version := even
    omega

variable {k : Knowledge} {whereClause : UserRow → Bool} {data : UserRow → UserRow}

theorem Knowledge.Issues.precedes (h : k.Issues whereClause data) (row : UserRow) :
    Precedes row (data row) := by
  rcases h with ⟨_, calls, user, -, -, -, rfl⟩ | ⟨_, time, now, -, -, rfl⟩
  · exact precedes_saved _ row
  · exact precedes_touched time now row

theorem Knowledge.Issues.unique {whereClause' : UserRow → Bool} {data' : UserRow → UserRow}
    (h : k.Issues whereClause data) (h' : k.Issues whereClause' data') :
    whereClause' = whereClause ∧ data' = data := by
  rcases h with ⟨_, calls, user, edits, loaded, rfl, rfl⟩ | ⟨userId, _, _, touches, rfl, rfl⟩ <;>
    rcases h' with ⟨_, calls', user', edits', loaded', rfl, rfl⟩ |
      ⟨userId', _, _, touches', rfl, rfl⟩
  · cases loaded.symm.trans loaded'
    cases edits.symm.trans edits'
    exact ⟨rfl, rfl⟩
  · cases edits.symm.trans touches'
  · cases touches.symm.trans edits'
  · cases touches.symm.trans touches'
    exact ⟨rfl, rfl⟩

theorem Knowledge.Issues.same_id (h : k.Issues whereClause data) {row row' : UserRow}
    (matched : whereClause row) (matched' : whereClause row') : row.id = row'.id := by
  rcases h with ⟨_, calls, user, -, -, rfl, -⟩ | ⟨userId, _, _, -, rfl, -⟩
  · simp only [lockedOn, Bool.and_eq_true, decide_eq_true_eq] at matched matched'
    exact matched.1.trans matched'.1.symm
  · simp only [rowOf, decide_eq_true_eq] at matched matched'
    exact matched.trans matched'.symm

/-- A client that finds its own version again writes the same version. -/
theorem Knowledge.Issues.again (h : k.Issues whereClause data) {row : UserRow}
    (matched : whereClause row) (matched' : whereClause (data row)) : data (data row) = data row := by
  rcases h with ⟨_, calls, user, -, -, rfl, rfl⟩ | ⟨_, _, _, -, -, rfl⟩
  · simp only [lockedOn, Bool.and_eq_true, decide_eq_true_eq] at matched matched'
    have even : row.version + 1 = row.version := matched'.2.trans matched.2.symm
    omega
  · rfl

/-! The invariant of the interleaving. -/

def enlisted : Enlisted discipline where
  tx := Knowledge.tx
  outside _ := rfl
  once _ permitted := permitted
  enters _ _ _ := rfl
  fails _ _ := rfl
  stays k c reply notBegin := by
    change (observe k c reply).tx = k.tx
    unfold observe
    split <;> first | rfl | exact absurd rfl notBegin
  own k c id permitted same := by
    cases c with
    | begin => cases same
    | select tx table whereClause =>
      cases tx with
      | none => cases same
      | some tx =>
        cases same
        exact permitted.1.1
    | targets => exact same ▸ permitted
    | update => exact same ▸ permitted.1.1
    | insert => exact permitted.elim
    | commit => exact same ▸ permitted.1.1
    | rollback => exact same ▸ permitted

/-- Inside its transaction a client issues that transaction's statements only. -/
theorem tx_of_permitted {c : SqlCall userSchema} {tx : Nat} (permitted : permits k c)
    (inside : k.tx = some tx) : c.tx? = some tx := by
  cases c with
  | begin => cases (permitted : k.tx = none).symm.trans inside
  | select tx' table whereClause =>
    cases tx' with
    | none => cases permitted.1.symm.trans inside
    | some tx' => exact permitted.1.1.symm.trans inside
  | targets => exact (permitted : k.tx = _).symm.trans inside
  | update => exact permitted.1.1.symm.trans inside
  | insert => exact permitted.elim
  | commit => exact permitted.1.1.symm.trans inside
  | rollback => exact (permitted : k.tx = _).symm.trans inside

theorem command_observe {c : SqlCall userSchema} {reply : Except Failure c.Reply} :
    (observe k c reply).command = k.command := by
  unfold observe
  split <;> rfl

theorem user_observe {c : SqlCall userSchema} {reply : Except Failure c.Reply} {tx : Nat}
    (permitted : permits k c) (inside : k.tx = some tx) : (observe k c reply).user = k.user := by
  have own := tx_of_permitted permitted inside
  unfold observe
  split <;> first | rfl | cases own

/-- Once it has asked for the commit, a client learns nothing more. -/
theorem observe_ended {c : SqlCall userSchema} {reply : Except Failure c.Reply} {tx : Nat}
    (permitted : permits k c) (inside : k.tx = some tx) (asked : k.commit ≠ none) :
    ∃ aborted, observe k c reply = { k with aborted := aborted } := by
  cases c with
  | begin => cases (permitted : k.tx = none).symm.trans inside
  | commit => exact absurd permitted.1.2.1 asked
  | rollback => exact ⟨true, rfl⟩
  | select tx' =>
    cases tx' with
    | none => cases permitted.1.symm.trans inside
    | some tx' => exact absurd permitted.1.2.1 asked
  | targets => exact ⟨k.aborted, rfl⟩
  | update => exact absurd permitted.1.2.1 asked
  | insert => exact permitted.elim

abbrev rowAt (db : Database userSchema) (j : Nat) : Option UserRow :=
  db.committedAt () j

/-- What a client has written: its update of the committed row. -/
def Draft (k : Knowledge) (_ : Unit) (committed : Option UserRow) (after : UserRow) : Prop :=
  ∃ before whereClause data, committed = some before ∧ k.Issues whereClause data ∧
    whereClause before ∧ after = data before

theorem drafts : enlisted.Drafts Draft where
  stable k c reply tx table committed after permitted inside draft := by
    obtain ⟨before, whereClause, data, here, issues, matched, written⟩ := draft
    refine ⟨before, whereClause, data, here, ?_, matched, written⟩
    unfold Knowledge.Issues
    rw [command_observe, user_observe permitted inside]
    exact issues
  update k tx table i whereClause data before permitted matched :=
    ⟨before, whereClause, data, rfl, permitted.2.2, matched, rfl⟩
  again k tx table i whereClause data committed after permitted draft matched := by
    obtain ⟨before, _, _, here, issues, matched', rfl⟩ := draft
    obtain ⟨rfl, rfl⟩ := issues.unique permitted.2.2
    exact ⟨before, _, _, here, issues, matched', issues.again matched' matched⟩
  insert k tx table row permitted := permitted.elim

abbrev Ledger := discipline.View

abbrev ledger (w : World service) : Ledger := discipline.view w

namespace Ledger

structure Locked (v : Ledger) : Prop where
  separate : v.store.Separate
  exclusive : enlisted.Exclusive v
  written : enlisted.Written Draft v
  loaded : ∀ i k user, v.clients i = some k → k.user = some user →
    ∃ j row origin, rowAt v.store j = some row ∧ toUserEntity origin = .ok user ∧
      Precedes origin row
  /-- Once a row is written, and until the transaction ends, the draft is there. -/
  wrote : ∀ i k tx, v.clients i = some k → k.Open tx → k.wrote →
    ∃ j after, v.store.draftAt () tx j = some after
  reread : ∀ i k tx row, v.clients i = some k → k.Open tx → k.wrote → k.reread = some row →
    ∃ j, v.store.draftAt () tx j = some row
  honest : ∀ i k error, v.clients i = some k → k.commit ≠ some (.error (.domain error))
  entered : ∀ i k, v.clients i = some k → k.commit ≠ none → ∃ tx, k.tx = some tx

variable {v v' : Ledger} {n : Nat} {c : SqlCall userSchema} {reply : Except Failure c.Reply}

/-- All the rows one transaction has written are the same row. -/
theorem Locked.one_row (h : v.Locked) {i tx j j' : Nat} {k : Knowledge} (client : v.clients i = some k)
    (inside : k.tx = some tx) {after after' : UserRow} (draft : v.store.draftAt () tx j = some after)
    (draft' : v.store.draftAt () tx j' = some after') : j = j' := by
  obtain ⟨before, _, _, here, issues, matched, -⟩ :=
    h.written i k tx () j after client inside draft
  obtain ⟨before', _, _, here', issues', matched', -⟩ :=
    h.written i k tx () j' after' client inside draft'
  obtain ⟨cell, found, committed⟩ := Database.committedAt_eq_some.mp here
  obtain ⟨cell', found', committed'⟩ := Database.committedAt_eq_some.mp here'
  by_contra ne
  have apart := (h.separate () j j' cell cell' ne found found').committed before before' committed
    committed'
  obtain ⟨rfl, -⟩ := issues.unique issues'
  exact (usersClash_eq_none.mp apart).1 (issues.same_id matched matched')

/-- A commit makes a version the committed one. -/
structure Commits (v v' : Ledger) (n : Nat) (k : Knowledge) (before after : UserRow) : Prop where
  client : v.clients n = some k
  inside : ∃ tx, k.tx = some tx
  unasked : k.commit = none
  asked : ∃ reply, v'.clients n = some { k with commit := some reply }
  update : ∃ whereClause data, k.Issues whereClause data ∧ whereClause before ∧ after = data before
  shown : ∀ lookup calls, k.command = .edit lookup calls → k.reread = some after
  place : ∃ j, rowAt v.store j = some before ∧ rowAt v'.store j = some after ∧
    ∀ j', j' ≠ j → rowAt v'.store j' = rowAt v.store j'

theorem Locked.commits (h : v.Locked) {tx j : Nat} {after : UserRow}
    (client : v.clients n = some k) (permitted : permits k (.commit tx))
    (draft : v.store.draftAt () tx j = some after) (reply : Except Failure Unit) : ∃ before,
      Commits v ⟨v.store.commit tx,
        Function.update v.clients n (some (observe k (.commit tx) reply))⟩ n k before after := by
  obtain ⟨still, wrote⟩ := permitted
  obtain ⟨before, whereClause, data, here, issues, matched, written⟩ :=
    h.written n k tx () j after client still.1 draft
  refine ⟨before, client, ⟨tx, still.1⟩, still.2.1, ⟨reply, Function.update_self ..⟩,
    ⟨whereClause, data, issues, matched, written⟩, fun lookup calls edits => ?_, j, here, ?_,
    fun j' ne => ?_⟩
  · obtain ⟨wrote, reread⟩ := wrote lookup calls edits
    obtain ⟨row, shown⟩ := Option.isSome_iff_exists.mp reread
    obtain ⟨j', draft'⟩ := h.reread n k tx row client still wrote shown
    cases h.one_row client still.1 draft draft'
    cases draft.symm.trans draft'
    exact shown
  · rw [rowAt, Database.committedAt_commit, draft, Option.some_or]
  · have undrafted : v.store.draftAt () tx j' = none := by
      by_contra drafted
      obtain ⟨version, draft'⟩ := Option.ne_none_iff_exists'.mp drafted
      exact ne (h.one_row client still.1 draft' draft)
    rw [rowAt, Database.committedAt_commit, undrafted, Option.none_or]

/-- All a step does to the committed rows. -/
theorem Locked.rows_step (h : v.Locked) {e : Event service}
    (hstep : Discipline.View.Step discipline v e v') :
    (∀ j, rowAt v'.store j = rowAt v.store j) ∨
      ∃ n fate k before after, e = .advance n fate ∧ Commits v v' n k before after := by
  cases hstep with
  | join command free => exact .inl fun _ => rfl
  | @settle n fate k c reply db client permitted settled =>
    rcases Classical.em (∃ tx, c = .commit tx ∧ db = v.store.commit tx) with
      ⟨tx, rfl, rfl⟩ | uncommitted
    · rcases Classical.em (∃ j after, v.store.draftAt () tx j = some after) with
        ⟨j, after, draft⟩ | drafted
      · obtain ⟨before, commits⟩ := h.commits client permitted draft reply
        exact .inr ⟨n, fate, k, before, after, rfl, commits⟩
      · refine .inl fun j => ?_
        have undrafted : v.store.draftAt () tx j = none :=
          Option.eq_none_iff_forall_ne_some.mpr fun after draft => drafted ⟨j, after, draft⟩
        rw [rowAt, Database.committedAt_commit, undrafted, Option.none_or]
    · exact .inl fun j => ((settle_moves settled).committedAt () j).resolve_right uncommitted

section

variable {fate : Fate service} {db : Database userSchema}

theorem Locked.row_step (h : v.Locked) {e : Event service}
    (hstep : Discipline.View.Step discipline v e v') {j : Nat} {row : UserRow}
    (here : rowAt v.store j = some row) : ∃ row', rowAt v'.store j = some row' ∧ Precedes row row' := by
  rcases h.rows_step hstep with same | ⟨n, fate, k, before, after, -, commits⟩
  · exact ⟨row, (same j).trans here, .refl row⟩
  · obtain ⟨whereClause, data, issues, matched, rfl⟩ := commits.update
    obtain ⟨place, hbefore, hafter, others⟩ := commits.place
    by_cases same : j = place
    · subst same
      cases here.symm.trans hbefore
      exact ⟨data row, hafter, issues.precedes row⟩
    · exact ⟨row, (others j same).trans here, .refl row⟩

/-- What a client loads, it loads from a committed row. -/
theorem loads_row {rows : List UserRow} {user : User} {whereClause : UserRow → Bool}
    (selected : rows = (v.store.heap ()).select none whereClause) (h : k.loads rows = some user) :
    ∃ j row, rowAt v.store j = some row ∧ toUserEntity row = .ok user := by
  unfold Knowledge.loads at h
  split at h
  · rename_i lookup calls edits
    have read : readUser lookup rows = .ok (some user) := by
      cases result : readUser lookup rows with
      | error failure => simp [result, Except.toOption] at h
      | ok found => simpa [result, Except.toOption] using h
    obtain ⟨row, hrow, entity⟩ : ∃ row ∈ rows, toUserEntity row = .ok user := by
      cases lookup with
      | byId id includeDeleted =>
        obtain ⟨row, hrow, -, entity⟩ := PrismaUserRepository.findById_eq_some read
        exact ⟨row, hrow, entity⟩
      | byEmail email includeDeleted =>
        obtain ⟨row, hrow, -, entity⟩ := PrismaUserRepository.findByEmail_eq_some read
        exact ⟨row, hrow, entity⟩
    obtain ⟨j, cell, found, committed, -⟩ := Heap.mem_select.mp (selected ▸ hrow)
    exact ⟨j, row, by simpa [rowAt, Database.committedAt, found] using committed, entity⟩
  · cases h

theorem Locked.loaded_settle (h : v.Locked) (client : v.clients n = some k)
    (permitted : permits k c) (settled : fate.settle c v.store = some (reply, db)) {i : Nat}
    {k' : Knowledge} {user : User}
    (client' : Function.update v.clients n (some (observe k c reply)) i = some k')
    (loaded : k'.user = some user) : ∃ j row origin, rowAt v.store j = some row ∧
      toUserEntity origin = .ok user ∧ Precedes origin row := by
  rcases Discipline.update_client.mp client' with ⟨rfl, rfl⟩ | ⟨ne, old⟩
  · cases c with
    | select tx table whereClause =>
      cases reply with
      | error failure => cases tx <;> exact h.loaded _ k user client loaded
      | ok rows =>
        cases tx with
        | some tx => exact h.loaded _ k user client loaded
        | none =>
          have answered := settle_answer settled
          cases answered
          obtain ⟨j, row, here, entity⟩ := loads_row rfl loaded
          exact ⟨j, row, row, here, entity, .refl row⟩
    | begin => cases reply <;> exact h.loaded _ k user client loaded
    | commit => exact h.loaded _ k user client loaded
    | rollback => exact h.loaded _ k user client loaded
    | targets => exact h.loaded _ k user client loaded
    | insert => exact permitted.elim
    | update =>
      rcases reply with failure | (_ | _) <;> exact h.loaded _ k user client loaded
  · exact h.loaded i k' user old loaded

theorem Locked.foreign (h : v.Locked) (client : v.clients n = some k) (permitted : permits k c)
    {i tx : Nat} {k' : Knowledge} (old : v.clients i = some k') (inside : k'.tx = some tx)
    (ne : i ≠ n) : c.tx? ≠ some tx := fun mine =>
  ne (h.exclusive.distinct i n k' k tx old client inside (enlisted.own k c tx permitted mine))

theorem Locked.wrote_settle (h : v.Locked) (client : v.clients n = some k)
    (permitted : permits k c) (settled : fate.settle c v.store = some (reply, db)) {i tx : Nat}
    {k' : Knowledge} (client' : Function.update v.clients n (some (observe k c reply)) i = some k')
    (still : k'.Open tx) (wrote : k'.wrote) : ∃ j after, db.draftAt () tx j = some after := by
  have moves := settle_moves settled
  rcases Discipline.update_client.mp client' with ⟨rfl, rfl⟩ | ⟨ne, old⟩
  · have kept (still : k.Open tx) (wrote : k.wrote) (running : c ≠ .commit tx ∧ c ≠ .rollback tx) :
        ∃ j after, db.draftAt () tx j = some after := by
      obtain ⟨j, after, draft⟩ := h.wrote _ k tx client still wrote
      exact ⟨j, moves.draftAt_kept draft running.1 running.2⟩
    cases c with
    | begin =>
      cases reply with
      | ok id => cases wrote
      | error failure =>
        cases (permitted : k.tx = none).symm.trans still.1
    | commit => cases still.2.1
    | rollback => cases still.2.2
    | insert => exact permitted.elim
    | targets => exact kept still wrote ⟨nofun, nofun⟩
    | select tx' table whereClause =>
      rcases tx' with _ | tx' <;> rcases reply with failure | rows <;>
        exact kept still wrote ⟨nofun, nofun⟩
    | update tx' table place whereClause data =>
      rcases reply with failure | (_ | _)
      · exact kept still wrote ⟨nofun, nofun⟩
      · exact kept still wrote ⟨nofun, nofun⟩
      · cases permitted.1.1.symm.trans still.1
        obtain ⟨row, -, draft⟩ := update_drafts (settle_answer settled)
        exact ⟨place, data row, draft⟩
  · obtain ⟨j, after, draft⟩ := h.wrote i k' tx old still wrote
    exact ⟨j, after, (moves.draftAt_foreign (h.foreign client permitted old still.1 ne) j).trans draft⟩

/-- The re-read shows a client its own version. -/
theorem Locked.reread_own (h : v.Locked) (client : v.clients n = some k) {tx : Nat} {user : User}
    {lookup : UserLookup} {calls : List (Date × UserMethod)} (edits : k.command = .edit lookup calls)
    (loaded : k.user = some user) (still : k.Open tx) (wrote : k.wrote) {row : UserRow}
    (shown : row ∈ (v.store.heap ()).select (some tx) (rowOf user.id)) :
    ∃ j, v.store.draftAt () tx j = some row := by
  obtain ⟨j, after, draft⟩ := h.wrote n k tx client still wrote
  obtain ⟨before, whereClause, data, here, issues, matched, rfl⟩ :=
    h.written n k tx () j after client still.1 draft
  obtain ⟨cell, found, pending⟩ := Database.draftAt_eq_some.mp draft
  obtain ⟨j', other, found', visible, named⟩ := Heap.mem_select.mp shown
  rcases Cell.visible_eq_some.mp visible with owned | ⟨unowned, current⟩
  · exact ⟨j', Database.draftAt_eq_some.mpr ⟨other, found', Cell.own_eq_some.mp owned⟩⟩
  have ne : j ≠ j' := by
    rintro rfl
    cases found.symm.trans found'
    rw [Cell.own_eq_some.mpr pending] at unowned
    contradiction
  have apart := (h.separate () j j' cell other ne found found').overtaken tx (data before) row pending
    current unowned
  have sameId : (data before).id = row.id := by
    have issues' : k.Issues (lockedOn (user.applyAll calls).toSnapshot) _ :=
      .inl ⟨lookup, calls, user, edits, loaded, rfl, rfl⟩
    obtain ⟨rfl, -⟩ := issues'.unique issues
    simp only [lockedOn, User.toSnapshot, User.applyAll_id, Bool.and_eq_true, decide_eq_true_eq,
      rowOf] at matched named
    exact (issues.precedes before).id.trans (matched.1.trans named.symm)
  exact absurd sameId (usersClash_eq_none.mp apart).1

theorem Locked.reread_settle (h : v.Locked) (client : v.clients n = some k)
    (permitted : permits k c) (settled : fate.settle c v.store = some (reply, db)) {i tx : Nat}
    {k' : Knowledge} {row : UserRow}
    (client' : Function.update v.clients n (some (observe k c reply)) i = some k')
    (still : k'.Open tx) (wrote : k'.wrote) (reread : k'.reread = some row) :
    ∃ j, db.draftAt () tx j = some row := by
  have moves := settle_moves settled
  rcases Discipline.update_client.mp client' with ⟨rfl, rfl⟩ | ⟨ne, old⟩
  · cases c with
    | begin =>
      cases reply with
      | ok id => cases wrote
      | error failure =>
        cases (permitted : k.tx = none).symm.trans still.1
    | commit => cases still.2.1
    | rollback => cases still.2.2
    | insert => exact permitted.elim
    | update =>
      have unread : k.reread = some row := by
        rcases reply with failure | (_ | _) <;> exact reread
      cases permitted.2.1.symm.trans unread
    | targets =>
      cases moves
      exact h.reread _ k tx row client still wrote reread
    | select tx' table whereClause =>
      cases moves
      rcases tx' with _ | tx'
      · rcases reply with failure | rows <;> exact h.reread _ k tx row client still wrote reread
      rcases reply with failure | rows
      · exact h.reread _ k tx row client still wrote reread
      obtain ⟨mine, lookup, calls, user, edits, loaded, rfl⟩ := permitted
      cases mine.1.symm.trans still.1
      have answered := settle_answer settled
      cases answered
      exact h.reread_own client edits loaded still wrote (List.mem_of_head? reread)
  · obtain ⟨j, draft⟩ := h.reread i k' tx row old still wrote reread
    exact ⟨j, (moves.draftAt_foreign (h.foreign client permitted old still.1 ne) j).trans draft⟩

theorem Locked.honest_settle (h : v.Locked) (client : v.clients n = some k)
    (permitted : permits k c) (settled : fate.settle c v.store = some (reply, db)) {i : Nat}
    {k' : Knowledge} (client' : Function.update v.clients n (some (observe k c reply)) i = some k')
    (error : DomainError) : k'.commit ≠ some (.error (.domain error)) := by
  rcases Discipline.update_client.mp client' with ⟨rfl, rfl⟩ | ⟨ne, old⟩
  · have honest := h.honest _ k error client
    cases c with
    | commit tx =>
      intro asked
      obtain rfl : reply = .error (.domain error) := Option.some.inj asked
      rcases settle_error settled with ⟨target, raised⟩ | ⟨fault, raised⟩
      · cases raised
      · exact fault.raise_ne_domain error raised.symm
    | begin => cases reply <;> exact honest
    | rollback => exact honest
    | targets => exact honest
    | insert => exact honest
    | select tx => rcases tx with _ | tx <;> cases reply <;> exact honest
    | update => rcases reply with failure | (_ | _) <;> exact honest
  · exact h.honest i k' error old

theorem Locked.entered_settle (h : v.Locked) (client : v.clients n = some k)
    (permitted : permits k c) {i : Nat} {k' : Knowledge}
    (client' : Function.update v.clients n (some (observe k c reply)) i = some k')
    (asked : k'.commit ≠ none) : ∃ tx, k'.tx = some tx := by
  rcases Discipline.update_client.mp client' with ⟨rfl, rfl⟩ | ⟨ne, old⟩
  · have kept (asked : k.commit ≠ none) : ∃ tx, (observe k c reply).tx = some tx := by
      obtain ⟨tx, inside⟩ := h.entered _ k client asked
      exact ⟨tx, enlisted.keeps permitted inside⟩
    cases c with
    | commit tx => exact ⟨tx, permitted.1.1⟩
    | begin => cases reply <;> exact kept asked
    | rollback => exact kept asked
    | targets => exact kept asked
    | insert => exact kept asked
    | select tx => rcases tx with _ | tx <;> cases reply <;> exact kept asked
    | update => rcases reply with failure | (_ | _) <;> exact kept asked
  · exact h.entered i k' old asked

theorem Locked.step (h : v.Locked) {e : Event service}
    (hstep : Discipline.View.Step discipline v e v') : v'.Locked := by
  have exclusive := enlisted.exclusive_step h.exclusive hstep
  have written := drafts.step h.exclusive h.written hstep
  have follow {origin : UserRow} (before : ∃ j row, rowAt v.store j = some row ∧ Precedes origin row) :
      ∃ j row, rowAt v'.store j = some row ∧ Precedes origin row := by
    obtain ⟨j, row, here, precedes⟩ := before
    obtain ⟨row', there, precedes'⟩ := h.row_step hstep here
    exact ⟨j, row', there, precedes.trans precedes'⟩
  cases hstep with
  | @join n command free =>
    have known {i : Nat} {k : Knowledge}
        (hi : Function.update v.clients n (some (.start command)) i = some k) :
        k = .start command ∨ v.clients i = some k := by
      rcases Discipline.update_client.mp hi with ⟨-, rfl⟩ | ⟨-, old⟩
      · exact .inl rfl
      · exact .inr old
    refine ⟨h.separate, exclusive, written, fun i k user hi => ?_,
      fun i k tx hi => ?_, fun i k tx row hi => ?_, fun i k error hi => ?_, fun i k hi => ?_⟩ <;>
      rcases known hi with rfl | old
    · nofun
    · exact h.loaded i k user old
    · nofun
    · exact h.wrote i k tx old
    · nofun
    · exact h.reread i k tx row old
    · nofun
    · exact h.honest i k error old
    · exact fun asked => absurd rfl asked
    · exact h.entered i k old
  | @settle n fate k c reply db client permitted settled =>
    refine ⟨(settle_moves settled).separate h.separate, exclusive, written,
      fun i k user hi loaded => ?_, fun i k tx hi still wrote =>
        h.wrote_settle client permitted settled hi still wrote,
      fun i k tx row hi still wrote reread =>
        h.reread_settle client permitted settled hi still wrote reread,
      fun i k error hi => h.honest_settle client permitted settled hi error,
      fun i k hi asked => h.entered_settle client permitted hi asked⟩
    obtain ⟨j, row, origin, here, entity, precedes⟩ :=
      h.loaded_settle client permitted settled hi loaded
    obtain ⟨j', row', there, precedes'⟩ := follow ⟨j, row, here, precedes⟩
    exact ⟨j', row', origin, there, entity, precedes'⟩

end

end Ledger

end TenantOS.Users
