import TenantOS.Relational.Transactions
import TenantOS.Interleaving.Allotment

/-! Clients with one transaction each. What a client has written stays as it wrote it
until it commits or rolls back; nobody else can touch it. -/
namespace TenantOS.Relational

open TenantOS.Interleaving

variable {S : Schema}

section

variable {ε Fault Command Outcome : Type} {violation : List String → ε} {raise : Fault → ε}
  {body : Command → Program (sqlInterface S) ε Outcome}

theorem settle_moves {fate : Fate (sqlService S violation raise body)} {c : SqlCall S}
    {reply : Except ε c.Reply} {db db' : Database S}
    (h : fate.settle c db = some (reply, db')) : Moves db c db' := by
  rcases fate.settle_store h with rfl | ⟨_, reply', hanswer⟩
  · exact .still c
  · obtain ⟨⟨result, after⟩, answered, same⟩ := Option.map_eq_some_iff.mp hanswer
    cases same
    exact answer_moves answered

theorem settle_answer {fate : Fate (sqlService S violation raise body)} {c : SqlCall S}
    {value : c.Reply} {db db' : Database S} (h : fate.settle c db = some (.ok value, db')) :
    c.answer db = some (.ok value, db') := by
  obtain ⟨input, -, hanswer⟩ := fate.settle_ok h
  obtain ⟨⟨result, after⟩, answered, same⟩ := Option.map_eq_some_iff.mp hanswer
  cases result with
  | error target => cases same
  | ok value' =>
    cases same
    exact answered

theorem settle_error {fate : Fate (sqlService S violation raise body)} {c : SqlCall S}
    {failure : ε} {db db' : Database S} (h : fate.settle c db = some (.error failure, db')) :
    (∃ target, failure = violation target) ∨ ∃ fault, failure = raise fault := by
  cases fate with
  | answered input =>
    obtain ⟨⟨result, after⟩, -, same⟩ := Option.map_eq_some_iff.mp h
    cases result with
    | error target =>
      cases same
      exact .inl ⟨target, rfl⟩
    | ok value => cases same
  | lost fault =>
    cases h
    exact .inr ⟨fault, rfl⟩
  | unheard input fault =>
    obtain ⟨settled, -, same⟩ := Option.map_eq_some_iff.mp h
    cases same
    exact .inr ⟨fault, rfl⟩

/-- Every statement of a client belongs to the one transaction it has begun. -/
structure Enlisted (d : Discipline (sqlService S violation raise body)) where
  tx : d.State → Option Nat
  outside : ∀ command, tx (d.initial command) = none
  once : ∀ k, d.permits k .begin → tx k = none
  enters : ∀ k id, d.permits k .begin → tx (d.observe k SqlCall.begin (.ok id)) = some id
  fails : ∀ k failure, tx (d.observe k SqlCall.begin (.error failure)) = tx k
  stays : ∀ k c reply, c ≠ SqlCall.begin → tx (d.observe k c reply) = tx k
  own : ∀ k c id, d.permits k c → c.tx? = some id → tx k = some id

variable {d : Discipline (sqlService S violation raise body)}

namespace Enlisted

variable (e : Enlisted d)

structure Exclusive (v : d.View) : Prop where
  begun : ∀ i k id, v.clients i = some k → e.tx k = some id → id < v.store.begun
  distinct : ∀ i j k k' id, v.clients i = some k → v.clients j = some k' → e.tx k = some id →
    e.tx k' = some id → i = j
  held : ∀ (table : S.Table) (j : Nat) cell id row, (v.store.heap table)[j]? = some cell →
    cell.pending = some (id, row) → ∃ i k, v.clients i = some k ∧ e.tx k = some id

/-- Once it has a transaction, a client keeps it. -/
theorem keeps {k : d.State} {c : SqlCall S} {reply : Except ε c.Reply} {id : Nat}
    (permitted : d.permits k c) (h : e.tx k = some id) : e.tx (d.observe k c reply) = some id := by
  by_cases begins : c = .begin
  · subst begins
    rw [e.once k permitted] at h
    contradiction
  · rw [e.stays k c reply begins, h]

/-- A transaction a client has now, it had before, or it has just begun. -/
theorem had {fate : Fate (sqlService S violation raise body)} {k : d.State} {c : SqlCall S}
    {reply : Except ε c.Reply} {db db' : Database S} {id : Nat} (permitted : d.permits k c)
    (settled : fate.settle c db = some (reply, db')) (h : e.tx (d.observe k c reply) = some id) :
    e.tx k = some id ∨
      (c = .begin ∧ id = db.begun ∧ db' = { db with begun := db.begun + 1 }) := by
  by_cases begins : c = .begin
  · subst begins
    cases reply with
    | error failure => exact .inl (e.fails k failure ▸ h)
    | ok value =>
      have answered := Option.some.inj (settle_answer settled)
      cases answered
      exact .inr ⟨rfl, Option.some.inj (h.symm.trans (e.enters k _ permitted)), rfl⟩
  · exact .inl (e.stays k c reply begins ▸ h)

/-- Transactions are numbered as they begin. -/
theorem Exclusive.allotted {v : d.View} (h : e.Exclusive v) :
    Allotted (fun k id => e.tx k = some id) (· < v.store.begun) v.clients where
  issued i k client id := h.begun i k id client
  own i j k k' client client' id := h.distinct i j k k' id client client'

theorem exclusive_of_allotted {v : d.View}
    (allotted : Allotted (fun k id => e.tx k = some id) (· < v.store.begun) v.clients)
    (held : ∀ (table : S.Table) (j : Nat) cell id row, (v.store.heap table)[j]? = some cell →
      cell.pending = some (id, row) → ∃ i k, v.clients i = some k ∧ e.tx k = some id) :
    e.Exclusive v where
  begun i k id client := allotted.issued i k client id
  distinct i j k k' id client client' := allotted.own i j k k' client client' id
  held := held

theorem exclusive_step {v v' : d.View} {event : Event (sqlService S violation raise body)}
    (h : e.Exclusive v) (hstep : Discipline.View.Step d v event v') : e.Exclusive v' := by
  cases hstep with
  | @join n command free =>
    refine exclusive_of_allotted e (h.allotted.join ?_) fun table j cell id row found pending => ?_
    · intro id hid
      rw [e.outside] at hid
      contradiction
    · obtain ⟨i, k, client, hid⟩ := h.held table j cell id row found pending
      exact ⟨i, k, Discipline.update_client.mpr (.inr ⟨fun same => by
        subst same
        rw [free] at client
        contradiction, client⟩), hid⟩
  | @settle n fate k c reply db client permitted settled =>
    have moves := settle_moves settled
    refine exclusive_of_allotted e (h.allotted.draw client ?_ ?_)
      fun table j cell id row found pending => ?_
    · intro id earlier
      exact Nat.lt_of_lt_of_le earlier moves.begun_le
    · intro id hid
      rcases e.had permitted settled hid with before | ⟨-, rfl, rfl⟩
      · exact .inl before
      · exact .inr ⟨Nat.lt_irrefl _, Nat.lt_succ_self _⟩
    · have here (before : e.tx k = some id) : ∃ i k', Function.update v.clients n
          (some (d.observe k c reply)) i = some k' ∧ e.tx k' = some id :=
        ⟨n, _, Function.update_self .., e.keeps permitted before⟩
      by_cases mine : c.tx? = some id
      · exact here (e.own k c id permitted mine)
      · obtain ⟨i, k', old, hid⟩ := h.held table j cell id row (moves.foreign mine found pending) pending
        by_cases same : i = n
        · subst same
          cases client.symm.trans old
          exact here hid
        · exact ⟨i, k', Discipline.update_client.mpr (.inr ⟨same, old⟩), hid⟩

/-! What the clients' drafts look like. -/

/-- A monitored client only ever writes drafts such as `P` describes, given what is
committed underneath and what the client knows. -/
structure Drafts (P : d.State → (table : S.Table) → Option (S.Row table) → S.Row table → Prop) :
    Prop where
  stable : ∀ k c reply tx table committed row, d.permits k c → e.tx k = some tx →
    P k table committed row → P (d.observe k c reply) table committed row
  update : ∀ k tx table i whereClause data row, d.permits k (.update tx table i whereClause data) →
    whereClause row → P k table (some row) (data row)
  again : ∀ k tx table i whereClause data committed row,
    d.permits k (.update tx table i whereClause data) → P k table committed row →
    whereClause row → P k table committed (data row)
  insert : ∀ k tx table row, d.permits k (.insert tx table row) → P k table none row

variable {e} {P : d.State → (table : S.Table) → Option (S.Row table) → S.Row table → Prop}

def Written (e : Enlisted d)
    (P : d.State → (table : S.Table) → Option (S.Row table) → S.Row table → Prop) (v : d.View) :
    Prop :=
  ∀ i k tx table j row, v.clients i = some k → e.tx k = some tx →
    v.store.draftAt table tx j = some row → P k table (v.store.committedAt table j) row

/-- Inside its transaction, a client's statement finds only drafts that `P` describes. -/
theorem Drafts.settle (drafts : e.Drafts P) {db db' : Database S} {k : d.State} {c : SqlCall S}
    {reply : Except ε c.Reply} {tx : Nat} (moves : Moves db c db') (permitted : d.permits k c)
    (enlisted : e.tx k = some tx) {table : S.Table} {j : Nat}
    (before : ∀ row, db.draftAt table tx j = some row → P k table (db.committedAt table j) row)
    {row : S.Row table} (draft : db'.draftAt table tx j = some row) :
    P (d.observe k c reply) table (db'.committedAt table j) row := by
  refine drafts.stable k c reply tx table _ row permitted enlisted ?_
  have mine {own : Nat} (h : c.tx? = some own) : own = tx :=
    Option.some.inj ((e.own k c own permitted h).symm.trans enlisted)
  cases moves with
  | still => exact before row draft
  | begin => exact before row draft
  | commit own =>
    cases mine rfl
    obtain ⟨cell, found, pending⟩ := Database.draftAt_eq_some.mp draft
    obtain ⟨other, -, rfl⟩ := Option.map_eq_some_iff.mp (List.getElem?_map ▸ found)
    exact absurd rfl (Cell.commit_pending pending).1
  | rollback own =>
    cases mine rfl
    obtain ⟨cell, found, pending⟩ := Database.draftAt_eq_some.mp draft
    obtain ⟨other, -, rfl⟩ := Option.map_eq_some_iff.mp (List.getElem?_map ▸ found)
    exact absurd rfl (Cell.rollback_pending pending).1
  | @update own updated i whereClause data locked version found free visible matched admitted =>
    cases mine rfl
    by_cases same : table = updated
    · subst same
      by_cases here : i = j
      · subst here
        have inRange := (List.getElem?_eq_some_iff.mp found).1
        rw [Database.draftAt, Database.set_heap, List.getElem?_set_self inRange,
          Option.bind_some, Cell.own_write] at draft
        cases draft
        have committed : (db.set table ((db.heap table).set i (locked.write tx (data version)))).committedAt
            table i = db.committedAt table i := by
          rw [Database.committedAt, Database.committedAt, Database.set_heap,
            List.getElem?_set_self inRange, found]
          rfl
        rw [committed]
        rcases Cell.visible_eq_some.mp visible with owned | ⟨-, current⟩
        · exact drafts.again k tx table i whereClause data _ version permitted
            (before version (Database.draftAt_eq_some.mpr ⟨locked, found, Cell.own_eq_some.mp owned⟩))
            matched
        · rw [Database.committedAt_eq_some.mpr ⟨locked, found, current⟩]
          exact drafts.update k tx table i whereClause data version permitted matched
      · rw [Database.draftAt, Database.set_heap, List.getElem?_set_ne here] at draft
        rw [Database.committedAt, Database.set_heap, List.getElem?_set_ne here]
        exact before row draft
    · rw [Database.draftAt, Database.set_heap_of_ne same] at draft
      rw [Database.committedAt, Database.set_heap_of_ne same]
      exact before row draft
  | @insert own inserted version admitted =>
    cases mine rfl
    by_cases same : table = inserted
    · subst same
      obtain ⟨cell, found, pending⟩ := Database.draftAt_eq_some.mp draft
      rw [Database.set_heap] at found
      rcases concat_eq_some.mp found with old | ⟨rfl, rfl⟩
      · rw [Database.committedAt, Database.set_heap, found]
        have := before row (Database.draftAt_eq_some.mpr ⟨cell, old, pending⟩)
        rwa [Database.committedAt, old] at this
      · cases pending
        rw [Database.committedAt, Database.set_heap, found]
        exact drafts.insert k tx table row permitted
    · rw [Database.draftAt, Database.set_heap_of_ne same] at draft
      rw [Database.committedAt, Database.set_heap_of_ne same]
      exact before row draft

theorem Drafts.step (drafts : e.Drafts P) {v v' : d.View}
    {event : Event (sqlService S violation raise body)} (exclusive : e.Exclusive v)
    (h : e.Written P v) (hstep : Discipline.View.Step d v event v') : e.Written P v' := by
  cases hstep with
  | @join n command free =>
    intro i k tx table j row client enlisted draft
    rcases Discipline.update_client.mp client with ⟨-, rfl⟩ | ⟨-, old⟩
    · rw [e.outside] at enlisted
      contradiction
    · exact h i k tx table j row old enlisted draft
  | @settle n fate k c reply db client permitted settled =>
    intro i k' tx table j row client' enlisted draft
    have moves := settle_moves settled
    rcases Discipline.update_client.mp client' with ⟨rfl, rfl⟩ | ⟨ne, old⟩
    · rcases e.had permitted settled enlisted with before | ⟨rfl, rfl, rfl⟩
      · exact drafts.settle moves permitted before
          (fun row => h _ k tx table j row client before) draft
      · -- a transaction just begun has written nothing
        obtain ⟨cell, found, pending⟩ := Database.draftAt_eq_some.mp draft
        obtain ⟨i', k', client', enlisted'⟩ := exclusive.held table j cell _ row found pending
        exact absurd (exclusive.begun i' k' _ client' enlisted') (Nat.lt_irrefl _)
    · have foreign : c.tx? ≠ some tx := fun mine =>
        ne (exclusive.distinct i n k' k tx old client enlisted (e.own k c tx permitted mine))
      have draft' := (moves.draftAt_foreign foreign j).symm.trans draft
      rw [moves.committedAt_locked draft' fun same => foreign (by rw [same]; rfl)]
      exact h i k' tx table j row old enlisted draft'

end Enlisted

end

end TenantOS.Relational
