import TenantOS.Relational.ReadCommitted
import TenantOS.Interleaving.Schedule

/-! Transactions of several clients over one READ COMMITTED database, statement by
statement. An update statement looks for its rows once and then visits them one by
one, so that other transactions may commit in between. -/
namespace TenantOS.Relational

open TenantOS.Interleaving

structure Schema where
  Table : Type
  Row : Table → Type
  /-- The columns of the unique index two rows collide on. -/
  clash : (table : Table) → Row table → Row table → Option (List String)
  symm : ∀ table row row', clash table row row' = none → clash table row' row = none
  [decEq : DecidableEq Table]

attribute [instance] Schema.decEq

structure Database (S : Schema) where
  heap : (table : S.Table) → Heap (S.Row table)
  /-- How many transactions have begun. -/
  begun : Nat

variable {S : Schema}

namespace Database

def set (db : Database S) (table : S.Table) (heap : Heap (S.Row table)) : Database S :=
  { db with heap := Function.update db.heap table heap }

def commit (tx : Nat) (db : Database S) : Database S :=
  { db with heap := fun table => (db.heap table).commit tx }

def rollback (tx : Nat) (db : Database S) : Database S :=
  { db with heap := fun table => (db.heap table).rollback tx }

@[simp] theorem set_heap {db : Database S} {table : S.Table} {heap : Heap (S.Row table)} :
    (db.set table heap).heap table = heap := by
  simp [set]

theorem set_heap_of_ne {db : Database S} {table other : S.Table} {heap : Heap (S.Row table)}
    (ne : other ≠ table) : (db.set table heap).heap other = db.heap other := by
  simp [set, ne]

/-- The committed row, by the place it was inserted at. -/
def committedAt (db : Database S) (table : S.Table) (j : Nat) : Option (S.Row table) :=
  (db.heap table)[j]?.bind Cell.committed

/-- The version a transaction has written there, and not yet committed. -/
def draftAt (db : Database S) (table : S.Table) (tx j : Nat) : Option (S.Row table) :=
  (db.heap table)[j]?.bind (Cell.own tx)

theorem committedAt_eq_some {db : Database S} {table : S.Table} {j : Nat} {row : S.Row table} :
    db.committedAt table j = some row ↔
      ∃ cell, (db.heap table)[j]? = some cell ∧ cell.committed = some row :=
  Option.bind_eq_some_iff

theorem draftAt_eq_some {db : Database S} {table : S.Table} {tx j : Nat} {row : S.Row table} :
    db.draftAt table tx j = some row ↔
      ∃ cell, (db.heap table)[j]? = some cell ∧ cell.pending = some (tx, row) := by
  simp only [draftAt, Option.bind_eq_some_iff, Cell.own_eq_some]

/-- A commit makes its drafts current, and nothing else. -/
theorem committedAt_commit {db : Database S} {tx : Nat} {table : S.Table} {j : Nat} :
    (db.commit tx).committedAt table j = (db.draftAt table tx j).or (db.committedAt table j) := by
  simp only [committedAt, draftAt, commit, Heap.commit, List.getElem?_map]
  cases (db.heap table)[j]? with
  | none => rfl
  | some cell =>
    cases mine : cell.own tx with
    | none => simp [mine, Cell.commit_of_none]
    | some row => simp [mine, Cell.commit_of_own]

/-- No transaction is in progress. -/
def Quiet (db : Database S) : Prop :=
  ∀ table, ∀ cell ∈ db.heap table, cell.pending = none

def Separate (db : Database S) : Prop :=
  ∀ table, Heap.Separate (S.clash table) (db.heap table)

end Database

inductive SqlCall (S : Schema) where
  | begin
  | commit (tx : Nat)
  | rollback (tx : Nat)
  /-- Outside a transaction, a statement of its own. -/
  | select (tx : Option Nat) (table : S.Table) (whereClause : S.Row table → Bool)
  | targets (tx : Nat) (table : S.Table) (whereClause : S.Row table → Bool)
  | update (tx : Nat) (table : S.Table) (i : Nat) (whereClause : S.Row table → Bool)
      (data : S.Row table → S.Row table)
  | insert (tx : Nat) (table : S.Table) (row : S.Row table)

def SqlCall.Reply : SqlCall S → Type
  | .begin => Nat
  | .commit _ => Unit
  | .rollback _ => Unit
  | .select _ table _ => List (S.Row table)
  | .targets .. => List Nat
  | .update .. => Bool
  | .insert .. => Unit

abbrev sqlInterface (S : Schema) : Interface where
  Call := SqlCall S
  Reply := SqlCall.Reply

/-- `none` while the statement waits for a lock. -/
def SqlCall.answer : (c : SqlCall S) → Database S →
    Option (Except (List String) c.Reply × Database S)
  | .begin, db => some (.ok db.begun, { db with begun := db.begun + 1 })
  | .commit tx, db => some (.ok (), db.commit tx)
  | .rollback tx, db => some (.ok (), db.rollback tx)
  | .select tx table whereClause, db => some (.ok ((db.heap table).select tx whereClause), db)
  | .targets tx table whereClause, db => some (.ok ((db.heap table).targets tx whereClause), db)
  | .update tx table i whereClause data, db =>
      ((db.heap table).update (S.clash table) tx i whereClause data).map fun settled =>
        (settled.1, db.set table settled.2)
  | .insert tx table row, db =>
      ((db.heap table).insert (S.clash table) tx row).map fun settled =>
        (settled.1, db.set table settled.2)

/-! What the driver builds from the statements. -/

abbrev Sql (S : Schema) (ε α : Type) := Program (sqlInterface S) ε α

/-- The transaction a statement belongs to. -/
def SqlCall.tx? : SqlCall S → Option Nat
  | .begin => none
  | .select tx .. => tx
  | .commit tx | .rollback tx | .targets tx .. | .update tx .. | .insert tx .. => some tx

/-- All a statement can do to the database. -/
inductive Moves (db : Database S) : SqlCall S → Database S → Prop where
  | still (c : SqlCall S) : Moves db c db
  | begin : Moves db .begin { db with begun := db.begun + 1 }
  | commit (tx : Nat) : Moves db (.commit tx) (db.commit tx)
  | rollback (tx : Nat) : Moves db (.rollback tx) (db.rollback tx)
  | update {tx : Nat} {table : S.Table} {i : Nat} {whereClause : S.Row table → Bool}
      {data : S.Row table → S.Row table} {cell : Cell (S.Row table)} {row : S.Row table}
      (found : (db.heap table)[i]? = some cell) (free : cell.lockedAgainst tx = false)
      (visible : cell.visible tx = some row) (matched : whereClause row)
      (admitted : (db.heap table).verdict (S.clash table) tx i (data row) = .free) :
      Moves db (.update tx table i whereClause data)
        (db.set table ((db.heap table).set i (cell.write tx (data row))))
  | insert {tx : Nat} {table : S.Table} {row : S.Row table}
      (admitted : (db.heap table).verdict (S.clash table) tx (db.heap table).length row = .free) :
      Moves db (.insert tx table row) (db.set table (db.heap table ++ [⟨none, some (tx, row)⟩]))

section

variable {db db' : Database S} {c : SqlCall S}

theorem set_self (db : Database S) (table : S.Table) : db.set table (db.heap table) = db := by
  simp [Database.set]

theorem update_moves {tx : Nat} {table : S.Table} {i : Nat} {whereClause : S.Row table → Bool}
    {data : S.Row table → S.Row table} {result : Except (List String) Bool}
    (h : (SqlCall.update tx table i whereClause data).answer db = some (result, db')) :
    (db' = db ∧ result ≠ .ok true) ∨
      ∃ cell row, (db.heap table)[i]? = some cell ∧ cell.visible tx = some row ∧
        whereClause row ∧
        db' = db.set table ((db.heap table).set i (cell.write tx (data row))) ∧
        Moves db (.update tx table i whereClause data) db' := by
  obtain ⟨⟨result', heap⟩, hupdate, same⟩ := Option.map_eq_some_iff.mp h
  cases same
  rcases Heap.update_cases hupdate with
    ⟨rfl, failed⟩ | ⟨cell, row, found, free, visible, matched, admitted, rfl, rfl⟩
  · exact .inl ⟨set_self db table, failed⟩
  · exact .inr ⟨cell, row, found, visible, matched, rfl, .update found free visible matched admitted⟩

theorem answer_moves {reply : Except (List String) c.Reply}
    (h : c.answer db = some (reply, db')) : Moves db c db' := by
  cases c with
  | begin =>
    cases h
    exact .begin
  | commit tx =>
    cases h
    exact .commit tx
  | rollback tx =>
    cases h
    exact .rollback tx
  | select tx table whereClause =>
    cases h
    exact .still _
  | targets tx table whereClause =>
    cases h
    exact .still _
  | update tx table i whereClause data =>
    rcases update_moves h with ⟨rfl, -⟩ | ⟨_, _, -, -, -, -, moves⟩
    · exact .still _
    · exact moves
  | insert tx table row =>
    obtain ⟨⟨result, heap⟩, hinsert, same⟩ := Option.map_eq_some_iff.mp h
    cases same
    rcases Heap.insert_cases hinsert with ⟨rfl, -⟩ | ⟨admitted, -, rfl⟩
    · rw [set_self]
      exact .still _
    · exact .insert admitted

/-- A row reported as updated is a draft from then on. -/
theorem update_drafts {tx : Nat} {table : S.Table} {i : Nat} {whereClause : S.Row table → Bool}
    {data : S.Row table → S.Row table}
    (h : (SqlCall.update tx table i whereClause data).answer db = some (.ok true, db')) :
    ∃ row, whereClause row ∧ db'.draftAt table tx i = some (data row) := by
  rcases update_moves h with ⟨-, failed⟩ | ⟨cell, row, found, -, matched, rfl, -⟩
  · exact absurd rfl failed
  · refine ⟨row, matched, Database.draftAt_eq_some.mpr ⟨cell.write tx (data row), ?_, rfl⟩⟩
    rw [Database.set_heap, List.getElem?_set_self (List.getElem?_eq_some_iff.mp found).1]

theorem insert_drafts {tx : Nat} {table : S.Table} {row : S.Row table}
    (h : (SqlCall.insert tx table row).answer db = some (.ok (), db')) :
    db'.draftAt table tx (db.heap table).length = some row := by
  obtain ⟨⟨result, heap⟩, hinsert, same⟩ := Option.map_eq_some_iff.mp h
  cases same
  rcases Heap.insert_cases hinsert with ⟨-, failed⟩ | ⟨-, -, rfl⟩
  · exact absurd rfl failed
  · refine Database.draftAt_eq_some.mpr ⟨⟨none, some (tx, row)⟩, ?_, rfl⟩
    rw [Database.set_heap]
    exact concat_eq_some.mpr (.inr ⟨rfl, rfl⟩)

theorem Separate.set {table : S.Table} {heap : Heap (S.Row table)} (h : db.Separate)
    (apart : heap.Separate (S.clash table)) : (db.set table heap).Separate := by
  intro other
  by_cases same : other = table
  · subst same
    rw [Database.set_heap]
    exact apart
  · rw [Database.set_heap_of_ne same]
    exact h other

theorem Moves.separate (moves : Moves db c db') (h : db.Separate) : db'.Separate := by
  cases moves with
  | still => exact h
  | begin => exact h
  | commit tx => exact fun table => (h table).commit (S.symm table)
  | rollback tx => exact fun table => (h table).rollback
  | update found free visible matched admitted =>
    exact Separate.set h ((h _).write (S.symm _) found free admitted)
  | insert admitted => exact Separate.set h ((h _).insert (S.symm _) admitted)

theorem Moves.begun_le (moves : Moves db c db') : db.begun ≤ db'.begun := by
  cases moves with
  | begin => exact Nat.le_succ _
  | _ => exact Nat.le_refl _

/-- A version of a transaction is where it was while only another one acts. -/
theorem Moves.foreign (moves : Moves db c db') {table : S.Table} {j tx : Nat}
    {cell : Cell (S.Row table)} {row : S.Row table} (other : c.tx? ≠ some tx)
    (found : (db'.heap table)[j]? = some cell) (pending : cell.pending = some (tx, row)) :
    (db.heap table)[j]? = some cell := by
  cases moves with
  | still => exact found
  | begin => exact found
  | commit own =>
    obtain ⟨before, hbefore, rfl⟩ := Option.map_eq_some_iff.mp (List.getElem?_map ▸ found)
    rw [(Cell.commit_pending pending).2.2]
    exact hbefore
  | rollback own =>
    obtain ⟨before, hbefore, rfl⟩ := Option.map_eq_some_iff.mp (List.getElem?_map ▸ found)
    rw [(Cell.rollback_pending pending).2.2]
    exact hbefore
  | @update own updated i whereClause data locked version hlocked free visible matched admitted =>
    by_cases same : table = updated
    · subst same
      rw [Database.set_heap, List.getElem?_set] at found
      split at found
      · split at found
        · cases found
          cases pending
          exact absurd rfl other
        · cases found
      · exact found
    · rwa [Database.set_heap_of_ne same] at found
  | @insert own inserted version admitted =>
    by_cases same : table = inserted
    · subst same
      rw [Database.set_heap] at found
      rcases concat_eq_some.mp found with old | ⟨-, rfl⟩
      · exact old
      · cases pending
        exact absurd rfl other
    · rwa [Database.set_heap_of_ne same] at found

theorem Moves.foreign_kept (moves : Moves db c db') {table : S.Table} {j tx : Nat}
    {cell : Cell (S.Row table)} {row : S.Row table} (other : c.tx? ≠ some tx)
    (found : (db.heap table)[j]? = some cell) (pending : cell.pending = some (tx, row)) :
    (db'.heap table)[j]? = some cell := by
  have foreign {own : Nat} (ne : some own ≠ some tx) : cell.own own = none :=
    Cell.own_eq_none.mpr fun owner held same => by
      rw [pending] at same
      cases same
      exact fun eq => ne (congrArg some eq.symm)
  cases moves with
  | still => exact found
  | begin => exact found
  | commit own => simp [Database.commit, Heap.commit, found, Cell.commit_of_none (foreign other)]
  | rollback own =>
    simp [Database.rollback, Heap.rollback, found, Cell.rollback_of_none (foreign other)]
  | @update own updated i whereClause data locked version hlocked free visible matched admitted =>
    by_cases same : table = updated
    · subst same
      rw [Database.set_heap, List.getElem?_set_ne, found]
      rintro rfl
      cases found.symm.trans hlocked
      exact other (congrArg some (Cell.lockedAgainst_eq_false.mp free tx row pending).symm)
    · rw [Database.set_heap_of_ne same, found]
  | @insert own inserted version admitted =>
    by_cases same : table = inserted
    · subst same
      rw [Database.set_heap]
      exact concat_eq_some.mpr (.inl found)
    · rw [Database.set_heap_of_ne same, found]

/-- Only a commit moves what is committed. -/
theorem Moves.committedAt (moves : Moves db c db') (table : S.Table) (j : Nat) :
    db'.committedAt table j = db.committedAt table j ∨ ∃ tx, c = .commit tx ∧ db' = db.commit tx := by
  cases moves with
  | still => exact .inl rfl
  | begin => exact .inl rfl
  | commit tx => exact .inr ⟨tx, rfl, rfl⟩
  | rollback tx =>
    refine .inl ?_
    simp only [Database.committedAt, Database.rollback, Heap.rollback, List.getElem?_map]
    cases (db.heap table)[j]? <;> simp
  | @update tx updated i whereClause data locked version hlocked free visible matched admitted =>
    refine .inl ?_
    by_cases same : table = updated
    · subst same
      rw [Database.committedAt, Database.committedAt, Database.set_heap]
      by_cases here : i = j
      · subst here
        rw [List.getElem?_set_self (List.getElem?_eq_some_iff.mp hlocked).1, hlocked]
        rfl
      · rw [List.getElem?_set_ne here]
    · rw [Database.committedAt, Database.committedAt, Database.set_heap_of_ne same]
  | @insert tx inserted version admitted =>
    refine .inl ?_
    by_cases same : table = inserted
    · subst same
      rw [Database.committedAt, Database.committedAt, Database.set_heap]
      rcases Nat.lt_or_ge j (db.heap table).length with old | new
      · rw [List.getElem?_append_left old]
      · rw [List.getElem?_eq_none new, List.getElem?_append_right new, List.getElem?_singleton]
        split <;> rfl
    · rw [Database.committedAt, Database.committedAt, Database.set_heap_of_ne same]

/-- What a transaction has written is where it was while only another one acts. -/
theorem Moves.draftAt_foreign (moves : Moves db c db') {table : S.Table} {tx : Nat}
    (other : c.tx? ≠ some tx) (j : Nat) : db'.draftAt table tx j = db.draftAt table tx j := by
  ext row
  simp only [Database.draftAt_eq_some]
  constructor
  · rintro ⟨cell, found, pending⟩
    exact ⟨cell, moves.foreign other found pending, pending⟩
  · rintro ⟨cell, found, pending⟩
    exact ⟨cell, moves.foreign_kept other found pending, pending⟩

/-- A transaction keeps its drafts until it ends, though it may rewrite them. -/
theorem Moves.draftAt_kept (moves : Moves db c db') {table : S.Table} {tx j : Nat}
    {row : S.Row table} (draft : db.draftAt table tx j = some row) (uncommitted : c ≠ .commit tx)
    (unrolled : c ≠ .rollback tx) : ∃ row', db'.draftAt table tx j = some row' := by
  by_cases other : c.tx? = some tx
  · cases moves with
    | still => exact ⟨row, draft⟩
    | begin => cases other
    | commit own => exact absurd (congrArg SqlCall.commit (Option.some.inj other)) uncommitted
    | rollback own => exact absurd (congrArg SqlCall.rollback (Option.some.inj other)) unrolled
    | @update own updated i whereClause data locked version found free visible matched admitted =>
      cases other
      by_cases same : table = updated
      · subst same
        by_cases here : i = j
        · subst here
          refine ⟨data version, Database.draftAt_eq_some.mpr ⟨locked.write tx (data version), ?_, rfl⟩⟩
          rw [Database.set_heap, List.getElem?_set_self (List.getElem?_eq_some_iff.mp found).1]
        · refine ⟨row, ?_⟩
          rwa [Database.draftAt, Database.set_heap, List.getElem?_set_ne here]
      · refine ⟨row, ?_⟩
        rwa [Database.draftAt, Database.set_heap_of_ne same]
    | @insert own inserted version admitted =>
      by_cases same : table = inserted
      · subst same
        obtain ⟨cell, found, pending⟩ := Database.draftAt_eq_some.mp draft
        refine ⟨row, Database.draftAt_eq_some.mpr ⟨cell, ?_, pending⟩⟩
        rw [Database.set_heap]
        exact concat_eq_some.mpr (.inl found)
      · refine ⟨row, ?_⟩
        rwa [Database.draftAt, Database.set_heap_of_ne same]
  · exact ⟨row, (moves.draftAt_foreign other j).trans draft⟩

/-- What is under a draft stays committed until the draft is. -/
theorem Moves.committedAt_locked (moves : Moves db c db') {table : S.Table} {tx j : Nat}
    {row : S.Row table} (draft : db.draftAt table tx j = some row) (uncommitted : c ≠ .commit tx) :
    db'.committedAt table j = db.committedAt table j := by
  rcases moves.committedAt table j with same | ⟨own, rfl, rfl⟩
  · exact same
  · obtain ⟨cell, found, pending⟩ := Database.draftAt_eq_some.mp draft
    have unowned : db.draftAt table own j = none := by
      rw [Database.draftAt, found, Option.bind_some, Cell.own_eq_none, pending]
      rintro owner held same rfl
      cases same
      exact uncommitted rfl
    rw [Database.committedAt_commit, unowned, Option.none_or]

end

/-- The database as a service: `violation` throws what a unique index said, and
`raise` a statement that was never answered. -/
abbrev sqlService (S : Schema) {ε Fault Command Outcome : Type} (violation : List String → ε)
    (raise : Fault → ε) (body : Command → Program (sqlInterface S) ε Outcome) : System where
  interface := sqlInterface S
  Failure := ε
  Fault := Fault
  raise := raise
  Outcome := Outcome
  Command := Command
  Store := Database S
  Input := Unit
  body := body
  answer _ c db := (c.answer db).map fun settled => (settled.1.mapError violation, settled.2)

namespace Sql

variable {ε α : Type}

abbrev statement (c : SqlCall S) : Sql S ε c.Reply :=
  Program.perform (I := sqlInterface S) c

def findMany (tx : Option Nat) (table : S.Table) (whereClause : S.Row table → Bool) :
    Sql S ε (List (S.Row table)) :=
  statement (.select tx table whereClause)

def updateRows (tx : Nat) (table : S.Table) (whereClause : S.Row table → Bool)
    (data : S.Row table → S.Row table) (count : Nat) : List Nat → Sql S ε Nat
  | [] => pure count
  | i :: is => do
      let matched : Bool ← statement (.update tx table i whereClause data)
      updateRows tx table whereClause data (if matched then count + 1 else count) is

def updateMany (tx : Nat) (table : S.Table) (whereClause : S.Row table → Bool)
    (data : S.Row table → S.Row table) : Sql S ε Nat := do
  let is ← statement (.targets tx table whereClause)
  updateRows tx table whereClause data 0 is

def create (tx : Nat) (table : S.Table) (row : S.Row table) : Sql S ε Unit :=
  statement (.insert tx table row)

/-- Whatever is thrown inside is thrown on, after a rollback that may itself fail. -/
def runInTransaction (fn : Nat → Sql S ε α) : Sql S ε α := do
  let tx : Nat ← statement .begin
  tryCatch
    (do
      let result ← fn tx
      let _ ← statement (.commit tx)
      pure result)
    fun failure => do
      let _ ← tryCatch (statement (.rollback tx)) fun _ => pure ()
      throw failure

/-! What a monitor has to check of them. -/

variable {m : Monitor (sqlInterface S) ε} {k : m.State}

/-- The rollback is permitted, and the failure may be thrown after it. -/
def Aborts (m : Monitor (sqlInterface S) ε) (accepts : m.State → Except ε α → Prop) (tx : Nat)
    (k : m.State) (failure : ε) : Prop :=
  m.permits k (.rollback tx) ∧
    ∀ reply, accepts (m.observe k (.rollback tx) reply) (.error failure)

theorem conforms_updateRows {tx : Nat} {table : S.Table} {whereClause : S.Row table → Bool}
    {data : S.Row table → S.Row table} {P : m.State → Nat → Prop}
    {accepts : m.State → Except ε Nat → Prop}
    (row : ∀ k count i, P k count → m.permits k (.update tx table i whereClause data) ∧
      (∀ matched : Bool, P (m.observe k (.update tx table i whereClause data) (.ok matched))
        (if matched then count + 1 else count)) ∧
      ∀ failure, accepts (m.observe k (.update tx table i whereClause data) (.error failure))
        (.error failure))
    (done : ∀ k count, P k count → accepts k (.ok count)) {count : Nat} (start : P k count)
    (is : List Nat) : m.Conforms accepts k (updateRows tx table whereClause data count is) := by
  induction is generalizing k count with
  | nil => exact done k count start
  | cons i is ih =>
    obtain ⟨permitted, matched, failed⟩ := row k count i start
    exact Monitor.conforms_perform_bind.mpr ⟨permitted, fun value => ih (matched value), failed⟩

theorem conforms_runInTransaction {fn : Nat → Sql S ε α} {accepts : m.State → Except ε α → Prop}
    (begins : m.permits k .begin)
    (failed : ∀ failure, accepts (m.observe k .begin (.error failure)) (.error failure))
    (body : ∀ tx, m.Conforms (fun k result => match result with
      | .ok value => m.permits k (.commit tx) ∧
          accepts (m.observe k (.commit tx) (.ok ())) (.ok value) ∧
          ∀ failure, Aborts m accepts tx (m.observe k (.commit tx) (.error failure)) failure
      | .error failure => Aborts m accepts tx k failure) (m.observe k .begin (.ok tx)) (fn tx)) :
    m.Conforms accepts k (runInTransaction fn) := by
  refine Monitor.conforms_perform_bind.mpr ⟨begins, fun (tx : Nat) => ?_, failed⟩
  refine Monitor.Conforms.recover (Monitor.Conforms.bind ((body tx).mono ?_))
  have aborts {k : m.State} {failure : ε} (h : Aborts m accepts tx k failure) :
      m.Conforms accepts k (do
        let _ ← tryCatch (statement (.rollback tx)) fun _ => pure ()
        throw failure) := by
    refine Monitor.Conforms.bind (Monitor.Conforms.recover ⟨h.1, fun reply => ?_⟩)
    cases reply with
    | ok value => exact h.2 (.ok value)
    | error thrown => exact h.2 (.error thrown)
  intro k result h
  cases result with
  | error failure => exact aborts h
  | ok value => exact Monitor.conforms_perform_bind.mpr ⟨h.1, fun _ => h.2.1, fun failure => aborts (h.2.2 failure)⟩

end Sql

end TenantOS.Relational
