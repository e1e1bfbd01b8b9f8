import TenantOS.Infrastructure.PrismaService
import TenantOS.Workspaces.Statements

/-! However transactions are nested, the outermost one decides: it is all or nothing,
and the ones inside it never reach the database. -/
namespace TenantOS.Transactions

open TenantOS.Domain TenantOS.Infrastructure TenantOS.Interleaving TenantOS.Relational

section

variable {S : Schema} {ε α : Type} {violation : List String → ε}

/-- Alone on the database. -/
theorem outermost_transaction_decides (work : UnitOfWork S ε α) {db : Database S}
    (quiet : db.Quiet) : ∃ db', Sql.Settles violation (work.run none) db
      (work.committed violation db.tables).1 db' ∧ db'.Quiet ∧
      db'.tables = (work.committed violation db.tables).2 :=
  work.commits db quiet

end

/-! A workspace that goes in inside a transaction of its own, before one that does not. -/

section

open TenantOS.Workspaces

def emptyDatabase : Database workspaceSchema where
  heap _ := []
  begun := 0

def acme : WorkspaceRow where
  id := "w1"
  userId := "u1"
  name := "Acme"
  slug := "acme"
  description := none
  settings := .object []
  status := "active"
  isDefault := false
  createdAt := 0
  updatedAt := 0

def acmeTwice : UnitOfWork workspaceSchema Failure Unit :=
  .runInTransaction
    (.runInTransaction
      (.statement (.create .workspaces acme) fun (_ : Unit) => .done (.ok ()))
      fun (_ : Unit) => .statement (.create .workspaces acme) fun (_ : Unit) => .done (.ok ()))
    fun (_ : Unit) => .done (.ok ())

theorem outermost_transaction_decides_acme : ∃ db',
    Sql.Settles uniqueViolation (acmeTwice.run none) emptyDatabase
      (.error (uniqueViolation ["id"])) db' ∧ db'.Quiet ∧ db'.tables = emptyDatabase.tables :=
  outermost_transaction_decides acmeTwice fun _ _ present => by cases present

end

/-! Among other clients, whatever the database answers. -/

structure Standing where
  tx : Option Nat
  /-- A statement of the transaction has failed. -/
  failed : Bool

namespace Standing

variable {S : Schema} {ε α : Type}

def fail (k : Standing) : Standing :=
  { k with failed := true }

def observe (k : Standing) : (c : SqlCall S) → Except ε c.Reply → Standing
  | .begin, .ok tx => ⟨some tx, false⟩
  | .commit _, .ok _ => ⟨none, k.failed⟩
  | .rollback _, _ => ⟨none, k.failed⟩
  | _, .error _ => k.fail
  | _, .ok _ => k

/-- One transaction at a time, every statement in it, and no commit after a failure. -/
def permits (k : Standing) : SqlCall S → Prop
  | .begin => k.tx = none
  | .commit tx => k.tx = some tx ∧ k.failed = false
  | .rollback tx => k.tx = some tx
  | .select tx .. => k.tx = tx
  | .targets tx .. => k.tx = some tx
  | .update tx .. => k.tx = some tx ∧ k.failed = false
  | .insert tx .. => k.tx = some tx ∧ k.failed = false

abbrev monitor (S : Schema) (ε : Type) : Monitor (sqlInterface S) ε where
  State := Standing
  observe := observe
  permits := permits

/-- What goes on in transaction `tx` leaves it open, and has failed if it throws. -/
def Inside (tx : Nat) (k : Standing) (result : Except ε α) : Prop :=
  k.tx = some tx ∧ ∀ value, result = .ok value → k.failed = false

variable {tx : Nat} {k : Standing}

theorem within (c : Statement S) :
    (monitor S ε).Conforms (Inside tx) ⟨some tx, false⟩ (c.within tx : Sql S ε c.Reply) := by
  have failed {β : Type} {failure : ε} {k : Standing} (h : k.tx = some tx) :
      Inside tx k (.error failure : Except ε β) := ⟨h, fun _ same => by cases same⟩
  cases c with
  | findMany table whereClause =>
    refine ⟨rfl, fun reply => ?_⟩
    cases reply with
    | ok rows => exact ⟨rfl, fun _ _ => rfl⟩
    | error failure => exact failed rfl
  | updateMany table whereClause data =>
    refine Monitor.conforms_perform_bind.mpr ⟨rfl, fun places => ?_, fun failure => failed rfl⟩
    refine Sql.conforms_updateRows (P := fun k _ => k = (⟨some tx, false⟩ : Standing)) ?_ ?_ rfl places
    · rintro _ count i rfl
      exact ⟨⟨rfl, rfl⟩, fun _ => rfl, fun failure => failed rfl⟩
    · rintro _ count rfl
      exact ⟨rfl, fun _ _ => rfl⟩
  | create table row =>
    refine ⟨⟨rfl, rfl⟩, fun reply => ?_⟩
    cases reply with
    | ok _ => exact ⟨rfl, fun _ _ => rfl⟩
    | error failure => exact failed rfl

/-- What one part leaves behind is where the next one starts. -/
theorem Inside.bind {β : Type} {program : Sql S ε α} {next : α → Sql S ε β}
    (h : (monitor S ε).Conforms (Inside tx) ⟨some tx, false⟩ program)
    (rest : ∀ value, (monitor S ε).Conforms (Inside tx) ⟨some tx, false⟩ (next value)) :
    (monitor S ε).Conforms (Inside tx) ⟨some tx, false⟩ (program >>= next) := by
  refine Monitor.Conforms.bind (h.mono fun k result inside => ?_)
  cases result with
  | error failure => exact ⟨inside.1, fun _ same => by cases same⟩
  | ok value =>
    obtain ⟨open', failed⟩ := k
    obtain rfl : open' = some tx := inside.1
    obtain rfl : failed = false := inside.2 value rfl
    exact rest value

theorem Inside.rethrowing {program : Sql S ε α} {translate : ε → ε}
    (h : (monitor S ε).Conforms (Inside tx) ⟨some tx, false⟩ program) :
    (monitor S ε).Conforms (Inside tx) ⟨some tx, false⟩ (Sql.rethrowing translate program) := by
  refine Monitor.Conforms.recover (h.mono fun k result inside => ?_)
  cases result with
  | error failure => exact ⟨inside.1, fun _ same => by cases same⟩
  | ok value => exact inside

theorem inside (work : UnitOfWork S ε α) :
    (monitor S ε).Conforms (Inside tx) ⟨some tx, false⟩ (work.run (some tx)) := by
  induction work with
  | done result => exact ⟨rfl, fun _ _ => rfl⟩
  | statement c next ih => exact Inside.bind (within c) ih
  | runInTransaction fn next ihFn ih => exact Inside.bind ihFn ih
  | rethrowing translate fn next ihFn ih => exact Inside.bind (Inside.rethrowing ihFn) ih

/-- A transaction of its own. -/
theorem conforms_runInTransaction {fn : Nat → Sql S ε α} (outside : k.tx = none)
    (body : ∀ tx, (monitor S ε).Conforms (Inside tx) ⟨some tx, false⟩ (fn tx)) :
    (monitor S ε).Conforms (fun k _ => k.tx = none) k (Sql.runInTransaction fn) := by
  refine Sql.conforms_runInTransaction outside (fun _ => outside) fun tx => (body tx).mono ?_
  have aborts {k : Standing} {failure : ε} (h : k.tx = some tx) :
      Sql.Aborts (monitor S ε) (fun k (_ : Except ε α) => k.tx = none) tx k failure :=
    ⟨h, fun reply => by cases reply <;> rfl⟩
  intro k result inside
  cases result with
  | error failure => exact aborts inside.1
  | ok value => exact ⟨⟨inside.1, inside.2 value rfl⟩, rfl, fun failure => aborts inside.1⟩

theorem outside_statement (c : Statement S) (outside : k.tx = none) :
    (monitor S ε).Conforms (fun k _ => k.tx = none) k (c.through .pooled : Sql S ε c.Reply) := by
  cases c with
  | findMany table whereClause =>
    refine ⟨outside, fun reply => ?_⟩
    cases reply <;> exact outside
  | updateMany table whereClause data =>
    exact conforms_runInTransaction outside fun tx => within (.updateMany table whereClause data)
  | create table row => exact conforms_runInTransaction outside fun tx => within (.create table row)

end Standing

/-- Whatever the database answers to it and whoever else is there, a unit of work has
one transaction at a time, issues every statement in the one that is open, never asks
for a commit once a statement in it has failed, and leaves none open. -/
theorem conforms_run {S : Schema} {ε α : Type} (work : UnitOfWork S ε α) {k : Standing}
    (outside : k.tx = none) :
    (Standing.monitor S ε).Conforms (fun k _ => k.tx = none) k (work.run none) := by
  have bind {α β : Type} {program : Sql S ε α} {next : α → Sql S ε β} {k : Standing}
      (h : (Standing.monitor S ε).Conforms (fun k _ => k.tx = none) k program)
      (rest : ∀ value k, k.tx = none →
        (Standing.monitor S ε).Conforms (fun k _ => k.tx = none) k (next value)) :
      (Standing.monitor S ε).Conforms (fun k _ => k.tx = none) k (program >>= next) := by
    refine Monitor.Conforms.bind (h.mono fun k result outside => ?_)
    cases result with
    | error failure => exact outside
    | ok value => exact rest value k outside
  induction work generalizing k with
  | done result => exact outside
  | statement c next ih => exact bind (Standing.outside_statement c outside) fun value _ => ih value
  | runInTransaction fn next _ ih =>
    exact bind (Standing.conforms_runInTransaction outside fun tx => Standing.inside fn)
      fun value _ => ih value
  | rethrowing translate fn next ihFn ih =>
    refine bind (Monitor.Conforms.recover ((ihFn outside).mono fun k result outside => ?_))
      fun value _ => ih value
    cases result <;> exact outside

theorem conforms_run_acme :
    (Standing.monitor Workspaces.workspaceSchema Failure).Conforms (fun k _ => k.tx = none)
      ⟨none, false⟩ (acmeTwice.run none) :=
  conforms_run acmeTwice rfl

end TenantOS.Transactions
