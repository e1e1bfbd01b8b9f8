import TenantOS.Relational.Alone

/-! `PrismaService`: the client a repository gets, and transactions that join the one
that is open already. -/
namespace TenantOS.Infrastructure

open TenantOS.Interleaving TenantOS.Relational

/-- What `client` resolves to. -/
inductive PrismaClient where
  | pooled
  | transaction (tx : Nat)
deriving DecidableEq

namespace PrismaService

variable {S : Schema} {ε α : Type}

/-- `this.transactionStore.getStore() ?? this.prisma` -/
def client (transactionStore : Option Nat) : PrismaClient :=
  match transactionStore with
  | some tx => .transaction tx
  | none => .pooled

/-- `fn` runs with the store it is given. -/
def runInTransaction (transactionStore : Option Nat) (fn : Option Nat → Sql S ε α) : Sql S ε α :=
  match transactionStore with
  | some tx => fn (some tx)
  | none => Sql.runInTransaction fun tx => fn (some tx)

end PrismaService

/-- A statement through the client. -/
inductive Statement (S : Schema) where
  | findMany (table : S.Table) (whereClause : S.Row table → Bool)
  | updateMany (table : S.Table) (whereClause : S.Row table → Bool)
      (data : S.Row table → S.Row table)
  | create (table : S.Table) (row : S.Row table)

namespace Statement

variable {S : Schema} {ε : Type}

def Reply : Statement S → Type
  | .findMany table _ => List (S.Row table)
  | .updateMany .. => Nat
  | .create .. => Unit

def within (tx : Nat) : (c : Statement S) → Sql S ε c.Reply
  | .findMany table whereClause => Sql.findMany (some tx) table whereClause
  | .updateMany table whereClause data => Sql.updateMany tx table whereClause data
  | .create table row => Sql.create tx table row

/-- The pool gives a write a transaction of its own. -/
def through : PrismaClient → (c : Statement S) → Sql S ε c.Reply
  | .transaction tx, c => c.within tx
  | .pooled, .findMany table whereClause => Sql.findMany none table whereClause
  | .pooled, .updateMany table whereClause data =>
      Sql.runInTransaction fun tx => Sql.updateMany tx table whereClause data
  | .pooled, .create table row => Sql.runInTransaction fun tx => Sql.create tx table row

/-- What it does to the rows. -/
def effect (violation : List String → ε) : (c : Statement S) → Sql.Joined S ε c.Reply
  | .findMany table whereClause => Sql.rowsWhere table whereClause
  | .updateMany table whereClause data => Sql.rewritten violation table whereClause data
  | .create table row => Sql.created violation table row

variable {violation : List String → ε}

theorem performs (tx : Nat) (c : Statement S) :
    Sql.Performs violation tx (c.within tx) (c.effect violation) := by
  cases c with
  | findMany table whereClause => exact Sql.performs_findMany
  | updateMany table whereClause data => exact Sql.performs_updateMany
  | create table row => exact Sql.performs_create

theorem commits (c : Statement S) :
    Sql.Commits violation (c.through .pooled) (Sql.atomically (c.effect violation)) := by
  cases c with
  | findMany table whereClause => exact Sql.commits_findMany
  | updateMany table whereClause data =>
    exact Sql.commits_runInTransaction fun tx => Sql.performs_updateMany
  | create table row => exact Sql.commits_runInTransaction fun tx => Sql.performs_create

end Statement

/-- Calls of repositories, with transactions opened anywhere among them. A `catch` of
theirs throws again: in Postgres a statement that failed has aborted its transaction. -/
inductive UnitOfWork (S : Schema) (ε : Type) : Type → Type 1 where
  | done {α : Type} (result : Except ε α) : UnitOfWork S ε α
  | statement {α : Type} (c : Statement S) (next : c.Reply → UnitOfWork S ε α) : UnitOfWork S ε α
  | runInTransaction {α β : Type} (fn : UnitOfWork S ε β) (next : β → UnitOfWork S ε α) :
      UnitOfWork S ε α
  | rethrowing {α β : Type} (translate : ε → ε) (fn : UnitOfWork S ε β)
      (next : β → UnitOfWork S ε α) : UnitOfWork S ε α

namespace UnitOfWork

variable {S : Schema} {ε α : Type}

/-- With the store as it is where the unit is called. -/
def run {α : Type} : UnitOfWork S ε α → Option Nat → Sql S ε α
  | .done result, _ => .done result
  | .statement c next, transactionStore => do
      let reply ← c.through (PrismaService.client transactionStore)
      (next reply).run transactionStore
  | .runInTransaction fn next, transactionStore => do
      let value ← PrismaService.runInTransaction transactionStore fun store => fn.run store
      (next value).run transactionStore
  | .rethrowing translate fn next, transactionStore => do
      let value ← Sql.rethrowing translate (fn.run transactionStore)
      (next value).run transactionStore

/-! What a unit of work means: inside a transaction `runInTransaction` is nothing at
all, outside it is all or nothing. -/

def joined {α : Type} (violation : List String → ε) : UnitOfWork S ε α → Sql.Joined S ε α
  | .done result => fun contents => result.map fun value => (value, contents)
  | .statement c next => do
      let reply ← c.effect violation
      (next reply).joined violation
  | .runInTransaction fn next => do
      let value ← fn.joined violation
      (next value).joined violation
  | .rethrowing translate fn next => do
      let value ← fun contents => (fn.joined violation contents).mapError translate
      (next value).joined violation

def committed {α : Type} (violation : List String → ε) : UnitOfWork S ε α → Sql.Committed S ε α
  | .done result => fun contents => (result, contents)
  | .statement c next => do
      let reply ← Sql.atomically (c.effect violation)
      (next reply).committed violation
  | .runInTransaction fn next => do
      let value ← Sql.atomically (fn.joined violation)
      (next value).committed violation
  | .rethrowing translate fn next => do
      let value ← fun contents =>
        ((fn.committed violation contents).1.mapError translate, (fn.committed violation contents).2)
      (next value).committed violation

variable {violation : List String → ε}

theorem performs (tx : Nat) (work : UnitOfWork S ε α) :
    Sql.Performs violation tx (work.run (some tx)) (work.joined violation) := by
  induction work with
  | done result =>
    intro db free
    exact ⟨result, db, rfl, ⟨free, rfl⟩, rfl⟩
  | statement c next ih => exact (c.performs tx).bind ih
  | runInTransaction fn next ihFn ih => exact ihFn.bind ih
  | rethrowing translate fn next ihFn ih => exact (ihFn.rethrowing translate).bind ih

theorem commits (work : UnitOfWork S ε α) :
    Sql.Commits violation (work.run none) (work.committed violation) := by
  induction work with
  | done result =>
    intro db quiet
    exact ⟨db, rfl, quiet, rfl⟩
  | statement c next ih => exact c.commits.bind ih
  | runInTransaction fn next _ ih =>
    exact (Sql.commits_runInTransaction fun tx => fn.performs tx).bind ih
  | rethrowing translate fn next ihFn ih => exact (ihFn.rethrowing translate).bind ih

end UnitOfWork

end TenantOS.Infrastructure
