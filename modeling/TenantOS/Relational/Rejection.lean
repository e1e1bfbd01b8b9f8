import TenantOS.Relational.Table
import Mathlib.Data.List.Pairwise

/-! What a statement on one table can be rejected for. Where several unique indexes are
violated at once, the database reports any one of them. -/
namespace TenantOS.Relational

inductive Violation where
  /-- A unique index, by its columns. -/
  | unique (columns : List String)
  | foreignKey
  /-- An update or a delete that matches nothing. -/
  | noRow
deriving DecidableEq, Repr

section

variable {Row : Type} (clash : Row → Row → Option (List String))

/-- No two rows collide on an index. -/
def Distinct (rows : List Row) : Prop :=
  rows.Pairwise fun row other => clash row other = none

/-- References are asked once the unique indexes have let the row in. -/
def InsertRejects (referenced : Prop) (row : Row) (rows : List Row) : Violation → Prop
  | .unique columns => ∃ other ∈ rows, clash row other = some columns
  | .foreignKey => (∀ other ∈ rows, clash row other = none) ∧ ¬ referenced
  | .noRow => False

/-- The update of a row by its key. It writes no column that refers to another table. -/
def UpdateRejects (id : Row → String) (whereClause : Row → Bool) (data : Row → Row)
    (rows : List Row) : Violation → Prop
  | .unique columns => ∃ row ∈ rows, whereClause row ∧
      ∃ other ∈ rows, id other ≠ id row ∧ clash (data row) other = some columns
  | .foreignKey => False
  | .noRow => ¬ ∃ row ∈ rows, whereClause row

/-- The rows that still refer to the deleted one block it. -/
def DeleteRejects (blocked : Prop) (whereClause : Row → Bool) (rows : List Row) : Violation → Prop
  | .unique _ => False
  | .foreignKey => (∃ row ∈ rows, whereClause row) ∧ blocked
  | .noRow => ¬ ∃ row ∈ rows, whereClause row

end

section

variable {Row : Type} {clash : Row → Row → Option (List String)} {referenced blocked : Prop}
  {row : Row} {rows : List Row} {id : Row → String} {whereClause : Row → Bool} {data : Row → Row}
  {P : Violation → Prop}

theorem Distinct.apart (h : Distinct clash rows)
    (symm : ∀ row other, clash row other = none → clash other row = none) {other : Row}
    (mem : row ∈ rows) (mem' : other ∈ rows) (different : row ≠ other) : clash row other = none := by
  have : Std.Symm fun row other => clash row other = none := ⟨symm⟩
  exact List.Pairwise.forall h mem mem' different

/-- A row may be replaced by one that the others let in. -/
theorem Distinct.replace (symm : ∀ row other, clash row other = none → clash other row = none)
    {pre post : List Row} (h : Distinct clash (pre ++ row :: post)) {other : Row}
    (free : (pre ++ post).findSome? (clash other) = none) : Distinct clash (pre ++ other :: post) := by
  rw [Distinct, List.pairwise_append, List.pairwise_cons] at h ⊢
  obtain ⟨front, ⟨-, back⟩, across⟩ := h
  have unclashed := List.findSome?_eq_none_iff.mp free
  refine ⟨front, ⟨fun next present => unclashed next (List.mem_append_right _ present), back⟩,
    fun earlier present next later => ?_⟩
  rcases List.mem_cons.mp later with rfl | there
  · exact symm _ _ (unclashed earlier (List.mem_append_left _ present))
  · exact across earlier present next (List.mem_cons_of_mem _ there)

theorem forall_insertRejects_iff :
    (∀ violation, InsertRejects clash referenced row rows violation → P violation) ↔
      (∀ other ∈ rows, ∀ columns, clash row other = some columns → P (.unique columns)) ∧
        ((∀ other ∈ rows, clash row other = none) → ¬ referenced → P .foreignKey) := by
  constructor
  · intro all
    constructor
    · intro other mem columns collides
      exact all (.unique columns) ⟨other, mem, collides⟩
    · intro free missing
      exact all .foreignKey ⟨free, missing⟩
  · rintro ⟨unique, reference⟩ violation rejects
    cases violation with
    | unique columns =>
      obtain ⟨other, mem, collides⟩ := rejects
      exact unique other mem columns collides
    | foreignKey => exact reference rejects.1 rejects.2
    | noRow => exact rejects.elim

theorem forall_updateRejects_iff :
    (∀ violation, UpdateRejects clash id whereClause data rows violation → P violation) ↔
      (∀ row ∈ rows, whereClause row → ∀ other ∈ rows, id other ≠ id row →
        ∀ columns, clash (data row) other = some columns → P (.unique columns)) ∧
      ((¬ ∃ row ∈ rows, whereClause row) → P .noRow) := by
  constructor
  · intro all
    constructor
    · intro row mem matched other mem' different columns collides
      exact all (.unique columns) ⟨row, mem, matched, other, mem', different, collides⟩
    · exact all .noRow
  · rintro ⟨unique, missing⟩ violation rejects
    cases violation with
    | unique columns =>
      obtain ⟨row, mem, matched, other, mem', different, collides⟩ := rejects
      exact unique row mem matched other mem' different columns collides
    | foreignKey => exact rejects.elim
    | noRow => exact missing rejects

theorem forall_deleteRejects_iff :
    (∀ violation, DeleteRejects blocked whereClause rows violation → P violation) ↔
      ((∃ row ∈ rows, whereClause row) → blocked → P .foreignKey) ∧
      ((¬ ∃ row ∈ rows, whereClause row) → P .noRow) := by
  constructor
  · intro all
    constructor
    · intro found blocks
      exact all .foreignKey ⟨found, blocks⟩
    · exact all .noRow
  · rintro ⟨reference, missing⟩ violation rejects
    cases violation with
    | unique columns => exact rejects.elim
    | foreignKey => exact reference rejects.1 rejects.2
    | noRow => exact missing rejects

end

end TenantOS.Relational
