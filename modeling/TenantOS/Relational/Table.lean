import Mathlib.Data.List.Basic
import Mathlib.Data.List.Nodup

/-! Tables as lists of rows in heap order. Rows are addressed by predicates and
by keys, never by position. -/
namespace TenantOS.Relational

variable {Row Key : Type}

/-- `UPDATE … SET … WHERE …` -/
def updateMany (whereClause : Row → Bool) (data : Row → Row) (table : List Row) : List Row :=
  table.map fun row => if whereClause row then data row else row

/-- `DELETE … WHERE …` -/
def deleteMany (whereClause : Row → Bool) (table : List Row) : List Row :=
  table.filter fun row => !whereClause row

/-- No two rows share the key. -/
def UniqueKey (key : Row → Key) (table : List Row) : Prop :=
  (table.map key).Nodup

section

variable {whereClause : Row → Bool} {data : Row → Row} {table : List Row} {key : Row → Key}

theorem mem_updateMany {row : Row} :
    row ∈ updateMany whereClause data table ↔
      ∃ before ∈ table, row = if whereClause before then data before else before := by
  simp only [updateMany, List.mem_map]
  constructor
  · rintro ⟨before, hmem, rfl⟩
    exact ⟨before, hmem, rfl⟩
  · rintro ⟨before, hmem, rfl⟩
    exact ⟨before, hmem, rfl⟩

theorem mem_deleteMany {row : Row} :
    row ∈ deleteMany whereClause table ↔ row ∈ table ∧ whereClause row = false := by
  simp [deleteMany]

/-- Whatever else is true of the rows of a table stays true of them. -/
theorem forall_updateMany {P : Row → Prop} (old : ∀ row ∈ table, P row)
    (new : ∀ row ∈ table, whereClause row → P (data row)) :
    ∀ row ∈ updateMany whereClause data table, P row := by
  intro row hrow
  obtain ⟨before, hmem, rfl⟩ := mem_updateMany.mp hrow
  split
  · exact new before hmem ‹_›
  · exact old before hmem

theorem forall_deleteMany {P : Row → Prop} (old : ∀ row ∈ table, P row) :
    ∀ row ∈ deleteMany whereClause table, P row :=
  fun row hrow => old row (mem_deleteMany.mp hrow).1

theorem UniqueKey.eq_of_mem {first second : Row} (h : UniqueKey key table) (hfirst : first ∈ table)
    (hsecond : second ∈ table) (same : key first = key second) : first = second :=
  List.inj_on_of_nodup_map h hfirst hsecond same

theorem UniqueKey.updateMany_of_mem (h : UniqueKey key table)
    (keeps : ∀ row ∈ table, whereClause row → key (data row) = key row) :
    UniqueKey key (updateMany whereClause data table) := by
  have : (Relational.updateMany whereClause data table).map key = table.map key := by
    simp only [Relational.updateMany, List.map_map]
    apply List.map_congr_left
    intro row hrow
    simp only [Function.comp_apply]
    split
    · exact keeps row hrow ‹_›
    · rfl
  rw [UniqueKey, this]
  exact h

theorem UniqueKey.updateMany (h : UniqueKey key table) (keeps : ∀ row, key (data row) = key row) :
    UniqueKey key (updateMany whereClause data table) :=
  h.updateMany_of_mem fun row _ _ => keeps row

theorem UniqueKey.deleteMany (h : UniqueKey key table) :
    UniqueKey key (deleteMany whereClause table) :=
  List.Nodup.sublist (List.Sublist.map key List.filter_sublist) h

theorem UniqueKey.append {row : Row} (h : UniqueKey key table)
    (fresh : ∀ other ∈ table, key other ≠ key row) : UniqueKey key (table ++ [row]) := by
  rw [UniqueKey, List.map_append, List.nodup_append]
  refine ⟨h, List.nodup_singleton _, ?_⟩
  intro first hfirst second hsecond
  obtain ⟨other, hother, rfl⟩ := List.mem_map.mp hfirst
  simp only [List.map_cons, List.map_nil, List.mem_singleton] at hsecond
  subst hsecond
  exact fresh other hother

theorem UniqueKey.countP_le_one {value : Key} {probe : Row → Bool} (h : UniqueKey key table)
    (only : ∀ row ∈ table, probe row → key row = value) : table.countP probe ≤ 1 := by
  induction table with
  | nil => exact Nat.zero_le 1
  | cons first rest ih =>
    obtain ⟨fresh, unique⟩ := List.nodup_cons.mp h
    have others := ih unique fun row hrow => only row (List.mem_cons_of_mem _ hrow)
    rw [List.countP_cons]
    split
    · rename_i hit
      have none : rest.countP probe = 0 := by
        refine List.countP_eq_zero.mpr fun row hrow hit' => fresh ?_
        rw [only first List.mem_cons_self hit, ← only row (List.mem_cons_of_mem _ hrow) hit']
        exact List.mem_map_of_mem hrow
      omega
    · exact others

/-- A probe by a unique key finds the row that has it. -/
theorem UniqueKey.find_eq_some [DecidableEq Key] {row : Row} {value : Key} (h : UniqueKey key table) :
    table.find? (fun other => key other = value) = some row ↔ row ∈ table ∧ key row = value := by
  constructor
  · intro found
    exact ⟨List.mem_of_find?_eq_some found, by simpa using List.find?_some found⟩
  · rintro ⟨hmem, rfl⟩
    cases found : table.find? (fun other => key other = key row) with
    | none => simpa using List.find?_eq_none.mp found row hmem
    | some other =>
      have same : key other = key row := by simpa using List.find?_some found
      rw [h.eq_of_mem (List.mem_of_find?_eq_some found) hmem same]

/-- A probe by a unique key finds the same row among fewer rows, if that row is among them. -/
theorem UniqueKey.find_filter [DecidableEq Key] {value : Key} (h : UniqueKey key table)
    (kept : Row → Bool) :
    (table.filter kept).find? (fun row => key row = value) =
      (table.find? fun row => key row = value).filter kept := by
  have fewer : UniqueKey key (table.filter kept) := List.Nodup.sublist (List.filter_sublist.map key) h
  ext row
  rw [fewer.find_eq_some, Option.filter_eq_some_iff, h.find_eq_some, List.mem_filter]
  tauto

/-- A row that was found stays the one found when rows are added. -/
theorem find_append {α : Type} {probe : Row → Bool} {column : Row → α} {value : α} {rows : List Row}
    (found : (table.find? probe).map column = some value) :
    ((table ++ rows).find? probe).map column = some value := by
  obtain ⟨row, hrow, rfl⟩ := Option.map_eq_some_iff.mp found
  simp [List.find?_append, hrow]

/-- Columns that an update does not set are found as before. -/
theorem find_updateMany {α : Type} {probe : Row → Bool} {column : Row → α}
    (asked : ∀ row, probe (data row) = probe row) (kept : ∀ row, column (data row) = column row) :
    ((updateMany whereClause data table).find? probe).map column =
      (table.find? probe).map column := by
  induction table with
  | nil => rfl
  | cons row rest ih =>
    simp only [updateMany, List.map_cons, List.find?_cons] at ih ⊢
    have same : probe (if whereClause row then data row else row) = probe row := by
      split
      · exact asked row
      · rfl
    rw [same]
    cases probe row with
    | false => exact ih
    | true =>
      simp only [Option.map_some, Option.some.injEq]
      split
      · exact kept row
      · rfl

end

/-! Writes within a scope. -/

/-- Outside of the scope the rows are the same, and in the same order. -/
def SameOutside (scope : Row → Prop) (table table' : List Row) : Prop :=
  ∀ outside : Row → Bool, (∀ row, outside row → ¬scope row) →
    table'.filter outside = table.filter outside

namespace SameOutside

variable {scope wider : Row → Prop} {table table' table'' : List Row}

theorem refl : SameOutside scope table table :=
  fun _ _ => rfl

theorem trans (first : SameOutside scope table table') (second : SameOutside scope table' table'') :
    SameOutside scope table table'' :=
  fun outside foreign => (second outside foreign).trans (first outside foreign)

theorem mono (within : ∀ row, scope row → wider row) (h : SameOutside scope table table') :
    SameOutside wider table table' :=
  fun outside foreign => h outside fun row out inside => foreign row out (within row inside)

theorem append {row : Row} (inside : scope row) : SameOutside scope table (table ++ [row]) := by
  intro outside foreign
  have : ¬outside row = true := fun out => foreign row out inside
  simp [this]

theorem updateMany {whereClause : Row → Bool} {data : Row → Row}
    (inside : ∀ row ∈ table, whereClause row → scope row ∧ scope (data row)) :
    SameOutside scope table (updateMany whereClause data table) := by
  intro outside foreign
  induction table with
  | nil => rfl
  | cons row rest ih =>
    have tail := ih fun other hother => inside other (List.mem_cons_of_mem _ hother)
    by_cases matched : whereClause row
    · have before : ¬outside row = true := fun out =>
        foreign row out (inside row List.mem_cons_self matched).1
      have after : ¬outside (data row) = true := fun out =>
        foreign _ out (inside row List.mem_cons_self matched).2
      simpa [Relational.updateMany, matched, before, after] using tail
    · rw [Relational.updateMany] at tail
      simp [Relational.updateMany, matched, List.filter_cons, tail]

theorem deleteMany {whereClause : Row → Bool}
    (inside : ∀ row ∈ table, whereClause row → scope row) :
    SameOutside scope table (deleteMany whereClause table) := by
  intro outside foreign
  simp only [Relational.deleteMany, List.filter_filter]
  apply List.filter_congr
  intro row hmem
  by_cases matched : whereClause row
  · have : ¬outside row = true := fun out => foreign row out (inside row hmem matched)
    simp [this]
  · simp [matched]

end SameOutside

end TenantOS.Relational
