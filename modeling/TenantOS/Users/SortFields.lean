import TenantOS.Shared.PropertyLookup
import Mathlib.Tactic.Common

/-! What a list of users may be sorted by. -/
namespace TenantOS.Users

open TenantOS.Shared

inductive SortColumn where
  | createdAt | updatedAt | email | firstName | lastName | status | lastLoginAt
deriving DecidableEq, Repr

def SortColumn.name : SortColumn → String
  | .createdAt => "createdAt"
  | .updatedAt => "updatedAt"
  | .email => "email"
  | .firstName => "firstName"
  | .lastName => "lastName"
  | .status => "status"
  | .lastLoginAt => "lastLoginAt"

/-- `SORTABLE_FIELDS`: an object literal, each column under its own name. -/
def sortableFields : List (String × PropertyValue) :=
  [.createdAt, .updatedAt, .email, .firstName, .lastName, .status, .lastLoginAt].map
    fun column : SortColumn => (column.name, .text column.name)

def sortableNames : List String :=
  sortableFields.map Prod.fst

/-- The type of the source has the columns alone; what is found may be anything inherited. -/
def toSortField (sortBy : Option String) : PropertyValue :=
  match sortBy with
  | none | some "" => .text SortColumn.createdAt.name
  | some name =>
      if hasProperty sortableFields name then
        (getProperty sortableFields name).getD (.text SortColumn.createdAt.name)
      else .text SortColumn.createdAt.name

/-- The property of `orderBy` that carries the direction: `[field]`. -/
def orderByField (sortBy : Option String) : String :=
  (toSortField sortBy).toPropertyKey

theorem mem_sortableNames {name : String} :
    name ∈ sortableNames ↔ ∃ column : SortColumn, column.name = name := by
  constructor
  · intro mem
    simp only [sortableNames, sortableFields, List.map_cons, List.map_nil, List.mem_cons,
      List.not_mem_nil, or_false] at mem
    rcases mem with rfl | rfl | rfl | rfl | rfl | rfl | rfl <;> exact ⟨_, rfl⟩
  · rintro ⟨column, rfl⟩
    cases column <;> decide

theorem toSortField_column (column : SortColumn) :
    toSortField (some column.name) = .text column.name := by
  cases column <;> rfl

theorem toSortField_unlisted {name : String} (unlisted : name ∉ sortableNames)
    (owned : name ∉ inheritedNames) : toSortField (some name) = .text SortColumn.createdAt.name := by
  unfold toSortField
  split
  · rfl
  · rfl
  · rename_i here
    cases here
    rw [if_neg]
    rw [hasProperty_iff, not_or]
    exact ⟨unlisted, owned⟩

/-- What is inherited is no column. -/
theorem inherited_unlisted : ∀ name ∈ inheritedNames,
    name ∉ sortableNames ∧ orderByField (some name) ∉ sortableNames := by
  decide

/-- The listed column asked for, and `createdAt` where none was. -/
structure KeepsToList (sortBy : String) : Prop where
  listed : orderByField (some sortBy) ∈ sortableNames
  asked : sortBy ∈ sortableNames → orderByField (some sortBy) = sortBy
  fallback : sortBy ∉ sortableNames → orderByField (some sortBy) = SortColumn.createdAt.name

/-- The list is closed but for the names an object literal inherits. -/
theorem sort_field_listed_iff (sortBy : String) :
    KeepsToList sortBy ↔ sortBy ∉ inheritedNames := by
  constructor
  · intro keeps inherited
    exact (inherited_unlisted sortBy inherited).2 keeps.listed
  · intro owned
    by_cases listed : sortBy ∈ sortableNames
    · obtain ⟨column, rfl⟩ := mem_sortableNames.mp listed
      have found : orderByField (some column.name) = column.name := by
        rw [orderByField, toSortField_column]
        rfl
      refine ⟨?_, fun _ => found, fun unlisted => absurd listed unlisted⟩
      rw [found]
      exact listed
    · have found : orderByField (some sortBy) = SortColumn.createdAt.name := by
        rw [orderByField, toSortField_unlisted listed owned]
        rfl
      refine ⟨?_, fun here => absurd here listed, fun _ => found⟩
      rw [found]
      exact mem_sortableNames.mpr ⟨.createdAt, rfl⟩

/-- The text of a function is put in `orderBy`. -/
theorem toString_not_listed :
    orderByField (some "toString") = "function toString() { [native code] }" ∧
      ¬ KeepsToList "toString" := by
  refine ⟨rfl, ?_⟩
  intro keeps
  exact absurd keeps.listed (by decide)

end TenantOS.Users
