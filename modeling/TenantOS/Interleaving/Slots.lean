import Mathlib.Data.List.Basic
import Mathlib.Tactic.Common

/-! Slots of a list: whoever joins takes the next one, and keeps it. -/
namespace TenantOS.Interleaving

variable {α : Type} {items : List α} {i j : Nat} {old new item : α}

theorem concat_eq_some :
    (items ++ [new])[j]? = some item ↔
      items[j]? = some item ∨ (j = items.length ∧ item = new) := by
  rcases Nat.lt_trichotomy j items.length with before | rfl | after
  · simp [List.getElem?_append_left before, Nat.ne_of_lt before]
  · simp [eq_comm]
  · rw [List.getElem?_eq_none (by simp; omega), List.getElem?_eq_none (Nat.le_of_lt after)]
    simp [Nat.ne_of_gt after]

theorem set_eq_some (present : items[i]? = some old) :
    (items.set i new)[j]? = some item ↔ (j = i ∧ item = new) ∨ (j ≠ i ∧ items[j]? = some item) := by
  have lt := (List.getElem?_eq_some_iff.mp present).1
  rw [List.getElem?_set]
  by_cases same : i = j
  · subst same
    simp [lt, eq_comm]
  · simp [same, Ne.symm same]

/-- Refilling a slot moves a count by what was there and what is there now. -/
theorem countP_set_eq (p : α → Bool) (present : items[i]? = some old) :
    ((items.set i new).countP p : Int) =
      items.countP p - (if p old then 1 else 0) + (if p new then 1 else 0) := by
  obtain ⟨lt, there⟩ := List.getElem?_eq_some_iff.mp present
  have bounded : p old = true → 1 ≤ items.countP p := fun counted =>
    List.countP_pos_iff.mpr ⟨old, there ▸ List.getElem_mem lt, counted⟩
  rw [List.countP_set lt, there]
  split
  · rename_i counted
    have := bounded counted
    split <;> omega
  · split <;> omega

end TenantOS.Interleaving
