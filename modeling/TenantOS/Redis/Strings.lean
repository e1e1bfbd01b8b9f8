import Mathlib.Logic.Function.Basic
import Mathlib.Tactic.Common

/-! String values in Redis, each with an expiry: `GET`, `SET … EX` and `DEL`. -/
namespace TenantOS.Redis

structure TextEntry where
  value : String
  expireAt : Int
deriving DecidableEq, Repr

abbrev Texts := String → Option TextEntry

namespace Texts

variable (db : Texts) (now : Int) (key : String)

def empty : Texts := fun _ => none

def get : Option String :=
  ((db key).filter fun entry => now ≤ entry.expireAt).map TextEntry.value

def setEx (value : String) (seconds : Int) : Texts :=
  Function.update db key (some ⟨value, now + seconds * 1000⟩)

def del (keys : List String) : Texts :=
  fun key => if key ∈ keys then none else db key

variable {db now key}

/-- What is read was stored. -/
theorem eq_some_of_get {value : String} (h : db.get now key = some value) :
    ∃ entry, db key = some entry ∧ entry.value = value := by
  obtain ⟨entry, found, same⟩ := Option.map_eq_some_iff.mp h
  exact ⟨entry, (Option.filter_eq_some_iff.mp found).1, same⟩

theorem eq_some_of_setEx {other : String} {value : String} {seconds : Int} {entry : TextEntry}
    (h : db.setEx now key value seconds other = some entry) :
    other = key ∧ entry.value = value ∨ db other = some entry := by
  by_cases same : other = key
  · subst same
    rw [setEx, Function.update_self] at h
    cases h
    exact .inl ⟨rfl, rfl⟩
  · rw [setEx, Function.update_of_ne same] at h
    exact .inr h

theorem eq_some_of_del {other : String} {keys : List String} {entry : TextEntry}
    (h : db.del keys other = some entry) : db other = some entry := by
  unfold del at h
  split at h
  · cases h
  · exact h

end Texts

end TenantOS.Redis
