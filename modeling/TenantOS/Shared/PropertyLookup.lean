import Mathlib.Data.List.Basic
import Mathlib.Tactic.Common

/-! Property lookup on an ordinary object of JavaScript, which finds what the object inherits
as well as what it has. -/
namespace TenantOS.Shared

inductive PropertyValue where
  | text (value : String)
  | native (name : String)
  | object
deriving DecidableEq, Repr

def PropertyValue.toPropertyKey : PropertyValue → String
  | .text value => value
  | .native name => "function " ++ name ++ "() { [native code] }"
  | .object => "[object Object]"

/-- What every object literal inherits. -/
def objectPrototype : List (String × PropertyValue) :=
  [("constructor", .native "Object"),
    ("__defineGetter__", .native "__defineGetter__"),
    ("__defineSetter__", .native "__defineSetter__"),
    ("hasOwnProperty", .native "hasOwnProperty"),
    ("__lookupGetter__", .native "__lookupGetter__"),
    ("__lookupSetter__", .native "__lookupSetter__"),
    ("isPrototypeOf", .native "isPrototypeOf"),
    ("propertyIsEnumerable", .native "propertyIsEnumerable"),
    ("toString", .native "toString"),
    ("valueOf", .native "valueOf"),
    ("__proto__", .object),
    ("toLocaleString", .native "toLocaleString")]

def inheritedNames : List String :=
  objectPrototype.map Prod.fst

section

variable (own : List (String × PropertyValue)) (name : String)

def getProperty : Option PropertyValue :=
  (own.lookup name).or (objectPrototype.lookup name)

def hasProperty : Bool :=
  (getProperty own name).isSome

variable {own name}

theorem lookup_isSome_iff {entries : List (String × PropertyValue)} :
    (entries.lookup name).isSome = true ↔ name ∈ entries.map Prod.fst := by
  induction entries with
  | nil => simp
  | cons entry entries ih =>
    rw [List.lookup_cons]
    by_cases same : name = entry.1
    · simp [same]
    · have other : (name == entry.1) = false := by simpa using same
      rw [other, List.map_cons, List.mem_cons]
      simp [same, ih]

theorem getProperty_own (h : name ∈ own.map Prod.fst) :
    getProperty own name = own.lookup name := by
  obtain ⟨value, found⟩ := Option.isSome_iff_exists.mp (lookup_isSome_iff.mpr h)
  rw [getProperty, found]
  rfl

theorem getProperty_inherited (h : name ∉ own.map Prod.fst) :
    getProperty own name = objectPrototype.lookup name := by
  have missing : own.lookup name = none := by
    rw [← Option.not_isSome_iff_eq_none, lookup_isSome_iff]
    exact h
  rw [getProperty, missing]
  rfl

theorem hasProperty_iff :
    hasProperty own name = true ↔ name ∈ own.map Prod.fst ∨ name ∈ inheritedNames := by
  by_cases mine : name ∈ own.map Prod.fst
  · rw [hasProperty, getProperty_own mine, lookup_isSome_iff]
    simp [mine]
  · rw [hasProperty, getProperty_inherited mine, lookup_isSome_iff]
    simp [mine, inheritedNames]

end

end TenantOS.Shared
