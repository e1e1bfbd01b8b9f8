import Mathlib.Data.List.Basic
import Mathlib.Tactic.Common

/-! The text of a uuid. -/
namespace TenantOS.Shared

def isHexDigit (c : Char) : Bool :=
  ('0' ≤ c && c ≤ '9') || ('a' ≤ c && c ≤ 'f') || ('A' ≤ c && c ≤ 'F')

def hyphenOffsets : List Nat := [8, 13, 18, 23]

/-- 8-4-4-4-12 hexadecimal digits. -/
def isUuid (text : List Char) : Bool :=
  text.length = 36 && text.zipIdx.all fun c =>
    if c.2 ∈ hyphenOffsets then c.1 = '-' else isHexDigit c.1

theorem length_of_isUuid {text : List Char} (h : isUuid text = true) : text.length = 36 :=
  of_decide_eq_true (Bool.and_eq_true_iff.mp h).1

end TenantOS.Shared
