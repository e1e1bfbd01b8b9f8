import Mathlib.Data.List.TakeWhile
import Mathlib.Tactic.Common

/-! Base64 with the URL-safe alphabet and no padding, over byte lists: what a host
writes, and what it reads back. -/
namespace TenantOS.Base64Url

def alphabet : List Char :=
  "ABCDEFGHIJKLMNOPQRSTUVWXYZabcdefghijklmnopqrstuvwxyz0123456789-_".toList

def digit (n : Nat) : Char :=
  alphabet.getD n 'A'

/-- The readers take both alphabets. -/
def value? (c : Char) : Option Nat :=
  if c = '+' then some 62 else if c = '/' then some 63
  else if c ∈ alphabet then some (alphabet.idxOf c) else none

set_option maxRecDepth 4096 in
theorem value?_digit {n : Nat} (h : n < 64) : value? (digit n) = some n :=
  (by decide : ∀ n < 64, value? (digit n) = some n) n h

/-! Three bytes are four digits of six bits; a last group of one or two bytes is cut short. -/

def sextets : List UInt8 → List Nat
  | [] => []
  | [a] => [a.toNat / 4, a.toNat % 4 * 16]
  | [a, b] => [a.toNat / 4, a.toNat % 4 * 16 + b.toNat / 16, b.toNat % 16 * 4]
  | a :: b :: c :: rest =>
      a.toNat / 4 :: (a.toNat % 4 * 16 + b.toNat / 16) :: (b.toNat % 16 * 4 + c.toNat / 64) ::
        c.toNat % 64 :: sextets rest

def octets : List Nat → List UInt8
  | p :: q :: r :: s :: rest =>
      .ofNat (p * 4 + q / 16) :: .ofNat (q % 16 * 16 + r / 4) :: .ofNat (r % 4 * 64 + s) ::
        octets rest
  | [p, q, r] => [.ofNat (p * 4 + q / 16), .ofNat (q % 16 * 16 + r / 4)]
  | [p, q] => [.ofNat (p * 4 + q / 16)]
  | _ => []

theorem sextets_lt (bytes : List UInt8) : ∀ n ∈ sextets bytes, n < 64 := by
  have bound (a : UInt8) : a.toNat < 256 := a.toNat_lt
  induction bytes using sextets.induct with
  | case1 => simp [sextets]
  | case2 a =>
    have := bound a
    simp only [sextets, List.mem_cons, List.not_mem_nil, or_false]
    intro n hn
    omega
  | case3 a b =>
    have := bound a
    have := bound b
    simp only [sextets, List.mem_cons, List.not_mem_nil, or_false]
    intro n hn
    omega
  | case4 a b c rest ih =>
    have := bound a
    have := bound b
    have := bound c
    simp only [sextets, List.mem_cons]
    intro n hn
    by_cases later : n ∈ sextets rest
    · exact ih n later
    · simp only [later, or_false] at hn
      omega

private theorem ofNat_eq {n : Nat} {a : UInt8} (h : n = a.toNat) : UInt8.ofNat n = a := by
  rw [h, UInt8.ofNat_toNat]

theorem octets_sextets (bytes : List UInt8) : octets (sextets bytes) = bytes := by
  have bound (a : UInt8) : a.toNat < 256 := a.toNat_lt
  induction bytes using sextets.induct with
  | case1 => rfl
  | case2 a =>
    have first : UInt8.ofNat (a.toNat / 4 * 4 + a.toNat % 4 * 16 / 16) = a := ofNat_eq (by omega)
    simp only [sextets, octets, first]
  | case3 a b =>
    have := bound b
    simp only [sextets, octets, List.cons.injEq, and_true]
    exact ⟨ofNat_eq (by omega), ofNat_eq (by omega)⟩
  | case4 a b c rest ih =>
    have := bound b
    have := bound c
    simp only [sextets, octets, List.cons.injEq]
    exact ⟨ofNat_eq (by omega), ofNat_eq (by omega), ofNat_eq (by omega), ih⟩

/-! The text. -/

def encode (bytes : List UInt8) : List Char :=
  (sextets bytes).map digit

/-- Reading stops at the padding and passes over what is in neither alphabet. -/
def decode (text : List Char) : List UInt8 :=
  octets ((text.takeWhile (· ≠ '=')).filterMap value?)

theorem digit_ne_padding {n : Nat} (h : n < 64) : digit n ≠ '=' := by
  intro padding
  have outside : value? '=' = none := by decide
  rw [← padding, value?_digit h] at outside
  cases outside

theorem filterMap_digits {ns : List Nat} (small : ∀ n ∈ ns, n < 64) :
    (ns.map digit).filterMap value? = ns := by
  induction ns with
  | nil => rfl
  | cons n rest ih =>
    rw [List.map_cons, List.filterMap_cons_some (value?_digit (small n List.mem_cons_self)),
      ih fun m hm => small m (List.mem_cons_of_mem n hm)]

theorem decode_encode (bytes : List UInt8) : decode (encode bytes) = bytes := by
  have small := sextets_lt bytes
  have whole : (encode bytes).takeWhile (· ≠ '=') = encode bytes := by
    apply List.takeWhile_eq_self_iff.mpr
    intro c hc
    obtain ⟨n, hn, rfl⟩ := List.mem_map.mp hc
    simpa using digit_ne_padding (small n hn)
  rw [decode, whole, encode, filterMap_digits small, octets_sextets]

theorem encode_ne_nil {bytes : List UInt8} (h : bytes ≠ []) : encode bytes ≠ [] := by
  intro empty
  apply h
  rw [← decode_encode bytes, empty]
  rfl

end TenantOS.Base64Url
