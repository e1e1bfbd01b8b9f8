import Mathlib.Data.List.Infix
import Mathlib.Tactic.Common

/-! Texts as the bytes of their UTF-8. A byte is the character of its code. -/
namespace TenantOS.Encoding.Utf8

def octetsOf (c : Char) : List Char :=
  (String.utf8EncodeChar c).map Char.ofUInt8

def octets (text : List Char) : List Char :=
  text.flatMap octetsOf

def isAscii (c : Char) : Bool :=
  c.toNat < 0x80

/-- A byte that no character begins with. -/
def isContinuation (c : Char) : Bool :=
  0x80 ≤ c.toNat && c.toNat < 0xc0

example : octets "aé😀".toList =
    ['a', '\xc3', '\xa9', '\xf0', '\x9f', '\x98', '\x80'] := by decide

variable {c d : Char} {text : List Char}

/-! One character. -/

theorem toNat_ofUInt8 (n : Nat) : (Char.ofUInt8 (UInt8.ofNat n)).toNat = n % 256 := by
  change (UInt8.ofNat n).toUInt32.toNat = n % 256
  simp

theorem isContinuation_octet (n : Nat) : isContinuation (Char.ofUInt8 (UInt8.ofNat n)) = true ↔
    0x80 ≤ n % 256 ∧ n % 256 < 0xc0 := by
  rw [isContinuation, toNat_ofUInt8, Bool.and_eq_true, decide_eq_true_iff, decide_eq_true_iff]

theorem isAscii_iff : isAscii c = true ↔ c.toNat < 0x80 :=
  decide_eq_true_iff

theorem octetsOf_ascii (ascii : isAscii c = true) : octetsOf c = [c] := by
  have small := isAscii_iff.mp ascii
  have size : c.val.toNat ≤ 0x7f := Nat.le_of_lt_succ small
  rw [octetsOf, String.utf8EncodeChar, if_pos size]
  simp only [List.map_cons, List.map_nil, List.cons.injEq, and_true]
  apply Char.toNat_inj.mp
  rw [toNat_ofUInt8]
  exact Nat.mod_eq_of_lt (by omega)

/-- The first of several bytes tells where a character begins, the others that it continues. -/
theorem octetsOf_wide (wide : ¬ isAscii c = true) : ∃ first later, octetsOf c = first :: later ∧
    later ≠ [] ∧ ¬ isAscii first = true ∧ ¬ isContinuation first = true ∧
      ∀ b ∈ later, isContinuation b = true := by
  rw [isAscii_iff] at wide
  have several : ¬ c.val.toNat ≤ 0x7f := fun small => wide (Nat.lt_succ_of_le small)
  rw [octetsOf, String.utf8EncodeChar, if_neg several]
  split
  · refine ⟨_, _, rfl, ?_⟩
    simp only [isContinuation_octet, isAscii_iff, toNat_ofUInt8, List.map_cons, List.map_nil,
      List.forall_mem_cons, List.not_mem_nil, IsEmpty.forall_iff, implies_true, and_true]
    refine ⟨List.cons_ne_nil _ _, ?_⟩
    omega
  · split
    · refine ⟨_, _, rfl, ?_⟩
      simp only [isContinuation_octet, isAscii_iff, toNat_ofUInt8, List.map_cons, List.map_nil,
        List.forall_mem_cons, List.not_mem_nil, IsEmpty.forall_iff, implies_true, and_true]
      refine ⟨List.cons_ne_nil _ _, ?_⟩
      omega
    · refine ⟨_, _, rfl, ?_⟩
      simp only [isContinuation_octet, isAscii_iff, toNat_ofUInt8, List.map_cons, List.map_nil,
        List.forall_mem_cons, List.not_mem_nil, IsEmpty.forall_iff, implies_true, and_true]
      refine ⟨List.cons_ne_nil _ _, ?_⟩
      omega

theorem octetsOf_begins (c : Char) :
    ∃ first later, octetsOf c = first :: later ∧ ¬ isContinuation first = true := by
  by_cases ascii : isAscii c = true
  · refine ⟨c, [], octetsOf_ascii ascii, ?_⟩
    rw [isContinuation, Bool.and_eq_true, decide_eq_true_iff]
    have low := isAscii_iff.mp ascii
    omega
  · obtain ⟨first, later, bytes, -, -, fresh, -⟩ := octetsOf_wide ascii
    exact ⟨first, later, bytes, fresh⟩

theorem octetsOf_ne_nil (c : Char) : octetsOf c ≠ [] := by
  obtain ⟨first, later, bytes, -⟩ := octetsOf_begins c
  rw [bytes]
  exact List.cons_ne_nil _ _

/-- No character's bytes begin another's. -/
theorem octetsOf_append_inj {rest rest' : List Char}
    (h : octetsOf c ++ rest = octetsOf d ++ rest') : c = d ∧ rest = rest' := by
  have bytes (x : Char) : (octetsOf x).map Char.toUInt8 = String.utf8EncodeChar x := by
    rw [octetsOf, List.map_map]
    apply List.map_id''
    intro b
    change b.toUInt32.toUInt8 = b
    simp
  have decoded (x : Char) (later : List Char) :
      ((octetsOf x ++ later).map Char.toUInt8).toByteArray.utf8DecodeChar? 0 = some x := by
    rw [List.map_append, bytes, List.toByteArray_append]
    exact ByteArray.utf8DecodeChar?_utf8EncodeChar_append
  have same : c = d := by
    apply Option.some.inj
    rw [← decoded c rest, h, decoded d rest']
  subst same
  exact ⟨rfl, List.append_cancel_left h⟩

/-- A byte below 0x80 is a character, wherever it stands. -/
theorem eq_of_mem_octetsOf (mem : d ∈ octetsOf c) (ascii : isAscii d = true) : d = c := by
  by_cases small : isAscii c = true
  · rw [octetsOf_ascii small] at mem
    exact List.mem_singleton.mp mem
  · obtain ⟨first, later, bytes, -, big, -, others⟩ := octetsOf_wide small
    rw [bytes] at mem
    rcases List.mem_cons.mp mem with rfl | mem
    · exact absurd ascii big
    · have high := others d mem
      rw [isContinuation, Bool.and_eq_true, decide_eq_true_iff] at high
      have low := isAscii_iff.mp ascii
      omega

/-- Before a byte that begins a character there is a whole one. -/
theorem isAscii_of_octetsOf_append {rest rest' : List Char}
    (h : octetsOf c ++ rest = d :: rest') (begins : ∃ b ∈ rest'.head?, ¬ isContinuation b = true) :
    isAscii c = true := by
  by_contra wide
  obtain ⟨first, later, bytes, several, -, -, others⟩ := octetsOf_wide wide
  obtain ⟨second, last, rfl⟩ := List.exists_cons_of_ne_nil several
  rw [bytes, List.cons_append, List.cons_append, List.cons.injEq] at h
  obtain ⟨b, head, fresh⟩ := begins
  rw [← h.2, List.head?_cons, Option.mem_some_iff] at head
  exact fresh (head ▸ others second List.mem_cons_self)

/-! A text. -/

@[simp] theorem octets_nil : octets [] = [] := rfl

@[simp] theorem octets_cons (c : Char) (text : List Char) :
    octets (c :: text) = octetsOf c ++ octets text := rfl

@[simp] theorem octets_append (text text' : List Char) :
    octets (text ++ text') = octets text ++ octets text' :=
  List.flatMap_append

theorem mem_octets_iff (ascii : isAscii c = true) : c ∈ octets text ↔ c ∈ text := by
  rw [octets, List.mem_flatMap]
  constructor
  · rintro ⟨d, mem, byte⟩
    exact eq_of_mem_octetsOf byte ascii ▸ mem
  · intro mem
    exact ⟨c, mem, by rw [octetsOf_ascii ascii]; exact List.mem_singleton_self c⟩

theorem octets_prefix_iff {text text' : List Char} :
    octets text <+: octets text' ↔ text <+: text' := by
  induction text generalizing text' with
  | nil => simp
  | cons c text ih =>
    cases text' with
    | nil =>
      simp [octetsOf_ne_nil]
    | cons d text' =>
      rw [List.cons_prefix_cons, ← ih]
      constructor
      · rintro ⟨rest, whole⟩
        rw [octets_cons, octets_cons, List.append_assoc] at whole
        obtain ⟨rfl, others⟩ := octetsOf_append_inj whole
        exact ⟨rfl, rest, others⟩
      · rintro ⟨rfl, begins⟩
        exact (List.prefix_append_right_inj _).mpr begins

/-- A byte below 0x80 parts a text into texts. -/
theorem octets_split {before after : List Char} (h : octets text = before ++ c :: after)
    (ascii : isAscii c = true) :
    ∃ start rest, text = start ++ c :: rest ∧ octets start = before ∧ octets rest = after := by
  induction text generalizing before with
  | nil => simp at h
  | cons d text ih =>
    rw [octets_cons] at h
    rcases List.append_eq_append_iff.mp h with ⟨more, rfl, here⟩ | ⟨more, first, here⟩
    · obtain ⟨start, rest, rfl, rfl, same⟩ := ih here
      exact ⟨d :: start, rest, rfl, rfl, same⟩
    · cases more with
      | nil =>
        obtain ⟨start, rest, rfl, none, same⟩ := @ih [] here.symm
        refine ⟨d :: start, rest, rfl, ?_, same⟩
        rw [octets_cons, none, first, List.append_nil, List.append_nil]
      | cons b more =>
        obtain ⟨rfl, others⟩ := List.cons.inj here
        have mem : c ∈ octetsOf d := first ▸ List.mem_append_right _ List.mem_cons_self
        obtain rfl := eq_of_mem_octetsOf mem ascii
        rw [octetsOf_ascii ascii] at first
        rcases List.append_eq_singleton_iff.mp first.symm with ⟨rfl, last⟩ | ⟨-, last⟩
        · obtain rfl := (List.cons.inj last).2
          exact ⟨[], text, rfl, rfl, others.symm⟩
        · cases last

end TenantOS.Encoding.Utf8
