import Mathlib.Data.List.Basic
import Mathlib.Data.List.Nodup
import Mathlib.Tactic.Common

/-! Reading an ordered collection page by page, where each page names its last
element and the next one starts at whatever the collection finds beyond it. -/
namespace TenantOS.Keyset

variable {α : Type} {rows : List α} {beyond : α → α → Bool} {limit : Nat}

/-- `Walk found out`: from the elements `found`, the pages that follow hold `out`. -/
inductive Walk (rows : List α) (beyond : α → α → Bool) (limit : Nat) : List α → List α → Prop
  | last {found : List α} : found.length ≤ limit → Walk rows beyond limit found found
  | more {found rest : List α} {last : α} : limit < found.length →
      (found.take limit).getLast? = some last →
      Walk rows beyond limit (rows.filter (beyond last)) rest →
      Walk rows beyond limit found (found.take limit ++ rest)

/-- At the end of every page but the last one, what is found beyond the element
is what follows it. -/
def Separates (rows : List α) (beyond : α → α → Bool) (limit : Nat) : Prop :=
  ∀ n last, limit ∣ n + 1 → n + 1 < rows.length → rows[n]? = some last →
    rows.filter (beyond last) = rows.drop (n + 1)

/-- Once something is found beyond an element, so is everything after it. -/
def Upward (rows : List α) (beyond : α → α → Bool) : Prop :=
  ∀ last, rows.Pairwise fun x y => beyond last x → beyond last y

theorem filter_suffix {p : α → Bool} (h : rows.Pairwise fun x y => p x → p y) :
    rows.filter p <:+ rows := by
  induction rows with
  | nil => exact List.suffix_rfl
  | cons x rest ih =>
    obtain ⟨here, later⟩ := List.pairwise_cons.mp h
    by_cases found : p x
    · have all : rest.filter p = rest := List.filter_eq_self.mpr fun y hy => here y hy found
      exact ⟨[], by rw [List.filter_cons_of_pos found, all, List.nil_append]⟩
    · rw [List.filter_cons_of_neg found]
      exact (ih later).trans (List.suffix_cons x rest)

theorem filter_eq_drop_iff {p : α → Bool} (distinct : rows.Nodup) (n : Nat) :
    rows.filter p = rows.drop n ↔ (∀ x ∈ rows.take n, ¬p x) ∧ ∀ x ∈ rows.drop n, p x := by
  constructor
  · intro same
    refine ⟨fun x before found => ?_, fun x after => ?_⟩
    · have apart := List.disjoint_of_nodup_append (rows.take_append_drop n ▸ distinct)
      exact apart before (same ▸ List.mem_filter.mpr ⟨List.mem_of_mem_take before, found⟩)
    · exact (List.mem_filter.mp (same ▸ after)).2
  · intro h
    obtain ⟨before, after⟩ := h
    calc rows.filter p
        = (rows.take n).filter p ++ (rows.drop n).filter p := by
          rw [← List.filter_append, List.take_append_drop]
      _ = [] ++ rows.drop n := by
          rw [List.filter_eq_nil_iff.mpr before, List.filter_eq_self.mpr after]
      _ = rows.drop n := List.nil_append _

theorem Walk.subset {found out : List α} (h : Walk rows beyond limit found out)
    (inside : found ⊆ rows) : out ⊆ rows := by
  induction h with
  | last => exact inside
  | more _ _ _ ih =>
    exact List.append_subset.mpr ⟨fun x hx => inside (List.mem_of_mem_take hx),
      ih (List.filter_subset_self _)⟩

theorem eq_of_suffix_of_head? {a b : List α} {x : α} (distinct : b.Nodup) (suffix : a <:+ b)
    (first : a.head? = some x) (first' : b.head? = some x) : a = b := by
  obtain ⟨before, rfl⟩ := suffix
  cases before with
  | nil => rfl
  | cons y before =>
    have here : y = x := by simpa using first'
    have again : x ∈ a := List.mem_of_mem_head? first
    have fresh : y ∉ before ++ a := (List.nodup_cons.mp distinct).1
    exact absurd (List.mem_append_right before (here ▸ again)) fresh

/-- A suffix of distinct elements is known by its first one. -/
theorem suffix_eq_of_head? {a b : List α} {x : α} (distinct : rows.Nodup) (ha : a <:+ rows)
    (hb : b <:+ rows) (first : a.head? = some x) (first' : b.head? = some x) : a = b := by
  rcases List.suffix_or_suffix_of_suffix ha hb with inner | inner
  · exact eq_of_suffix_of_head? (hb.sublist.nodup distinct) inner first first'
  · exact (eq_of_suffix_of_head? (ha.sublist.nodup distinct) inner first' first).symm

theorem Walk.head? {found out : List α} (h : Walk rows beyond limit found out)
    (positive : 0 < limit) : out.head? = found.head? := by
  cases h with
  | last => rfl
  | more long last _ =>
    cases found with
    | nil => simp at long
    | cons x rest =>
      obtain ⟨k, rfl⟩ := Nat.exists_eq_succ_of_ne_zero (Nat.pos_iff_ne_zero.mp positive)
      rfl

theorem getLast?_take {found : List α} (positive : 0 < limit) (long : limit < found.length) :
    (found.take limit).getLast? = found[limit - 1]? := by
  have there : limit - 1 < found.length := by omega
  rw [List.getLast?_take, if_neg (by omega), List.getElem?_eq_getElem there]
  rfl

theorem exists_getLast?_take {found : List α} (positive : 0 < limit)
    (long : limit < found.length) : ∃ last, (found.take limit).getLast? = some last := by
  have there : limit - 1 < found.length := by omega
  exact ⟨found[limit - 1], by rw [getLast?_take positive long, List.getElem?_eq_getElem there]⟩

theorem walk_of_separates (positive : 0 < limit) (h : Separates rows beyond limit) (offset : Nat)
    (aligned : limit ∣ offset) : Walk rows beyond limit (rows.drop offset) (rows.drop offset) := by
  by_cases short : (rows.drop offset).length ≤ limit
  · exact .last short
  have long : limit < (rows.drop offset).length := by omega
  have bound : offset + limit < rows.length := by
    rw [List.length_drop] at long
    omega
  have there : offset + limit - 1 < rows.length := by omega
  have next : offset + limit - 1 + 1 = offset + limit := by omega
  have boundary : limit ∣ offset + limit := (Nat.dvd_add_right aligned).mpr (Nat.dvd_refl limit)
  have ends : ((rows.drop offset).take limit).getLast? = some rows[offset + limit - 1] := by
    rw [getLast?_take positive long, List.getElem?_drop, ← List.getElem?_eq_getElem there]
    congr 1
    omega
  have found := h (offset + limit - 1) _ (by rwa [next]) (by rwa [next])
    (List.getElem?_eq_getElem there)
  rw [next] at found
  have following := walk_of_separates positive h (offset + limit) boundary
  have whole : Walk rows beyond limit (rows.drop offset)
      ((rows.drop offset).take limit ++ rows.drop (offset + limit)) :=
    .more long ends (by rwa [found])
  rwa [← List.drop_drop, List.take_append_drop] at whole
termination_by rows.length - offset

theorem next_multiple {a b : Nat} (ha : limit ∣ a) (hb : limit ∣ b) (h : a < b) :
    a + limit ≤ b := by
  have apart : limit ∣ b - a := Nat.dvd_sub hb ha
  have := Nat.le_of_dvd (by omega) apart
  omega

theorem separates_of_walk (positive : 0 < limit) (distinct : rows.Nodup)
    (upward : Upward rows beyond) {found out : List α} (h : Walk rows beyond limit found out)
    (offset : Nat) (aligned : limit ∣ offset) (start : found = rows.drop offset)
    (all : out = found) (n : Nat) (last : α) (boundary : limit ∣ n + 1) (later : offset ≤ n)
    (inside : n + 1 < rows.length) (there : rows[n]? = some last) :
    rows.filter (beyond last) = rows.drop (n + 1) := by
  induction h generalizing offset with
  | @last found short =>
    have full := next_multiple aligned boundary (by omega)
    rw [start, List.length_drop] at short
    omega
  | @more found rest last' long ends next ih =>
    have tail : rest = rows.drop (offset + limit) := by
      have parts : found.take limit ++ rest = found.take limit ++ found.drop limit := by
        rw [all, List.take_append_drop]
      rw [List.append_cancel_left parts, start, List.drop_drop]
    -- the page after this one begins where the walk says, so it is all that is left
    have following : rows.filter (beyond last') = rest := by
      have fresh : offset + limit < rows.length := by
        rw [start, List.length_drop] at long
        omega
      have first : rest.head? = some rows[offset + limit] := by
        rw [tail, List.head?_drop, List.getElem?_eq_getElem fresh]
      refine suffix_eq_of_head? distinct (filter_suffix (upward last'))
        (tail ▸ List.drop_suffix _ rows) ?_ first
      rw [← next.head? positive, first]
    have full := next_multiple aligned boundary (by omega)
    by_cases now : n + 1 = offset + limit
    · have same : last' = last := by
        rw [getLast?_take positive long, start, List.getElem?_drop,
          show offset + (limit - 1) = n by omega, there] at ends
        exact (Option.some.inj ends).symm
      rw [now, ← tail, ← following, same]
    · exact ih (offset + limit) ((Nat.dvd_add_right aligned).mpr (Nat.dvd_refl limit))
        (following.trans tail) following.symm (by omega)

theorem walk_iff_separates (positive : 0 < limit) (distinct : rows.Nodup)
    (upward : Upward rows beyond) :
    Walk rows beyond limit rows rows ↔ Separates rows beyond limit := by
  constructor
  · intro h n last boundary inside there
    exact separates_of_walk positive distinct upward h 0 (Nat.dvd_zero limit) rfl rfl n last
      boundary (Nat.zero_le n) inside there
  · intro h
    exact walk_of_separates positive h 0 (Nat.dvd_zero limit)

end TenantOS.Keyset
