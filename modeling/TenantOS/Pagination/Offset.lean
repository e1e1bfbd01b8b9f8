import Mathlib.Data.List.Basic
import Mathlib.Data.List.Flatten
import Mathlib.Order.Lattice
import Mathlib.Order.OrderDual
import Mathlib.Tactic.Common

/-! Cutting an ordered list into pages of equal length by skipping and taking. -/
namespace TenantOS.Offset

variable {α β ε κ : Type} {rows : List α} {limit n : Nat}

/-- The page with `n` pages before it. -/
def slice (limit : Nat) (rows : List α) (n : Nat) : List α :=
  (rows.drop (n * limit)).take limit

/-- The quotient, rounded up. -/
def pageCount (limit length : Nat) : Nat :=
  (length + limit - 1) / limit

theorem lt_pageCount_iff {length : Nat} (least : 1 ≤ limit) :
    n < pageCount limit length ↔ n * limit < length := by
  rw [pageCount, Nat.lt_iff_add_one_le, Nat.le_div_iff_mul_le least, Nat.succ_mul]
  omega

theorem slice_eq_nil_iff (least : 1 ≤ limit) :
    slice limit rows n = [] ↔ pageCount limit rows.length ≤ n := by
  rw [← Nat.not_lt, lt_pageCount_iff least, Nat.not_lt, slice, List.take_eq_nil_iff,
    List.drop_eq_nil_iff]
  omega

theorem flatten_slices (limit : Nat) (rows : List α) (count : Nat) :
    ((List.range count).map (slice limit rows)).flatten = rows.take (count * limit) := by
  induction count with
  | zero => simp
  | succ count ih =>
    rw [List.range_succ, List.map_append, List.flatten_append, ih, Nat.succ_mul, List.take_add]
    simp [slice]

/-- All pages together are the list. -/
theorem flatten_pages (least : 1 ≤ limit) :
    ((List.range (pageCount limit rows.length)).map (slice limit rows)).flatten = rows := by
  rw [flatten_slices]
  apply List.take_of_length_le
  rw [← Nat.not_lt, ← lt_pageCount_iff least]
  exact Nat.lt_irrefl _

/-- Nothing lies on a page past the last one, and on each page before it something does. -/
theorem later_page_iff (least : 1 ≤ limit) :
    (∃ later, n < later ∧ slice limit rows later ≠ []) ↔ n + 1 < pageCount limit rows.length := by
  constructor
  · rintro ⟨later, after, found⟩
    rw [Ne, slice_eq_nil_iff least] at found
    omega
  · intro more
    refine ⟨n + 1, Nat.lt_succ_self n, ?_⟩
    rw [Ne, slice_eq_nil_iff least]
    omega

/-! Reading the pages with a function that may fail. -/

theorem mapM_append_eq_ok {f : α → Except ε β} {a b : List α} {out : List β} :
    (a ++ b).mapM f = .ok out ↔ ∃ xs ys, a.mapM f = .ok xs ∧ b.mapM f = .ok ys ∧ out = xs ++ ys := by
  rw [List.mapM_append]
  cases a.mapM f with
  | error failure => simp [bind, Except.bind]
  | ok xs =>
    cases b.mapM f with
    | error failure => simp [bind, Except.bind]
    | ok ys => simp [bind, Except.bind, pure, Except.pure, eq_comm]

theorem mapM_cons_eq_ok {f : α → Except ε β} {a : α} {rest : List α} {out : List β} :
    (a :: rest).mapM f = .ok out ↔
      ∃ x xs, f a = .ok x ∧ rest.mapM f = .ok xs ∧ out = x :: xs := by
  rw [List.mapM_cons]
  cases f a with
  | error failure => simp [bind, Except.bind]
  | ok x =>
    cases rest.mapM f with
    | error failure => simp [bind, Except.bind]
    | ok xs => simp [bind, Except.bind, pure, Except.pure, eq_comm]

/-- Pages read one after the other give what the whole gives. -/
theorem mapM_flatten_eq_ok {f : α → Except ε β} {pages : List (List α)} {out : List β} :
    pages.flatten.mapM f = .ok out ↔
      ∃ outs, pages.mapM (fun page => page.mapM f) = .ok outs ∧ outs.flatten = out := by
  induction pages generalizing out with
  | nil => simp [pure, Except.pure]
  | cons page pages ih =>
    rw [List.flatten_cons, mapM_append_eq_ok]
    simp only [mapM_cons_eq_ok, ih]
    constructor
    · rintro ⟨xs, ys, first, ⟨outs, others, rfl⟩, rfl⟩
      exact ⟨xs :: outs, ⟨xs, outs, first, others, rfl⟩, rfl⟩
    · rintro ⟨_, ⟨xs, outs, first, others, rfl⟩, rfl⟩
      exact ⟨xs, outs.flatten, first, ⟨outs, others, rfl⟩, rfl⟩

/-! Sorting by a key that tells the elements apart. -/

theorem pairwise_lt_mergeSort [LinearOrder κ] (key : α → κ)
    (apart : rows.Pairwise fun a b => key a ≠ key b) :
    (rows.mergeSort fun a b => decide (key a ≤ key b)).Pairwise fun a b => key a < key b := by
  have sorted : (rows.mergeSort fun a b => decide (key a ≤ key b)).Pairwise fun a b =>
      decide (key a ≤ key b) :=
    List.pairwise_mergeSort (fun _ _ _ => by simpa using le_trans) (fun _ _ => by simp [le_total])
      rows
  have differ : (rows.mergeSort fun a b => decide (key a ≤ key b)).Pairwise fun a b =>
      key a ≠ key b :=
    apart.perm (List.mergeSort_perm rows _).symm fun h => h.symm
  exact (sorted.and differ).imp fun h => lt_of_le_of_ne (by simpa using h.1) h.2

theorem pairwise_gt_mergeSort [LinearOrder κ] (key : α → κ)
    (apart : rows.Pairwise fun a b => key a ≠ key b) :
    (rows.mergeSort fun a b => decide (key b ≤ key a)).Pairwise fun a b => key b < key a :=
  pairwise_lt_mergeSort (fun a => OrderDual.toDual (key a))
    (apart.imp fun differ same => differ (OrderDual.toDual.injective same))

end TenantOS.Offset
