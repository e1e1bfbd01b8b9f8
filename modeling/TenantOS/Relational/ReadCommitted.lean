import TenantOS.Interleaving.Slots

/-! One table under READ COMMITTED. A row keeps its committed version and at most
one newer version, whose transaction has the row locked. A statement sees what was
committed when it looks and the writes of its own transaction; a write waits for the
row's lock and tests its `WHERE` again on the version it then finds. -/
namespace TenantOS.Relational

open TenantOS.Interleaving (concat_eq_some)

structure Cell (Row : Type) where
  committed : Option Row
  pending : Option (Nat × Row)
deriving DecidableEq

variable {Row Target : Type}

namespace Cell

variable (tx : Nat) (cell : Cell Row)

/-- The version this transaction wrote. -/
def own : Option Row :=
  (cell.pending.filter fun version => version.1 = tx).map Prod.snd

def lockedAgainst : Bool :=
  cell.pending.any fun version => version.1 ≠ tx

def visible : Option Row :=
  (cell.own tx).or cell.committed

def write (row : Row) : Cell Row :=
  ⟨cell.committed, some (tx, row)⟩

def commit : Cell Row :=
  match cell.own tx with
  | some row => ⟨some row, none⟩
  | none => cell

def rollback : Cell Row :=
  match cell.own tx with
  | some _ => ⟨cell.committed, none⟩
  | none => cell

/-- Every version of the row that is, or may yet be, the current one. -/
def versions : List Row :=
  cell.committed.toList ++ (cell.pending.map Prod.snd).toList

variable {tx cell} {row : Row}

theorem own_eq_some : cell.own tx = some row ↔ cell.pending = some (tx, row) := by
  unfold own
  cases cell.pending with
  | none => simp
  | some version =>
    obtain ⟨owner, held⟩ := version
    by_cases same : owner = tx <;> simp [Option.filter, same]

theorem own_eq_none : cell.own tx = none ↔ ∀ owner held, cell.pending = some (owner, held) →
    owner ≠ tx := by
  unfold own
  cases cell.pending with
  | none => simp
  | some version =>
    obtain ⟨owner, held⟩ := version
    by_cases same : owner = tx <;> simp [Option.filter, same]

theorem lockedAgainst_eq_false : cell.lockedAgainst tx = false ↔
    ∀ owner held, cell.pending = some (owner, held) → owner = tx := by
  unfold lockedAgainst
  cases cell.pending with
  | none => simp
  | some version =>
    obtain ⟨owner, held⟩ := version
    simp

@[simp] theorem own_write : (cell.write tx row).own tx = some row :=
  own_eq_some.mpr rfl

theorem visible_eq_some : cell.visible tx = some row ↔
    cell.own tx = some row ∨ (cell.own tx = none ∧ cell.committed = some row) := by
  unfold visible
  cases cell.own tx <;> simp

theorem commit_of_own (h : cell.own tx = some row) : cell.commit tx = ⟨some row, none⟩ := by
  rw [commit, h]

theorem commit_of_none (h : cell.own tx = none) : cell.commit tx = cell := by
  rw [commit, h]

theorem rollback_of_own (h : cell.own tx = some row) :
    cell.rollback tx = ⟨cell.committed, none⟩ := by
  rw [rollback, h]

theorem rollback_of_none (h : cell.own tx = none) : cell.rollback tx = cell := by
  rw [rollback, h]

@[simp] theorem rollback_committed : (cell.rollback tx).committed = cell.committed := by
  unfold rollback
  split <;> rfl

/-- Ending a transaction leaves only the versions of the others in progress. -/
theorem commit_pending {owner : Nat} (h : (cell.commit tx).pending = some (owner, row)) :
    owner ≠ tx ∧ cell.pending = some (owner, row) ∧ cell.commit tx = cell := by
  cases mine : cell.own tx with
  | some held =>
    rw [commit_of_own mine] at h
    cases h
  | none =>
    rw [commit_of_none mine] at h
    exact ⟨own_eq_none.mp mine owner row h, h, commit_of_none mine⟩

theorem rollback_pending {owner : Nat} (h : (cell.rollback tx).pending = some (owner, row)) :
    owner ≠ tx ∧ cell.pending = some (owner, row) ∧ cell.rollback tx = cell := by
  cases mine : cell.own tx with
  | some held =>
    rw [rollback_of_own mine] at h
    cases h
  | none =>
    rw [rollback_of_none mine] at h
    exact ⟨own_eq_none.mp mine owner row h, h, rollback_of_none mine⟩

end Cell

/-! A table, as its cells in the order they were inserted. `clash` says which unique
index two rows collide on. -/

/-- What a unique index says to a new version of a row. -/
inductive Verdict (Target : Type) where
  | free
  | waits
  | violates (target : Target)
deriving DecidableEq

abbrev Heap (Row : Type) := List (Cell Row)

namespace Heap

def rows (heap : Heap Row) : List Row :=
  heap.filterMap Cell.committed

/-- What a statement sees; outside a transaction, what is committed. -/
def select (tx : Option Nat) (whereClause : Row → Bool) (heap : Heap Row) : List Row :=
  (heap.filterMap fun cell => (tx.elim cell.committed cell.visible)).filter whereClause

/-- The rows an update will visit, chosen when it starts. -/
def targets (tx : Nat) (whereClause : Row → Bool) (heap : Heap Row) : List Nat :=
  (List.range heap.length).filter fun i => (heap[i]?.bind (Cell.visible tx)).any whereClause

variable (clash : Row → Row → Option Target)

/-- A version that collides with one another transaction may yet undo waits for it. -/
def verdict (tx i : Nat) (row : Row) (heap : Heap Row) : Verdict Target :=
  if (heap.eraseIdx i).any fun cell =>
      cell.lockedAgainst tx && cell.versions.any fun other => (clash row other).isSome then .waits
  else
    match (heap.eraseIdx i).findSome? fun cell => (cell.visible tx).bind (clash row) with
    | some target => .violates target
    | none => .free

/-- The update of one row it visits: it waits for the lock, and tests the row again. -/
def update (tx i : Nat) (whereClause : Row → Bool) (data : Row → Row) (heap : Heap Row) :
    Option (Except Target Bool × Heap Row) :=
  match heap[i]? with
  | none => some (.ok false, heap)
  | some cell =>
    if cell.lockedAgainst tx then none
    else
      match (cell.visible tx).filter whereClause with
      | none => some (.ok false, heap)
      | some row =>
        match verdict clash tx i (data row) heap with
        | .waits => none
        | .violates target => some (.error target, heap)
        | .free => some (.ok true, heap.set i (cell.write tx (data row)))

def insert (tx : Nat) (row : Row) (heap : Heap Row) : Option (Except Target Unit × Heap Row) :=
  match verdict clash tx heap.length row heap with
  | .waits => none
  | .violates target => some (.error target, heap)
  | .free => some (.ok (), heap ++ [⟨none, some (tx, row)⟩])

def commit (tx : Nat) (heap : Heap Row) : Heap Row :=
  heap.map (Cell.commit tx)

def rollback (tx : Nat) (heap : Heap Row) : Heap Row :=
  heap.map (Cell.rollback tx)

variable {clash} {tx i : Nat} {heap heap' : Heap Row} {row : Row}

/-- Everything the update of one row can do. -/
theorem update_cases {whereClause : Row → Bool} {data : Row → Row} {result : Except Target Bool}
    (h : update clash tx i whereClause data heap = some (result, heap')) :
    (heap' = heap ∧ result ≠ .ok true) ∨
      ∃ cell row, heap[i]? = some cell ∧ cell.lockedAgainst tx = false ∧
        cell.visible tx = some row ∧ whereClause row ∧
        verdict clash tx i (data row) heap = .free ∧ result = .ok true ∧
        heap' = heap.set i (cell.write tx (data row)) := by
  unfold update at h
  split at h
  · cases h
    exact .inl ⟨rfl, by simp⟩
  rename_i cell hcell
  split at h
  · cases h
  rename_i free
  split at h
  · cases h
    exact .inl ⟨rfl, by simp⟩
  rename_i row hrow
  obtain ⟨visible, matched⟩ := Option.filter_eq_some_iff.mp hrow
  split at h
  · cases h
  · cases h
    exact .inl ⟨rfl, by simp⟩
  · rename_i admitted
    cases h
    exact .inr ⟨cell, row, hcell, by simpa using free, visible, matched, admitted, rfl, rfl⟩

theorem insert_cases {result : Except Target Unit}
    (h : insert clash tx row heap = some (result, heap')) :
    (heap' = heap ∧ result ≠ .ok ()) ∨
      verdict clash tx heap.length row heap = .free ∧ result = .ok () ∧
        heap' = heap ++ [⟨none, some (tx, row)⟩] := by
  unfold insert at h
  split at h
  · cases h
  · cases h
    exact .inl ⟨rfl, by simp⟩
  · rename_i admitted
    cases h
    exact .inr ⟨admitted, rfl, rfl⟩

theorem mem_select {tx : Option Nat} {whereClause : Row → Bool} :
    row ∈ select tx whereClause heap ↔ ∃ (j : Nat) (cell : Cell Row), heap[j]? = some cell ∧
      tx.elim cell.committed cell.visible = some row ∧ whereClause row := by
  simp only [select, List.mem_filter, List.mem_filterMap]
  constructor
  · rintro ⟨⟨cell, hcell, seen⟩, matched⟩
    obtain ⟨j, found⟩ := List.getElem?_of_mem hcell
    exact ⟨j, cell, found, seen, matched⟩
  · rintro ⟨j, cell, found, seen, matched⟩
    exact ⟨⟨cell, List.mem_of_getElem? found, seen⟩, matched⟩

/-! Unique indexes. -/

/-- Two rows never collide on versions that could be current together. -/
structure Apart (clash : Row → Row → Option Target) (cell other : Cell Row) : Prop where
  committed : ∀ row row', cell.committed = some row → other.committed = some row' →
    clash row row' = none
  overtaken : ∀ tx row row', cell.pending = some (tx, row) → other.committed = some row' →
    other.own tx = none → clash row row' = none
  pending : ∀ tx row tx' row', cell.pending = some (tx, row) → other.pending = some (tx', row') →
    clash row row' = none

def Separate (clash : Row → Row → Option Target) (heap : Heap Row) : Prop :=
  ∀ (i j : Nat) (cell other : Cell Row), i ≠ j → heap[i]? = some cell → heap[j]? = some other → Apart clash cell other

theorem verdict_free (h : verdict clash tx i row heap = .free) {j : Nat} {other : Cell Row}
    (hj : heap[j]? = some other) (ne : j ≠ i) :
    (∀ row', other.committed = some row' → other.own tx = none → clash row row' = none) ∧
      ∀ tx' row', other.pending = some (tx', row') → clash row row' = none := by
  unfold verdict at h
  have hmem : other ∈ heap.eraseIdx i := List.mem_eraseIdx_iff_getElem?.mpr ⟨j, ne, hj⟩
  split at h
  · contradiction
  rename_i unlocked
  split at h
  · contradiction
  rename_i unseen
  have unclashed := List.findSome?_eq_none_iff.mp unseen other hmem
  have clear : other.lockedAgainst tx → ∀ row' ∈ other.versions, clash row row' = none := by
    intro locked row' hrow'
    by_contra clashes
    exact unlocked (List.any_eq_true.mpr ⟨other, hmem, by
      simp only [locked, Bool.true_and, List.any_eq_true]
      exact ⟨row', hrow', Option.isSome_iff_ne_none.mpr clashes⟩⟩)
  cases locked : other.lockedAgainst tx with
  | true =>
    refine ⟨fun row' hrow' _ => clear locked row' ?_, fun tx' row' hrow' => clear locked row' ?_⟩
    · simp [Cell.versions, hrow']
    · simp [Cell.versions, hrow']
  | false =>
    constructor
    · intro row' hrow' unowned
      have visible : other.visible tx = some row' := Cell.visible_eq_some.mpr (.inr ⟨unowned, hrow'⟩)
      simpa [visible] using unclashed
    · intro tx' row' hrow'
      cases Cell.lockedAgainst_eq_false.mp locked tx' row' hrow'
      have visible : other.visible tx = some row' :=
        Cell.visible_eq_some.mpr (.inl (Cell.own_eq_some.mpr hrow'))
      simpa [visible] using unclashed

section

variable (symm : ∀ row row', clash row row' = none → clash row' row = none)

include symm

/-- A version the indexes let through keeps its row apart from every other. -/
theorem Apart.write {cell other : Cell Row} (h : Apart clash cell other)
    (h' : Apart clash other cell) (free : cell.lockedAgainst tx = false)
    (clear : (∀ row', other.committed = some row' → other.own tx = none → clash row row' = none) ∧
      ∀ tx' row', other.pending = some (tx', row') → clash row row' = none) :
    Apart clash (cell.write tx row) other ∧ Apart clash other (cell.write tx row) := by
  refine ⟨⟨h.committed, ?_, ?_⟩, ⟨h'.committed, ?_, ?_⟩⟩
  · rintro tx' row' other' written hother unowned
    cases written
    exact clear.1 other' hother unowned
  · rintro tx' row' tx'' other' written hother
    cases written
    exact clear.2 tx'' other' hother
  · intro tx' other' row' hother hrow' unowned
    refine h'.overtaken tx' other' row' hother hrow' (Cell.own_eq_none.mpr ?_)
    rintro owner held hheld rfl
    cases Cell.lockedAgainst_eq_false.mp free owner held hheld
    rw [Cell.own_write] at unowned
    contradiction
  · rintro tx' other' tx'' row' hother written
    cases written
    exact symm _ _ (clear.2 tx' other' hother)

theorem Separate.write {cell : Cell Row} (h : Separate clash heap) (hcell : heap[i]? = some cell)
    (free : cell.lockedAgainst tx = false) (admitted : verdict clash tx i row heap = .free) :
    Separate clash (heap.set i (cell.write tx row)) := by
  intro j k first second ne hfirst hsecond
  rw [List.getElem?_set] at hfirst hsecond
  have clear {n : Nat} {other : Cell Row} (hn : heap[n]? = some other) (away : n ≠ i) :=
    verdict_free admitted hn away
  by_cases hj : i = j
  · subst hj
    rw [if_neg ne] at hsecond
    simp only [if_true] at hfirst
    split at hfirst
    · cases hfirst
      exact ((h i k cell second ne hcell hsecond).write symm
        (h k i second cell (Ne.symm ne) hsecond hcell) free (clear hsecond (Ne.symm ne))).1
    · cases hfirst
  rw [if_neg hj] at hfirst
  by_cases hk : i = k
  · subst hk
    simp only [if_true] at hsecond
    split at hsecond
    · cases hsecond
      exact ((h i j cell first hj hcell hfirst).write symm (h j i first cell ne hfirst hcell)
        free (clear hfirst ne)).2
    · cases hsecond
  · rw [if_neg hk] at hsecond
    exact h j k first second ne hfirst hsecond

theorem Separate.insert (h : Separate clash heap)
    (admitted : verdict clash tx heap.length row heap = .free) :
    Separate clash (heap ++ [⟨none, some (tx, row)⟩]) := by
  have fresh {n : Nat} {other : Cell Row} (hn : heap[n]? = some other) :
      Apart clash ⟨none, some (tx, row)⟩ other ∧ Apart clash other ⟨none, some (tx, row)⟩ := by
    have clear := verdict_free admitted hn (Nat.ne_of_lt (List.getElem?_eq_some_iff.mp hn).1)
    have empty : Apart clash ⟨none, none⟩ other ∧ Apart clash other ⟨none, none⟩ :=
      ⟨⟨nofun, nofun, nofun⟩, ⟨nofun, nofun, nofun⟩⟩
    exact empty.1.write symm empty.2 rfl clear
  intro j k first second ne hfirst hsecond
  rcases concat_eq_some.mp hfirst with hfirst | ⟨rfl, rfl⟩ <;>
    rcases concat_eq_some.mp hsecond with hsecond | ⟨rfl, rfl⟩
  · exact h j k first second ne hfirst hsecond
  · exact (fresh hfirst).2
  · exact (fresh hsecond).1
  · contradiction

theorem Separate.commit (h : Separate clash heap) : Separate clash (heap.commit tx) := by
  intro j k first second ne hfirst hsecond
  simp only [Heap.commit, List.getElem?_map, Option.map_eq_some_iff] at hfirst hsecond
  obtain ⟨cell, hcell, rfl⟩ := hfirst
  obtain ⟨other, hother, rfl⟩ := hsecond
  have apart := h j k cell other ne hcell hother
  have apart' := h k j other cell (Ne.symm ne) hother hcell
  refine ⟨fun row row' hrow hrow' => ?_, fun owner row row' hrow hrow' unowned => ?_,
    fun owner row owner' row' hrow hrow' => ?_⟩
  · cases mine : cell.own tx with
    | none =>
      rw [Cell.commit_of_none mine] at hrow
      cases yours : other.own tx with
      | none =>
        rw [Cell.commit_of_none yours] at hrow'
        exact apart.committed row row' hrow hrow'
      | some held =>
        rw [Cell.commit_of_own yours] at hrow'
        obtain rfl : held = row' := Option.some.inj hrow'
        exact symm _ _ (apart'.overtaken tx held row (Cell.own_eq_some.mp yours) hrow mine)
    | some held =>
      rw [Cell.commit_of_own mine] at hrow
      obtain rfl : held = row := Option.some.inj hrow
      have hheld := Cell.own_eq_some.mp mine
      cases yours : other.own tx with
      | none =>
        rw [Cell.commit_of_none yours] at hrow'
        exact apart.overtaken tx held row' hheld hrow' yours
      | some held' =>
        rw [Cell.commit_of_own yours] at hrow'
        obtain rfl : held' = row' := Option.some.inj hrow'
        exact apart.pending tx held tx held' hheld (Cell.own_eq_some.mp yours)
  · obtain ⟨foreign, hrow, -⟩ := Cell.commit_pending hrow
    cases yours : other.own tx with
    | none =>
      rw [Cell.commit_of_none yours] at hrow' unowned
      exact apart.overtaken owner row row' hrow hrow' unowned
    | some held' =>
      rw [Cell.commit_of_own yours] at hrow'
      obtain rfl : held' = row' := Option.some.inj hrow'
      exact apart.pending owner row tx held' hrow (Cell.own_eq_some.mp yours)
  · obtain ⟨-, hrow, -⟩ := Cell.commit_pending hrow
    obtain ⟨-, hrow', -⟩ := Cell.commit_pending hrow'
    exact apart.pending owner row owner' row' hrow hrow'

end

theorem Separate.rollback (h : Separate clash heap) : Separate clash (heap.rollback tx) := by
  intro j k first second ne hfirst hsecond
  simp only [Heap.rollback, List.getElem?_map, Option.map_eq_some_iff] at hfirst hsecond
  obtain ⟨cell, hcell, rfl⟩ := hfirst
  obtain ⟨other, hother, rfl⟩ := hsecond
  have apart := h j k cell other ne hcell hother
  refine ⟨?_, fun owner row row' hrow hrow' unowned => ?_,
    fun owner row owner' row' hrow hrow' => ?_⟩
  · simpa using apart.committed
  · obtain ⟨foreign, hrow, -⟩ := Cell.rollback_pending hrow
    rw [Cell.rollback_committed] at hrow'
    refine apart.overtaken owner row row' hrow hrow' (Cell.own_eq_none.mpr ?_)
    rintro owner' held hheld rfl
    have kept : other.own tx = none := Cell.own_eq_none.mpr fun _ _ same => by
      rw [hheld] at same
      cases same
      exact foreign
    rw [Cell.rollback_of_none kept] at unowned
    exact Cell.own_eq_none.mp unowned owner' held hheld rfl
  · obtain ⟨-, hrow, -⟩ := Cell.rollback_pending hrow
    obtain ⟨-, hrow', -⟩ := Cell.rollback_pending hrow'
    exact apart.pending owner row owner' row' hrow hrow'

end Heap

end TenantOS.Relational
