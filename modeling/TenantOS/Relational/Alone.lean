import TenantOS.Relational.Transactions
import TenantOS.Relational.Rejection

/-! One client alone on a quiet database. Its statements are functions of the rows they
see, and a transaction is all of its statements or none. -/
namespace TenantOS.Relational

open TenantOS.Interleaving

/-! Statements, over the rows of one table. -/

section

variable {Row Target : Type} (clash : Row → Row → Option Target)

/-- Row by row: the ones before are as the statement left them. -/
def rewriteRows (whereClause : Row → Bool) (data : Row → Row) :
    List Row → List Row → Nat → Except Target (Nat × List Row)
  | before, [], count => .ok (count, before)
  | before, row :: rest, count =>
      if whereClause row then
        match (before ++ rest).findSome? (clash (data row)) with
        | some target => .error target
        | none => rewriteRows whereClause data (before ++ [data row]) rest (count + 1)
      else rewriteRows whereClause data (before ++ [row]) rest count

def createRow (row : Row) (rows : List Row) : Except Target (List Row) :=
  match rows.findSome? (clash row) with
  | some target => .error target
  | none => .ok (rows ++ [row])

variable {clash} {whereClause : Row → Bool} {data : Row → Row} {before rows : List Row} {count : Nat}

/-- An update that leaves every unique column alone is never refused. -/
theorem rewriteRows_blind {clash : Row → Row → Option (List String)}
    (symm : ∀ row other, clash row other = none → clash other row = none)
    (blind : ∀ row other, clash (data row) other = clash row other)
    (distinct : Distinct clash (before ++ rows)) :
    rewriteRows clash whereClause data before rows count =
      .ok (count + rows.countP whereClause, before ++ updateMany whereClause data rows) := by
  induction rows generalizing before count with
  | nil => simp [rewriteRows, updateMany]
  | cons row rest ih =>
    obtain ⟨front, ⟨apart, back⟩, across⟩ : Distinct clash before ∧
        ((∀ other ∈ rest, clash row other = none) ∧ Distinct clash rest) ∧
        ∀ other ∈ before, ∀ next ∈ row :: rest, clash other next = none := by
      simpa only [Distinct, List.pairwise_append, List.pairwise_cons] using distinct
    have blind' {other : Row} (h : clash other row = none) : clash other (data row) = none :=
      symm _ _ ((blind row other).trans (symm _ _ h))
    have passes (row' : Row) (earlier : ∀ other ∈ before, clash other row' = none)
        (later : ∀ other ∈ rest, clash row' other = none) : Distinct clash (before ++ [row'] ++ rest) := by
      rw [List.append_assoc, List.singleton_append, Distinct, List.pairwise_append,
        List.pairwise_cons]
      refine ⟨front, ⟨later, back⟩, fun other present next later' => ?_⟩
      rcases List.mem_cons.mp later' with rfl | there
      · exact earlier other present
      · exact across other present next (List.mem_cons_of_mem _ there)
    have earlier : ∀ other ∈ before, clash other row = none :=
      fun other present => across other present row List.mem_cons_self
    by_cases matched : whereClause row
    · have free : (before ++ rest).findSome? (clash (data row)) = none := by
        refine List.findSome?_eq_none_iff.mpr fun other present => ?_
        rw [blind]
        rcases List.mem_append.mp present with front | back
        · exact symm _ _ (earlier other front)
        · exact apart other back
      have further := @ih _ (count + 1) (passes (data row) (fun other present => blind' (earlier other present))
        fun other present => (blind row other).trans (apart other present))
      simp only [rewriteRows, matched, if_true, free, further, updateMany, List.map_cons,
        List.countP_cons_of_pos matched]
      simp [Nat.add_assoc, Nat.add_comm 1]
    · have further := @ih _ count (passes row earlier apart)
      simp only [rewriteRows, matched, further, updateMany, List.map_cons,
        List.countP_cons_of_neg matched]
      simp

theorem rewriteRows_unmatched (unmatched : ∀ row ∈ rows, whereClause row = false) :
    rewriteRows clash whereClause data before rows count = .ok (count, before ++ rows) := by
  induction rows generalizing before with
  | nil => simp [rewriteRows]
  | cons row rest ih =>
    have skipped := unmatched row List.mem_cons_self
    rw [rewriteRows, skipped, if_neg Bool.false_ne_true,
      ih fun other present => unmatched other (List.mem_cons_of_mem _ present)]
    simp

/-- An update of one row. -/
theorem rewriteRows_one {pre post : List Row} {row : Row} (matched : whereClause row)
    (earlier : ∀ other ∈ pre, whereClause other = false)
    (later : ∀ other ∈ post, whereClause other = false) :
    rewriteRows clash whereClause data before (pre ++ row :: post) count =
      match (before ++ pre ++ post).findSome? (clash (data row)) with
      | some target => .error target
      | none => .ok (count + 1, before ++ pre ++ data row :: post) := by
  induction pre generalizing before with
  | nil =>
    rw [List.nil_append, rewriteRows, if_pos matched, List.append_nil]
    cases (before ++ post).findSome? (clash (data row)) with
    | some target => rfl
    | none =>
      simp only
      rw [rewriteRows_unmatched later]
      simp
  | cons other pre ih =>
    have skipped := earlier other List.mem_cons_self
    rw [List.cons_append, rewriteRows, skipped, if_neg Bool.false_ne_true,
      ih fun next present => earlier next (List.mem_cons_of_mem _ present)]
    simp

end

/-! A statement that names one row by its key. -/

section

variable {Row Key : Type} {key : Row → Key} {value : Key} {whereClause : Row → Bool}
  {data : Row → Row} {rows pre post : List Row} {row : Row}

theorem split_of_find (unique : UniqueKey key rows) (named : ∀ row, whereClause row → key row = value)
    (found : rows.find? whereClause = some row) : ∃ pre post, rows = pre ++ row :: post ∧
      whereClause row ∧ key row = value ∧ ∀ other ∈ pre ++ post, key other ≠ value := by
  obtain ⟨matched, pre, post, rfl, -⟩ := List.find?_eq_some_iff_append.mp found
  refine ⟨pre, post, rfl, matched, named row matched, fun other present same => ?_⟩
  rw [UniqueKey, List.map_append, List.map_cons, List.nodup_middle, List.nodup_cons,
    ← List.map_append] at unique
  exact unique.1 (List.mem_map.mpr ⟨other, present, same.trans (named row matched).symm⟩)

theorem updateMany_one (matched : whereClause row)
    (others : ∀ other ∈ pre ++ post, whereClause other = false) :
    updateMany whereClause data (pre ++ row :: post) = pre ++ data row :: post := by
  have unmoved (part : List Row) (within : ∀ other ∈ part, other ∈ pre ++ post) :
      updateMany whereClause data part = part := by
    refine (List.map_congr_left fun other present => ?_).trans (List.map_id _)
    simp [others other (within other present)]
  rw [updateMany, List.map_append, List.map_cons, if_pos matched]
  exact congrArg₂ _ (unmoved pre fun _ => List.mem_append_left _)
    (congrArg _ (unmoved post fun _ => List.mem_append_right _))

theorem filter_key [DecidableEq Key] (named : key row = value)
    (others : ∀ other ∈ pre ++ post, key other ≠ value) :
    (pre ++ row :: post).filter (fun other => key other = value) = [row] := by
  have none : (pre ++ post).filter (fun other => key other = value) = [] :=
    List.filter_eq_nil_iff.mpr fun other present => by simpa using others other present
  rw [List.filter_append] at none ⊢
  obtain ⟨front, back⟩ := List.append_eq_nil_iff.mp none
  simp [front, back, named]

theorem filter_others [DecidableEq Key] (named : key row = value)
    (others : ∀ other ∈ pre ++ post, key other ≠ value) :
    (pre ++ row :: post).filter (fun other => key other ≠ key row) = pre ++ post := by
  have kept : (pre ++ post).filter (fun other => key other ≠ key row) = pre ++ post :=
    List.filter_eq_self.mpr fun other present => by simpa [named] using others other present
  rw [List.filter_append] at kept ⊢
  simpa using kept

end

/-! The rows a transaction sees. -/

namespace Heap

variable {Row Target : Type} {clash : Row → Row → Option Target} {tx i : Nat}
  {heap heap' : Heap Row} {row : Row} {cell : Cell Row}

def seen (tx : Nat) (heap : Heap Row) : List Row :=
  heap.filterMap (Cell.visible tx)

/-- Nobody else has a row locked. -/
def Free (tx : Nat) (heap : Heap Row) : Prop :=
  ∀ cell ∈ heap, cell.lockedAgainst tx = false

@[simp] theorem seen_append : seen tx (heap ++ heap') = seen tx heap ++ seen tx heap' :=
  List.filterMap_append

@[simp] theorem seen_nil : seen tx ([] : Heap Row) = [] := rfl

theorem seen_cons : seen tx (cell :: heap) = (cell.visible tx).toList ++ seen tx heap := by
  cases visible : cell.visible tx <;> simp [seen, visible]

/-- Then an index answers from the rows that are seen. -/
theorem verdict_of_free (free : heap.Free tx) : verdict clash tx i row heap =
    match (seen tx (heap.eraseIdx i)).findSome? (clash row) with
    | some target => .violates target
    | none => .free := by
  have unlocked : ((heap.eraseIdx i).any fun cell =>
      cell.lockedAgainst tx && cell.versions.any fun other => (clash row other).isSome) = false := by
    rw [List.any_eq_false]
    intro cell present
    simp [free cell (List.mem_of_mem_eraseIdx present)]
  have answers : (seen tx (heap.eraseIdx i)).findSome? (clash row) =
      (heap.eraseIdx i).findSome? fun cell => (cell.visible tx).bind (clash row) := by
    rw [seen, ← List.head?_filterMap, List.filterMap_filterMap, List.head?_filterMap]
  rw [answers, verdict, unlocked]
  rfl

/-- The places an update visits, counted from `n`. -/
def places (tx : Nat) (whereClause : Row → Bool) : Nat → Heap Row → List Nat
  | _, [] => []
  | n, cell :: heap =>
      if (cell.visible tx).any whereClause then n :: places tx whereClause (n + 1) heap
      else places tx whereClause (n + 1) heap

theorem filter_range' (whereClause : Row → Bool) (pre post : Heap Row) :
    (List.range' pre.length post.length).filter (fun i =>
      ((pre ++ post)[i]?.bind (Cell.visible tx)).any whereClause) =
      places tx whereClause pre.length post := by
  induction post generalizing pre with
  | nil => rfl
  | cons cell post ih =>
    have rest := ih (pre ++ [cell])
    rw [List.length_append, List.length_singleton, List.append_assoc] at rest
    rw [List.length_cons, List.range'_succ, List.filter_cons, places, ← rest]
    simp

theorem targets_eq_places {whereClause : Row → Bool} :
    heap.targets tx whereClause = places tx whereClause 0 heap := by
  rw [targets, List.range_eq_range']
  exact filter_range' whereClause [] heap

end Heap

abbrev Contents (S : Schema) := (table : S.Table) → List (S.Row table)

namespace Database

def tables (db : Database S) : Contents S :=
  fun table => (db.heap table).rows

def seen (tx : Nat) (db : Database S) : Contents S :=
  fun table => (db.heap table).seen tx

/-- Nobody else has anything locked. -/
def Free (tx : Nat) (db : Database S) : Prop :=
  ∀ table, (db.heap table).Free tx

variable {S : Schema} {db : Database S} {tx : Nat} {table : S.Table} {heap : Heap (S.Row table)}

theorem seen_apply : db.seen tx table = (db.heap table).seen tx := rfl

theorem Free.set (free : db.Free tx) (settled : heap.Free tx) : (db.set table heap).Free tx := by
  intro other
  by_cases same : other = table
  · subst same
    rwa [set_heap]
  · rw [set_heap_of_ne same]
    exact free other

theorem seen_set : (db.set table heap).seen tx = Function.update (db.seen tx) table (heap.seen tx) := by
  funext other
  by_cases same : other = table
  · subst same
    simp [seen]
  · rw [Function.update_of_ne same, seen, set_heap_of_ne same]
    rfl

theorem tables_set (same : heap.rows = (db.heap table).rows) :
    (db.set table heap).tables = db.tables := by
  funext other
  by_cases here : other = table
  · subst here
    rw [tables, set_heap, same]
    rfl
  · rw [tables, set_heap_of_ne here]
    rfl

/-! How a transaction ends. -/

theorem seen_of_quiet (quiet : db.Quiet) : db.seen tx = db.tables := by
  funext table
  refine List.filterMap_congr fun cell present => ?_
  simp [Cell.visible, Cell.own, quiet table cell present]

theorem free_of_quiet (quiet : db.Quiet) : db.Free tx := by
  intro table cell present
  simp [Cell.lockedAgainst, quiet table cell present]

theorem tables_commit : (db.commit tx).tables = db.seen tx := by
  funext table
  change ((db.heap table).map (Cell.commit tx)).filterMap Cell.committed = _
  rw [List.filterMap_map]
  refine List.filterMap_congr fun cell _ => ?_
  cases mine : cell.own tx with
  | none => simp [Cell.visible, mine, Cell.commit_of_none mine]
  | some row => simp [Cell.visible, mine, Cell.commit_of_own mine]

theorem tables_rollback : (db.rollback tx).tables = db.tables := by
  funext table
  change ((db.heap table).map (Cell.rollback tx)).filterMap Cell.committed = _
  rw [List.filterMap_map]
  exact List.filterMap_congr fun cell _ => Cell.rollback_committed

theorem pending_of_free {Row : Type} {cell : Cell Row} (unlocked : cell.lockedAgainst tx = false)
    (unowned : cell.own tx = none) : cell.pending = none := by
  rw [Option.eq_none_iff_forall_ne_some]
  rintro ⟨owner, row⟩ held
  exact Cell.own_eq_none.mp unowned owner row held
    (Cell.lockedAgainst_eq_false.mp unlocked owner row held)

theorem Free.commit (free : db.Free tx) : (db.commit tx).Quiet := by
  intro table cell present
  obtain ⟨before, old, rfl⟩ := List.mem_map.mp present
  cases mine : before.own tx with
  | none =>
    rw [Cell.commit_of_none mine]
    exact pending_of_free (free table before old) mine
  | some row => rw [Cell.commit_of_own mine]

theorem Free.rollback (free : db.Free tx) : (db.rollback tx).Quiet := by
  intro table cell present
  obtain ⟨before, old, rfl⟩ := List.mem_map.mp present
  cases mine : before.own tx with
  | none =>
    rw [Cell.rollback_of_none mine]
    exact pending_of_free (free table before old) mine
  | some row => rw [Cell.rollback_of_own mine]

end Database

namespace Sql

variable {S : Schema} {ε α : Type} (violation : List String → ε)

/-- Alone on the database, the client ends with `result` and leaves `db'`. -/
abbrev Settles (program : Sql S ε α) (db : Database S) (result : Except ε α) (db' : Database S) :
    Prop :=
  Program.Settles (I := sqlInterface S)
    (fun (_ : Unit) c db => (c.answer db).map fun settled => (settled.1.mapError violation, settled.2))
    () program db result db'

/-- Inside a transaction, nothing committed moves and nobody else is locked out. -/
structure Within (tx : Nat) (db db' : Database S) : Prop where
  free : db'.Free tx
  tables : db'.tables = db.tables

variable {violation} {db db' : Database S} {tx : Nat} {table : S.Table}

theorem Within.trans {mid : Database S} (h : Within tx db mid) (h' : Within tx mid db') :
    Within tx db db' :=
  ⟨h'.free, h'.tables.trans h.tables⟩

theorem settles_statement {c : SqlCall S} {result : Except (List String) c.Reply}
    (h : c.answer db = some (result, db')) :
    Settles violation (statement c) db (result.mapError violation) db' :=
  Program.settles_perform (by rw [h]; rfl)

theorem answer_update {pre post : Heap (S.Row table)} {cell : Cell (S.Row table)}
    {row : S.Row table} {whereClause : S.Row table → Bool} {data : S.Row table → S.Row table}
    (free : db.Free tx) (split : db.heap table = pre ++ cell :: post)
    (visible : cell.visible tx = some row) (matched : whereClause row) :
    (SqlCall.update tx table pre.length whereClause data).answer db =
      match (Heap.seen tx pre ++ Heap.seen tx post).findSome? (S.clash table (data row)) with
      | some target => some (.error target, db)
      | none => some (.ok true, db.set table (pre ++ cell.write tx (data row) :: post)) := by
  have found : (db.heap table)[pre.length]? = some cell := by simp [split]
  have unlocked : cell.lockedAgainst tx = false :=
    free table cell (List.mem_of_getElem? found)
  have others : (db.heap table).eraseIdx pre.length = pre ++ post := by
    rw [split, List.eraseIdx_append_of_length_le (Nat.le_refl _)]
    simp
  have written : (db.heap table).set pre.length (cell.write tx (data row)) =
      pre ++ cell.write tx (data row) :: post := by simp [split]
  have verdict : Heap.verdict (S.clash table) tx pre.length (data row) (db.heap table) = _ :=
    Heap.verdict_of_free (free table)
  rw [others, Heap.seen_append] at verdict
  have selected : (cell.visible tx).filter whereClause = some row := by simp [visible, matched]
  simp only [SqlCall.answer, Heap.update, found, unlocked, selected, verdict, Bool.false_eq_true, if_false]
  cases (Heap.seen tx pre ++ Heap.seen tx post).findSome? (S.clash table (data row)) with
  | some target =>
    simp only [Option.map_some, set_self]
    rfl
  | none =>
    simp only [Option.map_some, written]
    rfl

theorem within_write {pre post : Heap (S.Row table)} {cell : Cell (S.Row table)}
    {row : S.Row table} (free : db.Free tx) (split : db.heap table = pre ++ cell :: post) :
    Within tx db (db.set table (pre ++ cell.write tx row :: post)) := by
  refine ⟨free.set fun other present => ?_, Database.tables_set ?_⟩
  · rcases List.mem_append.mp present with before | after
    · exact free table other (by simp [split, before])
    · rcases List.mem_cons.mp after with rfl | after
      · simp [Cell.write, Cell.lockedAgainst]
      · exact free table other (by simp [split, after])
  · rw [split]
    simp [Heap.rows, List.filterMap_cons, Cell.write]

/-- Only the rows of one table move. -/
def Rewrites (tx : Nat) (table : S.Table) (db db' : Database S) : Prop :=
  ∃ rows, db'.seen tx = Function.update (db.seen tx) table rows

theorem Rewrites.eq_update (h : Rewrites tx table db db') :
    db'.seen tx = Function.update (db.seen tx) table (db'.seen tx table) := by
  obtain ⟨rows, same⟩ := h
  rw [same, Function.update_self]

theorem settles_updateRows {whereClause : S.Row table → Bool} {data : S.Row table → S.Row table}
    {pre post : Heap (S.Row table)} {count : Nat} (free : db.Free tx)
    (split : db.heap table = pre ++ post) :
    ∃ (result : Except (List String) Nat) (db' : Database S),
      Settles violation (updateRows tx table whereClause data count
        (Heap.places tx whereClause pre.length post)) db (result.mapError violation) db' ∧
      Within tx db db' ∧ Rewrites tx table db db' ∧
      rewriteRows (S.clash table) whereClause data (Heap.seen tx pre) (Heap.seen tx post) count =
        result.map fun total => (total, db'.seen tx table) := by
  induction post generalizing pre db count with
  | nil =>
    rw [List.append_nil] at split
    refine ⟨.ok count, db, rfl, ⟨free, rfl⟩, ⟨_, (Function.update_eq_self table _).symm⟩, ?_⟩
    rw [← split]
    rfl
  | cons cell post ih =>
    have passed : db.heap table = (pre ++ [cell]) ++ post := by simp [split]
    have further := @ih db (pre ++ [cell]) count free passed
    rw [Heap.seen_append, List.length_append, List.length_singleton] at further
    cases visible : cell.visible tx with
    | none =>
      have unseen : Heap.seen tx [cell] = [] := by simp [Heap.seen, visible]
      rw [unseen, List.append_nil] at further
      simpa [Heap.seen_cons, Heap.places, visible] using further
    | some row =>
      have here : Heap.seen tx [cell] = [row] := by simp [Heap.seen, visible]
      rw [here] at further
      by_cases matched : whereClause row
      · have answered : (SqlCall.update tx table pre.length whereClause data).answer db = _ :=
          answer_update free split visible matched
        simp only [Heap.seen_cons, visible, Option.toList_some, List.singleton_append, Heap.places,
          Option.any_some, matched, if_true, rewriteRows]
        cases clashes : (Heap.seen tx pre ++ Heap.seen tx post).findSome? (S.clash table (data row)) with
        | some target =>
          rw [clashes] at answered
          exact ⟨.error target, db, (settles_statement answered).bind_error, ⟨free, rfl⟩,
            ⟨_, (Function.update_eq_self table _).symm⟩, rfl⟩
        | none =>
          rw [clashes] at answered
          have within : Within tx db (db.set table (pre ++ cell.write tx (data row) :: post)) :=
            within_write free split
          obtain ⟨result, db', settles, kept, ⟨rows, seen⟩, rewritten⟩ :=
            @ih _ (pre ++ [cell.write tx (data row)]) (count + 1) within.free (by simp)
          have drafted : Heap.seen tx [cell.write tx (data row)] = [data row] := by
            simp [Heap.seen, Cell.visible]
          rw [Heap.seen_append, drafted] at rewritten
          rw [List.length_append, List.length_singleton] at settles
          refine ⟨result, db', (settles_statement answered).bind settles, within.trans kept,
            ⟨rows, ?_⟩, rewritten⟩
          rw [seen, Database.seen_set, Function.update_idem]
      · simpa [Heap.seen_cons, Heap.places, visible, matched, rewriteRows] using further

/-! A statement inside a transaction, and a transaction as a whole. -/

/-- A failure leaves nothing to go on with. -/
abbrev Joined (S : Schema) (ε α : Type) := StateT (Contents S) (Except ε) α

/-- A failure leaves what was committed before it. -/
abbrev Committed (S : Schema) (ε α : Type) := ExceptT ε (StateM (Contents S)) α

def atomically (step : Joined S ε α) : Committed S ε α := fun contents =>
  match step contents with
  | .ok (value, contents') => (.ok value, contents')
  | .error failure => (.error failure, contents)

/-- In an open transaction the client does what `step` says to the rows it sees. -/
def Performs (violation : List String → ε) (tx : Nat) (program : Sql S ε α)
    (step : Joined S ε α) : Prop :=
  ∀ db : Database S, db.Free tx → ∃ (result : Except ε α) (db' : Database S),
    Settles violation program db result db' ∧ Within tx db db' ∧
      step (db.seen tx) = result.map fun value => (value, db'.seen tx)

/-- Outside a transaction it does what `step` says to the committed rows, and leaves
nothing locked. -/
def Commits (violation : List String → ε) (program : Sql S ε α) (step : Committed S ε α) : Prop :=
  ∀ db : Database S, db.Quiet → ∃ db',
    Settles violation program db (step db.tables).1 db' ∧ db'.Quiet ∧ db'.tables = (step db.tables).2

/-! The statements. -/

def rowsWhere (table : S.Table) (whereClause : S.Row table → Bool) :
    Joined S ε (List (S.Row table)) := fun contents =>
  .ok ((contents table).filter whereClause, contents)

def rewritten (violation : List String → ε) (table : S.Table) (whereClause : S.Row table → Bool)
    (data : S.Row table → S.Row table) : Joined S ε Nat := fun contents =>
  match rewriteRows (S.clash table) whereClause data [] (contents table) 0 with
  | .ok (count, rows) => .ok (count, Function.update contents table rows)
  | .error target => .error (violation target)

def created (violation : List String → ε) (table : S.Table) (row : S.Row table) :
    Joined S ε Unit := fun contents =>
  match createRow (S.clash table) row (contents table) with
  | .ok rows => .ok ((), Function.update contents table rows)
  | .error target => .error (violation target)

section

variable {whereClause : S.Row table → Bool} {data : S.Row table → S.Row table} {contents : Contents S}

theorem rewritten_of_ok {count : Nat} {rows : List (S.Row table)}
    (h : rewriteRows (S.clash table) whereClause data [] (contents table) 0 = .ok (count, rows)) :
    rewritten violation table whereClause data contents =
      .ok (count, Function.update contents table rows) := by
  rw [rewritten, h]

theorem rewritten_of_error {target : List String}
    (h : rewriteRows (S.clash table) whereClause data [] (contents table) 0 = .error target) :
    rewritten violation table whereClause data contents = .error (violation target) := by
  rw [rewritten, h]

end

theorem performs_findMany {whereClause : S.Row table → Bool} :
    Performs violation tx (findMany (some tx) table whereClause) (rowsWhere table whereClause) :=
  fun db free => ⟨.ok _, db,
    settles_statement (c := .select (some tx) table whereClause) rfl, ⟨free, rfl⟩, rfl⟩

theorem performs_updateMany {whereClause : S.Row table → Bool} {data : S.Row table → S.Row table} :
    Performs violation tx (updateMany tx table whereClause data)
      (rewritten violation table whereClause data) := by
  intro db free
  have chosen : (SqlCall.targets tx table whereClause).answer db =
      some (.ok (Heap.places tx whereClause 0 (db.heap table)), db) := by
    rw [← Heap.targets_eq_places]
    rfl
  obtain ⟨result, db', settles, within, rewrites, same⟩ :=
    @settles_updateRows S ε violation db tx table whereClause data [] (db.heap table) 0 free rfl
  refine ⟨_, db', (settles_statement chosen).bind settles, within, ?_⟩
  change rewriteRows _ whereClause data [] (db.seen tx table) 0 = _ at same
  rw [rewritten, same]
  cases result with
  | ok total =>
    change Except.ok (total, Function.update (db.seen tx) table (db'.seen tx table)) = _
    rw [← rewrites.eq_update]
    rfl
  | error target => rfl

theorem within_insert {row : S.Row table} (free : db.Free tx) :
    Within tx db (db.set table (db.heap table ++ [⟨none, some (tx, row)⟩])) := by
  refine ⟨free.set fun other present => ?_, Database.tables_set (by simp [Heap.rows])⟩
  rcases List.mem_append.mp present with old | new
  · exact free table other old
  · rw [List.mem_singleton.mp new]
    simp [Cell.lockedAgainst]

section

variable {row : S.Row table} {contents : Contents S}

theorem created_of_clash {target : List String}
    (clashes : (contents table).findSome? (S.clash table row) = some target) :
    created violation table row contents = .error (violation target) := by
  simp only [created, createRow, clashes]

theorem created_of_free (clashes : (contents table).findSome? (S.clash table row) = none) :
    created violation table row contents =
      .ok ((), Function.update contents table (contents table ++ [row])) := by
  simp only [created, createRow, clashes]

end

theorem performs_create {row : S.Row table} :
    Performs violation tx (create tx table row) (created violation table row) := by
  intro db free
  have verdict : Heap.verdict (S.clash table) tx (db.heap table).length row (db.heap table) = _ :=
    Heap.verdict_of_free (free table)
  rw [List.eraseIdx_of_length_le (Nat.le_refl _), ← Database.seen_apply] at verdict
  cases clashes : (db.seen tx table).findSome? (S.clash table row) with
  | some target =>
    rw [clashes] at verdict
    have answered : (SqlCall.insert tx table row).answer db = some (.error target, db) := by
      simp only [SqlCall.answer, Heap.insert, verdict, Option.map_some, set_self]
      rfl
    exact ⟨_, db, settles_statement answered, ⟨free, rfl⟩, created_of_clash clashes⟩
  | none =>
    rw [clashes] at verdict
    have answered : (SqlCall.insert tx table row).answer db =
        some (.ok (), db.set table (db.heap table ++ [⟨none, some (tx, row)⟩])) := by
      simp only [SqlCall.answer, Heap.insert, verdict, Option.map_some]
      rfl
    have drafted : Heap.seen tx [(⟨none, some (tx, row)⟩ : Cell (S.Row table))] = [row] := by
      simp [Heap.seen, Cell.visible, Cell.own]
    refine ⟨_, _, settles_statement answered, within_insert free, ?_⟩
    rw [created_of_free clashes, Database.seen_set, Heap.seen_append, drafted]
    rfl

/-! How they compose. -/

section

variable {β : Type} {program : Sql S ε α} {step : Joined S ε α}

theorem performs_pure (value : α) :
    Performs violation tx (pure value : Sql S ε α) (pure value) :=
  fun db free => ⟨.ok value, db, rfl, ⟨free, rfl⟩, rfl⟩

theorem performs_throw (failure : ε) :
    Performs violation tx (throw failure : Sql S ε α) (throw failure) :=
  fun db free => ⟨.error failure, db, rfl, ⟨free, rfl⟩, rfl⟩

theorem joined_bind {next : α → Joined S ε β} {contents : Contents S} :
    (step >>= next) contents = step contents >>= fun settled => next settled.1 settled.2 := rfl

theorem Performs.bind {next : α → Sql S ε β} {next' : α → Joined S ε β}
    (h : Performs violation tx program step)
    (rest : ∀ value, Performs violation tx (next value) (next' value)) :
    Performs violation tx (program >>= next) (step >>= next') := by
  intro db free
  obtain ⟨result, mid, settles, within, same⟩ := h db free
  cases result with
  | error failure =>
    refine ⟨.error failure, mid, settles.bind_error, within, ?_⟩
    rw [joined_bind, same]
    rfl
  | ok value =>
    obtain ⟨result', db', settles', within', same'⟩ := rest value mid within.free
    refine ⟨result', db', settles.bind settles', within.trans within', ?_⟩
    rw [joined_bind, same]
    exact same'

/-- `catch (error) { throw translate(error) }` -/
def rethrowing (translate : ε → ε) (program : Sql S ε α) : Sql S ε α :=
  tryCatch program fun failure => throw (translate failure)

theorem Performs.rethrowing (translate : ε → ε) (h : Performs violation tx program step) :
    Performs violation tx (Sql.rethrowing translate program)
      fun contents => (step contents).mapError translate := by
  intro db free
  obtain ⟨result, db', settles, within, same⟩ := h db free
  cases result with
  | error failure =>
    exact ⟨.error (translate failure), db', settles.recover_error rfl, within,
      congrArg (Except.mapError translate) same⟩
  | ok value =>
    exact ⟨.ok value, db', settles.recover, within, congrArg (Except.mapError translate) same⟩

theorem commits_pure (value : α) :
    Commits violation (pure value : Sql S ε α) (pure value) :=
  fun db quiet => ⟨db, rfl, quiet, rfl⟩

theorem committed_bind {step : Committed S ε α} {next : α → Committed S ε β}
    {contents : Contents S} : (step >>= next) contents =
      match step contents with
      | (.ok value, contents') => next value contents'
      | (.error failure, contents') => (.error failure, contents') := by
  change (match step contents with
    | (result, contents') => ExceptT.bindCont next result contents') = _
  cases step contents with
  | mk result contents' => cases result <;> rfl

theorem Commits.bind {step : Committed S ε α} {next : α → Sql S ε β} {next' : α → Committed S ε β}
    (h : Commits violation program step)
    (rest : ∀ value, Commits violation (next value) (next' value)) :
    Commits violation (program >>= next) (step >>= next') := by
  intro db quiet
  obtain ⟨mid, settles, quiet', same⟩ := h db quiet
  rw [committed_bind]
  cases settled : step db.tables with
  | mk result contents =>
    rw [settled] at settles same
    cases result with
    | error failure => exact ⟨mid, settles.bind_error, quiet', same⟩
    | ok value =>
      obtain ⟨db', settles', quiet'', same'⟩ := rest value mid quiet'
      rw [same] at settles' same'
      exact ⟨db', settles.bind settles', quiet'', same'⟩

theorem Commits.rethrowing {step : Committed S ε α} (translate : ε → ε)
    (h : Commits violation program step) : Commits violation (Sql.rethrowing translate program)
      fun contents => ((step contents).1.mapError translate, (step contents).2) := by
  intro db quiet
  obtain ⟨db', settles, quiet', same⟩ := h db quiet
  refine ⟨db', ?_, quiet', same⟩
  change Settles violation _ db ((step db.tables).1.mapError translate) db'
  cases settled : (step db.tables).1 with
  | error failure =>
    rw [settled] at settles
    exact settles.recover_error rfl
  | ok value =>
    rw [settled] at settles
    exact settles.recover

theorem commits_findMany {whereClause : S.Row table → Bool} :
    Commits violation (findMany none table whereClause)
      (atomically (rowsWhere table whereClause)) :=
  fun db quiet => ⟨db, settles_statement (c := .select none table whereClause) rfl, quiet, rfl⟩

theorem commits_runInTransaction {fn : Nat → Sql S ε α}
    (h : ∀ tx, Performs violation tx (fn tx) step) :
    Commits violation (runInTransaction fn) (atomically step) := by
  intro db quiet
  have begins : SqlCall.begin.answer db = some (.ok db.begun, { db with begun := db.begun + 1 }) := rfl
  obtain ⟨result, db', settles, within, same⟩ :=
    h db.begun { db with begun := db.begun + 1 } (Database.free_of_quiet quiet)
  have sees : ({ db with begun := db.begun + 1 } : Database S).seen db.begun = db.tables :=
    Database.seen_of_quiet quiet
  rw [sees] at same
  cases result with
  | ok value =>
    have step : atomically step db.tables = (.ok value, db'.seen db.begun) := by
      rw [atomically, same]
      rfl
    have commits : Settles violation (statement (.commit db.begun) >>= fun _ => pure value) db'
        (.ok value) (db'.commit db.begun) :=
      (settles_statement (c := .commit db.begun) rfl).bind rfl
    rw [step]
    exact ⟨db'.commit db.begun, (settles_statement begins).bind (settles.bind commits).recover,
      within.free.commit, Database.tables_commit⟩
  | error failure =>
    have step : atomically step db.tables = (.error failure, db.tables) := by
      rw [atomically, same]
      rfl
    have rolls : Settles violation (do
        let _ ← tryCatch (statement (.rollback db.begun)) fun _ => pure ()
        throw failure : Sql S ε α) db' (.error failure) (db'.rollback db.begun) :=
      ((settles_statement (c := .rollback db.begun) rfl).recover).bind rfl
    rw [step]
    exact ⟨db'.rollback db.begun,
      (settles_statement begins).bind (settles.bind_error.recover_error rolls),
      within.free.rollback, Database.tables_rollback.trans within.tables⟩

end

end Sql

end TenantOS.Relational
