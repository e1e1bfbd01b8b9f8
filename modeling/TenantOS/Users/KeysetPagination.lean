import TenantOS.Infrastructure.AuthTables
import TenantOS.Pagination.Keyset
import TenantOS.Shared.Pagination
import Mathlib.Data.Prod.Lex
import Mathlib.Data.String.Basic

/-! `findManyByCursor` over the `users` table, whose `created_at` is finer than the
date the application is handed. -/
namespace TenantOS.Users

open TenantOS.Domain TenantOS.Infrastructure TenantOS.Shared TenantOS.Keyset

/-- A row as the database holds it, with the columns the application is handed. -/
structure StoredUser where
  columns : UserRow
  /-- `TIMESTAMPTZ(6)`: microseconds since the epoch. -/
  createdAt : Int
  truncated : columns.createdAt = createdAt / 1000
  representable : IsoDate.Representable columns.createdAt
  uuid : isUuidText columns.id.toList

/-- The `users` table, with its primary key. -/
structure UsersTable where
  rows : List StoredUser
  distinct : rows.Pairwise fun u v => u.columns.id ≠ v.columns.id

structure UserFilters where
  status : Option UserStatus
  isPlatformAdmin : Option Bool
  search : Option String
  includeDeleted : Bool

/-! The query. `ilike column term` is the database's case-insensitive match. -/

def toWhere (ilike : String → String → Bool) (filters : UserFilters) (search : Option String)
    (row : UserRow) : Bool :=
  (filters.includeDeleted || row.deletedAt.isNone) &&
  filters.status.all (fun status => row.status = status.name) &&
  filters.isPlatformAdmin.all (fun flag => row.isPlatformAdmin = flag) &&
  match (search.or filters.search).map jsTrim with
  | none | some "" => true
  | some term =>
      ilike row.email term || row.firstName.any (ilike · term) || row.lastName.any (ilike · term)

/-- The parameter the database receives for a date. -/
def microseconds (date : Date) : Int :=
  date * 1000

/-- Everything strictly after the cursor, in the composite order. -/
def beyond (direction : SortDirection) (cursor : Cursor) (u : StoredUser) : Bool :=
  match direction with
  | .desc => u.createdAt < microseconds cursor.createdAt ||
      (u.createdAt = microseconds cursor.createdAt && u.columns.id < cursor.id)
  | .asc => microseconds cursor.createdAt < u.createdAt ||
      (u.createdAt = microseconds cursor.createdAt && cursor.id < u.columns.id)

def toKeysetCondition (platform : Platform) (cursor : Option String) (direction : SortDirection) :
    Except Failure (Option (StoredUser → Bool)) :=
  match cursor with
  | none | some "" => .ok none
  | some cursor =>
      match Cursor.decode platform cursor with
      | none => .error (.domain invalidCursorError)
      | some decoded => .ok (some (beyond direction decoded))

abbrev SortKey := Int ×ₗ String

def StoredUser.sortKey (u : StoredUser) : SortKey :=
  toLex (u.createdAt, u.columns.id)

/-- `orderBy: [{ createdAt: direction }, { id: direction }]` -/
def orderBy (direction : SortDirection) (rows : List StoredUser) : List StoredUser :=
  rows.mergeSort fun u v =>
    match direction with
    | .asc => u.sortKey ≤ v.sortKey
    | .desc => v.sortKey ≤ u.sortKey

def toPage (limit : Nat) (rows : List StoredUser) : Except Failure (CursorPage User) := do
  let hasMore := decide (limit < rows.length)
  let page := if hasMore then rows.take limit else rows
  let items ← page.mapM fun u => toUserEntity u.columns
  pure
    { items := items
      nextCursor := if hasMore then
          page.getLast?.map fun last => Cursor.encode last.columns.createdAt last.columns.id
        else none
      limit := limit }

def findManyByCursor (platform : Platform) (ilike : String → String → Bool) (table : UsersTable)
    (request : CursorPageRequest) (filters : UserFilters) : Except Failure (CursorPage User) := do
  let keyset ← toKeysetCondition platform request.cursor request.sortDirection
  let found := table.rows.filter fun u =>
    toWhere ilike filters request.search u.columns && keyset.all (· u)
  let limit := request.limit.value
  toPage limit ((orderBy request.sortDirection found).take (limit + 1))

/-- Following `nextCursor` until it is null: the users of all pages, in turn. -/
inductive Pages (find : Option String → Except Failure (CursorPage User)) :
    Option String → List User → Prop
  | last {cursor : Option String} {page : CursorPage User} : find cursor = .ok page →
      page.nextCursor = none → Pages find cursor page.items
  | next {cursor : Option String} {page : CursorPage User} {next : String} {users : List User} :
      find cursor = .ok page → page.nextCursor = some next → Pages find (some next) users →
      Pages find cursor (page.items ++ users)

/-! The composite order. -/

def precedes (direction : SortDirection) (u v : StoredUser) : Prop :=
  match direction with
  | .asc => u.sortKey < v.sortKey
  | .desc => v.sortKey < u.sortKey

theorem precedes_asymm {direction : SortDirection} {u v : StoredUser}
    (h : precedes direction u v) : ¬precedes direction v u := by
  cases direction <;> exact lt_asymm h

abbrev Distinct (rows : List StoredUser) : Prop :=
  rows.Pairwise fun u v => u.columns.id ≠ v.columns.id

theorem Distinct.nodup {rows : List StoredUser} (h : Distinct rows) : rows.Nodup :=
  h.imp fun differ same => differ (congrArg (·.columns.id) same)

theorem orderBy_perm (direction : SortDirection) (rows : List StoredUser) :
    (orderBy direction rows).Perm rows :=
  List.mergeSort_perm rows _

theorem orderBy_pairwise (direction : SortDirection) {rows : List StoredUser}
    (distinct : Distinct rows) : (orderBy direction rows).Pairwise (precedes direction) := by
  have apart : rows.Pairwise fun u v => u.sortKey ≠ v.sortKey := by
    apply distinct.imp
    intro u v differ same
    exact differ (congrArg (fun key : SortKey => (ofLex key).2) same)
  cases direction with
  | asc => exact Offset.pairwise_lt_mergeSort StoredUser.sortKey apart
  | desc => exact Offset.pairwise_gt_mergeSort StoredUser.sortKey apart

theorem ordered_unique {direction : SortDirection} {a b : List StoredUser} (same : a.Perm b)
    (ha : a.Pairwise (precedes direction)) (hb : b.Pairwise (precedes direction)) : a = b :=
  List.Perm.eq_of_pairwise (fun _ _ _ _ h h' => absurd h' (precedes_asymm h)) ha hb same

/-- The database filters before it sorts; filtering afterwards finds the same. -/
theorem orderBy_filter (direction : SortDirection) {rows : List StoredUser}
    (distinct : Distinct rows) (p q : StoredUser → Bool) :
    orderBy direction (rows.filter fun u => p u && q u) =
      (orderBy direction (rows.filter p)).filter q := by
  have split : (rows.filter fun u => p u && q u) = (rows.filter p).filter q :=
    List.filter_filter.symm.trans (by simp [Bool.and_comm])
  have matching : Distinct (rows.filter p) := distinct.filter p
  refine @ordered_unique direction _ _ ?_ ?_ ?_
  · rw [split]
    exact (orderBy_perm ..).trans ((orderBy_perm ..).symm.filter q)
  · exact orderBy_pairwise direction (distinct.filter _)
  · exact (orderBy_pairwise direction matching).filter q

/-! The seek. -/

def StoredUser.cursor (u : StoredUser) : Cursor :=
  ⟨u.columns.createdAt, u.columns.id⟩

/-- The seek starts past `last` and at the first of the rows `later` after it. -/
def SeeksPast (direction : SortDirection) (last : StoredUser) (later : List StoredUser) : Prop :=
  match direction with
  | .asc => last.createdAt % 1000 = 0
  | .desc => ∀ u ∈ later, u.createdAt < microseconds last.columns.createdAt ∨
      (u.createdAt = microseconds last.columns.createdAt ∧ u.columns.id < last.columns.id)

theorem StoredUser.microseconds_le (u : StoredUser) :
    microseconds u.columns.createdAt ≤ u.createdAt ∧
      (u.createdAt = microseconds u.columns.createdAt ↔ u.createdAt % 1000 = 0) := by
  have truncated := u.truncated
  unfold microseconds
  unfold Date at *
  omega

theorem beyond_asc_iff {last u : StoredUser} : beyond .asc last.cursor u ↔
    microseconds last.columns.createdAt < u.createdAt ∨
      u.createdAt = microseconds last.columns.createdAt ∧ last.columns.id < u.columns.id := by
  simp only [beyond, Bool.or_eq_true, Bool.and_eq_true, decide_eq_true_eq]
  rfl

theorem beyond_desc_iff {last u : StoredUser} : beyond .desc last.cursor u ↔
    u.createdAt < microseconds last.columns.createdAt ∨
      u.createdAt = microseconds last.columns.createdAt ∧ u.columns.id < last.columns.id := by
  simp only [beyond, Bool.or_eq_true, Bool.and_eq_true, decide_eq_true_eq]
  rfl

theorem precedes_asc_iff {u v : StoredUser} : precedes .asc u v ↔
    u.createdAt < v.createdAt ∨ u.createdAt = v.createdAt ∧ u.columns.id < v.columns.id :=
  Prod.Lex.toLex_lt_toLex

theorem precedes_desc_iff {u v : StoredUser} : precedes .desc u v ↔
    v.createdAt < u.createdAt ∨ v.createdAt = u.createdAt ∧ v.columns.id < u.columns.id :=
  Prod.Lex.toLex_lt_toLex

theorem beyond_upward {direction : SortDirection} {rows : List StoredUser}
    (sorted : rows.Pairwise (precedes direction)) :
    Upward rows fun last u => beyond direction last.cursor u := by
  intro last
  refine sorted.imp fun {u v} before found => ?_
  cases direction with
  | asc =>
    rw [beyond_asc_iff] at found ⊢
    rcases precedes_asc_iff.mp before with earlier | ⟨same, ids⟩
    · exact .inl (by omega)
    · exact found.imp (by omega) fun h => ⟨same ▸ h.1, lt_trans h.2 ids⟩
  | desc =>
    rw [beyond_desc_iff] at found ⊢
    rcases precedes_desc_iff.mp before with later | ⟨same, ids⟩
    · exact .inl (by omega)
    · exact found.imp (by omega) fun h => ⟨same.trans h.1, lt_trans ids h.2⟩

/-- Ascending, the seek misses nothing, and reads the boundary row again unless its
timestamp is a whole millisecond. Descending, it reads nothing again, and misses
what shares the boundary row's millisecond. -/
theorem filter_beyond_iff {direction : SortDirection} {rows : List StoredUser}
    (sorted : rows.Pairwise (precedes direction)) {n : Nat} {last : StoredUser}
    (there : rows[n]? = some last) :
    rows.filter (beyond direction last.cursor) = rows.drop (n + 1) ↔
      SeeksPast direction last (rows.drop (n + 1)) := by
  have distinct : rows.Nodup := sorted.imp fun {u v} before (same : u = v) =>
    precedes_asymm before (same ▸ before)
  obtain ⟨inside, here⟩ := List.getElem?_eq_some_iff.mp there
  have split : rows = rows.take n ++ last :: rows.drop (n + 1) := by
    rw [← here, List.getElem_cons_drop, List.take_append_drop]
  have apart := List.pairwise_append.mp (split ▸ sorted)
  have after : ∀ u ∈ rows.drop (n + 1), precedes direction last u :=
    (List.pairwise_cons.mp apart.2.1).1
  have before : ∀ u ∈ rows.take (n + 1), u = last ∨ precedes direction u last := by
    intro u hu
    rw [List.take_succ_eq_append_getElem inside, here] at hu
    rcases List.mem_append.mp hu with earlier | last
    · exact .inr (apart.2.2 u earlier _ List.mem_cons_self)
    · exact .inl (List.mem_singleton.mp last)
  have mem : last ∈ rows.take (n + 1) := by
    rw [List.take_succ_eq_append_getElem inside, here]
    exact List.mem_append_right _ List.mem_cons_self
  obtain ⟨floor, whole⟩ := last.microseconds_le
  rw [filter_eq_drop_iff distinct]
  cases direction with
  | asc =>
    constructor
    · intro h
      by_contra fraction
      have differs := mt whole.mp fraction
      exact h.1 last mem (beyond_asc_iff.mpr (.inl (by omega)))
    · intro exactly
      have same := whole.mpr exactly
      have seek {u : StoredUser} : beyond .asc last.cursor u ↔ precedes .asc last u := by
        rw [beyond_asc_iff, precedes_asc_iff, ← same, eq_comm (a := u.createdAt)]
      refine ⟨fun u hu found => ?_, fun u hu => seek.mpr (after u hu)⟩
      rcases before u hu with rfl | earlier
      · exact precedes_asymm (seek.mp found) (seek.mp found)
      · exact precedes_asymm (seek.mp found) earlier
  | desc =>
    constructor
    · intro h u hu
      exact beyond_desc_iff.mp (h.2 u hu)
    · intro h
      refine ⟨fun u hu found => ?_, fun u hu => beyond_desc_iff.mpr (h u hu)⟩
      have follows : precedes .desc last u := by
        rw [precedes_desc_iff]
        rcases beyond_desc_iff.mp found with earlier | ⟨same, ids⟩
        · exact .inl (by omega)
        · by_cases exactly : u.createdAt = last.createdAt
          · exact .inr ⟨exactly, ids⟩
          · exact .inl (by omega)
      rcases before u hu with rfl | earlier
      · exact precedes_asymm follows follows
      · exact precedes_asymm follows earlier

/-! Pages and rows. -/

abbrev entities (rows : List StoredUser) : Except Failure (List User) :=
  rows.mapM fun u => toUserEntity u.columns

theorem entities_append_eq_ok {a b : List StoredUser} {users : List User} :
    entities (a ++ b) = .ok users ↔
      ∃ xs ys, entities a = .ok xs ∧ entities b = .ok ys ∧ users = xs ++ ys :=
  Offset.mapM_append_eq_ok

theorem entities_cons_eq_ok {u : StoredUser} {rows : List StoredUser} {users : List User} :
    entities (u :: rows) = .ok users ↔
      ∃ x xs, toUserEntity u.columns = .ok x ∧ entities rows = .ok xs ∧ users = x :: xs :=
  Offset.mapM_cons_eq_ok

abbrev KnownStatus (u : StoredUser) : Prop :=
  ∃ status : UserStatus, u.columns.status = status.name

theorem entities_ok_iff {rows : List StoredUser} :
    (∃ users, entities rows = .ok users) ↔ ∀ u ∈ rows, KnownStatus u := by
  induction rows with
  | nil => exact ⟨fun _ _ h => (nomatch h), fun _ => ⟨[], rfl⟩⟩
  | cons u rows ih =>
    simp only [entities_cons_eq_ok, List.forall_mem_cons, ← ih]
    constructor
    · rintro ⟨_, x, xs, entity, rest, -⟩
      obtain ⟨status, known, -⟩ := toUserEntity_eq_ok.mp entity
      exact ⟨⟨status, toUserStatus_eq_ok.mp known⟩, xs, rest⟩
    · rintro ⟨⟨status, known⟩, xs, rest⟩
      have entity := toUserEntity_eq_ok.mpr ⟨status, toUserStatus_eq_ok.mpr known, rfl⟩
      exact ⟨_, _, xs, entity, rest, rfl⟩

theorem entities_id {rows : List StoredUser} {users : List User} (h : entities rows = .ok users) :
    users.map (·.id) = rows.map (·.columns.id) := by
  induction rows generalizing users with
  | nil =>
    cases h
    rfl
  | cons u rows ih =>
    obtain ⟨x, xs, entity, rest, rfl⟩ := entities_cons_eq_ok.mp h
    obtain ⟨status, -, rfl⟩ := toUserEntity_eq_ok.mp entity
    rw [List.map_cons, List.map_cons, ih rest]
    rfl

/-- The users tell which rows they were made of. -/
theorem entities_inj {a b : List StoredUser} {users : List User} (distinct : Distinct b)
    (inside : a ⊆ b) (ha : entities a = .ok users) (hb : entities b = .ok users) : a = b := by
  have ids : a.map (·.columns.id) = b.map (·.columns.id) :=
    (entities_id ha).symm.trans (entities_id hb)
  have apart : (b.map (·.columns.id)).Nodup := List.pairwise_map.mpr distinct
  apply List.ext_getElem (by simpa using congrArg List.length ids)
  intro i hi hi'
  have same : (a.map (·.columns.id))[i]? = (b.map (·.columns.id))[i]? := by rw [ids]
  simp only [List.getElem?_map, List.getElem?_eq_getElem hi, List.getElem?_eq_getElem hi',
    Option.map_some, Option.some.injEq] at same
  exact List.inj_on_of_nodup_map apart (inside (List.getElem_mem hi)) (List.getElem_mem hi') same

theorem toPage_short {limit : Nat} {found : List StoredUser} (short : found.length ≤ limit) :
    toPage limit (found.take (limit + 1)) =
      (entities found).map fun items => ⟨items, none, limit⟩ := by
  have none : ¬limit < found.length := Nat.not_lt.mpr short
  rw [List.take_of_length_le (by omega), toPage]
  simp only [none, decide_false, Bool.false_eq_true, if_false]
  rfl

theorem toPage_long {limit : Nat} {found : List StoredUser} {last : StoredUser}
    (long : limit < found.length) (ends : (found.take limit).getLast? = some last) :
    toPage limit (found.take (limit + 1)) =
      (entities (found.take limit)).map fun items =>
        ⟨items, some (Cursor.encode last.columns.createdAt last.columns.id), limit⟩ := by
  have more : limit < (found.take (limit + 1)).length := by
    rw [List.length_take]
    omega
  rw [toPage]
  simp only [more, decide_true, if_true, List.take_take, Nat.min_eq_left (Nat.le_succ limit), ends,
    Option.map_some]
  rfl

theorem map_eq_ok {α β : Type} {f : α → β} {result : Except Failure α} {value : β} :
    result.map f = .ok value ↔ ∃ a, result = .ok a ∧ f a = value := by
  cases result <;> simp [Except.map]

/-! The walk. -/
section Walk

variable (platform : Platform) (ilike : String → String → Bool) (table : UsersTable)
  (filters : UserFilters) (search : Option String) (direction : SortDirection) (limit : PageLimit)

def matching : List StoredUser :=
  orderBy direction (table.rows.filter fun u => toWhere ilike filters search u.columns)

def browse (cursor : Option String) : Except Failure (CursorPage User) :=
  findManyByCursor platform ilike table ⟨cursor, limit, direction, search⟩ filters

/-- Following the cursors from the start ends, and returns the matching rows, each
once and in order. -/
def VisitsEachOnce : Prop :=
  ∃ rows users,
    rows.Perm (table.rows.filter fun u => toWhere ilike filters search u.columns) ∧
    rows.Pairwise (precedes direction) ∧ entities rows = .ok users ∧
    Pages (browse platform ilike table filters search direction limit) none users

variable {platform ilike table filters search direction limit}

/-- The rows the seek finds from the cursor left at a row. -/
abbrev beyondRow (direction : SortDirection) (last u : StoredUser) : Bool :=
  beyond direction last.cursor u

theorem matching_distinct : Distinct (matching ilike table filters search direction) :=
  (table.distinct.filter _).perm (orderBy_perm ..).symm fun differ => differ.symm

theorem matching_sorted :
    (matching ilike table filters search direction).Pairwise (precedes direction) :=
  orderBy_pairwise direction (table.distinct.filter _)

theorem browse_start : browse platform ilike table filters search direction limit none =
    toPage limit.value
      ((matching ilike table filters search direction).take (limit.value + 1)) := by
  simp [browse, findManyByCursor, toKeysetCondition, matching, bind, Except.bind]

theorem browse_next (last : StoredUser) :
    browse platform ilike table filters search direction limit
        (some (Cursor.encode last.columns.createdAt last.columns.id)) =
      toPage limit.value
        (((matching ilike table filters search direction).filter (beyondRow direction last)).take
          (limit.value + 1)) := by
  have keyset : toKeysetCondition platform
      (some (Cursor.encode last.columns.createdAt last.columns.id)) direction =
      .ok (some (beyond direction last.cursor)) := by
    unfold toKeysetCondition
    split
    · contradiction
    · rename_i empty
      exact absurd (Option.some.inj empty) (Cursor.encode_ne_empty _ _)
    · rename_i cursor _ here
      obtain rfl := Option.some.inj here
      rw [Cursor.decode_encode platform last.representable last.uuid]
      rfl
  rw [matching, ← orderBy_filter direction table.distinct]
  simp [browse, findManyByCursor, keyset, bind, Except.bind]

theorem pages_of_walk {found out : List StoredUser}
    (walk : Walk (matching ilike table filters search direction) (beyondRow direction) limit.value
      found out)
    {cursor : Option String} (finds : browse platform ilike table filters search direction limit
      cursor = toPage limit.value (found.take (limit.value + 1)))
    {users : List User} (h : entities out = .ok users) :
    Pages (browse platform ilike table filters search direction limit) cursor users := by
  induction walk generalizing cursor users with
  | last short =>
    rw [toPage_short short, h] at finds
    exact .last finds rfl
  | more long ends _ ih =>
    obtain ⟨xs, ys, page, rest, rfl⟩ := entities_append_eq_ok.mp h
    rw [toPage_long long ends, page] at finds
    exact .next finds rfl (ih (browse_next _) rest)

theorem walk_of_pages {cursor : Option String} {users : List User}
    (pages : Pages (browse platform ilike table filters search direction limit) cursor users)
    {found : List StoredUser} (finds : browse platform ilike table filters search direction limit
      cursor = toPage limit.value (found.take (limit.value + 1))) :
    ∃ out, Walk (matching ilike table filters search direction) (beyondRow direction) limit.value
      found out ∧ entities out = .ok users := by
  induction pages generalizing found with
  | last page final =>
    rw [page] at finds
    by_cases short : found.length ≤ limit.value
    · rw [toPage_short short, eq_comm, map_eq_ok] at finds
      obtain ⟨items, rows, rfl⟩ := finds
      exact ⟨found, .last short, rows⟩
    · obtain ⟨last, ends⟩ := exists_getLast?_take limit.least (Nat.lt_of_not_le short)
      rw [toPage_long (by omega) ends, eq_comm, map_eq_ok] at finds
      obtain ⟨items, rows, rfl⟩ := finds
      cases final
  | next page continues _ ih =>
    rw [page] at finds
    by_cases short : found.length ≤ limit.value
    · rw [toPage_short short, eq_comm, map_eq_ok] at finds
      obtain ⟨items, rows, rfl⟩ := finds
      cases continues
    · obtain ⟨last, ends⟩ := exists_getLast?_take limit.least (Nat.lt_of_not_le short)
      rw [toPage_long (by omega) ends, eq_comm, map_eq_ok] at finds
      obtain ⟨items, rows, rfl⟩ := finds
      obtain rfl := Option.some.inj continues
      obtain ⟨rest, walk, following⟩ := ih (browse_next last)
      exact ⟨_, .more (by omega) ends walk, entities_append_eq_ok.mpr ⟨_, _, rows, following, rfl⟩⟩

/-- Every page but the last one ends where the seek can start. -/
def CleanCuts (direction : SortDirection) (limit : PageLimit) (rows : List StoredUser) : Prop :=
  ∀ n last, limit.value ∣ n + 1 → n + 1 < rows.length → rows[n]? = some last →
    SeeksPast direction last (rows.drop (n + 1))

theorem walk_iff_cleanCuts :
    Walk (matching ilike table filters search direction) (beyondRow direction) limit.value
        (matching ilike table filters search direction)
        (matching ilike table filters search direction) ↔
      CleanCuts direction limit (matching ilike table filters search direction) := by
  rw [walk_iff_separates limit.least matching_distinct.nodup (beyond_upward matching_sorted)]
  apply forall_congr'
  intro n
  apply forall_congr'
  intro last
  apply imp_congr_right
  intro boundary
  apply imp_congr_right
  intro inside
  apply imp_congr_right
  intro there
  exact filter_beyond_iff matching_sorted there

theorem VisitsEachOnce.cleanCuts
    (h : VisitsEachOnce platform ilike table filters search direction limit) :
    (∀ u ∈ matching ilike table filters search direction, KnownStatus u) ∧
      CleanCuts direction limit (matching ilike table filters search direction) := by
  obtain ⟨rows, users, same, order, mapped, pages⟩ := h
  obtain rfl := ordered_unique (same.trans (orderBy_perm ..).symm) order matching_sorted
  obtain ⟨out, walk, returned⟩ := walk_of_pages pages browse_start
  have all := entities_inj matching_distinct (walk.subset (List.Subset.refl _)) returned mapped
  exact ⟨entities_ok_iff.mp ⟨users, mapped⟩, walk_iff_cleanCuts.mp (all ▸ walk)⟩

end Walk

/-- A walk visits each row once exactly when every row it returns can be mapped and
every page but the last ends where the seek can start. -/
theorem keyset_visits_each_once_iff (platform : Platform) (ilike : String → String → Bool)
    (table : UsersTable) (filters : UserFilters) (search : Option String)
    (direction : SortDirection) (limit : PageLimit) :
    VisitsEachOnce platform ilike table filters search direction limit ↔
      (∀ u ∈ matching ilike table filters search direction, KnownStatus u) ∧
        CleanCuts direction limit (matching ilike table filters search direction) := by
  constructor
  · intro h
    exact h.cleanCuts
  · rintro ⟨known, cuts⟩
    obtain ⟨users, mapped⟩ := entities_ok_iff.mpr known
    exact ⟨_, users, orderBy_perm .., matching_sorted, mapped,
      pages_of_walk (walk_iff_cleanCuts.mpr cuts) browse_start mapped⟩

/-! Two users created in one millisecond. -/

def createdRow (id email : String) : UserRow where
  id := id
  registrarUserId := none
  email := email
  passwordHash := none
  firstName := none
  lastName := none
  status := "ACTIVE"
  isPlatformAdmin := false
  tokenVersion := 0
  lastLoginAt := none
  version := 0
  createdAt := 1
  updatedAt := 1
  deletedAt := none

def earlierUser : StoredUser where
  columns := createdRow (String.ofList (List.replicate 36 'a')) "a@example.com"
  createdAt := 1500
  truncated := by decide
  representable := by decide
  uuid := by simp [createdRow, isUuidText]

def laterUser : StoredUser where
  columns := createdRow (String.ofList (List.replicate 36 'b')) "b@example.com"
  createdAt := 1700
  truncated := by decide
  representable := by decide
  uuid := by simp [createdRow, isUuidText]

def twoUsers : UsersTable where
  rows := [earlierUser, laterUser]
  distinct := by
    simp [earlierUser, laterUser, createdRow]

theorem sameMillisecond_lost :
    ¬VisitsEachOnce ⟨fun _ => none, fun _ => ""⟩ (fun _ _ => true) twoUsers ⟨none, none, none, false⟩
      none .desc ⟨1, by decide, by decide⟩ := by
  intro h
  have cuts := h.cleanCuts.2
  have order : matching (fun _ _ => true) twoUsers ⟨none, none, none, false⟩ none .desc =
      [laterUser, earlierUser] := by
    refine ordered_unique  ?_ matching_sorted ?_
    · exact (orderBy_perm ..).trans (List.Perm.swap laterUser earlierUser [])
    · exact List.pairwise_pair.mpr (precedes_desc_iff.mpr (.inl (by decide)))
  rw [order] at cuts
  rcases cuts 0 laterUser (by decide) (by decide) rfl earlierUser List.mem_cons_self with before | same
  · exact absurd before (by decide)
  · exact absurd same.1 (by decide)

end TenantOS.Users
