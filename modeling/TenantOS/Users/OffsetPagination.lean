import TenantOS.Pagination.Offset
import TenantOS.Users.KeysetPagination
import TenantOS.Users.SortFields
import Mathlib

/-! `findMany` over the `users` table: numbered pages, in the order of any listed column. -/
namespace TenantOS.Users

open TenantOS.Domain TenantOS.Infrastructure TenantOS.Shared TenantOS.Offset

/-- With every timestamp a list may be sorted by, in microseconds. -/
structure ListedUser extends StoredUser where
  updatedAt : Int
  lastLoginAt : Option Int
  updated_truncated : columns.updatedAt = updatedAt / 1000
  login_truncated : columns.lastLoginAt = lastLoginAt.map (· / 1000)

structure ListedTable where
  rows : List ListedUser
  distinct : rows.Pairwise fun u v => u.columns.id ≠ v.columns.id

section Order

variable {κ : Type} [LinearOrder κ] (collate : String → κ)

/-- What the database compares a column by. A null is larger than any value. -/
abbrev SortValue (κ : Type) := WithTop (Int ⊕ₗ κ)

def time (microseconds : Int) : Int ⊕ₗ κ :=
  toLex (.inl microseconds)

def collated (text : String) : Int ⊕ₗ κ :=
  toLex (.inr (collate text))

def SortColumn.value (u : ListedUser) : SortColumn → SortValue κ
  | .createdAt => some (time u.createdAt)
  | .updatedAt => some (time u.updatedAt)
  | .email => some (collated collate u.columns.email)
  | .firstName => u.columns.firstName.map (collated collate)
  | .lastName => u.columns.lastName.map (collated collate)
  | .status => some (collated collate u.columns.status)
  | .lastLoginAt => u.lastLoginAt.map time

/-- The composite: `id` breaks ties. -/
def SortColumn.key (column : SortColumn) (u : ListedUser) : SortValue κ ×ₗ String :=
  toLex (column.value collate u, u.columns.id)

/-- `orderBy: [{ [field]: sortDirection }, { id: sortDirection }]` -/
def orderByColumn (column : SortColumn) (direction : SortDirection) (rows : List ListedUser) :
    List ListedUser :=
  rows.mergeSort fun u v =>
    match direction with
    | .asc => column.key collate u ≤ column.key collate v
    | .desc => column.key collate v ≤ column.key collate u

def comesBefore (column : SortColumn) (direction : SortDirection) (u v : ListedUser) : Prop :=
  match direction with
  | .asc => column.key collate u < column.key collate v
  | .desc => column.key collate v < column.key collate u

end Order

/-- The column a property of `orderBy` names. -/
def SortColumn.ofName? (name : String) : Option SortColumn :=
  [SortColumn.createdAt, .updatedAt, .email, .firstName, .lastName, .status, .lastLoginAt].find?
    fun column => column.name = name

section FindMany

variable {κ : Type} [LinearOrder κ] (collate : String → κ) (ilike : String → String → Bool)
  (table : ListedTable)

def meeting (filters : UserFilters) (search : Option String) : List ListedUser :=
  table.rows.filter fun u => toWhere ilike filters search u.columns

/-- `skip` and `take` of the rows in order. -/
def pageRows (column : SortColumn) (request : OffsetPageRequest) (filters : UserFilters) :
    List ListedUser :=
  ((orderByColumn collate column request.sortDirection
    (meeting ilike table filters request.search)).drop
      (offsetToSkip request.page request.limit.value)).take request.limit.value

/-- The database has no column but its own to order by. -/
def findMany (request : OffsetPageRequest) (filters : UserFilters) :
    Except Failure (OffsetPage User) := do
  let field := orderByField request.sortBy
  match SortColumn.ofName? field with
  | none => .error (.unexpected ("Unknown argument " ++ field))
  | some column =>
      let items ← (pageRows collate ilike table column request filters).mapM fun u =>
        toUserEntity u.columns
      pure
        { items := items
          total := (meeting ilike table filters request.search).length
          page := request.page
          limit := request.limit.value }

end FindMany

/-! The order. -/
section Order

variable {κ : Type} [LinearOrder κ] {collate : String → κ}

theorem orderByColumn_perm (column : SortColumn) (direction : SortDirection)
    (rows : List ListedUser) : (orderByColumn collate column direction rows).Perm rows :=
  List.mergeSort_perm rows _

/-- Two rows never compare equal: their ids differ. -/
theorem orderByColumn_pairwise (column : SortColumn) (direction : SortDirection)
    {rows : List ListedUser} (distinct : rows.Pairwise fun u v => u.columns.id ≠ v.columns.id) :
    (orderByColumn collate column direction rows).Pairwise
      (comesBefore collate column direction) := by
  have apart : rows.Pairwise fun u v => column.key collate u ≠ column.key collate v := by
    apply distinct.imp
    intro u v differ same
    exact differ (congrArg (fun key : SortValue κ ×ₗ String => (ofLex key).2) same)
  cases direction with
  | asc => exact pairwise_lt_mergeSort (column.key collate) apart
  | desc => exact pairwise_gt_mergeSort (column.key collate) apart

theorem comesBefore_asymm {column : SortColumn} {direction : SortDirection} {u v : ListedUser}
    (h : comesBefore collate column direction u v) : ¬comesBefore collate column direction v u := by
  cases direction <;> exact lt_asymm h

end Order

theorem SortColumn.ofName?_orderByField (column : SortColumn) :
    SortColumn.ofName? (orderByField (some column.name)) = some column := by
  cases column <;> decide

/-! The pages. -/
section Pages

variable {κ : Type} [LinearOrder κ] (collate : String → κ) (ilike : String → String → Bool)
  (table : ListedTable) (filters : UserFilters) (search : Option String) (column : SortColumn)
  (direction : SortDirection) (limit : PageLimit)

def listed (page : Nat) : Except Failure (OffsetPage User) :=
  findMany collate ilike table ⟨page, limit, some column.name, direction, search⟩ filters

def rowsOn (page : Nat) : List ListedUser :=
  pageRows collate ilike table column ⟨page, limit, some column.name, direction, search⟩ filters

/-- Pages `1` to `totalPages`, put together, hold each matching row once, in order. -/
def PartitionsResult (totalPages : Nat) : Prop :=
  ∃ (rows : List ListedUser) (pages : List (OffsetPage User)),
    rows.Perm (meeting ilike table filters search) ∧
    rows.Pairwise (comesBefore collate column direction) ∧
    (List.range' 1 totalPages).mapM
      (listed collate ilike table filters search column direction limit) = .ok pages ∧
    rows.mapM (fun u => toUserEntity u.columns) =
      .ok (pages.map fun page => page.items).flatten

/-- What an answered page says of the others. -/
structure ReportsPages (totalPages : Nat) : Prop where
  count : ∀ page answer,
    listed collate ilike table filters search column direction limit page = .ok answer →
      ∀ (β : Type) (map : User → β),
        (PaginatedResponse.fromOffset answer map).pageMeta.totalPages = some totalPages
  /-- A page after the last one is answered, and is empty. -/
  beyond : ∀ page, totalPages < page → ∃ answer,
    listed collate ilike table filters search column direction limit page = .ok answer ∧
      answer.items = []
  hasNext : ∀ page answer, 1 ≤ page →
    listed collate ilike table filters search column direction limit page = .ok answer →
      ∀ (β : Type) (map : User → β),
        ((PaginatedResponse.fromOffset answer map).pageMeta.hasNext = true ↔
          ∃ later, page < later ∧
            rowsOn collate ilike table filters search column direction limit later ≠ [])

variable {collate ilike table filters search column direction limit}

def inOrder (collate : String → κ) (ilike : String → String → Bool) (table : ListedTable)
    (filters : UserFilters) (search : Option String) (column : SortColumn)
    (direction : SortDirection) : List ListedUser :=
  orderByColumn collate column direction (meeting ilike table filters search)

theorem inOrder_perm : (inOrder collate ilike table filters search column direction).Perm
    (meeting ilike table filters search) :=
  orderByColumn_perm ..

theorem inOrder_pairwise : (inOrder collate ilike table filters search column direction).Pairwise
    (comesBefore collate column direction) :=
  orderByColumn_pairwise column direction (table.distinct.filter _)

theorem eq_inOrder {rows : List ListedUser} (same : rows.Perm (meeting ilike table filters search))
    (ordered : rows.Pairwise (comesBefore collate column direction)) :
    rows = inOrder collate ilike table filters search column direction :=
  List.Perm.eq_of_pairwise (fun _ _ _ _ h h' => absurd h' (comesBefore_asymm h)) ordered
    inOrder_pairwise (same.trans inOrder_perm.symm)

theorem rowsOn_succ (n : Nat) :
    rowsOn collate ilike table filters search column direction limit (n + 1) =
      slice limit.value (inOrder collate ilike table filters search column direction) n := by
  have skip : offsetToSkip (n + 1) limit.value = n * limit.value := by
    rw [offsetToSkip, Nat.max_eq_right (by omega), Nat.add_sub_cancel]
  rw [rowsOn, pageRows, skip]
  rfl

theorem listed_eq (page : Nat) :
    listed collate ilike table filters search column direction limit page =
      ((rowsOn collate ilike table filters search column direction limit page).mapM
        fun u => toUserEntity u.columns).map fun items =>
          ⟨items, (meeting ilike table filters search).length, page, limit.value⟩ := by
  rw [listed, findMany]
  simp only [column.ofName?_orderByField]
  rfl

theorem listed_eq_ok {page : Nat} {answer : OffsetPage User} :
    listed collate ilike table filters search column direction limit page = .ok answer ↔
      ∃ items, (rowsOn collate ilike table filters search column direction limit page).mapM
          (fun u => toUserEntity u.columns) = .ok items ∧
        answer = ⟨items, (meeting ilike table filters search).length, page, limit.value⟩ := by
  rw [listed_eq, map_eq_ok]
  simp only [eq_comm]

def lastPage (ilike : String → String → Bool) (table : ListedTable) (filters : UserFilters)
    (search : Option String) (limit : PageLimit) : Nat :=
  pageCount limit.value (meeting ilike table filters search).length

variable (collate column direction) in
theorem length_inOrder : (inOrder collate ilike table filters search column direction).length =
    (meeting ilike table filters search).length :=
  inOrder_perm.length_eq

theorem listed_pages {pages : List Nat} {items : List (List User)} :
    (∃ answers, pages.mapM (listed collate ilike table filters search column direction limit) =
        .ok answers ∧ answers.map (fun answer : OffsetPage User => answer.items) = items) ↔
      (pages.map (rowsOn collate ilike table filters search column direction limit)).mapM
        (fun rows => rows.mapM fun u => toUserEntity u.columns) = .ok items := by
  induction pages generalizing items with
  | nil => simp [pure, Except.pure, eq_comm]
  | cons page pages ih =>
    rw [List.map_cons, mapM_cons_eq_ok]
    simp only [mapM_cons_eq_ok, listed_eq_ok]
    constructor
    · rintro ⟨_, ⟨_, answers, ⟨first, mapped, rfl⟩, others, rfl⟩, rfl⟩
      exact ⟨first, _, mapped, ih.mp ⟨answers, others, rfl⟩, rfl⟩
    · rintro ⟨first, rest, mapped, others, rfl⟩
      obtain ⟨answers, found, rfl⟩ := ih.mpr others
      exact ⟨_, ⟨_, answers, ⟨first, mapped, rfl⟩, found, rfl⟩, rfl⟩

theorem reportsPages : ReportsPages collate ilike table filters search column direction limit
    (lastPage ilike table filters search limit) := by
  have count {page : Nat} {answer : OffsetPage User}
      (answered : listed collate ilike table filters search column direction limit page =
        .ok answer) : answer.page = page ∧
      (if 0 < answer.limit then pageCount answer.limit answer.total else 0) =
        lastPage ilike table filters search limit := by
    obtain ⟨items, -, rfl⟩ := listed_eq_ok.mp answered
    exact ⟨rfl, if_pos limit.least⟩
  refine ⟨?_, ?_, ?_⟩
  · intro page answer answered β map
    exact congrArg some (count answered).2
  · intro page after
    obtain ⟨n, rfl⟩ := Nat.exists_eq_add_of_lt after
    have nothing : rowsOn collate ilike table filters search column direction limit
        (lastPage ilike table filters search limit + n + 1) = [] := by
      rw [rowsOn_succ, slice_eq_nil_iff limit.least, length_inOrder collate column direction]
      exact Nat.le_add_right _ _
    rw [listed_eq, nothing]
    exact ⟨_, rfl, rfl⟩
  · intro page answer first answered β map
    obtain ⟨n, rfl⟩ := Nat.exists_eq_add_of_le' first
    obtain ⟨number, pages⟩ := count answered
    have next : (PaginatedResponse.fromOffset answer map).pageMeta.hasNext = true ↔
        n + 1 < lastPage ilike table filters search limit := by
      rw [← pages, ← number]
      exact decide_eq_true_iff
    rw [next, lastPage, ← length_inOrder collate column direction, ← later_page_iff limit.least]
    constructor
    · rintro ⟨later, after, found⟩
      refine ⟨later + 1, Nat.succ_lt_succ after, ?_⟩
      rw [rowsOn_succ]
      exact found
    · rintro ⟨later, after, found⟩
      obtain ⟨m, rfl⟩ := Nat.exists_eq_add_of_le' (Nat.le_of_lt (Nat.lt_of_le_of_lt first after))
      rw [rowsOn_succ] at found
      exact ⟨m, Nat.lt_of_succ_lt_succ after, found⟩

theorem ReportsPages.unique {m n : Nat}
    (hm : ReportsPages collate ilike table filters search column direction limit m)
    (hn : ReportsPages collate ilike table filters search column direction limit n) : m = n := by
  obtain ⟨answer, answered, -⟩ := hm.beyond (m + 1) (Nat.lt_succ_self m)
  have same := (hm.count _ answer answered User id).symm.trans
    (hn.count _ answer answered User id)
  exact Option.some.inj same

theorem partitionsResult_iff : PartitionsResult collate ilike table filters search column direction
      limit (lastPage ilike table filters search limit) ↔
    ∀ u ∈ meeting ilike table filters search, KnownStatus u.toStoredUser := by
  have whole : ((List.range' 1 (lastPage ilike table filters search limit)).map
      (rowsOn collate ilike table filters search column direction limit)).flatten =
        inOrder collate ilike table filters search column direction := by
    have numbers : List.range' 1 (lastPage ilike table filters search limit) =
        (List.range (lastPage ilike table filters search limit)).map (· + 1) := by
      rw [List.range'_eq_map_range]
      simp only [Nat.add_comm]
    have each : rowsOn collate ilike table filters search column direction limit ∘ (· + 1) =
        slice limit.value (inOrder collate ilike table filters search column direction) :=
      funext rowsOn_succ
    rw [numbers, List.map_map, each, lastPage, ← length_inOrder collate column direction]
    exact flatten_pages limit.least
  have mapped : (∃ users, (inOrder collate ilike table filters search column direction).mapM
      (fun u => toUserEntity u.columns) = .ok users) ↔
        ∀ u ∈ meeting ilike table filters search, KnownStatus u.toStoredUser := by
    have stored : entities ((inOrder collate ilike table filters search column direction).map
        (·.toStoredUser)) = (inOrder collate ilike table filters search column direction).mapM
          (fun u => toUserEntity u.columns) :=
      List.mapM_map
    rw [← stored, entities_ok_iff]
    simp only [List.forall_mem_map, inOrder_perm.mem_iff]
  rw [← mapped]
  constructor
  · rintro ⟨rows, pages, same, ordered, -, users⟩
    rw [← eq_inOrder same ordered]
    exact ⟨_, users⟩
  · rintro ⟨users, found⟩
    have split := found
    rw [← whole, mapM_flatten_eq_ok] at split
    obtain ⟨items, read, rfl⟩ := split
    obtain ⟨pages, answered, rfl⟩ := listed_pages.mpr read
    exact ⟨_, pages, inOrder_perm, inOrder_pairwise, answered, found⟩

end Pages

/-- Numbered pages say how many there are and whether another follows, and they
partition the matching rows exactly when every one of these can be mapped. -/
theorem offset_pages_partition {κ : Type} [LinearOrder κ] (collate : String → κ)
    (ilike : String → String → Bool) (table : ListedTable) (filters : UserFilters)
    (search : Option String) (column : SortColumn) (direction : SortDirection)
    (limit : PageLimit) :
    ∃ totalPages,
      ReportsPages collate ilike table filters search column direction limit totalPages ∧
        (PartitionsResult collate ilike table filters search column direction limit totalPages ↔
          ∀ u ∈ meeting ilike table filters search, KnownStatus u.toStoredUser) :=
  ⟨_, reportsPages, partitionsResult_iff⟩

/-! A status nothing maps. -/

def unmappedUser : ListedUser where
  columns := { createdRow (String.ofList (List.replicate 36 'a')) "a@example.com" with
    status := "ARCHIVED" }
  createdAt := 1500
  truncated := by decide
  representable := by decide
  uuid := by simp [createdRow, isUuidText]
  updatedAt := 1500
  lastLoginAt := none
  updated_truncated := by decide
  login_truncated := rfl

def unmappedTable : ListedTable where
  rows := [unmappedUser]
  distinct := List.pairwise_singleton _ _

theorem unmapped_not_partitioned : ¬∃ totalPages,
    ReportsPages id (fun _ _ => true) unmappedTable ⟨none, none, none, false⟩ none .email .asc
        ⟨20, by decide, by decide⟩ totalPages ∧
      PartitionsResult id (fun _ _ => true) unmappedTable ⟨none, none, none, false⟩ none .email .asc
        ⟨20, by decide, by decide⟩ totalPages := by
  rintro ⟨totalPages, reports, partitions⟩
  rw [reports.unique reportsPages, partitionsResult_iff] at partitions
  have found : unmappedUser ∈ meeting (fun _ _ => true) unmappedTable ⟨none, none, none, false⟩
      none :=
    List.mem_filter.mpr ⟨List.mem_singleton_self _, rfl⟩
  obtain ⟨status, known⟩ := partitions unmappedUser found
  cases status <;> exact absurd known (by decide)

end TenantOS.Users
