import TenantOS.Transactions.Joined
import TenantOS.Workspaces.Reachable

/-! The repositories statement by statement, and as one atomic step each: a client that
is alone on the database cannot tell them apart. -/
namespace TenantOS.Transactions

open TenantOS.Domain TenantOS.Infrastructure TenantOS.Interleaving TenantOS.Relational
open TenantOS.Application TenantOS.Workspaces

def stored (tables : Tables) : Contents workspaceSchema
  | .workspaces => tables.workspaces
  | .folders => tables.folders

theorem update_workspaces {tables : Tables} {rows : List WorkspaceRow} :
    Function.update (stored tables) .workspaces rows = stored { tables with workspaces := rows } := by
  funext table
  cases table <;> rfl

theorem update_folders {tables : Tables} {rows : List FolderRow} :
    Function.update (stored tables) .folders rows = stored { tables with folders := rows } := by
  funext table
  cases table <;> rfl

section

variable {α β : Type} {now : Date} {tables : Tables}

/-- Statement by statement, what `action` does in one step. -/
def Realises (now : Date) (tables : Tables) (program : WorkspaceSql α) (action : Atomic α) : Prop :=
  ∀ db : Database workspaceSchema, db.Quiet → db.tables = stored tables → ∃ db',
    Sql.Settles uniqueViolation program db (action now tables).1 db' ∧ db'.Quiet ∧
      db'.tables = stored (action now tables).2

theorem realises_of_commits {program : WorkspaceSql α} {action : Atomic α}
    {step : Sql.Committed workspaceSchema Failure α}
    (commits : Sql.Commits uniqueViolation program step)
    (same : step (stored tables) = ((action now tables).1, stored (action now tables).2)) :
    Realises now tables program action := by
  intro db quiet holds
  obtain ⟨db', settles, quiet', left⟩ := commits db quiet
  rw [holds, same] at settles left
  exact ⟨db', settles, quiet', left⟩

theorem realises_pure {value : α} : Realises now tables (pure value) (pure value) :=
  fun db quiet holds => ⟨db, rfl, quiet, holds⟩

theorem realises_throw {failure : Failure} :
    Realises now tables (throw failure : WorkspaceSql α) (throw failure) :=
  fun db quiet holds => ⟨db, rfl, quiet, holds⟩

theorem Realises.bind {program : WorkspaceSql α} {action : Atomic α} {next : α → WorkspaceSql β}
    {next' : α → Atomic β} (h : Realises now tables program action)
    (rest : ∀ value tables', action now tables = (.ok value, tables') →
      Realises now tables' (next value) (next' value)) :
    Realises now tables (program >>= next) (action >>= next') := by
  intro db quiet holds
  obtain ⟨mid, settles, quiet', left⟩ := h db quiet holds
  cases settled : action now tables with
  | mk result tables' =>
    rw [settled] at settles left
    cases result with
    | error failure =>
      rw [Atomic.bind_error settled]
      exact ⟨mid, settles.bind_error, quiet', left⟩
    | ok value =>
      rw [Atomic.bind_ok settled]
      obtain ⟨db', settles', quiet'', left'⟩ := rest value tables' settled mid quiet' left
      exact ⟨db', settles.bind settles', quiet'', left'⟩

/-! Reads. -/

theorem realises_workspacesWhere {operation : String} {whereClause : WorkspaceRow → Bool}
    {select : List WorkspaceRow → α} : Realises now tables
      (during operation do
        let rows ← workspacesWhere whereClause
        pure (select rows))
      (query fun tables => select (tables.workspaces.filter whereClause)) := by
  have reads : Sql.Commits uniqueViolation
      (workspacesWhere whereClause >>= fun rows => pure (select rows)) _ :=
    Sql.commits_findMany.bind fun rows => Sql.commits_pure (select rows)
  exact realises_of_commits (reads.rethrowing fun failure => toInfrastructureError failure operation) rfl

theorem realises_foldersWhere {operation : String} {whereClause : FolderRow → Bool}
    {select : List FolderRow → α} : Realises now tables
      (during operation do
        let rows ← foldersWhere whereClause
        pure (select rows))
      (query fun tables => select (tables.folders.filter whereClause)) := by
  have reads : Sql.Commits uniqueViolation
      (foldersWhere whereClause >>= fun rows => pure (select rows)) _ :=
    Sql.commits_findMany.bind fun rows => Sql.commits_pure (select rows)
  exact realises_of_commits (reads.rethrowing fun failure => toInfrastructureError failure operation) rfl

theorem realises_findById (id : Uuid) : Realises now tables
    ((prismaWorkspaceRepository now).findById id) (prismaWorkspaces.findById id) := by
  have read : Realises now tables ((prismaWorkspaceRepository now).findById id)
      (query fun tables =>
        (tables.workspaces.filter (workspaceNamed id)).head?.map toWorkspaceEntity) :=
    realises_workspacesWhere
  simp only [List.head?_filter] at read
  exact read

theorem realises_findFolder (id : Uuid) : Realises now tables
    ((prismaFolderRepository now).findById id) (prismaFolders.findById id) := by
  have read : Realises now tables ((prismaFolderRepository now).findById id)
      (query fun tables => (tables.folders.filter fun row => row.id = id).head?.map toFolderEntity) :=
    realises_foldersWhere
  simp only [List.head?_filter] at read
  exact read

/-! Writes. -/

/-- One insert. -/
theorem created_eq {table : WorkspaceTable} {row : table.Row} {contents : Contents workspaceSchema} :
    (Sql.created uniqueViolation table row : Sql.Joined workspaceSchema Failure Unit) contents =
      (insertRow (workspaceSchema.clash table) true row (contents table)).map fun rows =>
        ((), Function.update contents table rows) := by
  cases clashes : (contents table).findSome? (workspaceSchema.clash table row) with
  | some target =>
    rw [Sql.created_of_clash clashes, insertRow, clashes]
    rfl
  | none =>
    rw [Sql.created_of_free clashes, insertRow, clashes]
    rfl

/-- A transaction in which the client does what a statement of `action` does. -/
theorem realises_write {γ : Type} {fn : Nat → WorkspaceSql β}
    {step : Sql.Joined workspaceSchema Failure β} {translate : Failure → Failure}
    {statement : Tables → Except Failure γ} {store : γ → Tables → β × Tables}
    (body : ∀ tx, Sql.Performs uniqueViolation tx (fn tx) step)
    (same : step (stored tables) = (statement tables).map fun value =>
      ((store value tables).1, stored (store value tables).2)) :
    Realises now tables (Sql.rethrowing translate (Sql.runInTransaction fn))
      (write translate statement store) := by
  refine realises_of_commits ((Sql.commits_runInTransaction body).rethrowing translate) ?_
  simp only [Sql.atomically, same, write]
  cases statement tables <;> rfl

theorem realises_createWorkspace (input : CreateWorkspaceInput) : Realises now tables
    ((prismaWorkspaceRepository now).create input) (prismaWorkspaces.create input) := by
  have body (tx : Nat) : Sql.Performs uniqueViolation tx
      (do
        Sql.create (S := workspaceSchema) tx .workspaces (insertedWorkspace input now)
        Sql.create (S := workspaceSchema) tx .folders
          (insertedDefaultFolder input.defaultFolderId input.id now)
        pure (toWorkspaceEntity (insertedWorkspace input now)))
      (do
        Sql.created uniqueViolation .workspaces (insertedWorkspace input now)
        Sql.created uniqueViolation .folders
          (insertedDefaultFolder input.defaultFolderId input.id now)
        pure (toWorkspaceEntity (insertedWorkspace input now))) :=
    Sql.performs_create.bind fun _ => Sql.performs_create.bind fun _ => Sql.performs_pure _
  refine realises_write body ?_
  simp only [Sql.joined_bind, created_eq]
  change Except.map _ (insertRow workspacesClash true _ tables.workspaces) >>= _ = _
  cases insertRow workspacesClash true (insertedWorkspace input now) tables.workspaces with
  | error failure => rfl
  | ok workspaces =>
    change Except.map _ (insertRow foldersClash true _
      (Function.update (stored tables) .workspaces workspaces .folders)) >>= _ = _
    rw [update_workspaces]
    change Except.map _ (insertRow foldersClash true _ tables.folders) >>= _ = Except.map _
      (insertRow foldersClash true _ tables.folders >>= _)
    cases insertRow foldersClash true
        (insertedDefaultFolder input.defaultFolderId input.id now) tables.folders with
    | error failure => rfl
    | ok folders =>
      have both : Function.update (Function.update (stored tables) .workspaces workspaces) .folders
          folders = stored { tables with workspaces, folders } := by
        rw [update_workspaces, update_folders]
      exact congrArg (fun contents => Except.ok (_, contents)) both

theorem realises_createFolder (input : CreateFolderInput)
    (owner : hasWorkspace tables input.workspaceId = true) : Realises now tables
    ((prismaFolderRepository now).create input) (prismaFolders.create input) := by
  have body (tx : Nat) : Sql.Performs uniqueViolation tx
      (do
        Sql.create (S := workspaceSchema) tx .folders (insertedFolder input now)
        pure (toFolderEntity (insertedFolder input now)))
      (do
        Sql.created uniqueViolation .folders (insertedFolder input now)
        pure (toFolderEntity (insertedFolder input now))) :=
    Sql.performs_create.bind fun _ => Sql.performs_pure _
  refine realises_write body ?_
  rw [Sql.joined_bind, created_eq, owner]
  change Except.map _ (insertRow foldersClash true _ tables.folders) >>= _ =
    Except.map _ (insertRow foldersClash true _ tables.folders)
  cases insertRow foldersClash true (insertedFolder input now) tables.folders with
  | error failure => rfl
  | ok folders => exact congrArg (fun contents => Except.ok (_, contents)) update_folders

theorem unique_of_distinct {folders : List FolderRow} (distinct : Distinct foldersClash folders) :
    UniqueKey (·.id) folders :=
  List.pairwise_map.mpr (distinct.imp fun apart => (collision_eq_none.mp apart).1)

theorem named_of_inWorkspace {id workspaceId : Uuid} {row : FolderRow}
    (matched : inWorkspace id workspaceId row) : row.id = id := by
  simp only [inWorkspace, Bool.and_eq_true, decide_eq_true_eq] at matched
  exact matched.1

/-- The row a rename writes, and the ones around it. -/
theorem updateRow_split {id workspaceId : Uuid} {data : FolderRow → FolderRow}
    {folders : List FolderRow} {row : FolderRow} (distinct : Distinct foldersClash folders)
    (found : folders.find? (inWorkspace id workspaceId) = some row) :
    ∃ pre post, folders = pre ++ row :: post ∧ inWorkspace id workspaceId row ∧ row.id = id ∧
      (∀ other ∈ pre ++ post, other.id ≠ id) ∧
      updateRow foldersClash (·.id) (inWorkspace id workspaceId) data folders =
        match (pre ++ post).findSome? (foldersClash (data row)) with
        | some target => .error (uniqueViolation target)
        | none => .ok (data row, pre ++ data row :: post) := by
  obtain ⟨pre, post, rfl, matched, named, others⟩ :=
    split_of_find (unique_of_distinct distinct) (fun _ => named_of_inWorkspace) found
  have updated : updateMany (inWorkspace id workspaceId) data (pre ++ row :: post) = _ :=
    updateMany_one matched fun other present => by simp [inWorkspace, others other present]
  refine ⟨pre, post, rfl, matched, named, others, ?_⟩
  rw [updateRow, found]
  cases clashes : (pre ++ post).findSome? (foldersClash (data row)) with
  | some target => simp only [filter_others named others, clashes]
  | none => simp only [filter_others named others, clashes, updated]

theorem distinct_updateRow {id workspaceId : Uuid} {data : FolderRow → FolderRow}
    {folders folders' : List FolderRow} {row : FolderRow} (distinct : Distinct foldersClash folders)
    (h : updateRow foldersClash (·.id) (inWorkspace id workspaceId) data folders =
      .ok (row, folders')) : Distinct foldersClash folders' := by
  obtain ⟨before, present, matched, -, -⟩ := updateRow_ok h
  cases found : folders.find? (inWorkspace id workspaceId) with
  | none => exact absurd matched (by simpa using List.find?_eq_none.mp found before present)
  | some row =>
    obtain ⟨pre, post, rfl, -, -, -, settled⟩ :=
      @updateRow_split id workspaceId data folders row distinct found
    rw [settled] at h
    cases clashes : (pre ++ post).findSome? (foldersClash (data row)) with
    | some target =>
      rw [clashes] at h
      cases h
    | none =>
      rw [clashes] at h
      cases h
      exact distinct.replace (fun _ _ => collision_symm) clashes

def firstRow (rows : List FolderRow) : Sql.Joined workspaceSchema Failure FolderRow :=
  match rows with
  | [] => throw recordNotFound
  | row :: _ => pure row

/-- `UPDATE … RETURNING` -/
def returned (whereClause : FolderRow → Bool) (data : FolderRow → FolderRow) (id : Uuid) :
    Sql.Joined workspaceSchema Failure FolderRow := do
  let count ← Sql.rewritten (S := workspaceSchema) uniqueViolation .folders whereClause data
  if count = 0 then throw recordNotFound
  else
    let rows ← Sql.rowsWhere (S := workspaceSchema) .folders fun row => row.id = id
    firstRow rows

theorem performs_updateReturning {tx : Nat} {id : Uuid} {whereClause : FolderRow → Bool}
    {data : FolderRow → FolderRow} : Sql.Performs uniqueViolation tx
      (PrismaFolderRepository.updateReturning tx id whereClause data)
      (returned whereClause data id) := by
  refine Sql.performs_updateMany.bind fun count => ?_
  split
  · exact Sql.performs_throw _
  · refine Sql.performs_findMany.bind fun rows => ?_
    cases rows with
    | nil => exact Sql.performs_throw _
    | cons row _ => exact Sql.performs_pure row

theorem returned_eq {id workspaceId : Uuid} {data : FolderRow → FolderRow}
    {contents : Contents workspaceSchema} (keeps : ∀ row, (data row).id = row.id)
    (distinct : Distinct foldersClash (contents .folders)) :
    returned (inWorkspace id workspaceId) data id contents =
      (updateRow foldersClash (·.id) (inWorkspace id workspaceId) data (contents .folders)).map
        fun settled => (settled.1, Function.update contents .folders settled.2) := by
  rw [returned, Sql.joined_bind]
  simp only [Sql.rewritten]
  cases found : List.find? (inWorkspace id workspaceId) (contents .folders) with
  | none =>
    have unmatched : ∀ row ∈ contents .folders, inWorkspace id workspaceId row = false :=
      fun row present => by simpa using List.find?_eq_none.mp found row present
    rw [rewriteRows_unmatched unmatched, updateRow, found]
    rfl
  | some row =>
    obtain ⟨pre, post, split, matched, named, others, settled⟩ := updateRow_split distinct found
    have elsewhere (other : FolderRow) (present : other ∈ pre ++ post) :
        inWorkspace id workspaceId other = false := by
      simp [inWorkspace, others other present]
    have rewritten : rewriteRows foldersClash (inWorkspace id workspaceId) data []
        (pre ++ row :: post) 0 = _ := rewriteRows_one matched
      (fun other present => elsewhere other (List.mem_append_left _ present))
      (fun other present => elsewhere other (List.mem_append_right _ present))
    have reread : (pre ++ data row :: post).filter (fun other => other.id = id) = [data row] :=
      filter_key ((keeps row).trans named) others
    rw [settled]
    simp only [split, rewritten, List.nil_append, Nat.zero_add]
    cases (pre ++ post).findSome? (foldersClash (data row)) with
    | some target => rfl
    | none =>
      have selected : (Sql.rowsWhere (S := workspaceSchema) .folders (fun row => decide (row.id = id)) :
          Sql.Joined workspaceSchema Failure _)
          (Function.update contents .folders (pre ++ data row :: post)) =
          .ok ([data row], Function.update contents .folders (pre ++ data row :: post)) := by
        rw [Sql.rowsWhere, Function.update_self, reread]
      change ((Sql.rowsWhere (S := workspaceSchema) .folders (fun row => decide (row.id = id)) :
          Sql.Joined workspaceSchema Failure _) >>= firstRow)
        (Function.update contents .folders (pre ++ data row :: post)) = _
      rw [Sql.joined_bind, selected]
      rfl

/-- The other defaults are cleared; nothing unique is written. -/
theorem cleared_eq {id workspaceId : Uuid} {contents : Contents workspaceSchema}
    (apart : Distinct foldersClash (contents .folders)) :
    (Sql.rewritten (S := workspaceSchema) uniqueViolation .folders (otherDefault id workspaceId)
      (clearedFolder now) : Sql.Joined workspaceSchema Failure Nat) contents =
      .ok (0 + List.countP (otherDefault id workspaceId) (contents .folders),
        Function.update contents .folders
          (updateMany (otherDefault id workspaceId) (clearedFolder now) (contents .folders))) := by
  have clears : rewriteRows foldersClash (otherDefault id workspaceId) (clearedFolder now) []
      (contents .folders) 0 = _ := rewriteRows_blind (fun _ _ => collision_symm) (fun _ _ => rfl) apart
  rw [Sql.rewritten, clears]
  rfl

theorem realises_rename (id workspaceId : Uuid) (input : RenameFolderInput)
    (distinct : Distinct foldersClash tables.folders) : Realises now tables
    ((prismaFolderRepository now).rename id workspaceId input)
    (prismaFolders.rename id workspaceId input) := by
  have body (tx : Nat) : Sql.Performs uniqueViolation tx
      (do
        let row ← PrismaFolderRepository.updateReturning tx id (inWorkspace id workspaceId)
          (renamedFolder input now)
        if input.isDefault = some true then
          let _ ← Sql.updateMany (S := workspaceSchema) tx .folders (otherDefault id workspaceId)
            (clearedFolder now)
        pure (toFolderEntity row))
      (do
        let row ← returned (inWorkspace id workspaceId) (renamedFolder input now) id
        if input.isDefault = some true then
          let _ ← Sql.rewritten (S := workspaceSchema) uniqueViolation .folders
            (otherDefault id workspaceId) (clearedFolder now)
        pure (toFolderEntity row)) := by
    refine performs_updateReturning.bind fun row => ?_
    split
    · exact Sql.performs_updateMany.bind fun _ => Sql.performs_pure _
    · exact Sql.performs_pure _
  refine realises_write body ?_
  have reads : returned (inWorkspace id workspaceId) (renamedFolder input now) id (stored tables) = _ :=
    returned_eq (fun _ => rfl) distinct
  rw [Sql.joined_bind, reads]
  change Except.map _ (updateRow foldersClash (·.id) (inWorkspace id workspaceId)
      (renamedFolder input now) tables.folders) >>= _ = Except.map _ (updateRow foldersClash (·.id)
        (inWorkspace id workspaceId) (renamedFolder input now) tables.folders >>= _)
  cases settled : updateRow foldersClash (·.id) (inWorkspace id workspaceId)
      (renamedFolder input now) tables.folders with
  | error failure => rfl
  | ok after =>
    obtain ⟨row, folders⟩ := after
    have apart := distinct_updateRow distinct settled
    by_cases asked : input.isDefault = some true
    · have writes : (Sql.rewritten (S := workspaceSchema) uniqueViolation .folders
          (otherDefault id workspaceId) (clearedFolder now) : Sql.Joined workspaceSchema Failure Nat)
          (stored { tables with folders }) = .ok (_, Function.update (stored { tables with folders })
            .folders (updateMany (otherDefault id workspaceId) (clearedFolder now) folders)) :=
        cleared_eq apart
      rw [update_folders] at writes
      simp only [asked, if_true]
      change ((Sql.rewritten (S := workspaceSchema) uniqueViolation .folders
          (otherDefault id workspaceId) (clearedFolder now) : Sql.Joined workspaceSchema Failure Nat) >>=
            fun _ => pure (toFolderEntity row)) (Function.update (stored tables) .folders folders) = _
      rw [Sql.joined_bind, update_folders, writes]
      rfl
    · simp only [asked, if_false]
      exact congrArg (fun contents => Except.ok (_, contents)) update_folders

/-! The service over them. -/

theorem realises_findOwned (workspaceId userId : Uuid) : Realises now tables
    (WorkspaceService.findOwned (prismaWorkspaceRepository now) workspaceId userId)
    (WorkspaceService.findOwned prismaWorkspaces workspaceId userId) := by
  refine (realises_findById workspaceId).bind fun found tables' _ => ?_
  cases found.filter fun workspace => workspace.userId = userId with
  | none => exact realises_throw
  | some workspace => exact realises_pure

theorem realises_assertOwned (workspaceId userId : Uuid) : Realises now tables
    (WorkspaceService.assertOwned (prismaWorkspaceRepository now) workspaceId userId)
    (WorkspaceService.assertOwned prismaWorkspaces workspaceId userId) :=
  (realises_findOwned workspaceId userId).bind fun _ _ _ => realises_pure

theorem realises_assertFolder (workspaceId folderId userId : Uuid) : Realises now tables
    (WorkspaceService.assertFolder (prismaWorkspaceRepository now) (prismaFolderRepository now)
      workspaceId folderId userId)
    (WorkspaceService.assertFolder prismaWorkspaces prismaFolders workspaceId folderId userId) := by
  refine (realises_assertOwned workspaceId userId).bind fun _ tables' _ => ?_
  refine (realises_findFolder folderId).bind fun found tables'' _ => ?_
  cases found.filter fun folder => folder.workspaceId = workspaceId with
  | none => exact realises_throw
  | some folder => exact realises_pure

/-- The check of the workspace passes on a row there is. -/
theorem owner_of_assertOwned {workspaceId userId : Uuid} {tables' : Tables} {owned : Unit}
    (h : WorkspaceService.assertOwned prismaWorkspaces workspaceId userId now tables =
      (.ok owned, tables')) : hasWorkspace tables workspaceId = true := by
  obtain ⟨workspace, between, checked, -⟩ := Atomic.ok_of_bind h
  cases named : tables.workspaces.find? fun row => row.id = workspaceId with
  | none =>
    have asked : prismaWorkspaces.findById workspaceId now tables = (.ok none, tables) := by
      change (Except.ok ((tables.workspaces.find? _).map toWorkspaceEntity), tables) = _
      rw [named]
      rfl
    have refused : WorkspaceService.findOwned prismaWorkspaces workspaceId userId now tables =
        (.error (.domain (workspaceNotFoundError workspaceId)), tables) :=
      (Atomic.bind_ok asked).trans rfl
    cases checked.symm.trans refused
  | some row =>
    exact List.any_eq_true.mpr ⟨row, List.mem_of_find?_eq_some named,
      by simpa using List.find?_some named⟩

end

def clock : Command → Date
  | .createWorkspace _ _ _ _ now => now
  | .createFolder _ _ _ _ now => now
  | .renameFolder _ _ _ _ now => now

/-- The same commands, each call of a repository one step. -/
def oneStep (nfkd : String → String) : Command → Atomic Workspaces.Outcome
  | .createWorkspace id defaultFolderId userId input _ => do
      let workspace ← WorkspaceService.createWorkspace prismaWorkspaces nfkd id defaultFolderId
        userId input
      pure (.workspace workspace)
  | .createFolder id workspaceId userId input _ => do
      let folder ← WorkspaceService.createFolder prismaWorkspaces prismaFolders nfkd id workspaceId
        userId input
      pure (.folder folder)
  | .renameFolder workspaceId folderId userId input _ => do
      let folder ← WorkspaceService.renameFolder prismaWorkspaces prismaFolders workspaceId folderId
        userId input
      pure (.folder folder)

/-- A command that is alone returns what it would in one step, and leaves the same rows. -/
theorem body_realises_oneStep (nfkd : String → String) (command : Command) {tables : Tables}
    (distinct : Distinct foldersClash tables.folders) {db : Database workspaceSchema}
    (quiet : db.Quiet) (holds : db.tables = stored tables) : ∃ db',
    Sql.Settles uniqueViolation (body nfkd command) db (oneStep nfkd command (clock command) tables).1 db' ∧
      db'.Quiet ∧ db'.tables = stored (oneStep nfkd command (clock command) tables).2 := by
  suffices realises : Realises (clock command) tables (body nfkd command) (oneStep nfkd command) from
    realises db quiet holds
  cases command with
  | createWorkspace id defaultFolderId userId input now =>
    exact (realises_createWorkspace _).bind fun _ _ _ => realises_pure
  | createFolder id workspaceId userId input now =>
    refine Realises.bind (Realises.bind (realises_assertOwned workspaceId userId) ?_)
      fun _ _ _ => realises_pure
    intro _ tables' owned
    change WorkspaceService.assertOwned prismaWorkspaces workspaceId userId now tables = _ at owned
    have unchanged : (WorkspaceService.assertOwned prismaWorkspaces workspaceId userId now tables).2 =
        tables := keeps_assertOwned (P := (· = tables)) now tables rfl
    have owner := owner_of_assertOwned owned
    rw [owned] at unchanged
    obtain rfl : tables' = tables := unchanged
    exact realises_createFolder ⟨_, workspaceId, _, _, _⟩ owner
  | renameFolder workspaceId folderId userId input now =>
    refine Realises.bind (Realises.bind (realises_assertFolder workspaceId folderId userId) ?_)
      fun _ _ _ => realises_pure
    intro _ tables' owned
    change WorkspaceService.assertFolder prismaWorkspaces prismaFolders workspaceId folderId userId
      now tables = _ at owned
    have unchanged : (WorkspaceService.assertFolder prismaWorkspaces prismaFolders workspaceId
        folderId userId now tables).2 = tables := keeps_assertFolder (P := (· = tables)) now tables rfl
    rw [owned] at unchanged
    obtain rfl : tables' = tables := unchanged
    exact realises_rename folderId workspaceId input distinct

def opensAcme : Command :=
  .createWorkspace "w1" "f1" "u1" ⟨"Acme", some "acme", none, none⟩ 0

theorem body_realises_oneStep_acme : ∃ db',
    Sql.Settles uniqueViolation (body (fun name => name) opensAcme) emptyDatabase
      (.ok (.workspace (toWorkspaceEntity acme))) db' ∧
      db'.Quiet ∧ db'.tables .folders = [insertedDefaultFolder "f1" "w1" 0] := by
  have holds : emptyDatabase.tables = stored Tenancy.emptyTables := by
    funext table
    cases table <;> rfl
  have distinct : Distinct foldersClash Tenancy.emptyTables.folders := List.Pairwise.nil
  obtain ⟨db', settles, quiet, left⟩ := body_realises_oneStep (fun name => name) opensAcme
    distinct (fun _ _ present => by cases present) holds
  exact ⟨db', settles, quiet, congrFun left .folders⟩

end TenantOS.Transactions
