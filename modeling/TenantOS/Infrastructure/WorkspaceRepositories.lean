import TenantOS.Infrastructure.WorkspaceTables
import TenantOS.Relational.Table

/-! The five repositories of the workspace service with each call as one atomic step
over the tables. Rows that nothing here writes (nodes, runs, triggers) are left out. -/
namespace TenantOS.Infrastructure

open TenantOS.Domain TenantOS.Relational

structure Tables where
  workspaces : List WorkspaceRow
  folders : List FolderRow
  workflows : List WorkflowRow
  workflowVersions : List WorkflowVersionRow
  «variables» : List VariableRow
  connections : List ConnectionRow

/-- A computation on the tables at one reading of the clock. -/
def Atomic (α : Type) : Type :=
  Date → Tables → Except Failure α × Tables

namespace Atomic

variable {α β : Type}

instance : Monad Atomic where
  pure value := fun _ tables => (.ok value, tables)
  bind action next := fun now tables =>
    match action now tables with
    | (.ok value, tables') => next value now tables'
    | (.error failure, tables') => (.error failure, tables')

instance : MonadExceptOf Failure Atomic where
  throw failure := fun _ tables => (.error failure, tables)
  tryCatch action handler := fun now tables =>
    match action now tables with
    | (.ok value, tables') => (.ok value, tables')
    | (.error failure, tables') => handler failure now tables'

theorem pure_run (value : α) (now : Date) (tables : Tables) :
    (pure value : Atomic α) now tables = (.ok value, tables) := rfl

theorem bind_ok {action : Atomic α} {next : α → Atomic β} {now : Date} {tables tables' : Tables}
    {value : α} (h : action now tables = (.ok value, tables')) :
    (action >>= next) now tables = next value now tables' := by
  change (match action now tables with
    | (.ok value, tables') => next value now tables'
    | (.error failure, tables') => (.error failure, tables')) = _
  rw [h]

theorem bind_error {action : Atomic α} {next : α → Atomic β} {now : Date} {tables tables' : Tables}
    {failure : Failure} (h : action now tables = (.error failure, tables')) :
    (action >>= next) now tables = (.error failure, tables') := by
  change (match action now tables with
    | (.ok value, tables') => next value now tables'
    | (.error failure, tables') => (.error failure, tables')) = _
  rw [h]

theorem ok_of_bind {action : Atomic α} {next : α → Atomic β} {now : Date} {tables tables' : Tables}
    {value : β} (h : (action >>= next) now tables = (.ok value, tables')) :
    ∃ mid between, action now tables = (.ok mid, between) ∧
      next mid now between = (.ok value, tables') := by
  cases settled : action now tables with
  | mk result between =>
    cases result with
    | error failure => cases (bind_error settled).symm.trans h
    | ok mid => exact ⟨mid, between, rfl, (bind_ok settled).symm.trans h⟩

end Atomic

/-- A query changes nothing. -/
def query {α : Type} (select : Tables → α) : Atomic α :=
  fun _ tables => (.ok (select tables), tables)

/-! One statement on one table. -/

section

variable {Row : Type} (clash : Row → Row → Option (List String))

/-- The indexes are asked as the row goes in, the references at the end of the statement. -/
def insertRow (referenced : Bool) (row : Row) (rows : List Row) : Except Failure (List Row) :=
  match rows.findSome? (clash row) with
  | some target => .error (uniqueViolation target)
  | none => if referenced then .ok (rows ++ [row]) else .error foreignKeyViolation

/-- `update` of the row a primary key names, with more conditions in its `where`. -/
def updateRow (id : Row → Uuid) (whereClause : Row → Bool) (data : Row → Row) (rows : List Row) :
    Except Failure (Row × List Row) :=
  match rows.find? whereClause with
  | none => .error recordNotFound
  | some row =>
    match (rows.filter fun other => id other ≠ id row).findSome? (clash (data row)) with
    | some target => .error (uniqueViolation target)
    | none => .ok (data row, updateMany whereClause data rows)

def deleteRow (whereClause : Row → Bool) (rows : List Row) : Except Failure (Row × List Row) :=
  match rows.find? whereClause with
  | none => .error recordNotFound
  | some row => .ok (row, deleteMany whereClause rows)

end

/-- Nothing is written by a statement that fails; its failure is translated. -/
def write {α β : Type} (translate : Failure → Failure) (statement : Tables → Except Failure α)
    (store : α → Tables → β × Tables) : Atomic β :=
  fun _ tables =>
    match statement tables with
    | .ok value => (.ok (store value tables).1, (store value tables).2)
    | .error failure => (.error (translate failure), tables)

/-! What a statement that succeeds has done, and one that finds no row. -/

section

variable {Row : Type} {clash : Row → Row → Option (List String)} {id : Row → Uuid}
  {whereClause : Row → Bool} {data : Row → Row} {rows rows' : List Row} {row : Row}

theorem ok_of_bind {α β : Type} {first : Except Failure α} {next : α → Except Failure β} {value : β}
    (h : first >>= next = .ok value) : ∃ mid, first = .ok mid ∧ next mid = .ok value := by
  cases first with
  | error failure => cases h
  | ok mid => exact ⟨mid, rfl, h⟩

theorem insertRow_ok {referenced : Bool} (h : insertRow clash referenced row rows = .ok rows') :
    (∀ other ∈ rows, clash row other = none) ∧ referenced = true ∧ rows' = rows ++ [row] := by
  unfold insertRow at h
  split at h
  · contradiction
  · rename_i free
    split at h
    · exact ⟨List.findSome?_eq_none_iff.mp free, ‹_›, (Except.ok.inj h).symm⟩
    · contradiction

theorem updateRow_ok {after : Row} (h : updateRow clash id whereClause data rows = .ok (after, rows')) :
    ∃ row ∈ rows, whereClause row ∧ after = data row ∧ rows' = updateMany whereClause data rows := by
  unfold updateRow at h
  split at h
  · contradiction
  · rename_i row found
    split at h
    · contradiction
    · cases h
      exact ⟨row, List.mem_of_find?_eq_some found, List.find?_some found, rfl, rfl⟩

theorem updateRow_missing (h : ¬∃ row ∈ rows, whereClause row) :
    updateRow clash id whereClause data rows = .error recordNotFound := by
  have missing : rows.find? whereClause = none :=
    List.find?_eq_none.mpr fun row hmem matched => h ⟨row, hmem, matched⟩
  simp [updateRow, missing]

theorem deleteRow_ok (h : deleteRow whereClause rows = .ok (row, rows')) :
    row ∈ rows ∧ whereClause row ∧ rows' = deleteMany whereClause rows := by
  unfold deleteRow at h
  split at h
  · contradiction
  · rename_i found
    cases h
    exact ⟨List.mem_of_find?_eq_some found, List.find?_some found, rfl⟩

theorem deleteRow_missing (h : ¬∃ row ∈ rows, whereClause row) :
    deleteRow whereClause rows = .error recordNotFound := by
  have missing : rows.find? whereClause = none :=
    List.find?_eq_none.mpr fun row hmem matched => h ⟨row, hmem, matched⟩
  simp [deleteRow, missing]

end

/-! A statement commutes with a projection that its `where` and the indexes do not see. -/

section

variable {Row : Type} {clash : Row → Row → Option (List String)} {id : Row → Uuid}
  {whereClause : Row → Bool} {data data' : Row → Row} {rows : List Row} {project : Row → Row}

theorem findSome_map (blind : ∀ row other, clash (project row) (project other) = clash row other)
    (row : Row) : (rows.map project).findSome? (clash (project row)) = rows.findSome? (clash row) := by
  rw [List.findSome?_map]
  exact congrArg (fun f => rows.findSome? f) (funext fun other => blind row other)

theorem insertRow_map (blind : ∀ row other, clash (project row) (project other) = clash row other)
    {referenced : Bool} {row : Row} :
    insertRow clash referenced (project row) (rows.map project) =
      (insertRow clash referenced row rows).map (List.map project) := by
  unfold insertRow
  rw [findSome_map blind]
  cases rows.findSome? (clash row) with
  | some target => rfl
  | none => cases referenced <;> simp [Except.map]

theorem find_map (asked : ∀ row, whereClause (project row) = whereClause row) :
    (rows.map project).find? whereClause = (rows.find? whereClause).map project := by
  rw [List.find?_map]
  exact congrArg (fun f => (rows.find? f).map project) (funext asked)

theorem updateMany_map (asked : ∀ row, whereClause (project row) = whereClause row)
    (writes : ∀ row, data' (project row) = project (data row)) :
    updateMany whereClause data' (rows.map project) = (updateMany whereClause data rows).map project := by
  simp only [updateMany, List.map_map]
  refine List.map_congr_left fun row _ => ?_
  simp only [Function.comp_apply, asked]
  split
  · exact writes row
  · rfl

theorem deleteRow_map (asked : ∀ row, whereClause (project row) = whereClause row) :
    deleteRow whereClause (rows.map project) =
      (deleteRow whereClause rows).map (Prod.map project (List.map project)) := by
  unfold deleteRow
  rw [find_map asked]
  cases rows.find? whereClause with
  | none => rfl
  | some row =>
    have kept : deleteMany whereClause (rows.map project) =
        (deleteMany whereClause rows).map project := by
      simp only [deleteMany, List.filter_map]
      exact congrArg _ (List.filter_congr fun row _ => by simp [asked])
    simp [kept, Except.map]

theorem updateRow_map (blind : ∀ row other, clash (project row) (project other) = clash row other)
    (same : ∀ row, id (project row) = id row)
    (asked : ∀ row, whereClause (project row) = whereClause row)
    (writes : ∀ row, data' (project row) = project (data row)) :
    updateRow clash id whereClause data' (rows.map project) =
      (updateRow clash id whereClause data rows).map (Prod.map project (List.map project)) := by
  unfold updateRow
  rw [find_map asked]
  cases rows.find? whereClause with
  | none => rfl
  | some row =>
    have others : (rows.map project).filter (fun other => id other ≠ id (project row)) =
        (rows.filter fun other => id other ≠ id row).map project := by
      rw [List.filter_map]
      exact congrArg _ (List.filter_congr fun other _ => by simp [same])
    simp only [Option.map_some, others, writes]
    rw [findSome_map blind]
    cases (rows.filter fun other => id other ≠ id row).findSome? (clash (data row)) with
    | some target => rfl
    | none => simp [updateMany_map asked writes, Except.map]

end

/-- A write fails and changes nothing, or stores what its statement returned. -/
theorem write_spec {α β : Type} {translate : Failure → Failure}
    {statement : Tables → Except Failure α} {store : α → Tables → β × Tables} {now : Date}
    {tables : Tables} {P : Except Failure β → Tables → Prop}
    (failed : ∀ failure, statement tables = .error failure → P (.error (translate failure)) tables)
    (stored : ∀ value, statement tables = .ok value →
      P (.ok (store value tables).1) (store value tables).2) :
    P (write translate statement store now tables).1 (write translate statement store now tables).2 := by
  unfold write
  split
  · exact stored _ ‹_›
  · exact failed _ ‹_›

section

variable {α β : Type} {translate : Failure → Failure} {statement : Tables → Except Failure α}
  {store : α → Tables → β × Tables} {now : Date} {tables tables' : Tables}

theorem ok_of_write {value : β}
    (h : write translate statement store now tables = (.ok value, tables')) :
    ∃ stored, statement tables = .ok stored ∧ store stored tables = (value, tables') := by
  unfold write at h
  split at h
  · rename_i stored settled
    exact ⟨stored, settled, by simpa [Prod.ext_iff] using h⟩
  · cases h

theorem error_of_write {failure : Failure}
    (h : write translate statement store now tables = (.error failure, tables')) :
    tables' = tables ∧ ∃ raised, statement tables = .error raised ∧ failure = translate raised := by
  unfold write at h
  split at h
  · cases h
  · rename_i raised settled
    cases h
    exact ⟨rfl, raised, settled, rfl⟩

end

def hasWorkspace (tables : Tables) (workspaceId : Uuid) : Bool :=
  tables.workspaces.any fun row => row.id = workspaceId

def hasFolder (tables : Tables) (folderId : Uuid) : Bool :=
  tables.folders.any fun row => row.id = folderId

namespace PrismaWorkspaceRepository

def findAll : Atomic (List Workspace) :=
  query fun tables => (defaultFirst tables.workspaces).map toWorkspaceEntity

def findByUserId (userId : Uuid) : Atomic (List Workspace) :=
  query fun tables => (newestFirst (·.createdAt)
    (tables.workspaces.filter fun row => row.userId = userId)).map toWorkspaceEntity

def findByUserIdAndDefault (userId : Uuid) : Atomic (Option Workspace) :=
  query fun tables =>
    (tables.workspaces.find? fun row => row.userId = userId && row.isDefault).map toWorkspaceEntity

def findById (id : Uuid) : Atomic (Option Workspace) :=
  query fun tables => (tables.workspaces.find? fun row => row.id = id).map toWorkspaceEntity

/-- Both inserts, or neither. -/
def create (input : CreateWorkspaceInput) : Atomic Workspace := fun now =>
  write (createFailure input.slug)
    (fun tables => do
      let workspaces ← insertRow workspacesClash true (insertedWorkspace input now) tables.workspaces
      let folders ← insertRow foldersClash true
        (insertedDefaultFolder input.defaultFolderId input.id now) tables.folders
      pure (workspaces, folders))
    (fun (workspaces, folders) tables =>
      (toWorkspaceEntity (insertedWorkspace input now), { tables with workspaces, folders })) now

end PrismaWorkspaceRepository

def prismaWorkspaces : WorkspaceRepositoryPort Atomic where
  findAll := PrismaWorkspaceRepository.findAll
  findByUserId := PrismaWorkspaceRepository.findByUserId
  findByUserIdAndDefault := PrismaWorkspaceRepository.findByUserIdAndDefault
  findById := PrismaWorkspaceRepository.findById
  create := PrismaWorkspaceRepository.create

namespace PrismaFolderRepository

def findAll : Atomic (List Folder) :=
  query fun tables => (byPosition tables.folders).map toFolderEntity

def countByWorkspaceIds (workspaceIds : List Uuid) : Atomic (List Count) :=
  query fun tables => countBy (·.workspaceId)
    (tables.folders.filter fun row => row.workspaceId ∈ workspaceIds)

/-- An empty list means an empty result. -/
def findByWorkspaceIds (workspaceIds : List Uuid) : Atomic (List Folder) :=
  query fun tables => (byWorkspaceAndPosition
    (tables.folders.filter fun row => row.workspaceId ∈ workspaceIds)).map toFolderEntity

def findByWorkspaceIdAndDefault (workspaceId : Uuid) : Atomic (Option Folder) :=
  query fun tables => (tables.folders.find? fun row =>
    row.workspaceId = workspaceId && row.isDefault).map toFolderEntity

def findById (id : Uuid) : Atomic (Option Folder) :=
  query fun tables => (tables.folders.find? fun row => row.id = id).map toFolderEntity

def create (input : CreateFolderInput) : Atomic Folder := fun now =>
  write (createFailure input)
    (fun tables => insertRow foldersClash (hasWorkspace tables input.workspaceId)
      (insertedFolder input now) tables.folders)
    (fun folders tables => (toFolderEntity (insertedFolder input now), { tables with folders })) now

/-- The rename, and the clearing of the other defaults. -/
def rename (id workspaceId : Uuid) (input : RenameFolderInput) : Atomic Folder := fun now =>
  write (renameFailure id input.name)
    (fun tables => do
      let (row, folders) ← updateRow foldersClash (·.id) (inWorkspace id workspaceId)
        (renamedFolder input now) tables.folders
      pure (row, if input.isDefault = some true then
        updateMany (otherDefault id workspaceId) (clearedFolder now) folders else folders))
    (fun (row, folders) tables => (toFolderEntity row, { tables with folders })) now

end PrismaFolderRepository

def prismaFolders : FolderRepositoryPort Atomic where
  findAll := PrismaFolderRepository.findAll
  countByWorkspaceIds := PrismaFolderRepository.countByWorkspaceIds
  findByWorkspaceIds := PrismaFolderRepository.findByWorkspaceIds
  findByWorkspaceIdAndDefault := PrismaFolderRepository.findByWorkspaceIdAndDefault
  findById := PrismaFolderRepository.findById
  create := PrismaFolderRepository.create
  rename := PrismaFolderRepository.rename

namespace PrismaWorkflowRepository

/-- `include: { version: true }` -/
def withCurrentVersion (versions : List WorkflowVersionRow) (row : WorkflowRow) : Workflow :=
  toWorkflowWithRelationsEntity row
    (versions.find? fun version => some version.id = row.currentVersionId)

def workflowsWhere (whereClause : WorkflowRow → Bool) (tables : Tables) : List Workflow :=
  (newestFirst (·.createdAt) (tables.workflows.filter whereClause)).map
    (withCurrentVersion tables.workflowVersions)

def findAll : Atomic (List Workflow) :=
  query (workflowsWhere fun _ => true)

def countByWorkspaceIds (workspaceIds : List Uuid) : Atomic (List Count) :=
  query fun tables => countBy (·.workspaceId)
    (tables.workflows.filter fun row => row.workspaceId ∈ workspaceIds)

/-- A workflow in no folder counts for none. -/
def countByFolderIds (folderIds : List Uuid) : Atomic (List Count) :=
  query fun tables => countBy (fun folderId => folderId)
    ((tables.workflows.filterMap (·.folderId)).filter fun folderId => folderId ∈ folderIds)

def findByWorkspaceIds (workspaceIds : List Uuid) : Atomic (List Workflow) :=
  query (workflowsWhere fun row => row.workspaceId ∈ workspaceIds)

def findByFolderId (folderId : Uuid) : Atomic (List Workflow) :=
  query (workflowsWhere fun row => row.folderId = some folderId)

/-- After the two inserts: the version is linked, and the row of the insert returned, which
is not. -/
def linked (input : CreateWorkflowInput) (now : Date)
    (inserted : List WorkflowRow × List WorkflowVersionRow) (tables : Tables) : Workflow × Tables :=
  (toWorkflowWithRelationsEntity (insertedWorkflow input now) (some (insertedVersion input now)),
    { tables with
      workflows := updateMany (fun row => row.id = input.id)
        (fun row => { row with currentVersionId := some input.initialVersionId, updatedAt := now })
        inserted.1
      workflowVersions := inserted.2 })

/-- The workflow, its version 1 and the link between them. -/
def create (input : CreateWorkflowInput) : Atomic Workflow := fun now =>
  write (createFailure input.slug)
    (fun tables => do
      let workflows ← insertRow workflowsClash
        (hasWorkspace tables input.workspaceId && hasFolder tables input.folderId)
        (insertedWorkflow input now) tables.workflows
      let versions ← insertRow workflowVersionsClash true (insertedVersion input now)
        tables.workflowVersions
      pure (workflows, versions))
    (linked input now) now

/-- The row, if it is in this folder. -/
def inFolder (id folderId : Uuid) (row : WorkflowRow) : Bool :=
  row.id = id && row.folderId = some folderId

def update (id folderId : Uuid) (input : UpdateWorkflowInput) : Atomic Workflow := fun now =>
  write (updateFailure id input)
    (fun tables => updateRow workflowsClash (·.id) (inFolder id folderId)
      (updatedWorkflow input now) tables.workflows)
    (fun (row, workflows) tables =>
      (withCurrentVersion tables.workflowVersions row, { tables with workflows })) now

/-- Its versions go with it. -/
def delete (id folderId : Uuid) : Atomic Unit :=
  write (deleteFailure id)
    (fun tables => deleteRow (inFolder id folderId) tables.workflows)
    (fun (_, workflows) tables => ((), { tables with
      workflows
      workflowVersions := deleteMany (fun version => version.workflowId = id) tables.workflowVersions }))

end PrismaWorkflowRepository

def prismaWorkflows : WorkflowRepositoryPort Atomic where
  findAll := PrismaWorkflowRepository.findAll
  countByWorkspaceIds := PrismaWorkflowRepository.countByWorkspaceIds
  countByFolderIds := PrismaWorkflowRepository.countByFolderIds
  findByWorkspaceIds := PrismaWorkflowRepository.findByWorkspaceIds
  findByFolderId := PrismaWorkflowRepository.findByFolderId
  create := PrismaWorkflowRepository.create
  update := PrismaWorkflowRepository.update
  delete := PrismaWorkflowRepository.delete

namespace PrismaVariableRepository

def variablesWhere (whereClause : VariableRow → Bool) (tables : Tables) : List Variable :=
  (byName (tables.variables.filter whereClause)).map toVariableEntity

def findAll : Atomic (List Variable) :=
  query (variablesWhere fun _ => true)

def countByWorkspaceIds (workspaceIds : List Uuid) : Atomic (List Count) :=
  query fun tables => countBy (·.workspaceId)
    (tables.variables.filter fun row => row.workspaceId ∈ workspaceIds)

def countByFolderIds (folderIds : List Uuid) : Atomic (List Count) :=
  query fun tables => countBy (·.folderId)
    (tables.variables.filter fun row => row.folderId ∈ folderIds)

def findByWorkspaceId (workspaceId : Uuid) : Atomic (List Variable) :=
  query (variablesWhere fun row => row.workspaceId = workspaceId)

def findByFolderId (folderId : Uuid) : Atomic (List Variable) :=
  query (variablesWhere fun row => row.folderId = folderId)

def create (input : CreateVariableInput) : Atomic Variable := fun now =>
  write (createFailure input.name)
    (fun tables => insertRow variablesClash
      (hasWorkspace tables input.workspaceId && hasFolder tables input.folderId)
      (insertedVariable input now) tables.variables)
    (fun rows tables =>
      (toVariableEntity (insertedVariable input now), { tables with «variables» := rows })) now

def inFolder (id folderId : Uuid) (row : VariableRow) : Bool :=
  row.id = id && row.folderId = folderId

def update (id folderId : Uuid) (input : UpdateVariableInput) : Atomic Variable :=
  write (updateFailure id input)
    (fun tables => updateRow variablesClash (·.id) (inFolder id folderId) (updatedVariable input)
      tables.variables)
    (fun (row, rows) tables => (toVariableEntity row, { tables with «variables» := rows }))

def delete (id folderId : Uuid) : Atomic Unit :=
  write (deleteFailure id)
    (fun tables => deleteRow (inFolder id folderId) tables.variables)
    (fun (_, rows) tables => ((), { tables with «variables» := rows }))

end PrismaVariableRepository

def prismaVariables : VariableRepositoryPort Atomic where
  findAll := PrismaVariableRepository.findAll
  countByWorkspaceIds := PrismaVariableRepository.countByWorkspaceIds
  countByFolderIds := PrismaVariableRepository.countByFolderIds
  findByWorkspaceId := PrismaVariableRepository.findByWorkspaceId
  findByFolderId := PrismaVariableRepository.findByFolderId
  create := PrismaVariableRepository.create
  update := PrismaVariableRepository.update
  delete := PrismaVariableRepository.delete

namespace PrismaConnectionRepository

def connectionsWhere (whereClause : ConnectionRow → Bool) (tables : Tables) : List Connection :=
  (newestFirst (·.createdAt) (tables.connections.filter whereClause)).map toConnectionEntity

def findAll : Atomic (List Connection) :=
  query (connectionsWhere fun _ => true)

def countByWorkspaceIds (workspaceIds : List Uuid) : Atomic (List Count) :=
  query fun tables => countBy (·.workspaceId)
    (tables.connections.filter fun row => row.workspaceId ∈ workspaceIds)

def countByFolderIds (folderIds : List Uuid) : Atomic (List Count) :=
  query fun tables => countBy (·.folderId)
    (tables.connections.filter fun row => row.folderId ∈ folderIds)

def findByWorkspaceId (workspaceId : Uuid) : Atomic (List Connection) :=
  query (connectionsWhere fun row => row.workspaceId = workspaceId)

def findByFolderId (folderId : Uuid) : Atomic (List Connection) :=
  query (connectionsWhere fun row => row.folderId = folderId)

def create (input : CreateConnectionInput) : Atomic Connection := fun now =>
  write (createFailure input.name)
    (fun tables => insertRow connectionsClash
      (hasWorkspace tables input.workspaceId && hasFolder tables input.folderId)
      (insertedConnection input now) tables.connections)
    (fun connections tables =>
      (toConnectionEntity (insertedConnection input now), { tables with connections })) now

def inFolder (id folderId : Uuid) (row : ConnectionRow) : Bool :=
  row.id = id && row.folderId = folderId

def update (id folderId : Uuid) (input : UpdateConnectionInput) : Atomic Connection := fun now =>
  write (updateFailure id input)
    (fun tables => updateRow connectionsClash (·.id) (inFolder id folderId)
      (updatedConnection input now) tables.connections)
    (fun (row, connections) tables => (toConnectionEntity row, { tables with connections })) now

def delete (id folderId : Uuid) : Atomic Unit :=
  write (deleteFailure id)
    (fun tables => deleteRow (inFolder id folderId) tables.connections)
    (fun (_, connections) tables => ((), { tables with connections }))

end PrismaConnectionRepository

def prismaConnections : ConnectionRepositoryPort Atomic where
  findAll := PrismaConnectionRepository.findAll
  countByWorkspaceIds := PrismaConnectionRepository.countByWorkspaceIds
  countByFolderIds := PrismaConnectionRepository.countByFolderIds
  findByWorkspaceId := PrismaConnectionRepository.findByWorkspaceId
  findByFolderId := PrismaConnectionRepository.findByFolderId
  create := PrismaConnectionRepository.create
  update := PrismaConnectionRepository.update
  delete := PrismaConnectionRepository.delete

end TenantOS.Infrastructure
