import TenantOS.Domain.RepositoryPorts
import TenantOS.Infrastructure.AuthTables
import Mathlib.Data.List.Dedup

/-! The rows of `workspaces`, `folders`, `workflows`, `workflow_versions`, `variables`
and `connections`, their unique indexes, and the entities they are mapped to. -/
namespace TenantOS.Infrastructure

open TenantOS.Domain

structure WorkspaceRow where
  id : Uuid
  userId : Uuid
  name : String
  slug : String
  description : Option String
  status : String
  isDefault : Bool
  settings : Json
  createdAt : Date
  updatedAt : Date

structure FolderRow where
  id : Uuid
  workspaceId : Uuid
  name : String
  slug : String
  description : Option String
  position : Int
  isDefault : Bool
  createdAt : Date
  updatedAt : Date
deriving DecidableEq, Repr

structure WorkflowRow where
  id : Uuid
  workspaceId : Uuid
  folderId : Option Uuid
  name : String
  slug : String
  description : Option String
  status : String
  active : Bool
  currentVersionId : Option Uuid
  createdBy : Option Uuid
  settings : Json
  metadata : Json
  createdAt : Date
  updatedAt : Date

structure WorkflowVersionRow where
  id : Uuid
  workflowId : Uuid
  version : Int
  status : String
  workflowJson : Json
  changeSummary : Option String
  createdBy : Option Uuid
  publishedAt : Option Date
  createdAt : Date

structure VariableRow where
  id : Uuid
  workspaceId : Uuid
  folderId : Uuid
  name : String
  value : String
  encrypted : Bool
  createdAt : Date
  updatedAt : Date
deriving DecidableEq, Repr

structure ConnectionRow where
  id : Uuid
  workspaceId : Uuid
  folderId : Uuid
  name : String
  type : String
  provider : String
  credentials : Json
  encrypted : Bool
  status : String
  metadata : Json
  createdAt : Date
  updatedAt : Date

/-! Mappers. -/

def toWorkspaceEntity (row : WorkspaceRow) : Workspace where
  id := row.id
  userId := row.userId
  name := row.name
  slug := row.slug
  description := row.description
  status := row.status
  isDefault := row.isDefault
  settings := asJsonObject row.settings
  createdAt := row.createdAt
  updatedAt := row.updatedAt

def toFolderEntity (row : FolderRow) : Folder where
  id := row.id
  workspaceId := row.workspaceId
  name := row.name
  slug := row.slug
  description := row.description
  position := row.position
  isDefault := row.isDefault
  createdAt := row.createdAt
  updatedAt := row.updatedAt

def toWorkflowVersionEntity (row : WorkflowVersionRow) : WorkflowVersion where
  id := row.id
  workflowId := row.workflowId
  version := row.version
  status := row.status
  workflowJson := asJsonObject row.workflowJson
  changeSummary := row.changeSummary
  createdBy := row.createdBy
  publishedAt := row.publishedAt
  createdAt := row.createdAt

def toWorkflowEntity (row : WorkflowRow) : Workflow where
  id := row.id
  workspaceId := row.workspaceId
  folderId := row.folderId
  name := row.name
  slug := row.slug
  description := row.description
  status := row.status
  active := row.active
  currentVersionId := row.currentVersionId
  createdBy := row.createdBy
  settings := asJsonObject row.settings
  metadata := asJsonObject row.metadata
  createdAt := row.createdAt
  updatedAt := row.updatedAt
  version := none

def toWorkflowWithRelationsEntity (row : WorkflowRow) (version : Option WorkflowVersionRow) :
    Workflow :=
  { toWorkflowEntity row with version := version.map toWorkflowVersionEntity }

def toVariableEntity (row : VariableRow) : Variable where
  id := row.id
  workspaceId := row.workspaceId
  folderId := row.folderId
  name := row.name
  value := row.value
  encrypted := row.encrypted
  createdAt := row.createdAt
  updatedAt := row.updatedAt

def toConnectionEntity (row : ConnectionRow) : Connection where
  id := row.id
  workspaceId := row.workspaceId
  folderId := row.folderId
  name := row.name
  type := row.type
  provider := row.provider
  credentials := asJsonObject row.credentials
  encrypted := row.encrypted
  status := row.status
  metadata := asJsonObject row.metadata
  createdAt := row.createdAt
  updatedAt := row.updatedAt

/-! Unique indexes: the columns of the first one on which two rows collide. -/

/-- A primary key, and composite indexes under their column lists. A row with a null
column has no key: it collides with nothing. -/
def collision {Row Key : Type} [DecidableEq Key] (id : Row → Uuid)
    (indexes : List (List String × (Row → Option Key))) (row other : Row) : Option (List String) :=
  if id row = id other then some ["id"]
  else indexes.findSome? fun index =>
    if (index.2 row).isSome && index.2 row = index.2 other then some index.1 else none

theorem collision_eq_none {Row Key : Type} [DecidableEq Key] {id : Row → Uuid}
    {indexes : List (List String × (Row → Option Key))} {row other : Row} :
    collision id indexes row other = none ↔ id row ≠ id other ∧
      ∀ index ∈ indexes, (index.2 row).isSome → index.2 row ≠ index.2 other := by
  unfold collision
  split
  · simp [*]
  · simp [*, List.findSome?_eq_none_iff]

theorem collision_symm {Row Key : Type} [DecidableEq Key] {id : Row → Uuid}
    {indexes : List (List String × (Row → Option Key))} {row other : Row}
    (h : collision id indexes row other = none) : collision id indexes other row = none := by
  rw [collision_eq_none] at h ⊢
  refine ⟨Ne.symm h.1, fun index hindex present same => ?_⟩
  exact h.2 index hindex (same ▸ present) same.symm

def workspacesClash : WorkspaceRow → WorkspaceRow → Option (List String) :=
  collision (·.id) [(["user_id", "slug"], fun row => some (row.userId, row.slug))]

def foldersClash : FolderRow → FolderRow → Option (List String) :=
  collision (·.id)
    [(["workspace_id", "name"], fun row => some (row.workspaceId, row.name)),
      (["workspace_id", "slug"], fun row => some (row.workspaceId, row.slug))]

/-- Despite what its errors say, the name is unique, and within the folder. -/
def workflowsClash : WorkflowRow → WorkflowRow → Option (List String) :=
  collision (·.id) [(["workspace_id", "folder_id", "name"], fun row =>
    row.folderId.map fun folderId => (row.workspaceId, folderId, row.name))]

def workflowVersionsClash : WorkflowVersionRow → WorkflowVersionRow → Option (List String) :=
  collision (·.id) [(["workflow_id", "version"], fun row => some (row.workflowId, row.version))]

def variablesClash : VariableRow → VariableRow → Option (List String) :=
  collision (·.id) [(["workspace_id", "folder_id", "name"], fun row =>
    some (row.workspaceId, row.folderId, row.name))]

def connectionsClash : ConnectionRow → ConnectionRow → Option (List String) :=
  collision (·.id) [(["workspace_id", "folder_id", "name"], fun row =>
    some (row.workspaceId, row.folderId, row.name))]

/-! The order of what a query returns. -/

def newestFirst {Row : Type} (createdAt : Row → Date) (rows : List Row) : List Row :=
  rows.mergeSort fun row other => createdAt other ≤ createdAt row

def defaultFirst (rows : List WorkspaceRow) : List WorkspaceRow :=
  rows.mergeSort fun row other => row.isDefault || !other.isDefault

def byPosition (rows : List FolderRow) : List FolderRow :=
  rows.mergeSort fun row other => row.position ≤ other.position

def byWorkspaceAndPosition (rows : List FolderRow) : List FolderRow :=
  rows.mergeSort fun row other => row.workspaceId < other.workspaceId ||
    (row.workspaceId = other.workspaceId && row.position ≤ other.position)

def byName (rows : List VariableRow) : List VariableRow :=
  rows.mergeSort fun row other => row.name ≤ other.name

/-- `groupBy`, one count for each key there is. -/
def countBy {Row : Type} (key : Row → Uuid) (rows : List Row) : List Count :=
  (rows.map key).dedup.map fun owner => ⟨owner, rows.countP fun row => key row = owner⟩

/-! Rows as they are inserted, with the defaults of their columns. -/

/-- What an insert into `workspaces` stores at `now`. -/
def insertedWorkspace (input : CreateWorkspaceInput) (now : Date) : WorkspaceRow where
  id := input.id
  userId := input.userId
  name := input.name
  slug := input.slug
  description := input.description
  status := "active"
  isDefault := false
  settings := .object input.settings
  createdAt := now
  updatedAt := now

/-- The one folder every workspace is created with. -/
def insertedDefaultFolder (id workspaceId : Uuid) (now : Date) : FolderRow where
  id := id
  workspaceId := workspaceId
  name := "default"
  slug := "default"
  description := none
  position := 0
  isDefault := true
  createdAt := now
  updatedAt := now

def insertedFolder (input : CreateFolderInput) (now : Date) : FolderRow where
  id := input.id
  workspaceId := input.workspaceId
  name := input.name
  slug := input.slug
  description := input.description
  position := 0
  isDefault := false
  createdAt := now
  updatedAt := now

/-- `id` alone names the row; the workspace scopes the write to its own folders. -/
def inWorkspace (id workspaceId : Uuid) (row : FolderRow) : Bool :=
  row.id = id && row.workspaceId = workspaceId

/-- `SET` of a rename; `@updatedAt` moves as well. -/
def renamedFolder (input : RenameFolderInput) (now : Date) (row : FolderRow) : FolderRow :=
  { row with
    name := input.name
    isDefault := if input.isDefault = some true then true else row.isDefault
    updatedAt := now }

/-- Another default folder of the workspace than the one renamed. -/
def otherDefault (id workspaceId : Uuid) (row : FolderRow) : Bool :=
  row.workspaceId = workspaceId && row.id ≠ id && row.isDefault

def clearedFolder (now : Date) (row : FolderRow) : FolderRow :=
  { row with isDefault := false, updatedAt := now }

/-! The other tables, likewise. -/

def insertedWorkflow (input : CreateWorkflowInput) (now : Date) : WorkflowRow where
  id := input.id
  workspaceId := input.workspaceId
  folderId := some input.folderId
  name := input.name
  slug := input.slug
  description := input.description
  status := "draft"
  active := true
  currentVersionId := none
  createdBy := input.createdBy
  settings := .object input.settings
  metadata := .object input.metadata
  createdAt := now
  updatedAt := now

def insertedVersion (input : CreateWorkflowInput) (now : Date) : WorkflowVersionRow where
  id := input.initialVersionId
  workflowId := input.id
  version := 1
  status := "draft"
  workflowJson := .object []
  changeSummary := none
  createdBy := input.createdBy
  publishedAt := none
  createdAt := now

def updatedWorkflow (input : UpdateWorkflowInput) (now : Date) (row : WorkflowRow) : WorkflowRow :=
  { row with
    name := input.name.getD row.name
    slug := input.slug.getD row.slug
    description := input.description.getD row.description
    settings := (input.settings.map .object).getD row.settings
    metadata := (input.metadata.map .object).getD row.metadata
    updatedAt := now }

def insertedVariable (input : CreateVariableInput) (now : Date) : VariableRow where
  id := input.id
  workspaceId := input.workspaceId
  folderId := input.folderId
  name := input.name
  value := input.value
  encrypted := input.encrypted
  createdAt := now
  updatedAt := now

/-- Variables have no `@updatedAt`. -/
def updatedVariable (input : UpdateVariableInput) (row : VariableRow) : VariableRow :=
  { row with
    name := input.name.getD row.name
    value := input.value.getD row.value }

def insertedConnection (input : CreateConnectionInput) (now : Date) : ConnectionRow where
  id := input.id
  workspaceId := input.workspaceId
  folderId := input.folderId
  name := input.name
  type := input.type
  provider := input.provider
  credentials := .object (input.credentials.getD [])
  encrypted := input.encrypted
  status := "active"
  metadata := .object input.metadata
  createdAt := now
  updatedAt := now

def updatedConnection (input : UpdateConnectionInput) (now : Date) (row : ConnectionRow) :
    ConnectionRow :=
  { row with
    name := input.name.getD row.name
    type := input.type.getD row.type
    provider := input.provider.getD row.provider
    credentials := (input.credentials.map .object).getD row.credentials
    metadata := (input.metadata.map .object).getD row.metadata
    updatedAt := now }

/-! What the `catch` of each write turns a failure of the driver into. -/

def PrismaWorkspaceRepository.createFailure (slug : String) (failure : Failure) : Failure :=
  if isUniqueViolation failure "slug" then .domain (workspaceSlugTakenError slug)
  else toInfrastructureError failure "workspace.create"

namespace PrismaFolderRepository

def createFailure (input : CreateFolderInput) (failure : Failure) : Failure :=
  if isUniqueViolation failure "name" then .domain (folderNameTakenError input.name)
  else if isUniqueViolation failure "slug" then .domain (folderSlugTakenError input.slug)
  else toInfrastructureError failure "folder.create"

def renameFailure (id : Uuid) (name : String) (failure : Failure) : Failure :=
  if isRecordNotFound failure then .domain (folderNotFoundError id)
  else if isUniqueViolation failure "name" then .domain (folderNameTakenError name)
  else toInfrastructureError failure "folder.rename"

end PrismaFolderRepository

/-- The conflict of an update needs the value that was supplied; an empty one does not count. -/
def updateFailure (notFound : DomainError) (column : String) (taken : String → DomainError)
    (supplied : Option String) (operation : String) (failure : Failure) : Failure :=
  if isRecordNotFound failure then .domain notFound
  else
    match supplied.filter fun value => value ≠ "" && isUniqueViolation failure column with
    | some value => .domain (taken value)
    | none => toInfrastructureError failure operation

def deleteFailure (notFound : DomainError) (operation : String) (failure : Failure) : Failure :=
  if isRecordNotFound failure then .domain notFound
  else toInfrastructureError failure operation

namespace PrismaWorkflowRepository

def createFailure (slug : String) (failure : Failure) : Failure :=
  if isUniqueViolation failure "slug" then .domain (workflowSlugTakenError slug)
  else toInfrastructureError failure "workflow.create"

def updateFailure (id : Uuid) (input : UpdateWorkflowInput) : Failure → Failure :=
  Infrastructure.updateFailure (workflowNotFoundError id) "slug" workflowSlugTakenError input.slug
    "workflow.update"

def deleteFailure (id : Uuid) : Failure → Failure :=
  Infrastructure.deleteFailure (workflowNotFoundError id) "workflow.delete"

end PrismaWorkflowRepository

namespace PrismaVariableRepository

def createFailure (name : String) (failure : Failure) : Failure :=
  if isUniqueViolation failure "name" then .domain (variableNameTakenError name)
  else toInfrastructureError failure "variable.create"

def updateFailure (id : Uuid) (input : UpdateVariableInput) : Failure → Failure :=
  Infrastructure.updateFailure (variableNotFoundError id) "name" variableNameTakenError input.name
    "variable.update"

def deleteFailure (id : Uuid) : Failure → Failure :=
  Infrastructure.deleteFailure (variableNotFoundError id) "variable.delete"

end PrismaVariableRepository

namespace PrismaConnectionRepository

def createFailure (name : String) (failure : Failure) : Failure :=
  if isUniqueViolation failure "name" then .domain (credentialNameTakenError name)
  else toInfrastructureError failure "connection.create"

def updateFailure (id : Uuid) (input : UpdateConnectionInput) : Failure → Failure :=
  Infrastructure.updateFailure (credentialNotFoundError id) "name" credentialNameTakenError input.name
    "connection.update"

def deleteFailure (id : Uuid) : Failure → Failure :=
  Infrastructure.deleteFailure (credentialNotFoundError id) "connection.delete"

end PrismaConnectionRepository

end TenantOS.Infrastructure
