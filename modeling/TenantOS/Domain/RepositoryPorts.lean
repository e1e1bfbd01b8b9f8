import TenantOS.Domain.Workspace

/-! The repository ports of the workspace service, over the monad their calls run in. -/
namespace TenantOS.Domain

structure Count where
  /-- The workspace or the folder that was counted. -/
  owner : Uuid
  count : Nat
deriving DecidableEq, Repr

structure CreateWorkspaceInput where
  id : Uuid
  userId : Uuid
  name : String
  slug : String
  description : Option String
  settings : JsonObject
  defaultFolderId : Uuid

structure WorkspaceRepositoryPort (m : Type → Type) where
  findAll : m (List Workspace)
  findByUserId (userId : Uuid) : m (List Workspace)
  findByUserIdAndDefault (userId : Uuid) : m (Option Workspace)
  /-- Without filtering by owner: the caller compares `userId` itself. -/
  findById (id : Uuid) : m (Option Workspace)
  create (input : CreateWorkspaceInput) : m Workspace

structure CreateFolderInput where
  id : Uuid
  workspaceId : Uuid
  name : String
  slug : String
  description : Option String
deriving DecidableEq

structure RenameFolderInput where
  name : String
  isDefault : Option Bool
deriving DecidableEq

structure FolderRepositoryPort (m : Type → Type) where
  findAll : m (List Folder)
  countByWorkspaceIds (workspaceIds : List Uuid) : m (List Count)
  findByWorkspaceIds (workspaceIds : List Uuid) : m (List Folder)
  findByWorkspaceIdAndDefault (workspaceId : Uuid) : m (Option Folder)
  findById (id : Uuid) : m (Option Folder)
  create (input : CreateFolderInput) : m Folder
  rename (id workspaceId : Uuid) (input : RenameFolderInput) : m Folder

structure CreateWorkflowInput where
  id : Uuid
  initialVersionId : Uuid
  workspaceId : Uuid
  folderId : Uuid
  name : String
  slug : String
  description : Option String
  createdBy : Option Uuid
  settings : JsonObject
  metadata : JsonObject

structure UpdateWorkflowInput where
  name : Option String
  slug : Option String
  /-- `null` clears the column, an absent field keeps it. -/
  description : Option (Option String)
  settings : Option JsonObject
  metadata : Option JsonObject

structure WorkflowRepositoryPort (m : Type → Type) where
  findAll : m (List Workflow)
  countByWorkspaceIds (workspaceIds : List Uuid) : m (List Count)
  countByFolderIds (folderIds : List Uuid) : m (List Count)
  findByWorkspaceIds (workspaceIds : List Uuid) : m (List Workflow)
  findByFolderId (folderId : Uuid) : m (List Workflow)
  create (input : CreateWorkflowInput) : m Workflow
  update (id folderId : Uuid) (input : UpdateWorkflowInput) : m Workflow
  delete (id folderId : Uuid) : m Unit

structure CreateVariableInput where
  id : Uuid
  workspaceId : Uuid
  folderId : Uuid
  name : String
  value : String
  encrypted : Bool

structure UpdateVariableInput where
  name : Option String
  value : Option String

structure VariableRepositoryPort (m : Type → Type) where
  findAll : m (List Variable)
  countByWorkspaceIds (workspaceIds : List Uuid) : m (List Count)
  countByFolderIds (folderIds : List Uuid) : m (List Count)
  findByWorkspaceId (workspaceId : Uuid) : m (List Variable)
  findByFolderId (folderId : Uuid) : m (List Variable)
  create (input : CreateVariableInput) : m Variable
  update (id folderId : Uuid) (input : UpdateVariableInput) : m Variable
  delete (id folderId : Uuid) : m Unit

structure CreateConnectionInput where
  id : Uuid
  workspaceId : Uuid
  folderId : Uuid
  name : String
  type : String
  provider : String
  /-- Absent, the column default `{}`. -/
  credentials : Option JsonObject
  encrypted : Bool
  metadata : JsonObject

structure UpdateConnectionInput where
  name : Option String
  type : Option String
  provider : Option String
  credentials : Option JsonObject
  metadata : Option JsonObject

structure ConnectionRepositoryPort (m : Type → Type) where
  findAll : m (List Connection)
  countByWorkspaceIds (workspaceIds : List Uuid) : m (List Count)
  countByFolderIds (folderIds : List Uuid) : m (List Count)
  findByWorkspaceId (workspaceId : Uuid) : m (List Connection)
  findByFolderId (folderId : Uuid) : m (List Connection)
  create (input : CreateConnectionInput) : m Connection
  update (id folderId : Uuid) (input : UpdateConnectionInput) : m Connection
  delete (id folderId : Uuid) : m Unit

end TenantOS.Domain
