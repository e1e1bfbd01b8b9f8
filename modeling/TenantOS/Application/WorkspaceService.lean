import TenantOS.Domain.RepositoryPorts
import TenantOS.Domain.Slug

/-! `WorkspaceService`, over whatever monad its repositories run in. What `randomUUID`
returns is passed in, and the trace lines are left out. -/
namespace TenantOS.Application

open TenantOS.Domain

structure CreateWorkspaceRequest where
  name : String
  slug : Option String
  description : Option String
  settings : Option JsonObject

structure CreateWorkflowRequest where
  name : String
  slug : Option String
  description : Option String
  settings : Option JsonObject
  metadata : Option JsonObject

structure UpdateWorkflowRequest where
  name : Option String
  slug : Option String
  description : Option String
  settings : Option JsonObject
  metadata : Option JsonObject

structure CreateFolderRequest where
  name : String
  slug : Option String
  description : Option String

structure CreateVariableRequest where
  name : String
  value : String

structure UpdateVariableRequest where
  name : Option String
  value : Option String

structure CreateCredentialRequest where
  name : String
  type : String
  provider : String
  credentials : JsonObject
  metadata : Option JsonObject

structure UpdateCredentialRequest where
  name : Option String
  type : Option String
  provider : Option String
  credentials : Option JsonObject
  metadata : Option JsonObject

structure NamespacesResourcesCounts where
  workspaceId : Uuid
  workflows : Nat
  «variables» : Nat
  credentials : Nat
  folders : Nat
deriving DecidableEq, Repr

structure FolderResourcesCounts where
  folderId : Uuid
  workflows : Nat
  «variables» : Nat
  credentials : Nat
deriving DecidableEq, Repr

/-- `counts.find((c) => c.id === id)?.count ?? 0` -/
def countOf (counts : List Count) (owner : Uuid) : Nat :=
  ((counts.find? fun c => c.owner = owner).map Count.count).getD 0

namespace WorkspaceService

section

variable {m : Type → Type} [Monad m] [MonadExceptOf Failure m]
  (repository : WorkspaceRepositoryPort m) (folders : FolderRepositoryPort m)
  (workflows : WorkflowRepositoryPort m) («variables» : VariableRepositoryPort m)
  (connections : ConnectionRepositoryPort m) (nfkd : String → String)

/-! The authorization boundary. -/

/-- The same error for missing and not yours. -/
def findOwned (workspaceId userId : Uuid) : m Workspace := do
  let workspace ← repository.findById workspaceId
  match workspace.filter fun workspace => workspace.userId = userId with
  | some workspace => pure workspace
  | none => throw (.domain (workspaceNotFoundError workspaceId))

def assertOwned (workspaceId userId : Uuid) : m Unit := do
  let _ ← findOwned repository workspaceId userId

/-- Resolves a folder within a workspace the caller owns. -/
def assertFolder (workspaceId folderId userId : Uuid) : m Unit := do
  assertOwned repository workspaceId userId
  let folder ← folders.findById folderId
  match folder.filter fun folder => folder.workspaceId = workspaceId with
  | some _ => pure ()
  | none => throw (.domain (folderNotFoundError folderId))

/-! Workspaces and folders. -/

def listAll : m (List Workspace) :=
  repository.findAll

def namespacesResourcesCounts (workspaceIds : List Uuid) : m (List NamespacesResourcesCounts) := do
  let workflows ← workflows.countByWorkspaceIds workspaceIds
  let «variables» ← «variables».countByWorkspaceIds workspaceIds
  let credentials ← connections.countByWorkspaceIds workspaceIds
  let folders ← folders.countByWorkspaceIds workspaceIds
  pure (workspaceIds.map fun id =>
    { workspaceId := id
      workflows := countOf workflows id
      «variables» := countOf «variables» id
      credentials := countOf credentials id
      folders := countOf folders id })

def folderResourcesCounts (folderIds : List Uuid) : m (List FolderResourcesCounts) := do
  let workflows ← workflows.countByFolderIds folderIds
  let «variables» ← «variables».countByFolderIds folderIds
  let credentials ← connections.countByFolderIds folderIds
  pure (folderIds.map fun id =>
    { folderId := id
      workflows := countOf workflows id
      «variables» := countOf «variables» id
      credentials := countOf credentials id })

/-- Unscoped by design: a workspace has no parent to check ownership against. -/
def createWorkspace (id defaultFolderId : Uuid) (userId : Uuid) (input : CreateWorkspaceRequest) :
    m Workspace :=
  repository.create
    { id := id
      userId := userId
      name := input.name
      slug := input.slug.getD (slugify nfkd input.name)
      description := input.description
      settings := input.settings.getD []
      defaultFolderId := defaultFolderId }

def getWorkspace (workspaceId userId : Uuid) : m Workspace :=
  findOwned repository workspaceId userId

def listFolders (workspaceId userId : Uuid) : m (List Folder) := do
  assertOwned repository workspaceId userId
  folders.findByWorkspaceIds [workspaceId]

/-- There is no folder id to report, so the error takes the workspace's. -/
def getDefaultFolder (workspaceId userId : Uuid) : m Folder := do
  assertOwned repository workspaceId userId
  let folder ← folders.findByWorkspaceIdAndDefault workspaceId
  match folder with
  | some folder => pure folder
  | none => throw (.domain (folderNotFoundError workspaceId))

def createFolder (id : Uuid) (workspaceId userId : Uuid) (input : CreateFolderRequest) :
    m Folder := do
  assertOwned repository workspaceId userId
  folders.create
    { id := id
      workspaceId := workspaceId
      name := input.name
      slug := input.slug.getD (slugify nfkd input.name)
      description := input.description }

def renameFolder (workspaceId folderId userId : Uuid) (input : RenameFolderInput) : m Folder := do
  assertFolder repository folders workspaceId folderId userId
  folders.rename folderId workspaceId input

/-! Folder-scoped reads. -/

def listFolderWorkflows (workspaceId folderId userId : Uuid) : m (List Workflow) := do
  assertFolder repository folders workspaceId folderId userId
  workflows.findByFolderId folderId

def listFolderVariables (workspaceId folderId userId : Uuid) : m (List Variable) := do
  assertFolder repository folders workspaceId folderId userId
  «variables».findByFolderId folderId

def listFolderCredentials (workspaceId folderId userId : Uuid) : m (List Connection) := do
  assertFolder repository folders workspaceId folderId userId
  connections.findByFolderId folderId

/-! Folder-scoped writes. -/

def createWorkflow (id initialVersionId : Uuid) (workspaceId folderId userId : Uuid)
    (input : CreateWorkflowRequest) : m Workflow := do
  assertFolder repository folders workspaceId folderId userId
  workflows.create
    { id := id
      initialVersionId := initialVersionId
      workspaceId := workspaceId
      folderId := folderId
      name := input.name
      slug := input.slug.getD (slugify nfkd input.name)
      description := input.description
      createdBy := some userId
      settings := input.settings.getD []
      metadata := input.metadata.getD [] }

def updateWorkflow (workspaceId folderId workflowId userId : Uuid) (input : UpdateWorkflowRequest) :
    m Workflow := do
  assertFolder repository folders workspaceId folderId userId
  workflows.update workflowId folderId
    { name := input.name
      slug := input.slug
      description := input.description.map some
      settings := input.settings
      metadata := input.metadata }

def deleteWorkflow (workspaceId folderId workflowId userId : Uuid) : m Unit := do
  assertFolder repository folders workspaceId folderId userId
  workflows.delete workflowId folderId

def createVariable (id : Uuid) (workspaceId folderId userId : Uuid)
    (input : CreateVariableRequest) : m Variable := do
  assertFolder repository folders workspaceId folderId userId
  «variables».create
    { id := id
      workspaceId := workspaceId
      folderId := folderId
      name := input.name
      value := input.value
      encrypted := false }

/-- The value is passed on as `metadata`, a field the update does not have: only the
name is ever supplied. -/
def updateVariable (workspaceId folderId variableId userId : Uuid) (input : UpdateVariableRequest) :
    m Variable := do
  assertFolder repository folders workspaceId folderId userId
  «variables».update variableId folderId
    { name := input.name
      value := none }

def deleteVariable (workspaceId folderId variableId userId : Uuid) : m Unit := do
  assertFolder repository folders workspaceId folderId userId
  «variables».delete variableId folderId

/-- Stored as supplied: nothing here encrypts, and the flag tells so. -/
def createCredential (id : Uuid) (workspaceId folderId userId : Uuid)
    (input : CreateCredentialRequest) : m Connection := do
  assertFolder repository folders workspaceId folderId userId
  connections.create
    { id := id
      workspaceId := workspaceId
      folderId := folderId
      name := input.name
      type := input.type
      provider := input.provider
      credentials := some input.credentials
      encrypted := false
      metadata := input.metadata.getD [] }

def updateCredential (workspaceId folderId credentialId userId : Uuid)
    (input : UpdateCredentialRequest) : m Connection := do
  assertFolder repository folders workspaceId folderId userId
  connections.update credentialId folderId
    { name := input.name
      type := input.type
      provider := input.provider
      credentials := input.credentials
      metadata := input.metadata }

def deleteCredential (workspaceId folderId credentialId userId : Uuid) : m Unit := do
  assertFolder repository folders workspaceId folderId userId
  connections.delete credentialId folderId

end

end WorkspaceService

end TenantOS.Application
