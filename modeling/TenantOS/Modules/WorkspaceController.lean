import TenantOS.Application.NamespaceService

/-! The controllers over workspaces and what is in them, behind the guards: the user is the
one of the access token. A snapshot has the fields of its entity and is not told apart. -/
namespace TenantOS.Modules

open TenantOS.Domain TenantOS.Application

/-- A workspace as `GET /workspaces` lists it: no `userId`, and the counts of what is in it. -/
structure WorkspaceListing where
  id : Uuid
  name : String
  slug : String
  description : Option String
  status : String
  isDefault : Bool
  settings : JsonObject
  createdAt : Date
  updatedAt : Date
  counts : Option NamespacesResourcesCounts

structure FolderListing where
  folder : Folder
  counts : Option FolderResourcesCounts

/-- Everything a connection has: the `Omit` of its `credentials` is commented out. -/
abbrev CredentialSummary := Connection

def toCredentialSummary (connection : Connection) : CredentialSummary :=
  connection

inductive Request where
  | listWorkspaces
  | listFolders
  | listWorkflows
  | listVariables
  | listConnections
  | getNamespace
  | operation (op : Operation)

inductive Response where
  | workspaceListings (items : List WorkspaceListing)
  | folderListings (items : List FolderListing)
  | workspace (workspace : Workspace)
  | folder (folder : Folder)
  | folders (folders : List Folder)
  | workflow (workflow : Workflow)
  | workflows (workflows : List Workflow)
  | «variable» («variable» : Variable)
  | «variables» («variables» : List Variable)
  | credential (credential : CredentialSummary)
  | credentials (credentials : List CredentialSummary)
  | connections (connections : List Connection)
  | «namespace» (of : Namespace)
  | noContent

/-- `countsMap.get(id)` -/
def countsOf {α : Type} (owner : α → Uuid) (counts : List α) (id : Uuid) : Option α :=
  counts.reverse.find? fun count => owner count = id

def toListing (counts : List NamespacesResourcesCounts) (workspace : Workspace) :
    WorkspaceListing where
  id := workspace.id
  name := workspace.name
  slug := workspace.slug
  description := workspace.description
  status := workspace.status
  isDefault := workspace.isDefault
  settings := workspace.settings
  createdAt := workspace.createdAt
  updatedAt := workspace.updatedAt
  counts := countsOf (·.workspaceId) counts workspace.id

/-- What a route makes of the outcome of its operation. -/
def respond : Outcome → Response
  | .workspace row => .workspace row
  | .folder row => .folder row
  | .folders rows => .folders rows
  | .workflow row => .workflow row
  | .workflows rows => .workflows rows
  | .variable row => .variable row
  | .variables rows => .variables rows
  | .credential row => .credential (toCredentialSummary row)
  | .credentials rows => .credentials (rows.map toCredentialSummary)
  | .deleted => .noContent

section

variable {m : Type → Type} [Monad m] [MonadExceptOf Failure m] (ports : Repositories m)
  (nfkd : String → String)

def WorkspaceController.listAll : m Response := do
  let items ← WorkspaceService.listAll ports.workspaces
  let counts ← WorkspaceService.namespacesResourcesCounts ports.folders ports.workflows
    ports.variables ports.connections (items.map (·.id))
  pure (.workspaceListings (items.map (toListing counts)))

def WorkspaceController.listFolders (workspaceId userId : Uuid) : m Response := do
  let items ← WorkspaceService.listFolders ports.workspaces ports.folders workspaceId userId
  let counts ← WorkspaceService.folderResourcesCounts ports.workflows ports.variables
    ports.connections (items.map (·.id))
  pure (.folderListings (items.map fun item => ⟨item, countsOf (·.folderId) counts item.id⟩))

/-- Every other route of the controller is its operation. -/
def WorkspaceController.handle (userId : Uuid) : Operation → m Response
  | .listFolders workspaceId => WorkspaceController.listFolders ports workspaceId userId
  | op => do return respond (← perform ports nfkd userId op)

def handle (userId : Uuid) : Request → m Response
  | .listWorkspaces => WorkspaceController.listAll ports
  | .listFolders => do return .folders (← ports.folders.findAll)
  | .listWorkflows => do return .workflows (← ports.workflows.findAll)
  | .listVariables => do return .variables (← ports.variables.findAll)
  | .listConnections => do return .connections (← ports.connections.findAll)
  | .getNamespace => do return .namespace (← NamespaceService.getForUser ports userId)
  | .operation op => WorkspaceController.handle ports nfkd userId op

end

end TenantOS.Modules
