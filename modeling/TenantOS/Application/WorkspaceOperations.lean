import TenantOS.Application.WorkspaceService

/-! The operations of `WorkspaceService` as data, with whatever ids the client supplies. -/
namespace TenantOS.Application

open TenantOS.Domain

structure Repositories (m : Type → Type) where
  workspaces : WorkspaceRepositoryPort m
  folders : FolderRepositoryPort m
  workflows : WorkflowRepositoryPort m
  «variables» : VariableRepositoryPort m
  connections : ConnectionRepositoryPort m

inductive Operation where
  | createWorkspace (id defaultFolderId : Uuid) (input : CreateWorkspaceRequest)
  | getWorkspace (workspaceId : Uuid)
  | listFolders (workspaceId : Uuid)
  | getDefaultFolder (workspaceId : Uuid)
  | createFolder (id workspaceId : Uuid) (input : CreateFolderRequest)
  | renameFolder (workspaceId folderId : Uuid) (input : RenameFolderInput)
  | listFolderWorkflows (workspaceId folderId : Uuid)
  | listFolderVariables (workspaceId folderId : Uuid)
  | listFolderCredentials (workspaceId folderId : Uuid)
  | createWorkflow (id initialVersionId workspaceId folderId : Uuid) (input : CreateWorkflowRequest)
  | updateWorkflow (workspaceId folderId workflowId : Uuid) (input : UpdateWorkflowRequest)
  | deleteWorkflow (workspaceId folderId workflowId : Uuid)
  | createVariable (id workspaceId folderId : Uuid) (input : CreateVariableRequest)
  | updateVariable (workspaceId folderId variableId : Uuid) (input : UpdateVariableRequest)
  | deleteVariable (workspaceId folderId variableId : Uuid)
  | createCredential (id workspaceId folderId : Uuid) (input : CreateCredentialRequest)
  | updateCredential (workspaceId folderId credentialId : Uuid) (input : UpdateCredentialRequest)
  | deleteCredential (workspaceId folderId credentialId : Uuid)

inductive Outcome where
  | workspace (workspace : Workspace)
  | folder (folder : Folder)
  | folders (folders : List Folder)
  | workflow (workflow : Workflow)
  | workflows (workflows : List Workflow)
  | «variable» («variable» : Variable)
  | «variables» («variables» : List Variable)
  | credential (credential : Connection)
  | credentials (credentials : List Connection)
  | deleted

/-- The workspaces of the rows an outcome shows. -/
def Outcome.workspaceIds : Outcome → List Uuid
  | .workspace row => [row.id]
  | .folder row => [row.workspaceId]
  | .folders rows => rows.map (·.workspaceId)
  | .workflow row => [row.workspaceId]
  | .workflows rows => rows.map (·.workspaceId)
  | .variable row => [row.workspaceId]
  | .variables rows => rows.map (·.workspaceId)
  | .credential row => [row.workspaceId]
  | .credentials rows => rows.map (·.workspaceId)
  | .deleted => []

/-- The errors for what an operation names and does not find. -/
def Operation.notFound : Operation → List DomainError
  | .createWorkspace .. => []
  | .getWorkspace workspaceId | .listFolders workspaceId | .getDefaultFolder workspaceId
  | .createFolder _ workspaceId _ => [workspaceNotFoundError workspaceId]
  | .renameFolder workspaceId folderId _ | .listFolderWorkflows workspaceId folderId
  | .listFolderVariables workspaceId folderId | .listFolderCredentials workspaceId folderId
  | .createWorkflow _ _ workspaceId folderId _ | .createVariable _ workspaceId folderId _
  | .createCredential _ workspaceId folderId _ =>
      [workspaceNotFoundError workspaceId, folderNotFoundError folderId]
  | .updateWorkflow workspaceId folderId workflowId _ | .deleteWorkflow workspaceId folderId workflowId =>
      [workspaceNotFoundError workspaceId, folderNotFoundError folderId,
        workflowNotFoundError workflowId]
  | .updateVariable workspaceId folderId variableId _ | .deleteVariable workspaceId folderId variableId =>
      [workspaceNotFoundError workspaceId, folderNotFoundError folderId,
        variableNotFoundError variableId]
  | .updateCredential workspaceId folderId credentialId _
  | .deleteCredential workspaceId folderId credentialId =>
      [workspaceNotFoundError workspaceId, folderNotFoundError folderId,
        credentialNotFoundError credentialId]

theorem Operation.notFound_kind {op : Operation} {failure : DomainError} (h : failure ∈ op.notFound) :
    failure.kind = .notFound := by
  have each : ∀ failure ∈ op.notFound, failure.kind = .notFound := by
    cases op <;> simp [notFound, workspaceNotFoundError, folderNotFoundError, workflowNotFoundError,
      variableNotFoundError, credentialNotFoundError]
  exact each failure h

/-- The checks an operation makes first. -/
inductive Gate where
  | unchecked
  | workspace (workspaceId : Uuid)
  | folder (workspaceId folderId : Uuid)

def Operation.gate : Operation → Gate
  | .createWorkspace .. | .getWorkspace _ => .unchecked
  | .listFolders workspaceId | .getDefaultFolder workspaceId | .createFolder _ workspaceId _ =>
      .workspace workspaceId
  | .renameFolder workspaceId folderId _ | .listFolderWorkflows workspaceId folderId
  | .listFolderVariables workspaceId folderId | .listFolderCredentials workspaceId folderId
  | .createWorkflow _ _ workspaceId folderId _ | .updateWorkflow workspaceId folderId _ _
  | .deleteWorkflow workspaceId folderId _ | .createVariable _ workspaceId folderId _
  | .updateVariable workspaceId folderId _ _ | .deleteVariable workspaceId folderId _
  | .createCredential _ workspaceId folderId _ | .updateCredential workspaceId folderId _ _
  | .deleteCredential workspaceId folderId _ => .folder workspaceId folderId

theorem Operation.named_of_workspaceGate {op : Operation} {workspaceId : Uuid} (h : op.gate = .workspace workspaceId) :
    workspaceNotFoundError workspaceId ∈ op.notFound := by
  cases op <;> simp_all [gate, notFound]

theorem Operation.named_of_folderGate {op : Operation} {workspaceId folderId : Uuid}
    (h : op.gate = .folder workspaceId folderId) :
    workspaceNotFoundError workspaceId ∈ op.notFound ∧ folderNotFoundError folderId ∈ op.notFound := by
  cases op <;> simp_all [gate, notFound]

section

variable {m : Type → Type} [Monad m] [MonadExceptOf Failure m] (ports : Repositories m)
  (nfkd : String → String)

def perform (userId : Uuid) : Operation → m Outcome
  | .createWorkspace id defaultFolderId input => do
      return .workspace (← WorkspaceService.createWorkspace ports.workspaces nfkd id
        defaultFolderId userId input)
  | .getWorkspace workspaceId => do
      return .workspace (← WorkspaceService.getWorkspace ports.workspaces workspaceId userId)
  | .listFolders workspaceId => do
      return .folders (← WorkspaceService.listFolders ports.workspaces ports.folders
        workspaceId userId)
  | .getDefaultFolder workspaceId => do
      return .folder (← WorkspaceService.getDefaultFolder ports.workspaces ports.folders
        workspaceId userId)
  | .createFolder id workspaceId input => do
      return .folder (← WorkspaceService.createFolder ports.workspaces ports.folders nfkd id
        workspaceId userId input)
  | .renameFolder workspaceId folderId input => do
      return .folder (← WorkspaceService.renameFolder ports.workspaces ports.folders
        workspaceId folderId userId input)
  | .listFolderWorkflows workspaceId folderId => do
      return .workflows (← WorkspaceService.listFolderWorkflows ports.workspaces
        ports.folders ports.workflows workspaceId folderId userId)
  | .listFolderVariables workspaceId folderId => do
      return .variables (← WorkspaceService.listFolderVariables ports.workspaces
        ports.folders ports.variables workspaceId folderId userId)
  | .listFolderCredentials workspaceId folderId => do
      return .credentials (← WorkspaceService.listFolderCredentials ports.workspaces
        ports.folders ports.connections workspaceId folderId userId)
  | .createWorkflow id initialVersionId workspaceId folderId input => do
      return .workflow (← WorkspaceService.createWorkflow ports.workspaces ports.folders
        ports.workflows nfkd id initialVersionId workspaceId folderId userId input)
  | .updateWorkflow workspaceId folderId workflowId input => do
      return .workflow (← WorkspaceService.updateWorkflow ports.workspaces ports.folders
        ports.workflows workspaceId folderId workflowId userId input)
  | .deleteWorkflow workspaceId folderId workflowId => do
      WorkspaceService.deleteWorkflow ports.workspaces ports.folders ports.workflows
        workspaceId folderId workflowId userId
      return .deleted
  | .createVariable id workspaceId folderId input => do
      return .variable (← WorkspaceService.createVariable ports.workspaces ports.folders
        ports.variables id workspaceId folderId userId input)
  | .updateVariable workspaceId folderId variableId input => do
      return .variable (← WorkspaceService.updateVariable ports.workspaces ports.folders
        ports.variables workspaceId folderId variableId userId input)
  | .deleteVariable workspaceId folderId variableId => do
      WorkspaceService.deleteVariable ports.workspaces ports.folders ports.variables
        workspaceId folderId variableId userId
      return .deleted
  | .createCredential id workspaceId folderId input => do
      return .credential (← WorkspaceService.createCredential ports.workspaces ports.folders
        ports.connections id workspaceId folderId userId input)
  | .updateCredential workspaceId folderId credentialId input => do
      return .credential (← WorkspaceService.updateCredential ports.workspaces ports.folders
        ports.connections workspaceId folderId credentialId userId input)
  | .deleteCredential workspaceId folderId credentialId => do
      WorkspaceService.deleteCredential ports.workspaces ports.folders ports.connections
        workspaceId folderId credentialId userId
      return .deleted

def Gate.check (userId : Uuid) : Gate → m Unit
  | .unchecked => pure ()
  | .workspace workspaceId => WorkspaceService.assertOwned ports.workspaces workspaceId userId
  | .folder workspaceId folderId =>
      WorkspaceService.assertFolder ports.workspaces ports.folders workspaceId folderId userId

end

end TenantOS.Application
