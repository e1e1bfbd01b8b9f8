import TenantOS.Application.WorkspaceOperations
import TenantOS.Infrastructure.WorkspaceRepositories
import TenantOS.Interleaving.Schedule

/-! Clients of `WorkspaceService` over shared tables. Each repository call is atomic; what
a client checked with one call may be stale at the next. -/
namespace TenantOS.Tenancy

open TenantOS.Domain TenantOS.Infrastructure TenantOS.Interleaving TenantOS.Application

/-! The calls of each port. -/

inductive WorkspaceCall where
  | findAll
  | findByUserId (userId : Uuid)
  | findByUserIdAndDefault (userId : Uuid)
  | findById (id : Uuid)
  | create (input : CreateWorkspaceInput)

@[reducible] def WorkspaceCall.Reply : WorkspaceCall → Type
  | .findAll | .findByUserId _ => List Workspace
  | .findByUserIdAndDefault _ | .findById _ => Option Workspace
  | .create _ => Workspace

def WorkspaceCall.run : (c : WorkspaceCall) → Atomic c.Reply
  | .findAll => prismaWorkspaces.findAll
  | .findByUserId userId => prismaWorkspaces.findByUserId userId
  | .findByUserIdAndDefault userId => prismaWorkspaces.findByUserIdAndDefault userId
  | .findById id => prismaWorkspaces.findById id
  | .create input => prismaWorkspaces.create input

inductive FolderCall where
  | findAll
  | countByWorkspaceIds (workspaceIds : List Uuid)
  | findByWorkspaceIds (workspaceIds : List Uuid)
  | findByWorkspaceIdAndDefault (workspaceId : Uuid)
  | findById (id : Uuid)
  | create (input : CreateFolderInput)
  | rename (id workspaceId : Uuid) (input : RenameFolderInput)

@[reducible] def FolderCall.Reply : FolderCall → Type
  | .countByWorkspaceIds _ => List Count
  | .findAll | .findByWorkspaceIds _ => List Folder
  | .findByWorkspaceIdAndDefault _ | .findById _ => Option Folder
  | .create _ | .rename .. => Folder

def FolderCall.run : (c : FolderCall) → Atomic c.Reply
  | .findAll => prismaFolders.findAll
  | .countByWorkspaceIds workspaceIds => prismaFolders.countByWorkspaceIds workspaceIds
  | .findByWorkspaceIds workspaceIds => prismaFolders.findByWorkspaceIds workspaceIds
  | .findByWorkspaceIdAndDefault workspaceId => prismaFolders.findByWorkspaceIdAndDefault workspaceId
  | .findById id => prismaFolders.findById id
  | .create input => prismaFolders.create input
  | .rename id workspaceId input => prismaFolders.rename id workspaceId input

inductive WorkflowCall where
  | findAll
  | countByWorkspaceIds (workspaceIds : List Uuid)
  | countByFolderIds (folderIds : List Uuid)
  | findByWorkspaceIds (workspaceIds : List Uuid)
  | findByFolderId (folderId : Uuid)
  | create (input : CreateWorkflowInput)
  | update (id folderId : Uuid) (input : UpdateWorkflowInput)
  | delete (id folderId : Uuid)

@[reducible] def WorkflowCall.Reply : WorkflowCall → Type
  | .countByWorkspaceIds _ | .countByFolderIds _ => List Count
  | .findAll | .findByWorkspaceIds _ | .findByFolderId _ => List Workflow
  | .create _ | .update .. => Workflow
  | .delete .. => Unit

def WorkflowCall.run : (c : WorkflowCall) → Atomic c.Reply
  | .findAll => prismaWorkflows.findAll
  | .countByWorkspaceIds workspaceIds => prismaWorkflows.countByWorkspaceIds workspaceIds
  | .countByFolderIds folderIds => prismaWorkflows.countByFolderIds folderIds
  | .findByWorkspaceIds workspaceIds => prismaWorkflows.findByWorkspaceIds workspaceIds
  | .findByFolderId folderId => prismaWorkflows.findByFolderId folderId
  | .create input => prismaWorkflows.create input
  | .update id folderId input => prismaWorkflows.update id folderId input
  | .delete id folderId => prismaWorkflows.delete id folderId

inductive VariableCall where
  | findAll
  | countByWorkspaceIds (workspaceIds : List Uuid)
  | countByFolderIds (folderIds : List Uuid)
  | findByWorkspaceId (workspaceId : Uuid)
  | findByFolderId (folderId : Uuid)
  | create (input : CreateVariableInput)
  | update (id folderId : Uuid) (input : UpdateVariableInput)
  | delete (id folderId : Uuid)

@[reducible] def VariableCall.Reply : VariableCall → Type
  | .countByWorkspaceIds _ | .countByFolderIds _ => List Count
  | .findAll | .findByWorkspaceId _ | .findByFolderId _ => List Variable
  | .create _ | .update .. => Variable
  | .delete .. => Unit

def VariableCall.run : (c : VariableCall) → Atomic c.Reply
  | .findAll => prismaVariables.findAll
  | .countByWorkspaceIds workspaceIds => prismaVariables.countByWorkspaceIds workspaceIds
  | .countByFolderIds folderIds => prismaVariables.countByFolderIds folderIds
  | .findByWorkspaceId workspaceId => prismaVariables.findByWorkspaceId workspaceId
  | .findByFolderId folderId => prismaVariables.findByFolderId folderId
  | .create input => prismaVariables.create input
  | .update id folderId input => prismaVariables.update id folderId input
  | .delete id folderId => prismaVariables.delete id folderId

inductive ConnectionCall where
  | findAll
  | countByWorkspaceIds (workspaceIds : List Uuid)
  | countByFolderIds (folderIds : List Uuid)
  | findByWorkspaceId (workspaceId : Uuid)
  | findByFolderId (folderId : Uuid)
  | create (input : CreateConnectionInput)
  | update (id folderId : Uuid) (input : UpdateConnectionInput)
  | delete (id folderId : Uuid)

@[reducible] def ConnectionCall.Reply : ConnectionCall → Type
  | .countByWorkspaceIds _ | .countByFolderIds _ => List Count
  | .findAll | .findByWorkspaceId _ | .findByFolderId _ => List Connection
  | .create _ | .update .. => Connection
  | .delete .. => Unit

def ConnectionCall.run : (c : ConnectionCall) → Atomic c.Reply
  | .findAll => prismaConnections.findAll
  | .countByWorkspaceIds workspaceIds => prismaConnections.countByWorkspaceIds workspaceIds
  | .countByFolderIds folderIds => prismaConnections.countByFolderIds folderIds
  | .findByWorkspaceId workspaceId => prismaConnections.findByWorkspaceId workspaceId
  | .findByFolderId folderId => prismaConnections.findByFolderId folderId
  | .create input => prismaConnections.create input
  | .update id folderId input => prismaConnections.update id folderId input
  | .delete id folderId => prismaConnections.delete id folderId

inductive RepositoryCall where
  | workspaces (c : WorkspaceCall)
  | folders (c : FolderCall)
  | workflows (c : WorkflowCall)
  | «variables» (c : VariableCall)
  | connections (c : ConnectionCall)

@[reducible] def RepositoryCall.Reply : RepositoryCall → Type
  | .workspaces c => c.Reply
  | .folders c => c.Reply
  | .workflows c => c.Reply
  | .variables c => c.Reply
  | .connections c => c.Reply

def RepositoryCall.run : (c : RepositoryCall) → Atomic c.Reply
  | .workspaces c => c.run
  | .folders c => c.run
  | .workflows c => c.run
  | .variables c => c.run
  | .connections c => c.run

abbrev repositories : Interface where
  Call := RepositoryCall
  Reply := RepositoryCall.Reply

abbrev Client (α : Type) := Program repositories Failure α

def ask (c : RepositoryCall) : Client c.Reply :=
  Program.perform (I := repositories) c

def workspaceRepository : WorkspaceRepositoryPort Client where
  findAll := ask (.workspaces .findAll)
  findByUserId userId := ask (.workspaces (.findByUserId userId))
  findByUserIdAndDefault userId := ask (.workspaces (.findByUserIdAndDefault userId))
  findById id := ask (.workspaces (.findById id))
  create input := ask (.workspaces (.create input))

def folderRepository : FolderRepositoryPort Client where
  findAll := ask (.folders .findAll)
  countByWorkspaceIds workspaceIds := ask (.folders (.countByWorkspaceIds workspaceIds))
  findByWorkspaceIds workspaceIds := ask (.folders (.findByWorkspaceIds workspaceIds))
  findByWorkspaceIdAndDefault workspaceId := ask (.folders (.findByWorkspaceIdAndDefault workspaceId))
  findById id := ask (.folders (.findById id))
  create input := ask (.folders (.create input))
  rename id workspaceId input := ask (.folders (.rename id workspaceId input))

def workflowRepository : WorkflowRepositoryPort Client where
  findAll := ask (.workflows .findAll)
  countByWorkspaceIds workspaceIds := ask (.workflows (.countByWorkspaceIds workspaceIds))
  countByFolderIds folderIds := ask (.workflows (.countByFolderIds folderIds))
  findByWorkspaceIds workspaceIds := ask (.workflows (.findByWorkspaceIds workspaceIds))
  findByFolderId folderId := ask (.workflows (.findByFolderId folderId))
  create input := ask (.workflows (.create input))
  update id folderId input := ask (.workflows (.update id folderId input))
  delete id folderId := ask (.workflows (.delete id folderId))

def variableRepository : VariableRepositoryPort Client where
  findAll := ask (.variables .findAll)
  countByWorkspaceIds workspaceIds := ask (.variables (.countByWorkspaceIds workspaceIds))
  countByFolderIds folderIds := ask (.variables (.countByFolderIds folderIds))
  findByWorkspaceId workspaceId := ask (.variables (.findByWorkspaceId workspaceId))
  findByFolderId folderId := ask (.variables (.findByFolderId folderId))
  create input := ask (.variables (.create input))
  update id folderId input := ask (.variables (.update id folderId input))
  delete id folderId := ask (.variables (.delete id folderId))

def connectionRepository : ConnectionRepositoryPort Client where
  findAll := ask (.connections .findAll)
  countByWorkspaceIds workspaceIds := ask (.connections (.countByWorkspaceIds workspaceIds))
  countByFolderIds folderIds := ask (.connections (.countByFolderIds folderIds))
  findByWorkspaceId workspaceId := ask (.connections (.findByWorkspaceId workspaceId))
  findByFolderId folderId := ask (.connections (.findByFolderId folderId))
  create input := ask (.connections (.create input))
  update id folderId input := ask (.connections (.update id folderId input))
  delete id folderId := ask (.connections (.delete id folderId))

def clientRepositories : Repositories Client where
  workspaces := workspaceRepository
  folders := folderRepository
  workflows := workflowRepository
  «variables» := variableRepository
  connections := connectionRepository

structure Command where
  userId : Uuid
  operation : Operation

section

variable (nfkd : String → String)

/-- A call may also fail as the driver fails, or for a reference from a table that is left
out here. -/
abbrev service : System where
  interface := repositories
  Failure := Failure
  Fault := Failure
  raise := id
  Outcome := Outcome
  Command := Command
  Store := Tables
  Input := Date
  body command := perform clientRepositories nfkd command.userId command.operation
  answer now c tables := some (c.run now tables)

end

end TenantOS.Tenancy
