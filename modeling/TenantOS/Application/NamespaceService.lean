import TenantOS.Application.WorkspaceOperations

/-! `NamespaceService`: everything one user owns. -/
namespace TenantOS.Application

open TenantOS.Domain

structure Namespace where
  defaultWorkspace : Option Workspace
  defaultFolder : Option Folder
  workspaces : List Workspace
  folders : List Folder
  workflows : List Workflow

/-- The workspaces are read first because they are what defines the scope. -/
def NamespaceService.getForUser {m : Type → Type} [Monad m] (ports : Repositories m)
    (userId : Uuid) : m Namespace := do
  let defaultWorkspace ← ports.workspaces.findByUserIdAndDefault userId
  match defaultWorkspace with
  | none =>
    pure
      { workspaces := [], folders := [], workflows := []
        defaultWorkspace := none, defaultFolder := none }
  | some workspace =>
    let defaultFolder ← ports.folders.findByWorkspaceIdAndDefault workspace.id
    let workspaces ← ports.workspaces.findByUserId userId
    let workspaceIds := workspaces.map (·.id)
    let folders ← ports.folders.findByWorkspaceIds workspaceIds
    let workflows ← ports.workflows.findByWorkspaceIds workspaceIds
    pure { workspaces, folders, workflows, defaultWorkspace := some workspace, defaultFolder }

end TenantOS.Application
