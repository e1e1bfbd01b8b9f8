import TenantOS.Tenancy.Operations

/-! What belongs to whom. Only workspaces have an owner: a folder is its workspace's
owner's, and what is in a folder repeats the folder's workspace. -/
namespace TenantOS.Tenancy

open TenantOS.Domain TenantOS.Infrastructure TenantOS.Relational

def ownerOf (tables : Tables) (workspaceId : Uuid) : Option Uuid :=
  (tables.workspaces.find? fun row => row.id = workspaceId).map (·.userId)

def Owned (tables : Tables) (userId workspaceId : Uuid) : Prop :=
  ownerOf tables workspaceId = some userId

def workspaceOf (tables : Tables) (folderId : Uuid) : Option Uuid :=
  (tables.folders.find? fun row => row.id = folderId).map (·.workspaceId)

section

variable {tables : Tables} {userId workspaceId folderId : Uuid}

/-- What the gate on workspaces compares. -/
theorem owned_of_filter {workspace : Workspace}
    (h : ((tables.workspaces.find? fun row => row.id = workspaceId).map toWorkspaceEntity).filter
      (fun workspace => workspace.userId = userId) = some workspace) :
    workspace.id = workspaceId ∧ Owned tables userId workspaceId := by
  obtain ⟨found, mine⟩ := Option.filter_eq_some_iff.mp h
  obtain ⟨row, hrow, rfl⟩ := Option.map_eq_some_iff.mp found
  have same : row.id = workspaceId := by simpa using List.find?_some hrow
  have owner : row.userId = userId := of_decide_eq_true mine
  exact ⟨same, by simp [Owned, ownerOf, hrow, owner]⟩

/-- What the gate on folders compares. -/
theorem placed_of_filter {folder : Folder}
    (h : ((tables.folders.find? fun row => row.id = folderId).map toFolderEntity).filter
      (fun folder => folder.workspaceId = workspaceId) = some folder) :
    workspaceOf tables folderId = some workspaceId := by
  obtain ⟨found, inside⟩ := Option.filter_eq_some_iff.mp h
  obtain ⟨row, hrow, rfl⟩ := Option.map_eq_some_iff.mp found
  have same : row.workspaceId = workspaceId := of_decide_eq_true inside
  simp [workspaceOf, hrow, same]

end

/-- The two foreign keys of a row agree. -/
structure Consistent (tables : Tables) : Prop where
  workflows : ∀ row ∈ tables.workflows, ∀ folderId, row.folderId = some folderId →
    workspaceOf tables folderId = some row.workspaceId
  «variables» : ∀ row ∈ tables.variables, workspaceOf tables row.folderId = some row.workspaceId
  connections : ∀ row ∈ tables.connections, workspaceOf tables row.folderId = some row.workspaceId

/-- No row of any other workspace is inserted, changed or deleted. A version is of the
workspace of its workflow. -/
structure Confined (mine : Uuid → Prop) (before after : Tables) : Prop where
  workspaces : SameOutside (fun row => mine row.id) before.workspaces after.workspaces
  folders : SameOutside (fun row => mine row.workspaceId) before.folders after.folders
  workflows : SameOutside (fun row => mine row.workspaceId) before.workflows after.workflows
  workflowVersions : SameOutside (fun row => ∃ workflow ∈ before.workflows ++ after.workflows,
      workflow.id = row.workflowId ∧ mine workflow.workspaceId)
    before.workflowVersions after.workflowVersions
  «variables» : SameOutside (fun row => mine row.workspaceId) before.variables after.variables
  connections : SameOutside (fun row => mine row.workspaceId) before.connections after.connections

/-- What a call on behalf of one user does to the tables. Owners are never changed and
folders never move. -/
structure Advance (userId : Uuid) (before after : Tables) : Prop where
  owned : ∀ {user workspaceId}, Owned before user workspaceId → Owned after user workspaceId
  placed : ∀ {folderId workspaceId}, workspaceOf before folderId = some workspaceId →
    workspaceOf after folderId = some workspaceId
  consistent : Consistent after
  confined : Confined (Owned after userId) before after

section

variable {userId workspaceId : Uuid} {before : Tables}

theorem Confined.refl {mine : Uuid → Prop} : Confined mine before before :=
  ⟨.refl, .refl, .refl, .refl, .refl, .refl⟩

theorem Advance.refl (userId : Uuid) (consistent : Consistent before) : Advance userId before before :=
  ⟨id, id, consistent, .refl⟩

/-- Folders that stay where they are keep what is in them consistent. -/
theorem Consistent.placed {after : Tables} (consistent : Consistent before)
    (placed : ∀ {folderId workspaceId}, workspaceOf before folderId = some workspaceId →
      workspaceOf after folderId = some workspaceId)
    (workflows : after.workflows = before.workflows)
    («variables» : after.variables = before.variables)
    (connections : after.connections = before.connections) : Consistent after := by
  refine ⟨?_, ?_, ?_⟩
  · rw [workflows]
    exact fun row hrow folderId inside => placed (consistent.workflows row hrow folderId inside)
  · rw [«variables»]
    exact fun row hrow => placed (consistent.variables row hrow)
  · rw [connections]
    exact fun row hrow => placed (consistent.connections row hrow)

theorem Advance.of_folders {folders : List FolderRow} (consistent : Consistent before)
    (placed : ∀ {folderId workspaceId}, workspaceOf before folderId = some workspaceId →
      workspaceOf { before with folders } folderId = some workspaceId)
    (confined : SameOutside (fun row => Owned before userId row.workspaceId) before.folders folders) :
    Advance userId before { before with folders } where
  owned := id
  placed := placed
  consistent := consistent.placed placed rfl rfl rfl
  confined := ⟨.refl, confined, .refl, .refl, .refl, .refl⟩

theorem Advance.of_workflows {workflows : List WorkflowRow}
    {workflowVersions : List WorkflowVersionRow} (consistent : Consistent before)
    (placed : ∀ row ∈ workflows, ∀ folderId, row.folderId = some folderId →
      workspaceOf before folderId = some row.workspaceId)
    (confined : SameOutside (fun row => Owned before userId row.workspaceId) before.workflows workflows)
    (versions : SameOutside (fun row => ∃ workflow ∈ before.workflows ++ workflows,
        workflow.id = row.workflowId ∧ Owned before userId workflow.workspaceId)
      before.workflowVersions workflowVersions) :
    Advance userId before { before with workflows, workflowVersions } where
  owned := id
  placed := id
  consistent := ⟨placed, consistent.variables, consistent.connections⟩
  confined := ⟨.refl, .refl, confined, versions, .refl, .refl⟩

theorem Advance.of_variables {rows : List VariableRow} (consistent : Consistent before)
    (placed : ∀ row ∈ rows, workspaceOf before row.folderId = some row.workspaceId)
    (confined : SameOutside (fun row => Owned before userId row.workspaceId) before.variables rows) :
    Advance userId before { before with «variables» := rows } where
  owned := id
  placed := id
  consistent := ⟨consistent.workflows, placed, consistent.connections⟩
  confined := ⟨.refl, .refl, .refl, .refl, confined, .refl⟩

theorem Advance.of_connections {rows : List ConnectionRow} (consistent : Consistent before)
    (placed : ∀ row ∈ rows, workspaceOf before row.folderId = some row.workspaceId)
    (confined : SameOutside (fun row => Owned before userId row.workspaceId) before.connections rows) :
    Advance userId before { before with connections := rows } where
  owned := id
  placed := id
  consistent := ⟨consistent.workflows, consistent.variables, placed⟩
  confined := ⟨.refl, .refl, .refl, .refl, .refl, confined⟩

end

end TenantOS.Tenancy
