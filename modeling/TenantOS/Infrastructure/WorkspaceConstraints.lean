import TenantOS.Infrastructure.WorkspaceRepositories
import TenantOS.Relational.Rejection

/-! The constraints the schema declares on what the workspace repositories write, with the
tables that refer to a workflow and do not go with it: the statements these constraints
reject, and what the repositories make of a rejection. -/
namespace TenantOS.Infrastructure

open TenantOS.Domain TenantOS.Relational

/-! The rows that refer to workflows and versions, by their keys. Triggers, webhooks,
schedules, queued runs and edges are left out: they go with their workflow. -/

structure WorkflowNodeRow where
  id : Uuid
  workflowVersionId : Uuid
deriving DecidableEq, Repr

structure WorkflowExecutionRow where
  id : Uuid
  workflowId : Uuid
deriving DecidableEq, Repr

structure ExecutionStepRow where
  id : Uuid
  executionId : Uuid
  nodeId : Uuid
  parentStepId : Option Uuid
deriving DecidableEq, Repr

structure StoredTables extends Tables where
  workflowNodes : List WorkflowNodeRow
  workflowExecutions : List WorkflowExecutionRow
  executionSteps : List ExecutionStepRow

/-- Every foreign key refers to a row. -/
structure References (db : StoredTables) : Prop where
  folderWorkspace : ∀ row ∈ db.folders, ∃ owner ∈ db.workspaces, owner.id = row.workspaceId
  workflowWorkspace : ∀ row ∈ db.workflows, ∃ owner ∈ db.workspaces, owner.id = row.workspaceId
  workflowFolder : ∀ row ∈ db.workflows, ∀ folderId, row.folderId = some folderId →
    ∃ folder ∈ db.folders, folder.id = folderId
  workflowVersion : ∀ row ∈ db.workflows, ∀ versionId, row.currentVersionId = some versionId →
    ∃ version ∈ db.workflowVersions, version.id = versionId
  versionWorkflow : ∀ row ∈ db.workflowVersions, ∃ owner ∈ db.workflows, owner.id = row.workflowId
  variableWorkspace : ∀ row ∈ db.variables, ∃ owner ∈ db.workspaces, owner.id = row.workspaceId
  variableFolder : ∀ row ∈ db.variables, ∃ folder ∈ db.folders, folder.id = row.folderId
  connectionWorkspace : ∀ row ∈ db.connections, ∃ owner ∈ db.workspaces,
    owner.id = row.workspaceId
  connectionFolder : ∀ row ∈ db.connections, ∃ folder ∈ db.folders, folder.id = row.folderId
  nodeVersion : ∀ row ∈ db.workflowNodes, ∃ version ∈ db.workflowVersions,
    version.id = row.workflowVersionId
  executionWorkflow : ∀ row ∈ db.workflowExecutions, ∃ owner ∈ db.workflows,
    owner.id = row.workflowId
  stepExecution : ∀ row ∈ db.executionSteps, ∃ execution ∈ db.workflowExecutions,
    execution.id = row.executionId
  stepNode : ∀ row ∈ db.executionSteps, ∃ node ∈ db.workflowNodes, node.id = row.nodeId
  stepParent : ∀ row ∈ db.executionSteps, ∀ parentId, row.parentStepId = some parentId →
    ∃ parent ∈ db.executionSteps, parent.id = parentId

/-- The constraints of the schema hold. -/
structure Consistent (db : StoredTables) : Prop where
  workspaces : Distinct workspacesClash db.workspaces
  folders : Distinct foldersClash db.folders
  workflows : Distinct workflowsClash db.workflows
  workflowVersions : Distinct workflowVersionsClash db.workflowVersions
  «variables» : Distinct variablesClash db.variables
  connections : Distinct connectionsClash db.connections
  workflowNodes : UniqueKey (·.id) db.workflowNodes
  workflowExecutions : UniqueKey (·.id) db.workflowExecutions
  executionSteps : UniqueKey (·.id) db.executionSteps
  references : References db

/-- A deletion takes the versions of the workflow with it, and their nodes. -/
def cascade (id : Uuid) (db : StoredTables) : StoredTables :=
  { db with
    workflows := deleteMany (fun row => row.id = id) db.workflows
    workflowVersions := deleteMany (fun version => version.workflowId = id) db.workflowVersions
    workflowNodes := deleteMany (fun node => db.workflowVersions.any fun version =>
      version.id = node.workflowVersionId && version.workflowId = id) db.workflowNodes }

/-! The calls that write. -/

inductive WriteCall where
  | createWorkspace (input : CreateWorkspaceInput)
  | createFolder (input : CreateFolderInput)
  | renameFolder (id workspaceId : Uuid) (input : RenameFolderInput)
  | createWorkflow (input : CreateWorkflowInput)
  | updateWorkflow (id folderId : Uuid) (input : UpdateWorkflowInput)
  | deleteWorkflow (id folderId : Uuid)
  | createVariable (input : CreateVariableInput)
  | updateVariable (id folderId : Uuid) (input : UpdateVariableInput)
  | deleteVariable (id folderId : Uuid)
  | createConnection (input : CreateConnectionInput)
  | updateConnection (id folderId : Uuid) (input : UpdateConnectionInput)
  | deleteConnection (id folderId : Uuid)

namespace WriteCall

/-- What the `catch` of the call throws. -/
def translate : WriteCall → Failure → Failure
  | createWorkspace input => PrismaWorkspaceRepository.createFailure input.slug
  | createFolder input => PrismaFolderRepository.createFailure input
  | renameFolder id _ input => PrismaFolderRepository.renameFailure id input.name
  | createWorkflow input => PrismaWorkflowRepository.createFailure input.slug
  | updateWorkflow id _ input => PrismaWorkflowRepository.updateFailure id input
  | deleteWorkflow id _ => PrismaWorkflowRepository.deleteFailure id
  | createVariable input => PrismaVariableRepository.createFailure input.name
  | updateVariable id _ input => PrismaVariableRepository.updateFailure id input
  | deleteVariable id _ => PrismaVariableRepository.deleteFailure id
  | createConnection input => PrismaConnectionRepository.createFailure input.name
  | updateConnection id _ input => PrismaConnectionRepository.updateFailure id input
  | deleteConnection id _ => PrismaConnectionRepository.deleteFailure id

/-- What a statement of the call can be rejected for. The second insert of a transaction
is made when the first one was let through. -/
def Rejected (now : Date) (db : StoredTables) : WriteCall → Violation → Prop
  | createWorkspace input, violation =>
      InsertRejects workspacesClash True (insertedWorkspace input now) db.workspaces violation ∨
        (∀ other ∈ db.workspaces, workspacesClash (insertedWorkspace input now) other = none) ∧
          InsertRejects foldersClash True (insertedDefaultFolder input.defaultFolderId input.id now)
            db.folders violation
  | createFolder input, violation =>
      InsertRejects foldersClash (hasWorkspace db.toTables input.workspaceId = true)
        (insertedFolder input now) db.folders violation
  | renameFolder id workspaceId input, violation =>
      UpdateRejects foldersClash (·.id) (inWorkspace id workspaceId) (renamedFolder input now)
        db.folders violation
  | createWorkflow input, violation =>
      InsertRejects workflowsClash
          (hasWorkspace db.toTables input.workspaceId = true ∧
            hasFolder db.toTables input.folderId = true)
          (insertedWorkflow input now) db.workflows violation ∨
        (∀ other ∈ db.workflows, workflowsClash (insertedWorkflow input now) other = none) ∧
          (hasWorkspace db.toTables input.workspaceId = true ∧
            hasFolder db.toTables input.folderId = true) ∧
          InsertRejects workflowVersionsClash True (insertedVersion input now) db.workflowVersions
            violation
  | updateWorkflow id folderId input, violation =>
      UpdateRejects workflowsClash (·.id) (PrismaWorkflowRepository.inFolder id folderId)
        (updatedWorkflow input now) db.workflows violation
  | deleteWorkflow id folderId, violation =>
      DeleteRejects (¬ References (cascade id db)) (PrismaWorkflowRepository.inFolder id folderId)
        db.workflows violation
  | createVariable input, violation =>
      InsertRejects variablesClash
        (hasWorkspace db.toTables input.workspaceId = true ∧
          hasFolder db.toTables input.folderId = true)
        (insertedVariable input now) db.variables violation
  | updateVariable id folderId input, violation =>
      UpdateRejects variablesClash (·.id) (PrismaVariableRepository.inFolder id folderId)
        (updatedVariable input) db.variables violation
  | deleteVariable id folderId, violation =>
      DeleteRejects False (PrismaVariableRepository.inFolder id folderId) db.variables violation
  | createConnection input, violation =>
      InsertRejects connectionsClash
        (hasWorkspace db.toTables input.workspaceId = true ∧
          hasFolder db.toTables input.folderId = true)
        (insertedConnection input now) db.connections violation
  | updateConnection id folderId input, violation =>
      UpdateRejects connectionsClash (·.id) (PrismaConnectionRepository.inFolder id folderId)
        (updatedConnection input now) db.connections violation
  | deleteConnection id folderId, violation =>
      DeleteRejects False (PrismaConnectionRepository.inFolder id folderId) db.connections violation

end WriteCall

/-- How the driver reports a violation. -/
def reported : Violation → Failure
  | .unique columns => uniqueViolation columns
  | .foreignKey => foreignKeyViolation
  | .noRow => recordNotFound

/-- A rejected call throws, and its transaction leaves the tables as they were. -/
def rejectedBy (call : WriteCall) (violation : Violation) (db : StoredTables) :
    Failure × StoredTables :=
  (call.translate (reported violation), db)

end TenantOS.Infrastructure
