import TenantOS.Shared.Uuid
import TenantOS.Workspaces.ColumnFit
import TenantOS.Workspaces.Namespaces

/-! A workflow and its version 1, inserted and linked in one transaction. The transaction
is all or nothing, but the workflow is created active, and what is returned is the row
before it was linked. -/
namespace TenantOS.Workspaces

open TenantOS.Domain TenantOS.Infrastructure TenantOS.Relational TenantOS.Application
open PrismaWorkflowRepository (createFailure findByFolderId linked)
open TenantOS.Tenancy (prismaRepositories emptyTables)

/-! The insert, with the types of its columns. -/

/-- What the database takes in a column of a type, its width aside: in a UUID's what reads as
one, and no text that it cannot store. -/
abbrev Takes := ColumnType → Json → Bool

section

variable (takes : Takes) (input : CreateWorkflowInput)

def workflowValues : List (String × Option Json) :=
  [("id", some (.string input.id)),
    ("workspaceId", some (.string input.workspaceId)),
    ("folderId", some (.string input.folderId)),
    ("name", some (.string input.name)),
    ("slug", some (.string input.slug)),
    ("description", input.description.map .string),
    ("createdBy", input.createdBy.map .string),
    ("settings", some (.object input.settings)),
    ("metadata", some (.object input.metadata))]

/-- The column that refers to the workflow has the type of its key. -/
def versionValues : List (String × Option Json) :=
  [("initialVersionId", some (.string input.initialVersionId)),
    ("id", some (.string input.id)),
    ("createdBy", input.createdBy.map .string)]

def stores (values : List (String × Option Json)) : Bool :=
  values.all fun entry => (Endpoint.createWorkflow.columns.lookup entry.1).any fun column =>
    column.holds entry.2 && entry.2.all (takes column.type)

/-- Every value has a column that takes it. -/
def Storable : Prop :=
  stores takes (workflowValues input) = true ∧ stores takes (versionValues input) = true

end

/-- A column or a constraint stands against the workflow: a value does not fit, there is no such
workspace or folder, its name is taken in the folder, or it has a version 1 before it is there. -/
def Refused (takes : Takes) (tables : Tables) (input : CreateWorkflowInput) : Prop :=
  ¬ Storable takes input ∨
  hasWorkspace tables input.workspaceId = false ∨ hasFolder tables input.folderId = false ∨
  (∃ row ∈ tables.workflows, row.workspaceId = input.workspaceId ∧
    row.folderId = some input.folderId ∧ row.name = input.name) ∨
  ∃ row ∈ tables.workflowVersions, row.workflowId = input.id ∧ row.version = 1

section

variable {takes : Takes} {tables : Tables} {input : CreateWorkflowInput} {now : Date}

def returned (input : CreateWorkflowInput) (now : Date) : Workflow :=
  toWorkflowWithRelationsEntity (insertedWorkflow input now) (some (insertedVersion input now))

end

/-! The first workflow of a workspace. -/

end TenantOS.Workspaces
