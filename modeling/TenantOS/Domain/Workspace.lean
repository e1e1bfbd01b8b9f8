import TenantOS.Domain.Errors

/-! Workspaces and what lives in them. A folder belongs to a workspace; workflows,
variables and connections belong to a folder and repeat its workspace. -/
namespace TenantOS.Domain

/-- A `jsonb` value. Numbers are kept as they were written. -/
inductive Json where
  | null
  | bool (value : Bool)
  | number (literal : String)
  | string (value : String)
  | array (items : List Json)
  | object (fields : List (String × Json))

/-- `Record<string, unknown>` -/
abbrev JsonObject := List (String × Json)

def asJsonObject : Json → JsonObject
  | .object fields => fields
  | _ => []

@[simp] theorem asJsonObject_object (fields : JsonObject) :
    asJsonObject (.object fields) = fields := rfl

structure Workspace where
  id : Uuid
  userId : Uuid
  name : String
  slug : String
  description : Option String
  status : String
  isDefault : Bool
  settings : JsonObject
  createdAt : Date
  updatedAt : Date

structure Folder where
  id : Uuid
  workspaceId : Uuid
  name : String
  slug : String
  description : Option String
  position : Int
  isDefault : Bool
  createdAt : Date
  updatedAt : Date
deriving DecidableEq, Repr

structure WorkflowVersion where
  id : Uuid
  workflowId : Uuid
  version : Int
  status : String
  workflowJson : JsonObject
  changeSummary : Option String
  createdBy : Option Uuid
  publishedAt : Option Date
  createdAt : Date

structure Workflow where
  id : Uuid
  workspaceId : Uuid
  folderId : Option Uuid
  name : String
  slug : String
  description : Option String
  status : String
  active : Bool
  currentVersionId : Option Uuid
  createdBy : Option Uuid
  settings : JsonObject
  metadata : JsonObject
  createdAt : Date
  updatedAt : Date
  version : Option WorkflowVersion

structure Variable where
  id : Uuid
  workspaceId : Uuid
  folderId : Uuid
  name : String
  value : String
  encrypted : Bool
  createdAt : Date
  updatedAt : Date
deriving DecidableEq, Repr

structure Connection where
  id : Uuid
  workspaceId : Uuid
  folderId : Uuid
  name : String
  type : String
  provider : String
  credentials : JsonObject
  encrypted : Bool
  status : String
  metadata : JsonObject
  createdAt : Date
  updatedAt : Date

/-! Errors. Each echoes what the caller sent. -/

/-- One error for a missing workspace and for somebody else's. -/
def workspaceNotFoundError (workspaceId : Uuid) : DomainError where
  name := "WorkspaceNotFoundError"
  kind := .notFound
  code := .workspaceNotFound
  message := "Workspace not found"
  details := some [("workspaceId", .text workspaceId)]

def workspaceSlugTakenError (slug : String) : DomainError where
  name := "WorkspaceSlugTakenError"
  kind := .conflict
  code := .workspaceSlugTaken
  message := "A workspace with that slug already exists for this user"
  details := some [("slug", .text slug)]

def folderNotFoundError (folderId : Uuid) : DomainError where
  name := "FolderNotFoundError"
  kind := .notFound
  code := .folderNotFound
  message := "Folder not found in this workspace"
  details := some [("folderId", .text folderId)]

def folderNameTakenError (name : String) : DomainError where
  name := "FolderNameTakenError"
  kind := .conflict
  code := .folderNameTaken
  message := "A folder with that name already exists in this workspace"
  details := some [("name", .text name)]

def folderSlugTakenError (slug : String) : DomainError where
  name := "FolderSlugTakenError"
  kind := .conflict
  code := .folderSlugTaken
  message := "A folder with that slug already exists in this workspace"
  details := some [("slug", .text slug)]

def workflowSlugTakenError (slug : String) : DomainError where
  name := "WorkflowSlugTakenError"
  kind := .conflict
  code := .workflowSlugTaken
  message := "A workflow with that name already exists in this workspace"
  details := some [("slug", .text slug)]

def workflowNotFoundError (workflowId : Uuid) : DomainError where
  name := "WorkflowNotFoundError"
  kind := .notFound
  code := .workflowNotFound
  message := "Workflow not found in this folder"
  details := some [("workflowId", .text workflowId)]

def variableNameTakenError (name : String) : DomainError where
  name := "VariableNameTakenError"
  kind := .conflict
  code := .variableNameTaken
  message := "A variable with that name already exists in this workspace"
  details := some [("name", .text name)]

def variableNotFoundError (variableId : Uuid) : DomainError where
  name := "VariableNotFoundError"
  kind := .notFound
  code := .variableNotFound
  message := "Variable not found in this folder"
  details := some [("variableId", .text variableId)]

def credentialNameTakenError (name : String) : DomainError where
  name := "CredentialNameTakenError"
  kind := .conflict
  code := .credentialNameTaken
  message := "A credential with that name already exists in this workspace"
  details := some [("name", .text name)]

def credentialNotFoundError (credentialId : Uuid) : DomainError where
  name := "CredentialNotFoundError"
  kind := .notFound
  code := .credentialNotFound
  message := "Credential not found in this folder"
  details := some [("credentialId", .text credentialId)]

end TenantOS.Domain
