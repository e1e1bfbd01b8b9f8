import TenantOS.Workspaces.ColumnFit
import TenantOS.Application.WorkspaceOperations

/-! The bodies as the types of the service see them: what `WorkspaceService` calls its
repositories with is what is handed on, as long as no update holds a null. -/
namespace TenantOS.Workspaces

open TenantOS.Domain TenantOS.Modules TenantOS.Application

def stringOf : Option Json → Option String
  | some (.string text) => some text
  | _ => none

def objectOf : Option Json → Option JsonObject
  | some (.object fields) => some fields
  | _ => none

section

variable (input : Input)

def workspaceRequest : CreateWorkspaceRequest where
  name := textOf (input "name")
  slug := stringOf (input "slug")
  description := stringOf (input "description")
  settings := objectOf (input "settings")

def folderRequest : CreateFolderRequest where
  name := textOf (input "name")
  slug := stringOf (input "slug")
  description := stringOf (input "description")

def workflowRequest : CreateWorkflowRequest where
  name := textOf (input "name")
  slug := stringOf (input "slug")
  description := stringOf (input "description")
  settings := objectOf (input "settings")
  metadata := objectOf (input "metadata")

def workflowChanges : UpdateWorkflowRequest where
  name := stringOf (input "name")
  slug := stringOf (input "slug")
  description := stringOf (input "description")
  settings := objectOf (input "settings")
  metadata := objectOf (input "metadata")

def credentialChanges : UpdateCredentialRequest where
  name := stringOf (input "name")
  type := stringOf (input "type")
  provider := stringOf (input "provider")
  credentials := objectOf (input "credentials")
  metadata := objectOf (input "metadata")

end

/-! The inputs of the repositories, field by field. -/

def nullable (value : Option String) : Json :=
  (value.map .string).getD .null

def workspaceEntries (written : CreateWorkspaceInput) : List (String × Option Json) :=
  [("id", some (.string written.id)), ("userId", some (.string written.userId)),
    ("name", some (.string written.name)), ("slug", some (.string written.slug)),
    ("description", some (nullable written.description)),
    ("settings", some (.object written.settings)),
    ("defaultFolderId", some (.string written.defaultFolderId))]

def folderEntries (written : CreateFolderInput) : List (String × Option Json) :=
  [("id", some (.string written.id)), ("workspaceId", some (.string written.workspaceId)),
    ("name", some (.string written.name)), ("slug", some (.string written.slug)),
    ("description", some (nullable written.description))]

def workflowEntries (written : CreateWorkflowInput) : List (String × Option Json) :=
  [("id", some (.string written.id)),
    ("initialVersionId", some (.string written.initialVersionId)),
    ("workspaceId", some (.string written.workspaceId)),
    ("folderId", some (.string written.folderId)), ("name", some (.string written.name)),
    ("slug", some (.string written.slug)), ("description", some (nullable written.description)),
    ("createdBy", some (nullable written.createdBy)),
    ("settings", some (.object written.settings)), ("metadata", some (.object written.metadata))]

/-- A field that is absent is not there at all. -/
def present {α : Type} (name : String) (json : α → Json) (value : Option α) :
    List (String × Option Json) :=
  (value.map fun given => (name, some (json given))).toList

def workflowChangeEntries (written : UpdateWorkflowInput) : List (String × Option Json) :=
  present "name" .string written.name ++ present "slug" .string written.slug ++
    present "description" nullable written.description ++
    present "settings" .object written.settings ++ present "metadata" .object written.metadata

def credentialChangeEntries (written : UpdateConnectionInput) : List (String × Option Json) :=
  present "name" .string written.name ++ present "type" .string written.type ++
    present "provider" .string written.provider ++
    present "credentials" .object written.credentials ++
    present "metadata" .object written.metadata

/-! A property whose decorators ask for a string, or for an object, is one or is missing. -/

section

/-- The DTO has a property of the name with the decorator. -/
def Declares (dto : Dto) (name : String) (check : Check) : Bool :=
  dto.any fun property => property.name = name && property.checks.contains check

variable {validator : Validator} {dto : Dto} {body : JsonObject} {name : String}

theorem passes_of_declares {check : Check} (declares : Declares dto name check = true)
    (accepted : dto.accepts validator body = true) :
    Property.isNil (dto.toInstance body name) = true ∨
      check.passes validator (dto.toInstance body name) = true := by
  obtain ⟨property, mem, both⟩ := List.any_eq_true.mp declares
  simp only [Bool.and_eq_true, decide_eq_true_eq, List.contains_iff_mem] at both
  obtain ⟨rfl, checked⟩ := both
  rcases accepts_cases (accepts_property accepted mem) with ⟨-, nil⟩ | passed
  · exact .inl nil
  · exact .inr (passed _ checked)

theorem string_of_declares (name : String) (declares : Declares dto name .isString = true)
    (accepted : dto.accepts validator body = true) :
    Property.isNil (dto.toInstance body name) = true ∨
      ∃ text, dto.toInstance body name = some (.string text) :=
  (passes_of_declares declares accepted).imp_right text_of_isString

theorem object_of_declares (name : String) (declares : Declares dto name .isObject = true)
    (accepted : dto.accepts validator body = true) :
    Property.isNil (dto.toInstance body name) = true ∨
      ∃ fields, dto.toInstance body name = some (.object fields) :=
  (passes_of_declares declares accepted).imp_right fields_of_isObject

end

section

variable {value : Option Json}

theorem isNil_cases (nil : Property.isNil value = true) : value = none ∨ value = some .null := by
  cases value with
  | none => exact .inl rfl
  | some given => exact .inr (congrArg some (isNil_some nil))

theorem orElse_string {fallback : String}
    (shape : Property.isNil value = true ∨ ∃ text, value = some (.string text)) :
    orElse value (.string fallback) = .string ((stringOf value).getD fallback) := by
  rcases shape with nil | ⟨text, rfl⟩
  · rcases isNil_cases nil with rfl | rfl <;> rfl
  · rfl

theorem orElse_null
    (shape : Property.isNil value = true ∨ ∃ text, value = some (.string text)) :
    orElse value .null = nullable (stringOf value) := by
  rcases shape with nil | ⟨text, rfl⟩
  · rcases isNil_cases nil with rfl | rfl <;> rfl
  · rfl

theorem orElse_object
    (shape : Property.isNil value = true ∨ ∃ fields, value = some (.object fields)) :
    orElse value (.object []) = .object ((objectOf value).getD []) := by
  rcases shape with nil | ⟨fields, rfl⟩
  · rcases isNil_cases nil with rfl | rfl <;> rfl
  · rfl

end

section

variable {input : Input} {name : String}

theorem spread_string (notNull : input name ≠ some .null)
    (shape : Property.isNil (input name) = true ∨ ∃ text, input name = some (.string text)) :
    spread input name = present name .string (stringOf (input name)) := by
  rcases shape with nil | ⟨text, given⟩
  · have absent := (isNil_cases nil).resolve_right notNull
    simp [spread, present, stringOf, absent]
  · simp [spread, present, stringOf, given]

theorem spread_object (notNull : input name ≠ some .null)
    (shape : Property.isNil (input name) = true ∨ ∃ fields, input name = some (.object fields)) :
    spread input name = present name .object (objectOf (input name)) := by
  rcases shape with nil | ⟨fields, given⟩
  · have absent := (isNil_cases nil).resolve_right notNull
    simp [spread, present, objectOf, absent]
  · simp [spread, present, objectOf, given]

end

/-! What the service calls its repositories with. -/

section

variable {m : Type → Type} {repositories : Repositories m}
  {validator : Validator} {nfkd : String → String} {ids : Ids} {body : JsonObject}

theorem createWorkspace_hands (accepted : createWorkspaceDto.accepts validator body = true) :
    ∃ written,
      WorkspaceService.createWorkspace repositories.workspaces nfkd ids.id ids.second ids.userId
          (workspaceRequest (createWorkspaceDto.toInstance body)) =
        repositories.workspaces.create written ∧
      workspaceEntries written =
        handed nfkd ids (createWorkspaceDto.toInstance body) .createWorkspace := by
  refine ⟨_, rfl, ?_⟩
  obtain ⟨name, named, -⟩ := creation_createWorkspace.named accepted
  simp only [Endpoint.dto] at named
  simp only [workspaceEntries, workspaceRequest, handed, slugOrDerived, named, textOf,
    orElse_string (string_of_declares "slug" (by decide) accepted),
    orElse_null (string_of_declares "description" (by decide) accepted),
    orElse_object (object_of_declares "settings" (by decide) accepted)]

variable [Monad m] [MonadExceptOf Failure m]

theorem createFolder_hands (accepted : createFolderDto.accepts validator body = true) :
    ∃ written,
      WorkspaceService.createFolder repositories.workspaces repositories.folders nfkd ids.id
          ids.workspaceId ids.userId (folderRequest (createFolderDto.toInstance body)) =
        (do
          WorkspaceService.assertOwned repositories.workspaces ids.workspaceId ids.userId
          repositories.folders.create written) ∧
      folderEntries written =
        handed nfkd ids (createFolderDto.toInstance body) .createFolder := by
  refine ⟨_, rfl, ?_⟩
  obtain ⟨name, named, -⟩ := creation_createFolder.named accepted
  simp only [Endpoint.dto] at named
  simp only [folderEntries, folderRequest, handed, slugOrDerived, named, textOf,
    orElse_string (string_of_declares "slug" (by decide) accepted),
    orElse_null (string_of_declares "description" (by decide) accepted)]

theorem createWorkflow_hands (accepted : createWorkflowDto.accepts validator body = true) :
    ∃ written,
      WorkspaceService.createWorkflow repositories.workspaces repositories.folders
          repositories.workflows nfkd ids.id ids.second ids.workspaceId ids.folderId ids.userId
          (workflowRequest (createWorkflowDto.toInstance body)) =
        (do
          WorkspaceService.assertFolder repositories.workspaces repositories.folders
            ids.workspaceId ids.folderId ids.userId
          repositories.workflows.create written) ∧
      workflowEntries written =
        handed nfkd ids (createWorkflowDto.toInstance body) .createWorkflow := by
  refine ⟨_, rfl, ?_⟩
  obtain ⟨name, named, -⟩ := creation_createWorkflow.named accepted
  simp only [Endpoint.dto] at named
  simp only [workflowEntries, workflowRequest, handed, slugOrDerived, named, textOf, nullable,
    Option.map_some, Option.getD_some,
    orElse_string (string_of_declares "slug" (by decide) accepted),
    orElse_null (string_of_declares "description" (by decide) accepted),
    orElse_object (object_of_declares "settings" (by decide) accepted),
    orElse_object (object_of_declares "metadata" (by decide) accepted)]

/-- No property of the body is null. -/
def NullFree (input : Input) : Prop :=
  ∀ name, input name ≠ some .null

theorem updateWorkflow_hands {workflowId : Uuid}
    (accepted : updateWorkflowDto.accepts validator body = true)
    (nullFree : NullFree (updateWorkflowDto.toInstance body)) :
    ∃ written,
      WorkspaceService.updateWorkflow repositories.workspaces repositories.folders
          repositories.workflows ids.workspaceId ids.folderId workflowId ids.userId
          (workflowChanges (updateWorkflowDto.toInstance body)) =
        (do
          WorkspaceService.assertFolder repositories.workspaces repositories.folders
            ids.workspaceId ids.folderId ids.userId
          repositories.workflows.update workflowId ids.folderId written) ∧
      workflowChangeEntries written =
        handed nfkd ids (updateWorkflowDto.toInstance body) .updateWorkflow := by
  refine ⟨_, rfl, ?_⟩
  simp only [workflowChangeEntries, workflowChanges, handed,
    spread_string (nullFree _) (string_of_declares "name" (by decide) accepted),
    spread_string (nullFree _) (string_of_declares "slug" (by decide) accepted),
    spread_string (nullFree _) (string_of_declares "description" (by decide) accepted),
    spread_object (nullFree _) (object_of_declares "settings" (by decide) accepted),
    spread_object (nullFree _) (object_of_declares "metadata" (by decide) accepted)]
  cases stringOf (updateWorkflowDto.toInstance body "description") <;> rfl

theorem updateCredential_hands {credentialId : Uuid}
    (accepted : updateCredentialDto.accepts validator body = true)
    (nullFree : NullFree (updateCredentialDto.toInstance body)) :
    ∃ written,
      WorkspaceService.updateCredential repositories.workspaces repositories.folders
          repositories.connections ids.workspaceId ids.folderId credentialId ids.userId
          (credentialChanges (updateCredentialDto.toInstance body)) =
        (do
          WorkspaceService.assertFolder repositories.workspaces repositories.folders
            ids.workspaceId ids.folderId ids.userId
          repositories.connections.update credentialId ids.folderId written) ∧
      credentialChangeEntries written =
        handed nfkd ids (updateCredentialDto.toInstance body) .updateCredential := by
  refine ⟨_, rfl, ?_⟩
  simp only [credentialChangeEntries, credentialChanges, handed,
    spread_string (nullFree _) (string_of_declares "name" (by decide) accepted),
    spread_string (nullFree _) (string_of_declares "type" (by decide) accepted),
    spread_string (nullFree _) (string_of_declares "provider" (by decide) accepted),
    spread_object (nullFree _) (object_of_declares "credentials" (by decide) accepted),
    spread_object (nullFree _) (object_of_declares "metadata" (by decide) accepted)]

end

end TenantOS.Workspaces
