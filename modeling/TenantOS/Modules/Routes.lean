import TenantOS.Infrastructure.AppConfigService
import TenantOS.Http.PathMatch

/-! The routes of the controllers, and where the application mounts them. -/
namespace TenantOS.Modules
open Infrastructure.Config Http

inductive RequestMethod where
  | get | post | patch | delete
deriving DecidableEq, Repr

/-- The path is cut at its slashes. A segment `:name` is a parameter. -/
structure Handler where
  name : String
  method : RequestMethod
  path : List String
deriving DecidableEq, Repr

inductive Version where
  /-- The one version `enableVersioning` names. -/
  | «default»
  | neutral
deriving DecidableEq, Repr

structure Controller where
  name : String
  path : String
  version : Version := .default
  /-- What `@SkipThrottle` on the class names; no handler carries one of its own. -/
  skipThrottle : List String := []
  handlers : List Handler
deriving DecidableEq, Repr

/-- One handler, `@Get()`. -/
def listing (name path : String) : Controller where
  name := name
  path := path
  handlers := [⟨"listAll", .get, []⟩]

def authController : Controller where
  name := "AuthController"
  path := "auth"
  skipThrottle := ["default"]
  handlers := [
    ⟨"login", .post, ["login"]⟩,
    ⟨"refresh", .post, ["refresh"]⟩,
    ⟨"logout", .post, ["logout"]⟩,
    ⟨"logoutAll", .post, ["logout-all"]⟩,
    ⟨"changePassword", .post, ["change-password"]⟩,
    ⟨"sessions", .get, ["sessions"]⟩]

def workspaceController : Controller where
  name := "WorkspaceController"
  path := "workspaces"
  handlers := [
    ⟨"listAll", .get, []⟩,
    ⟨"createWorkspace", .post, []⟩,
    ⟨"getWorkspace", .get, [":workspaceId"]⟩,
    ⟨"listFolders", .get, [":workspaceId", "folders"]⟩,
    ⟨"createFolder", .post, [":workspaceId", "folders"]⟩,
    ⟨"renameFolder", .patch, [":workspaceId", "folders", ":folderId"]⟩,
    ⟨"getDefaultFolder", .get, [":workspaceId", "folders", "default"]⟩,
    ⟨"listFolderWorkflows", .get, [":workspaceId", "folders", ":folderId", "workflows"]⟩,
    ⟨"createWorkflow", .post, [":workspaceId", "folders", ":folderId", "workflows"]⟩,
    ⟨"updateWorkflow", .patch,
      [":workspaceId", "folders", ":folderId", "workflows", ":workflowId"]⟩,
    ⟨"deleteWorkflow", .delete,
      [":workspaceId", "folders", ":folderId", "workflows", ":workflowId"]⟩,
    ⟨"listFolderVariables", .get, [":workspaceId", "folders", ":folderId", "variables"]⟩,
    ⟨"createVariable", .post, [":workspaceId", "folders", ":folderId", "variables"]⟩,
    ⟨"updateVariable", .patch,
      [":workspaceId", "folders", ":folderId", "variables", ":variableId"]⟩,
    ⟨"deleteVariable", .delete,
      [":workspaceId", "folders", ":folderId", "variables", ":variableId"]⟩,
    ⟨"listFolderCredentials", .get, [":workspaceId", "folders", ":folderId", "credentials"]⟩,
    ⟨"createCredential", .post, [":workspaceId", "folders", ":folderId", "credentials"]⟩,
    ⟨"updateCredential", .patch,
      [":workspaceId", "folders", ":folderId", "credentials", ":credentialId"]⟩,
    ⟨"deleteCredential", .delete,
      [":workspaceId", "folders", ":folderId", "credentials", ":credentialId"]⟩]

def namespaceController : Controller where
  name := "NamespaceController"
  path := "namespaces"
  handlers := [⟨"get", .get, ["get"]⟩]

def nodeTypeController : Controller where
  name := "NodeTypeController"
  path := "node-types"
  handlers := [⟨"listAll", .get, []⟩, ⟨"getByName", .get, [":name"]⟩]

def healthController : Controller where
  name := "HealthController"
  path := "health"
  version := .neutral
  handlers := [
    ⟨"check", .get, []⟩,
    ⟨"liveness", .get, ["live"]⟩,
    ⟨"readiness", .get, ["ready"]⟩]

def metricsController : Controller where
  name := "MetricsController"
  path := ""
  version := .neutral
  handlers := [⟨"scrape", .get, ["metrics"]⟩]

def appController : Controller where
  name := "AppController"
  path := ""
  skipThrottle := ["auth"]
  handlers := [⟨"info", .get, []⟩]

def webhookController : Controller := listing "WebhookController" "webhooks"
def scheduleController : Controller := listing "ScheduleController" "schedules"
def workflowTriggerController : Controller :=
  listing "WorkflowTriggerController" "workflow-triggers"
def workflowNodeController : Controller := listing "WorkflowNodeController" "workflow-nodes"
def workflowVersionController : Controller :=
  listing "WorkflowVersionController" "workflow-versions"
def workflowEdgeController : Controller := listing "WorkflowEdgeController" "workflow-edges"
def workflowNodeSettingsController : Controller :=
  listing "WorkflowNodeSettingsController" "workflow-node-settings"
def workflowController : Controller := listing "WorkflowController" "workflows"
def variableController : Controller := listing "VariableController" "variables"
def connectionTypeController : Controller := listing "ConnectionTypeController" "connection-types"
def connectionController : Controller := listing "ConnectionController" "connections"
def workflowNodeConnectionController : Controller :=
  listing "WorkflowNodeConnectionController" "workflow-node-connections"
def folderController : Controller := listing "FolderController" "folders"
def executionStepController : Controller := listing "ExecutionStepController" "execution-steps"
def executionQueueItemController : Controller :=
  listing "ExecutionQueueItemController" "execution-queue"
def workflowExecutionController : Controller :=
  listing "WorkflowExecutionController" "workflow-executions"

/-- Every controller but that of authentication. -/
def otherControllers : List Controller := [
  workspaceController, namespaceController, nodeTypeController, healthController,
  metricsController, appController, webhookController, scheduleController,
  workflowTriggerController, workflowNodeController, workflowVersionController,
  workflowEdgeController, workflowNodeSettingsController, workflowController, variableController,
  connectionTypeController, connectionController, workflowNodeConnectionController,
  folderController, executionStepController, executionQueueItemController,
  workflowExecutionController]

def controllers : List Controller :=
  authController :: otherControllers

/-! Mounting. -/

/-- Slash-joined, empty parts dropped. -/
def joinParts (parts : List String) : String :=
  "/" ++ "/".intercalate (parts.filter fun part => part ≠ "")

/-- The `exclude` of `setGlobalPrefix`. -/
def excluded : List (RequestMethod × String) :=
  [(.get, "/health"), (.get, "/health/live"), (.get, "/health/ready"), (.get, "/metrics")]

section

variable (config : AppConfigService) (controller : Controller) (handler : Handler)

def versionSegment : String :=
  match controller.version with
  | .default => "v" ++ config.app.apiVersion
  | .neutral => ""

/-- A path of the handler, without the global prefix. -/
def versioned (path : List String) : List String :=
  versionSegment config controller :: controller.path :: path

def isExcluded : Prop :=
  (handler.method, joinParts (versioned config controller handler.path)) ∈ excluded

instance : Decidable (isExcluded config controller handler) :=
  inferInstanceAs (Decidable (_ ∈ excluded))

/-- Where a path of the handler is found. -/
def mountedAt (path : List String) : String :=
  if isExcluded config controller handler then joinParts (versioned config controller path)
  else joinParts (config.app.apiPrefix :: versioned config controller path)

def mountedPath : String :=
  mountedAt config controller handler handler.path

/-- The segments of a request for the handler: a parameter is whatever the client sends. -/
def fill (params : String → String) (path : List String) : List String :=
  path.map fun segment => if startsWith segment ":" then params segment else segment

def requestPath (params : String → String) : String :=
  mountedAt config controller handler (fill params handler.path)

/-- For the router these do not stand for themselves: they make a parameter, a wildcard, an
optional group, an escape. -/
def isPattern (path : String) : Bool :=
  path.toList.any [':', '*', '{', '}', '\\'].contains

/-- The URLs the router takes to the handler: the path in letters of either case, a slash at
its end or none, and a query. In the place of a prefix that is a pattern, any text is allowed. -/
def RoutesTo (url : String) : Prop :=
  ∃ front params path slash query,
    (isPattern config.app.apiPrefix = false → front = config.app.apiPrefix) ∧
    url.toList = path ++ slash ++ query ∧
    path.map Char.toLower =
      (requestPath { config with app.apiPrefix := front } controller handler params).toList.map
        Char.toLower ∧
    (slash = [] ∨ slash = ['/']) ∧ (query = [] ∨ query.head? = some '?')

end

/-! The paths as lists of characters. -/

theorem toList_joinParts {parts : List String} (some : ∃ part ∈ parts, part ≠ "") :
    (joinParts parts).toList =
      rooted ((parts.filter fun part => part ≠ "").map String.toList) := by
  obtain ⟨part, mem, nonEmpty⟩ := some
  cases shape : parts.filter fun part => part ≠ "" with
  | nil =>
    have kept : part ∈ parts.filter fun part => part ≠ "" :=
      List.mem_filter.mpr ⟨mem, by simpa using nonEmpty⟩
    rw [shape] at kept
    cases kept
  | cons first rest =>
    have whole := cons_intercalate first.toList (rest.map String.toList)
    rw [joinParts, shape]
    simpa using whole

section

variable {config : AppConfigService} {controller : Controller} {handler : Handler}

/-- What every versioned route starts with. -/
def servedBase (config : AppConfigService) : List Path :=
  (if config.app.apiPrefix = "" then [] else [config.app.apiPrefix.toList]) ++
    ['v' :: config.app.apiVersion.toList]

theorem toList_versioned (served : controller.version = .default) (path : List String) :
    (joinParts (versioned config controller path)).toList =
      rooted (('v' :: config.app.apiVersion.toList) ::
        ((controller.path :: path).filter fun part => part ≠ "").map String.toList) := by
  have some : versionSegment config controller ≠ "" := by
    simp [versionSegment, served, ← String.toList_inj]
  rw [versioned, toList_joinParts ⟨_, List.mem_cons_self, some⟩,
    List.filter_cons_of_pos (by simpa using some)]
  simp [versionSegment, served]

/-- Nothing versioned is left out of the global prefix. -/
theorem not_isExcluded (served : controller.version = .default) :
    ¬ isExcluded config controller handler := by
  intro mem
  have apart : ∀ route ∈ excluded, route.2.toList[1]? ≠ some 'v' := by decide
  apply apart _ mem
  simp [toList_versioned served]

theorem toList_mountedAt (served : controller.version = .default) (path : List String) :
    (mountedAt config controller handler path).toList =
      rooted (servedBase config) ++
        rooted (((controller.path :: path).filter fun part => part ≠ "").map String.toList) := by
  have some : versionSegment config controller ≠ "" := by
    simp [versionSegment, served, ← String.toList_inj]
  rw [mountedAt, if_neg (not_isExcluded served), ← rooted_append, servedBase]
  by_cases empty : config.app.apiPrefix = ""
  · have same : joinParts (config.app.apiPrefix :: versioned config controller path) =
        joinParts (versioned config controller path) := by
      simp [joinParts, empty]
    rw [same, toList_versioned served]
    simp [empty]
  · rw [toList_joinParts ⟨_, List.mem_cons_self, empty⟩, versioned,
      List.filter_cons_of_pos (by simpa using empty),
      List.filter_cons_of_pos (by simpa using some)]
    simp [empty, versionSegment, served]

end

end TenantOS.Modules
