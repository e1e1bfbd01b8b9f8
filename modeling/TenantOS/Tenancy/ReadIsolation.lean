import TenantOS.Infrastructure.WorkspaceRepositories
import TenantOS.Modules.WorkspaceController

/-! What a user is shown is a function of what is the user's, except on the routes that
list a whole table. -/
namespace TenantOS.Tenancy

open TenantOS.Domain TenantOS.Infrastructure TenantOS.Relational TenantOS.Application
open TenantOS.Modules

def prismaRepositories : Repositories Atomic where
  workspaces := prismaWorkspaces
  folders := prismaFolders
  workflows := prismaWorkflows
  «variables» := prismaVariables
  connections := prismaConnections

def mine (userId : Uuid) (tables : Tables) (workspaceId : Uuid) : Bool :=
  tables.workspaces.any fun row => row.id = workspaceId && row.userId = userId

def myFolder (userId : Uuid) (tables : Tables) (folderId : Uuid) : Bool :=
  tables.folders.any fun row => row.id = folderId && mine userId tables row.workspaceId

/-- Inside a workspace of the user, by either of the two foreign keys. -/
def inside (userId : Uuid) (tables : Tables) (workspaceId : Uuid) (folderId : Option Uuid) : Bool :=
  mine userId tables workspaceId || folderId.any (myFolder userId tables)

/-- The workspaces of a user and what is inside them. Of the versions, those that the
workflows name as their current ones. -/
def view (userId : Uuid) (tables : Tables) : Tables where
  workspaces := tables.workspaces.filter fun row => row.userId = userId
  folders := tables.folders.filter fun row => mine userId tables row.workspaceId
  workflows := tables.workflows.filter fun row =>
    inside userId tables row.workspaceId row.folderId
  workflowVersions := tables.workflowVersions.filter fun version =>
    tables.workflows.any fun row => inside userId tables row.workspaceId row.folderId &&
      row.currentVersionId = some version.id
  «variables» := tables.variables.filter fun row =>
    inside userId tables row.workspaceId (some row.folderId)
  connections := tables.connections.filter fun row =>
    inside userId tables row.workspaceId (some row.folderId)

/-- The primary keys a lookup goes by. -/
structure Keyed (tables : Tables) : Prop where
  workspaces : UniqueKey (·.id) tables.workspaces
  folders : UniqueKey (·.id) tables.folders

/-- The action answers from the view as it answers from the tables, and changes neither. -/
def Blind {α : Type} (userId : Uuid) (pre : Tables → Prop) (action : Atomic α)
    (post : α → Tables → Prop) : Prop :=
  ∀ tables, Keyed tables → pre tables → ∃ result,
    (∀ now, action now tables = (result, tables) ∧
      action now (view userId tables) = (result, view userId tables)) ∧
    ∀ value, result = .ok value → post value tables

namespace Blind

variable {α β : Type} {userId : Uuid} {pre : Tables → Prop} {action : Atomic α}

theorem bind {next : α → Atomic β} {mid : α → Tables → Prop} {post : β → Tables → Prop}
    (first : Blind userId pre action mid) (rest : ∀ value, Blind userId (mid value) (next value) post) :
    Blind userId pre (action >>= next) post := by
  intro tables keyed holds
  obtain ⟨result, same, then_⟩ := first tables keyed holds
  cases result with
  | error failure =>
    exact ⟨.error failure, fun now => ⟨Atomic.bind_error (same now).1,
      Atomic.bind_error (same now).2⟩, nofun⟩
  | ok value =>
    obtain ⟨result, same', ends⟩ := rest value tables keyed (then_ value rfl)
    exact ⟨result, fun now => ⟨(Atomic.bind_ok (same now).1).trans (same' now).1,
      (Atomic.bind_ok (same now).2).trans (same' now).2⟩, ends⟩

theorem pure {value : α} {post : α → Tables → Prop} (holds : ∀ tables, pre tables → post value tables) :
    Blind userId pre (pure value) post :=
  fun tables _ h => ⟨.ok value, fun _ => ⟨rfl, rfl⟩, fun _ same => by
    cases same
    exact holds tables h⟩

theorem throw {failure : Failure} {post : α → Tables → Prop} :
    Blind userId pre (throw failure : Atomic α) post :=
  fun _ _ _ => ⟨.error failure, fun _ => ⟨rfl, rfl⟩, nofun⟩

theorem query {select : Tables → α} {post : α → Tables → Prop}
    (same : ∀ tables, Keyed tables → pre tables → select (view userId tables) = select tables)
    (holds : ∀ tables, Keyed tables → pre tables → post (select tables) tables) :
    Blind userId pre (query select) post := by
  intro tables keyed h
  refine ⟨.ok (select tables), fun _ => ⟨rfl, ?_⟩, ?_⟩
  · exact congrArg (fun value => (Except.ok value, view userId tables)) (same tables keyed h)
  · rintro _ ⟨⟩
    exact holds tables keyed h

/-- A lookup may find different rows, if what is made of them is the same. -/
theorem lookup {γ : Type} {select : Tables → γ} {next : γ → Atomic α}
    {post : α → Tables → Prop} (verdict : γ → Except Failure α)
    (decides : ∀ found now tables, next found now tables = (verdict found, tables))
    (same : ∀ tables, Keyed tables → pre tables →
      verdict (select (view userId tables)) = verdict (select tables))
    (holds : ∀ tables, pre tables → ∀ value, verdict (select tables) = .ok value → post value tables) :
    Blind userId pre (Infrastructure.query select >>= next) post := by
  intro tables keyed h
  refine ⟨verdict (select tables), fun now => ⟨decides _ now tables, ?_⟩, holds tables h⟩
  rw [← same tables keyed h]
  exact decides _ now (view userId tables)

/-- The tables do not change, so whatever held of them still does. -/
theorem keep {post : α → Tables → Prop} (h : Blind userId pre action post) :
    Blind userId pre action (fun value tables => pre tables ∧ post value tables) := by
  intro tables keyed holds
  obtain ⟨result, same, ends⟩ := h tables keyed holds
  exact ⟨result, same, fun value ok => ⟨holds, ends value ok⟩⟩

theorem weaken {weaker stronger : Tables → Prop} {post : α → Tables → Prop}
    (h : Blind userId weaker action post) (holds : ∀ tables, stronger tables → weaker tables) :
    Blind userId stronger action post :=
  fun tables keyed h' => h tables keyed (holds tables h')

theorem mono {post weaker : α → Tables → Prop} (h : Blind userId pre action post)
    (weakens : ∀ value tables, post value tables → weaker value tables) :
    Blind userId pre action weaker := by
  intro tables keyed holds
  obtain ⟨result, same, ends⟩ := h tables keyed holds
  exact ⟨result, same, fun value ok => weakens value tables (ends value ok)⟩

end Blind

/-! The gates. -/

section

variable {userId workspaceId folderId : Uuid} {tables : Tables}

theorem foundWorkspace_view (keyed : Keyed tables) :
    (((view userId tables).workspaces.find? fun row => row.id = workspaceId).map
        toWorkspaceEntity).filter (fun workspace => workspace.userId = userId) =
      ((tables.workspaces.find? fun row => row.id = workspaceId).map toWorkspaceEntity).filter
        (fun workspace => workspace.userId = userId) := by
  rw [view, keyed.workspaces.find_filter]
  cases tables.workspaces.find? fun row => row.id = workspaceId with
  | none => rfl
  | some row =>
    by_cases owner : row.userId = userId <;> simp [Option.filter, toWorkspaceEntity, owner]

theorem mine_of_filter {workspace : Workspace}
    (h : ((tables.workspaces.find? fun row => row.id = workspaceId).map toWorkspaceEntity).filter
      (fun workspace => workspace.userId = userId) = some workspace) :
    mine userId tables workspaceId := by
  obtain ⟨found, owner⟩ := Option.filter_eq_some_iff.mp h
  obtain ⟨row, hrow, rfl⟩ := Option.map_eq_some_iff.mp found
  have same : row.id = workspaceId := by simpa using List.find?_some hrow
  have owner : row.userId = userId := of_decide_eq_true owner
  exact List.any_eq_true.mpr ⟨row, List.mem_of_find?_eq_some hrow, by simp [same, owner]⟩

/-- What a check makes of the row that is left. -/
def orNotFound {α : Type} (missing : DomainError) : Option α → Except Failure α
  | some value => .ok value
  | none => .error (.domain missing)

theorem blind_findOwned :
    Blind userId (fun _ => True) (WorkspaceService.findOwned prismaWorkspaces workspaceId userId)
      (fun _ tables => mine userId tables workspaceId) := by
  refine Blind.lookup (fun row => orNotFound (workspaceNotFoundError workspaceId)
    (row.filter fun workspace => workspace.userId = userId)) (fun row now tables => ?_)
    (fun tables keyed _ => congrArg _ (foundWorkspace_view keyed)) fun tables _ value ok => ?_
  · cases row.filter fun workspace => workspace.userId = userId <;> rfl
  · cases left : ((tables.workspaces.find? fun row => row.id = workspaceId).map
        toWorkspaceEntity).filter (fun workspace => workspace.userId = userId) with
    | none => rw [left] at ok; cases ok
    | some workspace => exact mine_of_filter left

theorem blind_assertOwned :
    Blind userId (fun _ => True) (WorkspaceService.assertOwned prismaWorkspaces workspaceId userId)
      (fun _ tables => mine userId tables workspaceId) :=
  blind_findOwned.bind fun _ => .pure fun _ h => h

theorem foundFolder_view (keyed : Keyed tables) (owned : mine userId tables workspaceId) :
    (((view userId tables).folders.find? fun row => row.id = folderId).map toFolderEntity).filter
        (fun folder => folder.workspaceId = workspaceId) =
      ((tables.folders.find? fun row => row.id = folderId).map toFolderEntity).filter
        (fun folder => folder.workspaceId = workspaceId) := by
  rw [view, keyed.folders.find_filter]
  cases tables.folders.find? fun row => row.id = folderId with
  | none => rfl
  | some row =>
    by_cases here : row.workspaceId = workspaceId
    · simp [Option.filter, here, owned]
    · by_cases other : mine userId tables row.workspaceId <;>
        simp [Option.filter, toFolderEntity, here, other]

theorem myFolder_of_filter {folder : Folder} (owned : mine userId tables workspaceId)
    (h : ((tables.folders.find? fun row => row.id = folderId).map toFolderEntity).filter
      (fun folder => folder.workspaceId = workspaceId) = some folder) :
    myFolder userId tables folderId := by
  obtain ⟨found, here⟩ := Option.filter_eq_some_iff.mp h
  obtain ⟨row, hrow, rfl⟩ := Option.map_eq_some_iff.mp found
  have same : row.id = folderId := by simpa using List.find?_some hrow
  have here : row.workspaceId = workspaceId := of_decide_eq_true here
  exact List.any_eq_true.mpr ⟨row, List.mem_of_find?_eq_some hrow, by simp [same, here, owned]⟩

theorem blind_assertFolder :
    Blind userId (fun _ => True)
      (WorkspaceService.assertFolder prismaWorkspaces prismaFolders workspaceId folderId userId)
      (fun _ tables => myFolder userId tables folderId) := by
  refine blind_assertOwned.bind fun _ => Blind.lookup (fun row =>
    (orNotFound (folderNotFoundError folderId) (row.filter fun folder => folder.workspaceId = workspaceId)).map
      fun _ => ()) (fun row now tables => ?_) (fun tables keyed owned => ?_) fun tables owned value ok => ?_
  · cases row.filter fun folder => folder.workspaceId = workspaceId <;> rfl
  · exact congrArg (fun row => (orNotFound (folderNotFoundError folderId) row).map fun _ => ())
      (foundFolder_view keyed owned)
  · cases left : ((tables.folders.find? fun row => row.id = folderId).map toFolderEntity).filter
        (fun folder => folder.workspaceId = workspaceId) with
    | none => rw [left] at ok; cases ok
    | some folder => exact myFolder_of_filter owned left

/-! Reads past the gates. -/

/-- A filter that only lets through what is in the view. -/
theorem filter_view {Row : Type} {kept selected : Row → Bool} {rows : List Row}
    (h : ∀ row, selected row → kept row) : (rows.filter kept).filter selected = rows.filter selected := by
  rw [List.filter_filter]
  refine List.filter_congr fun row _ => ?_
  cases here : selected row with
  | false => simp
  | true => simp [h row here]

theorem find_view {Row : Type} {kept selected : Row → Bool} {rows : List Row}
    (h : ∀ row, selected row → kept row) : (rows.filter kept).find? selected = rows.find? selected := by
  rw [← List.head?_filter, filter_view h, List.head?_filter]

theorem blind_folderVariables :
    Blind userId (fun tables => myFolder userId tables folderId)
      (PrismaVariableRepository.findByFolderId folderId) (fun _ _ => True) := by
  refine .query (fun tables _ owned => ?_) fun _ _ _ => trivial
  refine congrArg (fun rows => (byName rows).map toVariableEntity) (filter_view fun row here => ?_)
  simp only [decide_eq_true_eq] at here
  simp [inside, here, owned]

theorem blind_folderCredentials :
    Blind userId (fun tables => myFolder userId tables folderId)
      (PrismaConnectionRepository.findByFolderId folderId) (fun _ _ => True) := by
  refine .query (fun tables _ owned => ?_) fun _ _ _ => trivial
  refine congrArg (fun rows => (newestFirst (·.createdAt) rows).map toConnectionEntity)
    (filter_view fun row here => ?_)
  simp only [decide_eq_true_eq] at here
  simp [inside, here, owned]

/-- The current version of a workflow in the view is in the view. -/
theorem workflowsWhere_view {selected : WorkflowRow → Bool}
    (h : ∀ row, selected row → inside userId tables row.workspaceId row.folderId) :
    PrismaWorkflowRepository.workflowsWhere selected (view userId tables) =
      PrismaWorkflowRepository.workflowsWhere selected tables := by
  unfold PrismaWorkflowRepository.workflowsWhere
  rw [view, filter_view h]
  refine List.map_congr_left fun row hrow => ?_
  have hrow : row ∈ tables.workflows ∧ selected row := by
    simpa [newestFirst] using hrow
  refine congrArg (toWorkflowWithRelationsEntity row) (find_view fun version current => ?_)
  have current : row.currentVersionId = some version.id := (of_decide_eq_true current).symm
  exact List.any_eq_true.mpr ⟨row, hrow.1, by simp [h row hrow.2, current]⟩

theorem blind_folderWorkflows :
    Blind userId (fun tables => myFolder userId tables folderId)
      (PrismaWorkflowRepository.findByFolderId folderId) (fun _ _ => True) := by
  refine .query (fun tables _ owned => workflowsWhere_view fun row here => ?_) fun _ _ _ => trivial
  simp only [decide_eq_true_eq] at here
  simp [inside, here, owned]

theorem blind_defaultFolder :
    Blind userId (fun tables => mine userId tables workspaceId)
      (PrismaFolderRepository.findByWorkspaceIdAndDefault workspaceId) (fun _ _ => True) := by
  refine .query (fun tables _ owned => congrArg _ (find_view fun row here => ?_)) fun _ _ _ => trivial
  simp only [Bool.and_eq_true, decide_eq_true_eq] at here
  simp [here.1, owned]

theorem blind_folders {workspaceIds : List Uuid} :
    Blind userId (fun tables => ∀ workspaceId ∈ workspaceIds, mine userId tables workspaceId)
      (PrismaFolderRepository.findByWorkspaceIds workspaceIds)
      (fun folders tables => ∀ folder ∈ folders, myFolder userId tables folder.id) := by
  refine .query (fun tables _ owned => ?_) fun tables _ owned folder hfolder => ?_
  · refine congrArg (fun rows => (byWorkspaceAndPosition rows).map toFolderEntity)
      (filter_view fun row here => ?_)
    exact owned _ (of_decide_eq_true here)
  · simp only [byWorkspaceAndPosition, List.mem_map, List.mem_mergeSort, List.mem_filter,
      decide_eq_true_eq] at hfolder
    obtain ⟨row, ⟨hrow, here⟩, rfl⟩ := hfolder
    exact List.any_eq_true.mpr ⟨row, hrow, by simp [toFolderEntity, owned _ here]⟩

/-! Counts of what is in folders of the user. -/

theorem blind_workflowCounts {folderIds : List Uuid} :
    Blind userId (fun tables => ∀ folderId ∈ folderIds, myFolder userId tables folderId)
      (PrismaWorkflowRepository.countByFolderIds folderIds)
      (fun _ tables => ∀ folderId ∈ folderIds, myFolder userId tables folderId) := by
  refine .query (fun tables _ owned => congrArg _ ?_) fun _ _ h => h
  rw [view, List.filterMap_filter, List.filter_filterMap, List.filter_filterMap]
  refine List.filterMap_congr fun row _ => ?_
  cases here : row.folderId with
  | none => simp
  | some folderId =>
    by_cases asked : folderId ∈ folderIds
    · simp [inside, owned _ asked]
    · split <;> simp [Option.filter, asked]

theorem blind_variableCounts {folderIds : List Uuid} :
    Blind userId (fun tables => ∀ folderId ∈ folderIds, myFolder userId tables folderId)
      (PrismaVariableRepository.countByFolderIds folderIds)
      (fun _ tables => ∀ folderId ∈ folderIds, myFolder userId tables folderId) := by
  refine .query (fun tables _ owned => congrArg _ (filter_view fun row here => ?_)) fun _ _ h => h
  simp [inside, owned _ (of_decide_eq_true here)]

theorem blind_connectionCounts {folderIds : List Uuid} :
    Blind userId (fun tables => ∀ folderId ∈ folderIds, myFolder userId tables folderId)
      (PrismaConnectionRepository.countByFolderIds folderIds)
      (fun _ tables => ∀ folderId ∈ folderIds, myFolder userId tables folderId) := by
  refine .query (fun tables _ owned => congrArg _ (filter_view fun row here => ?_)) fun _ _ h => h
  simp [inside, owned _ (of_decide_eq_true here)]

/-! The namespace. -/

theorem mine_of_mem {row : WorkspaceRow} (hrow : row ∈ tables.workspaces) (owner : row.userId = userId) :
    mine userId tables row.id :=
  List.any_eq_true.mpr ⟨row, hrow, by simp [owner]⟩

theorem blind_defaultWorkspace :
    Blind userId (fun _ => True) (PrismaWorkspaceRepository.findByUserIdAndDefault userId)
      (fun found tables => ∀ workspace ∈ found, mine userId tables workspace.id) := by
  refine .query (fun tables _ _ => congrArg _ (find_view fun row here => ?_)) fun tables _ _ => ?_
  · simp only [Bool.and_eq_true] at here
    exact here.1
  · rintro _ found
    obtain ⟨row, hrow, rfl⟩ := Option.map_eq_some_iff.mp found
    have here := List.find?_some hrow
    simp only [Bool.and_eq_true, decide_eq_true_eq] at here
    exact mine_of_mem (List.mem_of_find?_eq_some hrow) here.1

theorem blind_workspaces {pre : Tables → Prop} :
    Blind userId pre (PrismaWorkspaceRepository.findByUserId userId)
      (fun workspaces tables => ∀ workspaceId ∈ workspaces.map (·.id),
        mine userId tables workspaceId) := by
  refine .query (fun tables _ _ => ?_) fun tables _ _ id hid => ?_
  · exact congrArg (fun rows => (newestFirst (·.createdAt) rows).map toWorkspaceEntity)
      (filter_view fun row here => here)
  · simp only [newestFirst, List.map_map, List.mem_map, List.mem_mergeSort, List.mem_filter,
      decide_eq_true_eq] at hid
    obtain ⟨row, ⟨hrow, owner⟩, rfl⟩ := hid
    exact mine_of_mem hrow owner

theorem blind_workspaceWorkflows {workspaceIds : List Uuid} :
    Blind userId (fun tables => ∀ workspaceId ∈ workspaceIds, mine userId tables workspaceId)
      (PrismaWorkflowRepository.findByWorkspaceIds workspaceIds) (fun _ _ => True) := by
  refine .query (fun tables _ owned => workflowsWhere_view fun row here => ?_) fun _ _ _ => trivial
  simp [inside, owned _ (of_decide_eq_true here)]

theorem blind_getNamespace :
    Blind userId (fun _ => True) (NamespaceService.getForUser prismaRepositories userId)
      (fun _ _ => True) := by
  refine blind_defaultWorkspace.bind fun found => ?_
  cases found with
  | none => exact .pure fun _ _ => trivial
  | some workspace =>
    refine (blind_defaultFolder.weaken fun tables owned => owned workspace rfl).bind fun _ =>
      blind_workspaces.bind fun _ => blind_folders.keep.bind fun _ => ?_
    exact (blind_workspaceWorkflows.weaken fun tables owned => owned.1).bind fun _ =>
      .pure fun _ _ => trivial

theorem blind_listFolders :
    Blind userId (fun _ => True)
      (WorkspaceController.listFolders prismaRepositories workspaceId userId) (fun _ _ => True) := by
  have listed : Blind userId (fun _ => True)
      (WorkspaceService.listFolders prismaWorkspaces prismaFolders workspaceId userId)
      (fun folders tables => ∀ folderId ∈ folders.map (·.id), myFolder userId tables folderId) := by
    refine blind_assertOwned.bind fun _ => (blind_folders.weaken fun tables owned => ?_).mono
      fun folders tables here => List.forall_mem_map.mpr here
    exact List.forall_mem_singleton.mpr owned
  refine listed.bind fun folders => ?_
  have counted : Blind userId (fun tables => ∀ folderId ∈ folders.map (·.id),
      myFolder userId tables folderId)
      (WorkspaceService.folderResourcesCounts prismaWorkflows prismaVariables prismaConnections
        (folders.map (·.id))) (fun _ _ => True) :=
    blind_workflowCounts.bind fun _ => blind_variableCounts.bind fun _ =>
      blind_connectionCounts.bind fun _ => .pure fun _ _ => trivial
  exact counted.bind fun _ => .pure fun _ _ => trivial

end

/-! The routes. -/

/-- `GET` routes. -/
def IsGet : Request → Prop
  | .listWorkspaces | .listFolders | .listWorkflows | .listVariables | .listConnections
  | .getNamespace => True
  | .operation (.getWorkspace _) | .operation (.listFolders _) | .operation (.getDefaultFolder _)
  | .operation (.listFolderWorkflows ..) | .operation (.listFolderVariables ..)
  | .operation (.listFolderCredentials ..) => True
  | .operation _ => False

/-- The routes that list a whole table. -/
def ListsAll : Request → Prop
  | .listWorkspaces | .listFolders | .listWorkflows | .listVariables | .listConnections => True
  | .getNamespace | .operation _ => False

theorem blind_handle (nfkd : String → String) (userId : Uuid) {request : Request}
    (get : IsGet request) (filtered : ¬ListsAll request) :
    Blind userId (fun _ => True) (handle prismaRepositories nfkd userId request) (fun _ _ => True) := by
  have responds {α : Type} {action : Atomic α} {pre : Tables → Prop} {next : α → Response}
      (h : Blind userId pre action fun _ _ => True) :
      Blind userId pre (action >>= fun value => pure (next value)) fun _ _ => True :=
    h.bind fun _ => .pure fun _ _ => trivial
  have done {α : Type} {action : Atomic α} {pre : Tables → Prop} {next : α → Outcome}
      (h : Blind userId pre action fun _ _ => True) :
      Blind userId pre (action >>= fun value => pure (next value)) fun _ _ => True :=
    h.bind fun _ => .pure fun _ _ => trivial
  cases request with
  | getNamespace => exact responds blind_getNamespace
  | operation op =>
    cases op with
    | getWorkspace workspaceId => exact responds (done (blind_findOwned.mono fun _ _ _ => trivial))
    | listFolders workspaceId => exact blind_listFolders
    | getDefaultFolder workspaceId =>
      refine responds (done (blind_assertOwned.bind fun _ => blind_defaultFolder.bind fun found => ?_))
      cases found with
      | none => exact .throw
      | some folder => exact .pure fun _ _ => trivial
    | listFolderWorkflows workspaceId folderId =>
      exact responds (done (blind_assertFolder.bind fun _ => blind_folderWorkflows))
    | listFolderVariables workspaceId folderId =>
      exact responds (done (blind_assertFolder.bind fun _ => blind_folderVariables))
    | listFolderCredentials workspaceId folderId =>
      exact responds (done (blind_assertFolder.bind fun _ => blind_folderCredentials))
    | _ => exact get.elim
  | _ => exact (filtered trivial).elim

/-! A table of somebody else's, against none. -/

def emptyTables : Tables :=
  ⟨[], [], [], [], [], []⟩

/-- Whoever is not this user. -/
def somebodyElse (userId : Uuid) : Uuid :=
  userId ++ "'"

theorem somebodyElse_ne (userId : Uuid) : somebodyElse userId ≠ userId := by
  intro same
  have := congrArg String.length same
  simp [somebodyElse] at this

def foreignTables (userId : Uuid) : Tables where
  workspaces := [insertedWorkspace ⟨"ws", somebodyElse userId, "W", "w", none, [], "folder"⟩ 0]
  folders := [insertedDefaultFolder "folder" "ws" 0]
  workflows := [insertedWorkflow ⟨"workflow", "v1", "ws", "folder", "F", "f", none, none, [], []⟩ 0]
  workflowVersions := []
  «variables» := [insertedVariable ⟨"variable", "ws", "folder", "key", "value", false⟩ 0]
  connections := [insertedConnection
    ⟨"connection", "ws", "folder", "C", "api_key", "stripe", some [], false, []⟩ 0]

theorem emptyTables_keyed : Keyed emptyTables :=
  ⟨List.nodup_nil, List.nodup_nil⟩

theorem foreignTables_keyed (userId : Uuid) : Keyed (foreignTables userId) :=
  ⟨List.nodup_singleton _, List.nodup_singleton _⟩

theorem foreignTables_view (userId : Uuid) :
    view userId (foreignTables userId) = view userId emptyTables := by
  have other (workspaceId : Uuid) : mine userId (foreignTables userId) workspaceId = false := by
    simp [mine, foreignTables, insertedWorkspace, somebodyElse_ne]
  have outside (workspaceId : Uuid) (folderId : Option Uuid) :
      inside userId (foreignTables userId) workspaceId folderId = false := by
    cases folderId <;> simp [inside, myFolder, other]
  have owned : (foreignTables userId).workspaces.filter (fun row => row.userId = userId) = [] := by
    simp [foreignTables, insertedWorkspace, somebodyElse_ne]
  simp [view, outside, other, owned, emptyTables]

theorem listsAll_leaks (nfkd : String → String) (userId : Uuid) (request : Request)
    (all : ListsAll request) (now : Date) :
    (handle prismaRepositories nfkd userId request now (foreignTables userId)).1 ≠
      (handle prismaRepositories nfkd userId request now emptyTables).1 := by
  cases request with
  | listWorkspaces =>
    change Except.ok (Response.workspaceListings _) ≠ Except.ok (Response.workspaceListings _)
    simp [defaultFirst, foreignTables, emptyTables]
  | listFolders =>
    change Except.ok (Response.folders _) ≠ Except.ok (Response.folders _)
    simp [byPosition, foreignTables, emptyTables]
  | listWorkflows =>
    change Except.ok (Response.workflows _) ≠ Except.ok (Response.workflows _)
    simp [PrismaWorkflowRepository.workflowsWhere, newestFirst, foreignTables, emptyTables]
  | listVariables =>
    change Except.ok (Response.variables _) ≠ Except.ok (Response.variables _)
    simp [PrismaVariableRepository.variablesWhere, byName, foreignTables, emptyTables]
  | listConnections =>
    change Except.ok (Response.connections _) ≠ Except.ok (Response.connections _)
    simp [PrismaConnectionRepository.connectionsWhere, newestFirst, foreignTables, emptyTables]
  | _ => exact all.elim

/-- A `GET` route shows a user the same in any two states that agree on what is the user's
if and only if it does not list a whole table. -/
theorem read_isolation_iff (nfkd : String → String) (userId : Uuid) (request : Request)
    (get : IsGet request) :
    (∀ tables tables' now now', Keyed tables → Keyed tables' → view userId tables = view userId tables' →
      (handle prismaRepositories nfkd userId request now tables).1 =
        (handle prismaRepositories nfkd userId request now' tables').1) ↔
    ¬ListsAll request := by
  constructor
  · intro isolated all
    exact listsAll_leaks nfkd userId request all 0 (isolated _ _ 0 0 (foreignTables_keyed userId)
      emptyTables_keyed (foreignTables_view userId))
  · intro filtered tables tables' now now' keyed keyed' same
    obtain ⟨result, first, -⟩ := blind_handle nfkd userId get filtered tables keyed trivial
    obtain ⟨result', second, -⟩ := blind_handle nfkd userId get filtered tables' keyed' trivial
    have left := (first now).2
    rw [same, (second now).2] at left
    rw [(first now).1, (second now').1]
    exact (congrArg Prod.fst left).symm

theorem read_isolation_iff_folder :
    (handle prismaRepositories id "alice" (.operation (.listFolders "ws")) 0 (foreignTables "alice")).1 =
      (handle prismaRepositories id "alice" (.operation (.listFolders "ws")) 0 emptyTables).1 :=
  (read_isolation_iff id "alice" (.operation (.listFolders "ws")) trivial).mpr (fun all => all)
    _ _ 0 0 (foreignTables_keyed "alice") emptyTables_keyed (foreignTables_view "alice")

/-- `GET /connections` shows everybody's. -/
theorem read_isolation_fails :
    ¬∀ (userId : Uuid) (request : Request) (tables tables' : Tables), IsGet request → Keyed tables →
      Keyed tables' → view userId tables = view userId tables' →
      (handle prismaRepositories id userId request 0 tables).1 =
        (handle prismaRepositories id userId request 0 tables').1 :=
  fun isolated => listsAll_leaks id "alice" .listConnections trivial 0
    (isolated "alice" .listConnections _ _ trivial (foreignTables_keyed "alice") emptyTables_keyed
      (foreignTables_view "alice"))

end TenantOS.Tenancy
