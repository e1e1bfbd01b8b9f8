import TenantOS.Tenancy.ReadIsolation

/-! The states the operations lead to. A property of the tables that each of the writes
keeps is kept by every operation, and holds in every reachable state. -/
namespace TenantOS.Workspaces

open TenantOS.Domain TenantOS.Infrastructure TenantOS.Relational TenantOS.Application
open TenantOS.Tenancy (prismaRepositories emptyTables)

/-- The action leaves the tables with a property they had. -/
def Keeps {α : Type} (P : Tables → Prop) (action : Atomic α) : Prop :=
  ∀ now tables, P tables → P (action now tables).2

namespace Keeps

variable {α β : Type} {P : Tables → Prop}

theorem bind {action : Atomic α} {next : α → Atomic β} (first : Keeps P action)
    (rest : ∀ value, Keeps P (next value)) : Keeps P (action >>= next) := by
  intro now tables holds
  have kept := first now tables holds
  rcases settled : action now tables with ⟨result, after⟩
  rw [settled] at kept
  cases result with
  | error failure =>
    rw [Atomic.bind_error settled]
    exact kept
  | ok value =>
    rw [Atomic.bind_ok settled]
    exact rest value now after kept

theorem pure {value : α} : Keeps P (pure value) := fun _ _ holds => holds

theorem throw {failure : Failure} : Keeps P (throw failure : Atomic α) := fun _ _ holds => holds

theorem query {select : Tables → α} : Keeps P (query select) := fun _ _ holds => holds

theorem write {translate : Failure → Failure} {statement : Tables → Except Failure α}
    {store : α → Tables → β × Tables} (now : Date)
    (kept : ∀ value tables, P tables → statement tables = .ok value → P (store value tables).2)
    (tables : Tables) (holds : P tables) : P (write translate statement store now tables).2 :=
  write_spec (P := fun _ after => P after) (fun _ _ => holds)
    fun value stored => kept value tables holds stored

end Keeps

section

variable {P : Tables → Prop} {workspaceId folderId userId : Uuid}

theorem keeps_findOwned :
    Keeps P (WorkspaceService.findOwned prismaWorkspaces workspaceId userId) := by
  refine Keeps.bind Keeps.query fun found => ?_
  cases found.filter fun workspace => workspace.userId = userId with
  | none => exact Keeps.throw
  | some workspace => exact Keeps.pure

theorem keeps_assertOwned :
    Keeps P (WorkspaceService.assertOwned prismaWorkspaces workspaceId userId) :=
  keeps_findOwned.bind fun _ => Keeps.pure

theorem keeps_assertFolder :
    Keeps P (WorkspaceService.assertFolder prismaWorkspaces prismaFolders workspaceId folderId
      userId) := by
  refine keeps_assertOwned.bind fun _ => Keeps.bind Keeps.query fun found => ?_
  cases found.filter fun folder => folder.workspaceId = workspaceId with
  | none => exact Keeps.throw
  | some folder => exact Keeps.pure

theorem keeps_getDefaultFolder :
    Keeps P (WorkspaceService.getDefaultFolder prismaWorkspaces prismaFolders workspaceId userId) := by
  refine keeps_assertOwned.bind fun _ => Keeps.bind Keeps.query fun found => ?_
  cases found with
  | none => exact Keeps.throw
  | some folder => exact Keeps.pure

end

/-- Each of the writes keeps the property. -/
structure KeptByWrites (P : Tables → Prop) : Prop where
  createWorkspace : ∀ input, Keeps P (PrismaWorkspaceRepository.create input)
  createFolder : ∀ input, Keeps P (PrismaFolderRepository.create input)
  renameFolder : ∀ id workspaceId input, Keeps P (PrismaFolderRepository.rename id workspaceId input)
  createWorkflow : ∀ input, Keeps P (PrismaWorkflowRepository.create input)
  updateWorkflow : ∀ id folderId input, Keeps P (PrismaWorkflowRepository.update id folderId input)
  deleteWorkflow : ∀ id folderId, Keeps P (PrismaWorkflowRepository.delete id folderId)
  createVariable : ∀ input, Keeps P (PrismaVariableRepository.create input)
  updateVariable : ∀ id folderId input, Keeps P (PrismaVariableRepository.update id folderId input)
  deleteVariable : ∀ id folderId, Keeps P (PrismaVariableRepository.delete id folderId)
  createConnection : ∀ input, Keeps P (PrismaConnectionRepository.create input)
  updateConnection : ∀ id folderId input,
    Keeps P (PrismaConnectionRepository.update id folderId input)
  deleteConnection : ∀ id folderId, Keeps P (PrismaConnectionRepository.delete id folderId)

theorem KeptByWrites.perform {P : Tables → Prop} (writes : KeptByWrites P) (nfkd : String → String)
    (userId : Uuid) (op : Operation) : Keeps P (perform prismaRepositories nfkd userId op) := by
  have folder {α β : Type} {workspaceId folderId : Uuid} {action : Atomic α} {next : α → Atomic β}
      (kept : Keeps P action) (pure : ∀ value, Keeps P (next value)) :
      Keeps P ((do
        WorkspaceService.assertFolder prismaWorkspaces prismaFolders workspaceId folderId userId
        action) >>= next) :=
    (keeps_assertFolder.bind fun _ => kept).bind pure
  cases op with
  | createWorkspace id defaultFolderId input =>
    exact (writes.createWorkspace _).bind fun _ => Keeps.pure
  | getWorkspace workspaceId => exact keeps_findOwned.bind fun _ => Keeps.pure
  | listFolders workspaceId =>
    exact (keeps_assertOwned.bind fun _ => Keeps.query).bind fun _ => Keeps.pure
  | getDefaultFolder workspaceId => exact keeps_getDefaultFolder.bind fun _ => Keeps.pure
  | createFolder id workspaceId input =>
    exact (keeps_assertOwned.bind fun _ => writes.createFolder _).bind fun _ => Keeps.pure
  | renameFolder workspaceId folderId input =>
    exact folder (writes.renameFolder _ _ _) fun _ => Keeps.pure
  | listFolderWorkflows workspaceId folderId => exact folder Keeps.query fun _ => Keeps.pure
  | listFolderVariables workspaceId folderId => exact folder Keeps.query fun _ => Keeps.pure
  | listFolderCredentials workspaceId folderId => exact folder Keeps.query fun _ => Keeps.pure
  | createWorkflow id initialVersionId workspaceId folderId input =>
    exact folder (writes.createWorkflow _) fun _ => Keeps.pure
  | updateWorkflow workspaceId folderId workflowId input =>
    exact folder (writes.updateWorkflow _ _ _) fun _ => Keeps.pure
  | deleteWorkflow workspaceId folderId workflowId =>
    exact folder (writes.deleteWorkflow _ _) fun _ => Keeps.pure
  | createVariable id workspaceId folderId input =>
    exact folder (writes.createVariable _) fun _ => Keeps.pure
  | updateVariable workspaceId folderId variableId input =>
    exact folder (writes.updateVariable _ _ _) fun _ => Keeps.pure
  | deleteVariable workspaceId folderId variableId =>
    exact folder (writes.deleteVariable _ _) fun _ => Keeps.pure
  | createCredential id workspaceId folderId input =>
    exact folder (writes.createConnection _) fun _ => Keeps.pure
  | updateCredential workspaceId folderId credentialId input =>
    exact folder (writes.updateConnection _ _ _) fun _ => Keeps.pure
  | deleteCredential workspaceId folderId credentialId =>
    exact folder (writes.deleteConnection _ _) fun _ => Keeps.pure

/-- The states the operations of any users lead to from empty tables, in any order. -/
inductive Reachable (nfkd : String → String) : Tables → Prop
  | empty : Reachable nfkd emptyTables
  | step {tables : Tables} (before : Reachable nfkd tables) (userId : Uuid) (op : Operation)
      (now : Date) : Reachable nfkd (perform prismaRepositories nfkd userId op now tables).2

theorem Reachable.keeps {P : Tables → Prop} {nfkd : String → String} {tables : Tables}
    (writes : KeptByWrites P) (initial : P emptyTables) (h : Reachable nfkd tables) : P tables := by
  induction h with
  | empty => exact initial
  | step before userId op now ih => exact writes.perform nfkd userId op now _ ih

/-! The primary keys. -/

structure PrimaryKeys (tables : Tables) : Prop where
  workspaces : UniqueKey (·.id) tables.workspaces
  folders : UniqueKey (·.id) tables.folders
  workflows : UniqueKey (·.id) tables.workflows
  workflowVersions : UniqueKey (·.id) tables.workflowVersions
  «variables» : UniqueKey (·.id) tables.variables
  connections : UniqueKey (·.id) tables.connections

section

variable {Row Key : Type} [DecidableEq Key] {id : Row → Uuid} {whereClause : Row → Bool}
  {data : Row → Row} {rows rows' : List Row} {row : Row} {clash : Row → Row → Option (List String)}
  {indexes : List (List String × (Row → Option Key))}

/-- The primary key is among the indexes an insert asks. -/
theorem uniqueKey_insertRow {referenced : Bool}
    (h : insertRow (collision id indexes) referenced row rows = .ok rows')
    (unique : UniqueKey id rows) : UniqueKey id rows' := by
  obtain ⟨free, -, rfl⟩ := insertRow_ok h
  apply unique.append
  intro other mem
  exact (collision_eq_none.mp (free other mem)).1.symm

theorem uniqueKey_updateRow {after : Row}
    (h : updateRow clash id whereClause data rows = .ok (after, rows'))
    (same : ∀ row, id (data row) = id row) (unique : UniqueKey id rows) : UniqueKey id rows' := by
  obtain ⟨row, -, -, -, rfl⟩ := updateRow_ok h
  exact unique.updateMany same

theorem uniqueKey_deleteRow (h : deleteRow whereClause rows = .ok (row, rows'))
    (unique : UniqueKey id rows) : UniqueKey id rows' := by
  obtain ⟨-, -, rfl⟩ := deleteRow_ok h
  exact unique.deleteMany

end

theorem primaryKeys_createWorkspace (input : CreateWorkspaceInput) :
    Keeps PrimaryKeys (PrismaWorkspaceRepository.create input) := by
  intro now tables keys
  apply Keeps.write now _ tables keys
  rintro ⟨workspaces, folders⟩ tables keys stored
  obtain ⟨workspaces, workspace, stored⟩ := ok_of_bind stored
  obtain ⟨folders, folder, stored⟩ := ok_of_bind stored
  cases stored
  exact { keys with
    workspaces := uniqueKey_insertRow workspace keys.workspaces
    folders := uniqueKey_insertRow folder keys.folders }

theorem primaryKeys_renameFolder (id workspaceId : Uuid) (input : RenameFolderInput) :
    Keeps PrimaryKeys (PrismaFolderRepository.rename id workspaceId input) := by
  intro now tables keys
  apply Keeps.write now _ tables keys
  rintro ⟨row, folders⟩ tables keys stored
  obtain ⟨⟨row, folders⟩, renamed, stored⟩ := ok_of_bind stored
  cases stored
  have unique := uniqueKey_updateRow renamed (fun _ => rfl) keys.folders
  refine { keys with folders := ?_ }
  dsimp only
  split
  · exact unique.updateMany fun _ => rfl
  · exact unique

theorem primaryKeys_createWorkflow (input : CreateWorkflowInput) :
    Keeps PrimaryKeys (PrismaWorkflowRepository.create input) := by
  intro now tables keys
  apply Keeps.write now _ tables keys
  rintro ⟨workflows, versions⟩ tables keys stored
  obtain ⟨workflows, workflow, stored⟩ := ok_of_bind stored
  obtain ⟨versions, version, stored⟩ := ok_of_bind stored
  cases stored
  exact { keys with
    workflows := (uniqueKey_insertRow workflow keys.workflows).updateMany fun _ => rfl
    workflowVersions := uniqueKey_insertRow version keys.workflowVersions }

theorem primaryKeys_deleteWorkflow (id folderId : Uuid) :
    Keeps PrimaryKeys (PrismaWorkflowRepository.delete id folderId) := by
  intro now tables keys
  apply Keeps.write now _ tables keys
  rintro ⟨row, workflows⟩ tables keys stored
  exact { keys with
    workflows := uniqueKey_deleteRow stored keys.workflows
    workflowVersions := keys.workflowVersions.deleteMany }

theorem primaryKeys_writes : KeptByWrites PrimaryKeys where
  createWorkspace := primaryKeys_createWorkspace
  createFolder := fun _ now => Keeps.write now fun _ _ keys stored =>
    { keys with folders := uniqueKey_insertRow stored keys.folders }
  renameFolder := primaryKeys_renameFolder
  createWorkflow := primaryKeys_createWorkflow
  updateWorkflow := fun _ _ _ now => Keeps.write now fun _ _ keys stored =>
    { keys with workflows := uniqueKey_updateRow stored (fun _ => rfl) keys.workflows }
  deleteWorkflow := primaryKeys_deleteWorkflow
  createVariable := fun _ now => Keeps.write now fun _ _ keys stored =>
    { keys with «variables» := uniqueKey_insertRow stored keys.variables }
  updateVariable := fun _ _ _ now => Keeps.write now fun _ _ keys stored =>
    { keys with «variables» := uniqueKey_updateRow stored (fun _ => rfl) keys.variables }
  deleteVariable := fun _ _ now => Keeps.write now fun _ _ keys stored =>
    { keys with «variables» := uniqueKey_deleteRow stored keys.variables }
  createConnection := fun _ now => Keeps.write now fun _ _ keys stored =>
    { keys with connections := uniqueKey_insertRow stored keys.connections }
  updateConnection := fun _ _ _ now => Keeps.write now fun _ _ keys stored =>
    { keys with connections := uniqueKey_updateRow stored (fun _ => rfl) keys.connections }
  deleteConnection := fun _ _ now => Keeps.write now fun _ _ keys stored =>
    { keys with connections := uniqueKey_deleteRow stored keys.connections }

theorem Reachable.primaryKeys {nfkd : String → String} {tables : Tables}
    (h : Reachable nfkd tables) : PrimaryKeys tables :=
  h.keeps primaryKeys_writes
    ⟨List.nodup_nil, List.nodup_nil, List.nodup_nil, List.nodup_nil, List.nodup_nil, List.nodup_nil⟩

end TenantOS.Workspaces
