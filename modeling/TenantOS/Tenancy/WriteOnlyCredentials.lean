import TenantOS.Tenancy.ReadIsolation

/-! Two runs that differ in nothing but the payloads of credentials. -/
namespace TenantOS.Tenancy

open TenantOS.Domain TenantOS.Infrastructure TenantOS.Relational TenantOS.Application
open TenantOS.Modules

def withoutPayload (row : ConnectionRow) : ConnectionRow :=
  { row with credentials := .null }

/-- Equal but for the payloads stored. -/
def Alike (tables tables' : Tables) : Prop :=
  ∃ connections, tables' = { tables with connections } ∧
    connections.map withoutPayload = tables.connections.map withoutPayload

/-- Equal but for the payload submitted. -/
inductive SameOperation : Operation → Operation → Prop where
  | same (op : Operation) : SameOperation op op
  | createCredential (id workspaceId folderId : Uuid) (input : CreateCredentialRequest)
      (payload : JsonObject) :
      SameOperation (.createCredential id workspaceId folderId input)
        (.createCredential id workspaceId folderId { input with credentials := payload })
  | updateCredential (workspaceId folderId credentialId : Uuid) (input : UpdateCredentialRequest)
      (payload payload' : JsonObject) (supplied : input.credentials = some payload) :
      SameOperation (.updateCredential workspaceId folderId credentialId input)
        (.updateCredential workspaceId folderId credentialId
          { input with credentials := some payload' })

inductive SameRequest : Request → Request → Prop where
  | same (request : Request) : SameRequest request request
  | operation {op op' : Operation} (same : SameOperation op op') :
      SameRequest (.operation op) (.operation op')

def hideConnection (connection : Connection) : Connection :=
  { connection with credentials := [] }

def hideOutcome : Outcome → Outcome
  | .credential row => .credential (hideConnection row)
  | .credentials rows => .credentials (rows.map hideConnection)
  | outcome => outcome

def hideResponse : Response → Response
  | .credential row => .credential (hideConnection row)
  | .credentials rows => .credentials (rows.map hideConnection)
  | .connections rows => .connections (rows.map hideConnection)
  | response => response

/-- Run from tables that are alike, the two actions leave tables that are alike and return
the same but for what is hidden. -/
def Simulates {α β : Type} (hide : α → β) (action action' : Atomic α) : Prop :=
  ∀ now tables tables', Alike tables tables' →
    (action now tables).1.map hide = (action' now tables').1.map hide ∧
    Alike (action now tables).2 (action' now tables').2

namespace Simulates

variable {α β γ δ : Type} {hide : α → γ} {hideNext : β → δ} {action action' : Atomic α}

theorem bind {next next' : α → Atomic β} (first : Simulates hide action action')
    (rest : ∀ value value', hide value = hide value' → Simulates hideNext (next value) (next' value')) :
    Simulates hideNext (action >>= next) (action' >>= next') := by
  intro now tables tables' alike
  obtain ⟨same, alike⟩ := first now tables tables' alike
  rcases left : action now tables with ⟨result, after⟩
  rcases right : action' now tables' with ⟨result', after'⟩
  rw [left, right] at same alike
  cases result with
  | error failure =>
    cases result' with
    | error failure' =>
      rw [Atomic.bind_error left, Atomic.bind_error right]
      cases same
      exact ⟨rfl, alike⟩
    | ok value' => cases same
  | ok value =>
    cases result' with
    | error failure' => cases same
    | ok value' =>
      rw [Atomic.bind_ok left, Atomic.bind_ok right]
      exact rest value value' (Except.ok.inj same) now after after' alike

theorem pure {value value' : α} (same : hide value = hide value') :
    Simulates hide (pure value) (pure value') :=
  fun _ _ _ alike => ⟨congrArg Except.ok same, alike⟩

/-- Nothing is hidden of what comes first. -/
theorem «then» {next next' : α → Atomic β} (first : Simulates id action action')
    (rest : ∀ value, Simulates hideNext (next value) (next' value)) :
    Simulates hideNext (action >>= next) (action' >>= next') :=
  first.bind fun value _ same => by cases same; exact rest value

theorem weaken (h : Simulates id action action') (hide : α → γ) : Simulates hide action action' := by
  intro now tables tables' alike
  obtain ⟨same, alike⟩ := h now tables tables' alike
  have same : (action now tables).1 = (action' now tables').1 := by simpa using same
  exact ⟨congrArg (Except.map hide) same, alike⟩

theorem throw {failure : Failure} : Simulates hide (throw failure : Atomic α) (throw failure) :=
  fun _ _ _ alike => ⟨rfl, alike⟩

theorem query {select : Tables → α} (same : ∀ tables tables', Alike tables tables' →
    hide (select tables) = hide (select tables')) :
    Simulates hide (Infrastructure.query select) (Infrastructure.query select) :=
  fun _ tables tables' alike => ⟨congrArg Except.ok (same tables tables' alike), alike⟩

/-- A query of the other tables. -/
theorem elsewhere {select : Tables → α}
    (same : ∀ tables connections, select { tables with connections } = select tables) :
    Simulates hide (Infrastructure.query select) (Infrastructure.query select) := by
  refine query ?_
  rintro tables _ ⟨connections, rfl, -⟩
  rw [same tables connections]

/-- A write to the other tables. -/
theorem write_elsewhere {translate : Failure → Failure} {statement : Tables → Except Failure β}
    {store : β → Tables → α × Tables}
    (same : ∀ tables connections, statement { tables with connections } = statement tables)
    (stores : ∀ value tables connections, store value { tables with connections } =
      ((store value tables).1, { (store value tables).2 with connections }))
    (kept : ∀ value tables, (store value tables).2.connections = tables.connections) :
    Simulates hide (write translate statement store) (write translate statement store) := by
  rintro now tables _ ⟨connections, rfl, payloads⟩
  unfold write
  rw [same tables connections]
  cases statement tables with
  | error failure => exact ⟨rfl, connections, rfl, payloads⟩
  | ok value =>
    dsimp only
    rw [stores value tables connections]
    exact ⟨rfl, connections, rfl, payloads.trans (by rw [kept])⟩

end Simulates

/-! Connections. -/

section

variable {tables tables' : Tables}

theorem Alike.payloads (alike : Alike tables tables') :
    tables'.connections.map withoutPayload = tables.connections.map withoutPayload := by
  obtain ⟨connections, rfl, payloads⟩ := alike
  exact payloads

/-- A filter that does not look at payloads. -/
theorem filter_hidden {selected : ConnectionRow → Bool} {rows : List ConnectionRow}
    (blind : ∀ row, selected (withoutPayload row) = selected row) :
    (rows.filter selected).map withoutPayload = (rows.map withoutPayload).filter selected := by
  rw [List.filter_map]
  exact congrArg _ (List.filter_congr fun row _ => (blind row).symm)

theorem connectionsWhere_hidden {selected : ConnectionRow → Bool}
    (blind : ∀ row, selected (withoutPayload row) = selected row) :
    (PrismaConnectionRepository.connectionsWhere selected tables).map hideConnection =
      ((newestFirst (·.createdAt) ((tables.connections.map withoutPayload).filter selected)).map
        toConnectionEntity).map hideConnection := by
  rw [← filter_hidden blind, PrismaConnectionRepository.connectionsWhere, newestFirst, newestFirst,
    ← List.map_mergeSort (f := withoutPayload) (fun _ _ _ _ => rfl), List.map_map, List.map_map,
    List.map_map]
  rfl

theorem countBy_hidden {key : ConnectionRow → Uuid} {rows : List ConnectionRow}
    (blind : ∀ row, key (withoutPayload row) = key row) :
    countBy key (rows.map withoutPayload) = countBy key rows := by
  simp only [countBy, List.map_map, List.countP_map]
  have same : key ∘ withoutPayload = key := funext blind
  rw [same]
  refine List.map_congr_left fun owner _ => ?_
  simp [Function.comp_def, blind]

theorem simulates_connectionsWhere {selected : ConnectionRow → Bool}
    (blind : ∀ row, selected (withoutPayload row) = selected row) :
    Simulates (List.map hideConnection) (query (PrismaConnectionRepository.connectionsWhere selected))
      (query (PrismaConnectionRepository.connectionsWhere selected)) := by
  refine .query fun tables tables' alike => ?_
  rw [connectionsWhere_hidden blind, connectionsWhere_hidden blind, alike.payloads]

theorem simulates_count {key : ConnectionRow → Uuid} {selected : ConnectionRow → Bool}
    (blindKey : ∀ row, key (withoutPayload row) = key row)
    (blind : ∀ row, selected (withoutPayload row) = selected row) :
    Simulates id (query fun tables => countBy key (tables.connections.filter selected))
      (query fun tables => countBy key (tables.connections.filter selected)) := by
  refine .query fun tables tables' alike => ?_
  have counted (tables : Tables) : countBy key (tables.connections.filter selected) =
      countBy key ((tables.connections.map withoutPayload).filter selected) := by
    rw [← filter_hidden blind, countBy_hidden blindKey]
  change countBy key _ = countBy key _
  rw [counted tables, counted tables', alike.payloads]

theorem Alike.connections {rows rows' : List ConnectionRow} (alike : Alike tables tables')
    (payloads : rows'.map withoutPayload = rows.map withoutPayload) :
    Alike { tables with connections := rows } { tables' with connections := rows' } := by
  obtain ⟨connections, rfl, -⟩ := alike
  exact ⟨rows', rfl, payloads⟩

/-- A write to connections that fails, or not, whatever the payloads. -/
theorem simulates_write {α β γ δ : Type} {hide : α → β} (project : γ → δ)
    {translate : Failure → Failure} {statement statement' : Tables → Except Failure γ}
    {store store' : γ → Tables → α × Tables}
    (same : ∀ tables tables', Alike tables tables' →
      (statement tables).map project = (statement' tables').map project)
    (stores : ∀ value value' tables tables', Alike tables tables' → project value = project value' →
      hide (store value tables).1 = hide (store' value' tables').1 ∧
        Alike (store value tables).2 (store' value' tables').2) :
    Simulates hide (write translate statement store) (write translate statement' store') := by
  intro now tables tables' alike
  have same := same tables tables' alike
  unfold write
  cases left : statement tables with
  | error failure =>
    cases right : statement' tables' with
    | error failure' =>
      rw [left, right] at same
      cases same
      exact ⟨rfl, alike⟩
    | ok value' => rw [left, right] at same; cases same
  | ok value =>
    cases right : statement' tables' with
    | error failure' => rw [left, right] at same; cases same
    | ok value' =>
      rw [left, right] at same
      obtain ⟨shown, alike⟩ := stores value value' tables tables' alike (Except.ok.inj same)
      exact ⟨congrArg Except.ok shown, alike⟩

theorem connectionsClash_hidden (row other : ConnectionRow) :
    connectionsClash (withoutPayload row) (withoutPayload other) = connectionsClash row other :=
  rfl

theorem simulates_create {input : CreateConnectionInput} {payload : Option JsonObject} :
    Simulates hideConnection (PrismaConnectionRepository.create input)
      (PrismaConnectionRepository.create { input with credentials := payload }) := by
  intro now
  refine simulates_write (List.map withoutPayload) (fun tables tables' alike => ?_)
    (fun rows rows' tables tables' alike same => ?_) now
  · rw [← insertRow_map connectionsClash_hidden, ← insertRow_map connectionsClash_hidden, alike.payloads]
    obtain ⟨connections, rfl, -⟩ := alike
    rfl
  · exact ⟨rfl, alike.connections same.symm⟩

/-- What an update shows and leaves, but for the payloads. -/
theorem updated_hidden {value value' : ConnectionRow × List ConnectionRow}
    (alike : Alike tables tables') (same : Prod.map withoutPayload (List.map withoutPayload) value =
      Prod.map withoutPayload (List.map withoutPayload) value') :
    hideConnection (toConnectionEntity value.1) = hideConnection (toConnectionEntity value'.1) ∧
      Alike { tables with connections := value.2 } { tables' with connections := value'.2 } := by
  obtain ⟨row, rows⟩ := value
  obtain ⟨row', rows'⟩ := value'
  obtain ⟨shown, kept⟩ := Prod.mk.inj same
  have shown : hideConnection (toConnectionEntity (withoutPayload row)) =
      hideConnection (toConnectionEntity (withoutPayload row')) := congrArg (fun row => hideConnection (toConnectionEntity row)) shown
  exact ⟨shown, alike.connections kept.symm⟩

theorem simulates_update {id folderId : Uuid} {input : UpdateConnectionInput}
    {payload : Option JsonObject} :
    Simulates hideConnection (PrismaConnectionRepository.update id folderId input)
      (PrismaConnectionRepository.update id folderId { input with credentials := payload }) := by
  intro now
  refine simulates_write (Prod.map withoutPayload (List.map withoutPayload))
    (fun tables tables' alike => ?_) (fun _ _ _ _ alike same => updated_hidden alike same) now
  have hidden (input' : UpdateConnectionInput) (tables : Tables)
      (writes : ∀ row, withoutPayload (updatedConnection input now (withoutPayload row)) =
        withoutPayload (updatedConnection input' now row)) :
      (updateRow connectionsClash (·.id) (PrismaConnectionRepository.inFolder id folderId)
        (updatedConnection input' now) tables.connections).map
          (Prod.map withoutPayload (List.map withoutPayload)) =
      updateRow connectionsClash (·.id) (PrismaConnectionRepository.inFolder id folderId)
        (fun row => withoutPayload (updatedConnection input now row))
        (tables.connections.map withoutPayload) :=
    (updateRow_map connectionsClash_hidden (fun _ => rfl) (fun _ => rfl) writes).symm
  rw [hidden input tables fun _ => rfl, hidden { input with credentials := payload } tables' fun _ => rfl,
    alike.payloads]

theorem simulates_delete {id folderId : Uuid} :
    Simulates (fun done : Unit => done) (PrismaConnectionRepository.delete id folderId)
      (PrismaConnectionRepository.delete id folderId) := by
  have blind (row : ConnectionRow) : PrismaConnectionRepository.inFolder id folderId
      (withoutPayload row) = PrismaConnectionRepository.inFolder id folderId row := rfl
  have hidden (tables : Tables) :
      (deleteRow (PrismaConnectionRepository.inFolder id folderId) tables.connections).map
          (Prod.map withoutPayload (List.map withoutPayload)) =
        deleteRow (PrismaConnectionRepository.inFolder id folderId)
          (tables.connections.map withoutPayload) :=
    (deleteRow_map blind).symm
  refine simulates_write (Prod.map withoutPayload (List.map withoutPayload))
    (fun tables tables' alike => ?_) fun _ _ _ _ alike same =>
      ⟨rfl, alike.connections (Prod.mk.inj same).2.symm⟩
  rw [hidden tables, hidden tables', alike.payloads]

end

/-! Every other call does not look at connections. -/

section

variable {userId workspaceId folderId : Uuid} {α : Type}

theorem simulates_findOwned :
    Simulates id (WorkspaceService.findOwned prismaWorkspaces workspaceId userId)
      (WorkspaceService.findOwned prismaWorkspaces workspaceId userId) := by
  refine Simulates.bind (.elsewhere fun _ _ => rfl : Simulates id _ _) fun found found' same => ?_
  cases same
  cases found.filter fun workspace => workspace.userId = userId with
  | none => exact .throw
  | some workspace => exact .pure rfl

theorem simulates_assertOwned :
    Simulates id (WorkspaceService.assertOwned prismaWorkspaces workspaceId userId)
      (WorkspaceService.assertOwned prismaWorkspaces workspaceId userId) :=
  simulates_findOwned.bind fun _ _ _ => .pure rfl

theorem simulates_assertFolder :
    Simulates id (WorkspaceService.assertFolder prismaWorkspaces prismaFolders workspaceId folderId userId)
      (WorkspaceService.assertFolder prismaWorkspaces prismaFolders workspaceId folderId userId) := by
  refine simulates_assertOwned.bind fun _ _ _ =>
    Simulates.bind (.elsewhere fun _ _ => rfl : Simulates id _ _) fun found found' same => ?_
  cases same
  cases found.filter fun folder => folder.workspaceId = workspaceId with
  | none => exact .throw
  | some folder => exact .pure rfl

theorem simulates_workspaceCreate {input : CreateWorkspaceInput} :
    Simulates id (PrismaWorkspaceRepository.create input) (PrismaWorkspaceRepository.create input) :=
  fun now => Simulates.write_elsewhere (fun _ _ => rfl) (fun _ _ _ => rfl) (fun _ _ => rfl) now

theorem simulates_folderCreate {input : CreateFolderInput} :
    Simulates id (PrismaFolderRepository.create input) (PrismaFolderRepository.create input) :=
  fun now => Simulates.write_elsewhere (fun _ _ => rfl) (fun _ _ _ => rfl) (fun _ _ => rfl) now

theorem simulates_folderRename {input : RenameFolderInput} :
    Simulates id (PrismaFolderRepository.rename folderId workspaceId input)
      (PrismaFolderRepository.rename folderId workspaceId input) :=
  fun now => Simulates.write_elsewhere (fun _ _ => rfl) (fun _ _ _ => rfl) (fun _ _ => rfl) now

theorem simulates_workflowCreate {input : CreateWorkflowInput} :
    Simulates id (PrismaWorkflowRepository.create input) (PrismaWorkflowRepository.create input) :=
  fun now => Simulates.write_elsewhere (fun _ _ => rfl) (fun _ _ _ => rfl) (fun _ _ => rfl) now

theorem simulates_workflowUpdate {id : Uuid} {input : UpdateWorkflowInput} :
    Simulates (fun workflow : Workflow => workflow) (PrismaWorkflowRepository.update id folderId input)
      (PrismaWorkflowRepository.update id folderId input) :=
  fun now => Simulates.write_elsewhere (fun _ _ => rfl) (fun _ _ _ => rfl) (fun _ _ => rfl) now

theorem simulates_variableCreate {input : CreateVariableInput} :
    Simulates id (PrismaVariableRepository.create input) (PrismaVariableRepository.create input) :=
  fun now => Simulates.write_elsewhere (fun _ _ => rfl) (fun _ _ _ => rfl) (fun _ _ => rfl) now

end

/-- The operations that answer with a credential. -/
def OperationShowsCredential : Operation → Prop
  | .listFolderCredentials .. | .createCredential .. | .updateCredential .. => True
  | _ => False

theorem simulates_perform_plain (nfkd : String → String) (userId : Uuid) {op : Operation}
    (plain : ¬OperationShowsCredential op) :
    Simulates id (perform prismaRepositories nfkd userId op)
      (perform prismaRepositories nfkd userId op) := by
  have outcome {α : Type} {action : Atomic α} {next : α → Outcome} (h : Simulates id action action) :
      Simulates id (action >>= fun value => pure (next value))
        (action >>= fun value => pure (next value)) :=
    h.then fun _ => .pure rfl
  cases op with
  | createWorkspace id defaultFolderId input => exact outcome simulates_workspaceCreate
  | getWorkspace workspaceId => exact outcome simulates_findOwned
  | listFolders workspaceId =>
    exact outcome (simulates_assertOwned.then fun _ => .elsewhere fun _ _ => rfl)
  | getDefaultFolder workspaceId =>
    have read : Simulates id (PrismaFolderRepository.findByWorkspaceIdAndDefault workspaceId)
        (PrismaFolderRepository.findByWorkspaceIdAndDefault workspaceId) := .elsewhere fun _ _ => rfl
    refine outcome (simulates_assertOwned.then fun _ => read.then fun found => ?_)
    cases found with
    | none => exact .throw
    | some folder => exact .pure rfl
  | createFolder id workspaceId input =>
    exact outcome (simulates_assertOwned.then fun _ => simulates_folderCreate)
  | renameFolder workspaceId folderId input =>
    exact outcome (simulates_assertFolder.then fun _ => simulates_folderRename)
  | listFolderWorkflows workspaceId folderId =>
    exact outcome (simulates_assertFolder.then fun _ => .elsewhere fun _ _ => rfl)
  | listFolderVariables workspaceId folderId =>
    exact outcome (simulates_assertFolder.then fun _ => .elsewhere fun _ _ => rfl)
  | createWorkflow id initialVersionId workspaceId folderId input =>
    exact outcome (simulates_assertFolder.then fun _ => simulates_workflowCreate)
  | updateWorkflow workspaceId folderId workflowId input =>
    exact outcome (simulates_assertFolder.then fun _ => simulates_workflowUpdate)
  | deleteWorkflow workspaceId folderId workflowId =>
    exact outcome (simulates_assertFolder.then fun _ =>
      .write_elsewhere (fun _ _ => rfl) (fun _ _ _ => rfl) fun _ _ => rfl)
  | createVariable id workspaceId folderId input =>
    exact outcome (simulates_assertFolder.then fun _ => simulates_variableCreate)
  | updateVariable workspaceId folderId variableId input =>
    exact outcome (simulates_assertFolder.then fun _ =>
      .write_elsewhere (fun _ _ => rfl) (fun _ _ _ => rfl) fun _ _ => rfl)
  | deleteVariable workspaceId folderId variableId =>
    exact outcome (simulates_assertFolder.then fun _ =>
      .write_elsewhere (fun _ _ => rfl) (fun _ _ _ => rfl) fun _ _ => rfl)
  | deleteCredential workspaceId folderId credentialId =>
    exact outcome (simulates_assertFolder.then fun _ => simulates_delete)
  | _ => exact (plain trivial).elim

theorem simulates_perform (nfkd : String → String) (userId : Uuid) {op op' : Operation}
    (same : SameOperation op op') :
    Simulates hideOutcome (perform prismaRepositories nfkd userId op)
      (perform prismaRepositories nfkd userId op') := by
  have one {action action' : Atomic Connection} (h : Simulates hideConnection action action') :
      Simulates hideOutcome (action >>= fun row => pure (.credential row))
        (action' >>= fun row => pure (.credential row)) :=
    h.bind fun _ _ same => .pure (congrArg Outcome.credential same)
  have created {id workspaceId folderId : Uuid} {input : CreateCredentialRequest}
      {payload : JsonObject} :
      Simulates hideOutcome
        (perform prismaRepositories nfkd userId (.createCredential id workspaceId folderId input))
        (perform prismaRepositories nfkd userId
          (.createCredential id workspaceId folderId { input with credentials := payload })) :=
    one (simulates_assertFolder.then fun _ => simulates_create)
  have updated {workspaceId folderId credentialId : Uuid} {input : UpdateCredentialRequest}
      {payload : Option JsonObject} :
      Simulates hideOutcome
        (perform prismaRepositories nfkd userId
          (.updateCredential workspaceId folderId credentialId input))
        (perform prismaRepositories nfkd userId
          (.updateCredential workspaceId folderId credentialId { input with credentials := payload })) :=
    one (simulates_assertFolder.then fun _ => simulates_update)
  cases same with
  | createCredential id workspaceId folderId input payload => exact created
  | updateCredential workspaceId folderId credentialId input payload payload' supplied => exact updated
  | same op =>
    cases op with
    | listFolderCredentials workspaceId folderId =>
      refine (simulates_assertFolder.then fun _ => simulates_connectionsWhere fun _ => rfl).bind
        fun _ _ same => .pure ?_
      exact congrArg Outcome.credentials same
    | createCredential id workspaceId folderId input => exact created
    | updateCredential workspaceId folderId credentialId input => exact updated
    | _ => exact (simulates_perform_plain nfkd userId id).weaken hideOutcome

/-! Requests. -/

theorem simulates_listAll :
    Simulates id (WorkspaceController.listAll prismaRepositories)
      (WorkspaceController.listAll prismaRepositories) := by
  have items : Simulates id (WorkspaceService.listAll prismaWorkspaces)
      (WorkspaceService.listAll prismaWorkspaces) := .elsewhere fun _ _ => rfl
  have counts (ids : List Uuid) : Simulates id
      (WorkspaceService.namespacesResourcesCounts prismaFolders prismaWorkflows prismaVariables
        prismaConnections ids)
      (WorkspaceService.namespacesResourcesCounts prismaFolders prismaWorkflows prismaVariables
        prismaConnections ids) := by
    have workflows : Simulates id (PrismaWorkflowRepository.countByWorkspaceIds ids)
        (PrismaWorkflowRepository.countByWorkspaceIds ids) := .elsewhere fun _ _ => rfl
    have «variables» : Simulates id (PrismaVariableRepository.countByWorkspaceIds ids)
        (PrismaVariableRepository.countByWorkspaceIds ids) := .elsewhere fun _ _ => rfl
    have connections : Simulates id (PrismaConnectionRepository.countByWorkspaceIds ids)
        (PrismaConnectionRepository.countByWorkspaceIds ids) :=
      simulates_count (fun _ => rfl) fun _ => rfl
    have folders : Simulates id (PrismaFolderRepository.countByWorkspaceIds ids)
        (PrismaFolderRepository.countByWorkspaceIds ids) := .elsewhere fun _ _ => rfl
    refine workflows.then fun _ => ?_
    refine «variables».then fun _ => ?_
    refine connections.then fun _ => ?_
    exact folders.then fun _ => .pure rfl
  refine items.then fun items => ?_
  have counted := counts (items.map (·.id))
  exact counted.then fun _ => .pure rfl

theorem simulates_listFolders (workspaceId userId : Uuid) :
    Simulates id (WorkspaceController.listFolders prismaRepositories workspaceId userId)
      (WorkspaceController.listFolders prismaRepositories workspaceId userId) := by
  have items : Simulates id
      (WorkspaceService.listFolders prismaWorkspaces prismaFolders workspaceId userId)
      (WorkspaceService.listFolders prismaWorkspaces prismaFolders workspaceId userId) :=
    simulates_assertOwned.then fun _ => .elsewhere fun _ _ => rfl
  have counts (ids : List Uuid) : Simulates id
      (WorkspaceService.folderResourcesCounts prismaWorkflows prismaVariables prismaConnections ids)
      (WorkspaceService.folderResourcesCounts prismaWorkflows prismaVariables prismaConnections ids) := by
    have workflows : Simulates id (PrismaWorkflowRepository.countByFolderIds ids)
        (PrismaWorkflowRepository.countByFolderIds ids) := .elsewhere fun _ _ => rfl
    have «variables» : Simulates id (PrismaVariableRepository.countByFolderIds ids)
        (PrismaVariableRepository.countByFolderIds ids) := .elsewhere fun _ _ => rfl
    have connections : Simulates id (PrismaConnectionRepository.countByFolderIds ids)
        (PrismaConnectionRepository.countByFolderIds ids) :=
      simulates_count (fun _ => rfl) fun _ => rfl
    refine workflows.then fun _ => ?_
    refine «variables».then fun _ => ?_
    exact connections.then fun _ => .pure rfl
  refine items.then fun items => ?_
  have counted := counts (items.map (·.id))
  exact counted.then fun _ => .pure rfl

theorem simulates_getForUser (userId : Uuid) :
    Simulates id (NamespaceService.getForUser prismaRepositories userId)
      (NamespaceService.getForUser prismaRepositories userId) := by
  have workspace : Simulates id (PrismaWorkspaceRepository.findByUserIdAndDefault userId)
      (PrismaWorkspaceRepository.findByUserIdAndDefault userId) := .elsewhere fun _ _ => rfl
  have folder (workspaceId : Uuid) : Simulates id
      (PrismaFolderRepository.findByWorkspaceIdAndDefault workspaceId)
      (PrismaFolderRepository.findByWorkspaceIdAndDefault workspaceId) := .elsewhere fun _ _ => rfl
  have workspaces : Simulates id (PrismaWorkspaceRepository.findByUserId userId)
      (PrismaWorkspaceRepository.findByUserId userId) := .elsewhere fun _ _ => rfl
  have folders (ids : List Uuid) : Simulates id (PrismaFolderRepository.findByWorkspaceIds ids)
      (PrismaFolderRepository.findByWorkspaceIds ids) := .elsewhere fun _ _ => rfl
  have workflows (ids : List Uuid) : Simulates id (PrismaWorkflowRepository.findByWorkspaceIds ids)
      (PrismaWorkflowRepository.findByWorkspaceIds ids) := .elsewhere fun _ _ => rfl
  refine workspace.then fun found => ?_
  cases found with
  | none => exact .pure rfl
  | some found =>
    refine (folder found.id).then fun _ => ?_
    refine workspaces.then fun all => ?_
    refine (folders (all.map (·.id))).then fun _ => ?_
    exact (workflows (all.map (·.id))).then fun _ => .pure rfl

theorem hideResponse_respond (outcome : Outcome) :
    hideResponse (respond outcome) = hideResponse (respond (hideOutcome outcome)) := by
  cases outcome with
  | credentials rows => simp [hideOutcome, respond, hideResponse, toCredentialSummary, hideConnection]
  | _ => rfl

/-- The requests that answer with credentials. -/
def ShowsCredential : Request → Prop
  | .listConnections => True
  | .operation op => OperationShowsCredential op
  | _ => False

theorem simulates_handle_plain (nfkd : String → String) (userId : Uuid) {request : Request}
    (plain : ¬ShowsCredential request) :
    Simulates id (handle prismaRepositories nfkd userId request)
      (handle prismaRepositories nfkd userId request) := by
  have response {α : Type} {action : Atomic α} {next : α → Response} (h : Simulates id action action) :
      Simulates id (action >>= fun value => pure (next value))
        (action >>= fun value => pure (next value)) :=
    h.then fun _ => .pure rfl
  cases request with
  | listWorkspaces => exact simulates_listAll
  | listFolders =>
    have read : Simulates id PrismaFolderRepository.findAll PrismaFolderRepository.findAll :=
      .elsewhere fun _ _ => rfl
    exact response read
  | listWorkflows =>
    have read : Simulates id PrismaWorkflowRepository.findAll PrismaWorkflowRepository.findAll :=
      .elsewhere fun _ _ => rfl
    exact response read
  | listVariables =>
    have read : Simulates id PrismaVariableRepository.findAll PrismaVariableRepository.findAll :=
      .elsewhere fun _ _ => rfl
    exact response read
  | listConnections => exact (plain trivial).elim
  | getNamespace => exact response (simulates_getForUser userId)
  | operation op =>
    cases op with
    | listFolders workspaceId => exact simulates_listFolders workspaceId userId
    | _ => exact response (simulates_perform_plain nfkd userId plain)

/-- A request answers alike, and leaves the tables alike, whatever the payloads. -/
theorem simulates_handle (nfkd : String → String) (userId : Uuid) {request request' : Request}
    (same : SameRequest request request') :
    Simulates hideResponse (handle prismaRepositories nfkd userId request)
      (handle prismaRepositories nfkd userId request') := by
  have operation {op op' : Operation} (same : SameOperation op op') :
      Simulates hideResponse
        (perform prismaRepositories nfkd userId op >>= fun outcome => pure (respond outcome))
        (perform prismaRepositories nfkd userId op' >>= fun outcome => pure (respond outcome)) :=
    (simulates_perform nfkd userId same).bind fun value value' same => .pure (by
      rw [hideResponse_respond value, same, ← hideResponse_respond])
  have all (op : Operation) :
      Simulates hideResponse (handle prismaRepositories nfkd userId (.operation op))
        (handle prismaRepositories nfkd userId (.operation op)) := by
    cases op with
    | listFolders workspaceId => exact (simulates_listFolders workspaceId userId).weaken hideResponse
    | _ => exact operation (.same _)
  cases same with
  | @operation op op' same =>
    cases same with
    | createCredential => exact operation (.createCredential ..)
    | updateCredential _ _ _ _ _ _ supplied => exact operation (.updateCredential _ _ _ _ _ _ supplied)
    | same => exact all op
  | same request =>
    cases request with
    | listConnections =>
      have read : Simulates (List.map hideConnection) PrismaConnectionRepository.findAll
          PrismaConnectionRepository.findAll := simulates_connectionsWhere fun _ => rfl
      exact read.bind fun _ _ same => .pure (congrArg Response.connections same)
    | operation op => exact all op
    | _ => exact (simulates_handle_plain nfkd userId id).weaken hideResponse

/-! Runs. -/

structure ClientRequest where
  userId : Uuid
  now : Date
  request : Request

/-- The responses to a sequence of requests, by whatever users. -/
def serve (nfkd : String → String) : List ClientRequest → Tables → List (Except Failure Response)
  | [], _ => []
  | r :: rest, tables =>
      let served := handle prismaRepositories nfkd r.userId r.request r.now tables
      served.1 :: serve nfkd rest served.2

/-- The same request at the same time, but for the payload submitted. -/
structure SameCall (r r' : ClientRequest) : Prop where
  userId : r'.userId = r.userId
  now : r'.now = r.now
  request : SameRequest r.request r'.request

theorem SameRequest.eq_of_plain {request request' : Request} (same : SameRequest request request')
    (plain : ¬ShowsCredential request) : request' = request := by
  cases same with
  | same => rfl
  | operation same =>
    cases same with
    | same => rfl
    | _ => exact (plain trivial).elim

theorem serve_eq (nfkd : String → String) {requests requests' : List ClientRequest}
    (same : List.Forall₂ SameCall requests requests') {tables tables' : Tables}
    (alike : Alike tables tables') (plain : ∀ r ∈ requests, ¬ShowsCredential r.request) :
    serve nfkd requests tables = serve nfkd requests' tables' := by
  induction same generalizing tables tables' with
  | nil => rfl
  | @cons r r' rest rest' first _ ih =>
    obtain ⟨userId, now, request⟩ := r'
    obtain ⟨rfl, rfl, same⟩ := first
    obtain rfl := same.eq_of_plain (plain r List.mem_cons_self)
    obtain ⟨shown, alike⟩ := simulates_handle_plain nfkd r.userId (plain r List.mem_cons_self) r.now
      tables tables' alike
    have shown : (handle prismaRepositories nfkd r.userId r.request r.now tables).1 =
        (handle prismaRepositories nfkd r.userId r.request r.now tables').1 := by simpa using shown
    simp only [serve, shown, List.cons.injEq, true_and]
    exact ih alike fun r hr => plain r (List.mem_cons_of_mem _ hr)

/-! Wherever a credential is shown, so is its payload. -/

section

variable (userId workspaceId folderId : Uuid)

def tablesWith (connections : List ConnectionRow) : Tables where
  workspaces := [insertedWorkspace ⟨workspaceId, userId, "W", "w", none, [], folderId⟩ 0]
  folders := [insertedDefaultFolder folderId workspaceId 0]
  workflows := []
  workflowVersions := []
  «variables» := []
  connections := connections

def connectionWith (id : Uuid) (payload : JsonObject) : ConnectionRow :=
  insertedConnection ⟨id, workspaceId, folderId, "C", "api_key", "stripe", some payload, false, []⟩ 0

variable {userId workspaceId folderId} {connections : List ConnectionRow} {now : Date}

theorem assertFolder_tablesWith :
    WorkspaceService.assertFolder prismaWorkspaces prismaFolders workspaceId folderId userId now
        (tablesWith userId workspaceId folderId connections) =
      (.ok (), tablesWith userId workspaceId folderId connections) := by
  have workspace : PrismaWorkspaceRepository.findById workspaceId now
      (tablesWith userId workspaceId folderId connections) =
        (.ok (some (toWorkspaceEntity (insertedWorkspace
          ⟨workspaceId, userId, "W", "w", none, [], folderId⟩ 0))),
          tablesWith userId workspaceId folderId connections) := by
    simp [PrismaWorkspaceRepository.findById, query, tablesWith, insertedWorkspace]
  have folder : PrismaFolderRepository.findById folderId now
      (tablesWith userId workspaceId folderId connections) =
        (.ok (some (toFolderEntity (insertedDefaultFolder folderId workspaceId 0))),
          tablesWith userId workspaceId folderId connections) := by
    simp [PrismaFolderRepository.findById, query, tablesWith, insertedDefaultFolder]
  have owned : WorkspaceService.findOwned prismaWorkspaces workspaceId userId now
      (tablesWith userId workspaceId folderId connections) =
        (.ok (toWorkspaceEntity (insertedWorkspace
          ⟨workspaceId, userId, "W", "w", none, [], folderId⟩ 0)),
          tablesWith userId workspaceId folderId connections) := by
    refine (Atomic.bind_ok workspace).trans ?_
    simp [Option.filter, toWorkspaceEntity, insertedWorkspace, Atomic.pure_run]
  refine (Atomic.bind_ok (Atomic.bind_ok owned)).trans ((Atomic.bind_ok folder).trans ?_)
  simp [Option.filter, toFolderEntity, insertedDefaultFolder, Atomic.pure_run]

/-- What is answered once the checks have passed. -/
theorem controller_answers {α : Type} {action : Atomic α} {outcome : α → Outcome} {value : α}
    {after : Tables}
    (h : action now (tablesWith userId workspaceId folderId connections) = (.ok value, after)) :
    (((WorkspaceService.assertFolder prismaWorkspaces prismaFolders workspaceId folderId userId >>=
        fun _ => action) >>= fun value => pure (outcome value)) >>= fun outcome =>
          pure (respond outcome)) now (tablesWith userId workspaceId folderId connections) =
      (.ok (respond (outcome value)), after) :=
  Atomic.bind_ok (Atomic.bind_ok ((Atomic.bind_ok assertFolder_tablesWith).trans h))

theorem created_shown (nfkd : String → String) (now : Date) (userId id workspaceId folderId : Uuid)
    (input : CreateCredentialRequest) :
    ∃ connection, connection.credentials = input.credentials ∧
      (handle prismaRepositories nfkd userId
          (.operation (.createCredential id workspaceId folderId input)) now
          (tablesWith userId workspaceId folderId [])).1 = .ok (.credential connection) := by
  let create : CreateConnectionInput := ⟨id, workspaceId, folderId, input.name, input.type,
    input.provider, some input.credentials, false, input.metadata.getD []⟩
  have created : PrismaConnectionRepository.create create now (tablesWith userId workspaceId folderId []) =
      (.ok (toConnectionEntity (insertedConnection create now)),
        tablesWith userId workspaceId folderId [insertedConnection create now]) := by
    simp [PrismaConnectionRepository.create, write, insertRow, hasWorkspace, hasFolder, tablesWith,
      insertedWorkspace, insertedDefaultFolder, create]
  exact ⟨_, rfl, congrArg Prod.fst (controller_answers created)⟩

theorem updated_shown (nfkd : String → String) (now : Date) (userId workspaceId folderId id : Uuid)
    (input : UpdateCredentialRequest) (payload : JsonObject) :
    ∃ connection, connection.credentials = input.credentials.getD payload ∧
      (handle prismaRepositories nfkd userId
          (.operation (.updateCredential workspaceId folderId id input)) now
          (tablesWith userId workspaceId folderId [connectionWith workspaceId folderId id payload])).1 =
        .ok (.credential connection) := by
  let update : UpdateConnectionInput := ⟨input.name, input.type, input.provider, input.credentials,
    input.metadata⟩
  let row := updatedConnection update now (connectionWith workspaceId folderId id payload)
  have updated : PrismaConnectionRepository.update id folderId update now
        (tablesWith userId workspaceId folderId [connectionWith workspaceId folderId id payload]) =
      (.ok (toConnectionEntity row), tablesWith userId workspaceId folderId [row]) := by
    simp [PrismaConnectionRepository.update, write, updateRow, tablesWith, updateMany, row,
      PrismaConnectionRepository.inFolder, connectionWith, insertedConnection]
  refine ⟨_, ?_, congrArg Prod.fst (controller_answers updated)⟩
  cases supplied : input.credentials <;>
    simp [row, update, supplied, toCredentialSummary, toConnectionEntity, updatedConnection,
      connectionWith, insertedConnection]

theorem listed_shown {id : Uuid} {payload : JsonObject} {nfkd : String → String} :
    (handle prismaRepositories nfkd userId
        (.operation (.listFolderCredentials workspaceId folderId)) now
        (tablesWith userId workspaceId folderId [connectionWith workspaceId folderId id payload])).1 =
      .ok (.credentials [toConnectionEntity (connectionWith workspaceId folderId id payload)]) := by
  have listed : PrismaConnectionRepository.findByFolderId folderId now
        (tablesWith userId workspaceId folderId [connectionWith workspaceId folderId id payload]) =
      (.ok [toConnectionEntity (connectionWith workspaceId folderId id payload)],
        tablesWith userId workspaceId folderId [connectionWith workspaceId folderId id payload]) := by
    simp [PrismaConnectionRepository.findByFolderId, query, PrismaConnectionRepository.connectionsWhere,
      newestFirst, tablesWith, connectionWith, insertedConnection]
  exact congrArg Prod.fst (controller_answers listed)

end

/-- Another payload than a given one. -/
def changed (payload : JsonObject) : JsonObject :=
  ("key", .null) :: payload

theorem changed_ne (payload : JsonObject) : changed payload ≠ payload := by
  intro same
  have := congrArg List.length same
  simp [changed] at this

theorem alike_payload (userId workspaceId folderId id : Uuid) (payload payload' : JsonObject) :
    Alike (tablesWith userId workspaceId folderId [connectionWith workspaceId folderId id payload])
      (tablesWith userId workspaceId folderId [connectionWith workspaceId folderId id payload']) :=
  ⟨_, rfl, rfl⟩

theorem alike_refl (tables : Tables) : Alike tables tables :=
  ⟨_, rfl, rfl⟩

theorem shows_payload (nfkd : String → String) (userId : Uuid) (request : Request)
    (shows : ShowsCredential request) :
    ∃ request' tables tables', SameRequest request request' ∧ Alike tables tables' ∧
      (handle prismaRepositories nfkd userId request 0 tables).1 ≠
        (handle prismaRepositories nfkd userId request' 0 tables').1 := by
  have differ {connection connection' : Connection}
      (h : connection.credentials ≠ connection'.credentials) :
      (.ok (.credential connection) : Except Failure Response) ≠ .ok (.credential connection') := by
    intro same
    simp only [Except.ok.injEq, Response.credential.injEq] at same
    exact h (congrArg Connection.credentials same)
  cases request with
  | listConnections =>
    refine ⟨_, _, _, .same _, alike_payload userId "ws" "folder" "id" [] (changed []), ?_⟩
    change Except.ok (Response.connections _) ≠ Except.ok (Response.connections _)
    simp [PrismaConnectionRepository.connectionsWhere, newestFirst, tablesWith, connectionWith,
      insertedConnection, toConnectionEntity, changed]
  | operation op =>
    cases op with
    | createCredential id workspaceId folderId input =>
      let input' := { input with credentials := changed input.credentials }
      obtain ⟨left, hleft, shown⟩ := created_shown nfkd 0 userId id workspaceId folderId input
      obtain ⟨right, hright, shown'⟩ := created_shown nfkd 0 userId id workspaceId folderId input'
      refine ⟨_, _, _, .operation (.createCredential id workspaceId folderId input
        (changed input.credentials)), alike_refl (tablesWith userId workspaceId folderId []), ?_⟩
      rw [shown, shown']
      exact differ (by rw [hleft, hright]; exact (changed_ne _).symm)
    | updateCredential workspaceId folderId id input =>
      obtain ⟨left, hleft, shown⟩ := updated_shown nfkd 0 userId workspaceId folderId id input []
      cases supplied : input.credentials with
      | none =>
        -- What is stored is shown.
        obtain ⟨right, hright, shown'⟩ :=
          updated_shown nfkd 0 userId workspaceId folderId id input (changed [])
        refine ⟨_, _, _, .same _, alike_payload userId workspaceId folderId id [] (changed []), ?_⟩
        rw [shown, shown']
        exact differ (by rw [hleft, hright, supplied]; exact (changed_ne _).symm)
      | some payload =>
        let input' := { input with credentials := some (changed payload) }
        obtain ⟨right, hright, shown'⟩ := updated_shown nfkd 0 userId workspaceId folderId id input' []
        refine ⟨_, _, _, .operation (.updateCredential workspaceId folderId id input payload
          (changed payload) supplied), alike_refl (tablesWith userId workspaceId folderId
            [connectionWith workspaceId folderId id []]), ?_⟩
        rw [shown, shown']
        exact differ (by rw [hleft, hright, supplied]; exact (changed_ne _).symm)
    | listFolderCredentials workspaceId folderId =>
      refine ⟨_, _, _, .same _, alike_payload userId workspaceId folderId "id" [] (changed []), ?_⟩
      rw [listed_shown, listed_shown]
      simp [connectionWith, insertedConnection, toConnectionEntity, changed]
    | _ => exact shows.elim
  | _ => exact shows.elim

/-- Runs that differ only in payloads get the same responses as long as no request is one
that answers with credentials; and of those, each shows the payload somewhere. -/
theorem credentials_write_only_iff (nfkd : String → String) :
    (∀ requests requests' tables tables', List.Forall₂ SameCall requests requests' →
      Alike tables tables' → (∀ r ∈ requests, ¬ShowsCredential r.request) →
      serve nfkd requests tables = serve nfkd requests' tables') ∧
    ∀ userId request,
      (∀ request' tables tables', SameRequest request request' → Alike tables tables' →
        serve nfkd [⟨userId, 0, request⟩] tables = serve nfkd [⟨userId, 0, request'⟩] tables') ↔
      ¬ShowsCredential request := by
  refine ⟨fun _ _ _ _ same alike plain => serve_eq nfkd same alike plain, fun userId request => ?_⟩
  constructor
  · intro hidden shows
    obtain ⟨request', tables, tables', same, alike, differ⟩ := shows_payload nfkd userId request shows
    exact differ (List.cons.inj (hidden request' tables tables' same alike)).1
  · intro plain request' tables tables' same alike
    have call : SameCall ⟨userId, 0, request⟩ ⟨userId, 0, request'⟩ := ⟨rfl, rfl, same⟩
    refine serve_eq nfkd (.cons call .nil) alike ?_
    exact List.forall_mem_singleton.mpr plain

/-- The response to a created credential is the credential. -/
theorem credentials_not_write_only :
    ¬∀ requests requests' tables tables', List.Forall₂ SameCall requests requests' →
      Alike tables tables' → serve id requests tables = serve id requests' tables' := by
  intro hidden
  let input : CreateCredentialRequest := ⟨"Stripe", "api_key", "stripe", [("key", .string "a")], none⟩
  let request (payload : JsonObject) : ClientRequest := ⟨"alice", 0, .operation
    (.createCredential "id" "ws" "folder" { input with credentials := payload })⟩
  have same : SameCall (request [("key", .string "a")]) (request [("key", .string "b")]) :=
    ⟨rfl, rfl, .operation (.createCredential "id" "ws" "folder" input [("key", .string "b")])⟩
  have served := hidden [request [("key", .string "a")]] [request [("key", .string "b")]]
    (tablesWith "alice" "ws" "folder" []) _ (.cons same .nil) (alike_refl _)
  obtain ⟨left, hleft, shown⟩ := created_shown id 0 "alice" "id" "ws" "folder" input
  obtain ⟨right, hright, shown'⟩ := created_shown id 0 "alice" "id" "ws" "folder"
    { input with credentials := [("key", .string "b")] }
  have heads := (List.cons.inj served).1
  have heads : Except.ok (Response.credential left) = Except.ok (Response.credential right) :=
    (shown.symm.trans heads).trans shown'
  simp only [Except.ok.injEq, Response.credential.injEq] at heads
  have payloads := hleft.symm.trans ((congrArg Connection.credentials heads).trans hright)
  simp [input] at payloads

end TenantOS.Tenancy
