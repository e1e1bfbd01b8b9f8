import TenantOS.Workspaces.Namespaces

/-! A partial update passes through the service and the repository, field by field. The
value of a variable gets lost on the way: the service hands it on under another name. -/
namespace TenantOS.Workspaces

open TenantOS.Domain TenantOS.Infrastructure TenantOS.Relational TenantOS.Application
open TenantOS.Tenancy (prismaRepositories)

/-! What a request asks for. A field that was not supplied is kept. -/

def suppliedWorkflow (input : UpdateWorkflowRequest) (updatedAt : Date) (row : WorkflowRow) :
    WorkflowRow :=
  { row with
    name := input.name.getD row.name
    slug := input.slug.getD row.slug
    description := (input.description.map some).getD row.description
    settings := (input.settings.map .object).getD row.settings
    metadata := (input.metadata.map .object).getD row.metadata
    updatedAt := updatedAt }

def suppliedVariable (input : UpdateVariableRequest) (updatedAt : Date) (row : VariableRow) :
    VariableRow :=
  { row with
    name := input.name.getD row.name
    value := input.value.getD row.value
    updatedAt := updatedAt }

def suppliedCredential (input : UpdateCredentialRequest) (updatedAt : Date) (row : ConnectionRow) :
    ConnectionRow :=
  { row with
    name := input.name.getD row.name
    type := input.type.getD row.type
    provider := input.provider.getD row.provider
    credentials := (input.credentials.map .object).getD row.credentials
    metadata := (input.metadata.map .object).getD row.metadata
    updatedAt := updatedAt }

/-- The row with the id is replaced by what `supplied` makes of it, and the others stay. -/
def Replaces {Row : Type} (id : Row → Uuid) (target : Uuid) (supplied : Date → Row → Row)
    (rows rows' : List Row) (row' : Row) : Prop :=
  ∃ row ∈ rows, id row = target ∧ (∃ updatedAt, row' = supplied updatedAt row) ∧
    rows' = rows.map fun other => if id other = target then row' else other

def PartialUpdate : Operation → Prop
  | .updateWorkflow .. | .updateVariable .. | .updateCredential .. => True
  | _ => False

/-- The row the operation names has the supplied fields and keeps the rest, every other
row of every table is as it was, and the outcome is the stored row. -/
def WrittenAsSupplied (tables tables' : Tables) : Operation → Outcome → Prop
  | .updateWorkflow _ _ workflowId input, .workflow workflow =>
      ∃ rows row, Replaces (·.id) workflowId (suppliedWorkflow input) tables.workflows rows row ∧
        tables' = { tables with workflows := rows } ∧
        workflow = PrismaWorkflowRepository.withCurrentVersion tables'.workflowVersions row
  | .updateVariable _ _ variableId input, .variable «variable» =>
      ∃ rows row, Replaces (·.id) variableId (suppliedVariable input) tables.variables rows row ∧
        tables' = { tables with «variables» := rows } ∧ «variable» = toVariableEntity row
  | .updateCredential _ _ credentialId input, .credential credential =>
      ∃ rows row, Replaces (·.id) credentialId (suppliedCredential input) tables.connections rows
          row ∧
        tables' = { tables with connections := rows } ∧ credential = toConnectionEntity row
  | _, _ => False

/-- A value is supplied for a variable that has another. -/
def DropsValue (tables : Tables) : Operation → Prop
  | .updateVariable _ _ variableId input =>
      ∃ value, input.value = some value ∧
        ∃ row ∈ tables.variables, row.id = variableId ∧ row.value ≠ value
  | _ => False

/-! What an update that succeeds has done. -/

section

variable {α β : Type} {now : Date} {tables tables' : Tables}

/-- The check of the folder reads only. -/
theorem ok_of_assertFolder {workspaceId folderId userId : Uuid} {action : Atomic α}
    {outcome : α → β} {value : β}
    (h : ((do
        WorkspaceService.assertFolder prismaWorkspaces prismaFolders workspaceId folderId userId
        action) >>= fun row => (pure (outcome row) : Atomic β)) now tables = (.ok value, tables')) :
    ∃ row, action now tables = (.ok row, tables') ∧ value = outcome row := by
  obtain ⟨row, between, called, returned⟩ := Atomic.ok_of_bind h
  obtain ⟨checked, start, gate, acted⟩ := Atomic.ok_of_bind called
  have unchanged : (WorkspaceService.assertFolder prismaWorkspaces prismaFolders workspaceId folderId
      userId now tables).2 = tables := keeps_assertFolder (P := (· = tables)) now tables rfl
  rw [gate] at unchanged
  cases unchanged
  cases returned
  exact ⟨row, acted, rfl⟩

/-- With the key unique, an update scoped by more than the key is an update by the key. -/
theorem replaced_of_updateRow {Row : Type} {clash : Row → Row → Option (List String)}
    {id : Row → Uuid} {target : Uuid} {whereClause : Row → Bool} {data : Row → Row}
    {rows rows' : List Row} {row' : Row} (unique : UniqueKey id rows)
    (named : ∀ row, whereClause row → id row = target)
    (h : updateRow clash id whereClause data rows = .ok (row', rows')) :
    ∃ row ∈ rows, id row = target ∧ row' = data row ∧
      rows' = rows.map fun other => if id other = target then row' else other := by
  obtain ⟨row, mem, matched, rfl, rfl⟩ := updateRow_ok h
  refine ⟨row, mem, named row matched, rfl, ?_⟩
  apply List.map_congr_left
  intro other hother
  by_cases same : id other = target
  · obtain rfl := unique.eq_of_mem hother mem (same.trans (named row matched).symm)
    rw [if_pos matched, if_pos same]
  · rw [if_neg same, if_neg fun matched => same (named other matched)]

end

section

variable {nfkd : String → String} {tables tables' : Tables} {userId workspaceId folderId : Uuid}
  {now : Date} {outcome : Outcome}

theorem updateWorkflow_written {workflowId : Uuid} {input : UpdateWorkflowRequest}
    (keys : PrimaryKeys tables)
    (h : perform prismaRepositories nfkd userId
      (.updateWorkflow workspaceId folderId workflowId input) now tables = (.ok outcome, tables')) :
    WrittenAsSupplied tables tables' (.updateWorkflow workspaceId folderId workflowId input)
      outcome := by
  obtain ⟨workflow, updated, rfl⟩ := ok_of_assertFolder h
  simp only [prismaRepositories, prismaWorkflows, PrismaWorkflowRepository.update] at updated
  obtain ⟨⟨row', rows⟩, settled, stored⟩ := ok_of_write updated
  cases stored
  obtain ⟨row, mem, same, rfl, replaced⟩ := replaced_of_updateRow keys.workflows
    (fun row inside => of_decide_eq_true (Bool.and_eq_true_iff.mp inside).1) settled
  exact ⟨rows, _, ⟨row, mem, same, ⟨now, rfl⟩, replaced⟩, rfl, rfl⟩

theorem updateCredential_written {credentialId : Uuid} {input : UpdateCredentialRequest}
    (keys : PrimaryKeys tables)
    (h : perform prismaRepositories nfkd userId
      (.updateCredential workspaceId folderId credentialId input) now tables =
        (.ok outcome, tables')) :
    WrittenAsSupplied tables tables' (.updateCredential workspaceId folderId credentialId input)
      outcome := by
  obtain ⟨credential, updated, rfl⟩ := ok_of_assertFolder h
  simp only [prismaRepositories, prismaConnections, PrismaConnectionRepository.update] at updated
  obtain ⟨⟨row', rows⟩, settled, stored⟩ := ok_of_write updated
  cases stored
  obtain ⟨row, mem, same, rfl, replaced⟩ := replaced_of_updateRow keys.connections
    (fun row inside => of_decide_eq_true (Bool.and_eq_true_iff.mp inside).1) settled
  exact ⟨rows, _, ⟨row, mem, same, ⟨now, rfl⟩, replaced⟩, rfl, rfl⟩

theorem updateVariable_written_iff {variableId : Uuid} {input : UpdateVariableRequest}
    (keys : PrimaryKeys tables)
    (h : perform prismaRepositories nfkd userId
      (.updateVariable workspaceId folderId variableId input) now tables = (.ok outcome, tables')) :
    WrittenAsSupplied tables tables' (.updateVariable workspaceId folderId variableId input)
      outcome ↔ ¬ DropsValue tables (.updateVariable workspaceId folderId variableId input) := by
  obtain ⟨«variable», updated, rfl⟩ := ok_of_assertFolder h
  simp only [prismaRepositories, prismaVariables, PrismaVariableRepository.update] at updated
  obtain ⟨⟨row', rows⟩, settled, stored⟩ := ok_of_write updated
  cases stored
  obtain ⟨row, mem, same, rfl, rfl⟩ := replaced_of_updateRow keys.variables
    (fun row inside => of_decide_eq_true (Bool.and_eq_true_iff.mp inside).1) settled
  constructor
  · rintro ⟨rows, row', ⟨before, hbefore, named, ⟨updatedAt, rfl⟩, rfl⟩, stored, -⟩
      ⟨value, supplied, other, hother, named', differs⟩
    obtain rfl := keys.variables.eq_of_mem hbefore mem (named.trans same.symm)
    obtain rfl := keys.variables.eq_of_mem hother mem (named'.trans same.symm)
    have written := List.map_inj_left.mp (congrArg Tables.variables stored) other mem
    rw [if_pos same, if_pos same] at written
    have value' : other.value = input.value.getD other.value := congrArg VariableRow.value written
    rw [supplied] at value'
    exact differs value'
  · intro kept
    have value' : row.value = input.value.getD row.value := by
      cases supplied : input.value with
      | none => rfl
      | some value =>
        by_contra differs
        exact kept ⟨value, supplied, row, mem, same, differs⟩
    refine ⟨_, _, ⟨row, mem, same, ⟨row.updatedAt, rfl⟩, rfl⟩, ?_, ?_⟩
    · simp only [suppliedVariable, updatedVariable, ← value', Option.getD_none]
    · simp only [suppliedVariable, updatedVariable, ← value', Option.getD_none]

/-- A partial update that succeeds writes exactly what was supplied, unless it is a new
value for a variable. Every reachable state has its primary keys. -/
theorem partial_update_writes_supplied_iff {op : Operation} (keys : PrimaryKeys tables)
    (partially : PartialUpdate op)
    (h : perform prismaRepositories nfkd userId op now tables = (.ok outcome, tables')) :
    WrittenAsSupplied tables tables' op outcome ↔ ¬ DropsValue tables op := by
  cases op with
  | updateWorkflow => exact iff_of_true (updateWorkflow_written keys h) id
  | updateCredential => exact iff_of_true (updateCredential_written keys h) id
  | updateVariable => exact updateVariable_written_iff keys h
  | _ => exact partially.elim

end

/-! A variable that is renamed, and given another value. -/

def oneVariable : Tables :=
  (perform prismaRepositories id "ann" (.createVariable "v1" "w1" "f1" ⟨"RETRIES", "3"⟩) 0
    oneWorkspace).2

theorem oneVariable_reachable : Reachable id oneVariable :=
  .step oneWorkspace_reachable "ann" (.createVariable "v1" "w1" "f1" ⟨"RETRIES", "3"⟩) 0

/-- The update of the variable, at 60 seconds. -/
def changeVariable (input : UpdateVariableRequest) : Except Failure Outcome × Tables :=
  perform prismaRepositories id "ann" (.updateVariable "w1" "f1" "v1" input) 60000 oneVariable

theorem partial_update_writes_supplied_renamed :
    WrittenAsSupplied oneVariable (changeVariable ⟨some "TRIES", none⟩).2
      (.updateVariable "w1" "f1" "v1" ⟨some "TRIES", none⟩)
      (.variable ⟨"v1", "w1", "f1", "TRIES", "3", false, 0, 0⟩) := by
  have h : perform prismaRepositories id "ann"
      (.updateVariable "w1" "f1" "v1" ⟨some "TRIES", none⟩) 60000 oneVariable =
        (.ok (.variable ⟨"v1", "w1", "f1", "TRIES", "3", false, 0, 0⟩),
          (changeVariable ⟨some "TRIES", none⟩).2) := rfl
  have partially : PartialUpdate (.updateVariable "w1" "f1" "v1" ⟨some "TRIES", none⟩) := trivial
  apply (partial_update_writes_supplied_iff oneVariable_reachable.primaryKeys partially h).mpr
  rintro ⟨value, supplied, -⟩
  cases supplied

/-- The new value is nowhere in the tables, and the answer is a success. -/
theorem new_value_not_written :
    ¬ ∀ (nfkd : String → String) (tables tables' : Tables) (userId : Uuid) (op : Operation)
      (now : Date) (outcome : Outcome), Reachable nfkd tables → PartialUpdate op →
      perform prismaRepositories nfkd userId op now tables = (.ok outcome, tables') →
      WrittenAsSupplied tables tables' op outcome := by
  intro claim
  obtain ⟨rows, row, ⟨before, hbefore, -, ⟨updatedAt, rfl⟩, -⟩, -, shown⟩ :=
    claim id oneVariable _ "ann" (.updateVariable "w1" "f1" "v1" ⟨none, some "5"⟩) 60000
      (.variable ⟨"v1", "w1", "f1", "RETRIES", "3", false, 0, 0⟩) oneVariable_reachable trivial rfl
  have value : "3" = "5" := congrArg Variable.value shown
  exact absurd value (by decide)

end TenantOS.Workspaces
