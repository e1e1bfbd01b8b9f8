import TenantOS.Tenancy.Isolation
import TenantOS.Workspaces.Reachable

/-! A workflow always has a current version. Each workflow and its one version name each
other, whatever the clients do; so no listing shows a workflow without its version, and
no version outlives its workflow. -/
namespace TenantOS.Workspaces

open TenantOS.Domain TenantOS.Infrastructure TenantOS.Relational TenantOS.Interleaving
open TenantOS.Application
open TenantOS.Tenancy (RepositoryCall service emptyTables)

/-! What each write keeps, each call keeps, and so does a run. -/

section

variable {P Q : Tables → Prop}

theorem KeptByWrites.call (writes : KeptByWrites P) (c : RepositoryCall) : Keeps P c.run := by
  cases c with
  | workspaces c =>
    cases c with
    | create input => exact writes.createWorkspace input
    | _ => exact Keeps.query
  | folders c =>
    cases c with
    | create input => exact writes.createFolder input
    | rename id workspaceId input => exact writes.renameFolder id workspaceId input
    | _ => exact Keeps.query
  | workflows c =>
    cases c with
    | create input => exact writes.createWorkflow input
    | update id folderId input => exact writes.updateWorkflow id folderId input
    | delete id folderId => exact writes.deleteWorkflow id folderId
    | _ => exact Keeps.query
  | «variables» c =>
    cases c with
    | create input => exact writes.createVariable input
    | update id folderId input => exact writes.updateVariable id folderId input
    | delete id folderId => exact writes.deleteVariable id folderId
    | _ => exact Keeps.query
  | connections c =>
    cases c with
    | create input => exact writes.createConnection input
    | update id folderId input => exact writes.updateConnection id folderId input
    | delete id folderId => exact writes.deleteConnection id folderId
    | _ => exact Keeps.query

/-- Whatever the clients do, and whichever of their calls fail. -/
theorem KeptByWrites.run (writes : KeptByWrites P) {nfkd : String → String}
    {w w' : World (service nfkd)} {es : List (Event (service nfkd))} (initial : P w.store)
    (hrun : w.run es = some w') : P w'.store := by
  refine World.run_invariant (P := fun w => P w.store) (fun w e w' holds hstep => ?_) initial hrun
  cases hstep with
  | join command => exact holds
  | @resume i fate t c next reply store thread waiting settled =>
    rcases fate.settle_store settled with rfl | ⟨now, reply', answered⟩
    · exact holds
    · have moved : store = (c.run now w.store).2 :=
        congrArg Prod.snd (Option.some.inj answered).symm
      exact (congrArg P moved).mpr (writes.call c now w.store holds)

theorem Keeps.both {α : Type} {action : Atomic α} (first : Keeps P action)
    (second : ∀ now tables, P tables → Q tables → Q (action now tables).2) :
    Keeps (fun tables => P tables ∧ Q tables) action :=
  fun now tables holds => ⟨first now tables holds.1, second now tables holds.1 holds.2⟩

end

/-- Workflows and versions name each other. -/
structure Current (tables : Tables) : Prop where
  version : ∀ workflow ∈ tables.workflows, ∃ version ∈ tables.workflowVersions,
    workflow.currentVersionId = some version.id ∧ version.workflowId = workflow.id
  workflow : ∀ version ∈ tables.workflowVersions, ∃ workflow ∈ tables.workflows,
    workflow.id = version.workflowId ∧ workflow.currentVersionId = some version.id

abbrev Linked (tables : Tables) : Prop := PrimaryKeys tables ∧ Current tables

theorem linked_empty : Linked emptyTables :=
  ⟨⟨List.nodup_nil, List.nodup_nil, List.nodup_nil, List.nodup_nil, List.nodup_nil,
    List.nodup_nil⟩, ⟨List.forall_mem_nil _, List.forall_mem_nil _⟩⟩

section

variable {tables : Tables}

theorem current_created {input : CreateWorkflowInput} {now : Date} {workflows : List WorkflowRow}
    {versions : List WorkflowVersionRow} {referenced referenced' : Bool} (current : Current tables)
    (workflow : insertRow workflowsClash referenced (insertedWorkflow input now) tables.workflows =
      .ok workflows)
    (version : insertRow workflowVersionsClash referenced' (insertedVersion input now)
      tables.workflowVersions = .ok versions) :
    Current { tables with
      workflows := updateMany (fun row => row.id = input.id)
        (fun row => { row with currentVersionId := some input.initialVersionId, updatedAt := now })
        workflows
      workflowVersions := versions } := by
  obtain ⟨free, -, rfl⟩ := insertRow_ok workflow
  obtain ⟨-, -, rfl⟩ := insertRow_ok version
  have others (row : WorkflowRow) (mem : row ∈ tables.workflows) : row.id ≠ input.id :=
    (collision_eq_none.mp (free row mem)).1.symm
  -- the link is written to the new row only
  have kept {row : WorkflowRow} (mem : row ∈ tables.workflows) :
      row ∈ updateMany (fun row => row.id = input.id)
        (fun row => { row with currentVersionId := some input.initialVersionId, updatedAt := now })
        (tables.workflows ++ [insertedWorkflow input now]) :=
    mem_updateMany.mpr ⟨row, List.mem_append_left _ mem, by simp [others row mem]⟩
  refine ⟨fun row mem => ?_, fun row mem => ?_⟩
  · obtain ⟨before, present, rfl⟩ := mem_updateMany.mp mem
    rcases List.mem_append.mp present with old | new
    · obtain ⟨version, held, names⟩ := current.version before old
      refine ⟨version, List.mem_append_left _ held, ?_⟩
      simpa [others before old] using names
    · cases List.mem_singleton.mp new
      refine ⟨insertedVersion input now, List.mem_append_right _ (List.mem_singleton_self _), ?_⟩
      simp [insertedWorkflow, insertedVersion]
  · rcases List.mem_append.mp mem with old | new
    · obtain ⟨workflow, held, names⟩ := current.workflow row old
      exact ⟨workflow, kept held, names⟩
    · cases List.mem_singleton.mp new
      exact ⟨_, mem_updateMany.mpr ⟨insertedWorkflow input now,
        List.mem_append_right _ (List.mem_singleton_self _), rfl⟩, by simp [insertedWorkflow, insertedVersion]⟩

/-- An update of a workflow touches neither its id nor its link. -/
theorem current_updated {whereClause : WorkflowRow → Bool} {input : UpdateWorkflowInput} {now : Date}
    (current : Current tables) :
    Current { tables with
      workflows := updateMany whereClause (updatedWorkflow input now) tables.workflows } := by
  refine ⟨fun row mem => ?_, fun row mem => ?_⟩
  · obtain ⟨before, present, rfl⟩ := mem_updateMany.mp mem
    obtain ⟨version, held, names⟩ := current.version before present
    refine ⟨version, held, ?_⟩
    split <;> exact names
  · obtain ⟨workflow, held, names⟩ := current.workflow row mem
    refine ⟨_, mem_updateMany.mpr ⟨workflow, held, rfl⟩, ?_⟩
    split <;> exact names

/-- The cascade takes the versions of the deleted workflow, and of no other. -/
theorem current_deleted {id folderId : Uuid} {row : WorkflowRow} {workflows : List WorkflowRow}
    (keys : PrimaryKeys tables) (current : Current tables)
    (deleted : deleteRow (PrismaWorkflowRepository.inFolder id folderId) tables.workflows =
      .ok (row, workflows)) :
    Current { tables with
      workflows := workflows
      workflowVersions := deleteMany (fun version => version.workflowId = id)
        tables.workflowVersions } := by
  obtain ⟨mem, matched, rfl⟩ := deleteRow_ok deleted
  have named : row.id = id := by
    simp only [PrismaWorkflowRepository.inFolder, Bool.and_eq_true, decide_eq_true_eq] at matched
    exact matched.1
  have kept {other : WorkflowRow} (held : other ∈ tables.workflows) :
      PrismaWorkflowRepository.inFolder id folderId other = false ↔ other.id ≠ id := by
    constructor
    · intro unmatched same
      cases keys.workflows.eq_of_mem held mem (same.trans named.symm)
      cases matched.symm.trans unmatched
    · intro distinct
      simp [PrismaWorkflowRepository.inFolder, distinct]
  refine ⟨fun other held => ?_, fun version held => ?_⟩
  · obtain ⟨held, unmatched⟩ := mem_deleteMany.mp held
    obtain ⟨version, hversion, names, belongs⟩ := current.version other held
    refine ⟨version, mem_deleteMany.mpr ⟨hversion, ?_⟩, names, belongs⟩
    simpa [belongs] using (kept held).mp unmatched
  · obtain ⟨held, survives⟩ := mem_deleteMany.mp held
    obtain ⟨workflow, hworkflow, belongs, names⟩ := current.workflow version held
    refine ⟨workflow, mem_deleteMany.mpr ⟨hworkflow, ?_⟩, belongs, names⟩
    exact (kept hworkflow).mpr (by simpa [belongs] using survives)

end

/-- A write to the other tables keeps it. -/
theorem current_write {α β : Type} {translate : Failure → Failure}
    {statement : Tables → Except Failure α} {store : α → Tables → β × Tables}
    (workflows : ∀ value tables, (store value tables).2.workflows = tables.workflows)
    (versions : ∀ value tables, (store value tables).2.workflowVersions = tables.workflowVersions)
    (now : Date) (tables : Tables) (_ : PrimaryKeys tables) (current : Current tables) :
    Current (write translate statement store now tables).2 := by
  refine Keeps.write (P := Current) now (fun value tables current _ => ?_) tables current
  constructor
  · rw [workflows, versions]
    exact current.version
  · rw [workflows, versions]
    exact current.workflow

theorem linked_createWorkflow (input : CreateWorkflowInput) :
    Keeps Linked (PrismaWorkflowRepository.create input) := by
  refine (primaryKeys_createWorkflow input).both fun now tables _ current => ?_
  apply Keeps.write (P := Current) now _ tables current
  rintro ⟨workflows, versions⟩ tables current stored
  obtain ⟨workflows, workflow, stored⟩ := ok_of_bind stored
  obtain ⟨versions, version, stored⟩ := ok_of_bind stored
  cases stored
  exact current_created current workflow version

theorem linked_deleteWorkflow (id folderId : Uuid) :
    Keeps Linked (PrismaWorkflowRepository.delete id folderId) := by
  refine (primaryKeys_deleteWorkflow id folderId).both fun now tables keys current => ?_
  refine (Keeps.write (P := Linked) now (fun ⟨row, workflows⟩ tables linked stored => ?_) tables
    ⟨keys, current⟩).2
  exact ⟨{ linked.1 with
    workflows := uniqueKey_deleteRow stored linked.1.workflows
    workflowVersions := linked.1.workflowVersions.deleteMany },
    current_deleted linked.1 linked.2 stored⟩

theorem linked_updateWorkflow (id folderId : Uuid) (input : UpdateWorkflowInput) :
    Keeps Linked (PrismaWorkflowRepository.update id folderId input) := by
  refine (primaryKeys_writes.updateWorkflow id folderId input).both fun now tables _ current => ?_
  apply Keeps.write (P := Current) now _ tables current
  rintro ⟨row, workflows⟩ tables current stored
  obtain ⟨before, -, -, -, rfl⟩ := updateRow_ok stored
  exact current_updated current

theorem linked_writes : KeptByWrites Linked where
  createWorkspace := fun input => (primaryKeys_writes.createWorkspace input).both fun now =>
    current_write (fun _ _ => rfl) (fun _ _ => rfl) now
  createFolder := fun input => (primaryKeys_writes.createFolder input).both fun now =>
    current_write (fun _ _ => rfl) (fun _ _ => rfl) now
  renameFolder := fun id workspaceId input =>
    (primaryKeys_writes.renameFolder id workspaceId input).both fun now =>
      current_write (fun _ _ => rfl) (fun _ _ => rfl) now
  createWorkflow := linked_createWorkflow
  updateWorkflow := linked_updateWorkflow
  deleteWorkflow := linked_deleteWorkflow
  createVariable := fun input => (primaryKeys_writes.createVariable input).both fun now =>
    current_write (fun _ _ => rfl) (fun _ _ => rfl) now
  updateVariable := fun id folderId input =>
    (primaryKeys_writes.updateVariable id folderId input).both fun now =>
      current_write (fun _ _ => rfl) (fun _ _ => rfl) now
  deleteVariable := fun id folderId =>
    (primaryKeys_writes.deleteVariable id folderId).both fun now =>
      current_write (fun _ _ => rfl) (fun _ _ => rfl) now
  createConnection := fun input => (primaryKeys_writes.createConnection input).both fun now =>
    current_write (fun _ _ => rfl) (fun _ _ => rfl) now
  updateConnection := fun id folderId input =>
    (primaryKeys_writes.updateConnection id folderId input).both fun now =>
      current_write (fun _ _ => rfl) (fun _ _ => rfl) now
  deleteConnection := fun id folderId =>
    (primaryKeys_writes.deleteConnection id folderId).both fun now =>
      current_write (fun _ _ => rfl) (fun _ _ => rfl) now

/-- The current version is joined to its workflow. -/
theorem withCurrentVersion_of_linked {tables : Tables} (linked : Linked tables) {row : WorkflowRow}
    (mem : row ∈ tables.workflows) :
    ∃ version ∈ tables.workflowVersions, version.workflowId = row.id ∧
      row.currentVersionId = some version.id ∧
      PrismaWorkflowRepository.withCurrentVersion tables.workflowVersions row =
        toWorkflowWithRelationsEntity row (some version) := by
  obtain ⟨version, held, names, belongs⟩ := linked.2.version row mem
  refine ⟨version, held, belongs, names, ?_⟩
  have found : tables.workflowVersions.find? (fun other => some other.id = row.currentVersionId) =
      some version := by
    simp only [names, Option.some.injEq]
    exact linked.1.workflowVersions.find_eq_some.mpr ⟨held, rfl⟩
  rw [PrismaWorkflowRepository.withCurrentVersion, found]

/-- Each workflow has exactly one version, which is its current one, each version has its
workflow, and every listing shows the one with the other. -/
theorem workflows_always_current {nfkd : String → String} {w w' : World (service nfkd)}
    {es : List (Event (service nfkd))} (linked : Linked w.store) (hrun : w.run es = some w') :
    (∀ workflow ∈ w'.store.workflows, ∃ version ∈ w'.store.workflowVersions,
      workflow.currentVersionId = some version.id ∧
        ∀ other ∈ w'.store.workflowVersions, other.workflowId = workflow.id ↔ other = version) ∧
    (∀ version ∈ w'.store.workflowVersions, ∃ workflow ∈ w'.store.workflows,
      workflow.id = version.workflowId ∧ workflow.currentVersionId = some version.id) ∧
    ∀ whereClause, ∀ workflow ∈ PrismaWorkflowRepository.workflowsWhere whereClause w'.store,
      ∃ version, workflow.version = some version ∧ workflow.currentVersionId = some version.id ∧
        version.workflowId = workflow.id := by
  have linked' := linked_writes.run linked hrun
  refine ⟨fun workflow mem => ?_, linked'.2.workflow, fun whereClause workflow shown => ?_⟩
  · obtain ⟨version, held, names, belongs⟩ := linked'.2.version workflow mem
    refine ⟨version, held, names, fun other present => ⟨fun same => ?_, fun same => same ▸ belongs⟩⟩
    obtain ⟨owner, howner, owns, current⟩ := linked'.2.workflow other present
    cases linked'.1.workflows.eq_of_mem howner mem (owns.trans same)
    exact linked'.1.workflowVersions.eq_of_mem present held (Option.some.inj (current.symm.trans names))
  · obtain ⟨row, hrow, rfl⟩ := List.mem_map.mp shown
    have mem : row ∈ w'.store.workflows :=
      (List.mem_filter.mp ((List.mergeSort_perm ..).mem_iff.mp hrow)).1
    obtain ⟨version, -, belongs, names, joined⟩ := withCurrentVersion_of_linked linked' mem
    rw [joined]
    exact ⟨toWorkflowVersionEntity version, rfl, names, belongs⟩

theorem sampleTables_keys : PrimaryKeys Tenancy.sampleTables where
  workspaces := (by decide : ["ws-a", "ws-b"].Nodup)
  folders := (by decide : ["folder-a", "folder-b"].Nodup)
  workflows := List.nodup_nil
  workflowVersions := List.nodup_nil
  «variables» := List.nodup_singleton _
  connections := List.nodup_nil

/-! Two workflows are created, and one of them is deleted. -/

def editing : List (Event (service id)) :=
  [.start ⟨"alice", .createWorkflow "flow-1" "v-1" "ws-a" "folder-a" ⟨"F", none, none, none, none⟩⟩,
    .start ⟨"alice", .createWorkflow "flow-2" "v-2" "ws-a" "folder-a" ⟨"G", none, none, none, none⟩⟩,
    .start ⟨"alice", .deleteWorkflow "ws-a" "folder-a" "flow-1"⟩,
    .advance 0 (.answered 1), .advance 1 (.answered 1), .advance 0 (.answered 2),
    .advance 0 (.answered 3), .advance 2 (.answered 3), .advance 1 (.answered 4),
    .advance 2 (.answered 4), .advance 2 (.answered 5), .advance 1 (.answered 6)]

def afterEditing : World (service id) :=
  (Tenancy.sampleWorld.run editing).getD Tenancy.sampleWorld

theorem workflows_always_current_editing :
    ∃ version ∈ afterEditing.store.workflowVersions, version.id = "v-2" ∧
      ∀ other ∈ afterEditing.store.workflowVersions, other.workflowId = "flow-2" ↔ other = version := by
  have linked : Linked Tenancy.sampleWorld.store :=
    ⟨sampleTables_keys, List.forall_mem_nil _, List.forall_mem_nil _⟩
  have current := (workflows_always_current linked
    (rfl : Tenancy.sampleWorld.run editing = some afterEditing)).1
  obtain ⟨version, held, names, only⟩ := current _ (List.mem_singleton_self _)
  exact ⟨version, held, (Option.some.inj names).symm, only⟩

end TenantOS.Workspaces
