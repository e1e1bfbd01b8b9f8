import TenantOS.Workspaces.ConstraintViolations
import TenantOS.Infrastructure.RejectedCalls

/-! Which rejected calls throw an error of the domain. The workflows are matched by a slug
that no index is on, references are not matched at all, and a run blocks a deletion. -/
namespace TenantOS.Workspaces

open TenantOS.Domain TenantOS.Infrastructure TenantOS.Relational

/-! Workflows. -/

section

variable {db : StoredTables} {now : Date} {id folderId : Uuid}

/-- What the index of the names is on. -/
def workflowKey (row : WorkflowRow) : Option (Uuid × Uuid × String) :=
  row.folderId.map fun folderId => (row.workspaceId, folderId, row.name)

/-- The name is taken in the folder. -/
def WorkflowNamed (db : StoredTables) (workspaceId folderId : Uuid) (name : String)
    (row : WorkflowRow) : Prop :=
  row ∈ db.workflows ∧ row.workspaceId = workspaceId ∧ row.folderId = some folderId ∧ row.name = name

theorem workflow_free_iff_unnamed {input : CreateWorkflowInput} :
    (∀ other ∈ db.workflows, workflowsClash (insertedWorkflow input now) other = none) ↔
      (∀ row ∈ db.workflows, row.id ≠ input.id) ∧
        ∀ row, ¬ WorkflowNamed db input.workspaceId input.folderId input.name row := by
  simp only [workflowsClash, collision_eq_none, List.forall_mem_singleton, insertedWorkflow,
    Option.map_some, Option.isSome_some, forall_true_left, WorkflowNamed, not_and]
  constructor
  · intro free
    refine ⟨fun row mem => (free row mem).1.symm, ?_⟩
    intro row mem workspace folder name
    apply (free row mem).2
    simp [workspace, folder, name]
  · rintro ⟨fresh, unnamed⟩ other mem
    refine ⟨(fresh other mem).symm, ?_⟩
    intro same
    obtain ⟨folder, inside, key⟩ := Option.map_eq_some_iff.mp same.symm
    simp only [Prod.mk.injEq] at key
    exact unnamed other mem key.1 (key.2.1 ▸ inside) key.2.2

theorem createWorkflow_iff {input : CreateWorkflowInput} (consistent : Consistent db) :
    (∀ violation, (WriteCall.createWorkflow input).Rejected now db violation →
        Reports (.createWorkflow input) db violation) ↔
      ((∀ row ∈ db.workflows, row.id ≠ input.id) ∧
        ∀ row, ¬ WorkflowNamed db input.workspaceId input.folderId input.name row) ∧
      (hasWorkspace db.toTables input.workspaceId = true ∧
        hasFolder db.toTables input.folderId = true) ∧
      ∀ version ∈ db.workflowVersions, version.id ≠ input.initialVersionId := by
  have first : (∀ violation, InsertRejects workflowsClash
        (hasWorkspace db.toTables input.workspaceId = true ∧
          hasFolder db.toTables input.folderId = true)
        (insertedWorkflow input now) db.workflows violation →
          Reports (.createWorkflow input) db violation) ↔
      (∀ other ∈ db.workflows, workflowsClash (insertedWorkflow input now) other = none) ∧
        (hasWorkspace db.toTables input.workspaceId = true ∧
          hasFolder db.toTables input.folderId = true) := by
    apply insert_unreported_iff (not_reports rfl) _ (not_reports rfl)
    simp only [List.forall_mem_singleton]
    exact not_reports rfl
  -- a workflow that does not exist yet has no versions
  have second (fresh : ∀ row ∈ db.workflows, row.id ≠ input.id) :
      (∀ violation, InsertRejects workflowVersionsClash True (insertedVersion input now)
          db.workflowVersions violation → Reports (.createWorkflow input) db violation) ↔
        ∀ version ∈ db.workflowVersions, version.id ≠ input.initialVersionId := by
    apply insert_key_iff (not_reports rfl) trivial
    intro other mem index memIndex _ same
    cases List.mem_singleton.mp memIndex
    obtain ⟨owner, memOwner, named⟩ := consistent.references.versionWorkflow other mem
    have inside : input.id = other.workflowId := (Prod.ext_iff.mp (Option.some.inj same)).1
    exact fresh owner memOwner (named.trans inside.symm)
  have unnamed : (∀ other ∈ db.workflows, workflowsClash (insertedWorkflow input now) other = none) ↔
      _ := workflow_free_iff_unnamed
  simp only [WriteCall.Rejected, or_imp, forall_and]
  rw [first, ← unnamed]
  constructor
  · rintro ⟨⟨free, referenced⟩, rest⟩
    have fresh := (unnamed.mp free).1
    refine ⟨free, referenced, (second fresh).mp ?_⟩
    intro violation rejects
    exact rest violation ⟨free, referenced, rejects⟩
  · rintro ⟨free, referenced, versions⟩
    have fresh := (unnamed.mp free).1
    refine ⟨⟨free, referenced⟩, ?_⟩
    rintro violation ⟨-, -, rejects⟩
    exact (second fresh).mpr versions violation rejects

theorem inFolder_iff {row : WorkflowRow} : PrismaWorkflowRepository.inFolder id folderId row = true ↔
    row.id = id ∧ row.folderId = some folderId := by
  simp [PrismaWorkflowRepository.inFolder]

/-- The index of the names is not the one an update looks for. -/
theorem updateWorkflow_unreported {input : UpdateWorkflowInput} :
    ¬ Reports (.updateWorkflow id folderId input) db
      (.unique ["workspace_id", "folder_id", "name"]) := by
  have miss : isUniqueViolation (uniqueViolation ["workspace_id", "folder_id", "name"]) "slug" =
      false := by decide
  apply not_reports
  · simp only [WriteCall.translate, PrismaWorkflowRepository.updateFailure, reported, updateFailure,
      miss, Bool.and_false]
    cases input.slug <;> rfl

theorem updateWorkflow_iff {input : UpdateWorkflowInput} (consistent : Consistent db) :
    (∀ violation, (WriteCall.updateWorkflow id folderId input).Rejected now db violation →
        Reports (.updateWorkflow id folderId input) db violation) ↔
      ∀ row ∈ db.workflows, PrismaWorkflowRepository.inFolder id folderId row →
        ∀ name, input.name = some name → ∀ other, other.id ≠ row.id →
          ¬ WorkflowNamed db row.workspaceId folderId name other := by
  have keeps (row : WorkflowRow) : (updatedWorkflow input now row).id = row.id := rfl
  refine (update_iff keeps (reports_missing rfl rfl)).trans ?_
  constructor
  · rintro all row mem matched name supplied other different ⟨mem', workspace, folder, named⟩
    have inside := (inFolder_iff.mp matched).2
    have same : workflowKey (updatedWorkflow input now row) = workflowKey other := by
      simp [workflowKey, updatedWorkflow, inside, folder, workspace, supplied, named]
    have present : (workflowKey (updatedWorkflow input now row)).isSome = true := by
      simp [workflowKey, updatedWorkflow, inside]
    have apart : (updatedWorkflow input now row).id ≠ other.id := different.symm
    have collides : workflowsClash (updatedWorkflow input now row) other =
        some ["workspace_id", "folder_id", "name"] := collision_of_index apart present same
    exact updateWorkflow_unreported
      (all row mem matched other mem' different _ collides _ List.mem_cons_self rfl same)
  · intro free row mem matched other mem' different columns _ index memIndex _ same
    exfalso
    cases List.mem_singleton.mp memIndex
    have inside := (inFolder_iff.mp matched).2
    simp only [updatedWorkflow, inside, Option.map_some] at same
    obtain ⟨folder, held, key⟩ := Option.map_eq_some_iff.mp same.symm
    simp only [Prod.mk.injEq] at key
    obtain ⟨workspace, rfl, name⟩ := key
    cases supplied : input.name with
    | some name' =>
      refine free row mem matched name' supplied other different ⟨mem', workspace, held, ?_⟩
      simpa [supplied] using name
    | none =>
      -- nothing of the key is written, and no two rows had the same one
      have apart := consistent.workflows.apart (fun _ _ => collision_symm) mem mem' (by
        rintro rfl
        exact different rfl)
      have unlike := (collision_eq_none.mp apart).2 _ List.mem_cons_self (by simp [inside])
      apply unlike
      have name : row.name = other.name := by simpa [supplied] using name.symm
      simp [inside, held, workspace, name]

/-! The deletion of a workflow. -/

/-- A run of the workflow, a step of some run at one of its nodes, or another workflow whose
current version is one of its own. -/
def Blocked (db : StoredTables) (id : Uuid) : Prop :=
  (∃ execution ∈ db.workflowExecutions, execution.workflowId = id) ∨
    (∃ step ∈ db.executionSteps, ∃ node ∈ db.workflowNodes, node.id = step.nodeId ∧
      ∃ version ∈ db.workflowVersions, version.id = node.workflowVersionId ∧
        version.workflowId = id) ∨
    ∃ other ∈ db.workflows, other.id ≠ id ∧ ∃ version ∈ db.workflowVersions,
      other.currentVersionId = some version.id ∧ version.workflowId = id

/-- What is left of a deletion refers to what went with it. -/
theorem dangling_of_blocked (consistent : Consistent db) (blocked : Blocked db id) :
    ¬ References (cascade id db) := by
  intro references
  rcases blocked with ⟨execution, mem, runs⟩ | ⟨step, mem, node, memNode, at_, version, memVersion,
    of_, owned⟩ | ⟨other, mem, different, version, memVersion, current, owned⟩
  · obtain ⟨owner, kept, named⟩ := references.executionWorkflow execution mem
    have gone := (mem_deleteMany.mp kept).2
    simp [named, runs] at gone
  · obtain ⟨node', kept, named⟩ := references.stepNode step mem
    obtain ⟨memNode', gone⟩ := mem_deleteMany.mp kept
    cases consistent.workflowNodes.eq_of_mem memNode' memNode (named.trans at_.symm)
    simp only [List.any_eq_false, Bool.and_eq_true, decide_eq_true_eq, not_and] at gone
    exact gone version memVersion of_ owned
  · obtain ⟨version', kept, named⟩ := references.workflowVersion other
      (mem_deleteMany.mpr ⟨mem, by simpa using different⟩) version.id current
    obtain ⟨memVersion', gone⟩ := mem_deleteMany.mp kept
    cases eq_of_distinct consistent.workflowVersions memVersion' memVersion named
    simp [owned] at gone

/-! What refers to a workflow or a version that stays still finds it. -/

theorem cascade_workflow {workflowId : Uuid} (different : workflowId ≠ id)
    (found : ∃ owner ∈ db.workflows, owner.id = workflowId) :
    ∃ owner ∈ (cascade id db).workflows, owner.id = workflowId := by
  obtain ⟨owner, mem, rfl⟩ := found
  exact ⟨owner, mem_deleteMany.mpr ⟨mem, by simpa using different⟩, rfl⟩

theorem cascade_version {versionId : Uuid}
    (different : ∀ version ∈ db.workflowVersions, version.id = versionId →
      version.workflowId ≠ id)
    (found : ∃ version ∈ db.workflowVersions, version.id = versionId) :
    ∃ version ∈ (cascade id db).workflowVersions, version.id = versionId := by
  obtain ⟨version, mem, rfl⟩ := found
  exact ⟨version, mem_deleteMany.mpr ⟨mem, by simpa using different version mem rfl⟩, rfl⟩

theorem references_of_unblocked (references : References db) (free : ¬ Blocked db id) :
    References (cascade id db) := by
  simp only [Blocked, not_or, not_exists, not_and] at free
  obtain ⟨unrun, unstepped, uncurrent⟩ := free
  exact {
    folderWorkspace := references.folderWorkspace
    workflowWorkspace := fun row mem => references.workflowWorkspace row (mem_deleteMany.mp mem).1
    workflowFolder := fun row mem => references.workflowFolder row (mem_deleteMany.mp mem).1
    workflowVersion := by
      intro row mem versionId current
      obtain ⟨old, kept⟩ := mem_deleteMany.mp mem
      apply cascade_version _ (references.workflowVersion row old versionId current)
      intro version memVersion named
      exact uncurrent row old (by simpa using kept) version memVersion (named ▸ current)
    versionWorkflow := by
      intro row mem
      obtain ⟨old, kept⟩ := mem_deleteMany.mp mem
      exact cascade_workflow (by simpa using kept) (references.versionWorkflow row old)
    variableWorkspace := references.variableWorkspace
    variableFolder := references.variableFolder
    connectionWorkspace := references.connectionWorkspace
    connectionFolder := references.connectionFolder
    nodeVersion := by
      intro row mem
      obtain ⟨old, kept⟩ := mem_deleteMany.mp mem
      simp only [List.any_eq_false, Bool.and_eq_true, decide_eq_true_eq, not_and] at kept
      exact cascade_version kept (references.nodeVersion row old)
    executionWorkflow := by
      intro row mem
      exact cascade_workflow (unrun row mem) (references.executionWorkflow row mem)
    stepExecution := references.stepExecution
    stepNode := by
      intro row mem
      obtain ⟨node, memNode, named⟩ := references.stepNode row mem
      refine ⟨node, mem_deleteMany.mpr ⟨memNode, ?_⟩, named⟩
      simp only [List.any_eq_false, Bool.and_eq_true, decide_eq_true_eq, not_and]
      exact unstepped row mem node memNode named
    stepParent := references.stepParent }

/-- With the versions and their nodes gone, the references that are left hold unless one of
the three is there. -/
theorem cascade_references_iff (consistent : Consistent db) :
    References (cascade id db) ↔ ¬ Blocked db id := by
  constructor
  · intro references blocked
    exact dangling_of_blocked consistent blocked references
  · exact references_of_unblocked consistent.references

theorem deleteWorkflow_iff (consistent : Consistent db) :
    (∀ violation, (WriteCall.deleteWorkflow id folderId).Rejected now db violation →
        Reports (.deleteWorkflow id folderId) db violation) ↔
      ((∃ row ∈ db.workflows, PrismaWorkflowRepository.inFolder id folderId row) →
        ¬ Blocked db id) := by
  refine forall_deleteRejects_iff.trans ?_
  rw [cascade_references_iff consistent, not_not]
  constructor
  · rintro ⟨unreported, -⟩ found blocked
    exact not_reports rfl (unreported found blocked)
  · intro free
    refine ⟨fun found blocked => absurd blocked (free found), fun _ => reports_missing rfl rfl⟩

/-! Every call. -/

/-- What a call needs for each of its violations to be reported. -/
def Reportable (db : StoredTables) : WriteCall → Prop
  | .createWorkspace input => (∀ row ∈ db.workspaces, row.id ≠ input.id) ∧
      ((∃ row ∈ db.workspaces, row.userId = input.userId ∧ row.slug = input.slug) ∨
        ∀ row ∈ db.folders, row.id ≠ input.defaultFolderId)
  | .createFolder input => (∀ row ∈ db.folders, row.id ≠ input.id) ∧
      hasWorkspace db.toTables input.workspaceId = true
  | .createWorkflow input => ((∀ row ∈ db.workflows, row.id ≠ input.id) ∧
        ∀ row, ¬ WorkflowNamed db input.workspaceId input.folderId input.name row) ∧
      (hasWorkspace db.toTables input.workspaceId = true ∧
        hasFolder db.toTables input.folderId = true) ∧
      ∀ version ∈ db.workflowVersions, version.id ≠ input.initialVersionId
  | .updateWorkflow id folderId input =>
      ∀ row ∈ db.workflows, PrismaWorkflowRepository.inFolder id folderId row →
        ∀ name, input.name = some name → ∀ other, other.id ≠ row.id →
          ¬ WorkflowNamed db row.workspaceId folderId name other
  | .deleteWorkflow id folderId =>
      (∃ row ∈ db.workflows, PrismaWorkflowRepository.inFolder id folderId row) → ¬ Blocked db id
  | .createVariable input => (∀ row ∈ db.variables, row.id ≠ input.id) ∧
      hasWorkspace db.toTables input.workspaceId = true ∧
        hasFolder db.toTables input.folderId = true
  | .updateVariable id folderId input => input.name = some "" → ∀ row ∈ db.variables,
      PrismaVariableRepository.inFolder id folderId row →
        ¬ TakenFor (·.id) (·.workspaceId) (·.folderId) (·.name) db.variables row ""
  | .createConnection input => (∀ row ∈ db.connections, row.id ≠ input.id) ∧
      hasWorkspace db.toTables input.workspaceId = true ∧
        hasFolder db.toTables input.folderId = true
  | .updateConnection id folderId input => input.name = some "" → ∀ row ∈ db.connections,
      PrismaConnectionRepository.inFolder id folderId row →
        ¬ TakenFor (·.id) (·.workspaceId) (·.folderId) (·.name) db.connections row ""
  | .renameFolder _ _ _ | .deleteVariable _ _ | .deleteConnection _ _ => True

/-- A call reports all it can be rejected for exactly where it is reportable. -/
theorem violations_reported_iff {call : WriteCall} (consistent : Consistent db) :
    (∀ violation, call.Rejected now db violation → Reports call db violation) ↔
      Reportable db call := by
  cases call with
  | createWorkspace input => exact createWorkspace_iff consistent
  | createFolder input => exact createFolder_iff consistent
  | renameFolder id workspaceId input => exact iff_of_true (renameFolder_reports consistent) trivial
  | createWorkflow input => exact createWorkflow_iff consistent
  | updateWorkflow id folderId input => exact updateWorkflow_iff consistent
  | deleteWorkflow id folderId => exact deleteWorkflow_iff consistent
  | createVariable input => exact createVariable_iff consistent
  | updateVariable id folderId input => exact updateVariable_iff consistent
  | deleteVariable id folderId =>
    exact iff_of_true (delete_reports (reports_missing rfl rfl)) trivial
  | createConnection input => exact createConnection_iff consistent
  | updateConnection id folderId input => exact updateConnection_iff consistent
  | deleteConnection id folderId =>
    exact iff_of_true (delete_reports (reports_missing rfl rfl)) trivial

end

/-! A workspace with one workflow. -/

def importInput : CreateWorkflowInput :=
  ⟨"wf1", "v1", "ws", "folder", "Import", "import", none, none, [], []⟩

/-- What its creation left, by a user who has nothing else. -/
def oneWorkflow : StoredTables where
  workspaces := [insertedWorkspace ⟨"ws", "ann", "Research", "research", none, [], "folder"⟩ 0]
  folders := [insertedDefaultFolder "folder" "ws" 0]
  workflows := [{ insertedWorkflow importInput 0 with currentVersionId := some "v1" }]
  workflowVersions := [insertedVersion importInput 0]
  «variables» := []
  connections := []
  workflowNodes := []
  workflowExecutions := []
  executionSteps := []

theorem oneWorkflow_consistent : Consistent oneWorkflow where
  workspaces := List.pairwise_singleton _ _
  folders := List.pairwise_singleton _ _
  workflows := List.pairwise_singleton _ _
  workflowVersions := List.pairwise_singleton _ _
  «variables» := .nil
  connections := .nil
  workflowNodes := .nil
  workflowExecutions := .nil
  executionSteps := .nil
  references := by
    constructor <;> simp [oneWorkflow, insertedWorkspace, insertedDefaultFolder, insertedWorkflow,
      insertedVersion, importInput]

theorem violations_reported_iff_oneWorkflow :
    (∀ violation, (WriteCall.deleteWorkflow "wf1" "folder").Rejected 1 oneWorkflow violation →
        Reports (.deleteWorkflow "wf1" "folder") oneWorkflow violation) ↔
      Reportable oneWorkflow (.deleteWorkflow "wf1" "folder") :=
  violations_reported_iff oneWorkflow_consistent

/-- A second workflow of the name, under another id and another slug, is refused as if the
database were down. -/
theorem taken_name_unreported :
    Consistent oneWorkflow ∧
      (WriteCall.createWorkflow { importInput with
          id := "wf2", initialVersionId := "v2", slug := "import-2" }).Rejected 1 oneWorkflow
        (.unique ["workspace_id", "folder_id", "name"]) ∧
      ¬ Reports (.createWorkflow { importInput with
          id := "wf2", initialVersionId := "v2", slug := "import-2" }) oneWorkflow
        (.unique ["workspace_id", "folder_id", "name"]) := by
  refine ⟨oneWorkflow_consistent, .inl ?_, not_reports rfl⟩
  exact ⟨_, List.mem_singleton_self _, rfl⟩

end TenantOS.Workspaces
