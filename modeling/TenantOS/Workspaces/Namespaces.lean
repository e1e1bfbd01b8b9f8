import TenantOS.Workspaces.Reachable

/-! The namespace of a user is everything the user owns only if one of the user's
workspaces is the default one, and no operation makes a workspace that. -/
namespace TenantOS.Workspaces

open TenantOS.Domain TenantOS.Infrastructure TenantOS.Relational TenantOS.Application
open TenantOS.Tenancy (prismaRepositories emptyTables)

/-- No workspace is anybody's default. -/
def NoDefault (tables : Tables) : Prop :=
  ∀ row ∈ tables.workspaces, row.isDefault = false

/-- Only one write reaches the workspaces, and it leaves the flag to its column default. -/
theorem noDefault_create (input : CreateWorkspaceInput) :
    Keeps NoDefault (PrismaWorkspaceRepository.create input) := by
  intro now tables holds
  apply Keeps.write now _ tables holds
  rintro ⟨workspaces, folders⟩ tables holds stored
  obtain ⟨workspaces, inserted, stored⟩ := ok_of_bind stored
  obtain ⟨folders, -, stored⟩ := ok_of_bind stored
  cases stored
  obtain ⟨-, -, rfl⟩ := insertRow_ok inserted
  intro row mem
  rcases List.mem_append.mp mem with mem | mem
  · exact holds row mem
  · rw [List.mem_singleton.mp mem]
    rfl

/-- A write to the other tables keeps it. -/
theorem noDefault_write {α β : Type} {translate : Failure → Failure}
    {statement : Date → Tables → Except Failure α} {store : Date → α → Tables → β × Tables}
    (elsewhere : ∀ now value tables, (store now value tables).2.workspaces = tables.workspaces) :
    Keeps NoDefault fun now => write translate (statement now) (store now) now := by
  intro now tables holds
  apply Keeps.write now _ tables holds
  intro value tables holds _
  rw [NoDefault, elsewhere now value tables]
  exact holds

theorem noDefault_writes : KeptByWrites NoDefault where
  createWorkspace := noDefault_create
  createFolder := fun _ => noDefault_write fun _ _ _ => rfl
  renameFolder := fun _ _ _ => noDefault_write fun _ _ _ => rfl
  createWorkflow := fun _ => noDefault_write fun _ _ _ => rfl
  updateWorkflow := fun _ _ _ => noDefault_write fun _ _ _ => rfl
  deleteWorkflow := fun _ _ => noDefault_write fun _ _ _ => rfl
  createVariable := fun _ => noDefault_write fun _ _ _ => rfl
  updateVariable := fun _ _ _ => noDefault_write fun _ _ _ => rfl
  deleteVariable := fun _ _ => noDefault_write fun _ _ _ => rfl
  createConnection := fun _ => noDefault_write fun _ _ _ => rfl
  updateConnection := fun _ _ _ => noDefault_write fun _ _ _ => rfl
  deleteConnection := fun _ _ => noDefault_write fun _ _ _ => rfl

theorem Reachable.noDefault {nfkd : String → String} {tables : Tables}
    (h : Reachable nfkd tables) : NoDefault tables :=
  h.keeps noDefault_writes fun _ mem => by cases mem

/-! What the namespace is to be. -/

def owned (userId : Uuid) (tables : Tables) : List WorkspaceRow :=
  tables.workspaces.filter fun row => row.userId = userId

/-- Exactly the user's workspaces and what is in them, and a default that is one of them. -/
structure Complete (userId : Uuid) (tables : Tables) (snapshot : Namespace) : Prop where
  workspaces : snapshot.workspaces.Perm ((owned userId tables).map toWorkspaceEntity)
  folders : snapshot.folders.Perm ((tables.folders.filter fun row =>
    row.workspaceId ∈ (owned userId tables).map (·.id)).map toFolderEntity)
  workflows : snapshot.workflows.Perm ((tables.workflows.filter fun row =>
    row.workspaceId ∈ (owned userId tables).map (·.id)).map
      (PrismaWorkflowRepository.withCurrentVersion tables.workflowVersions))
  defaultWorkspace : ∀ workspace, snapshot.defaultWorkspace = some workspace →
    workspace ∈ snapshot.workspaces
  defaultFolder : ∀ folder, snapshot.defaultFolder = some folder →
    ∃ workspace, snapshot.defaultWorkspace = some workspace ∧ folder.workspaceId = workspace.id

section

variable {userId : Uuid} {tables : Tables} {now : Date}

def emptyNamespace : Namespace where
  defaultWorkspace := none
  defaultFolder := none
  workspaces := []
  folders := []
  workflows := []

theorem getForUser_undefaulted
    (undefaulted : ∀ row ∈ tables.workspaces, row.userId = userId → row.isDefault = false) :
    NamespaceService.getForUser prismaRepositories userId now tables =
      (.ok emptyNamespace, tables) := by
  have missing : tables.workspaces.find? (fun row => row.userId = userId && row.isDefault) = none := by
    rw [List.find?_eq_none]
    intro row mem both
    rw [Bool.and_eq_true, decide_eq_true_eq] at both
    rw [undefaulted row mem both.1] at both
    cases both.2
  have asked : prismaRepositories.workspaces.findByUserIdAndDefault userId now tables =
      (.ok none, tables) := by
    change (Except.ok ((tables.workspaces.find? _).map toWorkspaceEntity), tables) = _
    rw [missing]
    rfl
  exact Atomic.bind_ok asked

theorem mem_ids {workspaceId : Uuid} :
    workspaceId ∈ ((newestFirst (·.createdAt) (owned userId tables)).map toWorkspaceEntity).map
        (·.id) ↔ workspaceId ∈ (owned userId tables).map (·.id) := by
  rw [List.map_map]
  exact ((List.mergeSort_perm ..).map _).mem_iff

theorem getForUser_defaulted (now : Date) {row : WorkspaceRow}
    (found : tables.workspaces.find? (fun row => row.userId = userId && row.isDefault) = some row) :
    ∃ snapshot, NamespaceService.getForUser prismaRepositories userId now tables =
      (.ok snapshot, tables) ∧ Complete userId tables snapshot := by
  have asked : prismaRepositories.workspaces.findByUserIdAndDefault userId now tables =
      (.ok (some (toWorkspaceEntity row)), tables) := by
    change (Except.ok ((tables.workspaces.find? _).map toWorkspaceEntity), tables) = _
    rw [found]
    rfl
  refine ⟨_, (Atomic.bind_ok asked).trans rfl, ?_, ?_, ?_, ?_, ?_⟩
  · exact (List.mergeSort_perm ..).map toWorkspaceEntity
  · apply List.Perm.trans ((List.mergeSort_perm ..).map toFolderEntity)
    exact .of_eq (congrArg (List.map toFolderEntity)
      (List.filter_congr fun folder _ => decide_eq_decide.mpr mem_ids))
  · apply List.Perm.trans ((List.mergeSort_perm ..).map _)
    exact .of_eq (congrArg (List.map _)
      (List.filter_congr fun workflow _ => decide_eq_decide.mpr mem_ids))
  · rintro _ ⟨⟩
    have mem := List.mem_of_find?_eq_some found
    have both := List.find?_some found
    rw [Bool.and_eq_true, decide_eq_true_eq] at both
    apply List.mem_map_of_mem
    exact (List.mergeSort_perm ..).mem_iff.mpr (List.mem_filter.mpr ⟨mem, decide_eq_true both.1⟩)
  · intro folder reported
    obtain ⟨held, found, rfl⟩ := Option.map_eq_some_iff.mp reported
    have both := List.find?_some found
    rw [Bool.and_eq_true, decide_eq_true_eq] at both
    exact ⟨_, rfl, both.1⟩

theorem complete_empty_iff :
    Complete userId tables emptyNamespace ↔ ∀ row ∈ tables.workspaces, row.userId ≠ userId := by
  constructor
  · intro h row mem same
    have none := h.workspaces.symm.eq_nil
    have held : row ∈ owned userId tables := List.mem_filter.mpr ⟨mem, decide_eq_true same⟩
    rw [List.map_eq_nil_iff.mp none] at held
    cases held
  · intro none
    have nothing : owned userId tables = [] := by
      rw [owned, List.filter_eq_nil_iff]
      intro row mem same
      exact none row mem (of_decide_eq_true same)
    constructor
    · rw [nothing]
      exact .nil
    · simp [nothing, emptyNamespace]
    · simp [nothing, emptyNamespace]
    · intro workspace reported
      cases reported
    · intro folder reported
      cases reported

/-- Of tables in any state: the namespace is everything the user owns if one of the
user's workspaces is the default, or there are none. -/
theorem getForUser_complete (userId : Uuid) (now : Date) (tables : Tables) :
    ∃ snapshot, NamespaceService.getForUser prismaRepositories userId now tables =
        (.ok snapshot, tables) ∧
      (Complete userId tables snapshot ↔
        (∃ row ∈ tables.workspaces, row.userId = userId ∧ row.isDefault) ∨
          ∀ row ∈ tables.workspaces, row.userId ≠ userId) := by
  cases found : tables.workspaces.find? fun row => row.userId = userId && row.isDefault with
  | none =>
    have undefaulted : ∀ row ∈ tables.workspaces, row.userId = userId → row.isDefault = false := by
      intro row mem same
      have := List.find?_eq_none.mp found row mem
      simpa [same] using this
    refine ⟨emptyNamespace, getForUser_undefaulted undefaulted, complete_empty_iff.trans ?_⟩
    constructor
    · exact .inr
    · rintro (⟨row, mem, same, marked⟩ | none)
      · rw [undefaulted row mem same] at marked
        cases marked
      · exact none
  | some row =>
    obtain ⟨snapshot, settled, complete⟩ := getForUser_defaulted now found
    have both := List.find?_some found
    rw [Bool.and_eq_true, decide_eq_true_eq] at both
    exact ⟨snapshot, settled, iff_of_true complete
      (.inl ⟨row, List.mem_of_find?_eq_some found, both.1, both.2⟩)⟩

end

/-- In every state the operations lead to, the namespace of a user is everything
the user owns exactly where that is nothing. -/
theorem namespace_complete_iff {nfkd : String → String} {tables : Tables}
    (reachable : Reachable nfkd tables) (userId : Uuid) (now : Date) :
    (∃ snapshot, NamespaceService.getForUser prismaRepositories userId now tables =
        (.ok snapshot, tables) ∧ Complete userId tables snapshot) ↔
      ∀ row ∈ tables.workspaces, row.userId ≠ userId := by
  obtain ⟨snapshot, settled, complete⟩ := getForUser_complete userId now tables
  have undefaulted : ¬ ∃ row ∈ tables.workspaces, row.userId = userId ∧ row.isDefault := by
    rintro ⟨row, mem, -, marked⟩
    rw [reachable.noDefault row mem] at marked
    cases marked
  constructor
  · rintro ⟨snapshot', settled', whole⟩
    cases settled.symm.trans settled'
    exact (complete.mp whole).resolve_left undefaulted
  · intro none
    exact ⟨snapshot, settled, complete.mpr (.inr none)⟩

def oneWorkspace : Tables :=
  (perform prismaRepositories id "ann"
    (.createWorkspace "w1" "f1" ⟨"Research", some "research", none, none⟩) 0 emptyTables).2

theorem oneWorkspace_reachable : Reachable id oneWorkspace :=
  .step .empty "ann" (.createWorkspace "w1" "f1" ⟨"Research", some "research", none, none⟩) 0

theorem namespace_complete_iff_oneWorkspace :
    (∃ snapshot, NamespaceService.getForUser prismaRepositories "bob" 0 oneWorkspace =
        (.ok snapshot, oneWorkspace) ∧ Complete "bob" oneWorkspace snapshot) ↔
      ∀ row ∈ oneWorkspace.workspaces, row.userId ≠ "bob" :=
  namespace_complete_iff oneWorkspace_reachable "bob" 0

/-- Whoever has just created a workspace is shown none. -/
theorem namespace_misses_workspace :
    ¬ ∃ snapshot, NamespaceService.getForUser prismaRepositories "ann" 0 oneWorkspace =
        (.ok snapshot, oneWorkspace) ∧ Complete "ann" oneWorkspace snapshot := by
  rintro ⟨snapshot, settled, complete⟩
  have shown : NamespaceService.getForUser prismaRepositories "ann" 0 oneWorkspace =
      (.ok emptyNamespace, oneWorkspace) :=
    getForUser_undefaulted fun row mem _ => oneWorkspace_reachable.noDefault row mem
  cases shown.symm.trans settled
  have held : ∃ row ∈ oneWorkspace.workspaces, row.userId = "ann" :=
    ⟨_, List.mem_singleton_self _, rfl⟩
  obtain ⟨row, mem, same⟩ := held
  exact complete_empty_iff.mp complete row mem same

end TenantOS.Workspaces
