import TenantOS.Tenancy.Scope

/-! No client of `WorkspaceService` gets, or gets at, a row of a workspace that is not its
user's. Every operation is its checks and then one call. -/
namespace TenantOS.Tenancy

open TenantOS.Domain TenantOS.Infrastructure TenantOS.Interleaving TenantOS.Relational
open TenantOS.Application

/-- The folder is there, and in a workspace of the user. -/
def FolderInScope (tables : Tables) (userId workspaceId folderId : Uuid) : Prop :=
  Owned tables userId workspaceId ∧ workspaceOf tables folderId = some workspaceId

/-- Whatever sits in a folder of the user is in a workspace of the user. -/
theorem FolderInScope.owned_of_placed {tables : Tables} {userId workspaceId folderId other : Uuid}
    (scope : FolderInScope tables userId workspaceId folderId)
    (placed : workspaceOf tables folderId = some other) : Owned tables userId other := by
  cases Option.some.inj (scope.2.symm.trans placed)
  exact scope.1

/-- Everything an operation names is there and inside what it names it in. -/
def InScope (tables : Tables) (userId : Uuid) : Operation → Prop
  | .createWorkspace .. => True
  | .getWorkspace workspaceId | .listFolders workspaceId | .getDefaultFolder workspaceId
  | .createFolder _ workspaceId _ => Owned tables userId workspaceId
  | .renameFolder workspaceId folderId _ | .listFolderWorkflows workspaceId folderId
  | .listFolderVariables workspaceId folderId | .listFolderCredentials workspaceId folderId
  | .createWorkflow _ _ workspaceId folderId _ | .createVariable _ workspaceId folderId _
  | .createCredential _ workspaceId folderId _ => FolderInScope tables userId workspaceId folderId
  | .updateWorkflow workspaceId folderId workflowId _ | .deleteWorkflow workspaceId folderId workflowId =>
      FolderInScope tables userId workspaceId folderId ∧
        ∃ row ∈ tables.workflows, row.id = workflowId ∧ row.folderId = some folderId
  | .updateVariable workspaceId folderId variableId _ | .deleteVariable workspaceId folderId variableId =>
      FolderInScope tables userId workspaceId folderId ∧
        ∃ row ∈ tables.variables, row.id = variableId ∧ row.folderId = folderId
  | .updateCredential workspaceId folderId credentialId _
  | .deleteCredential workspaceId folderId credentialId =>
      FolderInScope tables userId workspaceId folderId ∧
        ∃ row ∈ tables.connections, row.id = credentialId ∧ row.folderId = folderId

/-! The call of an operation that has passed its checks. -/

/-- What the last call of an operation does, and what the operation makes of its reply. -/
structure Settled (userId : Uuid) (op : Operation) (before after : Tables)
    (result : Except Failure Outcome) : Prop where
  advance : Advance userId before after
  shows : ∀ outcome, result = .ok outcome → ∀ workspaceId ∈ outcome.workspaceIds,
    Owned after userId workspaceId
  refused : ¬InScope before userId op → after = before ∧
    ∃ failure ∈ op.notFound, result = .error (.domain failure)

section

variable {userId : Uuid} {op : Operation} {before : Tables} {result : Except Failure Outcome}

/-- A read shows rows; one that is out of scope finds none. -/
theorem Settled.of_read (consistent : Consistent before)
    (shows : ∀ outcome, result = .ok outcome → ∀ workspaceId ∈ outcome.workspaceIds,
      Owned before userId workspaceId)
    (refused : ¬InScope before userId op → ∃ failure ∈ op.notFound, result = .error (.domain failure)) :
    Settled userId op before before result :=
  ⟨.refl _ consistent, shows, fun out => ⟨rfl, refused out⟩⟩

section

variable {Row α β : Type} {translate : Failure → Failure} {now : Date}
  {outcome : β → Outcome} {clash : Row → Row → Option (List String)} {id : Row → Uuid}
  {whereClause : Row → Bool} {data : Row → Row} {rows : Tables → List Row}

/-- A write that names no row but the one it inserts. -/
theorem Settled.of_insert (consistent : Consistent before) (scope : InScope before userId op)
    {statement : Tables → Except Failure α} {store : α → Tables → β × Tables}
    (stored : ∀ value, statement before = .ok value →
      Advance userId before (store value before).2 ∧
        ∀ workspaceId ∈ (outcome (store value before).1).workspaceIds,
          Owned (store value before).2 userId workspaceId) :
    Settled userId op before (write translate statement store now before).2
      ((write translate statement store now before).1.bind fun value => .ok (outcome value)) := by
  refine write_spec (P := fun reply after =>
      Settled userId op before after (reply.bind fun value => .ok (outcome value)))
    (fun failure _ => ?_) (fun value hvalue => ?_)
  · exact ⟨.refl _ consistent, fun _ h => (by cases h), fun out => absurd scope out⟩
  · refine ⟨(stored value hvalue).1, ?_, fun out => absurd scope out⟩
    rintro _ ⟨⟩
    exact (stored value hvalue).2

/-- A write to the one row an operation names. -/
theorem Settled.of_named {statement : Tables → Except Failure α} {store : α → Tables → β × Tables}
    {missing : DomainError} (consistent : Consistent before)
    (named : missing ∈ op.notFound) (translated : translate recordNotFound = .domain missing)
    (unfound : ¬InScope before userId op → statement before = .error recordNotFound)
    (stored : ∀ value, statement before = .ok value →
      Advance userId before (store value before).2 ∧
        ∀ workspaceId ∈ (outcome (store value before).1).workspaceIds,
          Owned (store value before).2 userId workspaceId) :
    Settled userId op before (write translate statement store now before).2
      ((write translate statement store now before).1.bind fun value => .ok (outcome value)) := by
  refine write_spec (P := fun reply after =>
      Settled userId op before after (reply.bind fun value => .ok (outcome value)))
    (fun failure hfailure => ?_) (fun value hvalue => ?_)
  · refine ⟨.refl _ consistent, fun _ h => (by cases h), fun out => ⟨rfl, missing, named, ?_⟩⟩
    rw [unfound out] at hfailure
    cases hfailure
    rw [translated]
    rfl
  · refine ⟨(stored value hvalue).1, ?_, fun out => ?_⟩
    · rintro _ ⟨⟩
      exact (stored value hvalue).2
    · rw [unfound out] at hvalue
      cases hvalue

/-- An update of the one row an operation names. -/
theorem Settled.of_update {missing : DomainError} {store : Row × List Row → Tables → β × Tables}
    (consistent : Consistent before) (named : missing ∈ op.notFound)
    (translated : translate recordNotFound = .domain missing)
    (scope : ∀ row ∈ rows before, whereClause row → InScope before userId op)
    (stored : ∀ row ∈ rows before, whereClause row →
      let value := store (data row, updateMany whereClause data (rows before)) before
      Advance userId before value.2 ∧
        ∀ workspaceId ∈ (outcome value.1).workspaceIds, Owned value.2 userId workspaceId) :
    let settled := write translate
      (fun tables => updateRow clash id whereClause data (rows tables)) store now before
    Settled userId op before settled.2 (settled.1.bind fun value => .ok (outcome value)) := by
  refine .of_named consistent named translated (fun out => updateRow_missing ?_) ?_
  · rintro ⟨row, hrow, matched⟩
    exact out (scope row hrow matched)
  · rintro ⟨_, updated⟩ h
    obtain ⟨row, hrow, matched, rfl, rfl⟩ := updateRow_ok h
    exact stored row hrow matched

/-- A delete of the one row an operation names. -/
theorem Settled.of_delete {missing : DomainError} {store : Row × List Row → Tables → Unit × Tables}
    (consistent : Consistent before) (named : missing ∈ op.notFound)
    (translated : translate recordNotFound = .domain missing)
    (scope : ∀ row ∈ rows before, whereClause row → InScope before userId op)
    (stored : ∀ row ∈ rows before, whereClause row →
      Advance userId before (store (row, deleteMany whereClause (rows before)) before).2) :
    let settled := write translate (fun tables => deleteRow whereClause (rows tables)) store now before
    Settled userId op before settled.2 (settled.1.bind fun _ => .ok .deleted) := by
  refine .of_named consistent named translated (fun out => deleteRow_missing ?_) ?_
  · rintro ⟨row, hrow, matched⟩
    exact out (scope row hrow matched)
  · rintro ⟨row, deleted⟩ h
    obtain ⟨hrow, matched, rfl⟩ := deleteRow_ok h
    exact ⟨stored row hrow matched, fun _ none => (List.not_mem_nil none).elim⟩

end

/-! Reads. -/

variable {workspaceId folderId : Uuid} {now : Date}

/-- What `getWorkspace` makes of the row it is given. -/
def ownedOutcome (workspaceId userId : Uuid) (found : Option Workspace) : Except Failure Outcome :=
  match found.filter fun workspace => workspace.userId = userId with
  | some workspace => .ok (.workspace workspace)
  | none => .error (.domain (workspaceNotFoundError workspaceId))

theorem getWorkspace_settled (consistent : Consistent before) :
    Settled userId (.getWorkspace workspaceId) before before (ownedOutcome workspaceId userId
      ((before.workspaces.find? fun row => row.id = workspaceId).map toWorkspaceEntity)) := by
  unfold ownedOutcome
  refine .of_read consistent (fun outcome h => ?_) fun out => ?_
  · split at h
    · rename_i found
      cases h
      obtain ⟨same, owned⟩ := owned_of_filter found
      simpa [Outcome.workspaceIds, same] using owned
    · cases h
  · split
    · exact absurd (owned_of_filter ‹_›).2 out
    · exact ⟨_, List.mem_cons_self, rfl⟩

theorem listFolders_settled (consistent : Consistent before)
    (owned : Owned before userId workspaceId) :
    Settled userId (.listFolders workspaceId) before before
      (.ok (.folders ((byWorkspaceAndPosition
        (before.folders.filter fun row => row.workspaceId ∈ [workspaceId])).map toFolderEntity))) := by
  refine .of_read consistent ?_ fun out => absurd owned out
  rintro _ ⟨⟩ shown hshown
  simp [Outcome.workspaceIds, byWorkspaceAndPosition, toFolderEntity] at hshown
  obtain ⟨row, ⟨-, inside⟩, rfl⟩ := hshown
  exact inside ▸ owned

/-- There is no folder id to report, so the error takes the workspace's. -/
def defaultOutcome (workspaceId : Uuid) : Option Folder → Except Failure Outcome
  | some folder => .ok (.folder folder)
  | none => .error (.domain (folderNotFoundError workspaceId))

theorem getDefaultFolder_settled (consistent : Consistent before)
    (owned : Owned before userId workspaceId) :
    Settled userId (.getDefaultFolder workspaceId) before before (defaultOutcome workspaceId
      ((before.folders.find? fun row => row.workspaceId = workspaceId && row.isDefault).map
        toFolderEntity)) := by
  refine .of_read consistent (fun outcome h => ?_) fun out => absurd owned out
  cases found : before.folders.find? fun row => row.workspaceId = workspaceId && row.isDefault with
  | none => simp [found, defaultOutcome] at h
  | some row =>
    rw [found] at h
    cases h
    have inside : row.workspaceId = workspaceId := by
      have := List.find?_some found
      simp only [Bool.and_eq_true, decide_eq_true_eq] at this
      exact this.1
    simpa [Outcome.workspaceIds, toFolderEntity, inside] using owned

theorem listFolderWorkflows_settled (consistent : Consistent before)
    (scope : FolderInScope before userId workspaceId folderId) :
    Settled userId (.listFolderWorkflows workspaceId folderId) before before
      (.ok (.workflows (PrismaWorkflowRepository.workflowsWhere (fun row => row.folderId = some folderId)
        before))) := by
  refine .of_read consistent ?_ fun out => absurd scope out
  rintro _ ⟨⟩ shown hshown
  simp only [Outcome.workspaceIds, PrismaWorkflowRepository.workflowsWhere, newestFirst, List.map_map,
    List.mem_map, List.mem_mergeSort, List.mem_filter, decide_eq_true_eq] at hshown
  obtain ⟨row, ⟨hrow, inside⟩, rfl⟩ := hshown
  exact scope.owned_of_placed (consistent.workflows row hrow folderId inside)

theorem listFolderVariables_settled (consistent : Consistent before)
    (scope : FolderInScope before userId workspaceId folderId) :
    Settled userId (.listFolderVariables workspaceId folderId) before before
      (.ok (.variables (PrismaVariableRepository.variablesWhere (fun row => row.folderId = folderId)
        before))) := by
  refine .of_read consistent ?_ fun out => absurd scope out
  rintro _ ⟨⟩ shown hshown
  simp only [Outcome.workspaceIds, PrismaVariableRepository.variablesWhere, byName, List.map_map,
    List.mem_map, List.mem_mergeSort, List.mem_filter, decide_eq_true_eq] at hshown
  obtain ⟨row, ⟨hrow, rfl⟩, rfl⟩ := hshown
  exact scope.owned_of_placed (consistent.variables row hrow)

theorem listFolderCredentials_settled (consistent : Consistent before)
    (scope : FolderInScope before userId workspaceId folderId) :
    Settled userId (.listFolderCredentials workspaceId folderId) before before
      (.ok (.credentials (PrismaConnectionRepository.connectionsWhere (fun row => row.folderId = folderId)
        before))) := by
  refine .of_read consistent ?_ fun out => absurd scope out
  rintro _ ⟨⟩ shown hshown
  simp only [Outcome.workspaceIds, PrismaConnectionRepository.connectionsWhere, newestFirst, List.map_map,
    List.mem_map, List.mem_mergeSort, List.mem_filter, decide_eq_true_eq] at hshown
  obtain ⟨row, ⟨hrow, rfl⟩, rfl⟩ := hshown
  exact scope.owned_of_placed (consistent.connections row hrow)

/-! Writes to workspaces and folders. -/

/-- A new workspace is its creator's: no other has its id. -/
theorem owned_inserted {input : CreateWorkspaceInput} {tables : Tables}
    (free : ∀ other ∈ before.workspaces, workspacesClash (insertedWorkspace input now) other = none)
    (inserted : tables.workspaces = before.workspaces ++ [insertedWorkspace input now]) :
    Owned tables input.userId input.id := by
  have unused : before.workspaces.find? (fun row => row.id = input.id) = none := by
    refine List.find?_eq_none.mpr fun other hother same => ?_
    exact (collision_eq_none.mp (free other hother)).1 (of_decide_eq_true same).symm
  simp [Owned, ownerOf, inserted, List.find?_append, unused, insertedWorkspace]

theorem createWorkspace_settled {id defaultFolderId : Uuid} {request : CreateWorkspaceRequest}
    {input : CreateWorkspaceInput} (consistent : Consistent before) (mine : input.userId = userId) :
    Settled userId (.createWorkspace id defaultFolderId request) before
      (PrismaWorkspaceRepository.create input now before).2
      ((PrismaWorkspaceRepository.create input now before).1.bind fun row => .ok (.workspace row)) := by
  subst mine
  refine .of_insert consistent ?_ ?_
  · trivial
  rintro ⟨workspaces, folders⟩ h
  obtain ⟨_, hworkspaces, h⟩ := ok_of_bind h
  obtain ⟨_, hfolders, ⟨⟩⟩ := ok_of_bind h
  obtain ⟨free, -, rfl⟩ := insertRow_ok hworkspaces
  obtain ⟨-, -, rfl⟩ := insertRow_ok hfolders
  have owned {tables : Tables}
      (inserted : tables.workspaces = before.workspaces ++ [insertedWorkspace input now]) :
      Owned tables input.userId input.id := owned_inserted free inserted
  refine ⟨⟨find_append, find_append, consistent.placed find_append rfl rfl rfl, ?_⟩,
    List.forall_mem_singleton.mpr (owned rfl)⟩
  exact ⟨.append (owned rfl), .append (owned rfl), .refl, .refl, .refl, .refl⟩

theorem createFolder_settled {id : Uuid} {request : CreateFolderRequest} {input : CreateFolderInput}
    (consistent : Consistent before) (owned : Owned before userId workspaceId)
    (inside : input.workspaceId = workspaceId) :
    Settled userId (.createFolder id workspaceId request) before
      (PrismaFolderRepository.create input now before).2
      ((PrismaFolderRepository.create input now before).1.bind fun row => .ok (.folder row)) := by
  subst inside
  refine .of_insert consistent ?_ fun folders h => ?_
  · exact owned
  obtain ⟨-, -, rfl⟩ := insertRow_ok h
  exact ⟨.of_folders consistent find_append (.append owned), List.forall_mem_singleton.mpr owned⟩

/-- No write moves a folder. -/
theorem workspaceOf_updateMany {folders : List FolderRow} {whereClause : FolderRow → Bool}
    {data : FolderRow → FolderRow} (sameId : ∀ row, (data row).id = row.id)
    (sameWorkspace : ∀ row, (data row).workspaceId = row.workspaceId) :
    workspaceOf { before with folders := updateMany whereClause data folders } folderId =
      workspaceOf { before with folders } folderId :=
  find_updateMany (fun row => by rw [sameId]) sameWorkspace

theorem renameFolder_settled {input : RenameFolderInput} (consistent : Consistent before)
    (scope : FolderInScope before userId workspaceId folderId) :
    Settled userId (.renameFolder workspaceId folderId input) before
      (PrismaFolderRepository.rename folderId workspaceId input now before).2
      ((PrismaFolderRepository.rename folderId workspaceId input now before).1.bind
        fun row => .ok (.folder row)) := by
  refine .of_insert consistent ?_ ?_
  · exact scope
  rintro ⟨row, folders⟩ h
  obtain ⟨⟨_, updated⟩, hupdated, ⟨⟩⟩ := ok_of_bind h
  obtain ⟨row, hrow, matched, rfl, rfl⟩ := updateRow_ok hupdated
  have owned {row : FolderRow} (inside : row.workspaceId = workspaceId) :
      Owned before userId row.workspaceId := inside ▸ scope.1
  have renamed : SameOutside (fun row => Owned before userId row.workspaceId) before.folders
      (updateMany (inWorkspace folderId workspaceId) (renamedFolder input now) before.folders) := by
    refine .updateMany fun row _ matched => ?_
    simp only [inWorkspace, Bool.and_eq_true, decide_eq_true_eq] at matched
    exact ⟨owned matched.2, owned matched.2⟩
  refine ⟨?_, List.forall_mem_singleton.mpr (owned ?_)⟩
  · dsimp only
    split
    · refine .of_folders consistent (fun placed => ?_) (renamed.trans (.updateMany fun row _ other => ?_))
      · rwa [workspaceOf_updateMany, workspaceOf_updateMany] <;> exact fun _ => rfl
      · simp only [otherDefault, Bool.and_eq_true, decide_eq_true_eq] at other
        exact ⟨owned other.1.1, owned other.1.1⟩
    · refine .of_folders consistent (fun placed => ?_) renamed
      rwa [workspaceOf_updateMany] <;> exact fun _ => rfl
  · simp only [inWorkspace, Bool.and_eq_true, decide_eq_true_eq] at matched
    exact matched.2

/-! Writes to workflows. -/

/-- The one row the new version is linked to is the one that was just inserted. -/
theorem createWorkflow_settled {id initialVersionId : Uuid} {request : CreateWorkflowRequest}
    {input : CreateWorkflowInput} (consistent : Consistent before)
    (scope : FolderInScope before userId workspaceId folderId)
    (workspace : input.workspaceId = workspaceId) (folder : input.folderId = folderId) :
    Settled userId (.createWorkflow id initialVersionId workspaceId folderId request) before
      (PrismaWorkflowRepository.create input now before).2
      ((PrismaWorkflowRepository.create input now before).1.bind fun row => .ok (.workflow row)) := by
  subst workspace folder
  refine .of_insert consistent ?_ ?_
  · exact scope
  rintro ⟨workflows, versions⟩ h
  obtain ⟨_, hworkflows, h⟩ := ok_of_bind h
  obtain ⟨_, hversions, ⟨⟩⟩ := ok_of_bind h
  obtain ⟨free, -, rfl⟩ := insertRow_ok hworkflows
  obtain ⟨-, -, rfl⟩ := insertRow_ok hversions
  have placed : ∀ row ∈ before.workflows ++ [insertedWorkflow input now], ∀ folderId,
      row.folderId = some folderId → workspaceOf before folderId = some row.workspaceId := by
    refine List.forall_mem_append.mpr ⟨consistent.workflows, List.forall_mem_singleton.mpr ?_⟩
    rintro _ ⟨⟩
    exact scope.2
  have mine : ∀ row ∈ before.workflows ++ [insertedWorkflow input now], row.id = input.id →
      Owned before userId row.workspaceId := by
    refine List.forall_mem_append.mpr ⟨fun row hrow same => ?_,
      List.forall_mem_singleton.mpr fun _ => scope.1⟩
    exact absurd same.symm (collision_eq_none.mp (free row hrow)).1
  refine ⟨.of_workflows consistent (forall_updateMany placed fun row hrow _ => placed row hrow)
    (.trans (.append scope.1) (.updateMany fun row hrow matched => ?_)) (.append ?_),
    List.forall_mem_singleton.mpr scope.1⟩
  · have mine := mine row hrow (of_decide_eq_true matched)
    exact ⟨mine, mine⟩
  · refine ⟨_, List.mem_append_right _ (mem_updateMany.mpr
      ⟨insertedWorkflow input now, List.mem_append_right _ List.mem_cons_self, rfl⟩), ?_⟩
    simp only [insertedWorkflow, insertedVersion, decide_true, if_true, true_and]
    exact scope.1

theorem FolderInScope.owned_workflow {id : Uuid} {row : WorkflowRow} (consistent : Consistent before)
    (scope : FolderInScope before userId workspaceId folderId) (hrow : row ∈ before.workflows)
    (matched : PrismaWorkflowRepository.inFolder id folderId row) :
    Owned before userId row.workspaceId := by
  simp only [PrismaWorkflowRepository.inFolder, Bool.and_eq_true, decide_eq_true_eq] at matched
  exact scope.owned_of_placed (consistent.workflows row hrow folderId matched.2)

theorem updateWorkflow_settled {id : Uuid} {request : UpdateWorkflowRequest}
    {input : UpdateWorkflowInput} (consistent : Consistent before)
    (scope : FolderInScope before userId workspaceId folderId) :
    Settled userId (.updateWorkflow workspaceId folderId id request) before
      (PrismaWorkflowRepository.update id folderId input now before).2
      ((PrismaWorkflowRepository.update id folderId input now before).1.bind
        fun row => .ok (.workflow row)) := by
  refine .of_update consistent ?_ rfl (fun row hrow matched => ?_) fun row hrow matched => ?_
  · simp [Operation.notFound]
  · exact ⟨scope, row, hrow, by simpa [PrismaWorkflowRepository.inFolder] using matched⟩
  · have mine := scope.owned_workflow consistent hrow matched
    refine ⟨.of_workflows consistent ?_ (.updateMany fun row hrow matched => ?_) .refl,
      List.forall_mem_singleton.mpr mine⟩
    · exact forall_updateMany consistent.workflows fun row hrow _ => consistent.workflows row hrow
    · have mine := scope.owned_workflow consistent hrow matched
      exact ⟨mine, mine⟩

theorem deleteWorkflow_settled {id : Uuid} (now : Date) (consistent : Consistent before)
    (scope : FolderInScope before userId workspaceId folderId) :
    Settled userId (.deleteWorkflow workspaceId folderId id) before
      (PrismaWorkflowRepository.delete id folderId now before).2
      ((PrismaWorkflowRepository.delete id folderId now before).1.bind fun _ => .ok .deleted) := by
  refine .of_delete consistent ?_ rfl (fun row hrow matched => ?_) fun row hrow matched => ?_
  · simp [Operation.notFound]
  · exact ⟨scope, row, hrow, by simpa [PrismaWorkflowRepository.inFolder] using matched⟩
  · have mine := scope.owned_workflow consistent hrow matched
    refine .of_workflows consistent (forall_deleteMany consistent.workflows)
      (.deleteMany fun row hrow matched => scope.owned_workflow consistent hrow matched)
      (.deleteMany fun version _ inside => ⟨row, List.mem_append_left _ hrow, ?_, mine⟩)
    simp only [PrismaWorkflowRepository.inFolder, Bool.and_eq_true, decide_eq_true_eq] at matched
    exact matched.1.trans (of_decide_eq_true inside).symm

/-! Writes to variables. -/

theorem createVariable_settled {id : Uuid} {request : CreateVariableRequest} {input : CreateVariableInput}
    (consistent : Consistent before) (scope : FolderInScope before userId workspaceId folderId)
    (workspace : input.workspaceId = workspaceId) (folder : input.folderId = folderId) :
    Settled userId (.createVariable id workspaceId folderId request) before
      (PrismaVariableRepository.create input now before).2
      ((PrismaVariableRepository.create input now before).1.bind fun row => .ok (.variable row)) := by
  subst workspace folder
  refine .of_insert consistent ?_ fun rows h => ?_
  · exact scope
  obtain ⟨-, -, rfl⟩ := insertRow_ok h
  refine ⟨.of_variables consistent ?_ (.append scope.1), List.forall_mem_singleton.mpr scope.1⟩
  exact List.forall_mem_append.mpr ⟨consistent.variables, List.forall_mem_singleton.mpr scope.2⟩

theorem FolderInScope.owned_variable {id : Uuid} {row : VariableRow} (consistent : Consistent before)
    (scope : FolderInScope before userId workspaceId folderId) (hrow : row ∈ before.variables)
    (matched : PrismaVariableRepository.inFolder id folderId row) : Owned before userId row.workspaceId := by
  simp only [PrismaVariableRepository.inFolder, Bool.and_eq_true, decide_eq_true_eq] at matched
  have placed := consistent.variables row hrow
  rw [matched.2] at placed
  exact scope.owned_of_placed placed

theorem updateVariable_settled {id : Uuid} {request : UpdateVariableRequest} {input : UpdateVariableInput}
    (now : Date) (consistent : Consistent before) (scope : FolderInScope before userId workspaceId folderId) :
    Settled userId (.updateVariable workspaceId folderId id request) before
      (PrismaVariableRepository.update id folderId input now before).2
      ((PrismaVariableRepository.update id folderId input now before).1.bind
        fun row => .ok (.variable row)) := by
  refine .of_update consistent ?_ rfl (fun row hrow matched => ?_) fun row hrow matched => ?_
  · simp [Operation.notFound]
  · exact ⟨scope, row, hrow, by simpa [PrismaVariableRepository.inFolder] using matched⟩
  · have mine := scope.owned_variable consistent hrow matched
    refine ⟨.of_variables consistent ?_ (.updateMany fun row hrow matched => ?_),
      List.forall_mem_singleton.mpr mine⟩
    · exact forall_updateMany consistent.variables fun row hrow _ => consistent.variables row hrow
    · have mine := scope.owned_variable consistent hrow matched
      exact ⟨mine, mine⟩

theorem deleteVariable_settled {id : Uuid} (now : Date) (consistent : Consistent before)
    (scope : FolderInScope before userId workspaceId folderId) :
    Settled userId (.deleteVariable workspaceId folderId id) before
      (PrismaVariableRepository.delete id folderId now before).2
      ((PrismaVariableRepository.delete id folderId now before).1.bind fun _ => .ok .deleted) := by
  refine .of_delete consistent ?_ rfl (fun row hrow matched => ?_)
    fun row hrow matched => .of_variables consistent (forall_deleteMany consistent.variables)
      (.deleteMany fun row hrow matched => scope.owned_variable consistent hrow matched)
  · simp [Operation.notFound]
  · exact ⟨scope, row, hrow, by simpa [PrismaVariableRepository.inFolder] using matched⟩

/-! Writes to credentials. -/

theorem createCredential_settled {id : Uuid} {request : CreateCredentialRequest} {input : CreateConnectionInput}
    (consistent : Consistent before) (scope : FolderInScope before userId workspaceId folderId)
    (workspace : input.workspaceId = workspaceId) (folder : input.folderId = folderId) :
    Settled userId (.createCredential id workspaceId folderId request) before
      (PrismaConnectionRepository.create input now before).2
      ((PrismaConnectionRepository.create input now before).1.bind fun row => .ok (.credential row)) := by
  subst workspace folder
  refine .of_insert consistent ?_ fun rows h => ?_
  · exact scope
  obtain ⟨-, -, rfl⟩ := insertRow_ok h
  refine ⟨.of_connections consistent ?_ (.append scope.1), List.forall_mem_singleton.mpr scope.1⟩
  exact List.forall_mem_append.mpr ⟨consistent.connections, List.forall_mem_singleton.mpr scope.2⟩

theorem FolderInScope.owned_credential {id : Uuid} {row : ConnectionRow} (consistent : Consistent before)
    (scope : FolderInScope before userId workspaceId folderId) (hrow : row ∈ before.connections)
    (matched : PrismaConnectionRepository.inFolder id folderId row) : Owned before userId row.workspaceId := by
  simp only [PrismaConnectionRepository.inFolder, Bool.and_eq_true, decide_eq_true_eq] at matched
  have placed := consistent.connections row hrow
  rw [matched.2] at placed
  exact scope.owned_of_placed placed

theorem updateCredential_settled {id : Uuid} {request : UpdateCredentialRequest} {input : UpdateConnectionInput}
    (consistent : Consistent before) (scope : FolderInScope before userId workspaceId folderId) :
    Settled userId (.updateCredential workspaceId folderId id request) before
      (PrismaConnectionRepository.update id folderId input now before).2
      ((PrismaConnectionRepository.update id folderId input now before).1.bind
        fun row => .ok (.credential row)) := by
  refine .of_update consistent ?_ rfl (fun row hrow matched => ?_) fun row hrow matched => ?_
  · simp [Operation.notFound]
  · exact ⟨scope, row, hrow, by simpa [PrismaConnectionRepository.inFolder] using matched⟩
  · have mine := scope.owned_credential consistent hrow matched
    refine ⟨.of_connections consistent ?_ (.updateMany fun row hrow matched => ?_),
      List.forall_mem_singleton.mpr mine⟩
    · exact forall_updateMany consistent.connections fun row hrow _ => consistent.connections row hrow
    · have mine := scope.owned_credential consistent hrow matched
      exact ⟨mine, mine⟩

theorem deleteCredential_settled {id : Uuid} (now : Date) (consistent : Consistent before)
    (scope : FolderInScope before userId workspaceId folderId) :
    Settled userId (.deleteCredential workspaceId folderId id) before
      (PrismaConnectionRepository.delete id folderId now before).2
      ((PrismaConnectionRepository.delete id folderId now before).1.bind fun _ => .ok .deleted) := by
  refine .of_delete consistent ?_ rfl (fun row hrow matched => ?_)
    fun row hrow matched => .of_connections consistent (forall_deleteMany consistent.connections)
      (.deleteMany fun row hrow matched => scope.owned_credential consistent hrow matched)
  · simp [Operation.notFound]
  · exact ⟨scope, row, hrow, by simpa [PrismaConnectionRepository.inFolder] using matched⟩

end

end TenantOS.Tenancy
