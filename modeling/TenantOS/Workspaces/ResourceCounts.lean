import Mathlib.Algebra.GroupWithZero.Nat
import TenantOS.Workspaces.CurrentVersions

/-! The counts the listings carry. What a workspace counts is what its folders count, and
what a folder counts is what its listings show: rows that repeat their folder's workspace
are counted once on either side. -/
namespace TenantOS.Workspaces

open TenantOS.Domain TenantOS.Infrastructure TenantOS.Relational TenantOS.Interleaving
open TenantOS.Application TenantOS.Modules
open TenantOS.Tenancy (Consistent service prismaRepositories workspaceOf Owned ownerOf tenanted_run)

/-! Counting by a key. -/

section

variable {Row Key : Type} [DecidableEq Key] {key : Row → Key} {rows : List Row}

/-- The rows under any of the keys are those under each of them. -/
theorem countP_fibers {keys : List Key} (distinct : keys.Nodup) :
    (rows.countP fun row => key row ∈ keys) =
      (keys.map fun k => rows.countP fun row => key row = k).sum := by
  induction keys with
  | nil => simp
  | cons k keys ih =>
    obtain ⟨absent, distinct⟩ := List.nodup_cons.mp distinct
    rw [List.map_cons, List.sum_cons, ← ih distinct,
      List.countP_eq_countP_filter_add rows _ fun row => key row = k]
    congr 1
    · rw [List.countP_filter]
      refine List.countP_congr fun row _ => ?_
      simpa using .inl
    · rw [List.countP_filter]
      refine List.countP_congr fun row _ => ?_
      simp only [List.mem_cons, Bool.and_eq_true, decide_eq_true_eq, Bool.not_eq_true',
        decide_eq_false_iff_not]
      constructor
      · rintro ⟨rfl | mem, other⟩
        · exact absurd rfl other
        · exact mem
      · intro mem
        exact ⟨.inr mem, fun same => absent (same ▸ mem)⟩

end

theorem countOf_countBy {Row : Type} {key : Row → Uuid} {rows : List Row} (owner : Uuid) :
    countOf (countBy key rows) owner = rows.countP fun row => key row = owner := by
  unfold countOf countBy
  rw [List.find?_map]
  cases found : (rows.map key).dedup.find? ((fun c : Count => decide (c.owner = owner)) ∘
      fun owner => ⟨owner, rows.countP fun row => key row = owner⟩) with
  | none =>
    refine (List.countP_eq_zero.mpr fun row mem same => ?_).symm
    refine List.find?_eq_none.mp found (key row) ?_ same
    exact List.mem_dedup.mpr (List.mem_map_of_mem mem)
  | some other =>
    have same : other = owner := by simpa using List.find?_some found
    simp [same]

/-- Only the owners asked for are counted, and each of them in full. -/
theorem countOf_filter {Row : Type} {key : Row → Uuid} {rows : List Row} {owners : List Uuid}
    {owner : Uuid} (asked : owner ∈ owners) :
    countOf (countBy key (rows.filter fun row => key row ∈ owners)) owner =
      rows.countP fun row => key row = owner := by
  rw [countOf_countBy, List.countP_filter]
  refine List.countP_congr fun row _ => ?_
  simp only [Bool.and_eq_true, decide_eq_true_eq, and_iff_left_iff_imp]
  rintro rfl
  exact asked

/-! What the two queries answer. -/

def workspaceCounts (tables : Tables) (id : Uuid) : NamespacesResourcesCounts where
  workspaceId := id
  workflows := tables.workflows.countP fun row => row.workspaceId = id
  «variables» := tables.variables.countP fun row => row.workspaceId = id
  credentials := tables.connections.countP fun row => row.workspaceId = id
  folders := tables.folders.countP fun row => row.workspaceId = id

def folderCounts (tables : Tables) (id : Uuid) : FolderResourcesCounts where
  folderId := id
  workflows := tables.workflows.countP fun row => row.folderId = some id
  «variables» := tables.variables.countP fun row => row.folderId = id
  credentials := tables.connections.countP fun row => row.folderId = id

section

variable {tables : Tables} {now : Date}

theorem namespacesResourcesCounts_eq (ids : List Uuid) :
    WorkspaceService.namespacesResourcesCounts prismaFolders prismaWorkflows prismaVariables
      prismaConnections ids now tables = (.ok (ids.map (workspaceCounts tables)), tables) := by
  refine congrArg (fun counts => (Except.ok counts, tables)) (List.map_congr_left fun id asked => ?_)
  simp only [workspaceCounts, NamespacesResourcesCounts.mk.injEq, true_and]
  exact ⟨countOf_filter asked, countOf_filter asked, countOf_filter asked, countOf_filter asked⟩

theorem countOf_folderIds {ids : List Uuid} {id : Uuid} (asked : id ∈ ids) :
    countOf (countBy (fun folderId => folderId)
        ((tables.workflows.filterMap (·.folderId)).filter fun folderId => folderId ∈ ids)) id =
      tables.workflows.countP fun row => row.folderId = some id := by
  rw [countOf_filter asked, List.countP_filterMap]
  refine List.countP_congr fun row _ => ?_
  cases row.folderId <;> simp

theorem folderResourcesCounts_eq (ids : List Uuid) :
    WorkspaceService.folderResourcesCounts prismaWorkflows prismaVariables prismaConnections ids
      now tables = (.ok (ids.map (folderCounts tables)), tables) := by
  refine congrArg (fun counts => (Except.ok counts, tables)) (List.map_congr_left fun id asked => ?_)
  simp only [folderCounts, FolderResourcesCounts.mk.injEq, true_and]
  exact ⟨countOf_folderIds asked, countOf_filter asked, countOf_filter asked⟩

end

theorem countsOf_map {α : Type} {owner : α → Uuid} {counts : Uuid → α}
    (named : ∀ id, owner (counts id) = id) {ids : List Uuid} {id : Uuid} (asked : id ∈ ids) :
    countsOf owner (ids.map counts) id = some (counts id) := by
  rw [countsOf, ← List.map_reverse, List.find?_map]
  cases found : ids.reverse.find? ((fun count => decide (owner count = id)) ∘ counts) with
  | none =>
    have missing := List.find?_eq_none.mp found id (List.mem_reverse.mpr asked)
    simp [named] at missing
  | some other =>
    have same : other = id := by simpa [named] using List.find?_some found
    rw [same]
    rfl

/-! What is in a workspace is in its folders. -/

/-- No workflow is outside of every folder. -/
def Foldered (tables : Tables) : Prop :=
  ∀ row ∈ tables.workflows, row.folderId.isSome

theorem foldered_createWorkflow (input : CreateWorkflowInput) :
    Keeps Foldered (PrismaWorkflowRepository.create input) := by
  intro now tables foldered
  apply Keeps.write now _ tables foldered
  rintro ⟨workflows, versions⟩ tables foldered stored
  obtain ⟨workflows, workflow, stored⟩ := ok_of_bind stored
  obtain ⟨versions, version, stored⟩ := ok_of_bind stored
  cases stored
  obtain ⟨-, -, rfl⟩ := insertRow_ok workflow
  have all : ∀ row ∈ tables.workflows ++ [insertedWorkflow input now], row.folderId.isSome := by
    intro row mem
    rcases List.mem_append.mp mem with old | new
    · exact foldered row old
    · cases List.mem_singleton.mp new
      rfl
  exact forall_updateMany all fun row mem _ => all row mem

theorem foldered_writes : KeptByWrites Foldered where
  createWorkspace := fun _ now => Keeps.write now fun _ _ foldered _ => foldered
  createFolder := fun _ now => Keeps.write now fun _ _ foldered _ => foldered
  renameFolder := fun _ _ _ now => Keeps.write now fun _ _ foldered _ => foldered
  createWorkflow := foldered_createWorkflow
  updateWorkflow := fun _ _ _ now => Keeps.write now fun ⟨_, _⟩ _ foldered stored => by
    obtain ⟨-, -, -, -, rfl⟩ := updateRow_ok stored
    exact forall_updateMany foldered fun row mem _ => foldered row mem
  deleteWorkflow := fun _ _ now => Keeps.write now fun ⟨_, _⟩ _ foldered stored => by
    obtain ⟨-, -, rfl⟩ := deleteRow_ok stored
    exact forall_deleteMany foldered
  createVariable := fun _ now => Keeps.write now fun _ _ foldered _ => foldered
  updateVariable := fun _ _ _ now => Keeps.write now fun _ _ foldered _ => foldered
  deleteVariable := fun _ _ now => Keeps.write now fun _ _ foldered _ => foldered
  createConnection := fun _ now => Keeps.write now fun _ _ foldered _ => foldered
  updateConnection := fun _ _ _ now => Keeps.write now fun _ _ foldered _ => foldered
  deleteConnection := fun _ _ now => Keeps.write now fun _ _ foldered _ => foldered

section

variable {tables : Tables} {workspaceId : Uuid}

def foldersOf (tables : Tables) (workspaceId : Uuid) : List FolderRow :=
  byWorkspaceAndPosition (tables.folders.filter fun row => row.workspaceId ∈ [workspaceId])

theorem foldersOf_perm : (foldersOf tables workspaceId).Perm
    (tables.folders.filter fun row => row.workspaceId = workspaceId) := by
  refine (List.mergeSort_perm ..).trans (.of_eq (List.filter_congr fun row _ => ?_))
  simp

/-- A row counts for its workspace exactly when it counts for one of its folders. -/
theorem countP_workspace {Row : Type} {rows : List Row} {workspace : Row → Uuid}
    {folder : Row → Option Uuid} (folders : UniqueKey (·.id) tables.folders)
    (placed : ∀ row ∈ rows, ∃ folderId, folder row = some folderId ∧
      workspaceOf tables folderId = some (workspace row)) :
    (rows.countP fun row => workspace row = workspaceId) =
      ((foldersOf tables workspaceId).map fun f =>
        rows.countP fun row => folder row = some f.id).sum := by
  have distinct : ((foldersOf tables workspaceId).map fun f => some f.id).Nodup := by
    have ids : ((foldersOf tables workspaceId).map (·.id)).Nodup :=
      (foldersOf_perm.map _).nodup_iff.mpr (List.Nodup.sublist (List.filter_sublist.map _) folders)
    have apart : ((foldersOf tables workspaceId).map (·.id)).map some |>.Nodup :=
      ids.map fun _ _ => Option.some.inj
    rwa [List.map_map] at apart
  have fibers := @countP_fibers _ _ _ folder rows _ distinct
  rw [List.map_map] at fibers
  refine Eq.trans (List.countP_congr fun row mem => ?_) fibers
  obtain ⟨folderId, inside, owner⟩ := placed row mem
  obtain ⟨f, found, names⟩ := Option.map_eq_some_iff.mp owner
  have named : f.id = folderId := by simpa using List.find?_some found
  have present := List.mem_of_find?_eq_some found
  simp only [decide_eq_true_eq, inside, List.mem_map, Option.some.injEq]
  constructor
  · rintro rfl
    exact ⟨f, foldersOf_perm.mem_iff.mpr (List.mem_filter.mpr ⟨present, decide_eq_true names⟩), named⟩
  · rintro ⟨other, mem, same⟩
    obtain ⟨mem, here⟩ := List.mem_filter.mp (foldersOf_perm.mem_iff.mp mem)
    cases folders.eq_of_mem mem present (same.trans named.symm)
    exact names.symm.trans (of_decide_eq_true here)

/-! The gates, for the owner. -/

variable {row : WorkspaceRow} {folder : FolderRow} {now : Date}

theorem assertOwned_of_row (keys : PrimaryKeys tables) (hrow : row ∈ tables.workspaces) :
    WorkspaceService.assertOwned prismaWorkspaces row.id row.userId now tables = (.ok (), tables) := by
  have found : tables.workspaces.find? (fun other => other.id = row.id) = some row :=
    keys.workspaces.find_eq_some.mpr ⟨hrow, rfl⟩
  have asked : prismaWorkspaces.findById row.id now tables =
      (.ok (some (toWorkspaceEntity row)), tables) := by
    change (Except.ok ((tables.workspaces.find? _).map toWorkspaceEntity), tables) = _
    rw [found]
    rfl
  have owned : (some (toWorkspaceEntity row)).filter (fun workspace => workspace.userId = row.userId) =
      some (toWorkspaceEntity row) := by
    simp [toWorkspaceEntity]
  have passed : WorkspaceService.findOwned prismaWorkspaces row.id row.userId now tables =
      (.ok (toWorkspaceEntity row), tables) := by
    refine (Atomic.bind_ok asked).trans ?_
    rw [owned]
    rfl
  exact Atomic.bind_ok passed

theorem assertFolder_of_row (keys : PrimaryKeys tables) (hrow : row ∈ tables.workspaces)
    (hfolder : folder ∈ tables.folders) (inside : folder.workspaceId = row.id) :
    WorkspaceService.assertFolder prismaWorkspaces prismaFolders row.id folder.id row.userId now
      tables = (.ok (), tables) := by
  have found : tables.folders.find? (fun other => other.id = folder.id) = some folder :=
    keys.folders.find_eq_some.mpr ⟨hfolder, rfl⟩
  have asked : prismaFolders.findById folder.id now tables =
      (.ok (some (toFolderEntity folder)), tables) := by
    change (Except.ok ((tables.folders.find? _).map toFolderEntity), tables) = _
    rw [found]
    rfl
  have placed : (some (toFolderEntity folder)).filter (fun f => f.workspaceId = row.id) =
      some (toFolderEntity folder) := by
    simp [toFolderEntity, inside]
  refine (Atomic.bind_ok (assertOwned_of_row keys hrow)).trans ((Atomic.bind_ok asked).trans ?_)
  rw [placed]
  rfl

end

/-! The three routes. -/

/-- A workspace counts its folders, and what its folders count together. -/
structure Adds (total : NamespacesResourcesCounts) (parts : List FolderListing) : Prop where
  folders : total.folders = parts.length
  workflows : total.workflows =
    (parts.map fun part => (part.counts.map (·.workflows)).getD 0).sum
  «variables» : total.variables =
    (parts.map fun part => (part.counts.map (·.variables)).getD 0).sum
  credentials : total.credentials =
    (parts.map fun part => (part.counts.map (·.credentials)).getD 0).sum

def folderListing (tables : Tables) (row : FolderRow) : FolderListing :=
  ⟨toFolderEntity row, some (folderCounts tables row.id)⟩

section

variable {tables : Tables} {row : WorkspaceRow} {now : Date} (nfkd : String → String)

theorem handle_listWorkspaces (userId : Uuid) :
    handle prismaRepositories nfkd userId .listWorkspaces now tables =
      (.ok (.workspaceListings (((defaultFirst tables.workspaces).map toWorkspaceEntity).map
        fun workspace => { toListing [] workspace with
          counts := some (workspaceCounts tables workspace.id) })), tables) := by
  have listed : WorkspaceService.listAll prismaRepositories.workspaces now tables =
      (.ok ((defaultFirst tables.workspaces).map toWorkspaceEntity), tables) := rfl
  refine (Atomic.bind_ok listed).trans ((Atomic.bind_ok (namespacesResourcesCounts_eq _)).trans ?_)
  refine congrArg (fun items => (Except.ok (Response.workspaceListings items), tables)) ?_
  refine List.map_congr_left fun workspace mem => ?_
  have counted : countsOf (·.workspaceId) _ workspace.id = some (workspaceCounts tables workspace.id) :=
    countsOf_map (fun _ => rfl) (List.mem_map_of_mem mem)
  rw [toListing, counted]
  rfl

theorem handle_listFolders (keys : PrimaryKeys tables) (hrow : row ∈ tables.workspaces) :
    handle prismaRepositories nfkd row.userId (.operation (.listFolders row.id)) now tables =
      (.ok (.folderListings ((foldersOf tables row.id).map (folderListing tables))), tables) := by
  have listed : WorkspaceService.listFolders prismaRepositories.workspaces
      prismaRepositories.folders row.id row.userId now tables =
      (.ok ((foldersOf tables row.id).map toFolderEntity), tables) :=
    (Atomic.bind_ok (assertOwned_of_row keys hrow)).trans rfl
  refine (Atomic.bind_ok listed).trans ((Atomic.bind_ok (folderResourcesCounts_eq _)).trans ?_)
  refine congrArg (fun items => (Except.ok (Response.folderListings items), tables)) ?_
  rw [List.map_map]
  refine List.map_congr_left fun folder mem => ?_
  have asked : folder.id ∈ ((foldersOf tables row.id).map toFolderEntity).map (·.id) :=
    List.mem_map_of_mem (List.mem_map_of_mem mem : toFolderEntity folder ∈ _)
  exact congrArg (FolderListing.mk (toFolderEntity folder)) (countsOf_map (fun _ => rfl) asked)

theorem adds_folders (keys : PrimaryKeys tables) (consistent : Consistent tables)
    (foldered : Foldered tables) (workspaceId : Uuid) :
    Adds (workspaceCounts tables workspaceId)
      ((foldersOf tables workspaceId).map (folderListing tables)) := by
  have sum {α : Type} (part : FolderResourcesCounts → Nat) (rows : List α) (workspace : α → Uuid)
      (folder : α → Option Uuid)
      (counted : ∀ id, part (folderCounts tables id) = rows.countP fun row => folder row = some id)
      (placed : ∀ row ∈ rows, ∃ folderId, folder row = some folderId ∧
        workspaceOf tables folderId = some (workspace row)) :
      (rows.countP fun row => workspace row = workspaceId) =
        (((foldersOf tables workspaceId).map (folderListing tables)).map fun listing =>
          (listing.counts.map part).getD 0).sum := by
    rw [countP_workspace keys.folders placed, List.map_map]
    exact congrArg List.sum (List.map_congr_left fun f _ => (counted f.id).symm)
  constructor
  · rw [List.length_map, foldersOf_perm.length_eq]
    exact List.countP_eq_length_filter
  · refine sum (·.workflows) tables.workflows (·.workspaceId) (·.folderId) (fun _ => rfl) ?_
    intro row mem
    obtain ⟨folderId, inside⟩ := Option.isSome_iff_exists.mp (foldered row mem)
    exact ⟨folderId, inside, consistent.workflows row mem folderId inside⟩
  · refine sum (·.variables) tables.variables (·.workspaceId) (fun row => some row.folderId) ?_ ?_
    · exact fun _ => List.countP_congr fun _ _ => by simp
    · exact fun row mem => ⟨row.folderId, rfl, consistent.variables row mem⟩
  · refine sum (·.credentials) tables.connections (·.workspaceId) (fun row => some row.folderId) ?_ ?_
    · exact fun _ => List.countP_congr fun _ _ => by simp
    · exact fun row mem => ⟨row.folderId, rfl, consistent.connections row mem⟩

/-- What a folder counts is what its three listings show. -/
def ShowsCounted (nfkd : String → String) (userId workspaceId : Uuid) (now : Date) (tables : Tables)
    (listing : FolderListing) : Prop :=
  ∃ workflows «variables» credentials,
    handle prismaRepositories nfkd userId
      (.operation (.listFolderWorkflows workspaceId listing.folder.id)) now tables =
        (.ok (.workflows workflows), tables) ∧
    handle prismaRepositories nfkd userId
      (.operation (.listFolderVariables workspaceId listing.folder.id)) now tables =
        (.ok (.variables «variables»), tables) ∧
    handle prismaRepositories nfkd userId
      (.operation (.listFolderCredentials workspaceId listing.folder.id)) now tables =
        (.ok (.credentials credentials), tables) ∧
    listing.counts = some ⟨listing.folder.id, workflows.length, «variables».length,
      credentials.length⟩

theorem shows_counted (keys : PrimaryKeys tables) (hrow : row ∈ tables.workspaces)
    {folder : FolderRow} (hfolder : folder ∈ tables.folders) (inside : folder.workspaceId = row.id) :
    ShowsCounted nfkd row.userId row.id now tables (folderListing tables folder) := by
  have gate : WorkspaceService.assertFolder prismaWorkspaces prismaFolders row.id folder.id
      row.userId now tables = (.ok (), tables) := assertFolder_of_row keys hrow hfolder inside
  have workflows : perform prismaRepositories nfkd row.userId (.listFolderWorkflows row.id folder.id)
      now tables = (.ok (.workflows (PrismaWorkflowRepository.workflowsWhere
        (fun row => row.folderId = some folder.id) tables)), tables) :=
    (Atomic.bind_ok ((Atomic.bind_ok gate).trans rfl)).trans rfl
  have «variables» : perform prismaRepositories nfkd row.userId
      (.listFolderVariables row.id folder.id) now tables = (.ok (.variables
        (PrismaVariableRepository.variablesWhere (fun row => row.folderId = folder.id) tables)), tables) :=
    (Atomic.bind_ok ((Atomic.bind_ok gate).trans rfl)).trans rfl
  have credentials : perform prismaRepositories nfkd row.userId
      (.listFolderCredentials row.id folder.id) now tables = (.ok (.credentials
        (PrismaConnectionRepository.connectionsWhere (fun row => row.folderId = folder.id) tables)), tables) :=
    (Atomic.bind_ok ((Atomic.bind_ok gate).trans rfl)).trans rfl
  refine ⟨_, _, _, (Atomic.bind_ok workflows).trans rfl, (Atomic.bind_ok «variables»).trans rfl,
    (Atomic.bind_ok credentials).trans rfl, ?_⟩
  simp only [folderListing, folderCounts, toFolderEntity, PrismaWorkflowRepository.workflowsWhere,
    PrismaVariableRepository.variablesWhere, PrismaConnectionRepository.connectionsWhere, newestFirst, byName,
    List.length_map, List.length_mergeSort, List.countP_eq_length_filter]

end

/-- Whatever the clients did: the counts of a workspace are the sums of those of its folders,
and those of a folder are the lengths of what its owner is shown of it. -/
theorem counts_agree {nfkd : String → String} {w w' : World (service nfkd)}
    {es : List (Event (service nfkd))} (idle : w.threads = []) (keys : PrimaryKeys w.store)
    (consistent : Consistent w.store) (foldered : Foldered w.store) (hrun : w.run es = some w')
    {row : WorkspaceRow} (hrow : row ∈ w'.store.workspaces) (userId : Uuid) (now : Date) :
    ∃ items folders total,
      handle prismaRepositories nfkd userId .listWorkspaces now w'.store =
        (.ok (.workspaceListings items), w'.store) ∧
      handle prismaRepositories nfkd row.userId (.operation (.listFolders row.id)) now w'.store =
        (.ok (.folderListings folders), w'.store) ∧
      (∃ item ∈ items, item.id = row.id) ∧
      (∀ item ∈ items, item.id = row.id → item.counts = some total) ∧ Adds total folders ∧
      ∀ listing ∈ folders, ShowsCounted nfkd row.userId row.id now w'.store listing := by
  have keys' := primaryKeys_writes.run keys hrun
  have foldered' := foldered_writes.run foldered hrun
  have consistent' := (tenanted_run idle consistent hrun).consistent
  refine ⟨_, _, workspaceCounts w'.store row.id, handle_listWorkspaces nfkd userId,
    handle_listFolders nfkd keys' hrow, ?_, ?_, adds_folders keys' consistent' foldered' row.id, ?_⟩
  · refine ⟨_, List.mem_map_of_mem (List.mem_map_of_mem ?_), rfl⟩
    exact (List.mergeSort_perm ..).mem_iff.mpr hrow
  · intro item mem same
    obtain ⟨workspace, -, rfl⟩ := List.mem_map.mp mem
    exact congrArg (fun id => some (workspaceCounts w'.store id)) same
  · intro listing mem
    obtain ⟨folder, hfolder, rfl⟩ := List.mem_map.mp mem
    obtain ⟨present, inside⟩ := List.mem_filter.mp (foldersOf_perm.mem_iff.mp hfolder)
    exact shows_counted nfkd keys' hrow present (of_decide_eq_true inside)

theorem counts_agree_editing :
    ∃ items folders total,
      handle prismaRepositories id "bob" .listWorkspaces 7 afterEditing.store =
        (.ok (.workspaceListings items), afterEditing.store) ∧
      handle prismaRepositories id "alice" (.operation (.listFolders "ws-a")) 7 afterEditing.store =
        (.ok (.folderListings folders), afterEditing.store) ∧
      (∃ item ∈ items, item.id = "ws-a") ∧
      (∀ item ∈ items, item.id = "ws-a" → item.counts = some total) ∧ Adds total folders ∧
      ∀ listing ∈ folders, ShowsCounted id "alice" "ws-a" 7 afterEditing.store listing := by
  have keys : PrimaryKeys Tenancy.sampleWorld.store := sampleTables_keys
  exact counts_agree rfl keys Tenancy.sampleTables_consistent (List.forall_mem_nil _)
    (rfl : Tenancy.sampleWorld.run editing = some afterEditing) List.mem_cons_self "bob" 7

end TenantOS.Workspaces
