import TenantOS.Application.WorkspaceService
import TenantOS.Infrastructure.WorkspaceTables
import TenantOS.Relational.Enlistment

/-! `PrismaWorkspaceRepository` and `PrismaFolderRepository` statement by statement, and
the clients that write through them. A folder's reference to its workspace needs no
check of its own here: the service has read the workspace first, and none is deleted. -/
namespace TenantOS.Workspaces

open TenantOS.Domain TenantOS.Infrastructure TenantOS.Interleaving TenantOS.Relational
open TenantOS.Application

inductive WorkspaceTable where
  | workspaces
  | folders
deriving DecidableEq

@[reducible] def WorkspaceTable.Row : WorkspaceTable → Type
  | .workspaces => WorkspaceRow
  | .folders => FolderRow

abbrev workspaceSchema : Schema where
  Table := WorkspaceTable
  Row := WorkspaceTable.Row
  clash
    | .workspaces => workspacesClash
    | .folders => foldersClash
  symm
    | .workspaces => fun _ _ => collision_symm
    | .folders => fun _ _ => collision_symm

abbrev WorkspaceSql (α : Type) := Sql workspaceSchema Failure α

def workspacesWhere (whereClause : WorkspaceRow → Bool) : WorkspaceSql (List WorkspaceRow) :=
  Sql.findMany (S := workspaceSchema) none .workspaces whereClause

def foldersWhere (whereClause : FolderRow → Bool) : WorkspaceSql (List FolderRow) :=
  Sql.findMany (S := workspaceSchema) none .folders whereClause

def workspaceNamed (id : Uuid) (row : WorkspaceRow) : Bool :=
  row.id = id

/-- `catch (error) { throw toInfrastructureError(error, operation) }` -/
def during {α : Type} (operation : String) (statement : WorkspaceSql α) : WorkspaceSql α :=
  tryCatch statement fun failure => throw (toInfrastructureError failure operation)

namespace PrismaWorkspaceRepository

/-- The workspace and its default folder, in one transaction. -/
def create (now : Date) (input : CreateWorkspaceInput) : WorkspaceSql Workspace :=
  tryCatch
    (Sql.runInTransaction fun tx => do
      let row := insertedWorkspace input now
      Sql.create (S := workspaceSchema) tx .workspaces row
      Sql.create (S := workspaceSchema) tx .folders (insertedDefaultFolder input.defaultFolderId row.id now)
      pure (toWorkspaceEntity row))
    fun failure => throw (Infrastructure.PrismaWorkspaceRepository.createFailure input.slug failure)

end PrismaWorkspaceRepository

def prismaWorkspaceRepository (now : Date) : WorkspaceRepositoryPort WorkspaceSql where
  findAll := during "workspace.findAll" do
    let rows ← workspacesWhere fun _ => true
    pure ((defaultFirst rows).map toWorkspaceEntity)
  findByUserId userId := during "workspace.findByUserId" do
    let rows ← workspacesWhere fun row => row.userId = userId
    pure ((newestFirst (·.createdAt) rows).map toWorkspaceEntity)
  findByUserIdAndDefault userId := during "workspace.findByUserIdAndDefault" do
    let rows ← workspacesWhere fun row => row.userId = userId && row.isDefault
    pure (rows.head?.map toWorkspaceEntity)
  findById id := during "workspace.findById" do
    let rows ← workspacesWhere (workspaceNamed id)
    pure (rows.head?.map toWorkspaceEntity)
  create := PrismaWorkspaceRepository.create now

namespace PrismaFolderRepository

/-- A statement of its own. -/
def create (now : Date) (input : CreateFolderInput) : WorkspaceSql Folder :=
  tryCatch
    (Sql.runInTransaction fun tx => do
      let row := insertedFolder input now
      Sql.create (S := workspaceSchema) tx .folders row
      pure (toFolderEntity row))
    fun failure => throw (Infrastructure.PrismaFolderRepository.createFailure input failure)

/-- `UPDATE … RETURNING`, of the one row an `id` names. -/
def updateReturning (tx : Nat) (id : Uuid) (whereClause : FolderRow → Bool)
    (data : FolderRow → FolderRow) : WorkspaceSql FolderRow := do
  let count ← Sql.updateMany (S := workspaceSchema) tx .folders whereClause data
  if count = 0 then throw recordNotFound
  else
    let rows ← Sql.findMany (S := workspaceSchema) (some tx) .folders fun row => row.id = id
    match rows with
    | [] => throw recordNotFound
    | row :: _ => pure row

/-- The other defaults are cleared after the update, so that a missing folder or a taken
name aborts before they are touched. -/
def rename (now : Date) (id workspaceId : Uuid) (input : RenameFolderInput) : WorkspaceSql Folder :=
  tryCatch
    (Sql.runInTransaction fun tx => do
      let row ← updateReturning tx id (inWorkspace id workspaceId) (renamedFolder input now)
      if input.isDefault = some true then
        let _ ← Sql.updateMany (S := workspaceSchema) tx .folders (otherDefault id workspaceId)
          (clearedFolder now)
      pure (toFolderEntity row))
    fun failure => throw (Infrastructure.PrismaFolderRepository.renameFailure id input.name failure)

end PrismaFolderRepository

def prismaFolderRepository (now : Date) : FolderRepositoryPort WorkspaceSql where
  findAll := during "folder.findAll" do
    let rows ← foldersWhere fun _ => true
    pure ((byPosition rows).map toFolderEntity)
  countByWorkspaceIds workspaceIds :=
    if workspaceIds.isEmpty then pure []
    else during "folder.countByWorkspaceIds" do
      let rows ← foldersWhere fun row => row.workspaceId ∈ workspaceIds
      pure (countBy (·.workspaceId) rows)
  findByWorkspaceIds workspaceIds :=
    if workspaceIds.isEmpty then pure []
    else during "folder.findByWorkspaceIds" do
      let rows ← foldersWhere fun row => row.workspaceId ∈ workspaceIds
      pure ((byWorkspaceAndPosition rows).map toFolderEntity)
  findByWorkspaceIdAndDefault workspaceId := during "folder.findByWorkspaceIdAndDefault" do
    let rows ← foldersWhere fun row => row.workspaceId = workspaceId && row.isDefault
    pure (rows.head?.map toFolderEntity)
  findById id := during "folder.findById" do
    let rows ← foldersWhere fun row => row.id = id
    pure (rows.head?.map toFolderEntity)
  create := PrismaFolderRepository.create now
  rename := PrismaFolderRepository.rename now

/-! Clients. -/

inductive Command where
  | createWorkspace (id defaultFolderId userId : Uuid) (input : CreateWorkspaceRequest) (now : Date)
  | createFolder (id workspaceId userId : Uuid) (input : CreateFolderRequest) (now : Date)
  | renameFolder (workspaceId folderId userId : Uuid) (input : RenameFolderInput) (now : Date)

inductive Outcome where
  | workspace (workspace : Workspace)
  | folder (folder : Folder)

/-- The workspace a client writes to. -/
def Command.workspaceId : Command → Uuid
  | .createWorkspace id .. => id
  | .createFolder _ workspaceId .. => workspaceId
  | .renameFolder workspaceId .. => workspaceId

/-- The folder it inserts or renames. -/
def Command.folderId : Command → Uuid
  | .createWorkspace _ defaultFolderId .. => defaultFolderId
  | .createFolder id .. => id
  | .renameFolder _ folderId .. => folderId

def Command.Provisions : Command → Prop
  | .createWorkspace .. => True
  | _ => False

variable (nfkd : String → String)

def body : Command → WorkspaceSql Outcome
  | .createWorkspace id defaultFolderId userId input now => do
      let workspace ← WorkspaceService.createWorkspace (prismaWorkspaceRepository now) nfkd
        id defaultFolderId userId input
      pure (.workspace workspace)
  | .createFolder id workspaceId userId input now => do
      let folder ← WorkspaceService.createFolder (prismaWorkspaceRepository now)
        (prismaFolderRepository now) nfkd id workspaceId userId input
      pure (.folder folder)
  | .renameFolder workspaceId folderId userId input now => do
      let folder ← WorkspaceService.renameFolder (prismaWorkspaceRepository now)
        (prismaFolderRepository now) workspaceId folderId userId input
      pure (.folder folder)

abbrev service : System :=
  sqlService workspaceSchema uniqueViolation DriverFault.raise (body nfkd)

/-! What a client has learnt so far. -/

structure Knowledge where
  command : Command
  /-- Its check has read a row of the workspace. -/
  owned : Bool
  tx : Option Nat
  /-- Its insert into `workspaces` was answered. -/
  workspace : Bool
  /-- A write to `folders` was answered to have written a row. -/
  folder : Bool
  /-- It has asked for the commit or the rollback. -/
  ended : Bool

def Knowledge.start (command : Command) : Knowledge where
  command := command
  owned := false
  tx := none
  workspace := false
  folder := false
  ended := false

def observe (k : Knowledge) : (c : SqlCall workspaceSchema) → Except Failure c.Reply → Knowledge
  | .begin, .ok tx => { k with tx := some tx, workspace := false, folder := false }
  | .select none .workspaces _, .ok rows => { k with owned := k.owned || !List.isEmpty rows }
  | .insert _ .workspaces _, .ok _ => { k with workspace := true }
  | .insert _ .folders _, .ok _ => { k with folder := true }
  | .update _ .folders .., .ok true => { k with folder := true }
  | .commit _, _ => { k with ended := true }
  | .rollback _, _ => { k with ended := true }
  | _, _ => k

/-- The transaction may still commit. -/
def Knowledge.Open (k : Knowledge) (tx : Nat) : Prop :=
  k.tx = some tx ∧ k.ended = false

/-- The updates of a rename; the second one only once the first has found its row. -/
def Knowledge.Issues (k : Knowledge) (whereClause : FolderRow → Bool)
    (data : FolderRow → FolderRow) : Prop :=
  ∃ workspaceId folderId userId input now, k.command = .renameFolder workspaceId folderId userId input now ∧
    (whereClause = inWorkspace folderId workspaceId ∧ data = renamedFolder input now ∨
      input.isDefault = some true ∧ k.folder ∧ whereClause = otherDefault folderId workspaceId ∧
        data = clearedFolder now)

/-- The rows a client may insert. -/
def Command.Inserts (command : Command) : (table : WorkspaceTable) → table.Row → Prop
  | .workspaces, row => command.Provisions ∧ row.id = command.workspaceId
  | .folders, row => row.id = command.folderId ∧ row.workspaceId = command.workspaceId ∧
      match command with
      | .createWorkspace .. => row.isDefault = true
      | .createFolder .. => row.isDefault = false
      | .renameFolder .. => False

def permits (k : Knowledge) : SqlCall workspaceSchema → Prop
  | .begin => k.tx = none ∧ (k.command.Provisions ∨ k.owned)
  | .commit tx => k.Open tx ∧ k.folder ∧ (k.command.Provisions → k.workspace)
  | .rollback tx => k.tx = some tx
  | .select none .workspaces whereClause => k.tx = none ∧
      whereClause = workspaceNamed k.command.workspaceId
  | .select none .folders _ => k.tx = none
  | .select (some tx) _ _ => k.tx = some tx
  | .targets tx _ _ => k.tx = some tx
  | .update _ .workspaces .. => False
  | .update tx .folders _ whereClause data => k.Open tx ∧ k.Issues whereClause data
  | .insert tx table row => k.Open tx ∧ k.command.Inserts table row

abbrev monitor : Monitor (sqlInterface workspaceSchema) Failure where
  State := Knowledge
  observe := observe
  permits := permits

/-! Every client follows the discipline. -/

/-- The write of a client: its transaction, and what its failures are turned into. -/
theorem conforms_write {α : Type} {k : Knowledge} {fn : Nat → WorkspaceSql α}
    {translate : Failure → Failure} (begins : permits k .begin)
    (body : ∀ tx, monitor.Conforms (fun (k : Knowledge) result => match result with
      | .ok _ => permits k (.commit tx)
      | .error _ => k.tx = some tx) (observe k .begin (.ok tx)) (fn tx)) :
    monitor.Conforms (fun _ _ => True) k
      (tryCatch (Sql.runInTransaction fn) fun failure => throw (translate failure)) := by
  have inside : monitor.Conforms (fun _ _ => True) k (Sql.runInTransaction fn) := by
    refine Sql.conforms_runInTransaction begins (fun _ => trivial) fun tx =>
      (body tx).mono fun k result ends => ?_
    cases result with
    | ok value => exact ⟨ends, trivial, fun _ => ⟨ends.1.1, fun _ => trivial⟩⟩
    | error failure => exact ⟨ends, fun _ => trivial⟩
  exact Monitor.Conforms.recover (inside.mono fun k result _ => by cases result <;> trivial)

theorem conforms_findWorkspace {k : Knowledge} (outside : k.tx = none) (now : Date) :
    monitor.Conforms (fun k' result => ∀ workspace, result = .ok (some workspace) →
        k' = { k with owned := true }) k
      ((prismaWorkspaceRepository now).findById k.command.workspaceId) := by
  refine Monitor.Conforms.recover (Monitor.conforms_perform_bind.mpr
    ⟨⟨outside, rfl⟩, fun (rows : List WorkspaceRow) => ?_, fun failure => nofun⟩)
  cases rows with
  | nil => nofun
  | cons row rest =>
    intro workspace _
    simp [observe]

theorem conforms_findFolder {k : Knowledge} (outside : k.tx = none) (now : Date) (id : Uuid) :
    monitor.Conforms (fun k' _ => k' = k) k ((prismaFolderRepository now).findById id) :=
  Monitor.Conforms.recover (Monitor.conforms_perform_bind.mpr
    ⟨outside, fun _ => rfl, fun _ => rfl⟩)

theorem conforms_findOwned {k : Knowledge} (outside : k.tx = none) (now : Date) (userId : Uuid) :
    monitor.Conforms (fun k' result => ∀ workspace, result = .ok workspace →
        k' = { k with owned := true }) k
      (WorkspaceService.findOwned (prismaWorkspaceRepository now) k.command.workspaceId userId) := by
  refine Monitor.Conforms.bind ((conforms_findWorkspace outside now).mono fun k' result found => ?_)
  cases result with
  | error failure => nofun
  | ok workspace =>
    dsimp only
    split
    · rename_i owned filtered
      exact fun _ _ => found owned (congrArg _ (Option.filter_eq_some_iff.mp filtered).1)
    · nofun

theorem conforms_assertOwned {k : Knowledge} (outside : k.tx = none) (now : Date) (userId : Uuid) :
    monitor.Conforms (fun k' result => ∀ value, result = .ok value → k' = { k with owned := true }) k
      (WorkspaceService.assertOwned (prismaWorkspaceRepository now) k.command.workspaceId userId) := by
  refine Monitor.Conforms.bind ((conforms_findOwned outside now userId).mono fun k' result ends => ?_)
  cases result with
  | ok workspace => exact fun _ _ => ends workspace rfl
  | error failure => nofun

theorem conforms_assertFolder {k : Knowledge} (outside : k.tx = none) (now : Date)
    (folderId userId : Uuid) :
    monitor.Conforms (fun k' result => ∀ value, result = .ok value → k' = { k with owned := true }) k
      (WorkspaceService.assertFolder (prismaWorkspaceRepository now) (prismaFolderRepository now)
        k.command.workspaceId folderId userId) := by
  refine Monitor.Conforms.bind ((conforms_assertOwned outside now userId).mono fun k' result ends => ?_)
  cases result with
  | error failure => nofun
  | ok value =>
    cases ends value rfl
    refine Monitor.Conforms.bind ((conforms_findFolder (k := { k with owned := true }) outside now
      folderId).mono fun k' result same => ?_)
    cases result with
    | error failure => nofun
    | ok folder =>
      dsimp only
      split
      · exact fun _ _ => same
      · nofun

theorem conforms_createWorkspace (id defaultFolderId userId : Uuid) (input : CreateWorkspaceRequest)
    (now : Date) (create : CreateWorkspaceInput) (same : create.id = id)
    (folder : create.defaultFolderId = defaultFolderId) :
    monitor.Conforms (fun _ _ => True)
      (.start (.createWorkspace id defaultFolderId userId input now))
      (PrismaWorkspaceRepository.create now create) := by
  subst same folder
  refine conforms_write ⟨rfl, .inl trivial⟩ fun tx => ?_
  refine Monitor.conforms_perform_bind.mpr
    ⟨⟨⟨rfl, rfl⟩, trivial, rfl⟩, fun _ => ?_, fun _ => rfl⟩
  refine Monitor.conforms_perform_bind.mpr
    ⟨⟨⟨rfl, rfl⟩, rfl, rfl, rfl⟩, fun _ => ?_, fun _ => rfl⟩
  exact ⟨⟨rfl, rfl⟩, rfl, fun _ => rfl⟩

theorem conforms_createFolder {k : Knowledge} {id workspaceId userId : Uuid}
    {input : CreateFolderRequest} {now : Date} {create : CreateFolderInput}
    (checked : k = { Knowledge.start (.createFolder id workspaceId userId input now) with owned := true })
    (same : create.id = id) (inside : create.workspaceId = workspaceId) :
    monitor.Conforms (fun _ _ => True) k (PrismaFolderRepository.create now create) := by
  subst same inside checked
  refine conforms_write ⟨rfl, .inr rfl⟩ fun tx => ?_
  refine Monitor.conforms_perform_bind.mpr
    ⟨⟨⟨rfl, rfl⟩, rfl, rfl, rfl⟩, fun _ => ?_, fun _ => rfl⟩
  exact ⟨⟨rfl, rfl⟩, rfl, nofun⟩

/-- The client is inside its rename, which may still commit. -/
structure Renaming (workspaceId folderId userId : Uuid) (input : RenameFolderInput) (now : Date)
    (tx : Nat) (k : Knowledge) : Prop where
  command : k.command = .renameFolder workspaceId folderId userId input now
  still : k.Open tx

theorem conforms_updateFolders {workspaceId folderId userId : Uuid} {input : RenameFolderInput}
    {now : Date} {tx : Nat} {k : Knowledge} {whereClause : FolderRow → Bool}
    {data : FolderRow → FolderRow} (found : Bool)
    (inside : Renaming workspaceId folderId userId input now tx k)
    (before : found → k.folder)
    (issues : ∀ k, Renaming workspaceId folderId userId input now tx k → (found → k.folder) →
      k.Issues whereClause data) :
    monitor.Conforms (fun (k : Knowledge) result =>
      Renaming workspaceId folderId userId input now tx k ∧ (found → k.folder) ∧
        ∀ count, result = .ok count → count ≠ 0 → k.folder) k
      (Sql.updateMany (S := workspaceSchema) tx .folders whereClause data) := by
  refine Monitor.conforms_perform_bind.mpr
    ⟨inside.still.1, fun is => ?_, fun _ => ⟨inside, before, nofun⟩⟩
  refine Sql.conforms_updateRows (S := workspaceSchema)
    (P := fun (k : Knowledge) count => Renaming workspaceId folderId userId input now tx k ∧
      (found → k.folder) ∧ (count ≠ 0 → k.folder)) ?_ ?_ ⟨inside, before, nofun⟩ is
  · rintro k count i ⟨inside, before, wrote⟩
    refine ⟨⟨inside.still, issues k inside before⟩, fun matched => ?_,
      fun _ => ⟨inside, before, nofun⟩⟩
    cases matched with
    | false => exact ⟨inside, before, wrote⟩
    | true => exact ⟨⟨inside.command, inside.still⟩, fun _ => rfl, fun _ => rfl⟩
  · rintro k count ⟨inside, before, wrote⟩
    exact ⟨inside, before, fun _ same => by cases same; exact wrote⟩

theorem conforms_renameFolder {k : Knowledge} {workspaceId folderId userId : Uuid}
    {input : RenameFolderInput} {now : Date}
    (checked : k = { Knowledge.start (.renameFolder workspaceId folderId userId input now) with owned := true }) :
    monitor.Conforms (fun _ _ => True) k
      (PrismaFolderRepository.rename now folderId workspaceId input) := by
  subst checked
  refine conforms_write ⟨rfl, .inr rfl⟩ fun tx => ?_
  refine Monitor.Conforms.bind (Monitor.Conforms.bind ((conforms_updateFolders false
    ⟨rfl, rfl, rfl⟩ nofun fun k inside _ =>
      ⟨workspaceId, folderId, userId, input, now, inside.command, .inl ⟨rfl, rfl⟩⟩).mono ?_))
  rintro k result ⟨inside, -, wrote⟩
  cases result with
  | error failure => exact inside.still.1
  | ok count =>
    by_cases missed : count = 0
    · simp only [missed, if_true]
      exact inside.still.1
    have folder := wrote count rfl missed
    simp only [missed, if_false]
    refine Monitor.conforms_perform_bind.mpr
      ⟨inside.still.1, fun (rows : List FolderRow) => ?_, fun _ => inside.still.1⟩
    have ready {k : Knowledge} (inside : Renaming workspaceId folderId userId input now tx k)
        (folder : k.folder) : permits k (.commit tx) :=
      ⟨inside.still, folder, by rw [inside.command]; exact False.elim⟩
    cases rows with
    | nil => exact inside.still.1
    | cons row rest =>
      dsimp only
      split
      · rename_i defaults
        refine Monitor.Conforms.bind ((conforms_updateFolders true
          ⟨inside.command, inside.still⟩ (fun _ => folder) fun k inside found =>
            ⟨workspaceId, folderId, userId, input, now, inside.command,
              .inr ⟨defaults, found rfl, rfl, rfl⟩⟩).mono ?_)
        rintro k result ⟨inside, found, -⟩
        cases result with
        | error failure => exact inside.still.1
        | ok count => exact ready inside (found rfl)
      · exact ready ⟨inside.command, inside.still⟩ folder

theorem conforms_body (command : Command) :
    monitor.Conforms (fun _ _ => True) (.start command) (body nfkd command) := by
  have done {k : Knowledge} {α : Type} {program : WorkspaceSql α} {next : α → Outcome}
      (h : monitor.Conforms (fun _ _ => True) k program) :
      monitor.Conforms (fun _ _ => True) k (program >>= fun value => pure (next value)) :=
    Monitor.Conforms.bind (h.mono fun k result _ => by cases result <;> trivial)
  cases command with
  | createWorkspace id defaultFolderId userId input now =>
    exact done (conforms_createWorkspace id defaultFolderId userId input now _ rfl rfl)
  | createFolder id workspaceId userId input now =>
    refine done (Monitor.Conforms.bind ((conforms_assertOwned (k := .start _) rfl now userId).mono ?_))
    intro k result checked
    cases result with
    | error failure => trivial
    | ok value => exact conforms_createFolder (checked value rfl) rfl rfl
  | renameFolder workspaceId folderId userId input now =>
    refine done (Monitor.Conforms.bind
      ((conforms_assertFolder (k := .start _) rfl now folderId userId).mono ?_))
    intro k result checked
    cases result with
    | error failure => trivial
    | ok value => exact conforms_renameFolder (checked value rfl)

abbrev discipline : Discipline (service nfkd) where
  State := Knowledge
  observe := observe
  permits := permits
  initial := .start
  accepts _ _ := True
  conforms := conforms_body nfkd

end TenantOS.Workspaces
