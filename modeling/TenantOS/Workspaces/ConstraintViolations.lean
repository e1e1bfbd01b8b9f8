import TenantOS.Infrastructure.WorkspaceConstraints

/-! What becomes of a statement that the constraints reject. -/
namespace TenantOS.Workspaces

open TenantOS.Domain TenantOS.Infrastructure TenantOS.Relational

/-- An error of the domain says which column is taken, or that a row is absent or in use. -/
def Names (error : DomainError) : Violation → Prop
  | .unique columns => error.kind = .conflict ∧
      ∃ details, error.details = some details ∧ ∃ detail ∈ details, detail.1 ∈ columns
  | .foreignKey => error.kind = .notFound ∨ error.kind = .conflict
  | .noRow => error.kind = .notFound

/-- The call throws an error of the domain that names the violation, and changes nothing. -/
def Reports (call : WriteCall) (db : StoredTables) (violation : Violation) : Prop :=
  ∃ error, rejectedBy call violation db = (.domain error, db) ∧ Names error violation

/-! Rows that collide. -/

section

variable {Row Key : Type} [DecidableEq Key] {id : Row → Uuid}
  {indexes : List (List String × (Row → Option Key))} {row other : Row} {columns : List String}

theorem collision_of_eq (same : id row = id other) :
    collision id indexes row other = some ["id"] := by
  simp [collision, same]

theorem collision_of_index {index : Row → Option Key} (apart : id row ≠ id other)
    (present : (index row).isSome = true) (same : index row = index other) :
    collision id [(columns, index)] row other = some columns := by
  have hit : ((index row).isSome && decide (index row = index other)) = true := by
    rw [present, decide_eq_true same]
    rfl
  rw [collision, if_neg apart, List.findSome?_cons]
  simp only [hit, if_true]

theorem index_of_collision (h : collision id indexes row other = some columns) :
    (id row = id other ∧ columns = ["id"]) ∨
      ∃ index ∈ indexes, columns = index.1 ∧ (index.2 row).isSome ∧ index.2 row = index.2 other := by
  unfold collision at h
  split at h
  · exact .inl ⟨‹_›, (Option.some.inj h).symm⟩
  · obtain ⟨index, mem, hit⟩ := List.exists_of_findSome?_eq_some h
    split at hit
    · rename_i both
      simp only [Bool.and_eq_true, decide_eq_true_eq] at both
      exact .inr ⟨index, mem, (Option.some.inj hit).symm, both⟩
    · cases hit

/-! When every violation of a statement is reported. -/

variable {P : Violation → Prop} {referenced : Prop} {rows : List Row}

/-- Where every index but the primary key is reported, a new row needs a key of its own and
the rows it refers to: a row that collides with it on an index refers to them as well. -/
theorem insert_reported_iff (key : ¬ P (.unique ["id"]))
    (indexed : ∀ index ∈ indexes, P (.unique index.1)) (reference : ¬ P .foreignKey)
    (owned : ∀ other ∈ rows, ∀ index ∈ indexes, (index.2 row).isSome →
      index.2 row = index.2 other → referenced) :
    (∀ violation, InsertRejects (collision id indexes) referenced row rows violation → P violation) ↔
      (∀ other ∈ rows, id other ≠ id row) ∧ referenced := by
  rw [forall_insertRejects_iff]
  constructor
  · rintro ⟨unique, missing⟩
    have fresh : ∀ other ∈ rows, id other ≠ id row := by
      intro other mem same
      exact key (unique other mem ["id"] (collision_of_eq same.symm))
    refine ⟨fresh, ?_⟩
    by_contra absent
    apply reference
    apply missing _ absent
    intro other mem
    apply collision_eq_none.mpr ⟨(fresh other mem).symm, ?_⟩
    intro index memIndex present same
    exact absent (owned other mem index memIndex present same)
  · rintro ⟨fresh, holds⟩
    constructor
    · intro other mem columns collides
      rcases index_of_collision collides with ⟨same, -⟩ | ⟨index, memIndex, rfl, -⟩
      · exact absurd same.symm (fresh other mem)
      · exact indexed index memIndex
    · intro _ absent
      exact absurd holds absent

/-- Where nothing is reported, nothing may be violated. -/
theorem insert_unreported_iff (key : ¬ P (.unique ["id"]))
    (indexed : ∀ index ∈ indexes, ¬ P (.unique index.1)) (reference : ¬ P .foreignKey) :
    (∀ violation, InsertRejects (collision id indexes) referenced row rows violation → P violation) ↔
      (∀ other ∈ rows, collision id indexes row other = none) ∧ referenced := by
  rw [forall_insertRejects_iff]
  constructor
  · rintro ⟨unique, missing⟩
    have free : ∀ other ∈ rows, collision id indexes row other = none := by
      intro other mem
      apply Option.eq_none_iff_forall_ne_some.mpr
      intro columns collides
      have all := unique other mem columns collides
      rcases index_of_collision collides with ⟨-, rfl⟩ | ⟨index, memIndex, rfl, -⟩
      · exact key all
      · exact indexed index memIndex all
    exact ⟨free, by_contra fun absent => reference (missing free absent)⟩
  · rintro ⟨free, holds⟩
    constructor
    · intro other mem columns collides
      rw [free other mem] at collides
      cases collides
    · intro _ absent
      exact absurd holds absent

/-- A row that can collide on its primary key alone. -/
theorem insert_key_iff (key : ¬ P (.unique ["id"])) (holds : referenced)
    (apart : ∀ other ∈ rows, ∀ index ∈ indexes, (index.2 row).isSome →
      index.2 row ≠ index.2 other) :
    (∀ violation, InsertRejects (collision id indexes) referenced row rows violation → P violation) ↔
      ∀ other ∈ rows, id other ≠ id row := by
  rw [forall_insertRejects_iff]
  constructor
  · rintro ⟨unique, -⟩ other mem same
    exact key (unique other mem ["id"] (collision_of_eq same.symm))
  · intro fresh
    constructor
    · intro other mem columns collides
      rcases index_of_collision collides with ⟨same, -⟩ | ⟨index, memIndex, -, present, same⟩
      · exact absurd same.symm (fresh other mem)
      · exact absurd same (apart other mem index memIndex present)
    · intro _ absent
      exact absurd holds absent

/-- An update keeps the key of its row, so only the other indexes count. -/
theorem update_iff {whereClause : Row → Bool} {data : Row → Row} (keeps : ∀ row, id (data row) = id row)
    (missing : P .noRow) :
    (∀ violation, UpdateRejects (collision id indexes) id whereClause data rows violation →
        P violation) ↔
      ∀ row ∈ rows, whereClause row → ∀ other ∈ rows, id other ≠ id row →
        ∀ columns, collision id indexes (data row) other = some columns →
          ∀ index ∈ indexes, columns = index.1 → index.2 (data row) = index.2 other →
            P (.unique columns) := by
  rw [forall_updateRejects_iff]
  constructor
  · rintro ⟨unique, -⟩ row mem matched other mem' different columns collides index _ _ _
    exact unique row mem matched other mem' different columns collides
  · intro all
    refine ⟨?_, fun _ => missing⟩
    intro row mem matched other mem' different columns collides
    rcases index_of_collision collides with ⟨same, -⟩ | ⟨index, memIndex, shape, -, same⟩
    · exact absurd ((keeps row).symm.trans same).symm different
    · exact all row mem matched other mem' different columns collides index memIndex shape same

end

/-! What each call makes of each violation. -/

section

variable {db : StoredTables} {call : WriteCall} {violation : Violation}

theorem not_reports {code : ErrorCode} {message : String}
    (h : call.translate (reported violation) = .infrastructure code message) :
    ¬ Reports call db violation := by
  rintro ⟨error, thrown, -⟩
  rw [rejectedBy, h] at thrown
  cases thrown

theorem reports_taken {columns : List String} {error : DomainError} {column value : String}
    (h : call.translate (reported (.unique columns)) = .domain error)
    (kind : error.kind = .conflict) (details : error.details = some [(column, .text value)])
    (named : column ∈ columns) : Reports call db (.unique columns) :=
  ⟨error, by rw [rejectedBy, h], kind, _, details, _, List.mem_cons_self, named⟩

theorem reports_missing {error : DomainError}
    (h : call.translate (reported .noRow) = .domain error) (kind : error.kind = .notFound) :
    Reports call db .noRow :=
  ⟨error, by rw [rejectedBy, h], kind⟩

theorem hasWorkspace_iff {tables : Tables} {workspaceId : Uuid} :
    hasWorkspace tables workspaceId = true ↔ ∃ row ∈ tables.workspaces, row.id = workspaceId := by
  simp [hasWorkspace]

theorem hasFolder_iff {tables : Tables} {folderId : Uuid} :
    hasFolder tables folderId = true ↔ ∃ row ∈ tables.folders, row.id = folderId := by
  simp [hasFolder]

/-! Workspaces and folders. -/

variable {now : Date}

/-- Both indexes of the folders start with the workspace. -/
theorem folder_index_workspace {index : List String × (FolderRow → Option (Uuid × String))}
    {row other : FolderRow}
    (mem : index ∈ [(["workspace_id", "name"], fun row : FolderRow => some (row.workspaceId, row.name)),
      (["workspace_id", "slug"], fun row => some (row.workspaceId, row.slug))])
    (same : index.2 row = index.2 other) : row.workspaceId = other.workspaceId := by
  simp only [List.mem_cons, List.not_mem_nil, or_false] at mem
  rcases mem with rfl | rfl
  · exact (Prod.ext_iff.mp (Option.some.inj same)).1
  · exact (Prod.ext_iff.mp (Option.some.inj same)).1

theorem createFolder_iff {input : CreateFolderInput} (consistent : Consistent db) :
    (∀ violation, (WriteCall.createFolder input).Rejected now db violation →
        Reports (.createFolder input) db violation) ↔
      (∀ row ∈ db.folders, row.id ≠ input.id) ∧
        hasWorkspace db.toTables input.workspaceId = true := by
  apply insert_reported_iff
  · exact not_reports rfl
  · simp only [List.forall_mem_cons]
    exact ⟨reports_taken rfl rfl rfl (by simp), reports_taken rfl rfl rfl (by simp), by simp⟩
  · exact not_reports rfl
  · intro other mem index memIndex _ same
    obtain ⟨owner, memOwner, named⟩ := consistent.references.folderWorkspace other mem
    have workspace : input.workspaceId = other.workspaceId := folder_index_workspace memIndex same
    exact hasWorkspace_iff.mpr ⟨owner, memOwner, named.trans workspace.symm⟩

theorem foldersClash_symm (row other : FolderRow) (h : foldersClash row other = none) :
    foldersClash other row = none :=
  collision_symm h

theorem renameFolder_reports {id workspaceId : Uuid} {input : RenameFolderInput}
    (consistent : Consistent db) :
    ∀ violation, (WriteCall.renameFolder id workspaceId input).Rejected now db violation →
      Reports (.renameFolder id workspaceId input) db violation := by
  have keeps (row : FolderRow) : (renamedFolder input now row).id = row.id := rfl
  apply (update_iff keeps (reports_missing rfl rfl)).mpr
  intro row mem _ other mem' different columns _ index memIndex shape same
  simp only [List.mem_cons, List.not_mem_nil, or_false] at memIndex
  rcases memIndex with rfl | rfl
  · subst shape
    exact reports_taken rfl rfl rfl (by simp)
  · -- the slug is not written, and no two rows had the same one
    have apart := consistent.folders.apart foldersClash_symm mem mem' (by
      rintro rfl
      exact different rfl)
    have slug := (collision_eq_none.mp apart).2 _ (List.mem_cons_of_mem _ List.mem_cons_self) rfl
    exact absurd same slug

theorem createWorkspace_iff {input : CreateWorkspaceInput} (consistent : Consistent db) :
    (∀ violation, (WriteCall.createWorkspace input).Rejected now db violation →
        Reports (.createWorkspace input) db violation) ↔
      (∀ row ∈ db.workspaces, row.id ≠ input.id) ∧
        ((∃ row ∈ db.workspaces, row.userId = input.userId ∧ row.slug = input.slug) ∨
          ∀ row ∈ db.folders, row.id ≠ input.defaultFolderId) := by
  have workspace : (∀ violation, InsertRejects workspacesClash True (insertedWorkspace input now)
        db.workspaces violation → Reports (.createWorkspace input) db violation) ↔
      (∀ row ∈ db.workspaces, row.id ≠ input.id) ∧ True := by
    apply insert_reported_iff
    · exact not_reports rfl
    · simp only [List.forall_mem_cons]
      exact ⟨reports_taken rfl rfl rfl (by simp), by simp⟩
    · exact not_reports rfl
    · exact fun _ _ _ _ _ _ => trivial
  -- no folder is in a workspace that does not exist yet
  have folder (fresh : ∀ row ∈ db.workspaces, row.id ≠ input.id) :
      (∀ violation, InsertRejects foldersClash True
          (insertedDefaultFolder input.defaultFolderId input.id now) db.folders violation →
        Reports (.createWorkspace input) db violation) ↔
      ∀ row ∈ db.folders, row.id ≠ input.defaultFolderId := by
    apply insert_key_iff (not_reports rfl) trivial
    intro other mem index memIndex _ same
    obtain ⟨owner, memOwner, named⟩ := consistent.references.folderWorkspace other mem
    have inside : input.id = other.workspaceId := folder_index_workspace memIndex same
    exact fresh owner memOwner (named.trans inside.symm)
  have slugFree (fresh : ∀ row ∈ db.workspaces, row.id ≠ input.id) :
      (∀ other ∈ db.workspaces, workspacesClash (insertedWorkspace input now) other = none) ↔
        ¬ ∃ row ∈ db.workspaces, row.userId = input.userId ∧ row.slug = input.slug := by
    simp only [workspacesClash, collision_eq_none, List.forall_mem_singleton, insertedWorkspace,
      not_exists, not_and]
    grind
  simp only [WriteCall.Rejected, or_imp, forall_and]
  rw [workspace]
  constructor
  · rintro ⟨⟨fresh, -⟩, second⟩
    refine ⟨fresh, ?_⟩
    by_contra neither
    rw [not_or] at neither
    exact neither.2 ((folder fresh).mp fun violation rejects =>
      second violation ⟨(slugFree fresh).mpr neither.1, rejects⟩)
  · rintro ⟨fresh, either⟩
    refine ⟨⟨fresh, trivial⟩, ?_⟩
    rintro violation ⟨free, rejects⟩
    have folders := either.resolve_left ((slugFree fresh).mp free)
    exact (folder fresh).mpr folders violation rejects

/-! Variables and credentials: one index, on the workspace, the folder and the name. -/

section

variable {Row : Type} {key workspaceOf folderOf nameOf : Row → String} {columns : List String}
  {row : Row} {rows : List Row} {P : Violation → Prop}

def nameIndex (columns : List String) (workspaceOf folderOf nameOf : Row → String) :
    List (List String × (Row → Option (String × String × String))) :=
  [(columns, fun row => some (workspaceOf row, folderOf row, nameOf row))]

theorem insert_inFolder_iff (primary : ¬ P (.unique ["id"])) (taken : P (.unique columns))
    (reference : ¬ P .foreignKey)
    (workspaces : ∀ other ∈ rows, ∃ owner ∈ db.workspaces, owner.id = workspaceOf other)
    (folders : ∀ other ∈ rows, ∃ folder ∈ db.folders, folder.id = folderOf other) :
    (∀ violation, InsertRejects (collision key (nameIndex columns workspaceOf folderOf nameOf))
        (hasWorkspace db.toTables (workspaceOf row) = true ∧
          hasFolder db.toTables (folderOf row) = true) row rows violation → P violation) ↔
      (∀ other ∈ rows, key other ≠ key row) ∧
        hasWorkspace db.toTables (workspaceOf row) = true ∧
          hasFolder db.toTables (folderOf row) = true := by
  apply insert_reported_iff primary _ reference
  · intro other mem index memIndex _ same
    cases List.mem_singleton.mp memIndex
    obtain ⟨owner, memOwner, owns⟩ := workspaces other mem
    obtain ⟨folder, memFolder, contains⟩ := folders other mem
    simp only [Option.some.injEq, Prod.mk.injEq] at same
    exact ⟨hasWorkspace_iff.mpr ⟨owner, memOwner, owns.trans same.1.symm⟩,
      hasFolder_iff.mpr ⟨folder, memFolder, contains.trans same.2.1.symm⟩⟩
  · intro index memIndex
    cases List.mem_singleton.mp memIndex
    exact taken

/-- The name is taken in the folder of the row. -/
def TakenFor (key workspaceOf folderOf nameOf : Row → String) (rows : List Row) (row : Row)
    (name : String) : Prop :=
  ∃ other ∈ rows, key other ≠ key row ∧ workspaceOf other = workspaceOf row ∧
    folderOf other = folderOf row ∧ nameOf other = name

theorem update_inFolder_iff {whereClause : Row → Bool} {data : Row → Row} {supplied : Option String}
    (distinct : Distinct (collision key (nameIndex columns workspaceOf folderOf nameOf)) rows)
    (keeps : ∀ row, key (data row) = key row ∧ workspaceOf (data row) = workspaceOf row ∧
      folderOf (data row) = folderOf row ∧ nameOf (data row) = supplied.getD (nameOf row))
    (missing : P .noRow) (taken : ∀ name, supplied = some name → (P (.unique columns) ↔ name ≠ "")) :
    (∀ violation, UpdateRejects (collision key (nameIndex columns workspaceOf folderOf nameOf)) key
        whereClause data rows violation → P violation) ↔
      (supplied = some "" → ∀ row ∈ rows, whereClause row →
        ¬ TakenFor key workspaceOf folderOf nameOf rows row "") := by
  rw [update_iff (fun row => (keeps row).1) missing]
  constructor
  · rintro all empty row mem matched ⟨other, mem', different, workspace, folder, name⟩
    have unnamed : ¬ P (.unique columns) := fun holds => (taken "" empty).mp holds rfl
    obtain ⟨_, sameWorkspace, sameFolder, renamed⟩ := keeps row
    have same : some (workspaceOf (data row), folderOf (data row), nameOf (data row)) =
        some (workspaceOf other, folderOf other, nameOf other) := by
      rw [sameWorkspace, sameFolder, renamed, workspace, folder, name, empty]
      rfl
    have collides : collision key (nameIndex columns workspaceOf folderOf nameOf) (data row) other =
        some columns := by
      have apart : key (data row) ≠ key other := by
        rw [(keeps row).1]
        exact different.symm
      exact collision_of_index apart rfl same
    exact unnamed (all row mem matched other mem' different columns collides _ List.mem_cons_self rfl
      same)
  · intro free row mem matched other mem' different found _ index memIndex shape same
    cases List.mem_singleton.mp memIndex
    subst shape
    obtain ⟨_, sameWorkspace, sameFolder, renamed⟩ := keeps row
    simp only [Option.some.injEq, Prod.mk.injEq, sameWorkspace, sameFolder, renamed] at same
    obtain ⟨workspace, folder, name⟩ := same
    cases written : supplied with
    | none =>
      -- nothing of the key is written, and no two rows had the same one
      have apart := distinct.apart (fun _ _ => collision_symm) mem mem' (by
        rintro rfl
        exact different rfl)
      have unlike := (collision_eq_none.mp apart).2 _ List.mem_cons_self rfl
      have name : nameOf row = nameOf other := by simpa [written] using name
      exact absurd (by simp only [workspace, folder, name]) unlike
    | some value =>
      apply (taken value written).mpr
      rintro rfl
      apply free written row mem matched
      exact ⟨other, mem', different, workspace.symm, folder.symm, by rw [← name, written]; rfl⟩

end

theorem createVariable_iff {input : CreateVariableInput} (consistent : Consistent db) :
    (∀ violation, (WriteCall.createVariable input).Rejected now db violation →
        Reports (.createVariable input) db violation) ↔
      (∀ row ∈ db.variables, row.id ≠ input.id) ∧
        hasWorkspace db.toTables input.workspaceId = true ∧
          hasFolder db.toTables input.folderId = true :=
  insert_inFolder_iff (not_reports rfl) (reports_taken rfl rfl rfl (by simp)) (not_reports rfl)
    consistent.references.variableWorkspace consistent.references.variableFolder

theorem createConnection_iff {input : CreateConnectionInput} (consistent : Consistent db) :
    (∀ violation, (WriteCall.createConnection input).Rejected now db violation →
        Reports (.createConnection input) db violation) ↔
      (∀ row ∈ db.connections, row.id ≠ input.id) ∧
        hasWorkspace db.toTables input.workspaceId = true ∧
          hasFolder db.toTables input.folderId = true :=
  insert_inFolder_iff (not_reports rfl) (reports_taken rfl rfl rfl (by simp)) (not_reports rfl)
    consistent.references.connectionWorkspace consistent.references.connectionFolder

/-- A name that was supplied is reported taken, unless it is empty. -/
theorem reports_renamed_iff {notFound : DomainError} {column name operation : String}
    {taken : String → DomainError} {columns : List String}
    (translates : call.translate (reported (.unique columns)) =
      updateFailure notFound column taken (some name) operation (uniqueViolation columns))
    (hit : isUniqueViolation (uniqueViolation columns) column = true)
    (kind : (taken name).kind = .conflict)
    (details : (taken name).details = some [(column, .text name)]) (named : column ∈ columns) :
    Reports call db (.unique columns) ↔ name ≠ "" := by
  constructor
  · rintro reports rfl
    apply not_reports _ reports
    · exact .databaseUnavailable
    · exact "Database error during " ++ operation
    · rw [translates]
      rfl
  · intro nonempty
    refine reports_taken ?_ kind details named
    have supplied : (some name).filter (fun value =>
        value ≠ "" && isUniqueViolation (uniqueViolation columns) column) = some name := by
      simp [nonempty, hit]
    rw [translates, updateFailure, supplied]
    rfl

theorem updateVariable_iff {id folderId : Uuid} {input : UpdateVariableInput}
    (consistent : Consistent db) :
    (∀ violation, (WriteCall.updateVariable id folderId input).Rejected now db violation →
        Reports (.updateVariable id folderId input) db violation) ↔
      (input.name = some "" → ∀ row ∈ db.variables,
        PrismaVariableRepository.inFolder id folderId row →
          ¬ TakenFor (·.id) (·.workspaceId) (·.folderId) (·.name) db.variables row "") := by
  have keeps (row : VariableRow) : (updatedVariable input row).id = row.id ∧
      (updatedVariable input row).workspaceId = row.workspaceId ∧
      (updatedVariable input row).folderId = row.folderId ∧
      (updatedVariable input row).name = input.name.getD row.name := ⟨rfl, rfl, rfl, rfl⟩
  apply update_inFolder_iff consistent.variables keeps (reports_missing rfl rfl)
  intro name supplied
  have translates : (WriteCall.updateVariable id folderId input).translate
        (reported (.unique ["workspace_id", "folder_id", "name"])) =
      updateFailure (variableNotFoundError id) "name" variableNameTakenError (some name)
        "variable.update" (uniqueViolation ["workspace_id", "folder_id", "name"]) := by
    rw [← supplied]
    rfl
  exact reports_renamed_iff translates rfl rfl rfl (by simp)

theorem updateConnection_iff {id folderId : Uuid} {input : UpdateConnectionInput}
    (consistent : Consistent db) :
    (∀ violation, (WriteCall.updateConnection id folderId input).Rejected now db violation →
        Reports (.updateConnection id folderId input) db violation) ↔
      (input.name = some "" → ∀ row ∈ db.connections,
        PrismaConnectionRepository.inFolder id folderId row →
          ¬ TakenFor (·.id) (·.workspaceId) (·.folderId) (·.name) db.connections row "") := by
  have keeps (row : ConnectionRow) : (updatedConnection input now row).id = row.id ∧
      (updatedConnection input now row).workspaceId = row.workspaceId ∧
      (updatedConnection input now row).folderId = row.folderId ∧
      (updatedConnection input now row).name = input.name.getD row.name := ⟨rfl, rfl, rfl, rfl⟩
  apply update_inFolder_iff consistent.connections keeps (reports_missing rfl rfl)
  intro name supplied
  have translates : (WriteCall.updateConnection id folderId input).translate
        (reported (.unique ["workspace_id", "folder_id", "name"])) =
      updateFailure (credentialNotFoundError id) "name" credentialNameTakenError (some name)
        "connection.update" (uniqueViolation ["workspace_id", "folder_id", "name"]) := by
    rw [← supplied]
    rfl
  exact reports_renamed_iff translates rfl rfl rfl (by simp)

/-- Nothing refers to a variable, and what refers to a credential goes with it. -/
theorem delete_reports {Row : Type} {whereClause : Row → Bool} {rows : List Row}
    (missing : Reports call db .noRow) :
    ∀ violation, DeleteRejects False whereClause rows violation → Reports call db violation :=
  forall_deleteRejects_iff.mpr ⟨fun _ blocked => blocked.elim, fun _ => missing⟩

end

end TenantOS.Workspaces
