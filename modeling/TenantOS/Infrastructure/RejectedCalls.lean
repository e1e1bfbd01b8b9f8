import TenantOS.Infrastructure.WorkspaceConstraints

/-! A call of the repositories throws for what it can be rejected for and for nothing else.
Their tables have none of the rows that block the deletion of a workflow. -/
namespace TenantOS.Infrastructure

open TenantOS.Domain TenantOS.Relational

/-! One statement. -/

section

variable {Row : Type} {clash : Row → Row → Option (List String)} {id : Row → Uuid}
  {whereClause : Row → Bool} {data : Row → Row} {rows : List Row} {row : Row} {failure : Failure}
  {violation : Violation}

theorem insertRow_error {referenced : Bool} {holds : Prop} (means : referenced = true ↔ holds)
    (h : insertRow clash referenced row rows = .error failure) :
    ∃ violation, InsertRejects clash holds row rows violation ∧ failure = reported violation := by
  unfold insertRow at h
  split at h
  · rename_i target collides
    obtain ⟨other, mem, hit⟩ := List.exists_of_findSome?_eq_some collides
    exact ⟨.unique target, ⟨other, mem, hit⟩, (Except.error.inj h).symm⟩
  · rename_i free
    split at h
    · cases h
    · rename_i missing
      have absent : ¬ holds := fun here => missing (means.mpr here)
      exact ⟨.foreignKey, ⟨List.findSome?_eq_none_iff.mp free, absent⟩, (Except.error.inj h).symm⟩

theorem insertRow_rejected {referenced : Bool} {holds : Prop} (means : referenced = true ↔ holds)
    (h : InsertRejects clash holds row rows violation) (rows' : List Row) :
    insertRow clash referenced row rows ≠ .ok rows' := by
  intro settled
  obtain ⟨free, here, -⟩ := insertRow_ok settled
  cases violation with
  | unique columns =>
    obtain ⟨other, mem, collides⟩ := h
    rw [free other mem] at collides
    cases collides
  | foreignKey => exact absurd (means.mp here) h.2
  | noRow => exact h.elim

theorem updateRow_error (h : updateRow clash id whereClause data rows = .error failure) :
    ∃ violation, UpdateRejects clash id whereClause data rows violation ∧
      failure = reported violation := by
  unfold updateRow at h
  split at h
  · rename_i missing
    have none : ¬ ∃ row ∈ rows, whereClause row := by simpa using List.find?_eq_none.mp missing
    exact ⟨.noRow, none, (Except.error.inj h).symm⟩
  · rename_i row found
    split at h
    · rename_i target collides
      obtain ⟨other, mem, hit⟩ := List.exists_of_findSome?_eq_some collides
      simp only [ne_eq, List.mem_filter, decide_eq_true_eq] at mem
      exact ⟨.unique target, ⟨row, List.mem_of_find?_eq_some found, List.find?_some found, other,
        mem.1, mem.2, hit⟩, (Except.error.inj h).symm⟩
    · cases h

/-- The `where` names one row. -/
theorem updateRow_rejected (single : ∀ row ∈ rows, ∀ other ∈ rows, whereClause row →
      whereClause other → row = other)
    (h : UpdateRejects clash id whereClause data rows violation) (settled : Row × List Row) :
    updateRow clash id whereClause data rows ≠ .ok settled := by
  unfold updateRow
  split
  · simp
  · rename_i row found
    have mem := List.mem_of_find?_eq_some found
    have matched := List.find?_some found
    cases violation with
    | noRow => exact absurd ⟨row, mem, matched⟩ h
    | foreignKey => exact h.elim
    | unique columns =>
      obtain ⟨row', mem', matched', other, memOther, different, collides⟩ := h
      cases single row mem row' mem' matched matched'
      have among : other ∈ rows.filter fun other => id other ≠ id row := by
        simpa using ⟨memOther, different⟩
      split
      · simp
      · rename_i free
        rw [List.findSome?_eq_none_iff.mp free other among] at collides
        cases collides

theorem deleteRow_error {blocked : Prop} (h : deleteRow whereClause rows = .error failure) :
    ∃ violation, DeleteRejects blocked whereClause rows violation ∧
      failure = reported violation := by
  unfold deleteRow at h
  split at h
  · rename_i missing
    have none : ¬ ∃ row ∈ rows, whereClause row := by simpa using List.find?_eq_none.mp missing
    exact ⟨.noRow, none, (Except.error.inj h).symm⟩
  · cases h

theorem deleteRow_rejected {blocked : Prop}
    (h : DeleteRejects blocked whereClause rows violation) (unblocked : violation ≠ .foreignKey)
    (settled : Row × List Row) : deleteRow whereClause rows ≠ .ok settled := by
  cases violation with
  | noRow => simp [deleteRow_missing h]
  | foreignKey => exact absurd rfl unblocked
  | unique columns => exact h.elim

end

/-! The calls. -/

/-- The call of the repository throws, over these tables. -/
def WriteCall.Throws (now : Date) (tables tables' : Tables) (failure : Failure) : WriteCall → Prop
  | createWorkspace input =>
      PrismaWorkspaceRepository.create input now tables = (.error failure, tables')
  | createFolder input => PrismaFolderRepository.create input now tables = (.error failure, tables')
  | renameFolder id workspaceId input =>
      PrismaFolderRepository.rename id workspaceId input now tables = (.error failure, tables')
  | createWorkflow input =>
      PrismaWorkflowRepository.create input now tables = (.error failure, tables')
  | updateWorkflow id folderId input =>
      PrismaWorkflowRepository.update id folderId input now tables = (.error failure, tables')
  | deleteWorkflow id folderId =>
      PrismaWorkflowRepository.delete id folderId now tables = (.error failure, tables')
  | createVariable input =>
      PrismaVariableRepository.create input now tables = (.error failure, tables')
  | updateVariable id folderId input =>
      PrismaVariableRepository.update id folderId input now tables = (.error failure, tables')
  | deleteVariable id folderId =>
      PrismaVariableRepository.delete id folderId now tables = (.error failure, tables')
  | createConnection input =>
      PrismaConnectionRepository.create input now tables = (.error failure, tables')
  | updateConnection id folderId input =>
      PrismaConnectionRepository.update id folderId input now tables = (.error failure, tables')
  | deleteConnection id folderId =>
      PrismaConnectionRepository.delete id folderId now tables = (.error failure, tables')

theorem error_of_bind {α β : Type} {first : Except Failure α} {next : α → Except Failure β}
    {failure : Failure} (h : first >>= next = .error failure) :
    first = .error failure ∨ ∃ mid, first = .ok mid ∧ next mid = .error failure := by
  cases first with
  | error raised =>
    left
    cases h
    rfl
  | ok mid => exact .inr ⟨mid, rfl, h⟩

theorem write_throws {α β : Type} {translate : Failure → Failure}
    {statement : Tables → Except Failure α} {store : α → Tables → β × Tables} {now : Date}
    {tables : Tables} (h : ∀ value, statement tables ≠ .ok value) :
    ∃ failure, write translate statement store now tables = (.error failure, tables) := by
  cases settled : statement tables with
  | error raised => exact ⟨translate raised, by simp only [write, settled]⟩
  | ok value => exact absurd settled (h value)

section

variable {db : StoredTables} {now : Date} {call : WriteCall} {violation : Violation}

theorem referenced_iff {workspaceId folderId : Uuid} {tables : Tables} :
    (hasWorkspace tables workspaceId && hasFolder tables folderId) = true ↔
      hasWorkspace tables workspaceId = true ∧ hasFolder tables folderId = true :=
  Bool.and_eq_true_iff

/-- A write throws what its statement is rejected for. -/
theorem write_rejection {α β : Type} {translate : Failure → Failure}
    {statement : Tables → Except Failure α} {store : α → Tables → β × Tables}
    {tables tables' : Tables} {failure : Failure} {P : Violation → Prop}
    (h : write translate statement store now tables = (.error failure, tables'))
    (stated : ∀ raised, statement tables = .error raised →
      ∃ violation, P violation ∧ raised = reported violation) :
    tables' = tables ∧ ∃ violation, P violation ∧ failure = translate (reported violation) := by
  obtain ⟨same, raised, settled, rfl⟩ := error_of_write h
  obtain ⟨violation, holds, rfl⟩ := stated raised settled
  exact ⟨same, violation, holds, rfl⟩

/-- What a call throws is a rejection, and it leaves the tables as they were. -/
theorem throws_rejection {tables' : Tables} {failure : Failure}
    (h : call.Throws now db.toTables tables' failure) :
    tables' = db.toTables ∧ ∃ violation, call.Rejected now db violation ∧
      failure = (rejectedBy call violation db).1 := by
  cases call with
  | createWorkspace input =>
    apply write_rejection h
    intro raised stated
    rcases error_of_bind stated with first | ⟨workspaces, inserted, rest⟩
    · obtain ⟨violation, rejects, rfl⟩ := insertRow_error (iff_of_true rfl trivial) first
      exact ⟨violation, .inl rejects, rfl⟩
    · rcases error_of_bind rest with second | ⟨_, _, settled⟩
      · obtain ⟨violation, rejects, rfl⟩ := insertRow_error (iff_of_true rfl trivial) second
        exact ⟨violation, .inr ⟨(insertRow_ok inserted).1, rejects⟩, rfl⟩
      · cases settled
  | createFolder input => exact write_rejection h fun _ => insertRow_error Iff.rfl
  | renameFolder id workspaceId input =>
    apply write_rejection h
    intro raised stated
    rcases error_of_bind stated with updated | ⟨_, _, settled⟩
    · exact updateRow_error updated
    · cases settled
  | createWorkflow input =>
    apply write_rejection h
    intro raised stated
    rcases error_of_bind stated with first | ⟨workflows, inserted, rest⟩
    · obtain ⟨violation, rejects, rfl⟩ := insertRow_error referenced_iff first
      exact ⟨violation, .inl rejects, rfl⟩
    · rcases error_of_bind rest with second | ⟨_, _, settled⟩
      · obtain ⟨violation, rejects, rfl⟩ := insertRow_error (iff_of_true rfl trivial) second
        obtain ⟨free, referenced, -⟩ := insertRow_ok inserted
        exact ⟨violation, .inr ⟨free, referenced_iff.mp referenced, rejects⟩, rfl⟩
      · cases settled
  | updateWorkflow id folderId input => exact write_rejection h fun _ => updateRow_error
  | deleteWorkflow id folderId => exact write_rejection h fun _ => deleteRow_error
  | createVariable input => exact write_rejection h fun _ => insertRow_error referenced_iff
  | updateVariable id folderId input => exact write_rejection h fun _ => updateRow_error
  | deleteVariable id folderId => exact write_rejection h fun _ => deleteRow_error
  | createConnection input => exact write_rejection h fun _ => insertRow_error referenced_iff
  | updateConnection id folderId input => exact write_rejection h fun _ => updateRow_error
  | deleteConnection id folderId => exact write_rejection h fun _ => deleteRow_error

theorem eq_of_distinct {Row Key : Type} [DecidableEq Key] {key : Row → Uuid}
    {indexes : List (List String × (Row → Option Key))} {rows : List Row} {row other : Row}
    (distinct : Distinct (collision key indexes) rows) (mem : row ∈ rows) (mem' : other ∈ rows)
    (same : key row = key other) : row = other := by
  by_contra different
  have apart := distinct.apart (fun _ _ => collision_symm) mem mem' different
  exact (collision_eq_none.mp apart).1 same

theorem single_of_distinct {Row Key : Type} [DecidableEq Key] {key : Row → Uuid}
    {indexes : List (List String × (Row → Option Key))} {rows : List Row} {whereClause : Row → Bool}
    {id : Uuid} (distinct : Distinct (collision key indexes) rows)
    (asks : ∀ row, whereClause row → key row = id) :
    ∀ row ∈ rows, ∀ other ∈ rows, whereClause row → whereClause other → row = other :=
  fun row mem other mem' matched matched' =>
    eq_of_distinct distinct mem mem' ((asks row matched).trans (asks other matched').symm)

/-- What is rejected throws. The tables of the repositories cannot tell that the deletion of
a workflow is blocked, which is left out. -/
theorem throws_of_rejected (consistent : Consistent db) (h : call.Rejected now db violation)
    (unblocked : violation = .foreignKey → ∀ id folderId, call ≠ .deleteWorkflow id folderId) :
    ∃ failure, call.Throws now db.toTables db.toTables failure := by
  cases call with
  | createWorkspace input =>
    apply write_throws
    intro value settled
    obtain ⟨workspaces, first, rest⟩ := ok_of_bind settled
    obtain ⟨folders, second, -⟩ := ok_of_bind rest
    rcases h with rejects | ⟨-, rejects⟩
    · exact insertRow_rejected (iff_of_true rfl trivial) rejects workspaces first
    · exact insertRow_rejected (iff_of_true rfl trivial) rejects folders second
  | createFolder input => exact write_throws (insertRow_rejected Iff.rfl h)
  | renameFolder id workspaceId input =>
    apply write_throws
    intro value settled
    obtain ⟨updated, first, -⟩ := ok_of_bind settled
    have asks (row : FolderRow) (matched : inWorkspace id workspaceId row) : row.id = id := by
      simp_all [inWorkspace]
    exact updateRow_rejected (single_of_distinct consistent.folders asks) h updated first
  | createWorkflow input =>
    apply write_throws
    intro value settled
    obtain ⟨workflows, first, rest⟩ := ok_of_bind settled
    obtain ⟨versions, second, -⟩ := ok_of_bind rest
    rcases h with rejects | ⟨-, -, rejects⟩
    · exact insertRow_rejected referenced_iff rejects workflows first
    · exact insertRow_rejected (iff_of_true rfl trivial) rejects versions second
  | updateWorkflow id folderId input =>
    have asks (row : WorkflowRow) (matched : PrismaWorkflowRepository.inFolder id folderId row) :
        row.id = id := by
      simp_all [PrismaWorkflowRepository.inFolder]
    exact write_throws (updateRow_rejected (single_of_distinct consistent.workflows asks) h)
  | deleteWorkflow id folderId =>
    exact write_throws (deleteRow_rejected h fun blocks => unblocked blocks id folderId rfl)
  | createVariable input => exact write_throws (insertRow_rejected referenced_iff h)
  | updateVariable id folderId input =>
    have asks (row : VariableRow) (matched : PrismaVariableRepository.inFolder id folderId row) :
        row.id = id := by
      simp_all [PrismaVariableRepository.inFolder]
    exact write_throws (updateRow_rejected (single_of_distinct consistent.variables asks) h)
  | deleteVariable id folderId =>
    have kept : violation ≠ .foreignKey := by
      rintro rfl
      exact h.2
    exact write_throws (deleteRow_rejected h kept)
  | createConnection input => exact write_throws (insertRow_rejected referenced_iff h)
  | updateConnection id folderId input =>
    have asks (row : ConnectionRow) (matched : PrismaConnectionRepository.inFolder id folderId row) :
        row.id = id := by
      simp_all [PrismaConnectionRepository.inFolder]
    exact write_throws (updateRow_rejected (single_of_distinct consistent.connections asks) h)
  | deleteConnection id folderId =>
    have kept : violation ≠ .foreignKey := by
      rintro rfl
      exact h.2
    exact write_throws (deleteRow_rejected h kept)

end

end TenantOS.Infrastructure
