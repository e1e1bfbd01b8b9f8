import TenantOS.Workspaces.Statements

/-! One default folder for each workspace. A rename that makes its folder the default
clears the flag on the others it can see; whether it sees them all is a question about
what committed in the meantime. -/
namespace TenantOS.Workspaces

open TenantOS.Domain TenantOS.Infrastructure TenantOS.Interleaving TenantOS.Relational

abbrev workspaceAt (db : Database workspaceSchema) (j : Nat) : Option WorkspaceRow :=
  db.committedAt WorkspaceTable.workspaces j

abbrev folderAt (db : Database workspaceSchema) (j : Nat) : Option FolderRow :=
  db.committedAt WorkspaceTable.folders j

abbrev folderDraftAt (db : Database workspaceSchema) (tx j : Nat) : Option FolderRow :=
  db.draftAt WorkspaceTable.folders tx j

def HasWorkspace (db : Database workspaceSchema) (workspaceId : Uuid) : Prop :=
  ∃ j row, workspaceAt db j = some row ∧ row.id = workspaceId

/-- The folder at this place is a default folder of the workspace. -/
def DefaultAt (db : Database workspaceSchema) (workspaceId : Uuid) (j : Nat) : Prop :=
  ∃ row, folderAt db j = some row ∧ row.workspaceId = workspaceId ∧ row.isDefault = true

def OneDefault (db : Database workspaceSchema) (workspaceId : Uuid) : Prop :=
  ∃! j, DefaultAt db workspaceId j

/-- The commit finds every default folder of its workspace locked by itself. -/
def Covers (db : Database workspaceSchema) (tx : Nat) (workspaceId : Uuid) : Prop :=
  ∀ j, DefaultAt db workspaceId j → (folderDraftAt db tx j).isSome

theorem defaultAt_commit {db : Database workspaceSchema} {workspaceId : Uuid} {tx j : Nat} :
    DefaultAt (db.commit tx) workspaceId j ↔
      (∃ row, folderDraftAt db tx j = some row ∧ row.workspaceId = workspaceId ∧
        row.isDefault = true) ∨
      folderDraftAt db tx j = none ∧ DefaultAt db workspaceId j := by
  unfold DefaultAt
  simp only [folderAt, folderDraftAt, Database.committedAt_commit]
  cases db.draftAt WorkspaceTable.folders tx j <;> simp

/-- Every folder is in a workspace there is. -/
def Referenced (db : Database workspaceSchema) : Prop :=
  ∀ j row, folderAt db j = some row → HasWorkspace db row.workspaceId

/-! What a client writes. -/

section

variable {k : Knowledge} {c : SqlCall workspaceSchema} {reply : Except Failure c.Reply}

@[simp] theorem command_observe : (observe k c reply).command = k.command := by
  unfold observe
  split <;> rfl

theorem tx_observe (begins : c ≠ .begin) : (observe k c reply).tx = k.tx := by
  unfold observe
  split <;> first | rfl | exact absurd rfl begins

/-- A transaction in progress was in progress before a statement of it. -/
theorem open_before {tx : Nat} (begins : c ≠ .begin) (still : (observe k c reply).Open tx) :
    k.Open tx := by
  refine ⟨(tx_observe begins).symm.trans still.1, ?_⟩
  have running := still.2
  unfold observe at running
  split at running <;> first | exact running | cases running

/-- A default-setting rename leaves each row it writes a default exactly if it is the
folder it renames. -/
def FolderDraft (command : Command) (committed : Option FolderRow) (row : FolderRow) : Prop :=
  match command with
  | .createWorkspace _ defaultFolderId .. =>
      committed = none ∧ row.id = defaultFolderId ∧ row.isDefault = true
  | .createFolder id .. => committed = none ∧ row.id = id ∧ row.isDefault = false
  | .renameFolder _ folderId _ input _ => ∃ before, committed = some before ∧
      before.workspaceId = row.workspaceId ∧ before.id = row.id ∧
      row.isDefault = if input.isDefault = some true then decide (row.id = folderId)
        else before.isDefault

def Draft (k : Knowledge) : (table : WorkspaceTable) → Option table.Row → table.Row → Prop
  | .workspaces, committed, row =>
      committed = none ∧ k.command.Provisions ∧ row.id = k.command.workspaceId
  | .folders, committed, row =>
      row.workspaceId = k.command.workspaceId ∧ FolderDraft k.command committed row

/-- The drafts of one client over one committed row name one folder. -/
theorem FolderDraft.same_id {command : Command} {committed : Option FolderRow} {row row' : FolderRow}
    (h : FolderDraft command committed row) (h' : FolderDraft command committed row') :
    row.id = row'.id := by
  cases command with
  | createWorkspace => exact h.2.1.trans h'.2.1.symm
  | createFolder => exact h.2.1.trans h'.2.1.symm
  | renameFolder =>
    obtain ⟨before, here, -, same, -⟩ := h
    obtain ⟨before', here', -, same', -⟩ := h'
    cases here.symm.trans here'
    exact same.symm.trans same'

theorem folderDraft_issued {whereClause : FolderRow → Bool} {data : FolderRow → FolderRow}
    {before row : FolderRow} (issues : k.Issues whereClause data) (matched : whereClause row)
    (workspace : before.workspaceId = row.workspaceId) (id : before.id = row.id)
    (flag : ∀ workspaceId folderId userId input now,
      k.command = .renameFolder workspaceId folderId userId input now →
      input.isDefault ≠ some true → row.isDefault = before.isDefault) :
    (data row).workspaceId = k.command.workspaceId ∧ FolderDraft k.command (some before) (data row) := by
  obtain ⟨workspaceId, folderId, userId, input, now, command, issued⟩ := issues
  have unflagged := flag workspaceId folderId userId input now command
  rw [command]
  rcases issued with ⟨rfl, rfl⟩ | ⟨defaults, -, rfl, rfl⟩
  · simp only [inWorkspace, Bool.and_eq_true, decide_eq_true_eq] at matched
    refine ⟨matched.2, before, rfl, workspace, id, ?_⟩
    by_cases defaults : input.isDefault = some true
    · simp [renamedFolder, defaults, matched.1]
    · simp [renamedFolder, defaults, unflagged defaults]
  · simp only [otherDefault, Bool.and_eq_true, decide_eq_true_eq] at matched
    refine ⟨matched.1.1, before, rfl, workspace, id, ?_⟩
    simp [clearedFolder, defaults, matched.1.2]

end

variable (nfkd : String → String)

def enlisted : Enlisted (discipline nfkd) where
  tx := Knowledge.tx
  outside _ := rfl
  once _ permitted := permitted.1
  enters _ _ _ := rfl
  fails _ _ := rfl
  stays _ _ _ begins := tx_observe begins
  own k c id permitted same := by
    cases c with
    | begin => cases same
    | select tx table whereClause =>
      cases tx with
      | none => cases same
      | some tx => exact same ▸ permitted
    | targets => exact same ▸ permitted
    | update tx table =>
      cases table with
      | workspaces => exact permitted.elim
      | folders => exact same ▸ permitted.1.1
    | insert => exact same ▸ permitted.1.1
    | commit => exact same ▸ permitted.1.1
    | rollback => exact same ▸ permitted

theorem drafts : (enlisted nfkd).Drafts Draft where
  stable k c reply tx table committed row permitted inside draft := by
    cases table <;> simpa only [Draft, command_observe] using draft
  update k tx table i whereClause data row permitted matched := by
    cases table with
    | workspaces => exact permitted.elim
    | folders =>
      exact folderDraft_issued permitted.2 matched rfl rfl fun _ _ _ _ _ _ _ => rfl
  again k tx table i whereClause data committed row permitted draft matched := by
    cases table with
    | workspaces => exact permitted.elim
    | folders =>
      obtain ⟨-, draft⟩ := draft
      obtain ⟨workspaceId, folderId, userId, input, now, command, -⟩ := permitted.2
      rw [command] at draft
      obtain ⟨before, rfl, workspace, id, flag⟩ := draft
      refine folderDraft_issued permitted.2 matched workspace id ?_
      rintro _ _ _ input' _ same unset
      cases command.symm.trans same
      rwa [if_neg unset] at flag
  insert k tx table row permitted := by
    cases table with
    | workspaces => exact ⟨rfl, permitted.2⟩
    | folders =>
      obtain ⟨-, id, workspace, kind⟩ := permitted
      refine ⟨workspace, ?_⟩
      cases command : k.command with
      | createWorkspace =>
        rw [command] at id kind
        exact ⟨rfl, id, kind⟩
      | createFolder =>
        rw [command] at id kind
        exact ⟨rfl, id, kind⟩
      | renameFolder =>
        rw [command] at kind
        exact kind.elim

/-! The invariant of the interleaving. -/

abbrev Ledger := (discipline nfkd).View

abbrev ledger (w : World (service nfkd)) : Ledger nfkd :=
  (discipline nfkd).view w

variable {nfkd}

namespace Ledger

structure Sound (v : Ledger nfkd) : Prop where
  separate : v.store.Separate
  exclusive : (enlisted nfkd).Exclusive v
  written : (enlisted nfkd).Written Draft v
  referenced : Referenced v.store
  owned : ∀ i k, v.clients i = some k → k.owned → HasWorkspace v.store k.command.workspaceId
  entered : ∀ i k tx, v.clients i = some k → k.tx = some tx → k.command.Provisions ∨ k.owned
  /-- Once its write was answered, and until the transaction ends, the draft is there. -/
  workspace : ∀ i k tx, v.clients i = some k → k.Open tx → k.workspace →
    ∃ j row, v.store.draftAt WorkspaceTable.workspaces tx j = some row
  folder : ∀ i k tx, v.clients i = some k → k.Open tx → k.folder →
    ∃ j row, folderDraftAt v.store tx j = some row ∧ row.id = k.command.folderId

variable {v v' : Ledger nfkd} {n tx : Nat} {k : Knowledge} {c : SqlCall workspaceSchema}
  {reply : Except Failure c.Reply} {fate : Fate (service nfkd)} {db : Database workspaceSchema}

theorem Sound.one_draft (h : v.Sound) {j j' : Nat} {row row' : FolderRow}
    (draft : folderDraftAt v.store tx j = some row) (draft' : folderDraftAt v.store tx j' = some row')
    (same : row.id = row'.id) : j = j' := by
  obtain ⟨cell, found, pending⟩ := Database.draftAt_eq_some.mp draft
  obtain ⟨cell', found', pending'⟩ := Database.draftAt_eq_some.mp draft'
  by_contra ne
  have apart := (h.separate .folders j j' cell cell' ne found found').pending tx row tx row' pending
    pending'
  exact (collision_eq_none.mp apart).1 same

theorem Sound.new_workspace (h : v.Sound) (client : v.clients n = some k) (enlisted : k.tx = some tx)
    {j : Nat} {row : WorkspaceRow}
    (draft : v.store.draftAt WorkspaceTable.workspaces tx j = some row) :
    ¬ HasWorkspace v.store row.id := by
  rintro ⟨j', row', there, same⟩
  have fresh := (h.written n k tx .workspaces j row client enlisted draft).1
  obtain ⟨cell, found, pending⟩ := Database.draftAt_eq_some.mp draft
  obtain ⟨cell', found', committed'⟩ := Database.committedAt_eq_some.mp there
  have ne : j ≠ j' := by
    rintro rfl
    cases there.symm.trans fresh
  have unowned : cell'.own tx = none := by
    by_contra owned
    obtain ⟨version, owned⟩ := Option.ne_none_iff_exists'.mp owned
    have other : v.store.draftAt WorkspaceTable.workspaces tx j' = some version :=
      Database.draftAt_eq_some.mpr ⟨cell', found', Cell.own_eq_some.mp owned⟩
    cases there.symm.trans (h.written n k tx .workspaces j' version client enlisted other).1
  have apart := (h.separate .workspaces j j' cell cell' ne found found').overtaken tx row row' pending
    committed' unowned
  exact (collision_eq_none.mp apart).1 same.symm

theorem Sound.workspaces_kept (h : v.Sound) (moves : Moves v.store c db) {j : Nat} {row : WorkspaceRow}
    (here : workspaceAt v.store j = some row) : workspaceAt db j = some row := by
  rcases moves.committedAt WorkspaceTable.workspaces j with same | ⟨tx, rfl, rfl⟩
  · exact same.trans here
  rw [workspaceAt, Database.committedAt_commit]
  cases draft : v.store.draftAt WorkspaceTable.workspaces tx j with
  | none => rwa [Option.none_or]
  | some version =>
    obtain ⟨cell, found, pending⟩ := Database.draftAt_eq_some.mp draft
    obtain ⟨i, k, client, enlisted⟩ := h.exclusive.held .workspaces j cell tx version found pending
    cases here.symm.trans (h.written i k tx .workspaces j version client enlisted draft).1

theorem Sound.has_kept (h : v.Sound) (moves : Moves v.store c db) {workspaceId : Uuid}
    (has : HasWorkspace v.store workspaceId) : HasWorkspace db workspaceId := by
  obtain ⟨j, row, here, same⟩ := has
  exact ⟨j, row, h.workspaces_kept moves here, same⟩

theorem Sound.has_committed (h : v.Sound) (client : v.clients n = some k)
    (permitted : permits k (.commit tx)) :
    HasWorkspace (v.store.commit tx) k.command.workspaceId := by
  obtain ⟨still, -, provided⟩ := permitted
  rcases h.entered n k tx client still.1 with provisions | owned
  · obtain ⟨j, row, draft⟩ := h.workspace n k tx client still (provided provisions)
    refine ⟨j, row, ?_, (h.written n k tx .workspaces j row client still.1 draft).2.2⟩
    rw [workspaceAt, Database.committedAt_commit, draft, Option.some_or]
  · exact h.has_kept (.commit tx) (h.owned n k client owned)

theorem Sound.foreign (h : v.Sound) (client : v.clients n = some k) (permitted : permits k c) {i : Nat}
    {k' : Knowledge} (old : v.clients i = some k') (inside : k'.tx = some tx) (ne : i ≠ n) :
    c.tx? ≠ some tx := fun mine =>
  ne (h.exclusive.distinct i n k' k tx old client inside ((enlisted nfkd).own k c tx permitted mine))

theorem Sound.referenced_settle (h : v.Sound) (client : v.clients n = some k)
    (permitted : permits k c) (settled : fate.settle c v.store = some (reply, db)) :
    Referenced db := by
  have moves := settle_moves settled
  intro j row here
  rcases moves.committedAt WorkspaceTable.folders j with same | ⟨tx, rfl, rfl⟩
  · exact h.has_kept moves (h.referenced j row (same.symm.trans here))
  rw [folderAt, Database.committedAt_commit] at here
  cases draft : v.store.draftAt WorkspaceTable.folders tx j with
  | none =>
    rw [draft, Option.none_or] at here
    exact h.has_kept moves (h.referenced j row here)
  | some version =>
    rw [draft, Option.some_or] at here
    cases here
    rw [(h.written n k tx .folders j row client permitted.1.1 draft).1]
    exact h.has_committed client permitted

theorem Sound.owned_settle (h : v.Sound) (client : v.clients n = some k)
    (permitted : permits k c) (settled : fate.settle c v.store = some (reply, db)) {i : Nat}
    {k' : Knowledge} (client' : Function.update v.clients n (some (observe k c reply)) i = some k')
    (owned : k'.owned) : HasWorkspace db k'.command.workspaceId := by
  have moves := settle_moves settled
  rcases Discipline.update_client.mp client' with ⟨rfl, rfl⟩ | ⟨ne, old⟩
  · rw [command_observe]
    have before (owned : k.owned) := h.has_kept moves (h.owned _ k client owned)
    cases c with
    | begin => cases reply <;> exact before owned
    | commit => exact before owned
    | rollback => exact before owned
    | targets => exact before owned
    | insert tx table => cases table <;> cases reply <;> exact before owned
    | update tx table =>
      cases table with
      | workspaces => exact permitted.elim
      | folders => rcases reply with failure | (_ | _) <;> exact before owned
    | select tx table whereClause =>
      rcases tx with _ | tx
      · cases table with
        | folders => cases reply <;> exact before owned
        | workspaces =>
          cases reply with
          | error failure => exact before owned
          | ok rows =>
            obtain ⟨outside, rfl⟩ := permitted
            have answered := settle_answer settled
            cases answered
            rcases Bool.or_eq_true_iff.mp owned with known | shown
            · exact before known
            obtain ⟨row, hrow⟩ := List.exists_mem_of_ne_nil _ (by
              simpa [List.isEmpty_iff] using shown)
            obtain ⟨j, cell, found, committed, named⟩ := Heap.mem_select.mp hrow
            exact ⟨j, row, Database.committedAt_eq_some.mpr ⟨cell, found, committed⟩,
              of_decide_eq_true named⟩
      · cases reply <;> exact before owned
  · exact h.has_kept moves (h.owned i k' old owned)

theorem Sound.entered_settle (h : v.Sound) (client : v.clients n = some k) (permitted : permits k c)
    {i tx : Nat} {k' : Knowledge}
    (client' : Function.update v.clients n (some (observe k c reply)) i = some k')
    (inside : k'.tx = some tx) : k'.command.Provisions ∨ k'.owned := by
  rcases Discipline.update_client.mp client' with ⟨rfl, rfl⟩ | ⟨ne, old⟩
  · rw [command_observe]
    have kept (checked : k.command.Provisions ∨ k.owned) :
        k.command.Provisions ∨ (observe k c reply).owned := by
      refine checked.imp_right fun owned => ?_
      unfold observe
      split <;> simp [owned]
    by_cases begins : c = .begin
    · subst begins
      exact kept permitted.2
    · refine kept (h.entered _ k tx client ?_)
      exact (tx_observe begins).symm.trans inside
  · exact h.entered i k' tx old inside

/-- A draft of its own outlives every statement of a transaction in progress. -/
theorem Sound.draft_kept (h : v.Sound) (client : v.clients n = some k) (permitted : permits k c)
    (settled : fate.settle c v.store = some (reply, db)) (still : (observe k c reply).Open tx)
    (before : k.Open tx) {table : WorkspaceTable} {j : Nat} {row : table.Row}
    (draft : v.store.draftAt table tx j = some row) :
    ∃ row', db.draftAt table tx j = some row' ∧ db.committedAt table j = v.store.committedAt table j ∧
      Draft k table (db.committedAt table j) row' := by
  have moves := settle_moves settled
  have unended : c ≠ .commit tx ∧ c ≠ .rollback tx := by
    constructor <;>
    · rintro rfl
      cases still.2
  obtain ⟨row', draft'⟩ := moves.draftAt_kept draft unended.1 unended.2
  have described : Draft (observe k c reply) table (db.committedAt table j) row' :=
    (drafts nfkd).settle moves permitted before.1
      (fun row => h.written n k tx table j row client before.1) draft'
  refine ⟨row', draft', moves.committedAt_locked draft unended.1, ?_⟩
  cases table <;> simpa only [Draft, command_observe] using described

theorem Sound.workspace_settle (h : v.Sound) (client : v.clients n = some k)
    (permitted : permits k c) (settled : fate.settle c v.store = some (reply, db)) {i : Nat}
    {k' : Knowledge} (client' : Function.update v.clients n (some (observe k c reply)) i = some k')
    (still : k'.Open tx) (wrote : k'.workspace) :
    ∃ j row, db.draftAt WorkspaceTable.workspaces tx j = some row := by
  rcases Discipline.update_client.mp client' with ⟨rfl, rfl⟩ | ⟨ne, old⟩
  · have kept (begins : c ≠ .begin) (wrote : k.workspace) :
        ∃ j row, db.draftAt WorkspaceTable.workspaces tx j = some row := by
      have before := open_before begins still
      obtain ⟨j, row, draft⟩ := h.workspace _ k tx client before wrote
      obtain ⟨row', draft', -⟩ := h.draft_kept client permitted settled still before draft
      exact ⟨j, row', draft'⟩
    cases c with
    | begin =>
      cases reply with
      | ok id => cases wrote
      | error failure => cases permitted.1.symm.trans still.1
    | commit => cases still.2
    | rollback => cases still.2
    | targets => exact kept nofun wrote
    | select tx' table =>
      rcases tx' with _ | tx' <;> cases table <;> cases reply <;> exact kept nofun wrote
    | update tx' table =>
      cases table with
      | workspaces => exact permitted.elim
      | folders => rcases reply with failure | (_ | _) <;> exact kept nofun wrote
    | insert tx' table row =>
      cases table with
      | folders => cases reply <;> exact kept nofun wrote
      | workspaces =>
        cases reply with
        | error failure => exact kept nofun wrote
        | ok value =>
          cases permitted.1.1.symm.trans still.1
          exact ⟨_, row, insert_drafts (settle_answer settled)⟩
  · obtain ⟨j, row, draft⟩ := h.workspace i k' tx old still wrote
    refine ⟨j, row, ?_⟩
    rwa [(settle_moves settled).draftAt_foreign (h.foreign client permitted old still.1 ne)]

theorem Sound.folder_settle (h : v.Sound) (client : v.clients n = some k)
    (permitted : permits k c) (settled : fate.settle c v.store = some (reply, db)) {i : Nat}
    {k' : Knowledge} (client' : Function.update v.clients n (some (observe k c reply)) i = some k')
    (still : k'.Open tx) (wrote : k'.folder) :
    ∃ j row, folderDraftAt db tx j = some row ∧ row.id = k'.command.folderId := by
  rcases Discipline.update_client.mp client' with ⟨rfl, rfl⟩ | ⟨ne, old⟩
  · rw [command_observe]
    have kept (begins : c ≠ .begin) (wrote : k.folder) :
        ∃ j row, folderDraftAt db tx j = some row ∧ row.id = k.command.folderId := by
      have before := open_before begins still
      obtain ⟨j, row, draft, named⟩ := h.folder _ k tx client before wrote
      obtain ⟨row', draft', unmoved, described⟩ :=
        h.draft_kept client permitted settled still before draft
      have original := h.written _ k tx .folders j row client before.1 draft
      rw [unmoved] at described
      exact ⟨j, row', draft', (described.2.same_id original.2).trans named⟩
    cases c with
    | begin =>
      cases reply with
      | ok id => cases wrote
      | error failure => cases permitted.1.symm.trans still.1
    | commit => cases still.2
    | rollback => cases still.2
    | targets => exact kept nofun wrote
    | select tx' table =>
      rcases tx' with _ | tx' <;> cases table <;> cases reply <;> exact kept nofun wrote
    | insert tx' table row =>
      cases table with
      | workspaces => cases reply <;> exact kept nofun wrote
      | folders =>
        cases reply with
        | error failure => exact kept nofun wrote
        | ok value =>
          cases permitted.1.1.symm.trans still.1
          exact ⟨_, row, insert_drafts (settle_answer settled), permitted.2.1⟩
    | update tx' table place whereClause data =>
      cases table with
      | workspaces => exact permitted.elim
      | folders =>
        rcases reply with failure | (_ | _)
        · exact kept nofun wrote
        · exact kept nofun wrote
        obtain ⟨running, workspaceId, folderId, userId, input, now, command, issued⟩ := permitted
        rcases issued with ⟨rfl, rfl⟩ | ⟨-, found, -, -⟩
        · cases running.1.symm.trans still.1
          obtain ⟨row, matched, draft⟩ := update_drafts (settle_answer settled)
          simp only [inWorkspace, Bool.and_eq_true, decide_eq_true_eq] at matched
          refine ⟨place, _, draft, ?_⟩
          rw [command]
          exact matched.1
        · exact kept nofun found
  · obtain ⟨j, row, draft, named⟩ := h.folder i k' tx old still wrote
    refine ⟨j, row, ?_, named⟩
    rwa [folderDraftAt, (settle_moves settled).draftAt_foreign (h.foreign client permitted old still.1 ne)]

theorem Sound.step (h : v.Sound) {e : Event (service nfkd)}
    (hstep : Discipline.View.Step (discipline nfkd) v e v') : v'.Sound := by
  have exclusive := (enlisted nfkd).exclusive_step h.exclusive hstep
  have written := (drafts nfkd).step h.exclusive h.written hstep
  cases hstep with
  | @join n command free =>
    have known {i : Nat} {k : Knowledge}
        (hi : Function.update v.clients n (some (.start command)) i = some k) :
        k = .start command ∨ v.clients i = some k := by
      rcases Discipline.update_client.mp hi with ⟨-, rfl⟩ | ⟨-, old⟩
      · exact .inl rfl
      · exact .inr old
    refine ⟨h.separate, exclusive, written, h.referenced, fun i k hi => ?_, fun i k tx hi => ?_,
      fun i k tx hi => ?_, fun i k tx hi => ?_⟩ <;>
      rcases known hi with rfl | old
    · nofun
    · exact h.owned i k old
    · nofun
    · exact h.entered i k tx old
    · nofun
    · exact h.workspace i k tx old
    · nofun
    · exact h.folder i k tx old
  | @settle n fate k c reply db client permitted settled =>
    exact ⟨(settle_moves settled).separate h.separate, exclusive, written,
      h.referenced_settle client permitted settled,
      fun i k hi owned => h.owned_settle client permitted settled hi owned,
      fun i k tx hi inside => h.entered_settle client permitted hi inside,
      fun i k tx hi still wrote => h.workspace_settle client permitted settled hi still wrote,
      fun i k tx hi still wrote => h.folder_settle client permitted settled hi still wrote⟩

/-! What a commit does to the default folders. -/

/-- Only a default-setting rename, or the creation of the workspace, moves its defaults. -/
theorem Sound.defaults_kept (h : v.Sound) (client : v.clients n = some k) (inside : k.tx = some tx)
    {workspaceId : Uuid}
    (aside : workspaceId ≠ k.command.workspaceId ∨ match k.command with
      | .createWorkspace .. => False
      | .createFolder .. => True
      | .renameFolder _ _ _ input _ => input.isDefault ≠ some true) (j : Nat) :
    DefaultAt (v.store.commit tx) workspaceId j ↔ DefaultAt v.store workspaceId j := by
  rw [defaultAt_commit]
  cases draft : folderDraftAt v.store tx j with
  | none => simp
  | some row =>
    obtain ⟨workspace, described⟩ := h.written n k tx .folders j row client inside draft
    simp only [Option.some.injEq, exists_eq_left', reduceCtorEq, false_and, or_false]
    cases command : k.command with
    | createWorkspace id =>
      rw [command] at workspace aside described
      obtain ⟨absent, -⟩ := described
      have other := aside.resolve_right not_false
      exact ⟨fun same => absurd (same.1.symm.trans workspace) other,
        fun ⟨row', here, _⟩ => by cases here.symm.trans absent⟩
    | createFolder =>
      rw [command] at described
      obtain ⟨absent, -, unset⟩ := described
      exact ⟨fun set => (Bool.false_ne_true (unset.symm.trans set.2)).elim,
        fun ⟨row', here, _⟩ => by cases here.symm.trans absent⟩
    | renameFolder workspaceId' folderId userId input now =>
      rw [command] at workspace aside described
      obtain ⟨before, here, place, -, flag⟩ := described
      have before_at : DefaultAt v.store workspaceId j ↔
          before.workspaceId = workspaceId ∧ before.isDefault = true := by
        constructor
        · rintro ⟨row', here', rest⟩
          cases here.symm.trans here'
          exact rest
        · exact fun rest => ⟨before, here, rest⟩
      rw [before_at, place]
      rcases aside with other | unset
      · exact ⟨fun same => absurd (same.1.symm.trans workspace) other,
          fun same => absurd (same.1.symm.trans workspace) other⟩
      · rw [if_neg unset] at flag
        rw [flag]

/-- The folder a workspace is created with is its only one. -/
theorem Sound.created_default (h : v.Sound) (client : v.clients n = some k)
    (permitted : permits k (.commit tx)) (provisions : k.command.Provisions) :
    OneDefault (v.store.commit tx) k.command.workspaceId := by
  obtain ⟨still, wrote, provided⟩ := permitted
  obtain ⟨place, row, draft, named⟩ := h.folder n k tx client still wrote
  have described {j : Nat} {row : FolderRow} (draft : folderDraftAt v.store tx j = some row) :
      row.workspaceId = k.command.workspaceId ∧ row.id = k.command.folderId ∧ row.isDefault = true := by
    obtain ⟨workspace, described⟩ := h.written n k tx .folders j row client still.1 draft
    refine ⟨workspace, ?_⟩
    cases command : k.command with
    | createWorkspace =>
      rw [command] at described
      exact described.2
    | createFolder =>
      rw [command] at provisions
      exact provisions.elim
    | renameFolder =>
      rw [command] at provisions
      exact provisions.elim
  refine ⟨place, defaultAt_commit.mpr (.inl ⟨row, draft, (described draft).1, (described draft).2.2⟩),
    fun j default => ?_⟩
  rcases defaultAt_commit.mp default with ⟨row', draft', -⟩ | ⟨-, row', here, inside, -⟩
  · exact h.one_draft draft' draft ((described draft').2.1.trans named.symm)
  · obtain ⟨j', workspace, draftWorkspace⟩ := h.workspace n k tx client still (provided provisions)
    have fresh := h.new_workspace client still.1 draftWorkspace
    rw [(h.written n k tx .workspaces j' workspace client still.1 draftWorkspace).2.2] at fresh
    exact absurd (inside ▸ h.referenced j row' here) fresh

/-- After a default-setting rename its folder is a default, and the only one exactly if
the transaction had locked those there were. -/
theorem Sound.renamed_default (h : v.Sound) (client : v.clients n = some k)
    (permitted : permits k (.commit tx)) {workspaceId folderId userId : Uuid}
    {input : RenameFolderInput} {now : Date}
    (command : k.command = .renameFolder workspaceId folderId userId input now)
    (defaults : input.isDefault = some true) :
    OneDefault (v.store.commit tx) workspaceId ↔ Covers v.store tx workspaceId := by
  obtain ⟨still, wrote, -⟩ := permitted
  have described {j : Nat} {row : FolderRow} (draft : folderDraftAt v.store tx j = some row) :
      row.workspaceId = workspaceId ∧ row.isDefault = decide (row.id = folderId) := by
    obtain ⟨workspace, described⟩ := h.written n k tx .folders j row client still.1 draft
    rw [command] at workspace described
    obtain ⟨before, -, -, -, flag⟩ := described
    rw [if_pos defaults] at flag
    exact ⟨workspace, flag⟩
  obtain ⟨place, row, draft, named⟩ := h.folder n k tx client still wrote
  rw [command] at named
  have here : DefaultAt (v.store.commit tx) workspaceId place :=
    defaultAt_commit.mpr (.inl ⟨row, draft, (described draft).1, by
      rw [(described draft).2]
      exact decide_eq_true named⟩)
  constructor
  · rintro ⟨only, -, unique⟩ j default
    by_contra unlocked
    have undrafted := Option.not_isSome_iff_eq_none.mp unlocked
    have same := (unique j (defaultAt_commit.mpr (.inr ⟨undrafted, default⟩))).trans (unique place here).symm
    subst same
    cases undrafted.symm.trans draft
  · intro covers
    refine ⟨place, here, fun j default => ?_⟩
    rcases defaultAt_commit.mp default with ⟨row', draft', -, flag⟩ | ⟨undrafted, before⟩
    · rw [(described draft').2] at flag
      exact h.one_draft draft' draft ((of_decide_eq_true flag).trans named.symm)
    · have locked := covers j before
      rw [undrafted] at locked
      cases locked

end Ledger

/-! Whole runs. -/

variable {w₀ w w' : World (service nfkd)} {e : Event (service nfkd)} {es : List (Event (service nfkd))}

theorem seen_command (t : Thread (service nfkd)) : ((discipline nfkd).seen t).command = t.command := by
  suffices h : ∀ (heard : List (Exchange (sqlInterface workspaceSchema) Failure)) (k : Knowledge),
      (heard.foldl (fun k x => observe k x.call x.reply) k).command = k.command from
    h t.heard (.start t.command)
  intro heard
  induction heard with
  | nil => exact fun _ => rfl
  | cons x heard ih => exact fun k => (ih _).trans command_observe

theorem sound_of_idle (idle : w.threads = []) (quiet : w.store.Quiet) (separate : w.store.Separate)
    (referenced : Referenced w.store) : (ledger nfkd w).Sound := by
  have nobody {i : Nat} {k : Knowledge} (client : (ledger nfkd w).clients i = some k) : False := by
    simp [Discipline.view, idle] at client
  exact {
    separate := separate
    exclusive := ⟨fun i k id hi => (nobody hi).elim, fun i j k k' id hi => (nobody hi).elim,
      fun table j cell id row found pending => by
        rw [quiet table cell (List.mem_of_getElem? found)] at pending
        contradiction⟩
    written := fun i k tx table j row hi => (nobody hi).elim
    referenced := referenced
    owned := fun i k hi => (nobody hi).elim
    entered := fun i k tx hi => (nobody hi).elim
    workspace := fun i k tx hi => (nobody hi).elim
    folder := fun i k tx hi => (nobody hi).elim }

theorem sound_run (holds : (discipline nfkd).Holds w) (h : (ledger nfkd w).Sound)
    (hrun : w.run es = some w') : (ledger nfkd w').Sound :=
  (discipline nfkd).view_invariant (P := Ledger.Sound) (fun _ _ _ hv hstep => hv.step hstep) holds h hrun

/-- The commit of a client takes effect in this step. -/
structure CommitsIn (w : World (service nfkd)) (e : Event (service nfkd)) (i : Nat)
    (t : Thread (service nfkd)) (tx : Nat) : Prop where
  event : ∃ fate, e = .advance i fate ∧ fate.Reaches
  thread : w.threads[i]? = some t
  waiting : ∃ next, t.rest = .call (.commit tx) next

/-- All a step does to the committed rows. -/
theorem committed_step (holds : (discipline nfkd).Holds w) (hstep : Step w e w') :
    (∀ table j, w'.store.committedAt table j = w.store.committedAt table j) ∨
      ∃ i t tx, CommitsIn w e i t tx ∧ permits ((discipline nfkd).seen t) (.commit tx) ∧
        w'.store = w.store.commit tx := by
  cases hstep with
  | join command => exact .inl fun _ _ => rfl
  | @resume i fate t c next reply store thread waiting settled =>
    rcases Classical.em (∃ tx, c = .commit tx) with ⟨tx, rfl⟩ | uncommitted
    · cases fate with
      | lost fault =>
        cases settled
        exact .inl fun _ _ => rfl
      | answered input =>
        cases settled
        exact .inr ⟨i, t, tx, ⟨⟨_, rfl, trivial⟩, thread, next, waiting⟩,
          (discipline nfkd).permits_of_waiting holds thread waiting, rfl⟩
      | unheard input fault =>
        cases settled
        exact .inr ⟨i, t, tx, ⟨⟨_, rfl, trivial⟩, thread, next, waiting⟩,
          (discipline nfkd).permits_of_waiting holds thread waiting, rfl⟩
    · refine .inl fun table j => ((settle_moves settled).committedAt table j).resolve_right ?_
      rintro ⟨tx, same, -⟩
      exact uncommitted ⟨tx, same⟩

/-- The workspace was created since `w₀`: nothing but `createWorkspace` inserts one. -/
def Created (w₀ w : World (service nfkd)) (workspaceId : Uuid) : Prop :=
  ¬ HasWorkspace w₀.store workspaceId ∧ HasWorkspace w.store workspaceId

/-- If a default-setting rename in a created workspace commits in this step, it has
locked the folder that is the default by then. -/
def Guarded (w₀ w : World (service nfkd)) (e : Event (service nfkd)) : Prop :=
  ∀ i t tx workspaceId folderId userId input now, CommitsIn w e i t tx →
    t.command = .renameFolder workspaceId folderId userId input now →
    input.isDefault = some true → Created w₀ w workspaceId → Covers w.store tx workspaceId

/-- A commit adds no workspace but the one its client creates. -/
theorem has_before {v : Ledger nfkd} (h : v.Sound) {n tx : Nat} {k : Knowledge}
    (client : v.clients n = some k) (inside : k.tx = some tx) {workspaceId : Uuid}
    (has : HasWorkspace (v.store.commit tx) workspaceId) :
    HasWorkspace v.store workspaceId ∨ k.command.Provisions ∧ workspaceId = k.command.workspaceId := by
  obtain ⟨j, row, here, rfl⟩ := has
  rw [workspaceAt, Database.committedAt_commit] at here
  cases draft : v.store.draftAt WorkspaceTable.workspaces tx j with
  | none =>
    rw [draft, Option.none_or] at here
    exact .inl ⟨j, row, here, rfl⟩
  | some version =>
    rw [draft, Option.some_or] at here
    cases here
    exact .inr (h.written n k tx .workspaces j row client inside draft).2

theorem one_default_step (holds : (discipline nfkd).Holds w) (h : (ledger nfkd w).Sound)
    (hstep : Step w e w') (guarded : Guarded w₀ w e)
    (before : ∀ workspaceId, Created w₀ w workspaceId → OneDefault w.store workspaceId) :
    ∀ workspaceId, Created w₀ w' workspaceId → OneDefault w'.store workspaceId := by
  rintro workspaceId ⟨absent, has⟩
  rcases committed_step holds hstep with same | ⟨i, t, tx, commits, permitted, store⟩
  · have has' : HasWorkspace w.store workspaceId := by
      simpa only [HasWorkspace, workspaceAt, same] using has
    simpa only [OneDefault, DefaultAt, folderAt, same] using before workspaceId ⟨absent, has'⟩
  have client := (discipline nfkd).view_client commits.thread
  rw [store] at has ⊢
  have kept (has : HasWorkspace w.store workspaceId)
      (same : ∀ j, DefaultAt (w.store.commit tx) workspaceId j ↔ DefaultAt w.store workspaceId j) :
      OneDefault (w.store.commit tx) workspaceId := by
    simpa only [OneDefault, same] using before workspaceId ⟨absent, has⟩
  rcases has_before h client permitted.1.1 has with had | ⟨provisions, rfl⟩
  · by_cases aside : workspaceId = ((discipline nfkd).seen t).command.workspaceId
    · subst aside
      cases command : ((discipline nfkd).seen t).command with
      | createWorkspace =>
        have provisions : ((discipline nfkd).seen t).command.Provisions := by
          rw [command]
          trivial
        exact command ▸ h.created_default client permitted provisions
      | createFolder =>
        refine command ▸ kept had (h.defaults_kept client permitted.1.1 (.inr ?_))
        rw [command]
        trivial
      | renameFolder inWorkspace folderId userId input now =>
        by_cases defaults : input.isDefault = some true
        · rw [command] at absent had
          exact (h.renamed_default client permitted command defaults).mpr
            (guarded i t tx _ _ _ _ _ commits ((seen_command t).symm.trans command) defaults
              ⟨absent, had⟩)
        · refine command ▸ kept had (h.defaults_kept client permitted.1.1 (.inr ?_))
          rw [command]
          exact defaults
    · exact kept had (h.defaults_kept client permitted.1.1 (.inl aside))
  · exact h.created_default client permitted provisions

/-- In every state of a run each created workspace has exactly one default folder, if
and only if every default-setting rename that commits has locked the one there is. -/
theorem default_folder_unique_iff (idle : w.threads = []) (quiet : w.store.Quiet)
    (separate : w.store.Separate) (referenced : Referenced w.store) (hrun : w.run es = some w') :
    (w.Along es fun v e _ => Guarded w v e) ↔
      ∀ first rest v, es = first ++ rest → w.run first = some v →
        ∀ workspaceId, Created w v workspaceId → OneDefault v.store workspaceId := by
  have holds := (discipline nfkd).holds_of_idle idle
  have sound := sound_of_idle idle quiet separate referenced
  constructor
  · rintro guarded first rest v rfl hfirst
    refine World.run_induction
      (P := fun es v => (w.Along es fun v e _ => Guarded w v e) →
        ∀ workspaceId, Created w v workspaceId → OneDefault v.store workspaceId)
      ?_ ?_ first v hfirst guarded.start
    · exact fun _ workspaceId created => absurd created.2 created.1
    · intro es e mid after hmid before hstep guarded
      exact one_default_step ((discipline nfkd).holds_run holds hmid) (sound_run holds sound hmid) hstep
        (guarded.last hmid hstep) (before guarded.start)
  · rintro unique first e rest mid after rfl hmid hstep i t tx workspaceId folderId userId input now
      commits command defaults ⟨absent, has⟩
    have hv := sound_run holds sound hmid
    have client := (discipline nfkd).view_client commits.thread
    have seen := (seen_command t).trans command
    obtain ⟨fate, rfl, reaches⟩ := commits.event
    obtain ⟨next, waiting⟩ := commits.waiting
    have permitted := (discipline nfkd).permits_of_waiting ((discipline nfkd).holds_run holds hmid)
      commits.thread waiting
    have store : after.store = mid.store.commit tx := by
      cases hstep with
      | @resume _ _ t' c next' reply store thread waiting' settled =>
        cases commits.thread.symm.trans thread
        cases waiting.symm.trans waiting'
        cases fate with
        | lost fault => exact reaches.elim
        | answered input =>
          cases settled
          rfl
        | unheard input fault =>
          cases settled
          rfl
    refine (hv.renamed_default client permitted seen defaults).mp ?_
    have := unique (first ++ [.advance i fate]) rest after (by simp) (World.run_snoc hmid hstep)
      workspaceId ⟨absent, store ▸ hv.has_kept (.commit tx) has⟩
    rwa [store] at this

/-! Two renames of one workspace look for the default folder before either commits. -/

def emptyWorld : World (service id) where
  store := ⟨fun _ => [], 0⟩
  threads := []

def sampleCommands : List Command :=
  [.createWorkspace "ws" "main" "ann" ⟨"Space", some "space", none, none⟩ 1,
    .createFolder "left" "ws" "ann" ⟨"Left", some "left", none⟩ 2,
    .createFolder "right" "ws" "ann" ⟨"Right", some "right", none⟩ 3,
    .renameFolder "ws" "left" "ann" ⟨"Left", some true⟩ 4,
    .renameFolder "ws" "right" "ann" ⟨"Right", some true⟩ 5]

def answered (clients : List Nat) : List (Event (service id)) :=
  clients.map fun i => .advance i (.answered ())

/-- Both have set their own flag and listed `main` as the default to clear. -/
def renameRaceStart : List (Event (service id)) :=
  (sampleCommands.map fun command => .start command) ++ answered [0, 0, 0, 0, 1, 1, 1, 1, 2, 2, 2, 2,
    3, 3, 3, 3, 3, 3, 4, 4, 4, 4, 4, 4, 3, 4]

def renameRace : List (Event (service id)) :=
  renameRaceStart ++ answered [3, 3, 4, 4]

def afterRenameRace : World (service id) :=
  (emptyWorld.run renameRace).getD emptyWorld

theorem emptyWorld_quiet : emptyWorld.store.Quiet := fun _ _ hcell => nomatch hcell

theorem emptyWorld_separate : emptyWorld.store.Separate := fun _ _ _ _ _ _ hcell => nomatch hcell

theorem emptyWorld_referenced : Referenced emptyWorld.store := fun _ _ here => nomatch here

theorem renameRace_run : emptyWorld.run renameRace = some afterRenameRace := rfl

theorem created_of_row {w : World (service id)} {j : Nat} {workspaceId : Uuid}
    (here : (workspaceAt w.store j).map WorkspaceRow.id = some workspaceId) :
    Created emptyWorld w workspaceId := by
  obtain ⟨row, here, same⟩ := Option.map_eq_some_iff.mp here
  exact ⟨fun ⟨_, _, absent, _⟩ => (nomatch absent), ⟨j, row, here, same⟩⟩

theorem defaultAt_of_row {w : World (service id)} {j : Nat} {workspaceId : Uuid}
    (here : (folderAt w.store j).map (fun row => (row.workspaceId, row.isDefault)) =
      some (workspaceId, true)) : DefaultAt w.store workspaceId j := by
  obtain ⟨row, here, same⟩ := Option.map_eq_some_iff.mp here
  exact ⟨row, here, congrArg Prod.fst same, congrArg Prod.snd same⟩

theorem renameRace_created : Created emptyWorld afterRenameRace "ws" :=
  created_of_row (j := 0) rfl

theorem renameRace_defaults : ¬ OneDefault afterRenameRace.store "ws" := by
  rintro ⟨j, -, unique⟩
  have left : DefaultAt afterRenameRace.store "ws" 1 := defaultAt_of_row rfl
  have right : DefaultAt afterRenameRace.store "ws" 2 := defaultAt_of_row rfl
  exact absurd ((unique 1 left).trans (unique 2 right).symm) (by decide)

/-- No transaction is in progress, and the workspace has two default folders. -/
theorem default_folder_not_unique : ∃ es w, emptyWorld.run es = some w ∧ w.store.Quiet ∧
    Created emptyWorld w "ws" ∧ ¬ OneDefault w.store "ws" := by
  refine ⟨renameRace, afterRenameRace, renameRace_run, ?_, renameRace_created, renameRace_defaults⟩
  intro table cell hcell
  have ended : (afterRenameRace.store.heap table).all (fun cell => cell.pending.isNone) = true := by
    cases table <;> rfl
  exact Option.isNone_iff_eq_none.mp (List.all_eq_true.mp ended cell hcell)

theorem default_folder_unique_iff_race :
    ¬ emptyWorld.Along renameRace fun v e _ => Guarded emptyWorld v e :=
  fun guarded => renameRace_defaults ((default_folder_unique_iff rfl emptyWorld_quiet emptyWorld_separate
    emptyWorld_referenced renameRace_run).mp guarded renameRace [] afterRenameRace
    (List.append_nil _).symm renameRace_run "ws" renameRace_created)

end TenantOS.Workspaces
