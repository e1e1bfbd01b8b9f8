import TenantOS.Tenancy.Settlement

/-! No client of `WorkspaceService` gets, or gets at, a row of a workspace that is not its
user's, whatever the others do between its checks and its last call. -/
namespace TenantOS.Tenancy

open TenantOS.Domain TenantOS.Infrastructure TenantOS.Interleaving TenantOS.Application

/-- What is known once the checks have passed, and stays true. -/
def Passed (tables : Tables) (userId : Uuid) : Gate → Prop
  | .unchecked => True
  | .workspace workspaceId => Owned tables userId workspaceId
  | .folder workspaceId folderId => FolderInScope tables userId workspaceId folderId

theorem Passed.advance {gate : Gate} {userId user : Uuid} {before after : Tables}
    (h : Passed before userId gate) (advance : Advance user before after) :
    Passed after userId gate := by
  cases gate with
  | unchecked => trivial
  | workspace workspaceId => exact advance.owned h
  | folder workspaceId folderId => exact ⟨advance.owned h.1, advance.placed h.2⟩

/-- The rest of an operation is one call, which does what it may where the checks hold. -/
def Concludes (userId : Uuid) (op : Operation) (last : Client Outcome) : Prop :=
  ∃ (c : RepositoryCall) (settle : c.Reply → Except Failure Outcome),
    (last = ask c >>= fun value => .done (settle value)) ∧
    ∀ now before, Consistent before → Passed before userId op.gate →
      Settled userId op before (c.run now before).2 ((c.run now before).1.bind settle)

theorem concludes {userId : Uuid} {op : Operation} (c : RepositoryCall)
    {settle : c.Reply → Except Failure Outcome}
    (h : ∀ now before, Consistent before → Passed before userId op.gate →
      Settled userId op before (c.run now before).2 ((c.run now before).1.bind settle)) :
    Concludes userId op (ask c >>= fun value => .done (settle value)) :=
  ⟨c, settle, rfl, h⟩

theorem perform_shape (nfkd : String → String) (userId : Uuid) (op : Operation) :
    ∃ last, (perform clientRepositories nfkd userId op = op.gate.check clientRepositories userId >>= fun _ => last) ∧
      Concludes userId op last := by
  cases op with
  | createWorkspace id defaultFolderId input =>
    exact ⟨_, rfl, concludes _ fun _ _ consistent _ => createWorkspace_settled consistent rfl⟩
  | getWorkspace workspaceId =>
    refine ⟨ask (.workspaces (.findById workspaceId)) >>= fun found =>
      .done (ownedOutcome workspaceId userId found), ?_, concludes _ fun _ _ consistent _ =>
        getWorkspace_settled consistent⟩
    refine (Program.bind_assoc ..).trans (congrArg _ (funext fun found => ?_))
    unfold ownedOutcome
    cases found.filter (fun workspace => workspace.userId = userId) <;> rfl
  | listFolders workspaceId =>
    exact ⟨_, Program.bind_assoc .., concludes _ fun _ _ => listFolders_settled⟩
  | getDefaultFolder workspaceId =>
    refine ⟨ask (.folders (.findByWorkspaceIdAndDefault workspaceId)) >>= fun found =>
      .done (defaultOutcome workspaceId found), ?_, concludes _ fun _ _ => getDefaultFolder_settled⟩
    refine (Program.bind_assoc ..).trans (congrArg _ (funext fun _ =>
      (Program.bind_assoc ..).trans (congrArg _ (funext fun found => ?_))))
    cases found <;> rfl
  | createFolder id workspaceId input =>
    exact ⟨_, Program.bind_assoc .., concludes _ fun _ _ consistent owned =>
      createFolder_settled consistent owned rfl⟩
  | renameFolder workspaceId folderId input =>
    exact ⟨_, Program.bind_assoc .., concludes _ fun _ _ => renameFolder_settled⟩
  | listFolderWorkflows workspaceId folderId =>
    exact ⟨_, Program.bind_assoc .., concludes _ fun _ _ => listFolderWorkflows_settled⟩
  | listFolderVariables workspaceId folderId =>
    exact ⟨_, Program.bind_assoc .., concludes _ fun _ _ => listFolderVariables_settled⟩
  | listFolderCredentials workspaceId folderId =>
    exact ⟨_, Program.bind_assoc .., concludes _ fun _ _ => listFolderCredentials_settled⟩
  | createWorkflow id initialVersionId workspaceId folderId input =>
    exact ⟨_, Program.bind_assoc .., concludes _ fun _ _ consistent scope =>
      createWorkflow_settled consistent scope rfl rfl⟩
  | updateWorkflow workspaceId folderId workflowId input =>
    exact ⟨_, Program.bind_assoc .., concludes _ fun _ _ => updateWorkflow_settled⟩
  | deleteWorkflow workspaceId folderId workflowId =>
    exact ⟨_, Program.bind_assoc .., concludes _ fun now _ => deleteWorkflow_settled now⟩
  | createVariable id workspaceId folderId input =>
    exact ⟨_, Program.bind_assoc .., concludes _ fun _ _ consistent scope =>
      createVariable_settled consistent scope rfl rfl⟩
  | updateVariable workspaceId folderId variableId input =>
    exact ⟨_, Program.bind_assoc .., concludes _ fun now _ => updateVariable_settled now⟩
  | deleteVariable workspaceId folderId variableId =>
    exact ⟨_, Program.bind_assoc .., concludes _ fun now _ => deleteVariable_settled now⟩
  | createCredential id workspaceId folderId input =>
    exact ⟨_, Program.bind_assoc .., concludes _ fun _ _ consistent scope =>
      createCredential_settled consistent scope rfl rfl⟩
  | updateCredential workspaceId folderId credentialId input =>
    exact ⟨_, Program.bind_assoc .., concludes _ fun _ _ => updateCredential_settled⟩
  | deleteCredential workspaceId folderId credentialId =>
    exact ⟨_, Program.bind_assoc .., concludes _ fun now _ => deleteCredential_settled now⟩

/-! Where a client stands. -/

section

variable {userId workspaceId folderId : Uuid} {op : Operation} {refused : Prop}
  {rest last : Client Outcome} {before after : Tables}

/-- What a client may have returned; one that was never in scope was refused. -/
structure Ended (tables : Tables) (userId : Uuid) (op : Operation) (refused : Prop)
    (result : Except Failure Outcome) : Prop where
  shows : ∀ outcome, result = .ok outcome → ∀ workspaceId ∈ outcome.workspaceIds,
    Owned tables userId workspaceId
  refused : refused → ∃ failure ∈ op.notFound, result = .error (.domain failure)

/-- The check of a folder, once its workspace has been checked. -/
def checkFolder (workspaceId folderId : Uuid) : Client Unit := do
  let folder ← folderRepository.findById folderId
  match folder.filter fun folder => folder.workspaceId = workspaceId with
  | some _ => pure ()
  | none => throw (.domain (folderNotFoundError folderId))

inductive Stage (tables : Tables) (userId : Uuid) (op : Operation) (refused : Prop) :
    Client Outcome → Prop where
  | started {last : Client Outcome} (concludes : Concludes userId op last) :
      Stage tables userId op refused (op.gate.check clientRepositories userId >>= fun _ => last)
  | owned {workspaceId folderId : Uuid} {last : Client Outcome}
      (gate : op.gate = .folder workspaceId folderId) (owned : Owned tables userId workspaceId)
      (concludes : Concludes userId op last) :
      Stage tables userId op refused (checkFolder workspaceId folderId >>= fun _ => last)
  | checked {last : Client Outcome} (passed : Passed tables userId op.gate)
      (concludes : Concludes userId op last) : Stage tables userId op refused last
  | ended {result : Except Failure Outcome} (ended : Ended tables userId op refused result) :
      Stage tables userId op refused (.done result)

theorem Ended.failed {failure : Failure} (unrefused : ¬refused) :
    Ended after userId op refused (.error failure) :=
  ⟨fun _ h => (by cases h), fun was => absurd was unrefused⟩

theorem Ended.notFound {failure : DomainError} (named : failure ∈ op.notFound) :
    Ended after userId op refused (.error (.domain failure)) :=
  ⟨fun _ h => (by cases h), fun _ => ⟨failure, named, rfl⟩⟩

/-- The calls of others leave a client where it stands. -/
theorem Stage.advance {user : Uuid} {refused' : Prop} (stage : Stage before userId op refused rest)
    (advance : Advance user before after) (still : refused' → refused) :
    Stage after userId op refused' rest := by
  cases stage with
  | started concludes => exact .started concludes
  | owned gate owned concludes => exact .owned gate (advance.owned owned) concludes
  | checked passed concludes => exact .checked (passed.advance advance) concludes
  | ended ended =>
    exact .ended ⟨fun outcome shown id hid => advance.owned (ended.shows outcome shown id hid),
      fun was => ended.refused (still was)⟩

/-- A client that still has its last call to make has not returned. -/
theorem Concludes.not_done {result : Except Failure Outcome} (concludes : Concludes userId op last) :
    last ≠ .done result := by
  obtain ⟨c, settle, rfl, -⟩ := concludes
  exact nofun

theorem Stage.ended_of_done {result : Except Failure Outcome}
    (stage : Stage after userId op refused rest) (returned : rest = .done result) :
    Ended after userId op refused result := by
  cases stage with
  | started concludes =>
    cases gate : op.gate with
    | unchecked =>
      rw [gate] at returned
      exact absurd returned concludes.not_done
    | workspace workspaceId =>
      rw [gate] at returned
      cases returned
    | folder workspaceId folderId =>
      rw [gate] at returned
      cases returned
  | owned gate owned concludes => cases returned
  | checked passed concludes => exact absurd returned concludes.not_done
  | ended ended =>
    cases returned
    exact ended

/-- What one call of a client does, heard or not, and where its reply leaves the client. -/
structure Called (before : Tables) (userId : Uuid) (op : Operation) (refused : Prop)
    (c : RepositoryCall) (next : Except Failure c.Reply → Client Outcome) : Prop where
  advance : ∀ now, Advance userId before (c.run now before).2
  kept : ∀ now, ¬InScope before userId op → (c.run now before).2 = before
  failed : ∀ failure, next (.error failure) = .done (.error failure)
  answered : ∀ now, Stage (c.run now before).2 userId op (refused ∧ ¬InScope before userId op)
    (next (c.run now before).1)

section

variable {c : RepositoryCall} {next : Except Failure c.Reply → Client Outcome}

theorem Stage.settled {α : Type} {reply : Except Failure α} {settle : α → Except Failure Outcome}
    (ended : Ended after userId op refused (reply.bind settle)) :
    Stage after userId op refused ((.done reply : Client α) >>= fun value => .done (settle value)) := by
  cases reply <;> exact .ended ended

theorem Called.of_last (concludes : Concludes userId op last) (consistent : Consistent before)
    (passed : Passed before userId op.gate) (h : last = .call c next) :
    Called before userId op refused c next := by
  obtain ⟨c', settle, rfl, settled⟩ := concludes
  injection h with hc hnext
  subst hc
  cases hnext
  have settled now := settled now before consistent passed
  refine ⟨fun now => (settled now).advance, fun now out => ((settled now).refused out).1,
    fun _ => rfl, fun now => ?_⟩
  exact .settled ⟨(settled now).shows, fun was => ((settled now).refused was.2).2⟩

/-- A check reads one row, and lets the client go on or refuses it. -/
theorem Called.of_check {check : RepositoryCall} {found : check.Reply}
    {verdict : check.Reply → Except Failure Unit} (consistent : Consistent before)
    (read : ∀ now, check.run now before = (.ok found, before))
    (passes : verdict found = .ok () → Stage before userId op (refused ∧ ¬InScope before userId op) last)
    (refuses : ∀ failure, verdict found = .error failure →
      ∃ missing ∈ op.notFound, failure = .domain missing)
    (h : (ask check >>= fun value => .done (verdict value)) >>= (fun _ => last) = .call c next) :
    Called before userId op refused c next := by
  injection h with hc hnext
  subst hc
  cases hnext
  refine ⟨fun now => ?_, fun now _ => ?_, fun _ => rfl, fun now => ?_⟩
  · rw [read now]
    exact .refl _ consistent
  · rw [read now]
  · rw [read now]
    change Stage before userId op _ ((.done (verdict found) : Client Unit) >>= fun _ => last)
    cases verdict' : verdict found with
    | ok value => exact passes verdict'
    | error failure =>
      obtain ⟨missing, named, rfl⟩ := refuses failure verdict'
      exact .ended (.notFound named)

/-- The two checks, as what they make of the row they read. -/
def workspaceVerdict (workspaceId userId : Uuid) (found : Option Workspace) : Except Failure Unit :=
  match found.filter fun workspace => workspace.userId = userId with
  | some _ => .ok ()
  | none => .error (.domain (workspaceNotFoundError workspaceId))

def folderVerdict (workspaceId folderId : Uuid) (found : Option Folder) : Except Failure Unit :=
  match found.filter fun folder => folder.workspaceId = workspaceId with
  | some _ => .ok ()
  | none => .error (.domain (folderNotFoundError folderId))

theorem assertOwned_eq :
    WorkspaceService.assertOwned workspaceRepository workspaceId userId =
      ask (.workspaces (.findById workspaceId)) >>= fun found =>
        .done (workspaceVerdict workspaceId userId found) := by
  refine (Program.bind_assoc ..).trans (congrArg _ (funext fun found => ?_))
  unfold workspaceVerdict
  cases found.filter (fun workspace => workspace.userId = userId) <;> rfl

theorem checkFolder_eq :
    checkFolder workspaceId folderId =
      ask (.folders (.findById folderId)) >>= fun found =>
        .done (folderVerdict workspaceId folderId found) := by
  refine congrArg _ (funext fun found => ?_)
  unfold folderVerdict
  cases found.filter (fun folder => folder.workspaceId = workspaceId) <;> rfl

theorem Called.of_assertOwned (consistent : Consistent before)
    (named : workspaceNotFoundError workspaceId ∈ op.notFound)
    (passes : Owned before userId workspaceId →
      Stage before userId op (refused ∧ ¬InScope before userId op) last)
    (h : (WorkspaceService.assertOwned workspaceRepository workspaceId userId >>= fun _ => last) =
      .call c next) : Called before userId op refused c next := by
  rw [assertOwned_eq] at h
  refine .of_check consistent (fun _ => rfl) (fun passed => passes ?_) (fun failure refused => ?_) h
  · unfold workspaceVerdict at passed
    split at passed
    · exact (owned_of_filter ‹_›).2
    · cases passed
  · unfold workspaceVerdict at refused
    split at refused
    · cases refused
    · cases refused
      exact ⟨_, named, rfl⟩

theorem Called.of_checkFolder (consistent : Consistent before)
    (named : folderNotFoundError folderId ∈ op.notFound)
    (passes : workspaceOf before folderId = some workspaceId →
      Stage before userId op (refused ∧ ¬InScope before userId op) last)
    (h : (checkFolder workspaceId folderId >>= fun _ => last) = .call c next) :
    Called before userId op refused c next := by
  rw [checkFolder_eq] at h
  refine .of_check consistent (fun _ => rfl) (fun passed => passes ?_) (fun failure refused => ?_) h
  · unfold folderVerdict at passed
    split at passed
    · exact placed_of_filter ‹_›
    · cases passed
  · unfold folderVerdict at refused
    split at refused
    · cases refused
    · cases refused
      exact ⟨_, named, rfl⟩

theorem Stage.called (stage : Stage before userId op refused rest) (consistent : Consistent before)
    (waiting : rest = .call c next) : Called before userId op refused c next := by
  cases stage with
  | started concludes =>
    cases gate : op.gate with
    | unchecked =>
      rw [gate] at waiting
      exact .of_last concludes consistent (gate ▸ trivial) waiting
    | workspace workspaceId =>
      rw [gate] at waiting
      exact .of_assertOwned consistent (Operation.named_of_workspaceGate gate)
        (fun owned => .checked (gate ▸ owned) concludes) waiting
    | folder workspaceId folderId =>
      rw [gate] at waiting
      have waiting := (Program.bind_assoc ..).symm.trans waiting
      exact .of_assertOwned consistent (Operation.named_of_folderGate gate).1
        (fun owned => .owned gate owned concludes) waiting
  | owned gate owned concludes =>
    exact .of_checkFolder consistent (Operation.named_of_folderGate gate).2
      (fun placed => .checked (gate ▸ ⟨owned, placed⟩) concludes) waiting
  | checked passed concludes => exact .of_last concludes consistent passed waiting
  | ended ended => cases waiting

/-- However the call ends. A refusal is promised only where the call was answered. -/
theorem Called.settle {nfkd : String → String} {fate : Fate (service nfkd)} {refused' : Prop}
    {reply : Except Failure c.Reply} (called : Called before userId op refused c next)
    (consistent : Consistent before) (settled : fate.settle c before = some (reply, after))
    (still : refused' → refused ∧ (∃ now, fate = .answered now) ∧ ¬InScope before userId op) :
    Advance userId before after ∧ (¬InScope before userId op → after = before) ∧
      Stage after userId op refused' (next reply) := by
  cases fate with
  | answered now =>
    have ran : c.run now before = (reply, after) := Option.some.inj settled
    have advance := called.advance now
    have kept := called.kept now
    have stage := called.answered now
    simp only [ran] at advance kept stage
    exact ⟨advance, kept, stage.advance (Advance.refl userId advance.consistent)
      fun was => ⟨(still was).1, (still was).2.2⟩⟩
  | lost fault =>
    cases settled
    refine ⟨.refl _ consistent, fun _ => rfl, ?_⟩
    rw [called.failed]
    exact .ended (.failed fun was => by obtain ⟨-, ⟨now, ⟨⟩⟩, -⟩ := still was)
  | unheard now fault =>
    cases settled
    refine ⟨called.advance now, called.kept now, ?_⟩
    rw [called.failed]
    exact .ended (.failed fun was => by obtain ⟨-, ⟨now, ⟨⟩⟩, -⟩ := still was)

end

end

/-! Runs. -/

section

variable (nfkd : String → String)

/-- The client is answered at each of its calls, and what it names is out of scope at each. -/
def NeverInScope (w : World (service nfkd)) (es : List (Event (service nfkd))) (i : Nat) : Prop :=
  w.Along es fun w₁ e _ => ∀ fate t, e = .advance i fate → w₁.threads[i]? = some t →
    (∃ now, fate = .answered now) ∧ ¬InScope w₁.store t.command.userId t.command.operation

structure Tenanted (w : World (service nfkd)) (es : List (Event (service nfkd)))
    (w' : World (service nfkd)) : Prop where
  consistent : Consistent w'.store
  stage : ∀ (i : Nat) (t : Thread (service nfkd)), w'.threads[i]? = some t →
    Stage w'.store t.command.userId t.command.operation (NeverInScope nfkd w es i) t.rest

variable {nfkd} {w w₁ w₂ : World (service nfkd)} {es : List (Event (service nfkd))}

theorem Tenanted.step {e : Event (service nfkd)} (h : Tenanted nfkd w es w₁)
    (hrun : w.run es = some w₁) (hstep : Step w₁ e w₂) : Tenanted nfkd w (es ++ [e]) w₂ := by
  cases hstep with
  | join command =>
    refine ⟨h.consistent, fun j u hu => ?_⟩
    rcases World.join_thread.mp hu with old | ⟨-, rfl⟩
    · exact (h.stage j u old).advance (Advance.refl u.command.userId h.consistent) World.Along.start
    · obtain ⟨last, shape, concludes⟩ := perform_shape nfkd command.userId command.operation
      change Stage w₁.store command.userId command.operation _
        (perform clientRepositories nfkd command.userId command.operation)
      rw [shape]
      exact .started concludes
  | @resume i fate t c next reply store thread waiting settled =>
    have called := (h.stage i t thread).called h.consistent waiting
    have hstep := Step.resume thread waiting settled
    have last : NeverInScope nfkd w (es ++ [.advance i fate]) i →
        NeverInScope nfkd w es i ∧ (∃ now, fate = .answered now) ∧
          ¬InScope w₁.store t.command.userId t.command.operation := fun was =>
      ⟨was.start, was.last hrun hstep fate t rfl thread⟩
    obtain ⟨advance, -, stage⟩ := called.settle h.consistent settled last
    refine ⟨advance.consistent, fun j u hu => ?_⟩
    rcases (World.resume_thread thread).mp hu with ⟨rfl, rfl⟩ | ⟨-, old⟩
    · exact stage
    · exact (h.stage j u old).advance advance World.Along.start

theorem tenanted_run (idle : w.threads = []) (consistent : Consistent w.store)
    (hrun : w.run es = some w₁) : Tenanted nfkd w es w₁ := by
  refine World.run_induction (P := Tenanted nfkd w) ⟨consistent, fun i t ht => ?_⟩
    (fun es e w₁ w₂ hes h hstep => h.step hes hstep) es w₁ hrun
  simp [idle] at ht

/-- Whatever the interleaving, a client changes and is shown rows of its user's workspaces
only; where what it names is never in its scope, it changes nothing and is told so. -/
theorem tenants_isolated {w' : World (service nfkd)} (idle : w.threads = [])
    (consistent : Consistent w.store) (hrun : w.run es = some w') :
    Consistent w'.store ∧
    (w.Along es fun w₁ e w₂ => ∀ i fate t, e = .advance i fate → w₁.threads[i]? = some t →
      Confined (Owned w₂.store t.command.userId) w₁.store w₂.store ∧
        (¬InScope w₁.store t.command.userId t.command.operation → w₂.store = w₁.store)) ∧
    ∀ (i : Nat) (t : Thread (service nfkd)) (result : Except Failure Outcome),
      w'.threads[i]? = some t → t.Returned result →
        (∀ outcome, result = .ok outcome → ∀ workspaceId ∈ outcome.workspaceIds,
          Owned w'.store t.command.userId workspaceId) ∧
        (NeverInScope nfkd w es i → ∃ failure ∈ t.command.operation.notFound,
          failure.kind = .notFound ∧ result = .error (.domain failure)) := by
  refine ⟨(tenanted_run idle consistent hrun).consistent, ?_, fun i t result thread returned => ?_⟩
  · rintro first _ rest w₁ w₂ rfl hfirst hstep i fate t rfl thread
    have tenanted := tenanted_run idle consistent hfirst
    cases hstep with
    | resume thread' waiting settled =>
      cases Option.some.inj (thread.symm.trans thread')
      obtain ⟨advance, kept, -⟩ := ((tenanted.stage i t thread).called tenanted.consistent
        waiting).settle tenanted.consistent settled False.elim
      exact ⟨advance.confined, kept⟩
  · have ended := ((tenanted_run idle consistent hrun).stage i t thread).ended_of_done returned
    refine ⟨ended.shows, fun was => ?_⟩
    obtain ⟨failure, named, same⟩ := ended.refused was
    exact ⟨failure, named, Operation.notFound_kind named, same⟩

end

/-! A folder named inside of a workspace it is not in. -/

def sampleTables : Tables where
  workspaces := [insertedWorkspace ⟨"ws-a", "alice", "A", "a", none, [], "folder-a"⟩ 0,
    insertedWorkspace ⟨"ws-b", "bob", "B", "b", none, [], "folder-b"⟩ 0]
  folders := [insertedDefaultFolder "folder-a" "ws-a" 0, insertedDefaultFolder "folder-b" "ws-b" 0]
  workflows := []
  workflowVersions := []
  «variables» := [insertedVariable ⟨"var-a", "ws-a", "folder-a", "key", "value", false⟩ 0]
  connections := []

theorem sampleTables_consistent : Consistent sampleTables where
  workflows := List.forall_mem_nil _
  «variables» := List.forall_mem_singleton.mpr rfl
  connections := List.forall_mem_nil _

def sampleWorld : World (service id) :=
  ⟨sampleTables, []⟩

/-- The workspace is the caller's, the folder is not in it. -/
def intrusion : List (Event (service id)) :=
  [.start ⟨"bob", .deleteVariable "ws-b" "folder-a" "var-a"⟩, .advance 0 (.answered 1),
    .advance 0 (.answered 2)]

def afterIntrusion : World (service id) :=
  (sampleWorld.run intrusion).getD sampleWorld

theorem tenants_isolated_intrusion :
    Consistent afterIntrusion.store ∧
    ∃ failure ∈ [workspaceNotFoundError "ws-b", folderNotFoundError "folder-a",
        variableNotFoundError "var-a"],
      failure.kind = .notFound ∧
        (afterIntrusion.threads.map (·.rest)) = [.done (.error (.domain failure))] := by
  have hrun : sampleWorld.run intrusion = some afterIntrusion := rfl
  obtain ⟨consistent, -, -⟩ := tenants_isolated rfl sampleTables_consistent hrun
  exact ⟨consistent, folderNotFoundError "folder-a", by simp, rfl, rfl⟩

end TenantOS.Tenancy
