import TenantOS.Interleaving.History
import TenantOS.Workspaces.CurrentVersions

/-! What a user is shown is not touched by anybody else: the calls of other users' clients
leave the rows of the user's workspaces as they are, and in their order. -/
namespace TenantOS.Tenancy

open TenantOS.Domain TenantOS.Infrastructure TenantOS.Relational TenantOS.Interleaving
open TenantOS.Application TenantOS.Modules
open TenantOS.Workspaces (PrimaryKeys Linked linked_writes)

/-- The references the view follows. -/
structure Sound (tables : Tables) : Prop where
  linked : Linked tables
  consistent : Consistent tables

section

variable {userId user : Uuid} {tables before after : Tables}

theorem Sound.keyed (sound : Sound tables) : Keyed tables :=
  ⟨sound.linked.1.workspaces, sound.linked.1.folders⟩

theorem mine_iff (keyed : Keyed tables) {workspaceId : Uuid} :
    mine userId tables workspaceId ↔ Owned tables userId workspaceId := by
  constructor
  · intro held
    obtain ⟨row, mem, both⟩ := List.any_eq_true.mp held
    simp only [Bool.and_eq_true, decide_eq_true_eq] at both
    have found : tables.workspaces.find? (fun other => other.id = workspaceId) = some row :=
      keyed.workspaces.find_eq_some.mpr ⟨mem, both.1⟩
    simp [Owned, ownerOf, found, both.2]
  · intro owned
    obtain ⟨row, found, rfl⟩ := Option.map_eq_some_iff.mp owned
    obtain ⟨mem, same⟩ := keyed.workspaces.find_eq_some.mp found
    exact List.any_eq_true.mpr ⟨row, mem, by simp [same]⟩

/-- A workspace has one owner. -/
theorem foreign_of_mine (keyed : Keyed tables) (other : user ≠ userId) {workspaceId : Uuid}
    (held : mine userId tables workspaceId) : ¬ Owned tables user workspaceId := by
  intro owned
  exact other (Option.some.inj (owned.symm.trans ((mine_iff keyed).mp held)))

/-- A row is inside of the folder's workspace or of none. -/
theorem inside_of_placed (keyed : Keyed tables) {workspaceId : Uuid} {folderId : Option Uuid}
    (placed : ∀ id, folderId = some id → workspaceOf tables id = some workspaceId) :
    inside userId tables workspaceId folderId = mine userId tables workspaceId := by
  cases folderId with
  | none => simp [inside]
  | some id =>
    obtain ⟨folder, found, rfl⟩ := Option.map_eq_some_iff.mp (placed id rfl)
    obtain ⟨mem, same⟩ := keyed.folders.find_eq_some.mp found
    apply Bool.eq_iff_iff.mpr
    rw [inside, Bool.or_eq_true, Option.any_some, or_iff_left_iff_imp]
    intro mineToo
    obtain ⟨other, hother, both⟩ := List.any_eq_true.mp mineToo
    simp only [Bool.and_eq_true, decide_eq_true_eq] at both
    cases keyed.folders.eq_of_mem hother mem (both.1.trans same.symm)
    exact both.2

/-- In sound tables the view has the rows of the user's workspaces, and the versions that
belong to its workflows. -/
theorem view_of_sound (sound : Sound tables) :
    view userId tables = {
      workspaces := tables.workspaces.filter fun row => row.userId = userId
      folders := tables.folders.filter fun row => mine userId tables row.workspaceId
      workflows := tables.workflows.filter fun row => mine userId tables row.workspaceId
      workflowVersions := tables.workflowVersions.filter fun version =>
        (tables.workflows.filter fun row => mine userId tables row.workspaceId).any fun row =>
          row.id = version.workflowId
      «variables» := tables.variables.filter fun row => mine userId tables row.workspaceId
      connections := tables.connections.filter fun row => mine userId tables row.workspaceId } := by
  have keyed := sound.keyed
  have workflow {row : WorkflowRow} (mem : row ∈ tables.workflows) :
      inside userId tables row.workspaceId row.folderId = mine userId tables row.workspaceId :=
    inside_of_placed keyed (sound.consistent.workflows row mem)
  rw [view, Tables.mk.injEq]
  refine ⟨rfl, rfl, List.filter_congr fun row mem => workflow mem, ?_,
    List.filter_congr fun row mem => ?_, List.filter_congr fun row mem => ?_⟩
  · refine List.filter_congr fun version present => ?_
    rw [List.any_filter]
    apply Bool.eq_iff_iff.mpr
    rw [List.any_eq_true, List.any_eq_true]
    refine exists_congr fun row => and_congr_right fun mem => ?_
    rw [workflow mem, Bool.and_eq_true, Bool.and_eq_true, decide_eq_true_eq, decide_eq_true_eq]
    refine and_congr_right fun _ => ?_
    -- a version is named by the workflow it belongs to, and by no other
    obtain ⟨owner, howner, owns, current⟩ := sound.linked.2.workflow version present
    constructor
    · intro names
      obtain ⟨named, hnamed, names', belongs⟩ := sound.linked.2.version row mem
      cases sound.linked.1.workflowVersions.eq_of_mem hnamed present
        (Option.some.inj (names'.symm.trans names))
      exact belongs.symm
    · intro belongs
      cases sound.linked.1.workflows.eq_of_mem howner mem (owns.trans belongs.symm)
      exact current
  · exact inside_of_placed keyed fun id same => by
      cases same
      exact sound.consistent.variables row mem
  · exact inside_of_placed keyed fun id same => by
      cases same
      exact sound.consistent.connections row mem

end

section

variable {userId user : Uuid} {before after : Tables}

theorem workspaces_undisturbed (sound : Sound before) (sound' : Sound after)
    (advance : Advance user before after) (other : user ≠ userId) :
    (after.workspaces.filter fun row => row.userId = userId) =
      before.workspaces.filter fun row => row.userId = userId := by
  have present {tables : Tables} {row : WorkspaceRow} (mem : row ∈ tables.workspaces)
      (same : row.userId = userId) : mine userId tables row.id :=
    List.any_eq_true.mpr ⟨row, mem, by simp [same]⟩
  have kept := advance.confined.workspaces
    (fun row => row.userId = userId && mine userId after row.id) fun row out =>
      foreign_of_mine sound'.keyed other (Bool.and_eq_true .. |>.mp out).2
  have all : (after.workspaces.filter fun row => row.userId = userId) =
      after.workspaces.filter fun row => row.userId = userId && mine userId after row.id := by
    refine List.filter_congr fun row mem => ?_
    by_cases same : row.userId = userId
    · simp [same, present mem same]
    · simp [same]
  rw [all, kept]
  refine List.filter_congr fun row mem => ?_
  by_cases same : row.userId = userId
  · have owned := advance.owned ((mine_iff sound.keyed).mp (present mem same))
    simp [same, (mine_iff sound'.keyed).mpr owned]
  · simp [same]

theorem mine_undisturbed (sound : Sound before) (sound' : Sound after)
    (advance : Advance user before after) (other : user ≠ userId) :
    mine userId after = mine userId before := by
  have count (tables : Tables) (workspaceId : Uuid) : mine userId tables workspaceId =
      (tables.workspaces.filter fun row => row.userId = userId).any fun row =>
        row.id = workspaceId := by
    rw [List.any_filter, mine]
    exact congrArg (List.any _) (funext fun row => Bool.and_comm ..)
  funext workspaceId
  rw [count, count, workspaces_undisturbed sound sound' advance other]

/-- Whatever a call of another user's client does, the user's view stays as it was. -/
theorem view_undisturbed (sound : Sound before) (sound' : Sound after)
    (advance : Advance user before after) (other : user ≠ userId) :
    view userId after = view userId before := by
  have same := mine_undisturbed sound sound' advance other
  have foreign {workspaceId : Uuid} (held : mine userId before workspaceId) :
      ¬ Owned after user workspaceId :=
    foreign_of_mine sound'.keyed other (same ▸ held)
  have workflows : (after.workflows.filter fun row => mine userId before row.workspaceId) =
      before.workflows.filter fun row => mine userId before row.workspaceId :=
    advance.confined.workflows _ fun _ => foreign
  rw [view_of_sound sound, view_of_sound sound', same, Tables.mk.injEq]
  refine ⟨workspaces_undisturbed sound sound' advance other,
    advance.confined.folders _ fun _ => foreign, workflows, ?_,
    advance.confined.variables _ fun _ => foreign, advance.confined.connections _ fun _ => foreign⟩
  rw [workflows]
  refine advance.confined.workflowVersions _ fun version mineToo => ?_
  rintro ⟨workflow, mem, belongs, owned⟩
  obtain ⟨row, hrow, names⟩ := List.any_eq_true.mp mineToo
  have named : workflow.id = row.id := belongs.trans (of_decide_eq_true names).symm
  obtain ⟨hbefore, held⟩ := List.mem_filter.mp hrow
  obtain ⟨hafter, -⟩ := List.mem_filter.mp (workflows ▸ hrow)
  rcases List.mem_append.mp mem with old | new
  · cases sound.linked.1.workflows.eq_of_mem old hbefore named
    exact foreign held owned
  · cases sound'.linked.1.workflows.eq_of_mem new hafter named
    exact foreign held owned

end

/-! Runs. -/

section

variable {nfkd : String → String} {w₀ w w' : World (service nfkd)}
  {before es : List (Event (service nfkd))} {userId : Uuid}

/-- None of the calls settled in the run is the user's. -/
def OfOthers (userId : Uuid) (w : World (service nfkd)) (es : List (Event (service nfkd))) : Prop :=
  w.Along es fun w₁ e _ => ∀ i fate t, e = .advance i fate → w₁.threads[i]? = some t →
    t.command.userId ≠ userId

theorem ofOthers_of_starts (idle : w.threads = [])
    (starts : ∀ command, .start command ∈ es → command.userId ≠ userId) : OfOthers userId w es := by
  rintro first e rest w₁ w₂ rfl hfirst hstep i fate t rfl thread
  exact starts t.command (List.mem_append_left _ (World.start_mem idle hfirst thread))

theorem sound_run (idle : w.threads = []) (sound : Sound w.store) (hrun : w.run es = some w') :
    Sound w'.store :=
  ⟨linked_writes.run sound.linked hrun, (tenanted_run idle sound.consistent hrun).consistent⟩

theorem view_run (idle : w₀.threads = []) (sound : Sound w₀.store)
    (hbefore : w₀.run before = some w) (others : OfOthers userId w es) (hrun : w.run es = some w') :
    view userId w'.store = view userId w.store := by
  refine World.run_induction (P := fun es w' => OfOthers userId w es →
    view userId w'.store = view userId w.store) (fun _ => rfl) ?_ es w' hrun others
  intro es e w₁ w₂ hes ih hstep others
  have reached := World.run_concat hbefore hes
  have sound₁ := sound_run idle sound reached
  have sound₂ := sound_run idle sound (World.run_snoc reached hstep)
  refine Eq.trans ?_ (ih others.start)
  cases hstep with
  | join command => rfl
  | @resume i fate t c next reply store thread waiting settled =>
    have tenanted := tenanted_run idle sound.consistent reached
    have other := others.last hes (.resume thread waiting settled) i fate t rfl thread
    obtain ⟨advance, -, -⟩ := ((tenanted.stage i t thread).called sound₁.consistent waiting).settle
      sound₁.consistent settled False.elim
    exact view_undisturbed sound₁ sound₂ advance other

/-- A user is shown the same on every `GET` route that does not list a whole table, before
and after anything the others do. -/
theorem reads_undisturbed (idle : w₀.threads = []) (sound : Sound w₀.store)
    (hbefore : w₀.run before = some w) (hrun : w.run es = some w') (others : OfOthers userId w es)
    {request : Request} (get : IsGet request) (filtered : ¬ListsAll request) (now now' : Date) :
    (handle prismaRepositories nfkd userId request now' w'.store).1 =
      (handle prismaRepositories nfkd userId request now w.store).1 := by
  have keyed := (sound_run idle sound hbefore).keyed
  have keyed' := (sound_run idle sound (World.run_concat hbefore hrun)).keyed
  obtain ⟨result, first, -⟩ := blind_handle nfkd userId get filtered w.store keyed trivial
  obtain ⟨result', second, -⟩ := blind_handle nfkd userId get filtered w'.store keyed' trivial
  have left := (first now).2
  rw [← view_run idle sound hbefore others hrun, (second now).2] at left
  rw [(first now).1, (second now').1]
  exact (Prod.mk.inj left).1

end

/-! Somebody else creates a folder, and a workflow in it. -/

def busy : List (Event (service id)) :=
  [.start ⟨"bob", .createFolder "folder-c" "ws-b" ⟨"C", none, none⟩⟩,
    .start ⟨"bob", .createWorkflow "flow-1" "v-1" "ws-b" "folder-c" ⟨"F", none, none, none, none⟩⟩,
    .advance 0 (.answered 1), .advance 0 (.answered 2), .advance 1 (.answered 3),
    .advance 1 (.answered 4), .advance 1 (.answered 5)]

def afterBusy : World (service id) :=
  (sampleWorld.run busy).getD sampleWorld

theorem reads_undisturbed_busy :
    (handle prismaRepositories id "alice" (.operation (.listFolderVariables "ws-a" "folder-a")) 9
        afterBusy.store).1 =
      (handle prismaRepositories id "alice" (.operation (.listFolderVariables "ws-a" "folder-a")) 1
        sampleTables).1 := by
  have sound : Sound sampleTables :=
    ⟨⟨Workspaces.sampleTables_keys, List.forall_mem_nil _, List.forall_mem_nil _⟩, sampleTables_consistent⟩
  have others : OfOthers "alice" sampleWorld busy := by
    refine ofOthers_of_starts rfl fun command started => ?_
    simp only [busy, List.mem_cons, Event.start.injEq, reduceCtorEq, List.not_mem_nil, or_false] at started
    rcases started with rfl | rfl
    · decide
    · decide
  have get : IsGet (.operation (.listFolderVariables "ws-a" "folder-a")) := trivial
  exact reads_undisturbed (rfl : sampleWorld.threads = []) sound (rfl : sampleWorld.run [] = _)
    (rfl : sampleWorld.run busy = some afterBusy) others get (fun all => all) 1 9

end TenantOS.Tenancy
