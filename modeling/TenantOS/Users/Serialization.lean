import TenantOS.Users.OptimisticLock

/-! A run of interleaved clients, against the saves of the same run one after the
other. -/
namespace TenantOS.Users

open TenantOS.Domain TenantOS.Infrastructure TenantOS.Interleaving TenantOS.Relational
open TenantOS.Application
open PrismaUserRepository (lockedOn saved)

/-- A save that took effect: the committed row before and after it. -/
structure Saved where
  client : Nat
  before : UserRow
  after : UserRow
deriving DecidableEq

/-- The change a saving client makes to the committed rows in one step, if any. -/
def savedIn (w : World service) (e : Event service) (w' : World service) : Option Saved :=
  match e with
  | .start _ => none
  | .advance i _ =>
    match w.threads[i]?.map Thread.command with
    | some (.edit ..) => (List.range (w.store.heap ()).length).findSome? fun j =>
        match rowAt w.store j, rowAt w'.store j with
        | some before, some after => if before = after then none else some ⟨i, before, after⟩
        | _, _ => none
    | _ => none

/-- The successful saves of a run, in the order in which they committed. -/
abbrev saves (w : World service) (es : List (Event service)) : List Saved :=
  w.log savedIn es

/-- Each save starts from the row as the one before left it. -/
def Chain : UserRow → List Saved → UserRow → Prop
  | first, [], last => core last = core first
  | first, s :: rest, last => core s.before = core first ∧ Chain s.after rest last

theorem Chain.snoc {first : UserRow} {log : List Saved} {s : Saved}
    (h : Chain first log s.before) : Chain first (log ++ [s]) s.after := by
  induction log generalizing first with
  | nil => exact ⟨h, rfl⟩
  | cons s' log ih => exact ⟨h.1, ih h.2⟩

theorem Chain.last {first last last' : UserRow} {log : List Saved} (h : Chain first log last)
    (same : core last' = core last) : Chain first log last' := by
  induction log generalizing first with
  | nil => exact same.trans h
  | cons s log ih => exact ⟨h.1, ih h.2⟩

theorem core_version {row other : UserRow} (h : core row = core other) :
    row.version = other.version := by
  change (core row).version = (core other).version
  rw [h]

theorem core_id {row other : UserRow} (h : core row = core other) : row.id = other.id := by
  change (core row).id = (core other).id
  rw [h]

theorem findSome?_range {α : Type} {f : Nat → Option α} {n j : Nat} {value : α} (inside : j < n)
    (here : f j = some value) (others : ∀ j', j' ≠ j → f j' = none) :
    (List.range n).findSome? f = some value := by
  induction n with
  | zero => omega
  | succ n ih =>
    rw [List.range_succ, List.findSome?_append, List.findSome?_singleton]
    by_cases last : j = n
    · subst last
      have before : (List.range j).findSome? f = none :=
        List.findSome?_eq_none_iff.mpr fun j' hj' => others j' (Nat.ne_of_lt (List.mem_range.mp hj'))
      rw [before, here]
      rfl
    · rw [ih (by omega)]
      rfl

variable {w w' : World service} {e : Event service}

theorem seen_command (t : Thread service) : (discipline.seen t).command = t.command := by
  suffices h : ∀ (heard : List (Exchange (sqlInterface userSchema) Failure)) (k : Knowledge),
      (heard.foldl (fun k x => observe k x.call x.reply) k).command = k.command from
    h t.heard (.start t.command)
  intro heard
  induction heard with
  | nil => exact fun _ => rfl
  | cons x heard ih => exact fun k => (ih _).trans command_observe

/-- Two committed rows of one id are one row. -/
theorem Ledger.Locked.place {v : Ledger} (h : v.Locked) {j j' : Nat} {row row' : UserRow}
    (here : rowAt v.store j = some row) (there : rowAt v.store j' = some row')
    (same : row.id = row'.id) : j = j' := by
  obtain ⟨cell, found, committed⟩ := Option.bind_eq_some_iff.mp here
  obtain ⟨cell', found', committed'⟩ := Option.bind_eq_some_iff.mp there
  by_contra ne
  have apart := (h.separate () j j' cell cell' ne found found').committed row row' committed
    committed'
  exact (usersClash_eq_none.mp apart).1 same

/-- The aggregate a client is about to overwrite a row with was loaded from that row. -/
theorem Ledger.Locked.loadedFrom {v : Ledger} (h : v.Locked) {n : Nat} {k : Knowledge}
    (client : v.clients n = some k) {user : User} (loaded : k.user = some user)
    {calls : List (Date × UserMethod)} {j : Nat} {before : UserRow}
    (here : rowAt v.store j = some before)
    (matched : lockedOn (user.applyAll calls).toSnapshot before) : LoadedFrom user before := by
  obtain ⟨j', row, origin, there, entity, precedes⟩ := h.loaded n k user client loaded
  obtain ⟨status, -, rfl⟩ := toUserEntity_eq_ok.mp entity
  simp only [lockedOn, User.toSnapshot, User.applyAll_id, User.applyAll_version, User.fromSnapshot,
    UserRow.toSnapshot, Bool.and_eq_true, decide_eq_true_eq] at matched
  cases h.place here there (matched.1.trans precedes.id.symm)
  obtain rfl : row = before := Option.some.inj (there.symm.trans here)
  exact ⟨origin, entity, (precedes.same matched.2).symm⟩

theorem savedIn_of_changed {n j : Nat} {fate : Fate service} {t : Thread service}
    {lookup : UserLookup} {calls : List (Date × UserMethod)} {before after : UserRow}
    (thread : w.threads[n]? = some t) (edits : t.command = .edit lookup calls)
    (here : rowAt w.store j = some before) (there : rowAt w'.store j = some after)
    (changed : before ≠ after) (others : ∀ j', j' ≠ j → rowAt w'.store j' = rowAt w.store j') :
    savedIn w (.advance n fate) w' = some ⟨n, before, after⟩ := by
  simp only [savedIn, thread, Option.map_some, edits]
  refine findSome?_range (j := j) ?_ ?_ fun j' ne => ?_
  · obtain ⟨cell, found, -⟩ := Option.bind_eq_some_iff.mp here
    exact (List.getElem?_eq_some_iff.mp found).1
  · simp only [here, there, if_neg changed]
  · rw [others j' ne]
    split
    · rename_i first second hfirst hsecond
      rw [if_pos (Option.some.inj (hfirst.symm.trans hsecond))]
    · rfl

theorem savedIn_of_unchanged (same : ∀ j, rowAt w'.store j = rowAt w.store j) :
    savedIn w e w' = none := by
  unfold savedIn
  split
  · rfl
  · split
    · refine List.findSome?_eq_none_iff.mpr fun j _ => ?_
      rw [same j]
      split
      · rename_i first second hfirst hsecond
        rw [if_pos (Option.some.inj (hfirst.symm.trans hsecond))]
      · rfl
    · rfl

/-- A step saves one row, or leaves every row as it was but for its telemetry. -/
theorem step_saves (holds : discipline.Holds w) (h : (ledger w).Locked) (hstep : Step w e w') :
    (savedIn w e w' = none ∧ ∀ j row, rowAt w.store j = some row →
      ∃ row', rowAt w'.store j = some row' ∧ core row' = core row) ∨
    ∃ n fate k lookup calls user before, e = .advance n fate ∧
      k.command = .edit lookup calls ∧ k.user = some user ∧ LoadedFrom user before ∧
      Ledger.Commits (ledger w) (ledger w') n k before
        (saved (user.applyAll calls).toSnapshot before) ∧
      savedIn w e w' = some ⟨n, before, saved (user.applyAll calls).toSnapshot before⟩ := by
  rcases h.rows_step (discipline.view_step holds hstep) with
    same | ⟨n, fate, k, before, after, rfl, commits⟩
  · exact .inl ⟨savedIn_of_unchanged same, fun j row here => ⟨row, (same j).trans here, rfl⟩⟩
  obtain ⟨t, thread, rfl⟩ := discipline.thread_of_client commits.client
  obtain ⟨j, here, there, others⟩ := commits.place
  obtain ⟨whereClause, data, issues, matched, rfl⟩ := commits.update
  rcases issues with ⟨lookup, calls, user, edits, loaded, rfl, rfl⟩ |
    ⟨userId, time, now, touches, rfl, rfl⟩
  · have changed : before ≠ saved (user.applyAll calls).toSnapshot before := by
      intro same
      have : before.version = before.version + 1 := congrArg UserRow.version same
      omega
    refine .inr ⟨n, fate, _, lookup, calls, user, before, rfl, edits, loaded,
      h.loadedFrom commits.client loaded here matched, commits, ?_⟩
    exact savedIn_of_changed thread ((seen_command t).symm.trans edits) here there changed others
  · refine .inl ⟨?_, fun j' row here' => ?_⟩
    · simp only [savedIn, thread, Option.map_some, (seen_command t).symm.trans touches]
    · by_cases place : j' = j
      · subst place
        cases here.symm.trans here'
        exact ⟨_, there, rfl⟩
      · exact ⟨row, (others j' place).trans here', rfl⟩

/-! The invariant of a run and its log of saves. -/

/-- What the client of a save has made of the row. -/
def Computed (v : Ledger) (s : Saved) : Prop :=
  ∃ k lookup calls user, v.clients s.client = some k ∧ k.command = .edit lookup calls ∧
    k.user = some user ∧ k.commit ≠ none ∧ LoadedFrom user s.before ∧
    s.after = saved (user.applyAll calls).toSnapshot s.before

structure Serial (first : Database userSchema) (v : Ledger) (log : List Saved) : Prop where
  chain : ∀ j row₀, rowAt first j = some row₀ → ∃ row, rowAt v.store j = some row ∧
    row.id = row₀.id ∧ Chain row₀ (log.filter fun s => s.before.id = row₀.id) row
  computed : ∀ s ∈ log, Computed v s
  once : (log.map Saved.client).Nodup
  stored : ∀ i k lookup calls, v.clients i = some k → k.command = .edit lookup calls →
    k.commit = some (.ok ()) → ∃ s ∈ log, s.client = i ∧ k.reread = some s.after

/-- A client that has asked for the commit stays as it is. -/
theorem Ledger.Locked.ended {v v' : Ledger} (h : v.Locked)
    (hstep : Discipline.View.Step discipline v e v') {i : Nat} {k : Knowledge}
    (client : v.clients i = some k) (asked : k.commit ≠ none) :
    ∃ aborted, v'.clients i = some { k with aborted := aborted } := by
  cases hstep with
  | @join n command free =>
    refine ⟨k.aborted, Discipline.update_client.mpr (.inr ⟨?_, client⟩)⟩
    rintro rfl
    rw [free] at client
    contradiction
  | @settle n fate k' c reply db client' permitted settled =>
    by_cases same : i = n
    · subst same
      cases client.symm.trans client'
      obtain ⟨tx, inside⟩ := h.entered i k client asked
      obtain ⟨aborted, ended⟩ := observe_ended permitted inside asked
      exact ⟨aborted, Discipline.update_client.mpr (.inl ⟨rfl, ended.symm⟩)⟩
    · exact ⟨k.aborted, Discipline.update_client.mpr (.inr ⟨same, client⟩)⟩

theorem Computed.step {v v' : Ledger} (h : v.Locked) {s : Saved} (computed : Computed v s)
    (hstep : Discipline.View.Step discipline v e v') : Computed v' s := by
  obtain ⟨k, lookup, calls, user, client, edits, loaded, asked, origin, written⟩ := computed
  obtain ⟨aborted, client'⟩ := h.ended hstep client asked
  exact ⟨_, lookup, calls, user, client', edits, loaded, asked, origin, written⟩

/-- A commit that is answered took effect, then or before. -/
theorem Ledger.Locked.answered {v v' : Ledger} (h : v.Locked)
    (hstep : Discipline.View.Step discipline v e v') {i : Nat} {k' : Knowledge} {lookup : UserLookup}
    {calls : List (Date × UserMethod)} (client' : v'.clients i = some k')
    (edits : k'.command = .edit lookup calls) (asked : k'.commit = some (.ok ())) :
    (∃ k, v.clients i = some k ∧ k.command = k'.command ∧ k.reread = k'.reread ∧
        k.commit = some (.ok ())) ∨
      ∃ fate k before after, e = .advance i fate ∧ Ledger.Commits v v' i k before after ∧
        k.command = k'.command ∧ k.reread = k'.reread := by
  cases hstep with
  | join command free =>
    rcases Discipline.update_client.mp client' with ⟨-, rfl⟩ | ⟨-, old⟩
    · cases asked
    · exact .inl ⟨k', old, rfl, rfl, asked⟩
  | @settle n fate k c reply db client permitted settled =>
    rcases Discipline.update_client.mp client' with ⟨rfl, rfl⟩ | ⟨ne, old⟩
    · rcases Classical.em (∃ tx, c = .commit tx) with ⟨tx, rfl⟩ | uncommitted
      · obtain rfl : reply = .ok () := Option.some.inj asked
        have done := settle_answer settled
        cases done
        obtain ⟨j, after, draft⟩ :=
          h.wrote i k tx client permitted.1 (permitted.2 lookup calls edits).1
        obtain ⟨before, commits⟩ := h.commits client permitted draft (.ok ())
        exact .inr ⟨fate, k, before, after, rfl, commits, rfl, rfl⟩
      · have kept : (observe k c reply).commit = k.commit := by
          unfold observe
          split <;> first | rfl | exact absurd ⟨_, rfl⟩ uncommitted
        have before : k.commit = some (.ok ()) := kept.symm.trans asked
        have done : k.commit ≠ none := by simp [before]
        obtain ⟨tx, inside⟩ := h.entered i k client done
        have ended : ∃ aborted, observe k c reply = { k with aborted := aborted } :=
          observe_ended permitted inside done
        obtain ⟨aborted, ended⟩ := ended
        exact .inl ⟨k, client, command_observe.symm, (congrArg Knowledge.reread ended).symm, before⟩
    · exact .inl ⟨k', old, rfl, rfl, asked⟩

theorem serial_step {first : Database userSchema} {log : List Saved} (holds : discipline.Holds w)
    (h : (ledger w).Locked) (serial : Serial first (ledger w) log) (hstep : Step w e w') :
    Serial first (ledger w') (log ++ (savedIn w e w').toList) := by
  have hview := discipline.view_step holds hstep
  have computed : ∀ s ∈ log, Computed (ledger w') s := fun s hs =>
    (serial.computed s hs).step h hview
  rcases step_saves holds h hstep with
    ⟨none_, rows⟩ | ⟨n, fate, k, lookup, calls, user, before, rfl, edits, loaded, origin, commits, some_⟩
  · rw [none_, Option.toList_none, List.append_nil]
    refine ⟨fun j row₀ hrow₀ => ?_, computed, serial.once, fun i k lookup calls client edits asked => ?_⟩
    · obtain ⟨row, here, sameId, chain⟩ := serial.chain j row₀ hrow₀
      obtain ⟨row', there, same⟩ := rows j row here
      exact ⟨row', there, (core_id same).trans sameId, chain.last same⟩
    · rcases h.answered hview client edits asked with
        ⟨k₀, old, command, reread, done⟩ | ⟨fate, k₀, before, after, -, commits, command, -⟩
      · exact reread ▸ serial.stored i k₀ lookup calls old (command.trans edits) done
      · -- an edit that commits changes more of the row than its telemetry
        obtain ⟨j, here, there, -⟩ := commits.place
        obtain ⟨row', there', same⟩ := rows j before here
        cases there.symm.trans there'
        obtain ⟨_, _, issues, -, rfl⟩ := commits.update
        rcases issues with ⟨_, _, _, -, -, -, rfl⟩ | ⟨_, _, _, touches, -, -⟩
        · have even : before.version + 1 = before.version := core_version same
          omega
        · cases touches.symm.trans (command.trans edits)
  · rw [some_, Option.toList_some]
    obtain ⟨reply, client'⟩ := commits.asked
    obtain ⟨j, here, there, others⟩ := commits.place
    refine ⟨fun j' row₀ hrow₀ => ?_, fun s hs => ?_, ?_, fun i k' lookup' calls' client edits' asked => ?_⟩
    · obtain ⟨row, here', sameId, chain⟩ := serial.chain j' row₀ hrow₀
      rw [List.filter_append, List.filter_singleton]
      by_cases place : j' = j
      · subst place
        cases here.symm.trans here'
        refine ⟨_, there, sameId, ?_⟩
        rw [decide_eq_true sameId, cond_true]
        exact Chain.snoc chain
      · refine ⟨row, (others j' place).trans here', sameId, ?_⟩
        have foreign : before.id ≠ row₀.id := fun same =>
          place (h.place here' here (sameId.trans same.symm))
        rw [decide_eq_false foreign, cond_false, List.append_nil]
        exact chain
    · rcases List.mem_append.mp hs with old | new
      · exact computed s old
      · cases List.mem_singleton.mp new
        exact ⟨_, lookup, calls, user, client', edits, loaded, nofun, origin, rfl⟩
    · rw [List.map_append, List.nodup_append]
      refine ⟨serial.once, List.nodup_singleton _, ?_⟩
      intro i hi i' hi'
      obtain ⟨s, hs, rfl⟩ := List.mem_map.mp hi
      obtain ⟨k', -, -, -, old, -, -, asked, -⟩ := serial.computed s hs
      simp only [List.map_cons, List.map_nil, List.mem_singleton] at hi'
      rintro rfl
      rw [hi', commits.client] at old
      cases old
      exact asked commits.unasked
    · rcases h.answered hview client edits' asked with
        ⟨k₀, old, command, reread, done⟩ | ⟨fate', k₀, before', after, same, commits', command, reread⟩
      · obtain ⟨s, hs, sameClient, shown⟩ :=
          serial.stored i k₀ lookup' calls' old (command.trans edits') done
        exact ⟨s, List.mem_append_left _ hs, sameClient, reread ▸ shown⟩
      · cases same
        cases commits.client.symm.trans commits'.client
        exact ⟨_, List.mem_append_right _ (List.mem_singleton_self _), rfl,
          reread ▸ commits.shown lookup calls edits⟩

/-! Whole runs. -/

variable {es : List (Event service)}

theorem locked_of_idle (idle : w.threads = []) (quiet : w.store.Quiet) (separate : w.store.Separate) :
    (ledger w).Locked := by
  have nobody {i : Nat} {k : Knowledge} (client : (ledger w).clients i = some k) : False := by
    simp [Discipline.view, idle] at client
  have unlocked {j : Nat} {cell : Cell UserRow} {version : Nat × UserRow}
      (found : (w.store.heap ())[j]? = some cell) (pending : cell.pending = some version) : False := by
    rw [quiet () cell (List.mem_of_getElem? found)] at pending
    contradiction
  exact {
    separate := separate
    exclusive := ⟨fun i k id hi => (nobody hi).elim, fun i j k k' id hi => (nobody hi).elim,
      fun _ j cell id row found pending => (unlocked found pending).elim⟩
    written := fun i k tx table j row hi => (nobody hi).elim
    loaded := fun i k user hi => (nobody hi).elim
    wrote := fun i k tx hi => (nobody hi).elim
    reread := fun i k tx row hi => (nobody hi).elim
    honest := fun i k error hi => (nobody hi).elim
    entered := fun i k hi => (nobody hi).elim }

theorem locked_run (holds : discipline.Holds w) (h : (ledger w).Locked) (hrun : w.run es = some w') :
    (ledger w').Locked :=
  discipline.view_invariant (P := Ledger.Locked) (fun _ _ _ hv hstep => hv.step hstep) holds h hrun

theorem Serial.nil (fresh : w.threads = []) : Serial w.store (ledger w) [] where
  chain _ row₀ here := ⟨row₀, here, rfl, by rw [List.filter_nil, Chain]⟩
  computed := by simp
  once := List.nodup_nil
  stored i k _ _ client := by simp [Discipline.view, fresh] at client

theorem serial_run (holds : discipline.Holds w) (h : (ledger w).Locked)
    (fresh : w.threads = []) (hrun : w.run es = some w') :
    Serial w.store (ledger w') (saves w es) := by
  refine World.run_induction (P := fun es w' => Serial w.store (ledger w') (saves w es))
    (Serial.nil fresh) ?_ es w' hrun
  intro es e mid after hmid serial hstep
  rw [saves, World.log_snoc hmid hstep]
  exact serial_step (discipline.holds_run holds hmid) (locked_run holds h hmid) serial hstep

/-- The methods a client was started to call. -/
def callsOf (w : World service) (i : Nat) : List (Date × UserMethod) :=
  match w.threads[i]?.map Thread.command with
  | some (.edit _ calls) => calls
  | _ => []

/-- What a successful save did. -/
structure Applied (w : World service) (s : Saved) : Prop where
  computed : ∃ t user, w.threads[s.client]? = some t ∧ (discipline.seen t).user = some user ∧
    LoadedFrom user s.before ∧
    s.after = saved (user.applyAll (callsOf w s.client)).toSnapshot s.before
  version : s.after.version = s.before.version + 1
  lastLoginAt : s.after.lastLoginAt = s.before.lastLoginAt
  registrarUserId : s.after.registrarUserId = s.before.registrarUserId

theorem Computed.applied {s : Saved} (h : Computed (ledger w) s) : Applied w s := by
  obtain ⟨k, lookup, calls, user, client, edits, loaded, -, origin, written⟩ := h
  obtain ⟨t, thread, rfl⟩ := discipline.thread_of_client client
  have same : callsOf w s.client = calls := by
    simp only [callsOf, thread, Option.map_some, (seen_command t).symm.trans edits]
  exact ⟨⟨t, user, thread, loaded, origin, by rw [same, written]⟩, by rw [written]; rfl,
    by rw [written]; rfl, by rw [written]; rfl⟩

theorem Applied.core_mutate {s : Saved} (h : Applied w s) :
    core s.after = core (mutate (callsOf w s.client) s.before) := by
  obtain ⟨t, user, -, -, origin, written⟩ := h.computed
  rw [written]
  exact origin.core_mutate _

/-- One row of the run: its saves one after the other, each by its client alone. -/
structure Serialised (w : World service) (first : UserRow) (log : List Saved) (last : UserRow) :
    Prop where
  chain : Chain first log last
  version : last.version = first.version + log.length
  composition : core last =
    core (log.foldl (fun row s => mutate (callsOf w s.client) row) first)

theorem core_foldl {log : List Saved} {row row' : UserRow} (same : core row = core row') :
    core (log.foldl (fun row s => mutate (callsOf w s.client) row) row) =
      core (log.foldl (fun row s => mutate (callsOf w s.client) row) row') := by
  induction log generalizing row row' with
  | nil => exact same
  | cons s log ih => exact ih (Users.core_mutate same _)

theorem Chain.serialised {first last : UserRow} {log : List Saved} (h : Chain first log last)
    (applied : ∀ s ∈ log, Applied w s) : Serialised w first log last := by
  induction log generalizing first with
  | nil => exact ⟨h, by rw [core_version h]; simp, h⟩
  | cons s log ih =>
    obtain ⟨start, rest⟩ := h
    have now := applied s List.mem_cons_self
    have later := ih rest fun s hs => applied s (List.mem_cons_of_mem _ hs)
    refine ⟨⟨start, rest⟩, ?_, ?_⟩
    · have version := later.version
      have := now.version
      have := core_version start
      simp only [List.length_cons]
      omega
    · rw [later.composition, List.foldl_cons]
      exact core_foldl (now.core_mutate.trans (Users.core_mutate start _))

/-- A client that fails with an error of the domain has changed no committed row. -/
theorem failed_keeps_rows (holds : discipline.Holds w) (h : (ledger w).Locked)
    (hrun : w.run es = some w') {i : Nat} {t : Thread service} {error : DomainError}
    (thread : w'.threads[i]? = some t) (returned : t.Returned (.error (.domain error))) :
    w.Along es fun v e v' => (∃ fate, e = .advance i fate) →
      ∀ j, rowAt v'.store j = rowAt v.store j := by
  rintro before e rest v v' rfl hbefore hstep ⟨fate, rfl⟩
  have hv := locked_run holds h hbefore
  have holds_v := discipline.holds_run holds hbefore
  rcases hv.rows_step (discipline.view_step holds_v hstep) with same | ⟨n, _, k, row, after, eq, commits⟩
  · exact same
  -- had it changed one, it would have asked for the commit, and failed otherwise
  cases eq
  obtain ⟨reply, asked⟩ := commits.asked
  obtain ⟨v₁, hv₁, hrest⟩ := World.run_split hrun
  cases hbefore.symm.trans hv₁
  obtain ⟨v₂, hv₂, hrest⟩ := World.run_cons hrest
  obtain rfl : v' = v₂ :=
    Option.some.inj ((World.step_iff.mpr hstep).symm.trans (World.step_iff.mpr hv₂))
  have hnext := World.run_snoc hbefore hstep
  have ended : (ledger w').Locked ∧ ∃ k', (ledger w').clients i = some k' ∧ k'.commit = some reply := by
    refine discipline.view_invariant
      (P := fun v => Ledger.Locked v ∧ ∃ k', v.clients i = some k' ∧ k'.commit = some reply) ?_
      (discipline.holds_run holds hnext) ⟨locked_run holds h hnext, _, asked, rfl⟩ hrest
    rintro u e u' ⟨hu, k', client, done⟩ hstep
    obtain ⟨aborted, client'⟩ := hu.ended hstep client (by simp [done])
    exact ⟨hu.step hstep, _, client', done⟩
  obtain ⟨hw', k', client, done⟩ := ended
  cases (discipline.view_client thread).symm.trans client
  have fails : Fails (discipline.seen t) (.domain error) :=
    discipline.accepts_of_returned (discipline.holds_run holds hrun) thread returned
  rcases fails with unasked | failed
  · cases unasked.symm.trans done
  · exact (hw'.honest i _ error client failed).elim

/-- Whatever a saving client does, the telemetry of login and the registrar of every
committed row stay. -/
theorem edit_keeps (holds : discipline.Holds w) (h : (ledger w).Locked) :
    w.Along es fun v e v' => ∀ i fate t lookup calls, e = .advance i fate →
      v.threads[i]? = some t → t.command = .edit lookup calls →
      ∀ j row, rowAt v.store j = some row → ∃ row', rowAt v'.store j = some row' ∧
        row'.lastLoginAt = row.lastLoginAt ∧ row'.registrarUserId = row.registrarUserId := by
  rintro before e rest v v' - hbefore hstep i fate t lookup calls rfl thread edits j row here
  rcases (locked_run holds h hbefore).rows_step
      (discipline.view_step (discipline.holds_run holds hbefore) hstep) with
    same | ⟨n, fate', k, first, after, eq, commits⟩
  · exact ⟨row, (same j).trans here, rfl, rfl⟩
  cases eq
  obtain ⟨place, hfirst, hafter, others⟩ := commits.place
  by_cases moved : j = place
  · subst moved
    cases here.symm.trans hfirst
    obtain ⟨_, _, issues, -, rfl⟩ := commits.update
    rcases issues with ⟨_, _, _, -, -, -, rfl⟩ | ⟨_, _, _, touches, -, -⟩
    · exact ⟨_, hafter, rfl, rfl⟩
    · cases (discipline.view_client thread).symm.trans commits.client
      cases (edits.symm.trans (seen_command t).symm).trans touches
  · exact ⟨row, (others j moved).trans here, rfl, rfl⟩

/-- The aggregate a save returns: what was saved, one version on, with the telemetry and
the registrar of the row. -/
theorem stored_snapshot {user stored : User} {calls : List (Date × UserMethod)} {before : UserRow}
    (origin : LoadedFrom user before)
    (entity : toUserEntity (saved (user.applyAll calls).toSnapshot before) = .ok stored) :
    stored.toSnapshot = { (user.applyAll calls).toSnapshot with
      version := (user.applyAll calls).version + 1
      lastLoginAt := before.lastLoginAt
      registrarUserId := before.registrarUserId } := by
  obtain ⟨row, loaded, same⟩ := origin
  obtain ⟨lastLoginAt, updatedAt, rfl⟩ := core_eq.mp same
  obtain ⟨status, -, rfl⟩ := toUserEntity_eq_ok.mp loaded
  obtain ⟨status', known, rfl⟩ := toUserEntity_eq_ok.mp entity
  have written := known.symm.trans (toUserStatus_name _)
  cases written
  simp [saved, User.toSnapshot, User.fromSnapshot, UserRow.toSnapshot, Email.fromPersisted]

/-- However the clients interleave, the saves that succeed are a serial run: each is
computed from the row the one before left, none is lost, and a save that fails in the
domain changes nothing. -/
theorem no_update_lost (idle : w.threads = []) (quiet : w.store.Quiet)
    (separate : w.store.Separate) (hrun : w.run es = some w') :
    (∀ j first, rowAt w.store j = some first → ∃ last, rowAt w'.store j = some last ∧
      Serialised w' first ((saves w es).filter fun s => s.before.id = first.id) last) ∧
    (∀ s ∈ saves w es, Applied w' s) ∧
    ((saves w es).map Saved.client).Nodup ∧
    (w.Along es fun v e v' => ∀ i fate t lookup calls, e = .advance i fate →
      v.threads[i]? = some t → t.command = .edit lookup calls →
      ∀ j row, rowAt v.store j = some row → ∃ row', rowAt v'.store j = some row' ∧
        row'.lastLoginAt = row.lastLoginAt ∧ row'.registrarUserId = row.registrarUserId) ∧
    (∀ i t error, w'.threads[i]? = some t → t.Returned (.error (.domain error)) →
      w.Along es fun v e v' => (∃ fate, e = .advance i fate) →
        ∀ j, rowAt v'.store j = rowAt v.store j) ∧
    ∀ i t stored, w'.threads[i]? = some t → t.Returned (.ok (.saved stored)) →
      ∃ s ∈ saves w es, s.client = i ∧ ∃ user, (discipline.seen t).user = some user ∧
        stored.toSnapshot = { (user.applyAll (callsOf w' i)).toSnapshot with
          version := (user.applyAll (callsOf w' i)).version + 1
          lastLoginAt := s.after.lastLoginAt
          registrarUserId := s.after.registrarUserId } := by
  have holds := discipline.holds_of_idle idle
  have locked := locked_of_idle idle quiet separate
  have serial := serial_run holds locked idle hrun
  have applied : ∀ s ∈ saves w es, Applied w' s := fun s hs => (serial.computed s hs).applied
  refine ⟨fun j first here => ?_, applied, serial.once,
    edit_keeps holds locked, fun i t error thread returned => failed_keeps_rows holds locked hrun thread returned,
    fun i t stored thread returned => ?_⟩
  · obtain ⟨last, there, -, chain⟩ := serial.chain j first here
    exact ⟨last, there, chain.serialised fun s hs => applied s (List.mem_of_mem_filter hs)⟩
  · obtain ⟨⟨lookup, calls, edits⟩, done, row, reread, entity⟩ :=
      discipline.accepts_of_returned (discipline.holds_run holds hrun) thread returned
    obtain ⟨s, hs, rfl, shown⟩ :=
      serial.stored i _ lookup calls (discipline.view_client thread) edits done
    obtain ⟨t', user, thread', loaded, origin, written⟩ := (applied s hs).computed
    cases thread.symm.trans thread'
    cases reread.symm.trans shown
    refine ⟨s, hs, rfl, user, loaded, ?_⟩
    rw [(applied s hs).lastLoginAt, (applied s hs).registrarUserId]
    exact stored_snapshot origin (written ▸ entity)

/-! Two clients save over one load; the second finds the row moved on. -/

def sampleRow : UserRow where
  id := "ann"
  registrarUserId := none
  email := "ann@example.com"
  passwordHash := none
  firstName := none
  lastName := none
  status := "ACTIVE"
  isPlatformAdmin := false
  tokenVersion := 0
  lastLoginAt := none
  version := 0
  createdAt := 0
  updatedAt := 0
  deletedAt := none

def sampleWorld : World service where
  store := ⟨fun _ => [⟨some sampleRow, none⟩], 0⟩
  threads := []

def sampleRace : List (Event service) :=
  [.start (.edit (.byId "ann" false) [(5, .rename (some "Ann") none)]),
    .start (.edit (.byId "ann" false) [(6, .suspend)]),
    .start (.touchLastLogin "ann" 7 8)] ++
  ([0, 1, 0, 0, 0, 1, 1, 0, 0, 1, 1, 1, 2, 2, 2, 2].map fun i => .advance i (.answered ()))

def afterRace : World service :=
  (sampleWorld.run sampleRace).getD sampleWorld

theorem no_update_lost_race :
    (∀ j first, rowAt sampleWorld.store j = some first → ∃ last,
      rowAt afterRace.store j = some last ∧ Serialised afterRace first
        ((saves sampleWorld sampleRace).filter fun s => s.before.id = first.id) last) ∧
    (saves sampleWorld sampleRace).map Saved.client = [0] := by
  have quiet : sampleWorld.store.Quiet := fun _ => List.forall_mem_singleton.mpr rfl
  have separate : sampleWorld.store.Separate := by
    intro _ i j cell other ne hi hj
    have := (List.getElem?_eq_some_iff.mp hi).1
    have := (List.getElem?_eq_some_iff.mp hj).1
    simp only [sampleWorld, List.length_singleton] at *
    omega
  have hrun : sampleWorld.run sampleRace = some afterRace := rfl
  exact ⟨(no_update_lost rfl quiet separate hrun).1, rfl⟩

end TenantOS.Users
