import TenantOS.Infrastructure.CacheService
import TenantOS.Interleaving.Slots

/-! `CacheService.getOrSet` with its single flight per process, between writers that
change the source and then delete the key. Every command of Redis is one step, every read
of the source is one, and so is what runs between two of them. -/
namespace TenantOS.Caching.SingleFlight

open TenantOS.Infrastructure
open TenantOS.Interleaving (set_eq_some concat_eq_some)

variable (json : JSON)

/-- What a loader makes of the source, `none` where that is null or undefined, and the
number of updates the source had seen by then. -/
structure Read where
  value : Option json.Value
  version : Nat

/-- A cached text, and the version of the source it was read from. -/
structure Entry where
  text : String
  version : Nat

/-- The promise of `loader().then(…).finally(…)`. -/
inductive LoadPhase where
  | reading
  | writing (read : Read json)
  | settled (result : Option (Read json))

structure Load where
  key : String
  phase : LoadPhase json

inductive CallPhase where
  | started
  | answered (raw : Option Entry)
  | waiting (load : Nat)
  | returned (read : Read json)
  | rejected

structure Call where
  key : String
  phase : CallPhase json

structure State where
  source : String → Read json
  redis : String → Option Entry
  inFlight : String → Option Nat
  loads : List (Load json)
  calls : List (Call json)

inductive Event where
  | call (key : String)
  | get (i : Nat)
  | resume (i : Nat)
  | read (load : Nat)
  | reject (load : Nat)
  | set (load : Nat)
  /-- A writer changes the source, or has `DEL` run and returns. -/
  | update (key : String) (value : Option json.Value)
  | delete (key : String)

variable {json}

/-- `JSON.parse(raw)`, where null and what cannot be parsed are a miss. -/
def Entry.read? (entry : Entry) : Option (Read json) :=
  ((json.parse entry.text).filter fun value => !json.isNull value).map fun value =>
    ⟨some value, entry.version⟩

namespace State

/-- `Map.delete` and the end of the promise. -/
def settle (s : State json) (load : Nat) (key : String) (result : Option (Read json)) : State json :=
  { s with
    inFlight := Function.update s.inFlight key none
    loads := s.loads.set load ⟨key, .settled result⟩ }

def moveCall (s : State json) (i : Nat) (key : String) (phase : CallPhase json) : State json :=
  { s with calls := s.calls.set i ⟨key, phase⟩ }

/-- A miss: the load that is in flight is joined, or one is started. -/
def join (s : State json) (i : Nat) (key : String) : State json :=
  match s.inFlight key with
  | some existing => s.moveCall i key (.waiting existing)
  | none => { s.moveCall i key (.waiting s.loads.length) with
      inFlight := Function.update s.inFlight key (some s.loads.length)
      loads := s.loads ++ [⟨key, .reading⟩] }

def resume (s : State json) (i : Nat) (call : Call json) : Option (State json) :=
  match call.phase with
  | .answered raw =>
      match raw.bind Entry.read? with
      | some cached => some (s.moveCall i call.key (.returned cached))
      | none => some (s.join i call.key)
  | .waiting load =>
      match s.loads[load]? with
      | some ⟨_, .settled (some read)⟩ => some (s.moveCall i call.key (.returned read))
      | some ⟨_, .settled none⟩ => some (s.moveCall i call.key .rejected)
      | _ => none
  | _ => none

/-- The text a value is stored as: null and undefined are not cached, nor is what has none. -/
def textOf (read : Read json) : Option String :=
  (read.value.filter fun value => !json.isNull value).bind json.stringify

/-- The source is read; a value that is not cacheable settles the load at once. -/
def read (s : State json) (load : Nat) (key : String) : State json :=
  let read := s.source key
  if (textOf read).isSome then { s with loads := s.loads.set load ⟨key, .writing read⟩ }
  else s.settle load key (some read)

def store (s : State json) (load : Nat) (key : String) (read : Read json) : State json :=
  { s.settle load key (some read) with
    redis := match textOf read with
      | some text => Function.update s.redis key (some ⟨text, read.version⟩)
      | none => s.redis }

def update (s : State json) (key : String) (value : Option json.Value) : State json :=
  { s with source := Function.update s.source key ⟨value, (s.source key).version + 1⟩ }

def delete (s : State json) (key : String) : State json :=
  { s with redis := Function.update s.redis key none }

def step (s : State json) : Event json → Option (State json)
  | .call key => some { s with calls := s.calls ++ [⟨key, .started⟩] }
  | .get i =>
      match s.calls[i]? with
      | some ⟨key, .started⟩ => some (s.moveCall i key (.answered (s.redis key)))
      | _ => none
  | .resume i => s.calls[i]?.bind (s.resume i)
  | .read load =>
      match s.loads[load]? with
      | some ⟨key, .reading⟩ => some (s.read load key)
      | _ => none
  | .reject load =>
      match s.loads[load]? with
      | some ⟨key, .reading⟩ => some (s.settle load key none)
      | _ => none
  | .set load =>
      match s.loads[load]? with
      | some ⟨key, .writing read⟩ => some (s.store load key read)
      | _ => none
  | .update key value => some (s.update key value)
  | .delete key => some (s.delete key)

def run (s : State json) : List (Event json) → Option (State json)
  | [] => some s
  | e :: es => (s.step e).bind fun s' => s'.run es

end State

inductive Step (s : State json) : Event json → State json → Prop where
  | call (key : String) : Step s (.call key) { s with calls := s.calls ++ [⟨key, .started⟩] }
  | get {i : Nat} {key : String} (started : s.calls[i]? = some ⟨key, .started⟩) :
      Step s (.get i) (s.moveCall i key (.answered (s.redis key)))
  | hit {i : Nat} {key : String} {raw : Option Entry} {cached : Read json}
      (answered : s.calls[i]? = some ⟨key, .answered raw⟩)
      (found : raw.bind Entry.read? = some cached) :
      Step s (.resume i) (s.moveCall i key (.returned cached))
  | miss {i : Nat} {key : String} {raw : Option Entry}
      (answered : s.calls[i]? = some ⟨key, .answered raw⟩)
      (missed : raw.bind (@Entry.read? json) = none) : Step s (.resume i) (s.join i key)
  | resolved {i load : Nat} {key other : String} {read : Read json}
      (waiting : s.calls[i]? = some ⟨key, .waiting load⟩)
      (settled : s.loads[load]? = some ⟨other, .settled (some read)⟩) :
      Step s (.resume i) (s.moveCall i key (.returned read))
  | rejected {i load : Nat} {key other : String}
      (waiting : s.calls[i]? = some ⟨key, .waiting load⟩)
      (settled : s.loads[load]? = some ⟨other, .settled none⟩) :
      Step s (.resume i) (s.moveCall i key .rejected)
  | read {load : Nat} {key : String} (reading : s.loads[load]? = some ⟨key, .reading⟩) :
      Step s (.read load) (s.read load key)
  | reject {load : Nat} {key : String} (reading : s.loads[load]? = some ⟨key, .reading⟩) :
      Step s (.reject load) (s.settle load key none)
  | set {load : Nat} {key : String} {read : Read json}
      (writing : s.loads[load]? = some ⟨key, .writing read⟩) :
      Step s (.set load) (s.store load key read)
  | update (key : String) (value : Option json.Value) :
      Step s (.update key value) (s.update key value)
  | delete (key : String) : Step s (.delete key) (s.delete key)

section

variable {s s' : State json} {e : Event json} {es : List (Event json)}

theorem step_spec (h : s.step e = some s') : Step s e s' := by
  cases e with
  | call key =>
    cases h
    exact .call key
  | get i =>
    dsimp only [State.step] at h
    split at h
    · cases h
      exact .get ‹_›
    · cases h
  | resume i =>
    obtain ⟨⟨key, phase⟩, present, rest⟩ := Option.bind_eq_some_iff.mp h
    cases phase with
    | answered raw =>
      dsimp only [State.resume] at rest
      split at rest
      · cases rest
        exact .hit present ‹_›
      · cases rest
        exact .miss present ‹_›
    | waiting load =>
      dsimp only [State.resume] at rest
      split at rest
      · cases rest
        exact .resolved present ‹_›
      · cases rest
        exact .rejected present ‹_›
      · cases rest
    | started | returned | rejected => cases rest
  | read load =>
    dsimp only [State.step] at h
    split at h
    · cases h
      exact .read ‹_›
    · cases h
  | reject load =>
    dsimp only [State.step] at h
    split at h
    · cases h
      exact .reject ‹_›
    · cases h
  | set load =>
    dsimp only [State.step] at h
    split at h
    · cases h
      exact .set ‹_›
    · cases h
  | update key value =>
    cases h
    exact .update key value
  | delete key =>
    cases h
    exact .delete key

/-! What is in flight. -/

/-- The map has the loads that are not settled, one for each key. -/
def Coherent (s : State json) : Prop :=
  ∀ key load, s.inFlight key = some load ↔
    ∃ phase, s.loads[load]? = some ⟨key, phase⟩ ∧ ∀ result, phase ≠ .settled result

theorem Coherent.settle (h : Coherent s) {load : Nat} {key : String} {phase : LoadPhase json}
    (present : s.loads[load]? = some ⟨key, phase⟩) (unsettled : ∀ result, phase ≠ .settled result)
    (result : Option (Read json)) : Coherent (s.settle load key result) := by
  have flying := (h key load).mpr ⟨phase, present, unsettled⟩
  intro key' load'
  simp only [State.settle, set_eq_some present]
  by_cases same : key' = key
  · subst same
    rw [Function.update_self]
    constructor
    · intro absent
      cases absent
    · rintro ⟨phase', ⟨-, settled⟩ | ⟨other, present'⟩, unsettled'⟩
      · cases settled
        exact absurd rfl (unsettled' result)
      · cases flying.symm.trans ((h key' load').mpr ⟨phase', present', unsettled'⟩)
        exact absurd rfl other
  · rw [Function.update_of_ne same, h key' load']
    constructor
    · rintro ⟨phase', present', unsettled'⟩
      refine ⟨phase', .inr ⟨?_, present'⟩, unsettled'⟩
      rintro rfl
      cases present.symm.trans present'
      exact same rfl
    · rintro ⟨phase', ⟨-, settled⟩ | ⟨-, present'⟩, unsettled'⟩
      · cases settled
        exact absurd rfl same
      · exact ⟨phase', present', unsettled'⟩

theorem Coherent.writing (h : Coherent s) {load : Nat} {key : String}
    (reading : s.loads[load]? = some ⟨key, .reading⟩) (read : Read json) :
    Coherent { s with loads := s.loads.set load ⟨key, .writing read⟩ } := by
  intro key' load'
  simp only [set_eq_some reading]
  rw [h key' load']
  constructor
  · rintro ⟨phase, present, unsettled⟩
    by_cases same : load' = load
    · subst same
      cases reading.symm.trans present
      exact ⟨.writing read, .inl ⟨rfl, rfl⟩, nofun⟩
    · exact ⟨phase, .inr ⟨same, present⟩, unsettled⟩
  · rintro ⟨phase, ⟨rfl, new⟩ | ⟨-, present⟩, unsettled⟩
    · cases new
      exact ⟨.reading, reading, nofun⟩
    · exact ⟨phase, present, unsettled⟩

theorem Coherent.join (h : Coherent s) (i : Nat) (key : String) : Coherent (s.join i key) := by
  unfold State.join
  split
  · exact h
  · rename_i idle
    intro key' load'
    simp only [concat_eq_some]
    by_cases same : key' = key
    · subst same
      rw [Function.update_self]
      constructor
      · rintro ⟨⟩
        exact ⟨.reading, .inr ⟨rfl, rfl⟩, nofun⟩
      · rintro ⟨phase, old | ⟨rfl, -⟩, unsettled⟩
        · cases idle.symm.trans ((h key' load').mpr ⟨phase, old, unsettled⟩)
        · rfl
    · rw [Function.update_of_ne same, h key' load']
      constructor
      · rintro ⟨phase, present, unsettled⟩
        exact ⟨phase, .inl present, unsettled⟩
      · rintro ⟨phase, old | ⟨-, new⟩, unsettled⟩
        · exact ⟨phase, old, unsettled⟩
        · cases new
          exact absurd rfl same

theorem Coherent.step (h : Coherent s) (hstep : Step s e s') : Coherent s' := by
  cases hstep with
  | call | get | hit | resolved | rejected | update | delete => exact h
  | miss => exact h.join _ _
  | @read load key reading =>
    unfold State.read
    dsimp only
    split
    · exact h.writing reading _
    · exact h.settle reading nofun _
  | reject reading => exact h.settle reading nofun _
  | set writing => exact h.settle writing nofun _

theorem run_cons (h : s.run (e :: es) = some s') :
    ∃ mid, Step s e mid ∧ mid.run es = some s' := by
  obtain ⟨mid, hstep, rest⟩ := Option.bind_eq_some_iff.mp h
  exact ⟨mid, step_spec hstep, rest⟩

theorem run_invariant {P : State json → Prop} (step : ∀ s e s', P s → Step s e s' → P s')
    (initial : P s) (h : s.run es = some s') : P s' := by
  induction es generalizing s with
  | nil =>
    cases h
    exact initial
  | cons e es ih =>
    obtain ⟨mid, hstep, rest⟩ := run_cons h
    exact ih (step s e mid initial hstep) rest

theorem Coherent.run (h : Coherent s) (hrun : s.run es = some s') : Coherent s' :=
  run_invariant (fun _ _ _ => Coherent.step) h hrun

/-! From a delete on. -/

/-- Whatever a call has been given, or will be given by a load that is settled, was read from
the source at the version or later. -/
def Sees (key : String) (version : Nat) (loads : List (Load json)) : CallPhase json → Prop
  | .answered (some entry) => version ≤ entry.version
  | .waiting load => ∃ phase, loads[load]? = some ⟨key, phase⟩ ∧
      ∀ read, phase = .settled (some read) → version ≤ read.version
  | .returned read => version ≤ read.version
  | _ => True

/-- The cache knows nothing of the key that is older than the version, nor does any call from
`since` on. -/
structure Current (key : String) (version since : Nat) (s : State json) : Prop where
  source : version ≤ (s.source key).version
  redis : ∀ entry, s.redis key = some entry → version ≤ entry.version
  loads : ∀ (load : Nat) (read : Read json), s.loads[load]? = some ⟨key, .writing read⟩ →
    version ≤ read.version
  calls : ∀ (i : Nat) (phase : CallPhase json), since ≤ i → s.calls[i]? = some ⟨key, phase⟩ →
    Sees key version s.loads phase

variable {key : String} {version since : Nat}

theorem Sees.mono {loads loads' : List (Load json)} {phase : CallPhase json}
    (h : Sees key version loads phase)
    (evolves : ∀ (load : Nat) (phase : LoadPhase json), loads[load]? = some ⟨key, phase⟩ →
      ∃ phase', loads'[load]? = some ⟨key, phase'⟩ ∧ ∀ read, phase' = .settled (some read) →
        phase = .settled (some read) ∨ version ≤ read.version) :
    Sees key version loads' phase := by
  match phase, h with
  | .waiting load, ⟨phase, present, fresh⟩ =>
    obtain ⟨phase', present', settled⟩ := evolves load phase present
    refine ⟨phase', present', fun read same => ?_⟩
    rcases settled read same with old | new
    · exact fresh read old
    · exact new
  | .answered (some entry), h => exact h
  | .returned read, h => exact h
  | .started, _ | .answered none, _ | .rejected, _ => trivial

theorem Current.moveCall (h : Current key version since s) {i : Nat} {key' : String}
    {old new : CallPhase json} (present : s.calls[i]? = some ⟨key', old⟩)
    (sees : key' = key → since ≤ i → Sees key version s.loads new) :
    Current key version since (s.moveCall i key' new) := by
  refine ⟨h.source, h.redis, h.loads, ?_⟩
  intro j phase later present'
  rcases (set_eq_some present).mp present' with ⟨rfl, same⟩ | ⟨-, other⟩
  · cases same
    exact sees rfl later
  · exact h.calls j phase later other

theorem Current.moveLoad (h : Current key version since s) {load : Nat} {key' : String}
    {old new : LoadPhase json} (present : s.loads[load]? = some ⟨key', old⟩)
    (reads : key' = key → ∀ read, new = .writing read ∨ new = .settled (some read) →
      version ≤ read.version) (inFlight : String → Option Nat) :
    Current key version since { s with
      inFlight := inFlight
      loads := s.loads.set load ⟨key', new⟩ } := by
  refine ⟨h.source, h.redis, ?_, ?_⟩
  · intro load' read present'
    rcases (set_eq_some present).mp present' with ⟨-, same⟩ | ⟨-, other⟩
    · cases same
      exact reads rfl read (.inl rfl)
    · exact h.loads load' read other
  · intro i phase later call
    refine Sees.mono (h.calls i phase later call) ?_
    intro load' phase' present'
    by_cases same : load' = load
    · subst same
      cases present.symm.trans present'
      exact ⟨new, (set_eq_some present).mpr (.inl ⟨rfl, rfl⟩),
        fun read settled => .inr (reads rfl read (.inr settled))⟩
    · exact ⟨phase', (set_eq_some present).mpr (.inr ⟨same, present'⟩), fun read => .inl⟩

theorem Current.join (h : Current key version since s) (coherent : Coherent s) {i : Nat}
    {key' : String} {old : CallPhase json} (present : s.calls[i]? = some ⟨key', old⟩) :
    Current key version since (s.join i key') := by
  unfold State.join
  split
  · rename_i existing flying
    refine h.moveCall present ?_
    rintro rfl -
    obtain ⟨phase, there, unsettled⟩ := (coherent key' existing).mp flying
    exact ⟨phase, there, fun read settled => absurd settled (unsettled _)⟩
  · refine ⟨h.source, h.redis, ?_, ?_⟩
    · intro load read there
      rcases concat_eq_some.mp there with old | ⟨-, new⟩
      · exact h.loads load read old
      · cases new
    · intro j phase later call
      rcases (set_eq_some present).mp call with ⟨rfl, same⟩ | ⟨-, other⟩
      · cases same
        exact ⟨.reading, concat_eq_some.mpr (.inr ⟨rfl, rfl⟩), fun read => nofun⟩
      · refine Sees.mono (h.calls j phase later other) ?_
        intro load phase there
        exact ⟨phase, concat_eq_some.mpr (.inl there), fun read => .inl⟩

theorem read?_version {entry : Entry} {cached : Read json} (h : entry.read? = some cached) :
    cached.version = entry.version := by
  obtain ⟨value, -, rfl⟩ := Option.map_eq_some_iff.mp h
  rfl

theorem Current.cache (h : Current key version since s) {key' : String} {written : Option Entry}
    (fresh : key = key' → ∀ entry, written = some entry → version ≤ entry.version) :
    Current key version since { s with redis := Function.update s.redis key' written } := by
  refine ⟨h.source, ?_, h.loads, h.calls⟩
  intro entry cached
  dsimp only at cached
  by_cases same : key = key'
  · subst same
    rw [Function.update_self] at cached
    exact fresh rfl entry cached
  · rw [Function.update_of_ne same] at cached
    exact h.redis entry cached

theorem Current.step (h : Current key version since s) (coherent : Coherent s)
    (hstep : Step s e s') : Current key version since s' := by
  cases hstep with
  | call key' =>
    refine ⟨h.source, h.redis, h.loads, ?_⟩
    intro i phase later call
    rcases concat_eq_some.mp call with old | ⟨-, new⟩
    · exact h.calls i phase later old
    · cases new
      trivial
  | @get i key' started =>
    refine h.moveCall started ?_
    rintro rfl -
    cases cached : s.redis key' with
    | none => trivial
    | some entry => exact h.redis entry cached
  | hit answered found =>
    refine h.moveCall answered ?_
    rintro rfl later
    obtain ⟨entry, rfl, read⟩ := Option.bind_eq_some_iff.mp found
    have given := h.calls _ _ later answered
    exact Nat.le_trans given (Nat.le_of_eq (read?_version read).symm)
  | miss answered missed => exact h.join coherent answered
  | resolved waiting settled =>
    refine h.moveCall waiting ?_
    rintro rfl later
    obtain ⟨phase, there, fresh⟩ := h.calls _ _ later waiting
    cases settled.symm.trans there
    exact fresh _ rfl
  | rejected waiting settled => exact h.moveCall waiting fun _ _ => trivial
  | @read load key' reading =>
    have reads : key' = key → version ≤ (s.source key').version := by
      rintro rfl
      exact h.source
    unfold State.read
    dsimp only
    split
    · refine h.moveLoad reading ?_ s.inFlight
      rintro same read (new | new)
      · cases new
        exact reads same
      · cases new
    · refine h.moveLoad reading ?_ _
      rintro same read (new | new)
      · cases new
      · cases new
        exact reads same
  | reject reading =>
    refine h.moveLoad reading ?_ _
    rintro - read (new | new) <;> cases new
  | @set load key' read writing =>
    have moved : Current key version since (s.settle load key' (some read)) := by
      refine h.moveLoad writing ?_ _
      rintro rfl read' (new | new)
      · cases new
      · cases new
        exact h.loads load read writing
    unfold State.store
    cases text : State.textOf read with
    | none => exact moved
    | some text' =>
      apply moved.cache
      intro same entry stored
      subst same
      cases stored
      exact h.loads load read writing
  | update key' value =>
    refine ⟨?_, h.redis, h.loads, h.calls⟩
    dsimp only [State.update]
    by_cases same : key = key'
    · subst same
      rw [Function.update_self]
      exact Nat.le_succ_of_le h.source
    · rw [Function.update_of_ne same]
      exact h.source
  | delete key' =>
    apply h.cache
    intro _ _ stored
    cases stored

theorem Current.run (h : Current key version since s) (coherent : Coherent s)
    (hrun : s.run es = some s') : Current key version since s' :=
  (run_invariant (P := fun s => Coherent s ∧ Current key version since s)
    (fun _ _ _ both hstep => ⟨both.1.step hstep, both.2.step both.1 hstep⟩) ⟨coherent, h⟩ hrun).2

/-- A load of the key that read the source before the version has its `SET` still to come. -/
def StaleLoad (key : String) (version : Nat) (s : State json) : Prop :=
  ∃ (load : Nat) (read : Read json), s.loads[load]? = some ⟨key, .writing read⟩ ∧
    read.version < version

/-- No call from `since` on has returned what was read before the version. -/
def Forgotten (key : String) (version since : Nat) (s : State json) : Prop :=
  ∀ (i : Nat) (read : Read json), since ≤ i → s.calls[i]? = some ⟨key, .returned read⟩ →
    version ≤ read.version

/-- A call that misses while a load is in flight returns what that load has read. -/
theorem joins_flight {load : Nat} {read : Read json} (uncached : s.redis key = none)
    (flying : s.inFlight key = some load) (writing : s.loads[load]? = some ⟨key, .writing read⟩) :
    ∃ s', s.run [.call key, .get s.calls.length, .resume s.calls.length, .set load,
        .resume s.calls.length] = some s' ∧
      s'.calls[s.calls.length]? = some ⟨key, .returned read⟩ := by
  let i := s.calls.length
  let called : State json := { s with calls := s.calls ++ [⟨key, .started⟩] }
  let missed := called.moveCall i key (.answered none)
  let joined := missed.moveCall i key (.waiting load)
  let stored := joined.store load key read
  have started : called.calls[i]? = some ⟨key, .started⟩ := List.getElem?_concat_length
  have moved {s : State json} {old new : CallPhase json} (there : s.calls[i]? = some ⟨key, old⟩) :
      (s.moveCall i key new).calls[i]? = some ⟨key, new⟩ :=
    (set_eq_some there).mpr (.inl ⟨rfl, rfl⟩)
  have got : called.step (.get i) = some missed := by
    simp only [State.step, started, show called.redis key = none from uncached, missed]
  have joins : missed.step (.resume i) = some joined := by
    have there : missed.calls[i]? = some ⟨key, .answered none⟩ := moved started
    simp only [State.step, there, State.resume, Option.bind_some, Option.bind_none, State.join,
      show missed.inFlight key = some load from flying, joined]
  have stores : joined.step (.set load) = some stored := by
    simp only [State.step, show joined.loads[load]? = _ from writing, stored]
  have settled : stored.loads[load]? = some ⟨key, .settled (some read)⟩ :=
    (set_eq_some writing).mpr (.inl ⟨rfl, rfl⟩)
  have waiting : stored.calls[i]? = some ⟨key, .waiting load⟩ := moved (moved started)
  have returns : stored.step (.resume i) = some (stored.moveCall i key (.returned read)) := by
    simp only [State.step, waiting, State.resume, Option.bind_some, settled]
  refine ⟨_, ?_, moved waiting⟩
  simp only [State.run, show s.step (.call key) = some called from rfl, got, joins, stores, returns,
    Option.bind_some, i]

theorem version_le (hstep : Step s e s') :
    (s.source key).version ≤ (s'.source key).version := by
  cases hstep with
  | update key' value =>
    dsimp only [State.update]
    by_cases same : key = key'
    · subst same
      rw [Function.update_self]
      exact Nat.le_succ _
    · exact Nat.le_of_eq (by rw [Function.update_of_ne same])
  | read =>
    unfold State.read
    dsimp only
    split <;> exact Nat.le_refl _
  | miss =>
    unfold State.join
    split <;> exact Nat.le_refl _
  | _ => exact Nat.le_refl _

structure Idle (s : State json) : Prop where
  loads : s.loads = []
  inFlight : ∀ key, s.inFlight key = none

theorem Idle.coherent (idle : Idle s) : Coherent s := by
  intro key load
  simp [idle.loads, idle.inFlight]

/-- A delete with no load of the key on the way that is older than the version. -/
theorem current_delete (h : version ≤ (s.source key).version) (none : ¬ StaleLoad key version s) :
    Current key version s.calls.length (s.delete key) := by
  refine ⟨h, ?_, ?_, ?_⟩
  · intro entry cached
    dsimp only [State.delete] at cached
    rw [Function.update_self] at cached
    cases cached
  · intro load read writing
    exact Nat.le_of_not_lt fun old => none ⟨load, read, writing, old⟩
  · intro i phase later call
    exact absurd (List.getElem?_eq_some_iff.mp call).1 (Nat.not_lt.mpr later)

theorem Current.forgotten (h : Current key version since s) : Forgotten key version since s :=
  fun i read later returned => h.calls i (.returned read) later returned

/-- After an update and, any time later, the delete of its key, no call that starts after the
delete returns what was read before the update: in every run, exactly when no load that read
before the update has its `SET` still to come when the delete is run. -/
theorem delete_forgets {s₀ : State json} {first between : List (Event json)}
    {value : Option json.Value} (idle : Idle s₀) (hfirst : s₀.run first = some s)
    (updated : (s.update key value).run between = some s') :
    (∀ rest last, (s'.delete key).run rest = some last →
      Forgotten key ((s.source key).version + 1) s'.calls.length last) ↔
      ¬ StaleLoad key ((s.source key).version + 1) s' := by
  have coherent : Coherent s' :=
    ((idle.coherent.run hfirst).step (.update key value)).run updated
  constructor
  · rintro forgotten ⟨load, read, writing, old⟩
    have flying : s'.inFlight key = some load :=
      (coherent key load).mpr ⟨.writing read, writing, nofun⟩
    obtain ⟨last, hrun, returned⟩ : ∃ last, (s'.delete key).run _ = some last ∧ _ :=
      joins_flight (Function.update_self ..) flying writing
    exact Nat.not_lt.mpr (forgotten _ last hrun _ read (Nat.le_refl _) returned) old
  · intro none rest last hrun
    have newer : (s.source key).version + 1 ≤ (s'.source key).version := by
      refine run_invariant
        (P := fun mid => (s.source key).version + 1 ≤ (mid.source key).version) ?_ ?_ updated
      · intro mid e mid' le hstep
        exact Nat.le_trans le (version_le hstep)
      · dsimp only [State.update]
        exact Nat.le_of_eq (by rw [Function.update_self])
    have fresh := current_delete newer none
    exact (fresh.run (coherent.step (.delete key)) hrun).forgotten

end

/-! A profile that is loaded, changed and invalidated. -/

def texts : JSON where
  Value := String
  isNull _ := false
  stringify value := some value
  parse text := some text

def sampleState : State texts where
  source _ := ⟨some "old", 0⟩
  redis _ := none
  inFlight _ := none
  loads := []
  calls := []

def loading : List (Event texts) := [.call "user", .get 0, .resume 0, .read 0]

def after (events : List (Event texts)) : State texts :=
  (sampleState.run events).getD sampleState

theorem delete_forgets_stored :
    Forgotten "user" 1 1 (after (loading ++ [.update "user" (some "new"), .set 0, .delete "user",
      .call "user", .get 1, .resume 1, .read 1, .set 1, .resume 1])) := by
  have hrun : sampleState.run loading = some (after loading) := rfl
  have updated : ((after loading).update "user" (some "new")).run [.set 0] =
      some (after (loading ++ [.update "user" (some "new"), .set 0])) := rfl
  have idle : Idle sampleState := ⟨rfl, fun _ => rfl⟩
  refine (delete_forgets idle hrun updated).mpr ?_
    [.call "user", .get 1, .resume 1, .read 1, .set 1, .resume 1] _ rfl
  rintro ⟨load, read, writing, -⟩
  match load with
  | 0 => cases writing
  | _ + 1 => cases writing

/-- The load has read the old profile and stores it after the delete. -/
theorem delete_undone :
    ¬ ∀ rest last, (after (loading ++ [.update "user" (some "new"), .delete "user"])).run rest =
      some last → Forgotten "user" 1 1 last := by
  intro forgotten
  have stale := forgotten [.set 0, .call "user", .get 1, .resume 1] _ rfl 1 ⟨some "old", 0⟩
    (Nat.le_refl 1) rfl
  cases stale

end TenantOS.Caching.SingleFlight
