import TenantOS.Infrastructure.CacheService
import TenantOS.Interleaving.Runs
import TenantOS.Interleaving.Slots

/-! `CacheService.getOrSet` once more, reply by reply: every answer of Redis, every settlement
of a loader and every continuation of a promise is a step of its own, and any command may fail. -/
namespace TenantOS.Caching.Coalescing

open TenantOS.Infrastructure
open TenantOS.Interleaving (set_eq_some concat_eq_some foldlM_invariant)

variable (json : JSON)

abbrev Loaded := Option json.Value

/-- How far `loader().then(…).finally(…)` has come. -/
inductive LoadPhase where
  | pending
  | resolved (value : Loaded json)
  | writing (value : Loaded json)
  | written (value : Loaded json)
  | rejected
  | finished (result : Option (Loaded json))

structure Load where
  key : String
  phase : LoadPhase json

inductive CallPhase where
  | started
  /-- What `GET` came to; `none` where it failed. -/
  | answered (reply : Option (Option String))
  | waiting (load : Nat)
  | returned (value : Loaded json)
  | rejected

structure Call where
  key : String
  phase : CallPhase json

/-- A text Redis was given, by a load of this process or by anybody else. -/
structure Stored where
  key : String
  text : String
  load : Option Nat

structure State where
  redis : String → Option String
  inFlight : String → Option Nat
  loads : List (Load json)
  calls : List (Call json)
  stored : List Stored

inductive Event where
  | call (key : String)
  /-- Redis runs its `GET`, or the command fails. -/
  | get (i : Nat)
  | getFails (i : Nat)
  | resume (i : Nat)
  | resolve (load : Nat) (value : Loaded json)
  | reject (load : Nat)
  | proceed (load : Nat)
  | set (load : Nat)
  /-- The reply to it, or its failure, whether or not it was run. -/
  | setEnds (load : Nat)
  | store (key text : String)
  | erase (key : String)

variable {json}

namespace LoadPhase

def loaded : LoadPhase json → Option (Loaded json)
  | .resolved value | .writing value | .written value => some value
  | .finished result => result
  | .pending | .rejected => none

def isFinished : LoadPhase json → Bool
  | .finished _ => true
  | _ => false

def isRejected : LoadPhase json → Bool
  | .rejected | .finished none => true
  | _ => false

end LoadPhase

/-- `get`: what failed, is not there or cannot be parsed is null. -/
def cached (reply : Option (Option String)) : Option json.Value :=
  match reply with
  | none | some none => none
  | some (some text) => (json.parse text).filter fun value => !json.isNull value

namespace State

def start (redis : String → Option String) : State json where
  redis := redis
  inFlight := fun _ => none
  loads := []
  calls := []
  stored := []

def moveCall (s : State json) (i : Nat) (key : String) (phase : CallPhase json) : State json :=
  { s with calls := s.calls.set i ⟨key, phase⟩ }

def moveLoad (s : State json) (load : Nat) (key : String) (phase : LoadPhase json) : State json :=
  { s with loads := s.loads.set load ⟨key, phase⟩ }

/-- `finally`: `Map.delete`. -/
def finish (s : State json) (load : Nat) (key : String) (result : Option (Loaded json)) :
    State json :=
  { s.moveLoad load key (.finished result) with
    inFlight := Function.update s.inFlight key none }

/-- A miss: the load in flight is joined, or the loader is called. -/
def join (s : State json) (i : Nat) (key : String) : State json :=
  match s.inFlight key with
  | some existing => s.moveCall i key (.waiting existing)
  | none => { s.moveCall i key (.waiting s.loads.length) with
      inFlight := Function.update s.inFlight key (some s.loads.length)
      loads := s.loads ++ [⟨key, .pending⟩] }

def resume (s : State json) (i : Nat) (call : Call json) : Option (State json) :=
  match call.phase with
  | .answered reply =>
      match cached reply with
      | some value => some (s.moveCall i call.key (.returned (some value)))
      | none => some (s.join i call.key)
  | .waiting load =>
      match s.loads[load]? with
      | some ⟨_, .finished (some value)⟩ => some (s.moveCall i call.key (.returned value))
      | some ⟨_, .finished none⟩ => some (s.moveCall i call.key .rejected)
      | _ => none
  | _ => none

/-- `value !== undefined && value !== null` -/
def cacheable (value : Loaded json) : Bool :=
  value.any fun value => !json.isNull value

def proceed (s : State json) (load : Nat) (current : Load json) : Option (State json) :=
  match current.phase with
  | .resolved value =>
      some (s.moveLoad load current.key (if cacheable value then .writing value else .written value))
  | .written value => some (s.finish load current.key (some value))
  | .rejected => some (s.finish load current.key none)
  | _ => none

/-- A value without a text is sent as the empty one. -/
def textOf (value : Loaded json) : String :=
  (value.bind json.stringify).getD ""

def write (s : State json) (key text : String) (load : Option Nat) : State json :=
  { s with
    redis := Function.update s.redis key (some text)
    stored := s.stored ++ [⟨key, text, load⟩] }

def step (s : State json) : Event json → Option (State json)
  | .call key => some { s with calls := s.calls ++ [⟨key, .started⟩] }
  | .get i =>
      match s.calls[i]? with
      | some ⟨key, .started⟩ => some (s.moveCall i key (.answered (some (s.redis key))))
      | _ => none
  | .getFails i =>
      match s.calls[i]? with
      | some ⟨key, .started⟩ => some (s.moveCall i key (.answered none))
      | _ => none
  | .resume i => s.calls[i]?.bind (s.resume i)
  | .resolve load value =>
      match s.loads[load]? with
      | some ⟨key, .pending⟩ => some (s.moveLoad load key (.resolved value))
      | _ => none
  | .reject load =>
      match s.loads[load]? with
      | some ⟨key, .pending⟩ => some (s.moveLoad load key .rejected)
      | _ => none
  | .proceed load => s.loads[load]?.bind (s.proceed load)
  | .set load =>
      match s.loads[load]? with
      | some ⟨key, .writing value⟩ => some (s.write key (textOf value) (some load))
      | _ => none
  | .setEnds load =>
      match s.loads[load]? with
      | some ⟨key, .writing value⟩ => some (s.moveLoad load key (.written value))
      | _ => none
  | .store key text => some (s.write key text none)
  | .erase key => some { s with redis := Function.update s.redis key none }

def run (s : State json) (events : List (Event json)) : Option (State json) :=
  events.foldlM step s

end State

inductive Step (s : State json) : Event json → State json → Prop where
  | call (key : String) : Step s (.call key) { s with calls := s.calls ++ [⟨key, .started⟩] }
  | get {i : Nat} {key : String} (started : s.calls[i]? = some ⟨key, .started⟩) :
      Step s (.get i) (s.moveCall i key (.answered (some (s.redis key))))
  | getFails {i : Nat} {key : String} (started : s.calls[i]? = some ⟨key, .started⟩) :
      Step s (.getFails i) (s.moveCall i key (.answered none))
  | hit {i : Nat} {key : String} {reply : Option (Option String)} {value : json.Value}
      (answered : s.calls[i]? = some ⟨key, .answered reply⟩) (found : cached reply = some value) :
      Step s (.resume i) (s.moveCall i key (.returned (some value)))
  | miss {i : Nat} {key : String} {reply : Option (Option String)}
      (answered : s.calls[i]? = some ⟨key, .answered reply⟩)
      (missed : (cached reply : Option json.Value) = none) : Step s (.resume i) (s.join i key)
  | resolved {i load : Nat} {key other : String} {value : Loaded json}
      (waiting : s.calls[i]? = some ⟨key, .waiting load⟩)
      (finished : s.loads[load]? = some ⟨other, .finished (some value)⟩) :
      Step s (.resume i) (s.moveCall i key (.returned value))
  | rejected {i load : Nat} {key other : String}
      (waiting : s.calls[i]? = some ⟨key, .waiting load⟩)
      (finished : s.loads[load]? = some ⟨other, .finished none⟩) :
      Step s (.resume i) (s.moveCall i key .rejected)
  | settle {load : Nat} {key : String} {e : Event json} {phase : LoadPhase json}
      (pending : s.loads[load]? = some ⟨key, .pending⟩)
      (settled : (∃ value, e = .resolve load value ∧ phase = .resolved value) ∨
        e = .reject load ∧ phase = .rejected) :
      Step s e (s.moveLoad load key phase)
  | callback {load : Nat} {key : String} {value : Loaded json} {phase : LoadPhase json}
      (resolved : s.loads[load]? = some ⟨key, .resolved value⟩)
      (next : phase = .writing value ∨ phase = .written value) :
      Step s (.proceed load) (s.moveLoad load key phase)
  | finish {load : Nat} {key : String} {phase : LoadPhase json}
      (present : s.loads[load]? = some ⟨key, phase⟩)
      (last : phase = .rejected ∨ ∃ value, phase = .written value) :
      Step s (.proceed load) (s.finish load key phase.loaded)
  | set {load : Nat} {key : String} {value : Loaded json}
      (writing : s.loads[load]? = some ⟨key, .writing value⟩) :
      Step s (.set load) (s.write key (State.textOf value) (some load))
  | setEnds {load : Nat} {key : String} {value : Loaded json}
      (writing : s.loads[load]? = some ⟨key, .writing value⟩) :
      Step s (.setEnds load) (s.moveLoad load key (.written value))
  | store (key text : String) : Step s (.store key text) (s.write key text none)
  | erase (key : String) :
      Step s (.erase key) { s with redis := Function.update s.redis key none }

section

variable {s s' : State json} {e : Event json} {es : List (Event json)}

theorem step_spec (h : s.step e = some s') : Step s e s' := by
  cases e with
  | call key =>
    cases h
    exact .call key
  | get i =>
    dsimp only [State.step] at h
    split at h
    · cases h
      exact .get ‹_›
    · cases h
  | getFails i =>
    dsimp only [State.step] at h
    split at h
    · cases h
      exact .getFails ‹_›
    · cases h
  | resume i =>
    obtain ⟨⟨key, phase⟩, present, rest⟩ := Option.bind_eq_some_iff.mp h
    cases phase with
    | answered reply =>
      dsimp only [State.resume] at rest
      split at rest
      · cases rest
        exact .hit present ‹_›
      · cases rest
        exact .miss present ‹_›
    | waiting load =>
      dsimp only [State.resume] at rest
      split at rest
      · cases rest
        exact .resolved present ‹_›
      · cases rest
        exact .rejected present ‹_›
      · cases rest
    | started | returned | rejected => cases rest
  | resolve load value =>
    dsimp only [State.step] at h
    split at h
    · cases h
      exact .settle ‹_› (.inl ⟨value, rfl, rfl⟩)
    · cases h
  | reject load =>
    dsimp only [State.step] at h
    split at h
    · cases h
      exact .settle ‹_› (.inr ⟨rfl, rfl⟩)
    · cases h
  | proceed load =>
    obtain ⟨⟨key, phase⟩, present, rest⟩ := Option.bind_eq_some_iff.mp h
    cases phase with
    | resolved value =>
      cases rest
      dsimp only
      split
      · exact .callback present (.inl rfl)
      · exact .callback present (.inr rfl)
    | written value =>
      cases rest
      exact .finish present (.inr ⟨value, rfl⟩)
    | rejected =>
      cases rest
      exact .finish present (.inl rfl)
    | pending | writing | finished => cases rest
  | set load =>
    dsimp only [State.step] at h
    split at h
    · cases h
      exact .set ‹_›
    · cases h
  | setEnds load =>
    dsimp only [State.step] at h
    split at h
    · cases h
      exact .setEnds ‹_›
    · cases h
  | store key text =>
    cases h
    exact .store key text
  | erase key =>
    cases h
    exact .erase key

/-! What is in flight. -/

/-- The map has the loads that are not finished, one for each key. -/
def Coherent (s : State json) : Prop :=
  ∀ key load, s.inFlight key = some load ↔
    ∃ phase, s.loads[load]? = some ⟨key, phase⟩ ∧ phase.isFinished = false

theorem Coherent.moveLoad (h : Coherent s) {load : Nat} {key : String} {old new : LoadPhase json}
    (present : s.loads[load]? = some ⟨key, old⟩) (before : old.isFinished = false)
    (after : new.isFinished = false) : Coherent (s.moveLoad load key new) := by
  intro key' load'
  simp only [State.moveLoad, set_eq_some present]
  rw [h key' load']
  constructor
  · rintro ⟨phase, present', unfinished⟩
    by_cases same : load' = load
    · subst same
      cases present.symm.trans present'
      exact ⟨new, .inl ⟨rfl, rfl⟩, after⟩
    · exact ⟨phase, .inr ⟨same, present'⟩, unfinished⟩
  · rintro ⟨phase, ⟨rfl, this⟩ | ⟨-, present'⟩, unfinished⟩
    · cases this
      exact ⟨old, present, before⟩
    · exact ⟨phase, present', unfinished⟩

theorem Coherent.finish (h : Coherent s) {load : Nat} {key : String} {phase : LoadPhase json}
    (present : s.loads[load]? = some ⟨key, phase⟩) (before : phase.isFinished = false)
    (result : Option (Loaded json)) : Coherent (s.finish load key result) := by
  have flying := (h key load).mpr ⟨phase, present, before⟩
  intro key' load'
  simp only [State.finish, State.moveLoad, set_eq_some present]
  by_cases same : key' = key
  · subst same
    rw [Function.update_self]
    constructor
    · intro absent
      cases absent
    · rintro ⟨phase', ⟨-, this⟩ | ⟨other, present'⟩, unfinished⟩
      · cases this
        cases unfinished
      · cases flying.symm.trans ((h key' load').mpr ⟨phase', present', unfinished⟩)
        exact absurd rfl other
  · rw [Function.update_of_ne same, h key' load']
    constructor
    · rintro ⟨phase', present', unfinished⟩
      refine ⟨phase', .inr ⟨?_, present'⟩, unfinished⟩
      rintro rfl
      cases present.symm.trans present'
      exact same rfl
    · rintro ⟨phase', ⟨-, this⟩ | ⟨-, present'⟩, unfinished⟩
      · cases this
        exact absurd rfl same
      · exact ⟨phase', present', unfinished⟩

theorem Coherent.join (h : Coherent s) (i : Nat) (key : String) : Coherent (s.join i key) := by
  unfold State.join
  split
  · exact h
  · rename_i idle
    intro key' load'
    simp only [concat_eq_some]
    by_cases same : key' = key
    · subst same
      rw [Function.update_self]
      constructor
      · intro new
        cases new
        exact ⟨.pending, .inr ⟨rfl, rfl⟩, rfl⟩
      · rintro ⟨phase, old | ⟨rfl, -⟩, unfinished⟩
        · cases idle.symm.trans ((h key' load').mpr ⟨phase, old, unfinished⟩)
        · rfl
    · rw [Function.update_of_ne same, h key' load']
      constructor
      · rintro ⟨phase, present, unfinished⟩
        exact ⟨phase, .inl present, unfinished⟩
      · rintro ⟨phase, old | ⟨-, new⟩, unfinished⟩
        · exact ⟨phase, old, unfinished⟩
        · cases new
          exact absurd rfl same

theorem Coherent.step (h : Coherent s) (hstep : Step s e s') : Coherent s' := by
  cases hstep with
  | call | get | getFails | hit | resolved | rejected | set | store | erase => exact h
  | miss => exact h.join _ _
  | settle pending settled =>
    rcases settled with ⟨value, rfl, rfl⟩ | ⟨rfl, rfl⟩
    · exact h.moveLoad pending rfl rfl
    · exact h.moveLoad pending rfl rfl
  | callback resolved next =>
    rcases next with rfl | rfl
    · exact h.moveLoad resolved rfl rfl
    · exact h.moveLoad resolved rfl rfl
  | finish present last =>
    rcases last with rfl | ⟨value, rfl⟩
    · exact h.finish present rfl _
    · exact h.finish present rfl _
  | setEnds writing => exact h.moveLoad writing rfl rfl

/-! Where values come from. -/

def WasStored (initial : String → Option String) (s : State json) (key text : String) : Prop :=
  initial key = some text ∨ ∃ load : Option Nat, Stored.mk key text load ∈ s.stored

def WasLoaded (s : State json) (key : String) (value : Loaded json) : Prop :=
  ∃ (load : Nat) (phase : LoadPhase json),
    s.loads[load]? = some ⟨key, phase⟩ ∧ phase.loaded = some value

def Given (initial : String → Option String) (s : State json) (key : String) :
    CallPhase json → Prop
  | .answered (some (some text)) => WasStored initial s key text
  | .waiting load => ∃ phase : LoadPhase json, s.loads[load]? = some ⟨key, phase⟩
  | .returned value => (∃ text, WasStored initial s key text ∧ value.isSome ∧
      cached (some (some text)) = value) ∨ WasLoaded s key value
  | .rejected => ∃ load : Nat, s.loads[load]? = some ⟨key, .finished none⟩
  | _ => True

structure Accounted (initial : String → Option String) (s : State json) : Prop where
  held : ∀ key text, s.redis key = some text → WasStored initial s key text
  calls : ∀ (i : Nat) (key : String) (phase : CallPhase json), s.calls[i]? = some ⟨key, phase⟩ →
    Given initial s key phase
  /-- A load stores nothing but what its loader resolved with. -/
  stored : ∀ (key text : String) (load : Nat), Stored.mk key text (some load) ∈ s.stored →
    ∃ (phase : LoadPhase json) (value : Loaded json), s.loads[load]? = some ⟨key, phase⟩ ∧
      phase.loaded = some value ∧ State.textOf value = text

structure Evolves (s s' : State json) : Prop where
  loads : ∀ (load : Nat) (key : String) (phase : LoadPhase json),
    s.loads[load]? = some ⟨key, phase⟩ → ∃ phase', s'.loads[load]? = some ⟨key, phase'⟩ ∧
      (∀ value, phase.loaded = some value → phase'.loaded = some value) ∧
      (phase.isFinished = true → phase' = phase)
  stored : s.stored ⊆ s'.stored

theorem Evolves.of_loads (loads : s'.loads = s.loads) (stored : s.stored ⊆ s'.stored) :
    Evolves s s' :=
  ⟨fun _ _ phase present =>
    ⟨phase, loads ▸ present, fun _ same => same, fun _ => rfl⟩, stored⟩

theorem evolves_set {load : Nat} {key : String} {old : LoadPhase json} (new : LoadPhase json)
    (present : s.loads[load]? = some ⟨key, old⟩) (before : old.isFinished = false)
    (kept : ∀ value, old.loaded = some value → new.loaded = some value)
    (loads : s'.loads = s.loads.set load ⟨key, new⟩) (stored : s'.stored = s.stored) :
    Evolves s s' := by
  refine ⟨?_, stored ▸ List.Subset.refl _⟩
  intro load' key' phase present'
  rw [loads]
  simp only [set_eq_some present]
  by_cases same : load' = load
  · subst same
    cases present.symm.trans present'
    refine ⟨new, .inl ⟨rfl, rfl⟩, kept, fun finished => ?_⟩
    rw [before] at finished
    cases finished
  · exact ⟨phase, .inr ⟨same, present'⟩, fun _ same => same, fun _ => rfl⟩

theorem evolves_join (i : Nat) (key : String) : Evolves s (s.join i key) := by
  unfold State.join
  split
  · exact .of_loads rfl (List.Subset.refl _)
  · refine ⟨?_, List.Subset.refl _⟩
    intro load key' phase present
    exact ⟨phase, concat_eq_some.mpr (.inl present), fun _ same => same, fun _ => rfl⟩

theorem Step.evolves (hstep : Step s e s') : Evolves s s' := by
  cases hstep with
  | call | get | getFails | hit | resolved | rejected | erase =>
    exact .of_loads rfl (List.Subset.refl _)
  | set | store => exact .of_loads rfl (List.subset_append_left _ _)
  | miss => exact evolves_join _ _
  | settle pending settled =>
    refine evolves_set _ pending rfl ?_ rfl rfl
    intro value loaded
    cases loaded
  | callback resolved next =>
    refine evolves_set _ resolved rfl ?_ rfl rfl
    intro value loaded
    rcases next with rfl | rfl <;> exact loaded
  | finish present last =>
    rcases last with rfl | ⟨value, rfl⟩
    · exact evolves_set (.finished none) present rfl (fun _ loaded => loaded) rfl rfl
    · exact evolves_set (.finished (some value)) present rfl (fun _ loaded => loaded) rfl rfl
  | @setEnds load key value writing =>
    exact evolves_set (.written value) writing rfl (fun _ loaded => loaded) rfl rfl

variable {initial : String → Option String} {key : String}

theorem WasStored.mono {text : String} (h : WasStored initial s key text) (evolves : Evolves s s') :
    WasStored initial s' key text :=
  h.imp id fun ⟨load, mem⟩ => ⟨load, evolves.stored mem⟩

theorem WasLoaded.mono {value : Loaded json} (h : WasLoaded s key value) (evolves : Evolves s s') :
    WasLoaded s' key value := by
  obtain ⟨load, phase, present, loaded⟩ := h
  obtain ⟨phase', present', kept, -⟩ := evolves.loads load key phase present
  exact ⟨load, phase', present', kept value loaded⟩

theorem Given.mono {phase : CallPhase json} (h : Given initial s key phase)
    (evolves : Evolves s s') : Given initial s' key phase := by
  cases phase with
  | started => exact trivial
  | answered reply =>
    match reply, h with
    | some (some text), h => exact WasStored.mono h evolves
    | some none, _ | none, _ => exact trivial
  | waiting load =>
    obtain ⟨phase, present⟩ := h
    obtain ⟨phase', present', -⟩ := evolves.loads load key phase present
    exact ⟨phase', present'⟩
  | returned value =>
    rcases h with ⟨text, stored, some, same⟩ | loaded
    · exact .inl ⟨text, stored.mono evolves, some, same⟩
    · exact .inr (loaded.mono evolves)
  | rejected =>
    obtain ⟨load, present⟩ := h
    obtain ⟨phase', present', -, same⟩ := evolves.loads load key _ present
    rw [same rfl] at present'
    exact ⟨load, present'⟩

theorem Accounted.calls_set (h : Accounted initial s) (evolves : Evolves s s') {i : Nat}
    {old new : CallPhase json} (present : s.calls[i]? = some ⟨key, old⟩)
    (calls : s'.calls = s.calls.set i ⟨key, new⟩) (given : Given initial s' key new) :
    ∀ (j : Nat) (key' : String) (phase : CallPhase json), s'.calls[j]? = some ⟨key', phase⟩ →
      Given initial s' key' phase := by
  intro j key' phase here
  rw [calls] at here
  rcases (set_eq_some present).mp here with ⟨-, this⟩ | ⟨-, other⟩
  · cases this
    exact given
  · exact (h.calls j key' phase other).mono evolves

theorem Accounted.moveCall (h : Accounted initial s) {i : Nat} {old new : CallPhase json}
    (present : s.calls[i]? = some ⟨key, old⟩) (given : Given initial s key new) :
    Accounted initial (s.moveCall i key new) :=
  ⟨h.held, h.calls_set (.of_loads rfl (List.Subset.refl _)) present rfl given, h.stored⟩

theorem Accounted.of_evolves (h : Accounted initial s) (evolves : Evolves s s')
    (redis : ∀ key text, s'.redis key = some text → s.redis key = some text)
    (stored : s'.stored = s.stored)
    (calls : ∀ (i : Nat) (key : String) (phase : CallPhase json),
      s'.calls[i]? = some ⟨key, phase⟩ → Given initial s' key phase) : Accounted initial s' := by
  refine ⟨fun key text here => (h.held key text (redis key text here)).mono evolves, calls, ?_⟩
  intro key text load mem
  rw [stored] at mem
  obtain ⟨phase, value, present, loaded, same⟩ := h.stored key text load mem
  obtain ⟨phase', present', kept, -⟩ := evolves.loads load key phase present
  exact ⟨phase', value, present', kept value loaded, same⟩

theorem Accounted.write (h : Accounted initial s) {text : String} {load : Option Nat}
    (own : ∀ i, load = some i → ∃ (phase : LoadPhase json) (value : Loaded json),
      s.loads[i]? = some ⟨key, phase⟩ ∧ phase.loaded = some value ∧ State.textOf value = text) :
    Accounted initial (s.write key text load) := by
  have evolves : Evolves s (s.write key text load) :=
    .of_loads rfl (List.subset_append_left _ _)
  refine ⟨?_, fun i key' phase present => (h.calls i key' phase present).mono evolves, ?_⟩
  · intro key' text' here
    by_cases same : key' = key
    · subst same
      have text' : text = text' := by simpa [State.write] using here
      subst text'
      exact .inr ⟨load, List.mem_append_right _ (List.mem_singleton_self _)⟩
    · have before : s.redis key' = some text' := by simpa [State.write, same] using here
      exact (h.held key' text' before).mono evolves
  · intro key' text' i mem
    rcases List.mem_append.mp mem with before | new
    · exact h.stored key' text' i before
    · cases List.mem_singleton.mp new
      exact own i rfl

theorem Accounted.join (h : Accounted initial s) (coherent : Coherent s) {i : Nat}
    {old : CallPhase json} (present : s.calls[i]? = some ⟨key, old⟩) :
    Accounted initial (s.join i key) := by
  have evolves : Evolves s (s.join i key) := evolves_join i key
  cases flying : s.inFlight key with
  | some existing =>
    have joined : s.join i key = s.moveCall i key (.waiting existing) := by rw [State.join, flying]
    obtain ⟨phase, there, -⟩ := (coherent key existing).mp flying
    rw [joined]
    exact h.moveCall present ⟨phase, there⟩
  | none =>
    have joined : s.join i key = { s.moveCall i key (.waiting s.loads.length) with
        inFlight := Function.update s.inFlight key (some s.loads.length)
        loads := s.loads ++ [⟨key, .pending⟩] } := by rw [State.join, flying]
    rw [joined] at evolves ⊢
    exact h.of_evolves evolves (fun _ _ same => same) rfl
      (h.calls_set evolves present rfl ⟨.pending, concat_eq_some.mpr (.inr ⟨rfl, rfl⟩)⟩)

theorem Accounted.step (h : Accounted initial s) (coherent : Coherent s) (hstep : Step s e s') :
    Accounted initial s' := by
  have evolves := hstep.evolves
  cases hstep with
  | call key =>
    refine h.of_evolves evolves (fun _ _ same => same) rfl ?_
    intro i key' phase here
    rcases concat_eq_some.mp here with before | ⟨-, new⟩
    · exact (h.calls i key' phase before).mono evolves
    · cases new
      exact trivial
  | @get i key started =>
    refine h.moveCall started ?_
    cases found : s.redis key with
    | none => exact trivial
    | some text => exact h.held key text found
  | getFails started => exact h.moveCall started trivial
  | @hit i key reply value answered found =>
    refine h.moveCall answered (.inl ?_)
    have given := h.calls i key _ answered
    match reply, given, found with
    | some (some text), given, found => exact ⟨text, given, rfl, found⟩
    | some none, _, found | none, _, found => cases found
  | miss answered missed => exact h.join coherent answered
  | @resolved i load key other value waiting finished =>
    refine h.moveCall waiting (.inr ?_)
    obtain ⟨phase, present⟩ := h.calls i key _ waiting
    cases finished.symm.trans present
    exact ⟨load, _, present, rfl⟩
  | @rejected i load key other waiting finished =>
    refine h.moveCall waiting ?_
    obtain ⟨phase, present⟩ := h.calls i key _ waiting
    cases finished.symm.trans present
    exact ⟨load, present⟩
  | settle | callback | finish | setEnds =>
    exact h.of_evolves evolves (fun _ _ same => same) rfl
      fun i key' phase here => (h.calls i key' phase here).mono evolves
  | set writing => exact h.write fun i same => Option.some.inj same ▸ ⟨_, _, writing, rfl, rfl⟩
  | store key text => exact h.write fun i none => (nomatch none)
  | erase key =>
    refine h.of_evolves evolves ?_ rfl
      fun i key' phase here => (h.calls i key' phase here).mono evolves
    intro key' text here
    by_cases same : key' = key
    · simp [same] at here
    · simpa [same] using here

/-- One load at a time for each key, what is in flight is known, what is rejected leaves nothing,
and what is returned was stored or loaded. -/
structure CleanFlight (initial : String → Option String) (s : State json) : Prop where
  single : ∀ (key : String) (i j : Nat), s.loads[i]? = some ⟨key, .pending⟩ →
    s.loads[j]? = some ⟨key, .pending⟩ → i = j
  inFlight : ∀ (key : String) (load : Nat), s.inFlight key = some load ↔
    ∃ phase, s.loads[load]? = some ⟨key, phase⟩ ∧ phase.isFinished = false
  rejected : ∀ (load : Nat) (key : String) (phase : LoadPhase json),
    s.loads[load]? = some ⟨key, phase⟩ → phase.isRejected = true →
      (∀ key' text : String, Stored.mk key' text (some load) ∉ s.stored) ∧
        (phase.isFinished = true → ∀ key', s.inFlight key' ≠ some load)
  returned : ∀ (i : Nat) (key : String) (value : Loaded json),
    s.calls[i]? = some ⟨key, .returned value⟩ →
      (∃ text, WasStored initial s key text ∧ value.isSome ∧ cached (some (some text)) = value) ∨
        WasLoaded s key value
  failed : ∀ (i : Nat) (key : String), s.calls[i]? = some ⟨key, .rejected⟩ →
    ∃ load : Nat, s.loads[load]? = some ⟨key, .finished none⟩

theorem cleanFlight_of_accounted (coherent : Coherent s) (h : Accounted initial s) :
    CleanFlight initial s := by
  refine ⟨?_, coherent, ?_, fun i key value => h.calls i key _, fun i key => h.calls i key _⟩
  · intro key i j first second
    have one := (coherent key i).mpr ⟨.pending, first, rfl⟩
    have other := (coherent key j).mpr ⟨.pending, second, rfl⟩
    exact Option.some.inj (one.symm.trans other)
  · intro load key phase present rejected
    constructor
    · intro key' text mem
      obtain ⟨phase', value, present', loaded, -⟩ := h.stored key' text load mem
      cases present.symm.trans present'
      cases phase with
      | rejected => cases loaded
      | finished result =>
        cases loaded
        cases rejected
      | pending | resolved | writing | written => cases rejected
    · intro finished key' flying
      obtain ⟨phase', present', unfinished⟩ := (coherent key' load).mp flying
      cases present.symm.trans present'
      rw [finished] at unfinished
      cases unfinished

theorem accounted_run {events : List (Event json)}
    (h : (State.start initial).run events = some s) : Coherent s ∧ Accounted initial s := by
  refine foldlM_invariant (P := fun s => Coherent s ∧ Accounted initial s) ?_ ?_ h
  · intro before e after invariant here
    have hstep := step_spec here
    exact ⟨invariant.1.step hstep, invariant.2.step invariant.1 hstep⟩
  · refine ⟨?_, fun key text held => .inl held, ?_, ?_⟩
    · intro key load
      simp [State.start]
    · intro i key phase present
      simp [State.start] at present
    · intro key text load mem
      simp [State.start] at mem

end

/-- Whatever Redis holds at first, and in whatever order replies, settlements and callbacks come. -/
theorem get_or_set_clean_flight (json : JSON) (initial : String → Option String)
    (events : List (Event json)) (s : State json)
    (h : (State.start initial).run events = some s) : CleanFlight initial s := by
  obtain ⟨coherent, accounted⟩ := accounted_run h
  exact cleanFlight_of_accounted coherent accounted

/-! Two callers, one load. -/

def verbatim : JSON where
  Value := String
  isNull _ := false
  stringify := some
  parse := some

def twoCallers : List (Event verbatim) :=
  [.call "k", .call "k", .get 0, .getFails 1, .resume 0, .resume 1, .resolve 0 (some "v"),
    .proceed 0, .set 0, .setEnds 0, .proceed 0, .resume 1, .resume 0]

theorem get_or_set_clean_flight_joined :
    ∃ s, (State.start fun _ => none).run twoCallers = some s ∧
      s.calls = [⟨"k", .returned (some "v")⟩, ⟨"k", .returned (some "v")⟩] ∧
      CleanFlight (fun _ => none) s :=
  ⟨_, rfl, rfl, get_or_set_clean_flight verbatim _ twoCallers _ rfl⟩

end TenantOS.Caching.Coalescing
