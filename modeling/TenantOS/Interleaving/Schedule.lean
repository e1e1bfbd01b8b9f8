import TenantOS.Interleaving.Program
import TenantOS.Interleaving.Slots
import Mathlib.Data.List.Basic
import Mathlib.Data.List.Induction
import Mathlib.Logic.Function.Basic

/-! Any number of clients over one store. A schedule starts clients and lets
them settle one call at a time; each call is atomic, may be lost before it
reaches the store, and may take effect without its reply being heard. -/
namespace TenantOS.Interleaving

structure System where
  interface : Interface
  Failure : Type
  /-- What a call can throw that no answer threw. -/
  Fault : Type
  raise : Fault → Failure
  Outcome : Type
  Command : Type
  Store : Type
  /-- What the environment supplies to one call: a clock reading, random bits. -/
  Input : Type
  body : Command → Program interface Failure Outcome
  answer : Input → (c : interface.Call) → Store →
    Option (Except Failure (interface.Reply c) × Store)

/-- A started client, with what it has been told so far, oldest first. -/
structure Thread (S : System) where
  command : S.Command
  heard : List (Exchange S.interface S.Failure)
  rest : Program S.interface S.Failure S.Outcome

structure World (S : System) where
  store : S.Store
  threads : List (Thread S)

/-- How one call ends. -/
inductive Fate (S : System) where
  | answered (input : S.Input)
  | lost (fault : S.Fault)
  | unheard (input : S.Input) (fault : S.Fault)

inductive Event (S : System) where
  | start (command : S.Command)
  | advance (i : Nat) (fate : Fate S)

variable {S : System}

def Fate.settle (fate : Fate S) (c : S.interface.Call) (store : S.Store) :
    Option (Except S.Failure (S.interface.Reply c) × S.Store) :=
  match fate with
  | .answered input => S.answer input c store
  | .lost fault => some (.error (S.raise fault), store)
  | .unheard input fault => (S.answer input c store).map fun settled =>
      (.error (S.raise fault), settled.2)

/-- The store moves only as some answer moves it. -/
theorem Fate.settle_store {fate : Fate S} {c : S.interface.Call} {store store' : S.Store}
    {reply : Except S.Failure (S.interface.Reply c)}
    (h : fate.settle c store = some (reply, store')) :
    store' = store ∨ ∃ input reply', S.answer input c store = some (reply', store') := by
  cases fate with
  | answered input => exact .inr ⟨input, reply, h⟩
  | lost fault =>
    simp only [settle, Option.some.injEq, Prod.mk.injEq] at h
    exact .inl h.2.symm
  | unheard input fault =>
    obtain ⟨⟨reply', settled⟩, hanswer, heq⟩ := Option.map_eq_some_iff.mp h
    simp only [Prod.mk.injEq] at heq
    exact .inr ⟨input, reply', heq.2 ▸ hanswer⟩

/-- Only a genuine answer is heard as a success. -/
theorem Fate.settle_ok {fate : Fate S} {c : S.interface.Call} {store store' : S.Store}
    {value : S.interface.Reply c} (h : fate.settle c store = some (.ok value, store')) :
    ∃ input, fate = .answered input ∧ S.answer input c store = some (.ok value, store') := by
  cases fate with
  | answered input => exact ⟨input, rfl, h⟩
  | lost fault => simp [settle] at h
  | unheard input fault => simp [settle] at h

/-- A call that the store can always answer is settled whatever its fate. -/
theorem Fate.settle_of_answer {c : S.interface.Call} {store : S.Store}
    (h : ∀ input, ∃ settled, S.answer input c store = some settled) (fate : Fate S) :
    ∃ reply store', fate.settle c store = some (reply, store') := by
  cases fate with
  | answered input =>
    obtain ⟨⟨reply, store'⟩, settled⟩ := h input
    exact ⟨reply, store', settled⟩
  | lost fault => exact ⟨_, store, rfl⟩
  | unheard input fault =>
    obtain ⟨⟨reply, store'⟩, settled⟩ := h input
    exact ⟨.error (S.raise fault), store', by simp [settle, settled]⟩

/-- What the environment supplies to a call that reaches the store. -/
def Fate.input? : Fate S → Option S.Input
  | .answered input | .unheard input _ => some input
  | .lost _ => none

/-- The call reaches the store, whether or not its reply is heard. -/
def Fate.Reaches : Fate S → Prop
  | .lost _ => False
  | .answered _ | .unheard .. => True

theorem Fate.settle_reaches {fate : Fate S} {c : S.interface.Call} {store store' : S.Store}
    {reply : Except S.Failure (S.interface.Reply c)} (reaches : fate.Reaches)
    (h : fate.settle c store = some (reply, store')) :
    ∃ input reply', S.answer input c store = some (reply', store') := by
  cases fate with
  | answered input => exact ⟨input, reply, h⟩
  | lost fault => exact reaches.elim
  | unheard input fault =>
    obtain ⟨⟨reply', settled⟩, hanswer, heq⟩ := Option.map_eq_some_iff.mp h
    simp only [Prod.mk.injEq] at heq
    exact ⟨input, reply', heq.2 ▸ hanswer⟩

namespace Thread

def fresh (command : S.Command) : Thread S :=
  ⟨command, [], S.body command⟩

def after (t : Thread S) (c : S.interface.Call)
    (next : Except S.Failure (S.interface.Reply c) → Program S.interface S.Failure S.Outcome)
    (reply : Except S.Failure (S.interface.Reply c)) : Thread S :=
  ⟨t.command, t.heard ++ [⟨c, reply⟩], next reply⟩

def Returned (t : Thread S) (result : Except S.Failure S.Outcome) : Prop :=
  t.rest = .done result

end Thread

namespace World

def join (w : World S) (command : S.Command) : World S :=
  ⟨w.store, w.threads ++ [.fresh command]⟩

def resume (w : World S) (i : Nat) (t : Thread S) (store : S.Store) : World S :=
  ⟨store, w.threads.set i t⟩

def step (w : World S) : Event S → Option (World S)
  | .start command => some (w.join command)
  | .advance i fate =>
      match w.threads[i]? with
      | none => none
      | some t =>
        match t.rest with
        | .done _ => none
        | .call c next => (fate.settle c w.store).map fun settled =>
            w.resume i (t.after c next settled.1) settled.2

def run (w : World S) : List (Event S) → Option (World S)
  | [] => some w
  | e :: es => (w.step e).bind fun w' => w'.run es

end World

/-- All a step can do, with its guards. -/
inductive Step (w : World S) : Event S → World S → Prop where
  | join (command : S.Command) : Step w (.start command) (w.join command)
  | resume {i : Nat} {fate : Fate S} {t : Thread S} {c : S.interface.Call}
      {next : Except S.Failure (S.interface.Reply c) → Program S.interface S.Failure S.Outcome}
      {reply : Except S.Failure (S.interface.Reply c)} {store : S.Store}
      (thread : w.threads[i]? = some t) (waiting : t.rest = .call c next)
      (settled : fate.settle c w.store = some (reply, store)) :
      Step w (.advance i fate) (w.resume i (t.after c next reply) store)

namespace World

theorem step_iff {w w' : World S} {e : Event S} : w.step e = some w' ↔ Step w e w' := by
  constructor
  · intro h
    cases e with
    | start command =>
      cases Option.some.inj h
      exact .join command
    | advance i fate =>
      simp only [step] at h
      split at h
      · contradiction
      · rename_i t ht
        split at h
        · contradiction
        · rename_i c next hrest
          obtain ⟨⟨reply, store⟩, hs, rfl⟩ := Option.map_eq_some_iff.mp h
          exact .resume ht hrest hs
  · intro h
    cases h with
    | join command => rfl
    | resume thread waiting settled =>
      simp only [step, thread]
      split
      · simp_all
      · rename_i c next hrest
        rw [waiting] at hrest
        cases hrest
        simp [settled]

theorem run_append {w : World S} {es fs : List (Event S)} :
    w.run (es ++ fs) = (w.run es).bind fun w' => w'.run fs := by
  induction es generalizing w with
  | nil => rfl
  | cons e es ih =>
    simp only [List.cons_append, run]
    cases w.step e with
    | none => rfl
    | some w' => exact ih

theorem run_split {w w' : World S} {es fs : List (Event S)} (h : w.run (es ++ fs) = some w') :
    ∃ mid, w.run es = some mid ∧ mid.run fs = some w' := by
  rw [run_append] at h
  exact Option.bind_eq_some_iff.mp h

theorem run_concat {w mid w' : World S} {es fs : List (Event S)} (first : w.run es = some mid)
    (second : mid.run fs = some w') : w.run (es ++ fs) = some w' := by
  rw [run_append, first]
  exact second

theorem run_cons {w w' : World S} {e : Event S} {es : List (Event S)}
    (h : w.run (e :: es) = some w') : ∃ mid, Step w e mid ∧ mid.run es = some w' := by
  obtain ⟨mid, hstep, hrun⟩ := Option.bind_eq_some_iff.mp h
  exact ⟨mid, step_iff.mp hstep, hrun⟩

theorem run_single {w w' : World S} {e : Event S} (hstep : Step w e w') :
    w.run [e] = some w' := by
  rw [run, step_iff.mpr hstep]
  rfl

theorem run_snoc {w mid w' : World S} {e : Event S} {es : List (Event S)}
    (hrun : w.run es = some mid) (hstep : Step mid e w') : w.run (es ++ [e]) = some w' :=
  run_concat hrun (run_single hstep)

/-- What one step preserves, and the schedule so far allows, a run preserves. -/
theorem run_induction {w₀ : World S} {P : List (Event S) → World S → Prop} (initial : P [] w₀)
    (step : ∀ es e w w', w₀.run es = some w → P es w → Step w e w' → P (es ++ [e]) w') :
    ∀ es w, w₀.run es = some w → P es w := by
  intro es
  induction es using List.reverseRecOn with
  | nil =>
    intro w h
    cases Option.some.inj h
    exact initial
  | append_singleton es e ih =>
    intro w' h
    obtain ⟨w, hes, he⟩ := run_split h
    obtain ⟨mid, hstep, hmid⟩ := run_cons he
    cases Option.some.inj hmid
    exact step es e w _ hes (ih w hes) hstep

theorem run_invariant {P : World S → Prop} (step : ∀ w e w', P w → Step w e w' → P w')
    {w w' : World S} {es : List (Event S)} (initial : P w) (h : w.run es = some w') : P w' :=
  run_induction (P := fun _ => P) initial (fun _ e w w' _ hw => step w e w' hw) es w' h

/-- The steps of a schedule, each with the worlds around it. -/
def Along (w : World S) (es : List (Event S)) (P : World S → Event S → World S → Prop) : Prop :=
  ∀ first e rest w₁ w₂, es = first ++ e :: rest → w.run first = some w₁ → Step w₁ e w₂ → P w₁ e w₂

theorem Along.start {w : World S} {es fs : List (Event S)} {P : World S → Event S → World S → Prop}
    (h : w.Along (es ++ fs) P) : w.Along es P := by
  rintro first e rest w₁ w₂ rfl hfirst hstep
  exact h first e (rest ++ fs) w₁ w₂ (by simp) hfirst hstep

theorem Along.mono {w : World S} {es : List (Event S)} {P Q : World S → Event S → World S → Prop}
    (h : w.Along es P) (weaker : ∀ w₁ e w₂, P w₁ e w₂ → Q w₁ e w₂) : w.Along es Q :=
  fun first e rest w₁ w₂ split hfirst hstep =>
    weaker w₁ e w₂ (h first e rest w₁ w₂ split hfirst hstep)

theorem Along.rest {w mid : World S} {es fs : List (Event S)}
    {P : World S → Event S → World S → Prop} (h : w.Along (es ++ fs) P) (hrun : w.run es = some mid) :
    mid.Along fs P := by
  rintro first e rest w₁ w₂ rfl hfirst hstep
  exact h (es ++ first) e rest w₁ w₂ (by simp) (run_concat hrun hfirst) hstep

theorem Along.last {w mid w' : World S} {es : List (Event S)} {e : Event S}
    {P : World S → Event S → World S → Prop} (h : w.Along (es ++ [e]) P) (hrun : w.run es = some mid)
    (hstep : Step mid e w') : P mid e w' :=
  h es e [] mid w' rfl hrun hstep

theorem Along.snoc {w mid w' : World S} {es : List (Event S)} {e : Event S}
    {P : World S → Event S → World S → Prop} (h : w.Along es P) (hrun : w.run es = some mid)
    (hstep : Step mid e w') (last : P mid e w') : w.Along (es ++ [e]) P := by
  intro first x rest w₁ w₂ split hfirst hx
  rcases List.eq_nil_or_concat rest with rfl | ⟨rest, final, rfl⟩
  · obtain ⟨rfl, same⟩ := List.append_inj' split rfl
    cases same
    cases hrun.symm.trans hfirst
    cases (step_iff.mpr hstep).symm.trans (step_iff.mpr hx)
    exact last
  · rw [List.concat_eq_append, ← List.cons_append, ← List.append_assoc] at split
    obtain ⟨rfl, -⟩ := List.append_inj' split rfl
    exact h first x rest w₁ w₂ rfl hfirst hx

theorem Along.nil {w : World S} {P : World S → Event S → World S → Prop} : w.Along [] P := by
  intro first e rest w₁ w₂ split
  cases List.append_ne_nil_of_right_ne_nil first (List.cons_ne_nil e rest) split.symm

/-- What the steps of a schedule report, in order. -/
def log {α : Type} (report : World S → Event S → World S → Option α) :
    World S → List (Event S) → List α
  | _, [] => []
  | w, e :: es => (w.step e).elim [] fun w' => (report w e w').toList ++ log report w' es

theorem log_snoc {α : Type} {report : World S → Event S → World S → Option α} {w mid w' : World S}
    {es : List (Event S)} {e : Event S} (hrun : w.run es = some mid) (hstep : Step mid e w') :
    log report w (es ++ [e]) = log report w es ++ (report mid e w').toList := by
  induction es generalizing w with
  | nil =>
    cases Option.some.inj hrun
    simp [log, step_iff.mpr hstep]
  | cons first rest ih =>
    obtain ⟨next, hfirst, hrest⟩ := run_cons hrun
    simp [log, step_iff.mpr hfirst, ih hrest]

theorem join_thread {w : World S} {command : S.Command} {j : Nat} {u : Thread S} :
    (w.join command).threads[j]? = some u ↔
      w.threads[j]? = some u ∨ (j = w.threads.length ∧ u = .fresh command) :=
  concat_eq_some

theorem resume_thread {w : World S} {i j : Nat} {t u v : Thread S} {store : S.Store}
    (thread : w.threads[i]? = some t) :
    (w.resume i u store).threads[j]? = some v ↔
      (j = i ∧ v = u) ∨ (j ≠ i ∧ w.threads[j]? = some v) :=
  set_eq_some thread

/-- Clients never leave and keep the command they were started with. -/
theorem step_keeps_thread {w w' : World S} {e : Event S} {i : Nat} {t : Thread S}
    (hstep : Step w e w') (thread : w.threads[i]? = some t) :
    ∃ t', w'.threads[i]? = some t' ∧ t'.command = t.command ∧ t.heard <+: t'.heard := by
  cases hstep with
  | join command => exact ⟨t, join_thread.mpr (.inl thread), rfl, List.prefix_refl _⟩
  | @resume j fate u c next reply store hu waiting settled =>
    by_cases h : i = j
    · subst h
      rw [thread] at hu
      cases hu
      exact ⟨_, (resume_thread thread).mpr (.inl ⟨rfl, rfl⟩), rfl, List.prefix_append _ _⟩
    · exact ⟨t, (resume_thread hu).mpr (.inr ⟨h, thread⟩), rfl, List.prefix_refl _⟩

theorem run_keeps_thread {w w' : World S} {es : List (Event S)} {i : Nat} {t : Thread S}
    (hrun : w.run es = some w') (thread : w.threads[i]? = some t) :
    ∃ t', w'.threads[i]? = some t' ∧ t'.command = t.command ∧ t.heard <+: t'.heard := by
  refine run_invariant (P := fun w => ∃ t', w.threads[i]? = some t' ∧ t'.command = t.command ∧
    t.heard <+: t'.heard) ?_ ⟨t, thread, rfl, List.prefix_refl _⟩ hrun
  rintro w e w' ⟨u, hu, hcommand, hheard⟩ hstep
  obtain ⟨v, hv, hcommand', hheard'⟩ := step_keeps_thread hstep hu
  exact ⟨v, hv, hcommand'.trans hcommand, hheard.trans hheard'⟩

theorem step_keeps_returned {w w' : World S} {e : Event S} {i : Nat} {t : Thread S}
    {result : Except S.Failure S.Outcome} (hstep : Step w e w')
    (thread : w.threads[i]? = some t) (returned : t.Returned result) :
    w'.threads[i]? = some t := by
  cases hstep with
  | join command => exact join_thread.mpr (.inl thread)
  | @resume j fate u c next reply store hu waiting settled =>
    refine (resume_thread hu).mpr (.inr ⟨?_, thread⟩)
    rintro rfl
    rw [thread] at hu
    cases hu
    rw [Thread.Returned, waiting] at returned
    contradiction

/-- Clients end as their trees say, whatever the others do. -/
theorem ends_run {accepts : S.Command → List (Exchange S.interface S.Failure) →
      Except S.Failure S.Outcome → Prop}
    (bodies : ∀ command, (S.body command).Ends (accepts command) []) {w w' : World S}
    {es : List (Event S)} (idle : w.threads = []) (hrun : w.run es = some w') {i : Nat}
    {t : Thread S} (thread : w'.threads[i]? = some t) :
    t.rest.Ends (accepts t.command) t.heard := by
  refine run_invariant (P := fun w => ∀ (i : Nat) (t : Thread S), w.threads[i]? = some t →
    t.rest.Ends (accepts t.command) t.heard) ?_ ?_ hrun i t thread
  · intro w e w' h hstep j u hu
    cases hstep with
    | join command =>
      rcases join_thread.mp hu with old | ⟨-, rfl⟩
      · exact h j u old
      · exact bodies command
    | @resume i fate t c next reply store thread waiting settled =>
      rcases (resume_thread thread).mp hu with ⟨rfl, rfl⟩ | ⟨-, old⟩
      · have := h _ t thread
        rw [waiting] at this
        exact this reply
      · exact h j u old
  · intro i t ht
    simp [idle] at ht

/-- A schedule that advances one client leaves the others where they are. -/
theorem run_advance_others {i j : Nat} {fates : List (Fate S)} {w w' : World S}
    (hrun : w.run (fates.map (.advance i)) = some w') (h : j ≠ i) :
    w'.threads[j]? = w.threads[j]? := by
  induction fates generalizing w with
  | nil => cases Option.some.inj hrun; rfl
  | cons fate fates ih =>
    obtain ⟨mid, hstep, hrest⟩ := run_cons hrun
    rw [ih hrest]
    cases hstep with
    | resume thread waiting settled => exact List.getElem?_set_ne (Ne.symm h)

/-- A client that alone is advanced until it returns ends as its tree evaluates, each call
settled as its fate says. -/
theorem run_eval {i count : Nat} {fates : Nat → Fate S} {w w' : World S} {t t' : Thread S}
    {result : Except S.Failure S.Outcome} (thread : w.threads[i]? = some t)
    (hrun : w.run (((List.range count).map fates).map (.advance i)) = some w')
    (thread' : w'.threads[i]? = some t') (returned : t'.Returned result) :
    t.rest.eval Fate.settle fates w.store = some (result, w'.store) := by
  induction count generalizing fates w t with
  | zero =>
    cases Option.some.inj hrun
    cases thread.symm.trans thread'
    rw [returned]
    rfl
  | succ count ih =>
    rw [List.range_succ_eq_map, List.map_cons, List.map_map, List.map_cons] at hrun
    obtain ⟨mid, hstep, hrest⟩ := run_cons hrun
    cases hstep with
    | @resume _ _ u c next reply store hu waiting settled =>
      cases thread.symm.trans hu
      have rest := @ih (fun n => fates (n + 1)) _ _ ((resume_thread thread).mpr (.inl ⟨rfl, rfl⟩))
        hrest
      rw [waiting]
      change ((fates 0).settle c w.store).bind _ = _
      rw [settled]
      exact rest

/-- A client whose calls can always be answered reaches its end, whatever their fates. -/
theorem run_to_end {m : Monitor S.interface S.Failure}
    {accepts : m.State → Except S.Failure S.Outcome → Prop} {Q : m.State → Prop}
    (keeps : ∀ state c reply, Q state → Q (m.observe state c reply))
    (answers : ∀ state c store, Q state → m.permits state c →
      ∀ input, ∃ settled, S.answer input c store = some settled)
    {w : World S} {i : Nat} {t : Thread S} {state : m.State} (thread : w.threads[i]? = some t)
    (initial : Q state) (conforms : m.Conforms accepts state t.rest) (fates : Nat → Fate S) :
    ∃ count w' t' result,
      w.run ((List.range count).map fun n => .advance i (fates n)) = some w' ∧
      w'.threads[i]? = some t' ∧ t'.command = t.command ∧ t'.Returned result := by
  obtain ⟨command, heard, rest⟩ := t
  induction rest generalizing w state heard fates with
  | done result => exact ⟨0, w, _, result, rfl, thread, rfl, rfl⟩
  | call c next ih =>
    obtain ⟨reply, store, settled⟩ :=
      Fate.settle_of_answer (answers state c w.store initial conforms.1) (fates 0)
    have hstep := Step.resume thread rfl settled
    obtain ⟨count, w', t', result, hrun, thread', same, returned⟩ :=
      ih reply (keeps state c reply initial) (fun n => fates (n + 1)) (heard ++ [⟨c, reply⟩])
        ((resume_thread thread).mpr (.inl ⟨rfl, rfl⟩)) (conforms.2 reply)
    refine ⟨count + 1, w', t', result, ?_, thread', same, returned⟩
    rw [List.range_succ_eq_map, List.map_cons, List.map_map, run, step_iff.mpr hstep]
    exact hrun

end World

/-- A monitor every client of the system conforms to from its start. -/
structure Discipline (S : System) extends Monitor S.interface S.Failure where
  initial : S.Command → State
  accepts : State → Except S.Failure S.Outcome → Prop
  conforms : ∀ command, toMonitor.Conforms accepts (initial command) (S.body command)

namespace Discipline

variable (d : Discipline S)

/-- What a client knows from the replies it has heard. -/
def seen (t : Thread S) : d.State :=
  t.heard.foldl (fun state x => d.observe state x.call x.reply) (d.initial t.command)

@[simp] theorem seen_fresh (command : S.Command) :
    d.seen (.fresh command) = d.initial command := rfl

@[simp] theorem seen_after (t : Thread S) (c : S.interface.Call)
    (next : Except S.Failure (S.interface.Reply c) → Program S.interface S.Failure S.Outcome)
    (reply : Except S.Failure (S.interface.Reply c)) :
    d.seen (t.after c next reply) = d.observe (d.seen t) c reply := by
  simp [seen, Thread.after, List.foldl_append]

/-- What no reply changes is as it was at the start. -/
theorem seen_keeps {α : Type} (f : d.State → α)
    (same : ∀ state c reply, f (d.observe state c reply) = f state) (t : Thread S) :
    f (d.seen t) = f (d.initial t.command) := by
  have fold (heard : List (Exchange S.interface S.Failure)) (state : d.State) :
      f (heard.foldl (fun state x => d.observe state x.call x.reply) state) = f state := by
    induction heard generalizing state with
    | nil => rfl
    | cons x heard ih => exact (ih _).trans (same state x.call x.reply)
  exact fold t.heard _

/-- What a client knows it knew at its start, or has learnt from some reply. -/
theorem seen_learnt {P : d.State → Prop} {Q : Exchange S.interface S.Failure → Prop}
    (learns : ∀ state c reply, P (d.observe state c reply) → P state ∨ Q ⟨c, reply⟩) {t : Thread S}
    (h : P (d.seen t)) : P (d.initial t.command) ∨ ∃ x ∈ t.heard, Q x := by
  have fold (heard : List (Exchange S.interface S.Failure)) (state : d.State)
      (h : P (heard.foldl (fun state x => d.observe state x.call x.reply) state)) :
      P state ∨ ∃ x ∈ heard, Q x := by
    induction heard generalizing state with
    | nil => exact .inl h
    | cons x heard ih =>
      rcases ih _ h with now | ⟨y, mem, learnt⟩
      · exact (learns state x.call x.reply now).imp_right fun learnt =>
          ⟨x, List.mem_cons_self, learnt⟩
      · exact .inr ⟨y, List.mem_cons_of_mem x mem, learnt⟩
  exact fold t.heard _ h

def Holds (w : World S) : Prop :=
  ∀ (i : Nat) (t : Thread S), w.threads[i]? = some t → d.toMonitor.Conforms d.accepts (d.seen t) t.rest

theorem holds_of_idle {w : World S} (idle : w.threads = []) : d.Holds w := by
  intro i t ht
  simp [idle] at ht

theorem holds_step {w w' : World S} {e : Event S} (h : d.Holds w) (hstep : Step w e w') :
    d.Holds w' := by
  intro j u hu
  cases hstep with
  | join command =>
    rcases World.join_thread.mp hu with hu | ⟨-, rfl⟩
    · exact h j u hu
    · exact d.conforms command
  | @resume i fate t c next reply store thread waiting settled =>
    rcases (World.resume_thread thread).mp hu with ⟨rfl, rfl⟩ | ⟨-, hu⟩
    · have := h _ t thread
      rw [waiting] at this
      rw [seen_after]
      exact this.2 reply
    · exact h j u hu

theorem holds_run {w w' : World S} {es : List (Event S)} (h : d.Holds w)
    (hrun : w.run es = some w') : d.Holds w' :=
  World.run_invariant (fun _ _ _ hw hstep => d.holds_step hw hstep) h hrun

theorem permits_of_waiting {w : World S} (h : d.Holds w) {i : Nat} {t : Thread S}
    {c : S.interface.Call}
    {next : Except S.Failure (S.interface.Reply c) → Program S.interface S.Failure S.Outcome}
    (thread : w.threads[i]? = some t) (waiting : t.rest = .call c next) :
    d.permits (d.seen t) c := by
  have := h i t thread
  rw [waiting] at this
  exact this.1

theorem accepts_of_returned {w : World S} (h : d.Holds w) {i : Nat} {t : Thread S}
    {result : Except S.Failure S.Outcome} (thread : w.threads[i]? = some t)
    (returned : t.Returned result) : d.accepts (d.seen t) result := by
  have := h i t thread
  rw [returned] at this
  exact this

/-! The world as the monitors see it: the store, and what each client knows.
What a client does next is forgotten, except that it is permitted. -/

structure View where
  store : S.Store
  clients : Nat → Option d.State

def view (w : World S) : d.View :=
  ⟨w.store, fun i => w.threads[i]?.map d.seen⟩

theorem view_client {w : World S} {i : Nat} {t : Thread S} (thread : w.threads[i]? = some t) :
    (d.view w).clients i = some (d.seen t) := by
  simp [view, thread]

theorem thread_of_client {w : World S} {i : Nat} {k : d.State}
    (client : (d.view w).clients i = some k) : ∃ t, w.threads[i]? = some t ∧ d.seen t = k :=
  Option.map_eq_some_iff.mp client

theorem update_client {α : Type} {clients : Nat → Option α} {n i : Nat} {k k' : α} :
    Function.update clients n (some k) i = some k' ↔
      (i = n ∧ k' = k) ∨ (i ≠ n ∧ clients i = some k') := by
  by_cases h : i = n
  · subst h
    simp [eq_comm]
  · simp [h]

inductive View.Step (v : d.View) : Event S → d.View → Prop where
  | join {n : Nat} (command : S.Command) (free : v.clients n = none) :
      Step v (.start command) ⟨v.store, Function.update v.clients n (some (d.initial command))⟩
  | settle {i : Nat} {fate : Fate S} {k : d.State} {c : S.interface.Call}
      {reply : Except S.Failure (S.interface.Reply c)} {store : S.Store}
      (client : v.clients i = some k) (permitted : d.permits k c)
      (settled : fate.settle c v.store = some (reply, store)) :
      Step v (.advance i fate) ⟨store, Function.update v.clients i (some (d.observe k c reply))⟩

/-- The view simulates the world. -/
theorem view_step {w w' : World S} {e : Event S} (h : d.Holds w) (hstep : Step w e w') :
    View.Step d (d.view w) e (d.view w') := by
  cases hstep with
  | join command =>
    have hview : d.view (w.join command) =
        ⟨w.store, Function.update (d.view w).clients w.threads.length
          (some (d.initial command))⟩ := by
      simp only [view, World.join, View.mk.injEq, true_and]
      funext j
      rcases Nat.lt_trichotomy j w.threads.length with hj | hj | hj
      · rw [Function.update_of_ne (Nat.ne_of_lt hj), List.getElem?_append_left hj]
      · subst hj
        simp
      · rw [Function.update_of_ne (Nat.ne_of_gt hj), List.getElem?_eq_none (by simp; omega),
          List.getElem?_eq_none (Nat.le_of_lt hj)]
    rw [hview]
    exact .join command (by simp [view])
  | @resume i fate t c next reply store thread waiting settled =>
    have hi : i < w.threads.length := (List.getElem?_eq_some_iff.mp thread).1
    have hview : d.view (w.resume i (t.after c next reply) store) =
        ⟨store, Function.update (d.view w).clients i
          (some (d.observe (d.seen t) c reply))⟩ := by
      simp only [view, World.resume, View.mk.injEq, true_and]
      funext j
      by_cases hj : j = i
      · subst hj
        simp [hi]
      · rw [Function.update_of_ne hj, List.getElem?_set_ne (Ne.symm hj)]
    rw [hview]
    exact .settle (by simp [view, thread]) (d.permits_of_waiting h thread waiting) settled

/-- An invariant of the view holds along every run. -/
theorem view_invariant {P : d.View → Prop}
    (step : ∀ v e v', P v → View.Step d v e v' → P v') {w w' : World S} {es : List (Event S)}
    (holds : d.Holds w) (initial : P (d.view w)) (hrun : w.run es = some w') :
    P (d.view w') := by
  have both : d.Holds w' ∧ P (d.view w') := by
    refine World.run_invariant (P := fun w => d.Holds w ∧ P (d.view w)) ?_ ⟨holds, initial⟩ hrun
    rintro w e w' ⟨hholds, hP⟩ hstep
    exact ⟨d.holds_step hholds hstep, step _ e _ hP (d.view_step hholds hstep)⟩
  exact both.2

end Discipline

end TenantOS.Interleaving
