import Mathlib.Logic.Basic
import Mathlib.Tactic.Common

/-! Clients of fallible calls. A client is the tree of the calls it may issue:
each call carries what the client does next for every possible reply. The same
tree is run alone, or interleaved with other clients one call at a time. -/
namespace TenantOS.Interleaving

/-- The calls a client can issue, each with the type of its reply. -/
structure Interface where
  Call : Type
  Reply : Call → Type

inductive Program (I : Interface) (ε α : Type) where
  | done (result : Except ε α)
  | call (c : I.Call) (next : Except ε (I.Reply c) → Program I ε α)

structure Exchange (I : Interface) (ε : Type) where
  call : I.Call
  reply : Except ε (I.Reply call)

namespace Program

variable {I : Interface} {ε α β γ σ ι : Type}

/-- A failed reply or a thrown error skips the rest of the client. -/
protected def bind (program : Program I ε α) (next : α → Program I ε β) : Program I ε β :=
  match program with
  | .done (.ok value) => next value
  | .done (.error failure) => .done (.error failure)
  | .call c rest => .call c fun reply => (rest reply).bind next

protected def recover (program : Program I ε α) (handler : ε → Program I ε α) : Program I ε α :=
  match program with
  | .done (.ok value) => .done (.ok value)
  | .done (.error failure) => handler failure
  | .call c rest => .call c fun reply => (rest reply).recover handler

instance : Monad (Program I ε) where
  pure value := .done (.ok value)
  bind := Program.bind

instance : MonadExceptOf ε (Program I ε) where
  throw failure := .done (.error failure)
  tryCatch := Program.recover

/-- Issue one call and hand its reply on. -/
def perform (c : I.Call) : Program I ε (I.Reply c) :=
  .call c .done

@[simp] theorem pure_eq (value : α) : (pure value : Program I ε α) = .done (.ok value) := rfl

@[simp] theorem throw_eq (failure : ε) :
    (throw failure : Program I ε α) = .done (.error failure) := rfl

@[simp] theorem bind_ok (value : α) (next : α → Program I ε β) :
    (.done (.ok value) : Program I ε α) >>= next = next value := rfl

@[simp] theorem bind_error (failure : ε) (next : α → Program I ε β) :
    (.done (.error failure) : Program I ε α) >>= next = .done (.error failure) := rfl

@[simp] theorem bind_call (c : I.Call) (rest : Except ε (I.Reply c) → Program I ε α)
    (next : α → Program I ε β) :
    (.call c rest : Program I ε α) >>= next = .call c fun reply => rest reply >>= next := rfl

@[simp] theorem recover_ok (value : α) (handler : ε → Program I ε α) :
    tryCatch (.done (.ok value) : Program I ε α) handler = .done (.ok value) := rfl

@[simp] theorem recover_error (failure : ε) (handler : ε → Program I ε α) :
    tryCatch (.done (.error failure) : Program I ε α) handler = handler failure := rfl

@[simp] theorem recover_call (c : I.Call) (rest : Except ε (I.Reply c) → Program I ε α)
    (handler : ε → Program I ε α) :
    tryCatch (.call c rest : Program I ε α) handler =
      .call c fun reply => tryCatch (rest reply) handler := rfl

theorem bind_assoc (program : Program I ε α) (first : α → Program I ε β)
    (second : β → Program I ε γ) :
    program >>= first >>= second = program >>= fun value => first value >>= second := by
  induction program with
  | done result => cases result <;> rfl
  | call c rest ih =>
    simp only [bind_call, call.injEq, heq_eq_eq, true_and]
    exact funext ih

/-- Run a client alone. `answer` is one call against the store, for what the
environment supplies to it; it is `none` where the environment may not supply
that. -/
def eval (answer : ι → (c : I.Call) → σ → Option (Except ε (I.Reply c) × σ)) :
    Program I ε α → (Nat → ι) → σ → Option (Except ε α × σ)
  | .done result, _, store => some (result, store)
  | .call c next, inputs, store => (answer (inputs 0) c store).bind fun settled =>
      (next settled.1).eval answer (fun n => inputs (n + 1)) settled.2

/-- The calls such a solitary run issues, in order. -/
def trace (answer : ι → (c : I.Call) → σ → Option (Except ε (I.Reply c) × σ)) :
    Program I ε α → (Nat → ι) → σ → List I.Call
  | .done _, _, _ => []
  | .call c next, inputs, store =>
      c :: ((answer (inputs 0) c store).elim [] fun settled =>
        (next settled.1).trace answer (fun n => inputs (n + 1)) settled.2)

variable {answer : ι → (c : I.Call) → σ → Option (Except ε (I.Reply c) × σ)} {inputs : Nat → ι}

/-- A client that ends well was answered well at its first call. -/
theorem eval_perform_bind {c : I.Call} {next : I.Reply c → Program I ε α} {store store' : σ}
    {value : α} (h : (perform c >>= next).eval answer inputs store = some (.ok value, store')) :
    ∃ reply mid, answer (inputs 0) c store = some (.ok reply, mid) ∧
      (next reply).eval answer (fun n => inputs (n + 1)) mid = some (.ok value, store') := by
  obtain ⟨⟨reply, mid⟩, settled, rest⟩ := Option.bind_eq_some_iff.mp h
  cases reply with
  | error failure => cases rest
  | ok reply => exact ⟨reply, mid, settled, rest⟩

theorem eval_answered {c : I.Call} {reply : I.Reply c} {store mid : σ}
    (h : answer (inputs 0) c store = some (.ok reply, mid)) (next : I.Reply c → Program I ε α) :
    (perform c >>= next).eval answer inputs store =
      (next reply).eval answer (fun n => inputs (n + 1)) mid := by
  change (answer (inputs 0) c store).bind _ = _
  rw [h]
  rfl

theorem trace_answered {c : I.Call} {reply : I.Reply c} {store mid : σ}
    (h : answer (inputs 0) c store = some (.ok reply, mid)) (next : I.Reply c → Program I ε α) :
    (perform c >>= next).trace answer inputs store =
      c :: (next reply).trace answer (fun n => inputs (n + 1)) mid := by
  change c :: (answer (inputs 0) c store).elim [] _ = _
  rw [h]
  rfl

/-- Every call of such a solitary run is as `allowed` says, for what is supplied to it. -/
def EachCall (answer : ι → (c : I.Call) → σ → Option (Except ε (I.Reply c) × σ))
    (allowed : ι → I.Call → Prop) : Program I ε α → (Nat → ι) → σ → Prop
  | .done _, _, _ => True
  | .call c next, inputs, store => allowed (inputs 0) c ∧
      ∀ settled, answer (inputs 0) c store = some settled →
        (next settled.1).EachCall answer allowed (fun n => inputs (n + 1)) settled.2

theorem eachCall_of_forall {allowed : ι → I.Call → Prop} {program : Program I ε α} {store : σ}
    (h : ∀ n c, allowed (inputs n) c) : program.EachCall answer allowed inputs store := by
  induction program generalizing inputs store with
  | done result => trivial
  | call c next ih => exact ⟨h 0 c, fun settled _ => ih settled.1 fun n c => h (n + 1) c⟩

theorem EachCall.and {first second : ι → I.Call → Prop} {program : Program I ε α} {store : σ}
    (h : program.EachCall answer first inputs store)
    (h' : program.EachCall answer second inputs store) :
    program.EachCall answer (fun input c => first input c ∧ second input c) inputs store := by
  induction program generalizing inputs store with
  | done result => trivial
  | call c next ih =>
    exact ⟨⟨h.1, h'.1⟩, fun settled answered =>
      ih settled.1 (h.2 settled answered) (h'.2 settled answered)⟩

/-- Wherever the client, run alone, returns a value, the value and the store it
leaves are as `post` says. -/
def Ensures (answer : ι → (c : I.Call) → σ → Option (Except ε (I.Reply c) × σ)) (store : σ)
    (program : Program I ε α) (post : α → σ → Prop) : Prop :=
  ∀ inputs value store', program.eval answer inputs store = some (.ok value, store') →
    post value store'

theorem ensures_pure {store : σ} {value : α} {post : α → σ → Prop} (h : post value store) :
    Ensures answer store (pure value : Program I ε α) post := by
  intro inputs value' store' hrun
  cases hrun
  exact h

theorem ensures_throw {store : σ} {failure : ε} {post : α → σ → Prop} :
    Ensures answer store (throw failure : Program I ε α) post := by
  intro inputs value' store' hrun
  cases hrun

/-- The calls of a client are followed one after the other: a failed one ends it. -/
theorem ensures_perform_bind {c : I.Call} {next : I.Reply c → Program I ε α} {store : σ}
    {post : α → σ → Prop}
    (step : ∀ input reply mid, answer input c store = some (.ok reply, mid) →
      Ensures answer mid (next reply) post) :
    Ensures answer store (perform c >>= next) post := by
  intro inputs value store' hrun
  obtain ⟨reply, mid, settled, rest⟩ := eval_perform_bind hrun
  exact step (inputs 0) reply mid settled _ value store' rest

/-! A client run alone, in surroundings that do not change. -/

/-- From `store` it ends with `result`, and leaves `store'`. -/
def Settles (answer : ι → (c : I.Call) → σ → Option (Except ε (I.Reply c) × σ)) (input : ι)
    (program : Program I ε α) (store : σ) (result : Except ε α) (store' : σ) : Prop :=
  program.eval answer (fun _ => input) store = some (result, store')

section

variable {input : ι} {store mid store' : σ}

theorem settles_perform {c : I.Call} {reply : Except ε (I.Reply c)}
    (h : answer input c store = some (reply, store')) :
    Settles answer input (perform c) store reply store' := by
  change (answer input c store).bind _ = _
  rw [h]
  rfl

theorem Settles.bind {program : Program I ε α} {next : α → Program I ε β} {value : α}
    {result : Except ε β} (h : Settles answer input program store (.ok value) mid)
    (rest : Settles answer input (next value) mid result store') :
    Settles answer input (program >>= next) store result store' := by
  induction program generalizing store with
  | done first =>
    cases h
    exact rest
  | call c continue_ ih =>
    obtain ⟨⟨reply, between⟩, answered, h⟩ := Option.bind_eq_some_iff.mp h
    exact Option.bind_eq_some_iff.mpr ⟨(reply, between), answered, ih reply h⟩

theorem Settles.bind_error {program : Program I ε α} {next : α → Program I ε β} {failure : ε}
    (h : Settles answer input program store (.error failure) store') :
    Settles answer input (program >>= next) store (.error failure) store' := by
  induction program generalizing store with
  | done first =>
    cases h
    rfl
  | call c continue_ ih =>
    obtain ⟨⟨reply, between⟩, answered, h⟩ := Option.bind_eq_some_iff.mp h
    exact Option.bind_eq_some_iff.mpr ⟨(reply, between), answered, ih reply h⟩

theorem Settles.recover {program : Program I ε α} {handler : ε → Program I ε α} {value : α}
    (h : Settles answer input program store (.ok value) store') :
    Settles answer input (tryCatch program handler) store (.ok value) store' := by
  induction program generalizing store with
  | done first =>
    cases h
    rfl
  | call c continue_ ih =>
    obtain ⟨⟨reply, between⟩, answered, h⟩ := Option.bind_eq_some_iff.mp h
    exact Option.bind_eq_some_iff.mpr ⟨(reply, between), answered, ih reply h⟩

theorem Settles.recover_error {program : Program I ε α} {handler : ε → Program I ε α}
    {failure : ε} {result : Except ε α}
    (h : Settles answer input program store (.error failure) mid)
    (rest : Settles answer input (handler failure) mid result store') :
    Settles answer input (tryCatch program handler) store result store' := by
  induction program generalizing store with
  | done first =>
    cases h
    exact rest
  | call c continue_ ih =>
    obtain ⟨⟨reply, between⟩, answered, h⟩ := Option.bind_eq_some_iff.mp h
    exact Option.bind_eq_some_iff.mpr ⟨(reply, between), answered, ih reply h⟩

end

/-- What must have been heard, oldest first, whenever the client ends. -/
def Ends (accepts : List (Exchange I ε) → Except ε α → Prop) :
    List (Exchange I ε) → Program I ε α → Prop
  | heard, .done result => accepts heard result
  | heard, .call c next => ∀ reply, (next reply).Ends accepts (heard ++ [⟨c, reply⟩])

variable {accepts : List (Exchange I ε) → Except ε α → Prop} {heard : List (Exchange I ε)}

theorem ends_of_forall {program : Program I ε α} (h : ∀ heard result, accepts heard result) :
    program.Ends accepts heard := by
  induction program generalizing heard with
  | done result => exact h heard result
  | call c next ih => exact fun reply => ih reply

theorem ends_perform_bind {c : I.Call} {next : I.Reply c → Program I ε α}
    (ok : ∀ value, (next value).Ends accepts (heard ++ [⟨c, .ok value⟩]))
    (failed : ∀ failure, accepts (heard ++ [⟨c, .error failure⟩]) (.error failure)) :
    (perform c >>= next).Ends accepts heard := by
  intro reply
  cases reply with
  | error failure => exact failed failure
  | ok value => exact ok value

theorem Ends.bind {program : Program I ε α} {next : α → Program I ε β}
    {accepts : List (Exchange I ε) → Except ε β → Prop}
    (h : program.Ends (fun heard result => match result with
      | .ok value => (next value).Ends accepts heard
      | .error failure => accepts heard (.error failure)) heard) :
    (program >>= next).Ends accepts heard := by
  induction program generalizing heard with
  | done result => cases result <;> exact h
  | call c rest ih => exact fun reply => ih reply (h reply)

theorem Ends.recover {program : Program I ε α} {handler : ε → Program I ε α}
    (h : program.Ends (fun heard result => match result with
      | .ok value => accepts heard (.ok value)
      | .error failure => (handler failure).Ends accepts heard) heard) :
    (tryCatch program handler).Ends accepts heard := by
  induction program generalizing heard with
  | done result => cases result <;> exact h
  | call c rest ih => exact fun reply => ih reply (h reply)

theorem Ends.mono {weaker : List (Exchange I ε) → Except ε α → Prop} {program : Program I ε α}
    (le : ∀ heard result, accepts heard result → weaker heard result)
    (h : program.Ends accepts heard) : program.Ends weaker heard := by
  induction program generalizing heard with
  | done result => exact le _ _ h
  | call c next ih => exact fun reply => ih reply (h reply)

end Program

/-! A monitor follows what a client has been told and says which calls it may
issue next. Whether a client conforms is a question about its tree alone; it
is asked once per client and used at every interleaving. -/

structure Monitor (I : Interface) (ε : Type) where
  State : Type
  observe : State → (c : I.Call) → Except ε (I.Reply c) → State
  permits : State → I.Call → Prop

namespace Monitor

variable {I : Interface} {ε α β : Type} (m : Monitor I ε)

/-- Every call the client can reach is permitted, and it ends as `accepts` says. -/
def Conforms (accepts : m.State → Except ε α → Prop) : m.State → Program I ε α → Prop
  | state, .done result => accepts state result
  | state, .call c next =>
      m.permits state c ∧ ∀ reply, Conforms accepts (m.observe state c reply) (next reply)

variable {m}

theorem Conforms.mono {first second : m.State → Except ε α → Prop} {state : m.State}
    {program : Program I ε α} (weaker : ∀ state result, first state result → second state result)
    (h : m.Conforms first state program) : m.Conforms second state program := by
  induction program generalizing state with
  | done result => exact weaker _ _ h
  | call c next ih => exact ⟨h.1, fun reply => ih reply (h.2 reply)⟩

theorem Conforms.bind {accepts : m.State → Except ε β → Prop} {state : m.State}
    {program : Program I ε α} {next : α → Program I ε β}
    (h : m.Conforms (fun state result => match result with
      | .ok value => m.Conforms accepts state (next value)
      | .error failure => accepts state (.error failure)) state program) :
    m.Conforms accepts state (program >>= next) := by
  induction program generalizing state with
  | done result => cases result <;> exact h
  | call c rest ih => exact ⟨h.1, fun reply => ih reply (h.2 reply)⟩

theorem Conforms.recover {accepts : m.State → Except ε α → Prop} {state : m.State}
    {program : Program I ε α} {handler : ε → Program I ε α}
    (h : m.Conforms (fun state result => match result with
      | .ok value => accepts state (.ok value)
      | .error failure => m.Conforms accepts state (handler failure)) state program) :
    m.Conforms accepts state (tryCatch program handler) := by
  induction program generalizing state with
  | done result => cases result <;> exact h
  | call c rest ih => exact ⟨h.1, fun reply => ih reply (h.2 reply)⟩

theorem conforms_of_forall {accepts : m.State → Except ε α → Prop} {Q : m.State → Prop}
    {state : m.State} {program : Program I ε α} (initial : Q state)
    (keeps : ∀ state c reply, Q state → Q (m.observe state c reply))
    (permitted : ∀ state c, Q state → m.permits state c)
    (accepted : ∀ state result, Q state → accepts state result) :
    m.Conforms accepts state program := by
  induction program generalizing state with
  | done result => exact accepted state result initial
  | call c next ih =>
    exact ⟨permitted state c initial, fun reply => ih reply (keeps state c reply initial)⟩

/-- What no reply changes still holds when the client ends. -/
theorem Conforms.invariant {accepts : m.State → Except ε α → Prop} {Q : m.State → Prop}
    {state : m.State} {program : Program I ε α} (initial : Q state)
    (keeps : ∀ state c reply, Q state → Q (m.observe state c reply))
    (h : m.Conforms accepts state program) :
    m.Conforms (fun state result => Q state ∧ accepts state result) state program := by
  induction program generalizing state with
  | done result => exact ⟨initial, h⟩
  | call c next ih => exact ⟨h.1, fun reply => ih reply (keeps state c reply initial) (h.2 reply)⟩

/-- The calls of a client are checked one after the other: a failed one ends it. -/
theorem conforms_perform_bind {accepts : m.State → Except ε β → Prop} {state : m.State}
    {c : I.Call} {next : I.Reply c → Program I ε β} :
    m.Conforms accepts state (Program.perform c >>= next) ↔
      m.permits state c ∧
      (∀ value, m.Conforms accepts (m.observe state c (.ok value)) (next value)) ∧
      ∀ failure, accepts (m.observe state c (.error failure)) (.error failure) := by
  constructor
  · rintro ⟨permitted, rest⟩
    exact ⟨permitted, fun value => rest (.ok value), fun failure => rest (.error failure)⟩
  · rintro ⟨permitted, ok, failed⟩
    refine ⟨permitted, fun reply => ?_⟩
    cases reply with
    | error failure => exact failed failure
    | ok value => exact ok value

end Monitor

end TenantOS.Interleaving
