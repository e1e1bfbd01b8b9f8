import TenantOS.Interleaving.History

/-! What a client asks and comes to when it can rely on the answers it gets. The client is
looked at alone; that its reliance is met, whatever the others do, is shown along the run. -/
namespace TenantOS.Interleaving

/-- Which replies a call may get, of a client that has heard so much. -/
abbrev Reliance (I : Interface) (ε : Type) :=
  List (Exchange I ε) → (c : I.Call) → Except ε (I.Reply c) → Prop

namespace Program

variable {I : Interface} {ε α : Type}

/-- Answered within its reliance, the client asks only what `asks` says, and ends as
`accepts` says. -/
def Relies (rely : Reliance I ε) (asks : List (Exchange I ε) → I.Call → Prop)
    (accepts : List (Exchange I ε) → Except ε α → Prop) :
    List (Exchange I ε) → Program I ε α → Prop
  | heard, .done result => accepts heard result
  | heard, .call c next => asks heard c ∧ ∀ reply, rely heard c reply →
      (next reply).Relies rely asks accepts (heard ++ [⟨c, reply⟩])

variable {rely : Reliance I ε} {asks : List (Exchange I ε) → I.Call → Prop}
  {accepts : List (Exchange I ε) → Except ε α → Prop} {heard : List (Exchange I ε)}

/-- A call that is relied on to be answered does not end its client. -/
theorem relies_perform_bind {c : I.Call} {next : I.Reply c → Program I ε α} (asked : asks heard c)
    (answered : ∀ reply, rely heard c reply → ∃ value, reply = .ok value)
    (ok : ∀ value, rely heard c (.ok value) →
      (next value).Relies rely asks accepts (heard ++ [⟨c, .ok value⟩])) :
    (perform c >>= next).Relies rely asks accepts heard := by
  refine ⟨asked, fun reply met => ?_⟩
  obtain ⟨value, rfl⟩ := answered reply met
  exact ok value met

end Program

namespace World

variable {S : System} {rely : Reliance S.interface S.Failure}
  {asks : List (Exchange S.interface S.Failure) → S.interface.Call → Prop}
  {accepts : List (Exchange S.interface S.Failure) → Except S.Failure S.Outcome → Prop}

/-- The replies the client hears in this step are those it relies on. -/
def Meets (rely : Reliance S.interface S.Failure) (i : Nat) (w : World S) (e : Event S) : Prop :=
  ∀ fate t c next reply store, e = .advance i fate → w.threads[i]? = some t →
    t.rest = .call c next → fate.settle c w.store = some (reply, store) → rely t.heard c reply

theorem relies_run {w w' : World S} {es : List (Event S)} {i : Nat} {t t' : Thread S}
    (hrun : w.run es = some w') (met : w.Along es fun w e _ => Meets rely i w e)
    (thread : w.threads[i]? = some t) (relies : t.rest.Relies rely asks accepts t.heard)
    (thread' : w'.threads[i]? = some t') : t'.rest.Relies rely asks accepts t'.heard := by
  refine run_induction (P := fun es w' => w.Along es (fun w e _ => Meets rely i w e) →
    ∀ u, w'.threads[i]? = some u → u.rest.Relies rely asks accepts u.heard) ?_ ?_ es w' hrun met t'
    thread'
  · intro _ u hu
    cases thread.symm.trans hu
    exact relies
  · intro es e w₁ w₂ hes ih hstep met u hu
    have before := ih met.start
    have meets := met.last hes hstep
    cases hstep with
    | join command =>
      rcases join_thread.mp hu with old | ⟨new, -⟩
      · exact before u old
      · -- the client is there from the beginning
        obtain ⟨u', hu', -⟩ := run_keeps_thread hes thread
        have := (List.getElem?_eq_some_iff.mp hu').1
        omega
    | @resume j fate v c next reply store hv waiting settled =>
      rcases (resume_thread hv).mp hu with ⟨rfl, rfl⟩ | ⟨-, old⟩
      · have here := before v hv
        rw [waiting] at here
        exact here.2 reply (meets fate v c next reply store rfl hv waiting settled)
      · exact before u old

end World

end TenantOS.Interleaving
