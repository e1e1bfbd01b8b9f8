import Mathlib.Data.List.Induction
import Mathlib.Tactic.Common

/-! A machine that takes one event after another, and refuses those that do not apply. -/
namespace TenantOS.Interleaving

variable {σ ε : Type} {step : σ → ε → Option σ} {s s' : σ} {events : List ε}

/-- What one step preserves, a run preserves. -/
theorem foldlM_invariant {P : σ → Prop} (preserved : ∀ s e s', P s → step s e = some s' → P s')
    (initial : P s) (h : events.foldlM step s = some s') : P s' := by
  induction events generalizing s with
  | nil =>
    cases h
    exact initial
  | cons e events ih =>
    obtain ⟨mid, here, rest⟩ := Option.bind_eq_some_iff.mp h
    exact ih (preserved s e mid initial here) rest

/-- What the events so far say, and one step keeps saying, a run ends with. -/
theorem foldlM_induction {P : List ε → σ → Prop} (initial : P [] s)
    (preserved : ∀ es e mid s', P es mid → step mid e = some s' → P (es ++ [e]) s')
    (h : events.foldlM step s = some s') : P events s' := by
  induction events using List.reverseRecOn generalizing s' with
  | nil =>
    cases h
    exact initial
  | append_singleton es e ih =>
    rw [List.foldlM_append] at h
    obtain ⟨mid, before, last⟩ := Option.bind_eq_some_iff.mp h
    rw [List.foldlM_cons] at last
    obtain ⟨_, here, rest⟩ := Option.bind_eq_some_iff.mp last
    cases rest
    exact preserved es e mid _ (ih before) here

end TenantOS.Interleaving
