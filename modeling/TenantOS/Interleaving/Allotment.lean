import TenantOS.Interleaving.Schedule

/-! Things that clients draw from one stock. What is drawn has not been issued before, so
that no two clients ever hold the same thing. -/
namespace TenantOS.Interleaving

variable {κ α : Type} {holds : κ → α → Prop} {issued issued' : α → Prop}
  {clients : Nat → Option κ} {k k' : κ} {n : Nat}

structure Allotted (holds : κ → α → Prop) (issued : α → Prop) (clients : Nat → Option κ) :
    Prop where
  issued : ∀ i k, clients i = some k → ∀ x, holds k x → issued x
  own : ∀ i j k k', clients i = some k → clients j = some k' → ∀ x, holds k x → holds k' x → i = j

theorem Allotted.join (h : Allotted holds issued clients) (empty : ∀ x, ¬ holds k x) :
    Allotted holds issued (Function.update clients n (some k)) := by
  have old {i k'} (hi : Function.update clients n (some k) i = some k') {x : α}
      (holding : holds k' x) : clients i = some k' := by
    rcases Discipline.update_client.mp hi with ⟨-, rfl⟩ | ⟨-, old⟩
    · exact absurd holding (empty x)
    · exact old
  constructor
  · intro i k' hi x holding
    exact h.issued i k' (old hi holding) x holding
  · intro i j ki kj hi hj x holding holding'
    exact h.own i j ki kj (old hi holding) (old hj holding') x holding holding'

/-- A client that holds more than before has drawn it. -/
theorem Allotted.draw (h : Allotted holds issued clients) (client : clients n = some k)
    (more : ∀ x, issued x → issued' x)
    (drawn : ∀ x, holds k' x → holds k x ∨ ¬ issued x ∧ issued' x) :
    Allotted holds issued' (Function.update clients n (some k')) := by
  -- nobody else holds what the client holds now
  have apart {j kj} (other : clients j = some kj) {x : α} (mine : holds k' x)
      (theirs : holds kj x) : n = j := by
    rcases drawn x mine with before | ⟨fresh, -⟩
    · exact h.own n j k kj client other x before theirs
    · exact absurd (h.issued j kj other x theirs) fresh
  constructor
  · intro i ki hi x holding
    rcases Discipline.update_client.mp hi with ⟨rfl, rfl⟩ | ⟨-, old⟩
    · rcases drawn x holding with before | ⟨-, now⟩
      · exact more x (h.issued i k client x before)
      · exact now
    · exact more x (h.issued i ki old x holding)
  · intro i j ki kj hi hj x holding holding'
    rcases Discipline.update_client.mp hi with ⟨rfl, rfl⟩ | ⟨-, old⟩
    · rcases Discipline.update_client.mp hj with ⟨same, -⟩ | ⟨-, old'⟩
      · exact same.symm
      · exact apart old' holding holding'
    · rcases Discipline.update_client.mp hj with ⟨rfl, rfl⟩ | ⟨-, old'⟩
      · exact (apart old holding' holding).symm
      · exact h.own i j ki kj old old' x holding holding'

end TenantOS.Interleaving
