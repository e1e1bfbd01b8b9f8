import TenantOS.Interleaving.Schedule

/-! What has happened in a schedule: when a client's call was settled, and which
client had returned before another was started. -/
namespace TenantOS.Interleaving.World

variable {S : System}

theorem run_keeps_returned {w w' : World S} {es : List (Event S)} {i : Nat} {t : Thread S}
    {result : Except S.Failure S.Outcome} (hrun : w.run es = some w')
    (thread : w.threads[i]? = some t) (returned : t.Returned result) : w'.threads[i]? = some t :=
  run_invariant (P := fun w => w.threads[i]? = some t)
    (fun _ _ _ still hstep => step_keeps_returned hstep still returned) thread hrun

theorem start_mem {w₀ w : World S} {es : List (Event S)} (idle : w₀.threads = [])
    (hrun : w₀.run es = some w) {i : Nat} {t : Thread S} (thread : w.threads[i]? = some t) :
    .start t.command ∈ es := by
  refine run_induction (P := fun es w => ∀ i t, w.threads[i]? = some t → .start t.command ∈ es)
    ?_ ?_ es w hrun i t thread
  · intro i t ht
    simp [idle] at ht
  · intro es e w w' hes ih hstep i t ht
    cases hstep with
    | join command =>
      rcases join_thread.mp ht with old | ⟨-, rfl⟩
      · exact List.mem_append_left _ (ih i t old)
      · exact List.mem_append_right _ (List.mem_singleton_self _)
    | @resume j fate u c next reply store hu waiting settled =>
      rcases (resume_thread hu).mp ht with ⟨rfl, rfl⟩ | ⟨-, old⟩
      · exact List.mem_append_left _ (ih _ u hu)
      · exact List.mem_append_left _ (ih i t old)

/-- Of two moments of one schedule one comes first, and leads to the other. -/
theorem run_between {w₀ w₁ w₂ : World S} {first second es : List (Event S)}
    (hfirst : first <+: es) (hsecond : second <+: es) (run₁ : w₀.run first = some w₁)
    (run₂ : w₀.run second = some w₂) :
    (first <+: second ∧ ∃ rest, w₁.run rest = some w₂) ∨
      (second <+: first ∧ ∃ rest, w₂.run rest = some w₁) := by
  rcases List.prefix_or_prefix_of_prefix hfirst hsecond with le | le
  · obtain ⟨rest, rfl⟩ := le
    obtain ⟨mid, hmid, hrest⟩ := run_split run₂
    cases run₁.symm.trans hmid
    exact .inl ⟨List.prefix_append .., rest, hrest⟩
  · obtain ⟨rest, rfl⟩ := le
    obtain ⟨mid, hmid, hrest⟩ := run_split run₁
    cases run₂.symm.trans hmid
    exact .inr ⟨List.prefix_append .., rest, hrest⟩

/-- After `before` the client waits for a reply to the call, and is told it next. -/
structure SettledAt (w₀ : World S) (es before : List (Event S)) (w : World S) (i : Nat)
    (fate : Fate S) (t : Thread S) (c : S.interface.Call)
    (reply : Except S.Failure (S.interface.Reply c)) (store : S.Store) : Prop where
  within : before ++ [.advance i fate] <+: es
  run : w₀.run before = some w
  thread : w.threads[i]? = some t
  waiting : ∃ next, t.rest = .call c next
  settled : fate.settle c w.store = some (reply, store)

section

variable {w₀ w w' : World S} {es es' before : List (Event S)} {i j : Nat} {fate : Fate S}
  {t : Thread S} {c : S.interface.Call} {reply : Except S.Failure (S.interface.Reply c)}
  {store : S.Store} {result : Except S.Failure S.Outcome}

theorem SettledAt.mono (h : SettledAt w₀ es before w i fate t c reply store) (le : es <+: es') :
    SettledAt w₀ es' before w i fate t c reply store :=
  ⟨h.within.trans le, h.run, h.thread, h.waiting, h.settled⟩

theorem SettledAt.step (h : SettledAt w₀ es before w i fate t c reply store) :
    ∃ next, Step w (.advance i fate) (w.resume i (t.after c next reply) store) := by
  obtain ⟨next, waiting⟩ := h.waiting
  exact ⟨next, .resume h.thread waiting h.settled⟩

/-- The client has been told the reply from then on. -/
theorem SettledAt.heard (h : SettledAt w₀ es before w i fate t c reply store)
    (hrun : w₀.run es = some w') :
    ∃ t', w'.threads[i]? = some t' ∧ t'.command = t.command ∧
      t.heard ++ [⟨c, reply⟩] <+: t'.heard := by
  obtain ⟨rest, rfl⟩ := h.within
  obtain ⟨mid, hmid, hrest⟩ := run_split hrun
  obtain ⟨next, hstep⟩ := h.step
  cases (run_snoc h.run hstep).symm.trans hmid
  exact run_keeps_thread hrest ((resume_thread h.thread).mpr (.inl ⟨rfl, rfl⟩))

/-- Whatever a client has been told since the start, it was told at some moment: when it
had heard what came before. -/
theorem settledAt_of_split (silent : ∀ t, w₀.threads[i]? = some t → t.heard = [])
    (hrun : w₀.run es = some w) (thread : w.threads[i]? = some t)
    {front rest : List (Exchange S.interface S.Failure)} {x : Exchange S.interface S.Failure}
    (split : t.heard = front ++ x :: rest) :
    ∃ before w₁ fate u store, SettledAt w₀ es before w₁ i fate u x.call x.reply store ∧
      u.heard = front := by
  refine run_induction (P := fun es w => ∀ t, w.threads[i]? = some t → ∀ rest,
    t.heard = front ++ x :: rest → ∃ before w₁ fate u store,
      SettledAt w₀ es before w₁ i fate u x.call x.reply store ∧ u.heard = front) ?_ ?_ es w hrun t
    thread rest split
  · intro t ht rest split
    simp [silent t ht] at split
  · intro es e w w' hes ih hstep t ht rest split
    have later {t : Thread S} {rest : List (Exchange S.interface S.Failure)}
        (ht : w.threads[i]? = some t) (split : t.heard = front ++ x :: rest) :
        ∃ before w₁ fate u store, SettledAt w₀ (es ++ [e]) before w₁ i fate u x.call x.reply store ∧
          u.heard = front := by
      obtain ⟨before, w₁, fate, u, store, settled, same⟩ := ih t ht rest split
      exact ⟨before, w₁, fate, u, store, settled.mono (List.prefix_append ..), same⟩
    cases hstep with
    | join command =>
      rcases join_thread.mp ht with old | ⟨-, rfl⟩
      · exact later old split
      · cases List.append_ne_nil_of_right_ne_nil front (List.cons_ne_nil x rest) split.symm
    | @resume j fate u c next reply store hu waiting settled =>
      rcases (resume_thread hu).mp ht with ⟨rfl, rfl⟩ | ⟨-, old⟩
      · rcases List.eq_nil_or_concat rest with rfl | ⟨rest, last, rfl⟩
        · obtain ⟨same, new⟩ := List.append_inj' split rfl
          cases new
          exact ⟨es, w, fate, u, store, ⟨List.prefix_refl _, hes, hu, ⟨next, waiting⟩, settled⟩,
            same⟩
        · rw [List.concat_eq_append, ← List.cons_append, ← List.append_assoc] at split
          exact later hu (List.append_inj' split rfl).1
      · exact later old split

/-- Of a client started in the run, that is whatever it has been told at all. -/
theorem settledAt_of_heard (idle : w₀.threads = []) (hrun : w₀.run es = some w)
    (thread : w.threads[i]? = some t) {x : Exchange S.interface S.Failure} (mem : x ∈ t.heard) :
    ∃ before w₁ fate u store, SettledAt w₀ es before w₁ i fate u x.call x.reply store ∧
      u.heard ++ [x] <+: t.heard := by
  obtain ⟨front, rest, split⟩ := List.append_of_mem mem
  obtain ⟨before, w₁, fate, u, store, settled, same⟩ :=
    settledAt_of_split (fun u hu => by simp [idle] at hu) hrun thread split
  exact ⟨before, w₁, fate, u, store, settled, rest, by simp [same, split]⟩

/-- The client had returned when the other was yet to be started. -/
def ReturnedBefore (w₀ : World S) (es : List (Event S)) (i j : Nat)
    (result : Except S.Failure S.Outcome) : Prop :=
  ∃ before w t, before <+: es ∧ w₀.run before = some w ∧ w.threads[i]? = some t ∧
    t.Returned result ∧ w.threads.length ≤ j

/-- Neither client had returned when the other was started. -/
def Overlap (w₀ : World S) (es : List (Event S)) (i j : Nat) : Prop :=
  (∀ result, ¬ ReturnedBefore w₀ es i j result) ∧ ∀ result, ¬ ReturnedBefore w₀ es j i result

theorem ReturnedBefore.returned (h : ReturnedBefore w₀ es i j result) (hrun : w₀.run es = some w) :
    ∃ t, w.threads[i]? = some t ∧ t.Returned result := by
  obtain ⟨before, w₁, t, ⟨rest, rfl⟩, run₁, thread, returned, -⟩ := h
  obtain ⟨mid, hmid, hrest⟩ := run_split hrun
  cases run₁.symm.trans hmid
  exact ⟨t, run_keeps_returned hrest thread returned, returned⟩

theorem ReturnedBefore.lt (h : ReturnedBefore w₀ es i j result) : i < j := by
  obtain ⟨before, w, t, -, -, thread, -, yet⟩ := h
  exact Nat.lt_of_lt_of_le (List.getElem?_eq_some_iff.mp thread).1 yet

/-- A client that still waits had not returned before one that is there already. -/
theorem not_returnedBefore (le : before <+: es) (hrun : w₀.run before = some w)
    (thread : w.threads[j]? = some t) (waiting : ∃ next, t.rest = .call c next) {u : Thread S}
    (present : w.threads[i]? = some u) : ¬ ReturnedBefore w₀ es j i result := by
  rintro ⟨before', w', t', le', hrun', thread', returned, yet⟩
  rcases run_between le le' hrun hrun' with ⟨-, rest, hrest⟩ | ⟨-, rest, hrest⟩
  · obtain ⟨u', present', -⟩ := run_keeps_thread hrest present
    have := (List.getElem?_eq_some_iff.mp present').1
    omega
  · obtain ⟨next, waiting⟩ := waiting
    cases thread.symm.trans (run_keeps_returned hrest thread' returned)
    rw [Thread.Returned, waiting] at returned
    contradiction

end

end TenantOS.Interleaving.World
