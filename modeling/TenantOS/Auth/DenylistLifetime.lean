import TenantOS.Auth.Exchanges
import TenantOS.Redis.Keyspace

/-! How long a denied token stays denied: the denylist service over Redis, with any
number of its calls under way and one clock, in milliseconds, for all of them. -/
namespace TenantOS.Auth.DenylistLifetime

open TenantOS.Domain TenantOS.Infrastructure TenantOS.Interleaving TenantOS.Application

inductive Command where
  | add (jti : Uuid)
  | has (jti : Uuid)

inductive Outcome where
  | added
  | revoked (answer : Bool)

/-- The keys are those under the prefix of the denylist, which nothing else writes. -/
structure Store where
  clock : Date
  keys : Redis.Keyspace Uuid

/-- The clock does not run backwards. -/
def Store.tick (store : Store) (now : Date) : Option Store :=
  if store.clock ≤ now then some ⟨now, store.keys⟩ else none

def answer (now : Date) : (c : AuthCall) → Store → Option (Except Failure c.Reply × Store)
  | .runtime .now, store => (store.tick now).map fun store => (.ok now, store)
  | .redis (.set jti ttlSeconds), store => (store.tick now).map fun store =>
      (.ok (), ⟨store.clock, store.keys.setPx now jti 1 (ttlSeconds * 1000)⟩)
  | .redis (.exists jti), store => (store.tick now).map fun store =>
      (.ok (store.keys.lookup now jti).isSome, store)
  | _, _ => none

/-- A jti is drawn for one token; `exp` has the expiry of that token, in seconds. -/
def body (exp : Uuid → Int) : Command → UseCase Outcome
  | .add jti => do
    TokenDenylistService.add jti (exp jti * 1000)
    pure .added
  | .has jti => do
    let denied ← TokenDenylistService.has jti
    pure (.revoked denied)

abbrev denylist (exp : Uuid → Int) : System where
  interface := authInterface
  Failure := Failure
  Fault := Failure
  raise := id
  Outcome := Outcome
  Command := Command
  Store := Store
  Input := Date
  body := body exp
  answer := answer

/-- `floor(now / 1000) >= exp`, as the verifier of a token has it. -/
def Expired (exp : Int) (now : Date) : Prop := exp ≤ now / 1000

/-- An `EXISTS` that is run now makes `has` report the token revoked. -/
def ReportedRevoked (store : Store) (jti : Uuid) (now : Date) : Prop :=
  ∃ store', (TokenDenylistService.has jti).eval answer (fun _ => now) store =
    some (.ok true, store')

/-! The arithmetic of seconds and milliseconds. -/

theorem expired_of_le {exp now : Int} (h : exp * 1000 ≤ now) : Expired exp now := by
  unfold Expired
  omega

theorem deadline_ge {exp time set : Int} (later : time ≤ set) :
    exp * 1000 ≤ set + -((time - exp * 1000) / 1000) * 1000 := by
  omega

theorem deadline_lt {exp time set : Int} :
    set + -((time - exp * 1000) / 1000) * 1000 < set + (exp * 1000 - time) + 1000 := by
  omega

theorem expired_of_ttl {exp time : Int} (h : -((time - exp * 1000) / 1000) ≤ 0) :
    exp * 1000 ≤ time := by
  omega

/-! What one call can do to the store. -/

theorem Store.tick_eq_some {store store' : Store} {now : Date} :
    store.tick now = some store' ↔ store.clock ≤ now ∧ store' = ⟨now, store.keys⟩ := by
  unfold tick
  by_cases later : store.clock ≤ now
  · rw [if_pos later, Option.some.injEq, and_iff_right later, eq_comm]
  · rw [if_neg later]
    simp [later]

section

variable {now : Date} {c : AuthCall} {store store' : Store} {reply : Except Failure c.Reply}

theorem answer_eq_some (h : answer now c store = some (reply, store')) :
    store.clock ≤ now ∧ store'.clock = now ∧ (store'.keys = store.keys ∨
      ∃ jti ttlSeconds, c = .redis (.set jti ttlSeconds) ∧
        store'.keys = store.keys.setPx now jti 1 (ttlSeconds * 1000)) := by
  match c with
  | .runtime .now =>
    obtain ⟨ticked, tick, same⟩ := Option.map_eq_some_iff.mp h
    obtain ⟨later, rfl⟩ := Store.tick_eq_some.mp tick
    cases same
    exact ⟨later, rfl, .inl rfl⟩
  | .redis (.set jti ttlSeconds) =>
    obtain ⟨ticked, tick, same⟩ := Option.map_eq_some_iff.mp h
    obtain ⟨later, rfl⟩ := Store.tick_eq_some.mp tick
    cases same
    exact ⟨later, rfl, .inr ⟨jti, ttlSeconds, rfl, rfl⟩⟩
  | .redis (.exists jti) =>
    obtain ⟨ticked, tick, same⟩ := Option.map_eq_some_iff.mp h
    obtain ⟨later, rfl⟩ := Store.tick_eq_some.mp tick
    cases same
    exact ⟨later, rfl, .inl rfl⟩
  | .refreshTokens _ | .users _ | .hasher _ | .runtime .randomUUID | .runtime .randomBytes
  | .runtime (.signAsync ..) => cases h

end

/-! What each client knows, and what it may ask for then. -/

structure Knowledge where
  command : Command
  /-- Its reading of the clock. -/
  reading : Option Date
  stored : Bool

def Knowledge.observe (k : Knowledge) :
    (c : AuthCall) → Except Failure c.Reply → Knowledge
  | .runtime .now, .ok time => { k with reading := some time }
  | .redis (.set ..), .ok () => { k with stored := true }
  | _, _ => k

/-- A client asks for the entry of its own token, with what is left of the token's life
when it read the clock. -/
def discipline (exp : Uuid → Int) : Discipline (denylist exp) where
  State := Knowledge
  observe := Knowledge.observe
  permits k c := ∀ jti ttlSeconds, c = AuthCall.redis (.set jti ttlSeconds) →
    k.command = .add jti ∧ ∃ time, k.reading = some time ∧
      ttlSeconds = -((time - exp jti * 1000) / 1000)
  initial command := ⟨command, none, false⟩
  accepts k result := ∀ jti, k.command = .add jti → result = .ok .added →
    k.stored = true ∨ ∃ time, k.reading = some time ∧ exp jti * 1000 ≤ time
  conforms := by
    intro command
    cases command with
    | add jti =>
      refine ⟨nofun, fun reading => ?_⟩
      cases reading with
      | error failure => exact nofun
      | ok time =>
        change Monitor.Conforms _ _ _ (Program.bind (ite _ _ _) _)
        split
        · rename_i expired
          rintro _ ⟨⟩ -
          exact .inr ⟨time, rfl, expired_of_ttl expired⟩
        · refine ⟨?_, fun stored => ?_⟩
          · rintro _ _ ⟨⟩
            exact ⟨rfl, time, rfl, rfl⟩
          · cases stored with
            | error failure => exact nofun
            | ok stored =>
              rintro _ - -
              exact .inl rfl
    | has jti =>
      refine ⟨nofun, fun found => ?_⟩
      cases found with
      | error failure => exact nofun
      | ok found => exact nofun

section

variable {exp : Uuid → Int} {v v' : (discipline exp).View} {e : Event (denylist exp)}

/-- No entry ends before its token, no client's clock reading is ahead, and who was told
that the entry is stored was told the truth. -/
structure Sound (v : (discipline exp).View) : Prop where
  entries : ∀ jti entry, v.store.keys jti = some entry →
    ∃ deadline, entry.expireAt = some deadline ∧ exp jti * 1000 ≤ deadline
  readings : ∀ (i : Nat) (k : Knowledge) (time : Date), v.clients i = some k →
    k.reading = some time → time ≤ v.store.clock
  stored : ∀ (i : Nat) (k : Knowledge) (jti : Uuid), v.clients i = some k →
    k.command = .add jti → k.stored = true → ∃ entry, v.store.keys jti = some entry

/-- What a call leaves in the keys: an entry that was there is still there, and a new one
outlives its token. -/
theorem Sound.answered (h : Sound v) {k : Knowledge} {i : Nat} {c : AuthCall} {now : Date}
    {reply : Except Failure c.Reply} {store : Store} (client : v.clients i = some k)
    (permitted : (discipline exp).permits k c)
    (answered : answer now c v.store = some (reply, store)) :
    (∀ jti entry, store.keys jti = some entry →
      ∃ deadline, entry.expireAt = some deadline ∧ exp jti * 1000 ≤ deadline) ∧
    (∀ jti, (∃ entry, v.store.keys jti = some entry) → ∃ entry, store.keys jti = some entry) := by
  obtain ⟨later, -, kept | ⟨jti, ttlSeconds, rfl, put⟩⟩ := answer_eq_some answered
  · rw [kept]
    exact ⟨h.entries, fun _ => id⟩
  · obtain ⟨-, time, reading, rfl⟩ := permitted jti ttlSeconds rfl
    have before : time ≤ now := Int.le_trans (h.readings i k time client reading) later
    rw [put, Redis.Keyspace.setPx]
    constructor
    · intro other entry present
      by_cases same : other = jti
      · subst same
        rw [Redis.Keyspace.put_self] at present
        cases present
        exact ⟨_, rfl, deadline_ge before⟩
      · rw [Redis.Keyspace.put_of_ne same] at present
        exact h.entries other entry present
    · rintro other ⟨entry, present⟩
      by_cases same : other = jti
      · subst same
        exact ⟨_, Redis.Keyspace.put_self⟩
      · exact ⟨entry, by rw [Redis.Keyspace.put_of_ne same, present]⟩

/-- Being told the time, or that the entry is stored, takes an answer. -/
theorem observe_reading {k : Knowledge} {c : AuthCall} {reply : Except Failure c.Reply}
    {time : Date} (h : (k.observe c reply).reading = some time) :
    k.reading = some time ∨ Heard c reply = Heard (.runtime .now) (.ok time) := by
  unfold Knowledge.observe at h
  split at h
  · cases h
    exact .inr rfl
  · exact .inl h
  · exact .inl h

theorem observe_stored {k : Knowledge} {c : AuthCall} {reply : Except Failure c.Reply}
    (h : (k.observe c reply).stored = true) :
    k.stored = true ∨ ∃ jti ttlSeconds,
      Heard c reply = Heard (.redis (.set jti ttlSeconds)) (.ok ()) := by
  unfold Knowledge.observe at h
  split at h
  · exact .inl h
  · exact .inr ⟨_, _, rfl⟩
  · exact .inl h

@[simp] theorem observe_command {k : Knowledge} {c : AuthCall} {reply : Except Failure c.Reply} :
    (k.observe c reply).command = k.command := by
  unfold Knowledge.observe
  split <;> rfl

theorem Sound.step (h : Sound v) (hstep : Discipline.View.Step (discipline exp) v e v') :
    Sound v' := by
  cases hstep with
  | join command free =>
    constructor
    · exact h.entries
    · intro i k time client reading
      rcases Discipline.update_client.mp client with ⟨-, rfl⟩ | ⟨-, old⟩
      · cases reading
      · exact h.readings i k time old reading
    · intro i k jti client named stored
      rcases Discipline.update_client.mp client with ⟨-, rfl⟩ | ⟨-, old⟩
      · cases stored
      · exact h.stored i k jti old named stored
  | @settle i fate k c reply store client permitted settled =>
    obtain ⟨entries, kept, later⟩ : (∀ jti entry, store.keys jti = some entry →
        ∃ deadline, entry.expireAt = some deadline ∧ exp jti * 1000 ≤ deadline) ∧
        (∀ jti, (∃ entry, v.store.keys jti = some entry) → ∃ entry, store.keys jti = some entry) ∧
        v.store.clock ≤ store.clock := by
      rcases Fate.settle_store settled with rfl | ⟨now, reply', answered⟩
      · exact ⟨h.entries, fun _ => id, Int.le_refl _⟩
      · obtain ⟨entries, kept⟩ := h.answered client permitted answered
        obtain ⟨later, ticked, -⟩ := answer_eq_some answered
        exact ⟨entries, kept, ticked ▸ later⟩
    constructor
    · exact entries
    · intro j k' time client' reading
      rcases Discipline.update_client.mp client' with ⟨-, rfl⟩ | ⟨-, old⟩
      · rcases observe_reading reading with told | new
        · exact Int.le_trans (h.readings i k time client told) later
        · cases new
          obtain ⟨now, -, answered⟩ := Fate.settle_ok settled
          obtain ⟨ticked, tick, same⟩ := Option.map_eq_some_iff.mp answered
          obtain ⟨-, rfl⟩ := Store.tick_eq_some.mp tick
          cases same
          exact Int.le_refl _
      · exact Int.le_trans (h.readings j k' time old reading) later
    · intro j k' jti client' named stored
      rcases Discipline.update_client.mp client' with ⟨-, rfl⟩ | ⟨-, old⟩
      · replace named : k.command = .add jti := observe_command.symm.trans named
        rcases observe_stored stored with told | ⟨jti', ttlSeconds, new⟩
        · exact kept jti (h.stored i k jti client named told)
        · cases new
          obtain ⟨asked, -⟩ := permitted jti' ttlSeconds rfl
          cases named.symm.trans asked
          obtain ⟨now, -, answered⟩ := Fate.settle_ok settled
          obtain ⟨ticked, tick, same⟩ := Option.map_eq_some_iff.mp answered
          cases same
          exact ⟨_, Redis.Keyspace.put_self⟩
      · exact kept jti (h.stored j k' jti old named stored)

end

/-! Whole runs. -/

section

variable {exp : Uuid → Int} {w₀ w : World (denylist exp)} {es : List (Event (denylist exp))}

/-- Nobody has called the service yet, and nothing is denied. -/
structure Fresh (w : World (denylist exp)) : Prop where
  threads : w.threads = []
  keys : w.store.keys = .empty

def instant : Fate (denylist exp) → Option Date
  | .answered now | .unheard now _ => some now
  | .lost _ => none

section

variable {fate : Fate (denylist exp)} {c : AuthCall} {store store' : Store}
  {reply : Except Failure c.Reply}

theorem settle_instant {now : Date} (reached : instant fate = some now)
    (h : fate.settle c store = some (reply, store')) :
    ∃ reply', answer now c store = some (reply', store') := by
  cases fate with
  | answered time =>
    cases reached
    exact ⟨reply, h⟩
  | unheard time fault =>
    cases reached
    obtain ⟨settled, answered, same⟩ := Option.map_eq_some_iff.mp h
    cases same
    exact ⟨_, answered⟩
  | lost fault => cases reached

theorem settle_lost (reached : instant fate = none)
    (h : fate.settle c store = some (reply, store')) : store' = store := by
  cases fate with
  | lost fault =>
    cases h
    rfl
  | answered time | unheard time fault => cases reached

end

/-- The `SET` of the entry of the jti is run at `set`, for the client `t`. -/
def Stores (jti : Uuid) (t : Thread (denylist exp)) (set : Date) (w : World (denylist exp))
    (e : Event (denylist exp)) : Prop :=
  ∃ i fate ttlSeconds next, e = .advance i fate ∧ instant fate = some set ∧
    w.threads[i]? = some t ∧ t.rest = .call (AuthCall.redis (.set jti ttlSeconds)) next

theorem Fresh.run (fresh : Fresh w₀) (hrun : w₀.run es = some w) :
    (discipline exp).Holds w ∧ Sound ((discipline exp).view w) := by
  have idle : (discipline exp).Holds w₀ := (discipline exp).holds_of_idle fresh.threads
  refine ⟨(discipline exp).holds_run idle hrun,
    (discipline exp).view_invariant (fun _ _ _ => Sound.step) idle ?_ hrun⟩
  constructor
  · intro jti entry present
    change w₀.store.keys jti = some entry at present
    rw [fresh.keys] at present
    cases present
  · intro i k time client
    obtain ⟨t, thread, -⟩ := (discipline exp).thread_of_client client
    simp [fresh.threads] at thread
  · intro i k jti client
    obtain ⟨t, thread, -⟩ := (discipline exp).thread_of_client client
    simp [fresh.threads] at thread

@[simp] theorem seen_command (t : Thread (denylist exp)) :
    ((discipline exp).seen t).command = t.command :=
  (discipline exp).seen_keeps Knowledge.command (fun _ _ _ => observe_command) t

theorem heard_of_reading {t : Thread (denylist exp)} {time : Date}
    (h : ((discipline exp).seen t).reading = some time) :
    Heard (.runtime .now) (.ok time) ∈ t.heard := by
  obtain ⟨x, mem, rfl⟩ := ((discipline exp).seen_learnt (P := fun k => k.reading = some time)
    (Q := fun x => x = Heard (.runtime .now) (.ok time)) (fun _ _ _ => observe_reading)
    h).resolve_left (by rintro ⟨⟩)
  exact mem

theorem Stores.entry (hholds : (discipline exp).Holds w) (sound : Sound ((discipline exp).view w))
    {w' : World (denylist exp)} {e : Event (denylist exp)} {jti : Uuid} {t : Thread (denylist exp)}
    {set : Date} (hstep : Step w e w') (stores : Stores jti t set w e) :
    ∃ time : Date, Heard (.runtime .now) (.ok time) ∈ t.heard ∧ time ≤ set ∧
      w'.store.keys jti = some ⟨1, some (set + -((time - exp jti * 1000) / 1000) * 1000)⟩ := by
  obtain ⟨i, fate, ttlSeconds, next, rfl, reached, thread, waiting⟩ := stores
  obtain ⟨-, time, reading, rfl⟩ :=
    (discipline exp).permits_of_waiting hholds thread waiting jti ttlSeconds rfl
  have before := sound.readings i _ time ((discipline exp).view_client thread) reading
  refine ⟨time, heard_of_reading reading, ?_⟩
  cases hstep with
  | @resume _ _ u c next' reply store hu waiting' settled =>
    cases thread.symm.trans hu
    cases waiting.symm.trans waiting'
    obtain ⟨reply', answered⟩ := settle_instant reached settled
    obtain ⟨ticked, tick, same⟩ := Option.map_eq_some_iff.mp answered
    obtain ⟨later, rfl⟩ := Store.tick_eq_some.mp tick
    cases same
    exact ⟨Int.le_trans before later, Redis.Keyspace.put_self⟩

/-- Only a `SET` of its own moves an entry. -/
theorem keys_step {w' : World (denylist exp)} {e : Event (denylist exp)} {jti : Uuid}
    (hstep : Step w e w') (other : ∀ t set, ¬ Stores jti t set w e) :
    w'.store.keys jti = w.store.keys jti := by
  cases hstep with
  | join command => rfl
  | @resume i fate t c next reply store thread waiting settled =>
    cases reached : instant fate with
    | none =>
      rw [settle_lost reached settled]
      rfl
    | some now =>
      obtain ⟨reply', answered⟩ := settle_instant reached settled
      obtain ⟨-, -, kept | ⟨jti', ttlSeconds, rfl, put⟩⟩ := answer_eq_some answered
      · exact congrFun kept jti
      · have ne : jti ≠ jti' := by
          rintro rfl
          exact other t now ⟨i, fate, ttlSeconds, next, rfl, reached, thread, waiting⟩
        exact (congrFun put jti).trans (Redis.Keyspace.put_of_ne ne)

theorem keys_run {w' : World (denylist exp)} {jti : Uuid} (hrun : w.run es = some w')
    (other : w.Along es fun w e _ => ∀ t set, ¬ Stores jti t set w e) :
    w'.store.keys jti = w.store.keys jti := by
  refine World.run_induction (P := fun es w' =>
    (w.Along es fun w e _ => ∀ t set, ¬ Stores jti t set w e) →
      w'.store.keys jti = w.store.keys jti) (fun _ => rfl) ?_ es w' hrun other
  intro es e w₁ w₂ hes ih hstep along
  exact (keys_step hstep (along.last hes hstep)).trans (ih along.start)

/-- From the moment `add` has resolved, the token is expired or denied. -/
theorem expired_or_denied (fresh : Fresh w₀) (hrun : w₀.run es = some w) {i : Nat}
    {t : Thread (denylist exp)} {jti : Uuid} {now : Date} (thread : w.threads[i]? = some t)
    (command : t.command = .add jti) (resolved : t.Returned (.ok .added))
    (later : w.store.clock ≤ now) : Expired (exp jti) now ∨ ReportedRevoked w.store jti now := by
  obtain ⟨hholds, sound⟩ := fresh.run hrun
  have client := (discipline exp).view_client thread
  have named : ((discipline exp).seen t).command = .add jti := (seen_command t).trans command
  rcases (discipline exp).accepts_of_returned hholds thread resolved jti named rfl with
    stored | ⟨time, reading, late⟩
  · obtain ⟨entry, present⟩ := sound.stored i _ jti client named stored
    obtain ⟨deadline, expires, outlives⟩ := sound.entries jti entry present
    by_cases live : now ≤ deadline
    · right
      have found : w.store.keys.lookup now jti = some entry :=
        Redis.Keyspace.lookup_live present (by simpa [Redis.Entry.live, expires] using live)
      have tick : w.store.tick now = some ⟨now, w.store.keys⟩ :=
        Store.tick_eq_some.mpr ⟨later, rfl⟩
      have answered : answer now (.redis (.exists jti)) w.store =
          some (.ok true, ⟨now, w.store.keys⟩) := by
        simp only [answer, tick, Option.map_some, found, Option.isSome_some]
      refine ⟨⟨now, w.store.keys⟩, ?_⟩
      change (answer now (.redis (.exists jti)) w.store).bind _ = _
      rw [answered]
      rfl
    · exact .inl (expired_of_le (Int.le_trans outlives (Int.le_of_lt (Int.not_le.mp live))))
  · exact .inl (expired_of_le (Int.le_trans late
      (Int.le_trans (sound.readings i _ time client reading) later)))

/-- An entry is gone a second after the lifetime its token had left has passed. -/
theorem gone_after (fresh : Fresh w₀) {first rest : List (Event (denylist exp))}
    {e : Event (denylist exp)} {w₁ w₂ : World (denylist exp)} {jti : Uuid}
    {t : Thread (denylist exp)} {set : Date} (hfirst : w₀.run first = some w₁)
    (hstep : Step w₁ e w₂) (hrest : w₂.run rest = some w) (stores : Stores jti t set w₁ e)
    (last : w₂.Along rest fun w e _ => ∀ t set, ¬ Stores jti t set w e) :
    ∃ time : Date, Heard (.runtime .now) (.ok time) ∈ t.heard ∧ time ≤ set ∧
      ∀ now, set + (exp jti * 1000 - time) + 1000 ≤ now → w.store.keys.lookup now jti = none := by
  obtain ⟨hholds, sound⟩ := fresh.run hfirst
  obtain ⟨time, told, before, present⟩ := stores.entry hholds sound hstep
  refine ⟨time, told, before, fun now late => ?_⟩
  rw [← keys_run hrest last] at present
  exact Redis.Keyspace.lookup_expired present (Int.lt_of_lt_of_le deadline_lt late)

/-- The entry of a denied token outlives the token, by less than a second. -/
theorem denylist_entry_lifetime (fresh : Fresh w₀) (hrun : w₀.run es = some w) :
    (∀ (i : Nat) (t : Thread (denylist exp)) (jti : Uuid) (now : Date), w.threads[i]? = some t →
      t.command = .add jti → t.Returned (.ok .added) → w.store.clock ≤ now →
      Expired (exp jti) now ∨ ReportedRevoked w.store jti now) ∧
    ∀ first e rest w₁ w₂ (jti : Uuid) (t : Thread (denylist exp)) (set : Date),
      es = first ++ e :: rest → w₀.run first = some w₁ → Step w₁ e w₂ → Stores jti t set w₁ e →
      (w₂.Along rest fun w e _ => ∀ t set, ¬ Stores jti t set w e) →
      ∃ time : Date, Heard (.runtime .now) (.ok time) ∈ t.heard ∧ time ≤ set ∧
        ∀ now, set + (exp jti * 1000 - time) + 1000 ≤ now →
          w.store.keys.lookup now jti = none := by
  constructor
  · intro i t jti now thread command resolved later
    exact expired_or_denied fresh hrun thread command resolved later
  · rintro first e rest w₁ w₂ jti t set rfl hfirst hstep stores last
    obtain ⟨mid, hmid, hcons⟩ := World.run_split hrun
    cases hfirst.symm.trans hmid
    obtain ⟨next, hnext, hrest⟩ := World.run_cons hcons
    cases (World.step_iff.mpr hstep).symm.trans (World.step_iff.mpr hnext)
    exact gone_after fresh hfirst hstep hrest stores last

end

/-! A token that expires at ten seconds, denied in the first one. -/

def sampleWorld : World (denylist fun _ => 10) where
  store := ⟨0, .empty⟩
  threads := []

def denial : List (Event (denylist fun _ => 10)) :=
  [.start (.add "jti-0"), .advance 0 (.answered 500), .advance 0 (.answered 600)]

def denied : World (denylist fun _ => 10) :=
  (sampleWorld.run denial).getD sampleWorld

/-- The client that denies the token, once it has read the clock. -/
def denier : Thread (denylist fun _ => 10) :=
  ((sampleWorld.run (denial.take 2)).bind fun w => w.threads[0]?).getD (.fresh (.add "jti-0"))

theorem denylist_entry_lifetime_sample :
    (∀ now, 600 ≤ now → Expired 10 now ∨ ReportedRevoked denied.store "jti-0" now) ∧
      ∀ now, 11100 ≤ now → denied.store.keys.lookup now "jti-0" = none := by
  have hrun : sampleWorld.run denial = some denied := rfl
  obtain ⟨outlives, gone⟩ := denylist_entry_lifetime ⟨rfl, rfl⟩ hrun
  constructor
  · intro now later
    exact outlives 0 _ "jti-0" now rfl rfl rfl later
  · intro now late
    obtain ⟨time, told, -, lost⟩ := gone (denial.take 2) (.advance 0 (.answered 600)) [] _ denied
      "jti-0" denier 600 rfl rfl (World.step_iff.mp rfl) ⟨0, _, 10, _, rfl, rfl, rfl, rfl⟩
      (by rintro first e rest w₁ w₂ absurd; simp at absurd)
    obtain rfl : time = 500 := by
      have once : denier.heard = [Heard (.runtime .now) (.ok (500 : Int))] := rfl
      rw [once, List.mem_singleton] at told
      cases told
      rfl
    exact lost now late

end TenantOS.Auth.DenylistLifetime
