import TenantOS.Caching.ResponseCache

/-! How long a cached response lives. What Redis holds under the key of a response is the
last thing a request has stored there, for as long as that request asked, unless the key
has been deleted since. -/
namespace TenantOS.Caching

open TenantOS.Interleaving TenantOS.Infrastructure TenantOS.Shared

variable {json : JSON} {digest : HttpCacheInterceptor.Digest}

/-! What a request asks Redis to store, and for how long. -/

/-- The request stores what its handler made, for the time its route is decorated with. -/
structure Asks (digest : HttpCacheInterceptor.Digest) (k : Knowledge json) (key text : String)
    (seconds : Int) : Prop where
  request : ∃ call options, k.command = .request call ∧ call.options = some options ∧
    cacheKey digest call = some key ∧ seconds = options.ttlSeconds
  response : ∃ response, k.produced = some response ∧ json.stringify response = some text

def Lasting (digest : HttpCacheInterceptor.Digest) (k : Knowledge json) : CacheCall → Prop
  | .redis (.setEx key text seconds) =>
      Asks digest k key text seconds ∨ ∃ foreign : CacheKey, key = foreign.text
  | _ => True

def timekeeper (json : JSON) (digest : HttpCacheInterceptor.Digest) :
    Monitor (cacheInterface json) String where
  State := Knowledge json
  observe := Knowledge.observe
  permits := Lasting digest

section

variable {k : Knowledge json}

theorem lasting_get {key : String} {accepts : Knowledge json → Except String (Option json.Value) → Prop}
    (next : ∀ cached, accepts k (.ok cached)) :
    (timekeeper json digest).Conforms accepts k (CacheService.get key) := by
  apply Monitor.Conforms.recover
  refine ⟨trivial, fun reply => ?_⟩
  cases reply with
  | error failure => exact next none
  | ok raw =>
    cases raw with
    | none => exact next none
    | some raw =>
      dsimp only [Program.bind]
      cases json.parse raw with
      | none => exact next none
      | some value => exact next _

theorem lasting_set {key : String} {value : json.Value} {ttlSeconds : Int}
    (own : ∀ text, json.stringify value = some text →
      Lasting digest k (.redis (.setEx key text ttlSeconds))) :
    (timekeeper json digest).Conforms (fun _ _ => True) k (CacheService.set key value ttlSeconds) := by
  apply Monitor.Conforms.recover
  cases stringified : json.stringify value with
  | none => trivial
  | some text =>
    refine ⟨own text stringified, fun reply => ?_⟩
    cases reply with
    | error failure => trivial
    | ok stored => trivial

theorem lasting_uncached :
    (timekeeper json digest).Conforms (fun _ _ => True) k HttpCacheInterceptor.uncached := by
  refine ⟨trivial, fun reply => ?_⟩
  cases reply with
  | error failure => trivial
  | ok response => trivial

theorem lasting_intercept (call : ExecutionContext) :
    (timekeeper json digest).Conforms (fun _ _ => True) ⟨.request call, none⟩
      (HttpCacheInterceptor.intercept digest call) := by
  unfold HttpCacheInterceptor.intercept
  split
  · exact lasting_uncached
  rename_i type
  split
  · exact lasting_uncached
  rename_i options decorated
  split
  · exact lasting_uncached
  rename_i method
  split
  · exact lasting_uncached
  rename_i key built
  apply Monitor.Conforms.bind
  refine lasting_get fun cached => ?_
  cases cached with
  | some value => trivial
  | none =>
    refine ⟨trivial, fun reply => ?_⟩
    cases reply with
    | error failure => trivial
    | ok response =>
      change Monitor.Conforms _ _ _ (CacheService.set key response options.ttlSeconds >>= _)
      apply Monitor.Conforms.bind
      apply Monitor.Conforms.mono _ (lasting_set fun text stringified => ?_)
      · intro state result _
        cases result with
        | error failure => trivial
        | ok stored => trivial
      · exact .inl ⟨⟨call, options, rfl, decorated, cacheKey_of type decorated method built, rfl⟩,
          response, rfl, stringified⟩

end

/-- Nobody stores a response but who asks as the decoration says. -/
def lifetimes (json : JSON) (digest : HttpCacheInterceptor.Digest) :
    Discipline (cache json digest) where
  toMonitor := timekeeper json digest
  initial command := ⟨command, none⟩
  accepts _ _ := True
  conforms := by
    intro command
    cases command with
    | request call =>
      apply Monitor.Conforms.bind
      apply Monitor.Conforms.mono _ (lasting_intercept call)
      intro state result _
      cases result with
      | error failure => trivial
      | ok response => trivial
    | set key value ttlSeconds =>
      apply Monitor.Conforms.bind
      apply Monitor.Conforms.mono _ (lasting_set fun text stringified => ?_)
      · intro state result _
        cases result with
        | error failure => trivial
        | ok stored => trivial
      · exact .inr ⟨key, rfl⟩
    | delete keys =>
      apply Monitor.Conforms.bind
      change (timekeeper json digest).Conforms _ _ (if keys = [] then pure () else _)
      split
      · trivial
      · apply Monitor.Conforms.recover
        refine ⟨trivial, fun reply => ?_⟩
        cases reply with
        | error failure => trivial
        | ok stored => trivial

/-! One step of a schedule. -/

section

variable {w w' : World (cache json digest)} {e : Event (cache json digest)} {key : String}
  {entry : Redis.TextEntry} {call : ExecutionContext}

def timeOf : Fate (cache json digest) → Option Int
  | .answered input | .unheard input _ => some input.now
  | .lost _ => none

structure Storing (w : World (cache json digest)) (e : Event (cache json digest)) (key : String)
    (entry : Redis.TextEntry) (call : ExecutionContext) (written : Int) : Prop where
  own : cacheKey digest call = some key
  expiry : ∃ options, call.options = some options ∧
    entry.expireAt = written + options.ttlSeconds * 1000
  asked : ∃ (j : Nat) (fate : Fate (cache json digest)) (t : Thread (cache json digest)) (seconds : Int)
    (next : Except String Unit → CacheProgram json (Outcome json)),
    e = .advance j fate ∧ timeOf fate = some written ∧ w.threads[j]? = some t ∧
    t.command = .request call ∧ t.rest = .call (.redis (.setEx key entry.value seconds)) next ∧
    ∃ response, Heard .handle (.ok response) ∈ t.heard ∧
      json.stringify response = some entry.value

def Erases (w : World (cache json digest)) (e : Event (cache json digest)) (key : String) : Prop :=
  ∃ (j : Nat) (fate : Fate (cache json digest)) (t : Thread (cache json digest)) (keys : List String)
    (next : Except String Unit → CacheProgram json (Outcome json)),
    e = .advance j fate ∧ (timeOf fate).isSome ∧ w.threads[j]? = some t ∧
    t.rest = .call (.redis (.del keys)) next ∧ key ∈ keys

theorem seen_lifetimes (t : Thread (cache json digest)) :
    (lifetimes json digest).seen t = (discipline json digest).seen t :=
  rfl

/-- An answer leaves the entry where no deletion names it, or stores it. -/
theorem kept_or_stored {input : Input json} {c : CacheCall} {db db' : Redis.Texts}
    {reply : Except String (CacheCall.Reply json c)} (h : answer input c db = some (reply, db'))
    (present : db' key = some entry) :
    (db key = some entry ∧ ∀ keys, c = .redis (.del keys) → key ∉ keys) ∨
      ∃ seconds, c = .redis (.setEx key entry.value seconds) ∧
        entry.expireAt = input.now + seconds * 1000 := by
  cases c with
  | handle =>
    cases h
    exact .inl ⟨present, nofun⟩
  | redis command =>
    cases command with
    | get _ =>
      cases h
      exact .inl ⟨present, nofun⟩
    | setEx other value seconds =>
      change (if seconds ≤ 0 then _ else _) = _ at h
      split at h
      · cases h
        exact .inl ⟨present, nofun⟩
      · cases h
        by_cases same : key = other
        · subst same
          rw [Redis.Texts.setEx, Function.update_self] at present
          cases present
          exact .inr ⟨seconds, rfl, rfl⟩
        · rw [Redis.Texts.setEx, Function.update_of_ne same] at present
          exact .inl ⟨present, nofun⟩
    | del keys =>
      cases h
      refine .inl ⟨Redis.Texts.eq_some_of_del present, ?_⟩
      rintro _ ⟨⟩ mem
      rw [Redis.Texts.del, if_pos mem] at present
      cases present

/-- A response that is there was there, and nobody deleted it, or is stored now. -/
theorem stored_step (holds : (lifetimes json digest).Holds w) (hstep : Step w e w')
    (own : cacheKey digest call = some key) (present : w'.store key = some entry) :
    (w.store key = some entry ∧ ¬ Erases w e key) ∨
      ∃ maker written, Storing w e key entry maker written := by
  cases hstep with
  | join command =>
    refine .inl ⟨present, ?_⟩
    rintro ⟨j, fate, t, keys, next, same, -⟩
    cases same
  | @resume j fate t c next reply store thread waiting settled =>
    have answered {input : Input json} {reply' : Except String (CacheCall.Reply json c)}
        (time : timeOf fate = some input.now) (h : answer input c w.store = some (reply', store)) :
        (w.store key = some entry ∧ ¬ Erases w (.advance j fate) key) ∨
          ∃ maker written, Storing w (.advance j fate) key entry maker written := by
      rcases kept_or_stored h present with ⟨old, spared⟩ | ⟨seconds, rfl, expiry⟩
      · refine .inl ⟨old, ?_⟩
        rintro ⟨j', fate', t', keys, next', same, -, thread', waiting', mem⟩
        cases same
        cases thread.symm.trans thread'
        cases waiting.symm.trans waiting'
        exact spared keys rfl mem
      · have lasting : Lasting digest ((lifetimes json digest).seen t)
            (.redis (.setEx key entry.value seconds)) :=
          (lifetimes json digest).permits_of_waiting holds thread waiting
        rcases lasting with ⟨⟨maker, options, command, decorated, own', rfl⟩, response, produced,
          stringified⟩ | ⟨foreign, taken⟩
        · rw [seen_lifetimes] at command produced
          rw [seen_command] at command
          exact .inr ⟨maker, input.now, own', ⟨options, decorated, expiry⟩, j, fate, t, _, next, rfl,
            time, thread, command, waiting, response, heard_of_produced produced, stringified⟩
        · exact absurd taken (text_ne own foreign)
    cases fate with
    | lost fault =>
      cases Option.some.inj settled
      refine .inl ⟨present, ?_⟩
      rintro ⟨j', fate', t', keys, next', same, ran, -⟩
      cases same
      cases ran
    | answered input => exact answered rfl settled
    | unheard input fault =>
      obtain ⟨⟨reply', settled'⟩, hanswer, heq⟩ := Option.map_eq_some_iff.mp settled
      cases heq
      exact answered rfl hanswer

end

/-! Whole runs. -/

def LastStored (w₀ : World (cache json digest)) (es : List (Event (cache json digest)))
    (key : String) (entry : Redis.TextEntry) (call : ExecutionContext) (written : Int) : Prop :=
  ∃ before e rest w₁ w₂, es = before ++ e :: rest ∧ w₀.run before = some w₁ ∧ Step w₁ e w₂ ∧
    Storing w₁ e key entry call written ∧ w₂.Along rest fun w e _ => ¬ Erases w e key

section

variable {w₀ w : World (cache json digest)} {es : List (Event (cache json digest))}

theorem LastStored.lifetime {key : String} {entry : Redis.TextEntry} {call : ExecutionContext}
    {written : Int} (h : LastStored w₀ es key entry call written) :
    cacheKey digest call = some key ∧ ∃ options, call.options = some options ∧
      entry.expireAt = written + options.ttlSeconds * 1000 := by
  obtain ⟨_, _, _, _, _, -, -, -, stored, -⟩ := h
  exact ⟨stored.own, stored.expiry⟩

theorem last_stored (fresh : Fresh w₀) (hrun : w₀.run es = some w) {key : String}
    {entry : Redis.TextEntry} (present : w.store key = some entry) {call : ExecutionContext}
    (own : cacheKey digest call = some key) :
    ∃ maker written, LastStored w₀ es key entry maker written := by
  refine World.run_induction (P := fun es (w : World (cache json digest)) =>
    w.store key = some entry → ∃ maker written, LastStored w₀ es key entry maker written)
    ?_ ?_ es w hrun present
  · intro present
    cases (fresh.responses key call own).symm.trans present
  · intro es e w w' hes ih hstep present
    have holds := (lifetimes json digest).holds_run
      ((lifetimes json digest).holds_of_idle fresh.threads) hes
    rcases stored_step holds hstep own present with ⟨old, spared⟩ | ⟨maker, written, storing⟩
    · obtain ⟨maker, written, before, x, rest, w₁, w₂, rfl, hbefore, hx, storing, kept⟩ := ih old
      obtain ⟨mid, hmid, hrest⟩ := World.run_split hes
      cases hbefore.symm.trans hmid
      obtain ⟨mid', hmid', hrest⟩ := World.run_cons hrest
      obtain rfl : w₂ = mid' :=
        Option.some.inj ((World.step_iff.mpr hx).symm.trans (World.step_iff.mpr hmid'))
      exact ⟨maker, written, before, x, rest ++ [e], w₁, w₂, by simp, hbefore, hx, storing,
        kept.snoc hrest hstep spared⟩
    · exact ⟨maker, written, es, e, [], w, w', rfl, hes, hstep, storing, World.Along.nil⟩

/-- The client was answered with what another request, or itself before, had stored; not
later than that request asked for, and not past a deletion. -/
structure ServedInTime (w₀ : World (cache json digest)) (es : List (Event (cache json digest)))
    (i : Nat) (call : ExecutionContext) (value : json.Value) : Prop where
  moment : ∃ (before : List (Event (cache json digest))) (fate : Fate (cache json digest))
    (read written : Int) (key : String) (entry : Redis.TextEntry) (maker : ExecutionContext)
    (options : CacheResponseOptions), before ++ [.advance i fate] <+: es ∧ timeOf fate = some read ∧
    cacheKey digest call = some key ∧ cacheKey digest maker = some key ∧
    maker.options = some options ∧ LastStored w₀ before key entry maker written ∧
    read ≤ written + options.ttlSeconds * 1000 ∧ json.parse entry.value = some value

theorem cached_response_in_time (fresh : Fresh w₀) (hrun : w₀.run es = some w) {i : Nat}
    {t : Thread (cache json digest)} {call : ExecutionContext} {value : json.Value}
    (thread : w.threads[i]? = some t) (command : t.command = .request call)
    (served : t.Returned (.ok (.served (.cached value)))) : ServedInTime w₀ es i call value := by
  have ended := World.ends_run (S := cache json digest) ends_body fresh.threads hrun thread
  rw [served] at ended
  obtain ⟨key, raw, own, parsed, told⟩ := ended call value command rfl
  obtain ⟨before, w₁, fate, u, store, settled, -⟩ :=
    World.settledAt_of_heard fresh.threads hrun thread told
  obtain ⟨input, rfl, answered⟩ := Fate.settle_ok settled.settled
  have found : Redis.Texts.get w₁.store input.now key = some raw :=
    Except.ok.inj (congrArg Prod.fst (Option.some.inj answered))
  obtain ⟨entry, live, rfl⟩ := Option.map_eq_some_iff.mp found
  obtain ⟨present, unexpired⟩ := Option.filter_eq_some_iff.mp live
  obtain ⟨maker, written, last⟩ := last_stored fresh settled.run present own
  obtain ⟨own', options, decorated, expiry⟩ := last.lifetime
  refine ⟨before, .answered input, input.now, written, key, entry, maker, options, settled.within,
    rfl, own, own', decorated, last, ?_, parsed⟩
  rw [← expiry]
  exact of_decide_eq_true unexpired

end

/-! The second reader above is answered within the minute. -/

theorem cached_response_in_time_sample :
    ServedInTime sampleCache readTwice 1 (profile (some ann)) "ann's profile" :=
  cached_response_in_time (w := afterReads) ⟨rfl, fun _ _ _ => rfl⟩ rfl rfl rfl rfl

end TenantOS.Caching
