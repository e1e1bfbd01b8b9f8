import TenantOS.Infrastructure.HttpCacheInterceptor
import TenantOS.Interleaving.History
import Mathlib.Data.Set.Function

/-! Cached responses stay with those they were made for: any number of requests under
way over one Redis, which the rest of the application uses as well. -/
namespace TenantOS.Caching

open TenantOS.Interleaving TenantOS.Infrastructure TenantOS.Shared

variable {digest : HttpCacheInterceptor.Digest}

def cacheKey (digest : HttpCacheInterceptor.Digest) (call : ExecutionContext) : Option String :=
  if call.type = "http" ∧ call.method = "GET" then
    call.options.bind (HttpCacheInterceptor.buildKey digest call)
  else none

def identified (call : ExecutionContext) : CacheScope → Bool
  | .user => (call.context.bind RequestContext.userId).isSome
  | .tenant => (call.context.bind RequestContext.tenantId).isSome
  | .public => true

/-- Two GETs of one URL, under the same scope, by whom the scope does not tell apart. -/
structure Shares (call other : ExecutionContext) : Prop where
  method : call.method = "GET" ∧ other.method = "GET"
  originalUrl : call.originalUrl = other.originalUrl
  scope : call.options.map CacheResponseOptions.scope = other.options.map CacheResponseOptions.scope
  user : call.options.map CacheResponseOptions.scope = some .user →
    ∃ id, call.context.bind RequestContext.userId = some id ∧
      other.context.bind RequestContext.userId = some id
  tenant : call.options.map CacheResponseOptions.scope = some .tenant →
    ∃ id, call.context.bind RequestContext.tenantId = some id ∧
      other.context.bind RequestContext.tenantId = some id

/-- An identity is the mark of its scope, and the uuid of the caller where the scope has one. -/
inductive Identifies (call : ExecutionContext) : CacheScope → String → Prop where
  | user {id : String} (present : call.context.bind RequestContext.userId = some id)
      (length : id.toList.length = 36) : Identifies call .user ("u:" ++ id)
  | tenant {id : String} (present : call.context.bind RequestContext.tenantId = some id)
      (length : id.toList.length = 36) : Identifies call .tenant ("t:" ++ id)
  | «public» : Identifies call .public "public"

theorem identifies_of_identity {call : ExecutionContext} {scope : CacheScope} {text : String}
    (h : HttpCacheInterceptor.identity call scope = some text) : Identifies call scope text := by
  cases scope with
  | user =>
    obtain ⟨context, here, rest⟩ := Option.bind_eq_some_iff.mp h
    obtain ⟨id, userId, rest⟩ := Option.bind_eq_some_iff.mp rest
    split at rest
    · cases rest
    · cases rest
      exact .user (by rw [here]; exact userId) (length_of_isUuid (context.userId_uuid id userId))
  | tenant =>
    obtain ⟨context, here, rest⟩ := Option.bind_eq_some_iff.mp h
    obtain ⟨id, tenantId, rest⟩ := Option.bind_eq_some_iff.mp rest
    split at rest
    · cases rest
    · cases rest
      exact .tenant (by rw [here]; exact tenantId)
        (length_of_isUuid (context.tenantId_uuid id tenantId))
  | «public» =>
    cases h
    exact .public

theorem cacheKey_eq_some {call : ExecutionContext} {key : String}
    (h : cacheKey digest call = some key) :
    call.method = "GET" ∧ ∃ options text, call.options = some options ∧
      Identifies call options.scope text ∧
      key = "v1:res:" ++ text ++ ":" ++ HttpCacheInterceptor.urlHash digest call.originalUrl := by
  unfold cacheKey at h
  split at h
  · rename_i served
    obtain ⟨options, decorated, built⟩ := Option.bind_eq_some_iff.mp h
    obtain ⟨text, identity, rfl⟩ := Option.map_eq_some_iff.mp built
    exact ⟨served.2, options, text, decorated, identifies_of_identity identity, rfl⟩
  · cases h

theorem key_inj {text text' url url' : String}
    (h : "v1:res:" ++ text ++ ":" ++ url = "v1:res:" ++ text' ++ ":" ++ url') :
    text.toList ++ ':' :: url.toList = text'.toList ++ ':' :: url'.toList := by
  have parts := congrArg String.toList h
  simpa [String.toList_append] using parts

theorem key_inj_of_length {mark id id' url url' : String} (length : id.toList.length = 36)
    (length' : id'.toList.length = 36)
    (h : "v1:res:" ++ (mark ++ id) ++ ":" ++ url = "v1:res:" ++ (mark ++ id') ++ ":" ++ url') :
    id = id' ∧ url = url' := by
  have parts := key_inj h
  rw [String.toList_append, String.toList_append, List.append_assoc, List.append_assoc,
    List.append_cancel_left_eq] at parts
  obtain ⟨ids, rest⟩ := List.append_inj parts (length.trans length'.symm)
  exact ⟨String.toList_inj.mp ids, String.toList_inj.mp (List.cons.inj rest).2⟩

theorem shares_of_cacheKey {call other : ExecutionContext} {key : String}
    (apart : HttpCacheInterceptor.urlHash digest call.originalUrl =
      HttpCacheInterceptor.urlHash digest other.originalUrl → call.originalUrl = other.originalUrl)
    (h : cacheKey digest call = some key) (h' : cacheKey digest other = some key) :
    Shares call other := by
  obtain ⟨method, ⟨ttlSeconds, scope⟩, text, decorated, named, rfl⟩ := cacheKey_eq_some h
  obtain ⟨method', ⟨ttlSeconds', scope'⟩, text', decorated', named', same⟩ := cacheKey_eq_some h'
  have scopeOf {call : ExecutionContext} {ttlSeconds : Int} {scope : CacheScope}
      (decorated : call.options = some ⟨ttlSeconds, scope⟩) :
      call.options.map CacheResponseOptions.scope = some scope := by
    rw [decorated]
    rfl
  have scopes := scopeOf decorated
  have scopes' := scopeOf decorated'
  have marks := key_inj same
  cases named with
  | user present length =>
    cases named' with
    | user present' length' =>
      obtain ⟨rfl, urls⟩ := key_inj_of_length length length' same
      refine ⟨⟨method, method'⟩, apart urls, scopes.trans scopes'.symm,
        fun _ => ⟨_, present, present'⟩, fun tenant => ?_⟩
      cases scopes.symm.trans tenant
    | tenant => simp [String.toList_append] at marks
    | «public» => simp [String.toList_append] at marks
  | tenant present length =>
    cases named' with
    | tenant present' length' =>
      obtain ⟨rfl, urls⟩ := key_inj_of_length length length' same
      refine ⟨⟨method, method'⟩, apart urls, scopes.trans scopes'.symm, fun user => ?_,
        fun _ => ⟨_, present, present'⟩⟩
      cases scopes.symm.trans user
    | user => simp [String.toList_append] at marks
    | «public» => simp [String.toList_append] at marks
  | «public» =>
    cases named' with
    | «public» =>
      refine ⟨⟨method, method'⟩, apart ?_, scopes.trans scopes'.symm, fun user => ?_,
        fun tenant => ?_⟩
      · have rest := List.append_cancel_left marks
        exact String.toList_inj.mp (List.cons.inj rest).2
      · cases scopes.symm.trans user
      · cases scopes.symm.trans tenant
    | user => simp [String.toList_append] at marks
    | tenant => simp [String.toList_append] at marks

/-! The requests, and whoever else uses the service. -/

variable {json : JSON}

inductive Command (json : JSON) where
  | request (call : ExecutionContext)
  | set (key : CacheKey) (value : json.Value) (ttlSeconds : Int)
  | delete (keys : List String)

inductive Outcome (json : JSON) where
  | served (response : HttpCacheInterceptor.Served json)
  | done

structure Input (json : JSON) where
  now : Int
  response : json.Value

def answer (input : Input json) :
    (c : CacheCall) → Redis.Texts → Option (Except String (CacheCall.Reply json c) × Redis.Texts)
  | .redis (.get key), db => some (.ok (db.get input.now key), db)
  | .redis (.setEx key value seconds), db =>
      if seconds ≤ 0 then some (.error "ERR invalid expire time in 'set' command", db)
      else some (.ok (), db.setEx input.now key value seconds)
  | .redis (.del keys), db => some (.ok (), db.del keys)
  | .handle, db => some (.ok input.response, db)

def body (digest : HttpCacheInterceptor.Digest) : Command json → CacheProgram json (Outcome json)
  | .request call => do
    let response ← HttpCacheInterceptor.intercept digest call
    pure (.served response)
  | .set key value ttlSeconds => do
    CacheService.set key.text value ttlSeconds
    pure .done
  | .delete keys => do
    CacheService.delete keys
    pure .done

abbrev cache (json : JSON) (digest : HttpCacheInterceptor.Digest) : System where
  interface := cacheInterface json
  Failure := String
  Fault := String
  raise := id
  Outcome := Outcome json
  Command := Command json
  Store := Redis.Texts
  Input := Input json
  body := body digest
  answer := answer

/-! What each client knows, and what it may ask for then. -/

structure Knowledge (json : JSON) where
  command : Command json
  produced : Option json.Value

def Knowledge.observe (k : Knowledge json) :
    (c : CacheCall) → Except String (CacheCall.Reply json c) → Knowledge json
  | .handle, .ok response => ⟨k.command, some response⟩
  | _, _ => k

/-- A request reads its own key, and writes there what its handler has made of it. -/
def Permitted (digest : HttpCacheInterceptor.Digest) (k : Knowledge json) : CacheCall → Prop
  | .redis (.get key) => ∃ call, k.command = .request call ∧ cacheKey digest call = some key
  | .redis (.setEx key text _) =>
      (∃ call value, k.command = .request call ∧ cacheKey digest call = some key ∧
        k.produced = some value ∧ json.stringify value = some text) ∨
      ∃ foreign value ttlSeconds, k.command = .set foreign value ttlSeconds ∧ key = foreign.text
  | .redis (.del keys) => k.command = .delete keys
  | .handle => k.produced = none

def monitor (json : JSON) (digest : HttpCacheInterceptor.Digest) :
    Monitor (cacheInterface json) String where
  State := Knowledge json
  observe := Knowledge.observe
  permits := Permitted digest

theorem cacheKey_of {call : ExecutionContext} {options : CacheResponseOptions} {key : String}
    (type : ¬ call.type ≠ "http") (decorated : call.options = some options)
    (method : ¬ call.method ≠ "GET")
    (built : HttpCacheInterceptor.buildKey digest call options = some key) :
    cacheKey digest call = some key := by
  rw [cacheKey, if_pos ⟨not_not.mp type, not_not.mp method⟩, decorated]
  exact built

section

variable {k : Knowledge json} {α : Type} {accepts : Knowledge json → Except String α → Prop}
  {call : ExecutionContext} {key : String}

theorem conforms_get {accepts : Knowledge json → Except String (Option json.Value) → Prop}
    (own : Permitted digest k (.redis (.get key))) (next : ∀ cached, accepts k (.ok cached)) :
    (monitor json digest).Conforms accepts k (CacheService.get key) := by
  apply Monitor.Conforms.recover
  refine ⟨own, fun reply => ?_⟩
  cases reply with
  | error failure => exact next none
  | ok raw =>
    cases raw with
    | none => exact next none
    | some raw =>
      dsimp only [Program.bind]
      cases json.parse raw with
      | none => exact next none
      | some value => exact next _

theorem conforms_set {accepts : Knowledge json → Except String Unit → Prop} {value : json.Value}
    {ttlSeconds : Int}
    (own : ∀ text, json.stringify value = some text →
      Permitted digest k (.redis (.setEx key text ttlSeconds))) (next : accepts k (.ok ())) :
    (monitor json digest).Conforms accepts k (CacheService.set key value ttlSeconds) := by
  apply Monitor.Conforms.recover
  cases stringified : json.stringify value with
  | none => exact next
  | some text =>
    refine ⟨own text stringified, fun reply => ?_⟩
    cases reply with
    | error failure => exact next
    | ok stored => exact next

theorem conforms_uncached (unproduced : k.produced = none) :
    (monitor json digest).Conforms (fun _ _ => True) k HttpCacheInterceptor.uncached := by
  refine ⟨unproduced, fun reply => ?_⟩
  cases reply with
  | error failure => trivial
  | ok response => trivial

theorem conforms_intercept (call : ExecutionContext) :
    (monitor json digest).Conforms (fun _ _ => True) ⟨.request call, none⟩
      (HttpCacheInterceptor.intercept digest call) := by
  unfold HttpCacheInterceptor.intercept
  split
  · exact conforms_uncached rfl
  rename_i type
  split
  · exact conforms_uncached rfl
  rename_i options decorated
  split
  · exact conforms_uncached rfl
  rename_i method
  split
  · exact conforms_uncached rfl
  rename_i key built
  have own := cacheKey_of type decorated method built
  apply Monitor.Conforms.bind
  refine conforms_get ⟨call, rfl, own⟩ fun cached => ?_
  cases cached with
  | some value => trivial
  | none =>
    refine ⟨rfl, fun reply => ?_⟩
    cases reply with
    | error failure => trivial
    | ok response =>
      change Monitor.Conforms _ _ _ (CacheService.set key response options.ttlSeconds >>= _)
      apply Monitor.Conforms.bind
      refine conforms_set (fun text stringified => ?_) ?_
      · exact .inl ⟨call, response, rfl, own, rfl, stringified⟩
      · trivial

end

def discipline (json : JSON) (digest : HttpCacheInterceptor.Digest) :
    Discipline (cache json digest) where
  toMonitor := monitor json digest
  initial command := ⟨command, none⟩
  accepts _ _ := True
  conforms := by
    intro command
    cases command with
    | request call =>
      apply Monitor.Conforms.bind
      apply Monitor.Conforms.mono _ (conforms_intercept call)
      intro state result _
      cases result with
      | error failure => trivial
      | ok response => trivial
    | set key value ttlSeconds =>
      apply Monitor.Conforms.bind
      refine conforms_set (fun text stringified => ?_) ?_
      · exact .inr ⟨key, value, ttlSeconds, rfl, rfl⟩
      · trivial
    | delete keys =>
      apply Monitor.Conforms.bind
      change (monitor json digest).Conforms _ _ (if keys = [] then pure () else _)
      split
      · trivial
      · apply Monitor.Conforms.recover
        refine ⟨rfl, fun reply => ?_⟩
        cases reply with
        | error failure => trivial
        | ok stored => trivial

theorem text_ne {call : ExecutionContext} {key : String} (h : cacheKey digest call = some key)
    (foreign : CacheKey) : key ≠ foreign.text := by
  obtain ⟨-, options, text, -, -, rfl⟩ := cacheKey_eq_some h
  intro same
  have letters := congrArg (fun text : String => text.toList[3]?) same
  cases foreign <;>
    simp [CacheKey.text, CacheKey.key, CacheKey.schemaVersion, String.toList_append] at letters

/-! What the entries are. -/

section

variable {v v' : (discipline json digest).View} {e : Event (cache json digest)}

/-- Some request that has the key has made this text of what its handler gave. -/
def Made (v : (discipline json digest).View) (key text : String) : Prop :=
  ∃ i k call value, v.clients i = some k ∧ k.command = .request call ∧
    cacheKey digest call = some key ∧ k.produced = some value ∧ json.stringify value = some text

/-- Every entry under the key of a response was made by a request. -/
def Sound (v : (discipline json digest).View) : Prop :=
  ∀ key entry, v.store key = some entry → ∀ call, cacheKey digest call = some key →
    Made v key entry.value

theorem observe_command {k : Knowledge json} {c : CacheCall}
    {reply : Except String (CacheCall.Reply json c)} : (k.observe c reply).command = k.command := by
  unfold Knowledge.observe
  split <;> rfl

theorem observe_learns {k : Knowledge json} {c : CacheCall} {value : json.Value}
    {reply : Except String (CacheCall.Reply json c)}
    (h : (k.observe c reply).produced = some value) :
    k.produced = some value ∨
      (⟨c, reply⟩ : Exchange (cacheInterface json) String) = ⟨.handle, .ok value⟩ := by
  unfold Knowledge.observe at h
  split at h
  · cases h
    exact .inr rfl
  · exact .inl h

theorem observe_produced {k : Knowledge json} {c : CacheCall} {value : json.Value}
    {reply : Except String (CacheCall.Reply json c)} (permitted : Permitted digest k c)
    (h : k.produced = some value) : (k.observe c reply).produced = some value := by
  unfold Knowledge.observe
  split
  · cases permitted.symm.trans h
  · exact h

theorem Made.step {key text : String} (h : Made v key text)
    (hstep : Discipline.View.Step (discipline json digest) v e v') : Made v' key text := by
  obtain ⟨i, k, call, value, client, command, own, produced, stringified⟩ := h
  cases hstep with
  | @join n command' free =>
    refine ⟨i, k, call, value, Discipline.update_client.mpr (.inr ⟨?_, client⟩), command, own,
      produced, stringified⟩
    rintro rfl
    cases free.symm.trans client
  | @settle j fate k' c reply store client' permitted settled =>
    by_cases same : i = j
    · subst same
      cases client.symm.trans client'
      exact ⟨i, k.observe c reply, call, value, Discipline.update_client.mpr (.inl ⟨rfl, rfl⟩),
        observe_command.trans command, own, observe_produced permitted produced, stringified⟩
    · exact ⟨i, k, call, value, Discipline.update_client.mpr (.inr ⟨same, client⟩), command, own,
        produced, stringified⟩

/-- What an answer leaves in Redis was there, or is what was asked to be stored. -/
theorem answer_eq_some {input : Input json} {c : CacheCall} {db db' : Redis.Texts}
    {reply : Except String (CacheCall.Reply json c)} (h : answer input c db = some (reply, db'))
    {key : String} {entry : Redis.TextEntry} (present : db' key = some entry) :
    db key = some entry ∨ ∃ seconds, c = .redis (.setEx key entry.value seconds) := by
  match c with
  | .redis (.get _) =>
    cases h
    exact .inl present
  | .redis (.setEx other value seconds) =>
    change (if seconds ≤ 0 then _ else _) = _ at h
    split at h
    · cases h
      exact .inl present
    · cases h
      rcases Redis.Texts.eq_some_of_setEx present with ⟨rfl, rfl⟩ | old
      · exact .inr ⟨seconds, rfl⟩
      · exact .inl old
  | .redis (.del keys) =>
    cases h
    exact .inl (Redis.Texts.eq_some_of_del present)
  | .handle =>
    cases h
    exact .inl present

theorem Sound.step (h : Sound v)
    (hstep : Discipline.View.Step (discipline json digest) v e v') : Sound v' := by
  intro key entry present call own
  have old (before : v.store key = some entry) : Made v' key entry.value :=
    (h key entry before call own).step hstep
  have hstep' := hstep
  cases hstep with
  | join command free => exact old present
  | @settle i fate k c reply store client permitted settled =>
    rcases Fate.settle_store settled with rfl | ⟨input, reply', answered⟩
    · exact old present
    · rcases answer_eq_some answered present with before | ⟨seconds, rfl⟩
      · exact old before
      · rcases permitted with ⟨call', value, command, own', produced, stringified⟩ |
          ⟨foreign, value, ttlSeconds, -, taken⟩
        · have made : Made v key entry.value :=
            ⟨i, k, call', value, client, command, own', produced, stringified⟩
          exact made.step hstep'
        · exact absurd taken (text_ne own foreign)

end

/-! What a cached response was read from. -/

section

variable {call : ExecutionContext} {key : String}

abbrev Heard (c : CacheCall) (reply : Except String (CacheCall.Reply json c)) :
    Exchange (cacheInterface json) String :=
  ⟨c, reply⟩

def Reads (digest : HttpCacheInterceptor.Digest) (call : ExecutionContext)
    (heard : List (Exchange (cacheInterface json) String)) (value : json.Value) : Prop :=
  ∃ key raw, cacheKey digest call = some key ∧ json.parse raw = some value ∧
    Heard (.redis (.get key)) (.ok (some raw)) ∈ heard

theorem ends_get : (CacheService.get key : CacheProgram json (Option json.Value)).Ends
    (fun heard result => ∀ value, result = .ok (some value) → ∃ raw,
      json.parse raw = some value ∧ Heard (.redis (.get key)) (.ok (some raw)) ∈ heard) [] := by
  apply Program.Ends.recover
  intro reply
  cases reply with
  | error failure => exact nofun
  | ok raw =>
    cases raw with
    | none => exact nofun
    | some raw =>
      dsimp only [Program.bind]
      cases parsed : json.parse raw with
      | none => exact nofun
      | some value =>
        intro value' same
        have kept : (if json.isNull value then none else some value) = some value' :=
          Except.ok.inj same
        split at kept
        · cases kept
        · cases kept
          exact ⟨raw, parsed, List.mem_singleton_self _⟩

theorem ends_handled {next : json.Value → CacheProgram json (HttpCacheInterceptor.Served json)}
    {heard : List (Exchange (cacheInterface json) String)}
    (handled : ∀ response heard, (next response).Ends (fun heard result => ∀ value,
      result = .ok (.cached value) → Reads digest call heard value) heard) :
    (HttpCacheInterceptor.handle >>= next).Ends (fun heard result => ∀ value,
      result = .ok (.cached value) → Reads digest call heard value) heard :=
  Program.ends_perform_bind (fun response => handled response _) fun _ => nofun

theorem ends_intercept (call : ExecutionContext) :
    (HttpCacheInterceptor.intercept digest call : CacheProgram json _).Ends
      (fun heard result => ∀ value, result = .ok (.cached value) →
        Reads digest call heard value) [] := by
  have uncached : (HttpCacheInterceptor.uncached : CacheProgram json _).Ends
      (fun heard result => ∀ value, result = .ok (.cached value) →
        Reads digest call heard value) [] := ends_handled fun _ _ => nofun
  unfold HttpCacheInterceptor.intercept
  split
  · exact uncached
  rename_i type
  split
  · exact uncached
  rename_i options decorated
  split
  · exact uncached
  rename_i method
  split
  · exact uncached
  rename_i key built
  have own := cacheKey_of type decorated method built
  apply Program.Ends.bind
  refine ends_get.mono fun heard result read => ?_
  cases result with
  | error failure => exact nofun
  | ok cached =>
    cases cached with
    | some value =>
      intro value' same
      cases same
      obtain ⟨raw, parsed, told⟩ := read value rfl
      exact ⟨key, raw, own, parsed, told⟩
    | none =>
      refine ends_handled fun response heard => ?_
      apply Program.Ends.bind
      apply Program.ends_of_forall
      intro heard result
      cases result with
      | error failure => exact nofun
      | ok stored => exact nofun

theorem ends_body (command : Command json) :
    (body digest command).Ends (fun heard result => ∀ call value, command = .request call →
      result = .ok (.served (.cached value)) → Reads digest call heard value) [] := by
  cases command with
  | request call =>
    apply Program.Ends.bind
    refine (ends_intercept call).mono fun heard result reads => ?_
    cases result with
    | error failure => exact nofun
    | ok response =>
      intro call' value same served
      cases same
      cases served
      exact reads value rfl
  | set | delete => exact Program.ends_of_forall fun _ _ _ _ => nofun

end

/-! Whole runs. -/

section

variable {w₀ w : World (cache json digest)} {es : List (Event (cache json digest))}

structure Fresh (w : World (cache json digest)) : Prop where
  threads : w.threads = []
  responses : ∀ key call, cacheKey digest call = some key → w.store key = none

theorem Fresh.run (fresh : Fresh w₀) (hrun : w₀.run es = some w) :
    (discipline json digest).Holds w ∧ Sound ((discipline json digest).view w) := by
  have idle : (discipline json digest).Holds w₀ :=
    (discipline json digest).holds_of_idle fresh.threads
  refine ⟨(discipline json digest).holds_run idle hrun,
    (discipline json digest).view_invariant (fun _ _ _ => Sound.step) idle ?_ hrun⟩
  intro key entry present call own
  cases (fresh.responses key call own).symm.trans present

theorem heard_of_produced {t : Thread (cache json digest)} {value : json.Value}
    (h : ((discipline json digest).seen t).produced = some value) :
    Heard .handle (.ok value) ∈ t.heard := by
  obtain ⟨x, mem, rfl⟩ := ((discipline json digest).seen_learnt
    (P := fun k => k.produced = some value) (Q := fun x => x = Heard .handle (.ok value))
    (fun _ _ _ => observe_learns) h).resolve_left (by rintro ⟨⟩)
  exact mem

@[simp] theorem seen_command (t : Thread (cache json digest)) :
    ((discipline json digest).seen t).command = t.command :=
  (discipline json digest).seen_keeps Knowledge.command (fun _ _ _ => observe_command) t

def urls (es : List (Event (cache json digest))) : Set String :=
  {url | ∃ call : ExecutionContext, .start (.request call) ∈ es ∧ call.originalUrl = url}

theorem urls_mono {first : List (Event (cache json digest))} (le : first <+: es) :
    urls first ⊆ urls es := by
  rintro url ⟨call, start, same⟩
  exact ⟨call, le.subset start, same⟩

theorem mem_urls (fresh : Fresh w₀) (hrun : w₀.run es = some w) {i : Nat}
    {t : Thread (cache json digest)} {call : ExecutionContext} (thread : w.threads[i]? = some t)
    (command : t.command = .request call) : call.originalUrl ∈ urls es := by
  have start := World.start_mem fresh.threads hrun thread
  rw [command] at start
  exact ⟨call, start, rfl⟩

/-- A response out of the cache was made by a request that shares it, and had been before it
was read. -/
def ServedFrom (w₀ : World (cache json digest)) (es : List (Event (cache json digest))) (i : Nat)
    (call : ExecutionContext) (value : json.Value) : Prop :=
  ∃ before w₁, before <+: es ∧ w₀.run before = some w₁ ∧
    (∃ u : Thread (cache json digest), w₁.threads[i]? = some u ∧ ∀ result, ¬ u.Returned result) ∧
    ∃ (j : Nat) (t : Thread (cache json digest)) (other : ExecutionContext) (response : json.Value)
      (text : String), w₁.threads[j]? = some t ∧ t.command = .request other ∧
      Heard .handle (.ok response) ∈ t.heard ∧ Shares other call ∧
      json.stringify response = some text ∧ json.parse text = some value

theorem served_from (injective : Set.InjOn (HttpCacheInterceptor.urlHash digest) (urls es))
    (fresh : Fresh w₀) (hrun : w₀.run es = some w) {i : Nat} {t : Thread (cache json digest)}
    {call : ExecutionContext} {value : json.Value} (thread : w.threads[i]? = some t)
    (command : t.command = .request call) (served : t.Returned (.ok (.served (.cached value)))) :
    ServedFrom w₀ es i call value := by
  have ended := World.ends_run (S := cache json digest) ends_body fresh.threads hrun thread
  rw [served] at ended
  obtain ⟨key, raw, own, parsed, told⟩ := ended call value command rfl
  obtain ⟨before, w₁, fate, u, store, settled, -⟩ :=
    World.settledAt_of_heard fresh.threads hrun thread told
  obtain ⟨input, -, answered⟩ := Fate.settle_ok settled.settled
  have found : Redis.Texts.get w₁.store input.now key = some raw :=
    Except.ok.inj (congrArg Prod.fst (Option.some.inj answered))
  obtain ⟨entry, present, rfl⟩ := Redis.Texts.eq_some_of_get found
  -- the entry was made by a request that is there already
  obtain ⟨j, k, other, response, client, asked, own', produced, stringified⟩ :=
    (fresh.run settled.run).2 key entry present call own
  obtain ⟨maker, hmaker, rfl⟩ := (discipline json digest).thread_of_client client
  have le : before <+: es := (List.prefix_append before _).trans settled.within
  rw [seen_command] at asked
  have shares : Shares other call := by
    refine shares_of_cacheKey (fun same => injective ?_ ?_ same) own' own
    · exact urls_mono le (mem_urls fresh settled.run hmaker asked)
    · exact mem_urls fresh hrun thread command
  refine ⟨before, w₁, le, settled.run, ⟨u, settled.thread, ?_⟩, j, maker, other, response,
    entry.value, hmaker, asked, heard_of_produced produced, shares, stringified, parsed⟩
  intro result returned
  obtain ⟨next, waiting⟩ := settled.waiting
  rw [Thread.Returned, waiting] at returned
  cases returned

theorem identity_of_unidentified {call : ExecutionContext} {scope : CacheScope}
    (h : identified call scope = false) : HttpCacheInterceptor.identity call scope = none := by
  cases named : HttpCacheInterceptor.identity call scope with
  | none => rfl
  | some text =>
    cases identifies_of_identity named with
    | user present => simp [identified, present] at h
    | tenant present => simp [identified, present] at h
    | «public» => cases h

/-- A request without the identity its scope asks for is never at Redis. -/
theorem unidentified_offline (fresh : Fresh w₀) (hrun : w₀.run es = some w) {i : Nat}
    {t : Thread (cache json digest)} {call : ExecutionContext} {options : CacheResponseOptions}
    (thread : w.threads[i]? = some t) (command : t.command = .request call)
    (decorated : call.options = some options) (unnamed : identified call options.scope = false)
    (c : RedisCall) (next : Except String (CacheCall.Reply json (.redis c)) →
      CacheProgram json (Outcome json)) : t.rest ≠ .call (CacheCall.redis c) next := by
  intro waiting
  have keyless : cacheKey digest call = none := by
    cases own : cacheKey digest call with
    | none => rfl
    | some key =>
      unfold cacheKey at own
      split at own
      · rw [decorated, Option.bind_some, HttpCacheInterceptor.buildKey,
          identity_of_unidentified unnamed] at own
        cases own
      · cases own
  have permitted := (discipline json digest).permits_of_waiting (fresh.run hrun).1 thread waiting
  have asked := (seen_command t).trans command
  cases c with
  | get key =>
    obtain ⟨call', command', own⟩ := permitted
    cases asked.symm.trans command'
    cases keyless.symm.trans own
  | setEx key text seconds =>
    rcases permitted with ⟨call', value, command', own, -⟩ | ⟨foreign, value, ttlSeconds, other, -⟩
    · cases asked.symm.trans command'
      cases keyless.symm.trans own
    · cases asked.symm.trans other
  | del keys => cases asked.symm.trans permitted

/-- A response out of the cache comes from an earlier request of the same URL by whom the scope
does not tell apart; who lacks the identity of the scope is kept from the cache. -/
theorem cached_responses_keep_scope
    (injective : Set.InjOn (HttpCacheInterceptor.urlHash digest) (urls es)) (fresh : Fresh w₀)
    (hrun : w₀.run es = some w) :
    (∀ (i : Nat) (t : Thread (cache json digest)) (call : ExecutionContext) (value : json.Value),
      w.threads[i]? = some t → t.command = .request call →
      t.Returned (.ok (.served (.cached value))) → ServedFrom w₀ es i call value) ∧
    ∀ (i : Nat) (t : Thread (cache json digest)) (call : ExecutionContext)
      (options : CacheResponseOptions), w.threads[i]? = some t → t.command = .request call →
      call.options = some options → identified call options.scope = false →
      ∀ c next, t.rest ≠ .call (CacheCall.redis c) next := by
  constructor
  · intro i t call value thread command served
    exact served_from injective fresh hrun thread command served
  · intro i t call options thread command decorated unnamed c next
    exact unidentified_offline fresh hrun thread command decorated unnamed c next

end

/-! A profile read twice by its owner, and once by nobody in particular. -/

def plainJson : JSON where
  Value := String
  isNull _ := false
  stringify value := some value
  parse text := some text

def ann : RequestContext where
  userId := some "8f14e45f-ceea-467a-9575-1f3b6a5d2c01"
  tenantId := none
  userId_uuid := by
    intro id same
    cases same
    decide
  tenantId_uuid := by
    intro id same
    cases same

def profile (context : Option RequestContext) : ExecutionContext where
  type := "http"
  options := some ⟨60, .user⟩
  method := "GET"
  originalUrl := "/v1/me"
  context := context

def sampleCache : World (cache plainJson id) := ⟨Redis.Texts.empty, []⟩

def readTwice : List (Event (cache plainJson id)) :=
  [.start (.request (profile (some ann))), .advance 0 (.answered ⟨0, ""⟩),
    .advance 0 (.answered ⟨1, "ann's profile"⟩), .advance 0 (.answered ⟨2, ""⟩),
    .start (.request (profile (some ann))), .advance 1 (.answered ⟨3, ""⟩),
    .start (.request (profile none))]

def afterReads : World (cache plainJson id) :=
  (sampleCache.run readTwice).getD sampleCache

theorem cached_responses_keep_scope_sample :
    ServedFrom sampleCache readTwice 1 (profile (some ann)) "ann's profile" ∧
      ∃ t : Thread (cache plainJson id), afterReads.threads[2]? = some t ∧
        ∀ c next, t.rest ≠ .call (CacheCall.redis c) next := by
  have hrun : sampleCache.run readTwice = some afterReads := rfl
  have single : ∀ url ∈ urls readTwice, url = "/v1/me" := by
    rintro url ⟨call, start, rfl⟩
    simp only [readTwice, List.mem_cons, Event.start.injEq, Command.request.injEq, reduceCtorEq,
      List.not_mem_nil, or_false, false_or] at start
    rcases start with rfl | rfl | rfl <;> rfl
  obtain ⟨served, offline⟩ := cached_responses_keep_scope
    (fun url mem other mem' _ => (single url mem).trans (single other mem').symm)
    ⟨rfl, fun _ _ _ => rfl⟩ hrun
  exact ⟨served 1 _ _ _ rfl rfl rfl, _, rfl, offline 2 _ _ _ rfl rfl rfl rfl⟩

end TenantOS.Caching
