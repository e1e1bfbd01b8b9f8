import TenantOS.Encoding.IsoDate
import TenantOS.Interleaving.Runs
import TenantOS.Interleaving.Slots
import TenantOS.Observability.RequestMetrics
import TenantOS.Responses.ServerErrors
import TenantOS.Shared.Interceptors
import TenantOS.Shared.RequestContext

/-! Any number of requests in one process: the middleware opens their contexts, the guards
let them in or refuse them, and the interceptors, the handler and the filter between them
make the reply. The steps of different requests alternate freely. -/
namespace TenantOS.Responses

open TenantOS.Shared TenantOS.Observability TenantOS.Interleaving
open Domain (Date Json asJsonObject)
open MetricsInterceptor (Timer)

/-- `new Date().toISOString()` -/
def isoString (now : Date) : String := String.ofList (IsoDate.toISOString now)

inductive Reply where
  | success (responseTime : Option String) (body : SentBody)
  | error (caught : Caught)

inductive Phase where
  | guarded
  | serving (timer : Timer) (skip : Bool) (startedAt : Date)
  /-- The series is that of a request the interceptors saw. -/
  | replied (reply : Reply) (series : Option Series)

structure Exchange where
  /-- What `AsyncLocalStorage` holds for the request. -/
  context : Option RequestContext
  echoed : Option EchoedIds
  method : String
  originalUrl : String
  phase : Phase

/-- What is read of the response when its fate is decided. -/
structure ResponseState where
  statusCode : Nat
  headersSent : Bool
  retryAfter : Option String

inductive Event where
  | arrive (req : IncomingRequest) (randomUUID : String) (now : Date)
  /-- A body the parser, which runs before the middleware, refuses. -/
  | unparsed (method originalUrl : String) (thrown : Thrown) (response : ResponseState) (now : Date)
  | authenticate (i : Nat) (userId tenantId : Option String)
  /-- A guard or the router throws. -/
  | refuse (i : Nat) (thrown : Thrown) (response : ResponseState) (now : Date)
  | enter (i : Nat) (baseUrl : String) (route : MatchedRoute) (skip : Bool) (now : Date) (clock : Nat)
  | settle (i : Nat) (result : Except Thrown HandlerResult) (response : ResponseState) (now : Date)
      (clock : Nat)
  | expire (i : Nat) (response : ResponseState) (now : Date) (clock : Nat)

/-- The composition root's `new TimeoutInterceptor(30_000)`. -/
def timeoutMs : Nat := 30000

namespace Exchange

def requestId (x : Exchange) : Option String := x.context.map RequestContext.requestId

def fail (x : Exchange) (thrown : Thrown) (response : ResponseState) (now : Date) : Reply :=
  .error (GlobalExceptionFilter.catch thrown (.http {
    method := x.method
    originalUrl := x.originalUrl
    requestId := x.requestId
    headersSent := response.headersSent
    retryAfter := response.retryAfter
    now := isoString now }))

/-- What the chain makes of the end of the handler. -/
def settled (x : Exchange) (skip : Bool) (startedAt : Date) (response : ResponseState)
    (now : Date) : Except Thrown HandlerResult → Reply
  | .ok result => .success
      (ResponseEnvelopeInterceptor.responseTime response.headersSent startedAt now)
      (ResponseEnvelopeInterceptor.envelope skip x.requestId (isoString now) result)
  | .error thrown => x.fail (TimeoutInterceptor.catchError timeoutMs thrown) response now

end Exchange

structure App where
  metrics : MetricsService
  exchanges : List Exchange

namespace App

def start : App := ⟨.empty, []⟩

def move (s : App) (i : Nat) (x : Exchange) (phase : Phase) : App :=
  { s with exchanges := s.exchanges.set i { x with phase := phase } }

/-- The call ends, for its caller: `finalize` runs. -/
def finish (s : App) (i : Nat) (x : Exchange) (timer : Timer) (reply : Reply) (statusCode clock : Nat) :
    App :=
  { s.move i x (.replied reply (some (timer.series statusCode))) with
    metrics := MetricsInterceptor.finalize s.metrics timer statusCode clock }

def arrived (s : App) (x : Exchange) : App :=
  { s with exchanges := s.exchanges ++ [x] }

/-- Whoever settles second is not listened to any more. -/
def settle (s : App) (i : Nat) (result : Except Thrown HandlerResult) (response : ResponseState)
    (now : Date) (clock : Nat) : Option App :=
  match s.exchanges[i]? with
  | none => none
  | some x =>
    match x.phase with
    | .guarded => none
    | .serving timer skip startedAt => some (s.finish i x timer
        (x.settled skip startedAt response now result) response.statusCode clock)
    | .replied .. => some s

/-- A request that is still with the guards, if there is one. -/
def guarded (s : App) (i : Nat) : Option Exchange :=
  s.exchanges[i]?.filter fun x =>
    match x.phase with
    | .guarded => true
    | _ => false

def step (s : App) : Event → Option App
  | .arrive req randomUUID now =>
      let (context, echoed) := RequestContextMiddleware.use req randomUUID now
      some (s.arrived ⟨some context, some echoed, req.method, req.originalUrl, .guarded⟩)
  | .unparsed method originalUrl thrown response now =>
      let x : Exchange := ⟨none, none, method, originalUrl, .guarded⟩
      some (s.arrived { x with phase := .replied (x.fail thrown response now) none })
  | .authenticate i userId tenantId => (s.guarded i).map fun x =>
      { s with exchanges := s.exchanges.set i { x with
        context := x.context.map fun context => context.setPrincipal userId tenantId } }
  | .refuse i thrown response now => (s.guarded i).map fun x =>
      s.move i x (.replied (x.fail thrown response now) none)
  | .enter i baseUrl route skip now clock => (s.guarded i).map fun x =>
      let (metrics, timer) := MetricsInterceptor.intercept s.metrics ⟨x.method, baseUrl, route⟩ clock
      let startedAt := (x.context.map RequestContext.startedAt).getD now
      { s.move i x (.serving timer skip startedAt) with metrics := metrics }
  | .settle i result response now clock => s.settle i result response now clock
  | .expire i response now clock =>
      s.settle i (.error TimeoutInterceptor.timeoutError) response now clock

def run (s : App) (es : List Event) : Option App :=
  es.foldlM step s

end App

/-- Who reports the end of a handler, and what it reports. -/
def Event.report : Event → Option (Nat × Except Thrown HandlerResult × ResponseState × Date × Nat)
  | .settle i result response now clock => some (i, result, response, now, clock)
  | .expire i response now clock =>
      some (i, .error TimeoutInterceptor.timeoutError, response, now, clock)
  | _ => none

/-- All a step can do, with its guards. -/
inductive Moves (s : App) : Event → App → Prop where
  | arrive (req : IncomingRequest) (randomUUID : String) (now : Date) :
      Moves s (.arrive req randomUUID now) (s.arrived
        ⟨some (RequestContextMiddleware.use req randomUUID now).1,
          some (RequestContextMiddleware.use req randomUUID now).2, req.method, req.originalUrl,
          .guarded⟩)
  | unparsed (method originalUrl : String) (thrown : Thrown) (response : ResponseState) (now : Date) :
      Moves s (.unparsed method originalUrl thrown response now) (s.arrived
        ⟨none, none, method, originalUrl, .replied (Exchange.fail
          ⟨none, none, method, originalUrl, .guarded⟩ thrown response now) none⟩)
  | authenticate {i : Nat} {x : Exchange} (userId tenantId : Option String)
      (present : s.exchanges[i]? = some x) (guarded : x.phase = .guarded) :
      Moves s (.authenticate i userId tenantId) { s with exchanges := s.exchanges.set i { x with
        context := x.context.map fun context => context.setPrincipal userId tenantId } }
  | refuse {i : Nat} {x : Exchange} (thrown : Thrown) (response : ResponseState) (now : Date)
      (present : s.exchanges[i]? = some x) (guarded : x.phase = .guarded) :
      Moves s (.refuse i thrown response now)
        (s.move i x (.replied (x.fail thrown response now) none))
  | enter {i : Nat} {x : Exchange} (baseUrl : String) (route : MatchedRoute) (skip : Bool)
      (now : Date) (clock : Nat) (present : s.exchanges[i]? = some x) (guarded : x.phase = .guarded) :
      Moves s (.enter i baseUrl route skip now clock)
        { s.move i x (.serving
            (MetricsInterceptor.intercept s.metrics ⟨x.method, baseUrl, route⟩ clock).2 skip
            ((x.context.map RequestContext.startedAt).getD now)) with
          metrics := (MetricsInterceptor.intercept s.metrics ⟨x.method, baseUrl, route⟩ clock).1 }
  | finish {e : Event} {i : Nat} {x : Exchange} {timer : Timer} {skip : Bool} {startedAt now : Date}
      {result : Except Thrown HandlerResult} {response : ResponseState} {clock : Nat}
      (report : e.report = some (i, result, response, now, clock))
      (present : s.exchanges[i]? = some x) (serving : x.phase = .serving timer skip startedAt) :
      Moves s e (s.finish i x timer (x.settled skip startedAt response now result)
        response.statusCode clock)
  | late {e : Event} {i : Nat} {x : Exchange} {now : Date} {result : Except Thrown HandlerResult}
      {response : ResponseState} {clock : Nat} {reply : Reply} {series : Option Series}
      (report : e.report = some (i, result, response, now, clock))
      (present : s.exchanges[i]? = some x) (replied : x.phase = .replied reply series) : Moves s e s

section

variable {s s' : App} {e : Event} {i : Nat} {x : Exchange}

theorem guarded_eq_some (h : s.guarded i = some x) :
    s.exchanges[i]? = some x ∧ x.phase = .guarded := by
  obtain ⟨present, guarded⟩ := Option.filter_eq_some_iff.mp h
  refine ⟨present, ?_⟩
  split at guarded
  · assumption
  · cases guarded

theorem moves_of_settle {result : Except Thrown HandlerResult} {response : ResponseState}
    {now : Date} {clock : Nat} (report : e.report = some (i, result, response, now, clock))
    (h : s.settle i result response now clock = some s') : Moves s e s' := by
  unfold App.settle at h
  split at h
  · cases h
  rename_i x present
  split at h
  · cases h
  · rename_i timer skip startedAt serving
    cases h
    exact .finish report present serving
  · rename_i reply series replied
    cases h
    exact .late report present replied

theorem moves_of_step (h : s.step e = some s') : Moves s e s' := by
  cases e with
  | arrive req randomUUID now =>
    cases h
    exact .arrive req randomUUID now
  | unparsed method originalUrl thrown response now =>
    cases h
    exact .unparsed method originalUrl thrown response now
  | authenticate i userId tenantId =>
    obtain ⟨x, found, rfl⟩ := Option.map_eq_some_iff.mp h
    obtain ⟨present, guarded⟩ := guarded_eq_some found
    exact .authenticate userId tenantId present guarded
  | refuse i thrown response now =>
    obtain ⟨x, found, rfl⟩ := Option.map_eq_some_iff.mp h
    obtain ⟨present, guarded⟩ := guarded_eq_some found
    exact .refuse thrown response now present guarded
  | enter i baseUrl route skip now clock =>
    obtain ⟨x, found, rfl⟩ := Option.map_eq_some_iff.mp h
    obtain ⟨present, guarded⟩ := guarded_eq_some found
    exact .enter baseUrl route skip now clock present guarded
  | settle i result response now clock => exact moves_of_settle rfl h
  | expire i response now clock => exact moves_of_settle rfl h

end

/-! The series. -/

def isServing (method : String) (x : Exchange) : Bool :=
  match x.phase with
  | .serving timer _ _ => timer.method = method
  | _ => false

def isCounted (series : Series) (x : Exchange) : Bool :=
  match x.phase with
  | .replied _ (some counted) => counted = series
  | _ => false

/-- The gauge holds the requests that are being served, the counter and the histogram
those that have been. -/
structure Balanced (s : App) : Prop where
  inFlight : ∀ method, s.metrics.httpRequestsInFlight method = s.exchanges.countP (isServing method)
  total : ∀ series, (s.metrics.httpRequestsTotal series : Int) = s.exchanges.countP (isCounted series)
  duration : ∀ series,
    ((s.metrics.httpRequestDuration series).length : Int) = s.exchanges.countP (isCounted series)

theorem Balanced.unmoved {s s' : App} (h : Balanced s) (metrics : s'.metrics = s.metrics)
    (serving : ∀ method, s'.exchanges.countP (isServing method) =
      s.exchanges.countP (isServing method))
    (counted : ∀ series, s'.exchanges.countP (isCounted series) =
      s.exchanges.countP (isCounted series)) : Balanced s' where
  inFlight method := by rw [metrics, serving, h.inFlight]
  total series := by rw [metrics, counted, h.total]
  duration series := by rw [metrics, counted, h.duration]

/-- A request that leaves one phase for another, neither of which the series know. -/
theorem countP_refill {items : List Exchange} {i : Nat} {x y : Exchange} {p : Exchange → Bool}
    (present : items[i]? = some x) (same : p y = p x) : (items.set i y).countP p = items.countP p := by
  have moved : ((items.set i y).countP p : Int) = _ := countP_set_eq p present
  rw [same] at moved
  omega

theorem Balanced.step {s s' : App} {e : Event} (h : Balanced s) (hstep : s.step e = some s') :
    Balanced s' := by
  have moves := moves_of_step hstep
  cases moves with
  | arrive req randomUUID now =>
    exact h.unmoved rfl (by simp [App.arrived, isServing]) (by simp [App.arrived, isCounted])
  | unparsed method originalUrl thrown response now =>
    exact h.unmoved rfl (by simp [App.arrived, isServing]) (by simp [App.arrived, isCounted])
  | authenticate userId tenantId present guarded =>
    exact h.unmoved rfl (fun _ => countP_refill present rfl) (fun _ => countP_refill present rfl)
  | refuse thrown response now present guarded =>
    exact h.unmoved rfl
      (fun _ => countP_refill present (by simp [isServing, guarded]))
      (fun _ => countP_refill present (by simp [isCounted, guarded]))
  | @enter i x baseUrl route skip now clock present guarded =>
    refine ⟨fun method => ?_, fun series => ?_, fun series => ?_⟩
    · simp only [App.move, countP_set_eq _ present, MetricsInterceptor.intercept_httpRequestsInFlight,
        h.inFlight method]
      by_cases same : x.method = method <;> simp [isServing, guarded, same]
    · simp only [App.move, countP_set_eq _ present, MetricsInterceptor.intercept_httpRequestsTotal,
        h.total series]
      simp [isCounted, guarded]
    · simp only [App.move, countP_set_eq _ present,
        MetricsInterceptor.intercept_httpRequestDuration, h.duration series]
      simp [isCounted, guarded]
  | @finish _ i x timer skip startedAt now result response clock report present serving =>
    refine ⟨fun method => ?_, fun series => ?_, fun series => ?_⟩
    · simp only [App.finish, App.move, countP_set_eq _ present,
        MetricsInterceptor.finalize_httpRequestsInFlight, h.inFlight method]
      by_cases same : timer.method = method <;> simp [isServing, serving, same]
    · simp only [App.finish, App.move, countP_set_eq _ present,
        MetricsInterceptor.finalize_httpRequestsTotal, Int.natCast_add, h.total series]
      by_cases same : timer.series response.statusCode = series <;>
        simp [isCounted, serving, same]
    · simp only [App.finish, App.move, countP_set_eq _ present,
        MetricsInterceptor.finalize_httpRequestDuration_length, Int.natCast_add, h.duration series]
      by_cases same : timer.series response.statusCode = series <;>
        simp [isCounted, serving, same]
  | late => exact h

/-- However the steps of the requests alternate, and whether handlers end before their
timers or after, the series stay balanced. -/
theorem balanced_run {s : App} {es : List Event} (hrun : App.start.run es = some s) : Balanced s := by
  refine foldlM_invariant (P := Balanced) (fun s e s' h hstep => h.step hstep) ?_ hrun
  exact ⟨fun _ => rfl, fun _ => rfl, fun _ => rfl⟩

/-! A request whose handler ends after its timer has run out. -/

def sampleResponse : ResponseState where
  statusCode := 200
  headersSent := false
  retryAfter := none

def lateHandler : List Event :=
  [.arrive ⟨some "no-uuid", none, none, none, "GET", "/api/v1/workspaces"⟩
      "0b4c6f1e-8a2d-4f3b-9c7e-5d6a1b2c3d4e" 0,
    .authenticate 0 (some "ann") none,
    .enter 0 "" (.layer (some "/api/v1/workspaces")) false 1 1000,
    .expire 0 sampleResponse 30001 30001000,
    .settle 0 (.ok (.json .null)) sampleResponse 40000 40000000]

def afterLateHandler : App := (App.start.run lateHandler).get rfl

theorem lateHandler_run : App.start.run lateHandler = some afterLateHandler :=
  (Option.some_get _).symm

theorem balanced_run_late : Balanced afterLateHandler := balanced_run lateHandler_run

/-! The ids. -/

/-- The id the client was told, in a header, to quote. -/
def Exchange.traceId (x : Exchange) : String :=
  (x.echoed.map EchoedIds.requestId).getD "unknown"

def Phase.Replied : Phase → Prop
  | .replied .. => True
  | .guarded | .serving .. => False

/-- Everything that names the request names it by the id of its header. -/
structure Exchange.Correlated (x : Exchange) : Prop where
  context : x.requestId = x.echoed.map EchoedIds.requestId
  success : ∀ time response series,
    x.phase = .replied (.success time (.enveloped response)) series → response.traceId = x.traceId
  error : ∀ log status retryAfter body series,
    x.phase = .replied (.error (.answered log status retryAfter body)) series →
      (asJsonObject body).lookup "traceId" = some (.string x.traceId)

def Exchange.NamedByUuids (x : Exchange) : Prop :=
  ∀ echoed, x.echoed = some echoed →
    UUID_PATTERN echoed.requestId = true ∧ UUID_PATTERN echoed.correlationId = true

/-- The user it runs for is one its own guard set. -/
def Exchange.OwnPrincipal (es : List Event) (i : Nat) (x : Exchange) : Prop :=
  ∀ context userId, x.context = some context → context.userId = some userId →
    ∃ tenantId, .authenticate i (some userId) tenantId ∈ es

def Event.DrawsUuid : Event → Prop
  | .arrive _ randomUUID _ => UUID_PATTERN randomUUID = true
  | _ => True

section

variable {x : Exchange} {thrown : Thrown} {response : ResponseState} {now : Date}

theorem traceId_of_stringify {answer : ApiErrorResponse} {body : Json}
    (h : answer.stringify = some body) :
    (asJsonObject body).lookup "traceId" = some (.string answer.traceId) := by
  obtain ⟨details, written, rfl⟩ := stringify_eq_some_iff.mp h
  rcases shape_of_stringifyDetails written with rfl | ⟨fields, rfl⟩
  · rfl
  · rfl

theorem traceId_of_fail {log : LogLine} {status : Int} {retryAfter : Option String} {body : Json}
    (h : x.fail thrown response now = .error (.answered log status retryAfter body)) :
    (asJsonObject body).lookup "traceId" = some (.string (x.requestId.getD "unknown")) := by
  simp only [Exchange.fail, Reply.error.injEq] at h
  obtain ⟨normalized, -, logged, -, replied⟩ := catch_eq_answered_iff.mp h
  obtain ⟨-, -, written, -⟩ := reply_eq_answered_iff.mp replied
  exact traceId_of_stringify written

theorem fail_ne_success {time : Option String} {body : SentBody} :
    x.fail thrown response now ≠ .success time body := by
  intro same
  cases same

theorem correlated_fail {y : Exchange} {series : Option Series}
    (same : x.requestId = y.echoed.map EchoedIds.requestId) (context : y.requestId = x.requestId)
    (replied : y.phase = .replied (x.fail thrown response now) series) : y.Correlated where
  context := context.trans same
  success time answer series' h := by
    rw [replied] at h
    exact (fail_ne_success (Phase.replied.inj h).1).elim
  error log status retryAfter body series' h := by
    rw [replied] at h
    rw [traceId_of_fail (Phase.replied.inj h).1, same]
    rfl

theorem correlated_settled {y : Exchange} {skip : Bool} {startedAt : Date}
    {result : Except Thrown HandlerResult} {series : Option Series}
    (same : x.requestId = y.echoed.map EchoedIds.requestId) (context : y.requestId = x.requestId)
    (replied : y.phase = .replied (x.settled skip startedAt response now result) series) :
    y.Correlated := by
  cases result with
  | error thrown => exact correlated_fail same context replied
  | ok value =>
    refine ⟨context.trans same, fun time answer series' h => ?_, fun log status _ body _ h => ?_⟩
    · rw [replied] at h
      simp only [Exchange.settled, Phase.replied.injEq, Reply.success.injEq] at h
      have enveloped := h.1.2
      unfold ResponseEnvelopeInterceptor.envelope at enveloped
      split at enveloped
      · cases enveloped
      · cases enveloped
      · cases enveloped
        rw [same]
        rfl
    · rw [replied] at h
      cases (Phase.replied.inj h).1

theorem correlated_waiting {y : Exchange} (same : y.requestId = y.echoed.map EchoedIds.requestId)
    (waiting : ¬ y.phase.Replied) : y.Correlated where
  context := same
  success time answer series h := by
    rw [h] at waiting
    exact (waiting trivial).elim
  error log status retryAfter body series h := by
    rw [h] at waiting
    exact (waiting trivial).elim

end

theorem requestId_setPrincipal (x : Exchange) (userId tenantId : Option String) :
    (x.context.map fun context => context.setPrincipal userId tenantId).map
      RequestContext.requestId = x.requestId := by
  cases found : x.context <;> simp [Exchange.requestId, found, RequestContext.setPrincipal]

theorem Exchange.OwnPrincipal.snoc {es : List Event} {i : Nat} {x : Exchange}
    (h : x.OwnPrincipal es i) (e : Event) : x.OwnPrincipal (es ++ [e]) i := by
  intro context userId present named
  obtain ⟨tenantId, set⟩ := h context userId present named
  exact ⟨tenantId, List.mem_append_left _ set⟩

/-- What holds of each request in every run. -/
structure Exchange.Kept (es : List Event) (i : Nat) (x : Exchange) : Prop where
  correlated : x.Correlated
  named : x.NamedByUuids
  principal : x.OwnPrincipal es i

theorem kept_step {es : List Event} {e : Event} {s s' : App} (drawn : e.DrawsUuid)
    (h : ∀ (i : Nat) (x : Exchange), s.exchanges[i]? = some x → x.Kept es i) (hstep : s.step e = some s') :
    ∀ (i : Nat) (x : Exchange), s'.exchanges[i]? = some x → x.Kept (es ++ [e]) i := by
  have old {i : Nat} {x : Exchange} (present : s.exchanges[i]? = some x) : x.Kept (es ++ [e]) i :=
    ⟨(h i x present).correlated, (h i x present).named, (h i x present).principal.snoc e⟩
  have moves := moves_of_step hstep
  intro i x present
  cases moves with
  | arrive req randomUUID now =>
    rcases concat_eq_some.mp present with before | ⟨-, rfl⟩
    · exact old before
    refine ⟨correlated_waiting rfl id, fun echoed same => ?_, fun context userId same named => ?_⟩
    · cases same
      exact use_ids drawn
    · cases same
      cases named
  | unparsed method originalUrl thrown response now =>
    rcases concat_eq_some.mp present with before | ⟨-, rfl⟩
    · exact old before
    refine ⟨correlated_fail (x := ⟨none, none, method, originalUrl, .guarded⟩) rfl rfl rfl,
      (fun echoed same => by cases same), (fun context userId same => by cases same)⟩
  | @authenticate j x' userId tenantId there guarded =>
    rcases (set_eq_some there).mp present with ⟨rfl, rfl⟩ | ⟨-, before⟩
    · have before := h i x' there
      refine ⟨correlated_waiting ?_ (by simp [guarded, Phase.Replied]), before.named, ?_⟩
      · exact (requestId_setPrincipal x' userId tenantId).trans before.correlated.context
      · intro context user same named
        obtain ⟨context', present', rfl⟩ := Option.map_eq_some_iff.mp same
        cases given : userId with
        | some given' =>
          simp only [RequestContext.setPrincipal, given, Option.some_or, Option.some.injEq] at named
          subst named
          exact ⟨tenantId, List.mem_append_right _ (List.mem_singleton.mpr rfl)⟩
        | none =>
          simp only [RequestContext.setPrincipal, given, Option.none_or] at named
          obtain ⟨tenant, set⟩ := before.principal context' user present' named
          exact ⟨tenant, List.mem_append_left _ set⟩
    · exact old before
  | @refuse j x' thrown response now there guarded =>
    rcases (set_eq_some there).mp present with ⟨rfl, rfl⟩ | ⟨-, before⟩
    · have before := old there
      exact ⟨correlated_fail (x := x') before.correlated.context rfl rfl, before.named,
        before.principal⟩
    · exact old before
  | @enter j x' baseUrl route skip now clock there guarded =>
    rcases (set_eq_some there).mp present with ⟨rfl, rfl⟩ | ⟨-, before⟩
    · have before := old there
      exact ⟨correlated_waiting before.correlated.context id, before.named, before.principal⟩
    · exact old before
  | @finish _ j x' timer skip startedAt now result response clock report there serving =>
    rcases (set_eq_some there).mp present with ⟨rfl, rfl⟩ | ⟨-, before⟩
    · have before := old there
      exact ⟨correlated_settled (x := x') before.correlated.context rfl rfl, before.named,
        before.principal⟩
    · exact old before
  | late => exact old present

/-- A reply is the last thing that happens to a request. -/
theorem replied_step {e : Event} {s s' : App} {i : Nat} {x : Exchange}
    (present : s.exchanges[i]? = some x) (replied : x.phase.Replied) (hstep : s.step e = some s') :
    s'.exchanges[i]? = some x := by
  have elsewhere {j : Nat} {old new : Exchange} (there : s.exchanges[j]? = some old)
      (waiting : ¬ old.phase.Replied) : (s.exchanges.set j new)[i]? = some x := by
    refine (set_eq_some there).mpr (.inr ⟨?_, present⟩)
    rintro rfl
    cases there.symm.trans present
    exact waiting replied
  have moves := moves_of_step hstep
  cases moves with
  | arrive | unparsed => exact concat_eq_some.mpr (.inl present)
  | authenticate userId tenantId there guarded => exact elsewhere there (by simp [guarded, Phase.Replied])
  | refuse thrown response now there guarded => exact elsewhere there (by simp [guarded, Phase.Replied])
  | enter baseUrl route skip now clock there guarded =>
    exact elsewhere there (by simp [guarded, Phase.Replied])
  | finish report there serving => exact elsewhere there (by simp [serving, Phase.Replied])
  | late => exact present

/-- In every run of any number of requests, each is replied to at most once, by the id its
header told the client, which is a uuid whatever the client sent; and nobody's principal
shows up in the context of another request. -/
theorem replies_correlated {s : App} {es : List Event} (drawn : ∀ e ∈ es, e.DrawsUuid)
    (hrun : App.start.run es = some s) {i : Nat} {x : Exchange} (present : s.exchanges[i]? = some x) :
    x.Kept es i ∧ ∀ fs s', s.run fs = some s' → x.phase.Replied → s'.exchanges[i]? = some x := by
  refine ⟨?_, fun fs s' more replied => ?_⟩
  · refine foldlM_induction (P := fun es s => (∀ e ∈ es, e.DrawsUuid) →
      ∀ (i : Nat) (x : Exchange), s.exchanges[i]? = some x → x.Kept es i) ?_ ?_ hrun drawn i x present
    · intro _ i x present
      simp [App.start] at present
    · intro es e mid s' h hstep drawn
      refine kept_step (drawn e (by simp)) (h fun e he => drawn e (List.mem_append_left _ he)) hstep
  · exact foldlM_invariant (P := fun s => s.exchanges[i]? = some x)
      (fun _ _ _ h hstep => replied_step h replied hstep) present more

theorem replies_correlated_late :
    ∃ x, afterLateHandler.exchanges[0]? = some x ∧ x.Kept lateHandler 0 := by
  have drawn : ∀ e ∈ lateHandler, e.DrawsUuid := by
    simp only [lateHandler, List.forall_mem_cons, Event.DrawsUuid]
    refine ⟨by decide, trivial, trivial, trivial, trivial, by simp⟩
  exact ⟨_, rfl, (replies_correlated drawn lateHandler_run (i := 0) rfl).1⟩

end TenantOS.Responses
