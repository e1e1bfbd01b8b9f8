import TenantOS.Auth.SocketSubscriptions
import TenantOS.Interleaving.Runs
import TenantOS.Domain.Workspace
import TenantOS.Encoding.IsoDate

/-! What the event gateway sends, and to whom. A publication goes to a room; who is in
a room is decided by the handlers of the gateway alone, over the whole run so far. -/
namespace TenantOS.Realtime

open TenantOS.Domain TenantOS.Infrastructure TenantOS.Auth TenantOS.Auth.Admission
open TenantOS.Auth.SocketSubscriptions
open TenantOS.Interleaving (concat_eq_some set_eq_some countP_set_eq
  foldlM_invariant)

/-! The publishing surface. -/

/-- What `server.to(room).emit(event, payload)` is given. -/
structure Emission where
  room : String
  event : String
  payload : JsonObject

namespace EventsGateway

def emitToUser (userId : Uuid) (event : String) (payload : JsonObject) : Emission :=
  ⟨userRoom (some userId), event, payload⟩

def emitToTenant (tenantId event : String) (payload : JsonObject) : Emission :=
  ⟨tenantRoom tenantId, event, payload⟩

end EventsGateway

/-- A call of the publisher. -/
inductive Publication where
  | userUpdated (userId : Uuid) (payload : JsonObject)
  | tenantEvent (tenantId event : String) (payload : JsonObject)
  | sessionRevoked (userId : Uuid) (reason : String)

def RealtimePublisher.publish (now : Date) : Publication → Emission
  | .userUpdated userId payload => EventsGateway.emitToUser userId "user.updated" payload
  | .tenantEvent tenantId event payload => EventsGateway.emitToTenant tenantId event payload
  | .sessionRevoked userId reason => EventsGateway.emitToUser userId "session.revoked"
      [("reason", .string reason), ("at", .string (String.ofList (IsoDate.toISOString now)))]

/-- The sockets of a room, each once. -/
def membersOf (s : SocketSubscriptions.State) (room : String) : List Nat :=
  (List.range s.sockets.length).filter fun i => (i, room) ∈ s.rooms

/-! The gauge of open connections. -/

namespace EventsGateway

def handleConnection (principal : Option SocketPrincipal) (websocketConnections : Int) : Int :=
  if principal.isSome then websocketConnections + 1 else websocketConnections

def handleDisconnect (principal : Option SocketPrincipal) (websocketConnections : Int) : Int :=
  if principal.isSome then websocketConnections - 1 else websocketConnections

end EventsGateway

/-- Which handler an event of the gateway calls. A socket is watched for its disconnect
once it has been handed to `handleConnection`. -/
def counted (s : SocketSubscriptions.State) (websocketConnections : Int) :
    SocketSubscriptions.Event → Int
  | .connect i =>
      match s.sockets[i]? with
      | some socket => EventsGateway.handleConnection socket.phase.principal websocketConnections
      | none => websocketConnections
  | .disconnect i =>
      match s.sockets[i]? with
      | some ⟨_, .connected principal⟩ =>
          EventsGateway.handleDisconnect (some principal) websocketConnections
      | _ => websocketConnections
  | _ => websocketConnections

/-! One instance of the application. -/

structure Server where
  gateway : SocketSubscriptions.State
  websocketConnections : Int
  /-- Every emission a socket was sent, oldest first. -/
  sent : List (Nat × Emission)

inductive Event where
  | socket (event : SocketSubscriptions.Event)
  | publish (now : Date) (publication : Publication)

namespace Server

def send (s : Server) (emission : Emission) : Server :=
  { s with sent := s.sent ++ (membersOf s.gateway emission.room).map (·, emission) }

def step (s : Server) : Event → Option Server
  | .socket event => (s.gateway.step event).map fun gateway =>
      { s with gateway, websocketConnections := counted s.gateway s.websocketConnections event }
  | .publish now publication => some (s.send (RealtimePublisher.publish now publication))

def run (s : Server) (es : List Event) : Option Server :=
  es.foldlM step s

/-- Nobody has connected yet. -/
structure Idle (s : Server) : Prop where
  sockets : s.gateway.sockets = []
  rooms : s.gateway.rooms = []
  connections : s.websocketConnections = 0

end Server

/-- What the gateway itself went through. -/
def socketEvents (es : List Event) : List SocketSubscriptions.Event :=
  es.filterMap fun
    | .socket event => some event
    | .publish .. => none

namespace Server

variable {s s' : Server} {es : List Event}

theorem run_gateway (hrun : s.run es = some s') :
    s.gateway.run (socketEvents es) = some s'.gateway := by
  induction es generalizing s with
  | nil =>
    cases hrun
    rfl
  | cons e es ih =>
    obtain ⟨mid, hstep, hrest⟩ := Option.bind_eq_some_iff.mp hrun
    cases e with
    | publish now publication =>
      cases hstep
      exact ih (s := s.send _) hrest
    | socket event =>
      obtain ⟨gateway, moved, rfl⟩ := Option.map_eq_some_iff.mp hstep
      change (s.gateway.step event).bind _ = _
      rw [moved]
      exact ih hrest

end Server

/-! The rooms. -/

theorem userRoom_injective {first second : Uuid}
    (h : userRoom (some first) = userRoom (some second)) : first = second := by
  apply String.toList_inj.mp
  simpa [userRoom] using congrArg String.toList h

theorem tenantRoom_injective {first second : String} (h : tenantRoom first = tenantRoom second) :
    first = second := by
  apply String.toList_inj.mp
  simpa [tenantRoom] using congrArg String.toList h

theorem userRoom_ne_tenantRoom (userId : Option String) (tenantId : String) :
    userRoom userId ≠ tenantRoom tenantId := by
  intro h
  have := congrArg (fun room => room.toList.head?) h
  simp [userRoom, tenantRoom] at this

theorem handleSubscribe_eq_ok {found : Option SocketPrincipal} {tenantId : Option String}
    {joined : String} (h : handleSubscribe found tenantId = .ok joined) :
    tenantId = some joined ∧ handleSubscribe found (some joined) = .ok joined := by
  suffices same : tenantId = some joined from ⟨same, same ▸ h⟩
  cases found with
  | none => cases h
  | some principal =>
    simp only [handleSubscribe, requirePrincipal, pure_bind] at h
    split at h
    · cases h
    · rename_i named filtered
      split at h
      · cases h
      · cases h
        exact (Option.filter_eq_some_iff.mp filtered).1

section

variable {s s' : SocketSubscriptions.State} {i : Nat} {room : String}

/-- What a step makes of the rooms. -/
theorem mem_rooms_step {e : SocketSubscriptions.Event} (h : s.step e = some s') :
    (i, room) ∈ s'.rooms ↔ match e with
      | .connect j => (i, room) ∈ s.rooms ∨ i = j ∧ ∃ claims principal,
          s.sockets[j]? = some ⟨claims, .authenticated principal⟩ ∧
            room ∈ userRoom principal.userId :: principal.tenantIds.map tenantRoom
      | .subscribe j tenantId => (i, room) ∈ s.rooms ∨ i = j ∧ ∃ claims phase joined,
          s.sockets[j]? = some ⟨claims, phase⟩ ∧
            handleSubscribe phase.principal tenantId = .ok joined ∧ room = tenantRoom joined
      | .disconnect j => (i, room) ∈ s.rooms ∧ i ≠ j
      | _ => (i, room) ∈ s.rooms := by
  cases e with
  | handshake claims =>
    cases h
    rfl
  | askDenylist j =>
    dsimp only [State.step] at h
    split at h
    · cases h
      rfl
    · cases h
  | readSnapshot j =>
    dsimp only [State.step] at h
    split at h
    · split at h
      · cases h
        rfl
      · cases h
        rfl
    · cases h
  | connect j =>
    dsimp only [State.step] at h
    split at h
    · rename_i claims principal present
      cases h
      simp only [State.connect, present, List.mem_append, List.mem_map, Prod.mk.injEq,
        Option.some.injEq, Socket.mk.injEq, Phase.authenticated.injEq]
      constructor
      · rintro (old | ⟨joined, new, rfl, rfl⟩)
        · exact .inl old
        · exact .inr ⟨rfl, claims, principal, ⟨rfl, rfl⟩, new⟩
      · rintro (old | ⟨rfl, claims', principal', ⟨rfl, rfl⟩, new⟩)
        · exact .inl old
        · exact .inr ⟨room, new, rfl, rfl⟩
    · cases h
  | subscribe j tenantId =>
    dsimp only [State.step] at h
    split at h
    · cases h
    · cases h
    · rename_i claims phase _ present
      split at h
      · rename_i joined handled
        cases h
        simp only [present, List.mem_append, List.mem_singleton, Prod.mk.injEq, Option.some.injEq,
          Socket.mk.injEq]
        constructor
        · rintro (old | ⟨rfl, rfl⟩)
          · exact .inl old
          · exact .inr ⟨rfl, claims, phase, joined, ⟨rfl, rfl⟩, handled, rfl⟩
        · rintro (old | ⟨rfl, claims', phase', joined', ⟨rfl, rfl⟩, handled', rfl⟩)
          · exact .inl old
          · cases handled.symm.trans handled'
            exact .inr ⟨rfl, rfl⟩
      · rename_i failure handled
        cases h
        constructor
        · exact .inl
        · rintro (old | ⟨rfl, claims', phase', joined', present', handled', rfl⟩)
          · exact old
          · cases present.symm.trans present'
            cases handled.symm.trans handled'
  | disconnect j =>
    dsimp only [State.step] at h
    split at h
    · cases h
    · cases h
    · cases h
      simp [List.mem_filter]
  | updateUsers users =>
    cases h
    rfl
  | updateRedis keys =>
    cases h
    rfl

end

/-- A client asked for the room of the tenant while its socket had a principal. -/
def Asked (s₀ : SocketSubscriptions.State) (es : List SocketSubscriptions.Event) (i : Nat)
    (tenantId : String) : Prop :=
  ∃ before rest mid claims phase, es = before ++ .subscribe i (some tenantId) :: rest ∧
    s₀.run before = some mid ∧ mid.sockets[i]? = some ⟨claims, phase⟩ ∧ phase.principal.isSome

theorem Asked.snoc {s₀ : SocketSubscriptions.State} {es : List SocketSubscriptions.Event} {i : Nat}
    {tenantId : String} (h : Asked s₀ es i tenantId) (e : SocketSubscriptions.Event) :
    Asked s₀ (es ++ [e]) i tenantId := by
  obtain ⟨before, rest, mid, claims, phase, rfl, run⟩ := h
  exact ⟨before, rest ++ [e], mid, claims, phase, by simp, run⟩

/-- Why a socket is in a room: the room is the one of its user, or one of a tenant that
it asked for and was let into. -/
inductive Entry (s₀ : SocketSubscriptions.State) (es : List SocketSubscriptions.Event)
    (s : SocketSubscriptions.State) (i : Nat) : String → Prop where
  | own {claims : VerifiedClaims} {principal : SocketPrincipal}
      (connected : s.sockets[i]? = some ⟨claims, .connected principal⟩) :
      Entry s₀ es s i (userRoom principal.userId)
  | asked {claims : VerifiedClaims} {phase : Phase} {principal : SocketPrincipal}
      {tenantId : String} (present : s.sockets[i]? = some ⟨claims, phase⟩)
      (has : phase.principal = some principal) (admin : principal.isPlatformAdmin = true)
      (named : tenantId ≠ "") (asked : Asked s₀ es i tenantId) :
      Entry s₀ es s i (tenantRoom tenantId)

theorem handleSubscribe_admin {principal : SocketPrincipal} {tenantId : String}
    (admin : principal.isPlatformAdmin = true) (named : tenantId ≠ "") :
    handleSubscribe (some principal) (some tenantId) = .ok tenantId := by
  simp [handleSubscribe, requirePrincipal, Option.filter, named, admin, pure, Except.pure, bind,
    Except.bind]

theorem tenantId_of_handleSubscribe {found : Option SocketPrincipal} {tenantId : String}
    (h : handleSubscribe found (some tenantId) = .ok tenantId) : tenantId ≠ "" := by
  rintro rfl
  cases found <;> cases h

section

variable {s₀ s s' : SocketSubscriptions.State} {es : List SocketSubscriptions.Event}
  {e : SocketSubscriptions.Event} {i : Nat} {claims : VerifiedClaims} {phase : Phase}
  {principal : SocketPrincipal} {room : String}

theorem decided_of_principal (h : phase.principal.isSome) : phase.Decided := by
  cases phase with
  | verified | allowed => cases h
  | authenticated | connected | gone => trivial

/-- A socket with a principal keeps it until it is disconnected. -/
theorem principal_step (hstep : s.step e = some s') (present : s.sockets[i]? = some ⟨claims, phase⟩)
    (has : phase.principal = some principal) :
    e = .disconnect i ∨ ∃ phase', s'.sockets[i]? = some ⟨claims, phase'⟩ ∧
      phase'.principal = some principal ∧
      (phase = .connected principal → phase' = .connected principal) := by
  have stays {j : Nat} {old : Socket} {new : Socket} (there : s.sockets[j]? = some old)
      (other : i ≠ j) : e = .disconnect i ∨ ∃ phase',
        (s.sockets.set j new)[i]? = some ⟨claims, phase'⟩ ∧ phase'.principal = some principal ∧
        (phase = .connected principal → phase' = .connected principal) :=
    .inr ⟨phase, (set_eq_some there).mpr (.inr ⟨other, present⟩), has, id⟩
  have moves := moves_of_step hstep
  generalize s'.sockets = sockets at moves
  cases moves with
  | handshake claims' => exact .inr ⟨phase, concat_eq_some.mpr (.inl present), has, id⟩
  | @allowed j _ there | @revoked j _ there =>
    apply stays there
    rintro rfl
    cases present.symm.trans there
    cases has
  | @authenticated j _ _ there _ | @refused j _ _ there _ =>
    apply stays there
    rintro rfl
    cases present.symm.trans there
    cases has
  | @connected j claims' principal' there =>
    by_cases same : i = j
    · subst same
      cases present.symm.trans there
      cases has
      exact .inr ⟨.connected principal, (set_eq_some there).mpr (.inl ⟨rfl, rfl⟩), rfl, fun _ => rfl⟩
    · exact stays there same
  | @disconnected j _ _ there =>
    by_cases same : i = j
    · subst same
      exact .inl rfl
    · exact stays there same
  | subscribe | updateUsers | updateRedis => exact .inr ⟨phase, present, has, id⟩

/-- A socket with a principal had it before, unless its handshake has just read it. -/
theorem principal_step_back (hstep : s.step e = some s')
    (present : s'.sockets[i]? = some ⟨claims, phase⟩) (has : phase.principal = some principal) :
    e = .readSnapshot i ∧ phase = .authenticated principal ∨
      ∃ phase', s.sockets[i]? = some ⟨claims, phase'⟩ ∧ phase'.principal = some principal ∧
        e ≠ .disconnect i ∧
        (phase = .connected principal → e = .connect i ∧ phase' = .authenticated principal ∨
          phase' = .connected principal) := by
  have stays (old : s.sockets[i]? = some ⟨claims, phase⟩) (here : e ≠ .disconnect i) :
      ∃ phase', s.sockets[i]? = some ⟨claims, phase'⟩ ∧ phase'.principal = some principal ∧
        e ≠ .disconnect i ∧
        (phase = .connected principal → e = .connect i ∧ phase' = .authenticated principal ∨
          phase' = .connected principal) :=
    ⟨phase, old, has, here, .inr⟩
  have moves := moves_of_step hstep
  generalize s'.sockets = sockets at moves present
  cases moves with
  | handshake claims' =>
    rcases concat_eq_some.mp present with old | ⟨-, new⟩
    · exact .inr (stays old fun same => by cases same)
    · cases new
      cases has
  | allowed there | revoked there | refused there _ =>
    rcases (set_eq_some there).mp present with ⟨-, new⟩ | ⟨-, old⟩
    · cases new
      cases has
    · exact .inr (stays old fun same => by cases same)
  | authenticated there _ =>
    rcases (set_eq_some there).mp present with ⟨rfl, new⟩ | ⟨-, old⟩
    · cases new
      cases has
      exact .inl ⟨rfl, rfl⟩
    · exact .inr (stays old fun same => by cases same)
  | connected there =>
    rcases (set_eq_some there).mp present with ⟨rfl, new⟩ | ⟨-, old⟩
    · cases new
      cases has
      exact .inr ⟨_, there, rfl, (fun same => by cases same), fun _ => .inl ⟨rfl, rfl⟩⟩
    · exact .inr (stays old fun same => by cases same)
  | disconnected there =>
    rcases (set_eq_some there).mp present with ⟨-, new⟩ | ⟨other, old⟩
    · cases new
      cases has
    · refine .inr (stays old fun same => ?_)
      cases same
      exact other rfl
  | subscribe | updateUsers | updateRedis => exact .inr (stays present fun same => by cases same)

theorem tenantIds_of_run (idle : s₀.sockets = []) (hrun : s₀.run es = some s)
    (present : s.sockets[i]? = some ⟨claims, phase⟩) (has : phase.principal = some principal) :
    principal.tenantIds = [] := by
  obtain ⟨mid, -, admitted⟩ := readAt_of_principal idle hrun present has
  obtain ⟨row, -, -, -, -, rfl⟩ := row_of_admit admitted
  rfl

/-- An entry outlives every step that does not disconnect its socket. -/
theorem Entry.step (h : Entry s₀ es s i room) (hstep : s.step e = some s')
    (here : e ≠ .disconnect i) : Entry s₀ (es ++ [e]) s' i room := by
  cases h with
  | own connected =>
    rcases principal_step hstep connected rfl with gone | ⟨phase', present', -, kept⟩
    · exact (here gone).elim
    · exact .own (kept rfl ▸ present')
  | asked present has admin named asked =>
    rcases principal_step hstep present has with gone | ⟨phase', present', has', -⟩
    · exact (here gone).elim
    · exact .asked present' has' admin named (asked.snoc e)

/-- The rooms are as the entries say, at every moment of every run. -/
theorem mem_rooms_iff (idle : s₀.sockets = []) (empty : s₀.rooms = []) (hrun : s₀.run es = some s) :
    (i, room) ∈ s.rooms ↔ Entry s₀ es s i room := by
  induction es using List.reverseRecOn generalizing s i room with
  | nil =>
    cases hrun
    constructor
    · intro h
      simp [empty] at h
    · intro h
      cases h with
      | own connected => simp [idle] at connected
      | asked present => simp [idle] at present
  | append_singleton es e ih =>
    obtain ⟨mid, hes, he⟩ := State.run_split hrun
    obtain ⟨_, hstep, hnil⟩ := Option.bind_eq_some_iff.mp he
    cases hnil
    have joined : (i, room) ∈ s.rooms ↔ _ := mem_rooms_step hstep
    constructor
    · intro h
      have old (before : (i, room) ∈ mid.rooms) (here : e ≠ .disconnect i) :
          Entry s₀ (es ++ [e]) s i room := ((ih hes).mp before).step hstep here
      cases e with
      | connect j =>
        rcases joined.mp h with before | ⟨rfl, claims, principal, authenticated, new⟩
        · exact old before fun same => by cases same
        rw [tenantIds_of_run idle hes authenticated rfl, List.map_nil, List.mem_singleton] at new
        subst new
        dsimp only [State.step] at hstep
        rw [authenticated] at hstep
        cases hstep
        exact .own ((set_eq_some authenticated).mpr (.inl ⟨rfl, rfl⟩))
      | subscribe j tenantId =>
        rcases joined.mp h with before | ⟨rfl, claims, phase, room', present, handled, rfl⟩
        · exact old before fun same => by cases same
        obtain ⟨rfl, handled⟩ := handleSubscribe_eq_ok handled
        obtain ⟨principal, has, allowed⟩ := principal_of_handleSubscribe handled
        rcases principal_step hstep present has with gone | ⟨phase', present', has', -⟩
        · cases gone
        rw [tenantIds_of_run idle hes present has] at allowed
        exact .asked present' has' (allowed.resolve_right List.not_mem_nil)
          (tenantId_of_handleSubscribe handled)
          ⟨es, [], mid, claims, phase, rfl, hes, present, by simp [has]⟩
      | disconnect j =>
        obtain ⟨before, other⟩ := joined.mp h
        refine old before fun same => ?_
        cases same
        exact other rfl
      | handshake | askDenylist | readSnapshot | updateUsers | updateRedis =>
        exact old (joined.mp h) fun same => by cases same
    · intro h
      have stays (before : (i, room) ∈ mid.rooms) (here : e ≠ .disconnect i) :
          (i, room) ∈ s.rooms := by
        cases e with
        | connect | subscribe => exact joined.mpr (.inl before)
        | disconnect j =>
          refine joined.mpr ⟨before, ?_⟩
          rintro rfl
          exact here rfl
        | handshake | askDenylist | readSnapshot | updateUsers | updateRedis =>
          exact joined.mpr before
      cases h with
      | @own claims principal connected =>
        rcases principal_step_back hstep connected rfl with ⟨-, other⟩ | ⟨phase, before, has, here, kept⟩
        · cases other
        rcases kept rfl with ⟨rfl, rfl⟩ | rfl
        · exact joined.mpr (.inr ⟨rfl, claims, principal, before, List.mem_cons_self⟩)
        · exact stays ((ih hes).mpr (.own before)) here
      | @asked claims phase principal tenantId present has admin named asked =>
        obtain ⟨before, rest, asking, claims', phase', same, hbefore, there, had⟩ := asked
        rcases List.eq_nil_or_concat rest with rfl | ⟨rest', final, rfl⟩
        · -- the socket asked in this very step
          obtain ⟨rfl, last⟩ := List.append_inj' same rfl
          cases last
          cases hbefore.symm.trans hes
          obtain ⟨principal', has'⟩ := Option.isSome_iff_exists.mp had
          rcases principal_step hstep there has' with gone | ⟨phase'', present'', has'', -⟩
          · cases gone
          cases present.symm.trans present''
          cases has.symm.trans has''
          exact joined.mpr (.inr ⟨rfl, claims, phase', tenantId, there,
            has' ▸ handleSubscribe_admin admin named, rfl⟩)
        · rw [List.concat_eq_append, ← List.cons_append, ← List.append_assoc] at same
          obtain ⟨rfl, last⟩ := List.append_inj' same rfl
          cases last
          have here : e ≠ .disconnect i := by
            rcases principal_step_back hstep present has with ⟨rfl, -⟩ | ⟨-, -, -, here, -⟩
            · intro same
              cases same
            · exact here
          obtain ⟨_, hbefore', hrest⟩ := State.run_split hes
          cases hbefore.symm.trans hbefore'
          obtain ⟨phase₁, there₁, decided, -⟩ := decided_run hrest there (decided_of_principal had)
          obtain ⟨phase₂, there₂, -, kept⟩ := decided_step (moves_of_step hstep) there₁ decided
          cases present.symm.trans there₂
          exact stays ((ih hes).mpr (.asked there₁ (kept principal has) admin named
            ⟨before, rest', asking, claims, phase', rfl, hbefore, there, had⟩)) here

end

/-! Deliveries. -/

/-- The socket the publication is for, given what the gateway went through. -/
def Addressed (s₀ : SocketSubscriptions.State) (es : List SocketSubscriptions.Event)
    (s : SocketSubscriptions.State) (i : Nat) : Publication → Prop
  | .userUpdated userId _ | .sessionRevoked userId _ =>
      ∃ claims principal, s.sockets[i]? = some ⟨claims, .connected principal⟩ ∧
        principal.userId = some userId
  | .tenantEvent tenantId _ _ =>
      ∃ claims phase principal, s.sockets[i]? = some ⟨claims, phase⟩ ∧
        phase.principal = some principal ∧ principal.isPlatformAdmin = true ∧ tenantId ≠ "" ∧
        Asked s₀ es i tenantId

/-- The handshake of the socket found the row of its user alive, active and of the
version of the token, and the principal is of that row. -/
def AdmittedAs (s₀ : SocketSubscriptions.State) (es : List SocketSubscriptions.Event) (i : Nat)
    (claims : VerifiedClaims) (principal : SocketPrincipal) : Prop :=
  ∃ mid row, ReadAt s₀ es i mid ∧ userRow mid.backend claims = some row ∧ row.deletedAt = none ∧
    row.status = "ACTIVE" ∧ some row.tokenVersion = claims.tv ∧
    principal = ⟨claims.sub, [], row.isPlatformAdmin⟩

section

variable {s₀ s : SocketSubscriptions.State} {es : List SocketSubscriptions.Event} {i : Nat}
  {claims : VerifiedClaims} {phase : Phase} {principal : SocketPrincipal}

theorem admittedAs_of_principal (idle : s₀.sockets = []) (hrun : s₀.run es = some s)
    (present : s.sockets[i]? = some ⟨claims, phase⟩) (has : phase.principal = some principal) :
    AdmittedAs s₀ es i claims principal := by
  obtain ⟨mid, read, admitted⟩ := readAt_of_principal idle hrun present has
  obtain ⟨row, named, alive, active, version, same⟩ := row_of_admit admitted
  exact ⟨mid, row, read, named, alive, active, version, same⟩

/-- Nobody is admitted without a user. -/
theorem AdmittedAs.userId (h : AdmittedAs s₀ es i claims principal) :
    ∃ userId, principal.userId = some userId := by
  obtain ⟨mid, row, -, named, -, -, -, rfl⟩ := h
  obtain ⟨id, sub, -⟩ := Option.bind_eq_some_iff.mp named
  obtain ⟨text, named, -⟩ := Option.bind_eq_some_iff.mp sub
  exact ⟨text, named⟩

theorem mem_userRoom_iff (idle : s₀.sockets = []) (empty : s₀.rooms = [])
    (hrun : s₀.run es = some s) {userId : Uuid} :
    (i, userRoom (some userId)) ∈ s.rooms ↔
      ∃ claims principal, s.sockets[i]? = some ⟨claims, .connected principal⟩ ∧
        principal.userId = some userId := by
  rw [mem_rooms_iff idle empty hrun]
  constructor
  · intro h
    generalize same : userRoom (some userId) = room at h
    cases h with
    | @own claims principal connected =>
      obtain ⟨text, named⟩ := (admittedAs_of_principal idle hrun connected rfl).userId
      rw [named] at same
      exact ⟨claims, principal, connected, userRoom_injective same ▸ named⟩
    | asked => exact (userRoom_ne_tenantRoom _ _ same).elim
  · rintro ⟨claims, principal, connected, named⟩
    exact named ▸ .own connected

theorem mem_tenantRoom_iff (idle : s₀.sockets = []) (empty : s₀.rooms = [])
    (hrun : s₀.run es = some s) {tenantId : String} :
    (i, tenantRoom tenantId) ∈ s.rooms ↔
      ∃ claims phase principal, s.sockets[i]? = some ⟨claims, phase⟩ ∧
        phase.principal = some principal ∧ principal.isPlatformAdmin = true ∧ tenantId ≠ "" ∧
        Asked s₀ es i tenantId := by
  rw [mem_rooms_iff idle empty hrun]
  constructor
  · intro h
    generalize same : tenantRoom tenantId = room at h
    cases h with
    | own => exact (userRoom_ne_tenantRoom _ _ same.symm).elim
    | @asked claims phase principal tenantId' present has admin named asked =>
      cases tenantRoom_injective same
      exact ⟨claims, phase, principal, present, has, admin, named, asked⟩
  · rintro ⟨claims, phase, principal, present, has, admin, named, asked⟩
    exact .asked present has admin named asked

/-- Who is sent a publication. -/
theorem mem_membersOf_iff (idle : s₀.sockets = []) (empty : s₀.rooms = [])
    (hrun : s₀.run es = some s) (now : Date) (publication : Publication) :
    i ∈ membersOf s (RealtimePublisher.publish now publication).room ↔
      Addressed s₀ es s i publication := by
  have bounded {claims : VerifiedClaims} {phase : Phase}
      (present : s.sockets[i]? = some ⟨claims, phase⟩) : i < s.sockets.length :=
    (List.getElem?_eq_some_iff.mp present).1
  simp only [membersOf, List.mem_filter, List.mem_range, decide_eq_true_eq]
  cases publication with
  | userUpdated userId payload | sessionRevoked userId reason =>
    refine (and_congr_right fun _ => mem_userRoom_iff idle empty hrun).trans ?_
    refine ⟨And.right, fun h => ⟨?_, h⟩⟩
    obtain ⟨claims, principal, connected, -⟩ := h
    exact bounded connected
  | tenantEvent tenantId event payload =>
    refine (and_congr_right fun _ => mem_tenantRoom_iff idle empty hrun).trans ?_
    refine ⟨And.right, fun h => ⟨?_, h⟩⟩
    obtain ⟨claims, phase, principal, present, -⟩ := h
    exact bounded present

theorem Addressed.admitted (idle : s₀.sockets = []) (hrun : s₀.run es = some s)
    {publication : Publication} (h : Addressed s₀ es s i publication) :
    ∃ claims phase principal, s.sockets[i]? = some ⟨claims, phase⟩ ∧
      phase.principal = some principal ∧ AdmittedAs s₀ es i claims principal := by
  cases publication with
  | userUpdated userId payload | sessionRevoked userId reason =>
    obtain ⟨claims, principal, connected, -⟩ := h
    exact ⟨claims, _, principal, connected, rfl, admittedAs_of_principal idle hrun connected rfl⟩
  | tenantEvent tenantId event payload =>
    obtain ⟨claims, phase, principal, present, has, -⟩ := h
    exact ⟨claims, phase, principal, present, has, admittedAs_of_principal idle hrun present has⟩

end

section

variable {s₀ s s' : Server} {es : List Event}

/-- A publication is sent once to each socket it is for and to no other, and each of
these sockets was admitted as a user of the database. -/
theorem publish_reaches_addressed (idle : s₀.Idle) (hrun : s₀.run es = some s) {now : Date}
    {publication : Publication} (hstep : s.step (.publish now publication) = some s') :
    ∃ recipients : List Nat, recipients.Nodup ∧
      s'.sent = s.sent ++ recipients.map (·, RealtimePublisher.publish now publication) ∧
      (∀ i, i ∈ recipients ↔
        Addressed s₀.gateway (socketEvents es) s.gateway i publication) ∧
      ∀ i ∈ recipients, ∃ claims phase principal,
        s.gateway.sockets[i]? = some ⟨claims, phase⟩ ∧ phase.principal = some principal ∧
          AdmittedAs s₀.gateway (socketEvents es) i claims principal := by
  cases hstep
  have moved := Server.run_gateway hrun
  have addressed (i : Nat) := mem_membersOf_iff (i := i) idle.sockets idle.rooms moved now publication
  refine ⟨_, List.nodup_range.filter _, rfl, addressed, fun i hi => ?_⟩
  exact ((addressed i).mp hi).admitted idle.sockets moved

/-! The gauge. -/

def isConnected : Socket → Bool
  | ⟨_, .connected _⟩ => true
  | _ => false

theorem counted_step {mid : SocketSubscriptions.State} {e : SocketSubscriptions.Event}
    (hstep : s.gateway.step e = some mid)
    (h : s.websocketConnections = s.gateway.sockets.countP isConnected) :
    counted s.gateway s.websocketConnections e = mid.sockets.countP isConnected := by
  have moves := moves_of_step hstep
  generalize mid.sockets = sockets at moves
  cases moves with
  | handshake claims => simp [counted, h, isConnected]
  | allowed there | revoked there | refused there _ | authenticated there _ =>
    rw [countP_set_eq isConnected there]
    simp [counted, h, isConnected]
  | connected there =>
    rw [countP_set_eq isConnected there]
    simp [counted, there, h, isConnected, Phase.principal, EventsGateway.handleConnection]
  | @disconnected i claims phase there =>
    rw [countP_set_eq isConnected there]
    cases phase with
    | connected principal =>
      simp [counted, there, h, isConnected, EventsGateway.handleDisconnect]
    | verified | allowed | authenticated | gone => simp [counted, there, h, isConnected]
  | subscribe | updateUsers | updateRedis => exact h

/-- The gauge counts the connected sockets, whatever became of the others. -/
theorem websocketConnections_eq (idle : s₀.Idle) (hrun : s₀.run es = some s) :
    s.websocketConnections = s.gateway.sockets.countP isConnected := by
  refine foldlM_invariant (P := fun s : Server =>
    s.websocketConnections = s.gateway.sockets.countP isConnected) ?_ ?_ hrun
  · intro s e s' h hstep
    cases e with
    | publish now publication =>
      cases hstep
      exact h
    | socket event =>
      obtain ⟨gateway, moved, rfl⟩ := Option.map_eq_some_iff.mp hstep
      exact counted_step moved h
  · rw [idle.connections, idle.sockets]
    rfl

end

/-! An admin of every workspace, connected and subscribed to one. -/

def adminServer : Server where
  gateway := emptyGateway
  websocketConnections := 0
  sent := []

def adminJoins : List Event :=
  (connects ++ [SocketSubscriptions.Event.subscribe 0 (some "acme")]).map .socket

def joinedServer : Server where
  gateway := ⟨emptyGateway.backend, [⟨adminClaims, .connected adminPrincipal⟩],
    [(0, userRoom adminClaims.sub), (0, tenantRoom "acme")]⟩
  websocketConnections := 1
  sent := []

theorem adminJoins_run : adminServer.run adminJoins = some joinedServer := rfl

def workflowUpdated : Publication := .tenantEvent "acme" "workflow.updated" []

theorem publish_reaches_addressed_admin :
    ∃ s, joinedServer.step (.publish 0 workflowUpdated) = some s ∧
      (0, RealtimePublisher.publish 0 workflowUpdated) ∈ s.sent := by
  have publishes : joinedServer.step (.publish 0 workflowUpdated) = some _ := rfl
  obtain ⟨recipients, -, sent, addressed, -⟩ :=
    publish_reaches_addressed ⟨rfl, rfl, rfl⟩ adminJoins_run publishes
  refine ⟨_, rfl, sent ▸ ?_⟩
  refine List.mem_append_right _ (List.mem_map_of_mem ((addressed 0).mpr ?_))
  exact ⟨adminClaims, _, adminPrincipal, rfl, rfl, rfl, by decide,
    connects, [], _, adminClaims, _, rfl, rfl, rfl, rfl⟩

theorem websocketConnections_eq_admin :
    joinedServer.websocketConnections = joinedServer.gateway.sockets.countP isConnected :=
  websocketConnections_eq ⟨rfl, rfl, rfl⟩ adminJoins_run

end TenantOS.Realtime
