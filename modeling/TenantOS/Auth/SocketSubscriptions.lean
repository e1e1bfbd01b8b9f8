import TenantOS.Auth.Admission
import TenantOS.Interleaving.Slots

/-! The event gateway between changes to the users. What a socket may subscribe to is
decided by the principal its handshake left on it; the row behind it is not read again. -/
namespace TenantOS.Auth.SocketSubscriptions

open TenantOS.Domain TenantOS.Infrastructure TenantOS.Auth.Admission
open TenantOS.Interleaving (concat_eq_some set_eq_some)
open TenantOS.Auth.Admission.EventsGateway (wsException)

/-! The handlers. -/

def userRoom (userId : Option String) : String :=
  "user:" ++ userId.getD "undefined"

def tenantRoom (tenantId : String) : String :=
  "tenant:" ++ tenantId

/-- The second half of `authenticate`, after the denylist has answered. -/
def admitSocket (backend : Backend) (claims : VerifiedClaims) : Except Failure SocketPrincipal := do
  let found ← findAuthSnapshot backend claims.sub
  match found with
  | none => throw (wsException "Session is no longer valid")
  | some snapshot =>
    if snapshot.deletedAt.isSome || some snapshot.tokenVersion ≠ claims.tv ||
        snapshot.status ≠ .active then
      throw (wsException "Session is no longer valid")
    else pure ⟨claims.sub, [], snapshot.isPlatformAdmin⟩

def requirePrincipal : Option SocketPrincipal → Except Failure SocketPrincipal
  | some principal => pure principal
  | none => throw (wsException "Not authenticated")

/-- A `tenantId` that is no string is none. The room that is joined is returned. -/
def handleSubscribe (principal : Option SocketPrincipal) (tenantId : Option String) :
    Except Failure String := do
  let principal ← requirePrincipal principal
  match tenantId.filter fun tenantId => tenantId ≠ "" with
  | none => throw (wsException "tenantId is required")
  | some tenantId =>
    if !principal.isPlatformAdmin && !principal.tenantIds.contains tenantId then
      throw (wsException "You are not a member of that workspace")
    else pure tenantId

/-! The gateway. -/

inductive Phase where
  | verified
  /-- The denylist does not hold the token. -/
  | allowed
  | authenticated (principal : SocketPrincipal)
  | connected (principal : SocketPrincipal)
  /-- Rejected, or disconnected. -/
  | gone

def Phase.principal : Phase → Option SocketPrincipal
  | .authenticated principal | .connected principal => some principal
  | .verified | .allowed | .gone => none

structure Socket where
  claims : VerifiedClaims
  phase : Phase

structure State where
  backend : Backend
  sockets : List Socket
  rooms : List (Nat × String)

inductive Event where
  | handshake (claims : VerifiedClaims)
  | askDenylist (i : Nat)
  | readSnapshot (i : Nat)
  | connect (i : Nat)
  | subscribe (i : Nat) (tenantId : Option String)
  | disconnect (i : Nat)
  /-- Whatever the rest of the application does to the users, or to Redis. -/
  | updateUsers (users : List UserRow)
  | updateRedis (keys : Option (List String))

namespace State

def move (s : State) (i : Nat) (claims : VerifiedClaims) (phase : Phase) : State :=
  { s with sockets := s.sockets.set i ⟨claims, phase⟩ }

/-- `handleConnection`, with the rooms the server decides on. -/
def connect (s : State) (i : Nat) (claims : VerifiedClaims) (principal : SocketPrincipal) : State :=
  { s.move i claims (.connected principal) with
    rooms := s.rooms ++ (userRoom principal.userId :: principal.tenantIds.map tenantRoom).map (i, ·) }

def step (s : State) : Event → Option State
  | .handshake claims => some { s with sockets := s.sockets ++ [⟨claims, .verified⟩] }
  | .askDenylist i =>
      match s.sockets[i]? with
      | some ⟨claims, .verified⟩ =>
          some (s.move i claims (if has s.backend claims.jti then .gone else .allowed))
      | _ => none
  | .readSnapshot i =>
      match s.sockets[i]? with
      | some ⟨claims, .allowed⟩ =>
          match admitSocket s.backend claims with
          | .ok principal => some (s.move i claims (.authenticated principal))
          | .error _ => some (s.move i claims .gone)
      | _ => none
  | .connect i =>
      match s.sockets[i]? with
      | some ⟨claims, .authenticated principal⟩ => some (s.connect i claims principal)
      | _ => none
  | .subscribe i tenantId =>
      match s.sockets[i]? with
      | none | some ⟨_, .gone⟩ => none
      | some ⟨_, phase⟩ =>
          match handleSubscribe phase.principal tenantId with
          | .ok tenantId => some { s with rooms := s.rooms ++ [(i, tenantRoom tenantId)] }
          | .error _ => some s
  | .disconnect i =>
      match s.sockets[i]? with
      | none | some ⟨_, .gone⟩ => none
      | some ⟨claims, _⟩ => some { s.move i claims .gone with
          rooms := s.rooms.filter fun joined => joined.1 ≠ i }
  | .updateUsers users => some { s with backend := { s.backend with users } }
  | .updateRedis keys => some { s with backend := { s.backend with redis := keys } }

def run (s : State) : List Event → Option State
  | [] => some s
  | e :: es => (s.step e).bind fun s' => s'.run es

end State

/-- What a step makes of the sockets. -/
inductive Moves (s : State) : Event → List Socket → Prop where
  | handshake (claims : VerifiedClaims) :
      Moves s (.handshake claims) (s.sockets ++ [⟨claims, .verified⟩])
  | allowed {i : Nat} {claims : VerifiedClaims} (verified : s.sockets[i]? = some ⟨claims, .verified⟩) :
      Moves s (.askDenylist i) (s.sockets.set i ⟨claims, .allowed⟩)
  | authenticated {i : Nat} {claims : VerifiedClaims} {principal : SocketPrincipal}
      (allowed : s.sockets[i]? = some ⟨claims, .allowed⟩)
      (admitted : admitSocket s.backend claims = .ok principal) :
      Moves s (.readSnapshot i) (s.sockets.set i ⟨claims, .authenticated principal⟩)
  | connected {i : Nat} {claims : VerifiedClaims} {principal : SocketPrincipal}
      (authenticated : s.sockets[i]? = some ⟨claims, .authenticated principal⟩) :
      Moves s (.connect i) (s.sockets.set i ⟨claims, .connected principal⟩)
  | revoked {i : Nat} {claims : VerifiedClaims} (verified : s.sockets[i]? = some ⟨claims, .verified⟩) :
      Moves s (.askDenylist i) (s.sockets.set i ⟨claims, .gone⟩)
  | refused {i : Nat} {claims : VerifiedClaims} {failure : Failure}
      (allowed : s.sockets[i]? = some ⟨claims, .allowed⟩)
      (refusal : admitSocket s.backend claims = .error failure) :
      Moves s (.readSnapshot i) (s.sockets.set i ⟨claims, .gone⟩)
  | disconnected {i : Nat} {claims : VerifiedClaims} {phase : Phase}
      (present : s.sockets[i]? = some ⟨claims, phase⟩) :
      Moves s (.disconnect i) (s.sockets.set i ⟨claims, .gone⟩)
  | subscribe (i : Nat) (tenantId : Option String) : Moves s (.subscribe i tenantId) s.sockets
  | updateUsers (users : List UserRow) : Moves s (.updateUsers users) s.sockets
  | updateRedis (keys : Option (List String)) : Moves s (.updateRedis keys) s.sockets

section

variable {s s' : State} {e : Event}

theorem moves_of_step (h : s.step e = some s') : Moves s e s'.sockets := by
  cases e with
  | handshake claims =>
    cases h
    exact .handshake claims
  | askDenylist i =>
    dsimp only [State.step] at h
    split at h
    · rename_i claims verified
      cases h
      dsimp only [State.move]
      split
      · exact .revoked verified
      · exact .allowed verified
    · cases h
  | readSnapshot i =>
    dsimp only [State.step] at h
    split at h
    · rename_i claims allowed
      split at h
      · rename_i principal admitted
        cases h
        exact .authenticated allowed admitted
      · rename_i failure refusal
        cases h
        exact .refused allowed refusal
    · cases h
  | connect i =>
    dsimp only [State.step] at h
    split at h
    · rename_i claims principal authenticated
      cases h
      exact .connected authenticated
    · cases h
  | subscribe i tenantId =>
    dsimp only [State.step] at h
    split at h
    · cases h
    · cases h
    · split at h
      · cases h
        exact .subscribe i tenantId
      · cases h
        exact .subscribe i tenantId
  | disconnect i =>
    dsimp only [State.step] at h
    split at h
    · cases h
    · cases h
    · rename_i claims phase _ present
      cases h
      exact .disconnected present
  | updateUsers users =>
    cases h
    exact .updateUsers users
  | updateRedis keys =>
    cases h
    exact .updateRedis keys

/-- A handshake reads the snapshot once: after that the principal stays what it is. -/
def Phase.Decided : Phase → Prop
  | .verified | .allowed => False
  | .authenticated _ | .connected _ | .gone => True

theorem decided_step {sockets : List Socket} (moves : Moves s e sockets) {i : Nat}
    {claims : VerifiedClaims} {phase : Phase} (present : s.sockets[i]? = some ⟨claims, phase⟩)
    (decided : phase.Decided) :
    ∃ phase', sockets[i]? = some ⟨claims, phase'⟩ ∧ phase'.Decided ∧
      ∀ principal, phase'.principal = some principal → phase.principal = some principal := by
  have elsewhere {j : Nat} {old new : Socket} (there : s.sockets[j]? = some old) (other : i ≠ j) :
      (s.sockets.set j new)[i]? = some ⟨claims, phase⟩ :=
    (set_eq_some there).mpr (.inr ⟨other, present⟩)
  have leaves {j : Nat} {claims' : VerifiedClaims} {old : Phase}
      (there : s.sockets[j]? = some ⟨claims', old⟩) :
      ∃ phase', (s.sockets.set j ⟨claims', .gone⟩)[i]? = some ⟨claims, phase'⟩ ∧ phase'.Decided ∧
        ∀ principal, phase'.principal = some principal → phase.principal = some principal := by
    by_cases same : i = j
    · subst same
      cases present.symm.trans there
      exact ⟨.gone, (set_eq_some there).mpr (.inl ⟨rfl, rfl⟩), trivial, fun _ none => by cases none⟩
    · exact ⟨phase, elsewhere there same, decided, fun _ => id⟩
  cases moves with
  | handshake claims' =>
    exact ⟨phase, concat_eq_some.mpr (.inl present), decided, fun _ => id⟩
  | @allowed j claims' verified =>
    have other : i ≠ j := by
      rintro rfl
      cases present.symm.trans verified
      exact decided
    exact ⟨phase, elsewhere verified other, decided, fun _ => id⟩
  | @authenticated j claims' principal allowed admitted =>
    have other : i ≠ j := by
      rintro rfl
      cases present.symm.trans allowed
      exact decided
    exact ⟨phase, elsewhere allowed other, decided, fun _ => id⟩
  | @connected j claims' principal authenticated =>
    by_cases same : i = j
    · subst same
      cases present.symm.trans authenticated
      exact ⟨.connected principal, (set_eq_some authenticated).mpr (.inl ⟨rfl, rfl⟩), trivial,
        fun _ => id⟩
    · exact ⟨phase, elsewhere authenticated same, decided, fun _ => id⟩
  | revoked there | refused there | disconnected there => exact leaves there
  | subscribe | updateUsers | updateRedis => exact ⟨phase, present, decided, fun _ => id⟩

theorem decided_run {es : List Event} (hrun : s.run es = some s') {i : Nat}
    {claims : VerifiedClaims} {phase : Phase} (present : s.sockets[i]? = some ⟨claims, phase⟩)
    (decided : phase.Decided) :
    ∃ phase', s'.sockets[i]? = some ⟨claims, phase'⟩ ∧ phase'.Decided ∧
      ∀ principal, phase'.principal = some principal → phase.principal = some principal := by
  induction es generalizing s phase with
  | nil =>
    cases hrun
    exact ⟨phase, present, decided, fun _ => id⟩
  | cons e es ih =>
    obtain ⟨mid, hstep, hrest⟩ := Option.bind_eq_some_iff.mp hrun
    obtain ⟨between, present', decided', kept⟩ := decided_step (moves_of_step hstep) present decided
    obtain ⟨last, present'', decided'', kept'⟩ := ih hrest present' decided'
    exact ⟨last, present'', decided'', fun principal has => kept principal (kept' principal has)⟩

end

namespace State

theorem run_append {s : State} {es fs : List Event} :
    s.run (es ++ fs) = (s.run es).bind fun s' => s'.run fs := by
  induction es generalizing s with
  | nil => rfl
  | cons e es ih =>
    simp only [List.cons_append, run]
    cases s.step e with
    | none => rfl
    | some s' => exact ih

theorem run_split {s s' : State} {es fs : List Event} (h : s.run (es ++ fs) = some s') :
    ∃ mid, s.run es = some mid ∧ mid.run fs = some s' := by
  rw [run_append] at h
  exact Option.bind_eq_some_iff.mp h

end State

/-- The handshake of the socket read its snapshot when the gateway was there. -/
def ReadAt (s₀ : State) (es : List Event) (i : Nat) (mid : State) : Prop :=
  ∃ before rest, es = before ++ .readSnapshot i :: rest ∧ s₀.run before = some mid

section

variable {s₀ s s' mid : State} {es : List Event} {i : Nat} {claims : VerifiedClaims} {phase : Phase}
  {principal : SocketPrincipal}

theorem ReadAt.snoc {e : Event} (h : ReadAt s₀ es i mid) : ReadAt s₀ (es ++ [e]) i mid := by
  obtain ⟨before, rest, rfl, hrun⟩ := h
  exact ⟨before, rest ++ [e], by simp, hrun⟩

/-- Whoever has a principal was admitted, with the principal of that moment. -/
theorem readAt_of_principal (idle : s₀.sockets = []) (hrun : s₀.run es = some s)
    (present : s.sockets[i]? = some ⟨claims, phase⟩) (has : phase.principal = some principal) :
    ∃ mid, ReadAt s₀ es i mid ∧ admitSocket mid.backend claims = .ok principal := by
  induction es using List.reverseRecOn generalizing s claims phase principal i with
  | nil =>
    cases hrun
    simp [idle] at present
  | append_singleton es e ih =>
    obtain ⟨last, hes, he⟩ := State.run_split hrun
    obtain ⟨s', hstep, hnil⟩ := Option.bind_eq_some_iff.mp he
    cases hnil
    have earlier {claims : VerifiedClaims} {phase : Phase} {principal : SocketPrincipal}
        (present : last.sockets[i]? = some ⟨claims, phase⟩)
        (has : phase.principal = some principal) :
        ∃ mid, ReadAt s₀ (es ++ [e]) i mid ∧ admitSocket mid.backend claims = .ok principal := by
      obtain ⟨mid, read, admitted⟩ := ih hes present has
      exact ⟨mid, read.snoc, admitted⟩
    have moves := moves_of_step hstep
    generalize s.sockets = sockets at moves present
    cases moves with
    | handshake claims' =>
      rcases concat_eq_some.mp present with old | ⟨-, new⟩
      · exact earlier old has
      · cases new
        cases has
    | authenticated allowed admitted =>
      rcases (set_eq_some allowed).mp present with ⟨rfl, new⟩ | ⟨-, old⟩
      · cases new
        cases has
        exact ⟨last, ⟨es, [], rfl, hes⟩, admitted⟩
      · exact earlier old has
    | connected authenticated =>
      rcases (set_eq_some authenticated).mp present with ⟨rfl, new⟩ | ⟨-, old⟩
      · cases new
        cases has
        exact earlier authenticated rfl
      · exact earlier old has
    | allowed there | revoked there | refused there | disconnected there =>
      rcases (set_eq_some there).mp present with ⟨-, new⟩ | ⟨-, old⟩
      · cases new
        cases has
      · exact earlier old has
    | subscribe | updateUsers | updateRedis => exact earlier present has

theorem admitted_of_readAt (read : ReadAt s₀ es i mid) (hrun : s₀.run es = some s)
    (present : s.sockets[i]? = some ⟨claims, phase⟩) (has : phase.principal = some principal) :
    admitSocket mid.backend claims = .ok principal := by
  obtain ⟨before, rest, rfl, hbefore⟩ := read
  obtain ⟨mid', hmid, hrest⟩ := State.run_split hrun
  cases hbefore.symm.trans hmid
  obtain ⟨after, hstep, hafter⟩ := Option.bind_eq_some_iff.mp hrest
  have moves := moves_of_step hstep
  generalize same : after.sockets = sockets at moves
  cases moves with
  | @authenticated _ claims' principal' allowed admitted =>
    have now : after.sockets[i]? = some ⟨claims', .authenticated principal'⟩ :=
      same ▸ (set_eq_some allowed).mpr (.inl ⟨rfl, rfl⟩)
    obtain ⟨phase', present', -, kept⟩ := decided_run hafter now trivial
    cases present.symm.trans present'
    cases kept principal has
    exact admitted
  | @refused _ claims' failure allowed refusal =>
    have now : after.sockets[i]? = some ⟨claims', .gone⟩ :=
      same ▸ (set_eq_some allowed).mpr (.inl ⟨rfl, rfl⟩)
    obtain ⟨phase', present', -, kept⟩ := decided_run hafter now trivial
    cases present.symm.trans present'
    cases kept principal has

end

/-! The row behind a token. -/

def userRow (backend : Backend) (claims : VerifiedClaims) : Option UserRow :=
  (claims.sub.bind backend.readUuid).bind fun id => backend.users.find? fun row => row.id = id

/-- The columns a privilege hangs on. -/
def standing (backend : Backend) (claims : VerifiedClaims) :
    Option (Option Date × String × Bool × Int) :=
  (userRow backend claims).map fun row =>
    (row.deletedAt, row.status, row.isPlatformAdmin, row.tokenVersion)

/-- The user is not deleted, is active and a platform admin, and the token is of the
user's version. -/
def Entitled (backend : Backend) (claims : VerifiedClaims) : Prop :=
  ∃ row, userRow backend claims = some row ∧ row.deletedAt = none ∧ row.status = "ACTIVE" ∧
    row.isPlatformAdmin = true ∧ some row.tokenVersion = claims.tv

/-- `handleSubscribe` joins the socket to the room of a tenant. -/
def Joins (s : State) (i : Nat) (claims : VerifiedClaims) (s' : State) : Prop :=
  ∃ phase tenantId, s.sockets[i]? = some ⟨claims, phase⟩ ∧
    handleSubscribe phase.principal (some tenantId) = .ok tenantId ∧
    s.step (.subscribe i (some tenantId)) = some s'

section

variable {backend : Backend} {claims : VerifiedClaims} {principal : SocketPrincipal}

theorem userRow_of_snapshot {snapshot : PrismaUserRepository.AuthSnapshot}
    (h : findAuthSnapshot backend claims.sub = .ok (some snapshot)) :
    ∃ row, userRow backend claims = some row ∧ toUserStatus row.status = .ok snapshot.status ∧
      row.tokenVersion = snapshot.tokenVersion ∧ row.isPlatformAdmin = snapshot.isPlatformAdmin ∧
      row.deletedAt = snapshot.deletedAt := by
  unfold findAuthSnapshot at h
  split at h
  · cases h
  rename_i text sub
  split at h
  · cases h
  rename_i id read
  unfold PrismaUserRepository.findAuthSnapshot at h
  split at h
  · cases h
  rename_i row found
  refine ⟨row, by rw [userRow, sub, Option.bind_some, read, Option.bind_some, found], ?_⟩
  cases status : toUserStatus row.status with
  | error failure =>
    rw [status] at h
    cases h
  | ok value =>
    rw [status] at h
    cases h
    exact ⟨rfl, rfl, rfl, rfl⟩

theorem row_of_admit (h : admitSocket backend claims = .ok principal) :
    ∃ row, userRow backend claims = some row ∧ row.deletedAt = none ∧ row.status = "ACTIVE" ∧
      some row.tokenVersion = claims.tv ∧ principal = ⟨claims.sub, [], row.isPlatformAdmin⟩ := by
  -- with an empty denylist the handshake is its second half
  have door : EventsGateway.authenticate { backend with redis := some [] } claims =
      .ok principal := by
    rw [EventsGateway.authenticate, if_neg (by simp [has])]
    exact h
  obtain ⟨snapshot, ⟨-, found, present, version, active⟩, rfl⟩ := authenticate_eq_ok.mp door
  obtain ⟨row, named, status, sameVersion, sameAdmin, sameDeleted⟩ := userRow_of_snapshot found
  refine ⟨row, named, sameDeleted.trans present, ?_, by rw [sameVersion, version], by rw [sameAdmin]⟩
  rw [active] at status
  exact toUserStatus_eq_ok.mp status

/-- Only an admin, or a member, is let into the room. -/
theorem principal_of_handleSubscribe {found : Option SocketPrincipal} {tenantId : String}
    (h : handleSubscribe found (some tenantId) = .ok tenantId) :
    ∃ principal, found = some principal ∧
      (principal.isPlatformAdmin = true ∨ tenantId ∈ principal.tenantIds) := by
  cases found with
  | none => cases h
  | some principal =>
    refine ⟨principal, rfl, ?_⟩
    simp only [handleSubscribe, requirePrincipal, pure_bind] at h
    split at h
    · cases h
    · rename_i named filtered
      have same : tenantId = named := (Option.filter_eq_some_iff.mp filtered).1 |> Option.some.inj
      split at h
      · cases h
      · rename_i stranger
        rw [same]
        cases admin : principal.isPlatformAdmin with
        | true => exact .inl rfl
        | false =>
          rw [admin] at stranger
          exact .inr (by simpa using stranger)

end

section

variable {s₀ s s' : State} {es : List Event} {i : Nat} {claims : VerifiedClaims}

/-- Whoever is joined is entitled to it exactly if the columns that count are as they
were when the handshake read them. -/
theorem subscribe_entitled_iff (idle : s₀.sockets = []) (hrun : s₀.run es = some s)
    (joins : Joins s i claims s') :
    Entitled s.backend claims ↔
      ∃ mid, ReadAt s₀ es i mid ∧ standing mid.backend claims = standing s.backend claims := by
  obtain ⟨phase, tenantId, present, handled, -⟩ := joins
  obtain ⟨principal, has, allowed⟩ := principal_of_handleSubscribe handled
  -- nobody has tenants: the principal is an admin
  have admin {mid : State} (admitted : admitSocket mid.backend claims = .ok principal) :
      ∃ row, userRow mid.backend claims = some row ∧ row.deletedAt = none ∧
        row.status = "ACTIVE" ∧ row.isPlatformAdmin = true ∧ some row.tokenVersion = claims.tv := by
    obtain ⟨row, named, present, active, version, rfl⟩ := row_of_admit admitted
    exact ⟨row, named, present, active, allowed.resolve_right List.not_mem_nil, version⟩
  constructor
  · rintro ⟨row, named, alive, active, privileged, version⟩
    obtain ⟨mid, read, admitted⟩ := readAt_of_principal idle hrun present has
    obtain ⟨row', named', alive', active', privileged', version'⟩ := admin admitted
    refine ⟨mid, read, ?_⟩
    have sameVersion := Option.some.inj (version'.trans version.symm)
    simp only [standing, named, named', Option.map_some, alive, alive', active, active', privileged,
      privileged', sameVersion]
  · rintro ⟨mid, read, same⟩
    obtain ⟨row', named', alive', active', privileged', version'⟩ :=
      admin (admitted_of_readAt read hrun present has)
    simp only [standing, named', Option.map_some] at same
    obtain ⟨row, named, columns⟩ := Option.map_eq_some_iff.mp same.symm
    simp only [Prod.mk.injEq] at columns
    obtain ⟨sameDeleted, sameStatus, sameAdmin, sameVersion⟩ := columns
    exact ⟨row, named, sameDeleted.trans alive', sameStatus.trans active',
      sameAdmin.trans privileged', by rw [sameVersion, version']⟩

end

/-! A platform admin who is demoted while connected. -/

def asAdmin (row : UserRow) : UserRow :=
  { row with isPlatformAdmin := true }

def adminClaims : VerifiedClaims where
  sub := some "6f1c0b9e-6f0e-4c57-9d0a-2f1d6c1b7a11"
  tv := some 0
  tid := none
  role := none
  jti := some "jti-0"
  exp := some 1700000000

def emptyGateway : State where
  backend := { sampleBackend with users := sampleBackend.users.map asAdmin }
  sockets := []
  rooms := []

def connects : List Event :=
  [.handshake adminClaims, .askDenylist 0, .readSnapshot 0, .connect 0]

def adminPrincipal : SocketPrincipal where
  userId := some "6f1c0b9e-6f0e-4c57-9d0a-2f1d6c1b7a11"
  tenantIds := []
  isPlatformAdmin := true

theorem subscribe_entitled_iff_connected : Entitled emptyGateway.backend adminClaims := by
  have hrun : emptyGateway.run connects = some
      ⟨emptyGateway.backend, [⟨adminClaims, .connected adminPrincipal⟩],
        [(0, userRoom adminClaims.sub)]⟩ := rfl
  apply (subscribe_entitled_iff rfl hrun (i := 0)
    ⟨.connected adminPrincipal, "acme", rfl, rfl, rfl⟩).mpr
  exact ⟨_, ⟨[.handshake adminClaims, .askDenylist 0], [.connect 0], rfl, rfl⟩, rfl⟩

/-- The demoted admin joins the room of any tenant. -/
theorem demoted_admin_subscribes :
    ¬ ∀ (s₀ s s' : State) (es : List Event) (i : Nat) (claims : VerifiedClaims),
      s₀.sockets = [] → s₀.run es = some s → Joins s i claims s' → Entitled s.backend claims := by
  intro claim
  obtain ⟨row, named, -, -, privileged, -⟩ := claim emptyGateway _ _
    (connects ++ [.updateUsers sampleBackend.users]) 0 adminClaims rfl rfl
    ⟨.connected adminPrincipal, "acme", rfl, rfl, rfl⟩
  cases named
  cases privileged

end TenantOS.Auth.SocketSubscriptions
