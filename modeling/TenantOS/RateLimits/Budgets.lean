import TenantOS.Shared.ThrottlerGuard
import TenantOS.RateLimits.CounterSafety

/-! What the configured budgets come to over one window: the guard decides by the
number of requests a client sent to the one route, so a budget is neither shared
by the routes of a controller nor kept from the routes that do not name it. What is
exempt by its URL, or is not answered by Redis, has no budget at all. -/
namespace TenantOS.RateLimits

open TenantOS.Http TenantOS.Infrastructure TenantOS.Modules TenantOS.Redis TenantOS.Shared
open TenantOS.Infrastructure.Config (AppConfigService)
open ThrottlerBehindProxyGuard (generateKey getTracker skips canActivate serve)

/-! One bucket within one window. -/

namespace Bucket

variable {b : Bucket} {db db' : Keyspace String} {now horizon : Int} {count : Nat}

/-- The bucket after `count` hits, none of which runs out before `horizon`. -/
structure Stands (b : Bucket) (horizon : Int) (count : Nat) (db : Keyspace String) : Prop where
  untouched : count = 0 → db b.hits = none
  counted : count ≠ 0 → ∃ value expireAt, db b.hits = some ⟨value, some expireAt⟩ ∧
    horizon ≤ expireAt ∧ min value (b.limit + 1) = min (count : Int) (b.limit + 1)
  unmarked : (count : Int) ≤ b.limit → db b.marker = none
  marked : b.limit < count → ∃ value expireAt, db b.marker = some ⟨value, some expireAt⟩ ∧
    horizon ≤ expireAt

theorem Stands.congr (h : b.Stands horizon count db) (hits : db' b.hits = db b.hits)
    (marker : db' b.marker = db b.marker) : b.Stands horizon count db' where
  untouched zero := hits.trans (h.untouched zero)
  counted nonzero := by
    obtain ⟨value, expireAt, found, rest⟩ := h.counted nonzero
    exact ⟨value, expireAt, hits.trans found, rest⟩
  unmarked within := marker.trans (h.unmarked within)
  marked exceeded := by
    obtain ⟨value, expireAt, found, rest⟩ := h.marked exceeded
    exact ⟨value, expireAt, marker.trans found, rest⟩

theorem Stands.shape (h : b.Stands horizon count db) (wf : b.WellFormed) :
    ∃ last, b.Counted last db := by
  by_cases zero : count = 0
  · exact ⟨0, counted_of_none (h.untouched zero) 0⟩
  · obtain ⟨value, expireAt, found, -, same⟩ := h.counted zero
    refine ⟨expireAt, fun entry stored => ?_⟩
    cases found.symm.trans stored
    have := wf.limit
    have := wf.ttl
    exact ⟨value, expireAt, rfl, by omega, by omega⟩

/-- A hit within the window counts on from where the bucket stands. -/
theorem Stands.hit (h : b.Stands horizon count db) (wf : b.WellFormed) (within : now ≤ horizon)
    (covers : horizon ≤ now + b.ttl) {value expireAt : Int} (hit : Hit b now db value expireAt) :
    horizon ≤ expireAt ∧ min value (b.limit + 1) = min ((count + 1 : Nat) : Int) (b.limit + 1) := by
  have := wf.limit
  cases hit with
  | opened missing =>
    refine ⟨covers, ?_⟩
    by_cases zero : count = 0
    · omega
    · obtain ⟨value, expireAt, found, later, -⟩ := h.counted zero
      rw [Keyspace.lookup_some_expiry found, if_pos (by omega)] at missing
      cases missing
  | counted found live =>
    by_cases zero : count = 0
    · rw [h.untouched zero] at found
      cases found
    · obtain ⟨value, expireAt, found', later, same⟩ := h.counted zero
      cases found.symm.trans found'
      omega

/-- Within the window the bucket refuses exactly the hits over its limit. -/
theorem Stands.increment (h : b.Stands horizon count db) (wf : b.WellFormed)
    (within : now ≤ horizon) (covers : horizon ≤ now + b.ttl) (blocks : b.ttl ≤ b.block) :
    (b.increment now db).1.isBlocked = decide (b.limit < ((count + 1 : Nat) : Int)) ∧
      b.Stands horizon (count + 1) (b.increment now db).2 := by
  obtain ⟨last, shape⟩ := h.shape wf
  have answer := increment_answer shape now
  generalize (b.increment now db).1.isBlocked = blocked at answer ⊢
  generalize (b.increment now db).2 = db' at answer ⊢
  have := wf.limit
  cases answer with
  | marked left =>
    have exceeded : b.limit < count := by
      by_contra under
      have missing : db.lookup now b.marker = none := Keyspace.lookup_none (h.unmarked (by omega))
      rw [Keyspace.pttl_of_missing missing] at left
      omega
    refine ⟨(decide_eq_true (by omega)).symm, ⟨fun zero => by omega, fun _ => ?_, fun _ => by omega,
      fun _ => h.marked exceeded⟩⟩
    obtain ⟨value, expireAt, found, later, same⟩ := h.counted (by omega)
    exact ⟨value, expireAt, found, later, by omega⟩
  | @admitted value expireAt unmarked hit limit =>
    have stands := h.hit wf within covers hit
    refine ⟨(decide_eq_false (by omega)).symm, ⟨fun zero => by omega, fun _ => ?_, fun _ => ?_,
      fun _ => by omega⟩⟩
    · exact ⟨value, expireAt, Keyspace.put_self, stands⟩
    · rw [Keyspace.put_of_ne hits_ne_marker.symm]
      exact h.unmarked (by omega)
  | @refused value expireAt unmarked hit exceeded =>
    have stands := h.hit wf within covers hit
    refine ⟨(decide_eq_true (by omega)).symm, ⟨fun zero => by omega, fun _ => ?_, fun _ => by omega,
      fun _ => ?_⟩⟩
    · exact ⟨value, expireAt, (Keyspace.put_of_ne hits_ne_marker).trans Keyspace.put_self, stands⟩
    · exact ⟨1, now + b.block, Keyspace.put_self, by omega⟩

theorem increment_of_ne {other : String} (hits : other ≠ b.hits) (marker : other ≠ b.marker) :
    (b.increment now db).2 other = db other :=
  RedisThrottlerStorage.script_of_ne hits marker

end Bucket

/-! The buckets of one client are kept apart by their keys. -/

/-- A separator that does not occur before it splits a text in one way. -/
theorem split_at_separator {α : Type} {separator : α} {front front' rest rest' : List α}
    (h : separator ∉ front) (h' : separator ∉ front')
    (same : front ++ separator :: rest = front' ++ separator :: rest') :
    front = front' ∧ rest = rest' := by
  induction front generalizing front' with
  | nil =>
    cases front' with
    | nil => exact ⟨rfl, List.tail_eq_of_cons_eq same⟩
    | cons first front' =>
      obtain ⟨rfl, -⟩ := List.cons.inj same
      exact absurd List.mem_cons_self h'
  | cons first front ih =>
    cases front' with
    | nil =>
      obtain ⟨rfl, -⟩ := List.cons.inj same
      exact absurd List.mem_cons_self h
    | cons first' front' =>
      obtain ⟨rfl, tail⟩ := List.cons.inj same
      obtain ⟨rfl, rest⟩ := ih (fun mem => h (List.mem_cons_of_mem _ mem))
        (fun mem => h' (List.mem_cons_of_mem _ mem)) tail
      exact ⟨rfl, rest⟩

/-- A name the keys can be read back from. -/
def Plain (name : String) : Prop :=
  '-' ∉ name.toList ∧ ':' ∉ name.toList ∧ name ≠ "block"

theorem names_plain : ∀ controller ∈ controllers, '-' ∉ controller.name.toList ∧
    ∀ handler ∈ controller.handlers, '-' ∉ handler.name.toList := by
  decide +kernel

theorem controllers_named : ∀ controller ∈ controllers, ∀ controller' ∈ controllers,
    controller.name = controller'.name → controller = controller' := by
  decide +kernel

theorem handlers_named : ∀ controller ∈ controllers, ∀ handler ∈ controller.handlers,
    ∀ handler' ∈ controller.handlers, handler.name = handler'.name → handler = handler' := by
  decide +kernel

variable {hash : String → String} {limits : ThrottleConfig} {tracker : String}

theorem generateKey_injective (injective : Function.Injective hash) {route route' : Route}
    {name name' : String} (plain : Plain name) (plain' : Plain name')
    (same : generateKey hash route tracker name = generateKey hash route' tracker name') :
    route = route' ∧ name = name' := by
  have text := congrArg String.toList (injective same)
  simp only [String.toList_append, List.append_assoc] at text
  have names := names_plain _ route.mounted
  have names' := names_plain _ route'.mounted
  obtain ⟨sameClass, text⟩ := split_at_separator names.1 names'.1 text
  obtain ⟨sameHandler, text⟩ :=
    split_at_separator (names.2 _ route.declared) (names'.2 _ route'.declared) text
  obtain ⟨sameName, -⟩ := split_at_separator plain.1 plain'.1 text
  refine ⟨?_, String.toList_injective sameName⟩
  cases route with
  | mk controller handler mounted declared =>
    cases route' with
    | mk controller' handler' mounted' declared' =>
      cases controllers_named _ mounted _ mounted' (String.toList_injective sameClass)
      cases handlers_named _ mounted _ declared _ declared' (String.toList_injective sameHandler)
      rfl

theorem hitKey_injective {name name' key key' : String} (plain : Plain name) (plain' : Plain name')
    (same : RedisThrottlerStorage.hitKey name key = RedisThrottlerStorage.hitKey name' key') :
    name = name' ∧ key = key' := by
  have text := congrArg String.toList same
  simp only [RedisThrottlerStorage.hitKey, String.toList_append, List.append_assoc] at text
  obtain ⟨sameName, sameKey⟩ :=
    split_at_separator plain.2.1 plain'.2.1 (List.append_cancel_left text)
  exact ⟨String.toList_injective sameName, String.toList_injective sameKey⟩

theorem blockKey_injective {name name' key key' : String} (plain : Plain name)
    (plain' : Plain name')
    (same : RedisThrottlerStorage.blockKey name key = RedisThrottlerStorage.blockKey name' key') :
    name = name' ∧ key = key' := by
  have text := congrArg String.toList same
  simp only [RedisThrottlerStorage.blockKey, String.toList_append, List.append_assoc] at text
  obtain ⟨sameName, sameKey⟩ :=
    split_at_separator plain.2.1 plain'.2.1 (List.append_cancel_left text)
  exact ⟨String.toList_injective sameName, String.toList_injective sameKey⟩

/-- A block marker reads as a counter of a throttler named `block`. -/
theorem hitKey_ne_blockKey {name name' key key' : String} (plain : Plain name) :
    RedisThrottlerStorage.hitKey name key ≠ RedisThrottlerStorage.blockKey name' key' := by
  intro same
  have text := congrArg String.toList same
  simp only [RedisThrottlerStorage.hitKey, RedisThrottlerStorage.blockKey, String.toList_append,
    List.append_assoc] at text
  have marker : "throttle:block:".toList = "throttle:".toList ++ ("block".toList ++ [':']) := by
    decide
  rw [marker, List.append_assoc, List.append_assoc] at text
  obtain ⟨sameName, -⟩ :=
    split_at_separator plain.2.1 (by decide : ':' ∉ "block".toList) (List.append_cancel_left text)
  exact plain.2.2 (String.toList_injective sameName)

/-- The bucket a route's requests are counted in, by the throttler of that name. -/
def bucket (hash : String → String) (tracker : String) (route : Route)
    (throttler : ThrottlerOptions) : Bucket where
  throttlerName := throttler.name
  key := generateKey hash route tracker throttler.name
  ttl := throttler.ttl
  limit := throttler.limit
  blockDuration := throttler.ttl

structure Apart (b b' : Bucket) : Prop where
  hits : b.hits ≠ b'.hits
  hits_marker : b.hits ≠ b'.marker
  marker_hits : b.marker ≠ b'.hits
  marker : b.marker ≠ b'.marker

theorem apart (injective : Function.Injective hash) {route route' : Route}
    {throttler throttler' : ThrottlerOptions} (plain : Plain throttler.name)
    (plain' : Plain throttler'.name) (h : route ≠ route' ∨ throttler.name ≠ throttler'.name) :
    Apart (bucket hash tracker route throttler) (bucket hash tracker route' throttler') where
  hits same := by
    obtain ⟨-, sameKey⟩ := hitKey_injective plain plain' same
    obtain ⟨sameRoute, sameName⟩ := generateKey_injective injective plain plain' sameKey
    exact h.elim (· sameRoute) (· sameName)
  hits_marker := hitKey_ne_blockKey plain
  marker_hits := (hitKey_ne_blockKey plain').symm
  marker same := by
    obtain ⟨-, sameKey⟩ := blockKey_injective plain plain' same
    obtain ⟨sameRoute, sameName⟩ := generateKey_injective injective plain plain' sameKey
    exact h.elim (· sameRoute) (· sameName)

theorem Bucket.Stands.apart {b b' : Bucket} {db : Keyspace String} {now horizon : Int} {count : Nat}
    (h : b.Stands horizon count db) (apart : Apart b b') :
    b.Stands horizon count (b'.increment now db).2 :=
  h.congr (increment_of_ne apart.hits apart.hits_marker)
    (increment_of_ne apart.marker_hits apart.marker)

/-! The guard, on a table of counters. -/

/-- How often a route has been counted, by the throttler. -/
abbrev Tally := Route → String → Nat

def Tally.hit (tally : Tally) (route : Route) (name : String) : Tally :=
  fun route' name' => tally route' name' + if route' = route ∧ name' = name then 1 else 0

variable {config : AppConfigService}

/-- The hit gets to the counter. -/
def counted (request : Request config) (name : String) : Bool :=
  !skips request name && request.delivery name ≠ .lost

/-- The counter's answer gets back. -/
def heeded (request : Request config) (name : String) : Bool :=
  !skips request name && request.delivery name = .answered

def Tally.after (tally : Tally) (request : Request config) (name : String) : Tally :=
  if counted request name then tally.hit request.route name else tally

/-- The guard, were the counters a table. -/
def activate (request : Request config) : List ThrottlerOptions → Tally → Bool × Tally
  | [], tally => (true, tally)
  | throttler :: rest, tally =>
      let tally := tally.after request throttler.name
      if heeded request throttler.name && throttler.limit < tally request.route throttler.name
      then (false, tally)
      else activate request rest tally

def decisions (limits : ThrottleConfig) : List (Request config) → Tally →
    List (Request config × Bool)
  | [], _ => []
  | request :: rest, tally =>
      let (allowed, tally) := activate request (throttlers limits) tally
      (request, allowed) :: decisions limits rest tally

/-- The throttlers the guard is set up with. -/
structure Configured (horizon now : Int) (options : List ThrottlerOptions) : Prop where
  plain : ∀ throttler ∈ options, Plain throttler.name
  named : ∀ throttler ∈ options, ∀ throttler' ∈ options, throttler.name = throttler'.name →
    throttler = throttler'
  ttl : ∀ throttler ∈ options, 0 < throttler.ttl ∧ horizon ≤ now + throttler.ttl
  limit : ∀ throttler ∈ options, 0 < throttler.limit

/-- Every bucket of the client stands where the table says. -/
def Shows (hash : String → String) (tracker : String) (horizon : Int)
    (options : List ThrottlerOptions) (tally : Tally) (db : Keyspace String) : Prop :=
  ∀ route, ∀ throttler ∈ options,
    (bucket hash tracker route throttler).Stands horizon (tally route throttler.name) db

section

variable {request : Request config} {horizon : Int} {options : List ThrottlerOptions}
  {throttler : ThrottlerOptions} {tally : Tally} {db : Keyspace String}

theorem Configured.wellFormed {now : Int} (h : Configured horizon now options)
    (mem : throttler ∈ options) (route : Route) :
    (bucket hash tracker route throttler).WellFormed where
  ttl := Int.natCast_pos.mpr (h.ttl throttler mem).1
  limit := Int.natCast_pos.mpr (h.limit throttler mem)
  blockDuration := Int.natCast_nonneg _

/-- A hit counts on in its own bucket, which refuses what exceeds the limit. -/
theorem Shows.hit {now : Int} (h : Shows hash tracker horizon options tally db)
    (injective : Function.Injective hash) (configured : Configured horizon now options)
    (within : now ≤ horizon) (mem : throttler ∈ options) (route : Route) :
    ((bucket hash tracker route throttler).increment now db).1.isBlocked =
        decide (throttler.limit < tally.hit route throttler.name route throttler.name) ∧
      Shows hash tracker horizon options (tally.hit route throttler.name)
        ((bucket hash tracker route throttler).increment now db).2 := by
  have self : tally.hit route throttler.name route throttler.name =
      tally route throttler.name + 1 := by
    simp [Tally.hit]
  obtain ⟨blocked, stands⟩ := (h route throttler mem).increment
    (configured.wellFormed mem route) within (configured.ttl throttler mem).2
    (by unfold Bucket.block RedisThrottlerStorage.effectiveBlock; split <;> exact le_rfl)
  constructor
  · rw [blocked, self, decide_eq_decide]
    exact Int.ofNat_lt
  intro route' throttler' mem'
  by_cases same : route' = route ∧ throttler'.name = throttler.name
  · obtain ⟨rfl, named⟩ := same
    obtain rfl := configured.named _ mem' _ mem named
    rwa [self]
  · have other : tally.hit route throttler.name route' throttler'.name =
        tally route' throttler'.name := by
      simp [Tally.hit, same]
    rw [other]
    refine (h route' throttler' mem').apart (apart injective (configured.plain _ mem')
      (configured.plain _ mem) ?_)
    rwa [← not_and_or]

/-- The guard and the table decide alike, and the buckets go on standing as the table says. -/
theorem canActivate_simulates (injective : Function.Injective hash)
    (configured : Configured horizon request.time options) (within : request.time ≤ horizon)
    {rest : List ThrottlerOptions} (part : rest ⊆ options)
    (h : Shows hash (getTracker request) horizon options tally db) :
    (canActivate hash request rest db).1 = (activate request rest tally).1 ∧
      Shows hash (getTracker request) horizon options (activate request rest tally).2
        (canActivate hash request rest db).2 := by
  induction rest generalizing tally db with
  | nil => exact ⟨rfl, h⟩
  | cons throttler rest ih =>
    have ih := fun tally db => @ih tally db (List.subset_of_cons_subset part)
    rw [canActivate, activate]
    cases skipped : skips request throttler.name with
    | true =>
      simp only [Tally.after, counted, heeded, skipped, Bool.not_true, Bool.false_and,
        Bool.false_eq_true, if_false, if_true]
      exact ih tally db h
    | false =>
      obtain ⟨blocked, hit⟩ := h.hit injective configured within (part List.mem_cons_self)
        request.route
      cases delivered : request.delivery throttler.name with
      | lost =>
        simp only [Tally.after, counted, heeded, skipped, delivered,
          ThrottlerBehindProxyGuard.handleRequest, RedisThrottlerStorage.increment]
        exact ih tally db h
      | unheard =>
        simp only [Tally.after, counted, heeded, skipped, delivered,
          ThrottlerBehindProxyGuard.handleRequest, RedisThrottlerStorage.increment]
        exact ih _ _ hit
      | answered =>
        have handled : ThrottlerBehindProxyGuard.handleRequest hash request throttler db =
            (!((bucket hash (getTracker request) request.route throttler).increment request.time
              db).1.isBlocked,
            ((bucket hash (getTracker request) request.route throttler).increment request.time
              db).2) := by
          rw [ThrottlerBehindProxyGuard.handleRequest, delivered]
          rfl
        rw [handled, blocked]
        simp only [Tally.after, counted, heeded, skipped, delivered, Bool.not_false, Bool.true_and,
          if_true, Bool.false_eq_true, if_false, ne_eq, reduceCtorEq, not_false_eq_true, decide_true]
        by_cases exceeded : throttler.limit <
            tally.hit request.route throttler.name request.route throttler.name
        · simp only [exceeded, decide_true, Bool.not_true, Bool.false_eq_true, if_false, if_true]
          exact ⟨trivial, hit⟩
        · simp only [exceeded, decide_false, Bool.not_false, if_true, Bool.false_eq_true, if_false]
          exact ih _ _ hit

end

/-! A run of one client within one window. -/

/-- The requests of one client in the window that starts at `start`. -/
def Window (limits : ThrottleConfig) (client : String) (start : Int)
    (requests : List (Request config)) : Prop :=
  ∀ request ∈ requests, getTracker request = client ∧ start ≤ request.time ∧
    request.time ≤ start + (limits.ttlS * 1000 : Nat)

def Fresh (hash : String → String) (limits : ThrottleConfig) (client : String)
    (db : Keyspace String) : Prop :=
  ∀ route, ∀ throttler ∈ throttlers limits,
    db (bucket hash client route throttler).hits = none ∧
      db (bucket hash client route throttler).marker = none

theorem plain_default : Plain "default" := ⟨by decide, by decide, by decide⟩

theorem plain_auth : Plain "auth" := ⟨by decide, by decide, by decide⟩

theorem configured {horizon now : Int} (later : horizon ≤ now + (limits.ttlS * 1000 : Nat)) :
    Configured horizon now (throttlers limits) where
  plain throttler mem := by
    simp only [throttlers, List.mem_cons, List.not_mem_nil, or_false] at mem
    rcases mem with rfl | rfl
    · exact plain_default
    · exact plain_auth
  named := by
    simp [throttlers]
  ttl throttler mem := by
    have := limits.ttlS_pos
    simp only [throttlers, List.mem_cons, List.not_mem_nil, or_false] at mem
    rcases mem with rfl | rfl
    · exact ⟨by dsimp only; omega, later⟩
    · exact ⟨by dsimp only; omega, later⟩
  limit throttler mem := by
    simp only [throttlers, List.mem_cons, List.not_mem_nil, or_false] at mem
    rcases mem with rfl | rfl
    · exact limits.limit_pos
    · exact limits.authLimit_pos

theorem stands_fresh {b : Bucket} {db : Keyspace String} {horizon : Int} (limit : 0 ≤ b.limit)
    (hits : db b.hits = none) (marker : db b.marker = none) : b.Stands horizon 0 db where
  untouched _ := hits
  counted nonzero := absurd rfl nonzero
  unmarked _ := marker
  marked exceeded := by omega

theorem shows_fresh {client : String} {horizon : Int} {db : Keyspace String}
    (fresh : Fresh hash limits client db) :
    Shows hash client horizon (throttlers limits) (fun _ _ => 0) db := by
  intro route throttler mem
  obtain ⟨hits, marker⟩ := fresh route throttler mem
  exact stands_fresh (Int.natCast_nonneg _) hits marker

theorem serve_eq_decisions (injective : Function.Injective hash) {client : String} {start : Int}
    {requests : List (Request config)} (window : Window limits client start requests)
    {tally : Tally} {db : Keyspace String}
    (h : Shows hash client (start + (limits.ttlS * 1000 : Nat)) (throttlers limits) tally db) :
    serve hash limits requests db = decisions limits requests tally := by
  induction requests generalizing tally db with
  | nil => rfl
  | cons request rest ih =>
    obtain ⟨rfl, started, within⟩ := window request List.mem_cons_self
    obtain ⟨decided, shows⟩ := canActivate_simulates injective (configured (by omega)) within
      (List.Subset.refl _) h
    change (request, (canActivate hash request (throttlers limits) db).1) :: _ = _
    rw [decided]
    exact congrArg _ (ih (fun r mem => window r (List.mem_cons_of_mem _ mem)) shows)

/-! What the table says after a run. -/

def hits (requests : List (Request config)) (route : Route) (name : String) : Nat :=
  requests.countP fun request => request.route = route && counted request name

def tallied (limits : ThrottleConfig) (requests : List (Request config)) : Tally :=
  requests.foldl (fun tally request => (activate request (throttlers limits) tally).2) fun _ _ => 0

def admitted (limits : ThrottleConfig) (earlier : List (Request config))
    (request : Request config) : Bool :=
  (activate request (throttlers limits) (tallied limits earlier)).1

section

variable {requests earlier : List (Request config)} {request : Request config} {route : Route}
  {name : String} {tally : Tally}

theorem hits_snoc : hits (requests ++ [request]) route name =
    hits requests route name + if request.route = route && counted request name then 1 else 0 := by
  simp [hits, List.countP_append, List.countP_singleton]

theorem hits_le (p : Request config → Bool)
    (le : ∀ request ∈ requests, request.route = route → p request) :
    hits requests route name ≤ requests.countP p := by
  apply List.countP_mono_left
  intro request mem both
  rw [Bool.and_eq_true, decide_eq_true_eq] at both
  exact le request mem both.1

theorem counted_of_heeded (h : heeded request name = true) : counted request name = true := by
  simp only [heeded, counted, Bool.and_eq_true, decide_eq_true_eq] at h ⊢
  exact ⟨h.1, by simp [h.2]⟩

theorem activate_throttlers : activate request (throttlers limits) tally =
    let first := tally.after request "default"
    let second := first.after request "auth"
    if heeded request "default" && limits.limit < first request.route "default" then (false, first)
    else (!(heeded request "auth" && limits.authLimit < second request.route "auth"), second) := by
  have last (refused : Bool) (tally : Tally) :
      (if refused then (false, tally) else (true, tally)) = (!refused, tally) := by
    cases refused <;> rfl
  simp only [activate, throttlers, last]

theorem tallied_snoc : tallied limits (requests ++ [request]) =
    (activate request (throttlers limits) (tallied limits requests)).2 := by
  rw [tallied, List.foldl_append]
  rfl

theorem after_self : tally.after request name route name =
    tally route name + if request.route = route && counted request name then 1 else 0 := by
  unfold Tally.after
  cases counted request name <;> simp [Tally.hit, eq_comm]

theorem after_of_ne {other : String} (h : other ≠ name) :
    tally.after request name route other = tally route other := by
  unfold Tally.after
  cases counted request name <;> simp [Tally.hit, h]

theorem tallied_default (limits : ThrottleConfig) (requests : List (Request config))
    (route : Route) : tallied limits requests route "default" = hits requests route "default" := by
  induction requests using List.reverseRecOn with
  | nil => rfl
  | append_singleton requests request ih =>
    rw [tallied_snoc, hits_snoc, activate_throttlers, ← ih]
    dsimp only
    split
    · exact after_self
    · exact (after_of_ne (by decide)).trans after_self

theorem tallied_auth (within : hits requests route "default" ≤ limits.limit) :
    tallied limits requests route "auth" = hits requests route "auth" := by
  induction requests using List.reverseRecOn with
  | nil => rfl
  | append_singleton requests request ih =>
    have earlier : hits requests route "default" ≤ limits.limit := by
      rw [hits_snoc] at within
      omega
    rw [tallied_snoc, hits_snoc, activate_throttlers]
    dsimp only
    split
    · rename_i refused
      rw [Bool.and_eq_true, decide_eq_true_eq] at refused
      have other : request.route ≠ route := by
        rintro rfl
        rw [after_self, tallied_default, ← hits_snoc] at refused
        omega
      dsimp only
      rw [after_of_ne (by decide), ih earlier]
      simp [other]
    · dsimp only
      rw [after_self, after_of_ne (by decide), ih earlier]

/-- Within the general limit the auth throttler alone decides. -/
theorem admitted_within
    (within : hits (earlier ++ [request]) request.route "default" ≤ limits.limit) :
    admitted limits earlier request = !(heeded request "auth" &&
      decide (limits.authLimit < hits (earlier ++ [request]) request.route "auth")) := by
  have before : hits earlier request.route "default" ≤ limits.limit := by
    rw [hits_snoc] at within
    omega
  have passes : ¬ limits.limit < (tallied limits earlier).after request "default" request.route
      "default" := by
    rw [after_self, tallied_default, ← hits_snoc]
    omega
  rw [admitted, activate_throttlers]
  dsimp only
  rw [if_neg (by simp [passes])]
  dsimp only
  rw [after_self, after_of_ne (by decide), tallied_auth before, ← hits_snoc]

/-! The decisions one by one. -/

theorem decisions_append (first second : List (Request config)) (tally : Tally) :
    decisions limits (first ++ second) tally = decisions limits first tally ++
      decisions limits second
        (first.foldl (fun tally request => (activate request (throttlers limits) tally).2) tally) := by
  induction first generalizing tally with
  | nil => rfl
  | cons request first ih => exact congrArg (_ :: ·) (ih _)

theorem decisions_fst (requests : List (Request config)) (tally : Tally) :
    (decisions limits requests tally).map Prod.fst = requests := by
  induction requests generalizing tally with
  | nil => rfl
  | cons request rest ih => exact congrArg (request :: ·) (ih _)

/-- The run of a client that nothing is counted against. -/
def log (limits : ThrottleConfig) (requests : List (Request config)) :
    List (Request config × Bool) :=
  decisions limits requests fun _ _ => 0

theorem log_fst (limits : ThrottleConfig) (requests : List (Request config)) :
    (log limits requests).map Prod.fst = requests :=
  decisions_fst requests _

theorem log_snoc : log limits (requests ++ [request]) =
    log limits requests ++ [(request, admitted limits requests request)] :=
  decisions_append requests [request] _

theorem log_at (limits : ThrottleConfig) (earlier later : List (Request config))
    (request : Request config) : ∃ after, log limits (earlier ++ request :: later) =
      log limits earlier ++ (request, admitted limits earlier request) :: after :=
  ⟨_, decisions_append earlier (request :: later) _⟩

theorem log_split {earlier later : List (Request config × Bool)} {allowed : Bool}
    (h : log limits requests = earlier ++ (request, allowed) :: later) :
    requests = earlier.map Prod.fst ++ request :: later.map Prod.fst ∧
      allowed = admitted limits (earlier.map Prod.fst) request := by
  have split := log_fst limits requests
  rw [h, List.map_append, List.map_cons] at split
  refine ⟨split.symm, ?_⟩
  obtain ⟨after, found⟩ := log_at limits (earlier.map Prod.fst) (later.map Prod.fst) request
  rw [split, h] at found
  have lengths := congrArg List.length (log_fst limits (earlier.map Prod.fst))
  rw [List.length_map, List.length_map] at lengths
  obtain ⟨-, same⟩ := List.append_inj found lengths.symm
  exact (Prod.mk.inj (List.cons.inj same).1).2

theorem countP_log (limits : ThrottleConfig) (p : Request config → Bool) :
    (log limits requests).countP (fun entry => p entry.1) = requests.countP p := by
  conv_rhs => rw [← log_fst limits requests, List.countP_map]
  rfl

end

/-! What the budgets are to be, and when they are. -/

def isAuth (request : Request config) : Bool :=
  request.route.controller = authController

def isGeneral (request : Request config) : Bool :=
  request.route.controller ≠ authController && request.route.controller ≠ healthController

/-- The auth routes share one budget, and any other route refuses only a client
that has used up the general one. -/
structure WithinBudgets (limits : ThrottleConfig) (log : List (Request config × Bool)) : Prop where
  auth : log.countP (fun entry => entry.2 && isAuth entry.1) ≤ limits.authLimit
  general : ∀ earlier request later, log = earlier ++ (request, false) :: later →
    isGeneral request → limits.limit < (earlier.map Prod.fst ++ [request]).countP isGeneral

/-- The auth requests all count on one route, and the answers of its counter get back from
the point where the budget is spent. -/
structure OneBudget (limits : ThrottleConfig) (requests : List (Request config)) : Prop where
  route : ∀ request ∈ requests, ∀ request' ∈ requests, isAuth request → isAuth request' →
    request.route = request'.route
  counted : ∀ request ∈ requests, isAuth request → counted request "auth"
  heeded : ∀ earlier request later, requests = earlier ++ request :: later → isAuth request →
    limits.authLimit ≤ earlier.countP isAuth → heeded request "auth"

/-- The requests on which separate budgets come to the same. -/
structure Unshared (limits : ThrottleConfig) (requests : List (Request config)) : Prop where
  auth : requests.countP isAuth ≤ limits.authLimit ∨ OneBudget limits requests
  general : ∀ earlier request later, requests = earlier ++ request :: later →
    isGeneral request → heeded request "auth" →
    limits.authLimit < hits (earlier ++ [request]) request.route "auth" →
    limits.limit < (earlier ++ [request]).countP isGeneral

section

variable {requests earlier : List (Request config)} {request : Request config} {route : Route}

theorem admitted_auth (auth : isAuth request) :
    admitted limits earlier request = !(heeded request "auth" &&
      decide (limits.authLimit < hits (earlier ++ [request]) request.route "auth")) := by
  have controller : request.route.controller = authController := of_decide_eq_true auth
  apply admitted_within
  have none : hits (earlier ++ [request]) request.route "default" = 0 := by
    rw [hits, List.countP_eq_zero]
    rintro other - both
    rw [Bool.and_eq_true, decide_eq_true_eq] at both
    have skipped : skips other "default" = true := by
      rw [skips, both.1, controller]
      rfl
    simp [counted, skipped] at both
  omega

/-- Of the requests that count on an auth route the first are let through, and so is what
does not count. -/
theorem admitted_route_ge (limits : ThrottleConfig) (requests : List (Request config))
    (auth : route.controller = authController) :
    min (hits requests route "auth") limits.authLimit +
        requests.countP (fun request => request.route = route && !counted request "auth") ≤
      (log limits requests).countP (fun entry => entry.2 && entry.1.route = route) := by
  induction requests using List.reverseRecOn with
  | nil => simp [hits, log, decisions]
  | append_singleton requests request ih =>
    rw [log_snoc, List.countP_append, List.countP_append, List.countP_singleton,
      List.countP_singleton, hits_snoc]
    by_cases same : request.route = route
    · subst same
      rw [admitted_auth (decide_eq_true auth), hits_snoc]
      cases counts : counted request "auth" with
      | false =>
        have unheeded : heeded request "auth" = false :=
          Bool.eq_false_iff.mpr fun heeded => by simp [counted_of_heeded heeded] at counts
        simp only [unheeded, decide_true, Bool.and_false, Bool.false_and, Bool.not_false,
          Bool.and_true, Bool.false_eq_true, if_false, if_true]
        omega
      | true =>
        simp only [decide_true, Bool.and_true, Bool.not_true, Bool.and_false, Bool.false_eq_true,
          if_false, if_true]
        by_cases full : limits.authLimit ≤ hits requests request.route "auth"
        · omega
        · rw [decide_eq_false (by omega), Bool.and_false, Bool.not_false, if_pos rfl]
          omega
    · simpa [same] using ih

theorem countP_add_le {α : Type} {l : List α} {first second both : α → Bool}
    (left : ∀ x, first x → both x) (right : ∀ x, second x → both x)
    (apart : ∀ x, first x → ¬ second x) :
    l.countP first + l.countP second ≤ l.countP both := by
  induction l with
  | nil => exact le_rfl
  | cons x l ih =>
    simp only [List.countP_cons]
    by_cases one : first x = true
    · rw [if_pos one, if_neg (apart x one), if_pos (left x one)]
      omega
    · by_cases two : second x = true
      · rw [if_neg one, if_pos two, if_pos (right x two)]
        omega
      · rw [if_neg one, if_neg two]
        omega

def authAdmitted (limits : ThrottleConfig) (requests : List (Request config)) : Nat :=
  (log limits requests).countP fun entry => entry.2 && isAuth entry.1

theorem authAdmitted_snoc (limits : ThrottleConfig) (requests : List (Request config))
    (request : Request config) : authAdmitted limits (requests ++ [request]) =
    authAdmitted limits requests + if admitted limits requests request && isAuth request then 1
      else 0 := by
  rw [authAdmitted, log_snoc, List.countP_append, List.countP_singleton]
  rfl

theorem authAdmitted_mono (limits : ThrottleConfig) (earlier later : List (Request config)) :
    authAdmitted limits earlier ≤ authAdmitted limits (earlier ++ later) := by
  rw [authAdmitted, authAdmitted, log, log, decisions_append, List.countP_append]
  exact Nat.le_add_right _ _

theorem auth_of_route (auth : route.controller = authController)
    {entry : Request config × Bool} (admitted : (entry.2 && entry.1.route = route) = true) :
    (entry.2 && isAuth entry.1) = true := by
  rw [Bool.and_eq_true, decide_eq_true_eq] at admitted
  rw [isAuth, admitted.1, admitted.2, auth]
  rfl

theorem route_le_authAdmitted (limits : ThrottleConfig) (requests : List (Request config))
    (auth : route.controller = authController) :
    (log limits requests).countP (fun entry => entry.2 && entry.1.route = route) ≤
      authAdmitted limits requests := by
  apply List.countP_mono_left
  intro entry _ admitted
  exact auth_of_route auth admitted

theorem hits_eq_auth (route : ∀ other ∈ requests, isAuth other → other.route = request.route)
    (counts : ∀ other ∈ requests, isAuth other → counted other "auth") (auth : isAuth request) :
    hits requests request.route "auth" = requests.countP isAuth := by
  apply List.countP_congr
  intro other member
  rw [Bool.and_eq_true, decide_eq_true_eq]
  constructor
  · rintro ⟨same, -⟩
    rw [isAuth, same]
    exact auth
  · intro other_auth
    exact ⟨route other member other_auth, counts other member other_auth⟩

/-- Exactly the first auth requests are let through. -/
theorem OneBudget.authAdmitted_eq (h : OneBudget limits requests)
    (part : earlier <+: requests) :
    authAdmitted limits earlier = min (earlier.countP isAuth) limits.authLimit := by
  induction earlier using List.reverseRecOn with
  | nil => simp [authAdmitted, log, decisions]
  | append_singleton earlier request ih =>
    obtain ⟨later, split⟩ := part
    have whole : requests = earlier ++ request :: later := by rw [← split]; simp
    have ih := ih ⟨request :: later, whole.symm⟩
    rw [authAdmitted_snoc, List.countP_append, List.countP_singleton, ih]
    by_cases auth : isAuth request = true
    · have mem : request ∈ requests := by rw [whole]; simp
      have part : ∀ r ∈ earlier ++ [request], r ∈ requests := fun r member =>
        split ▸ List.mem_append_left later member
      have same := hits_eq_auth (fun r member at_ => h.route _ (part r member) _ mem at_ auth)
        (fun r member => h.counted _ (part r member)) auth
      rw [List.countP_append, List.countP_singleton, if_pos auth] at same
      rw [admitted_auth auth, same, auth, Bool.and_true, if_pos rfl]
      by_cases spent : limits.authLimit ≤ earlier.countP isAuth
      · rw [h.heeded _ _ _ whole auth spent, decide_eq_true (by omega)]
        simp only [Bool.and_true, Bool.not_true, Bool.false_eq_true, if_false]
        omega
      · rw [decide_eq_false (by omega), Bool.and_false, Bool.not_false, if_pos rfl]
        omega
    · rw [Bool.not_eq_true] at auth
      simp [auth]

/-- A request of a route is counted there, or is not. -/
theorem asked_pos {r : Request config} (member : r ∈ requests) : 0 < hits requests r.route "auth" +
    requests.countP fun request => request.route = r.route && !counted request "auth" := by
  cases counts : counted r "auth" with
  | false => exact Nat.add_pos_right _ (List.countP_pos_iff.mpr ⟨r, member, by simp [counts]⟩)
  | true => exact Nat.add_pos_left (List.countP_pos_iff.mpr ⟨r, member, by simp [counts]⟩) _

/-- Some route has spent the budget by itself, else every auth request is let through. -/
theorem exists_spent (h : authAdmitted limits requests ≤ limits.authLimit)
    (many : limits.authLimit < requests.countP isAuth) :
    ∃ r ∈ requests, isAuth r ∧ limits.authLimit ≤ hits requests r.route "auth" := by
  by_contra full
  push Not at full
  have all : ∀ entry ∈ log limits requests,
      isAuth entry.1 = true ↔ (entry.2 && isAuth entry.1) = true := by
    intro entry member
    obtain ⟨before, after, split⟩ := List.append_of_mem member
    obtain ⟨served, decided⟩ := log_split split
    have bounded : isAuth entry.1 = true → entry.2 = true := by
      intro auth
      have mem : entry.1 ∈ requests := by rw [served]; simp
      have few := full entry.1 mem auth
      have part : hits (before.map Prod.fst ++ [entry.1]) entry.1.route "auth" ≤
          hits requests entry.1.route "auth" := by
        conv_rhs => rw [served, List.append_cons, hits, List.countP_append]
        exact Nat.le_add_right _ _
      rw [decided, admitted_auth auth, decide_eq_false (by omega), Bool.and_false, Bool.not_false]
    rw [Bool.and_eq_true]
    exact ⟨fun auth => ⟨bounded auth, auth⟩, fun both => both.2⟩
  have same := List.countP_congr all
  rw [countP_log] at same
  rw [authAdmitted] at h
  omega

theorem two_routes_le_authAdmitted (limits : ThrottleConfig) (requests : List (Request config))
    {route route' : Route} (auth : route.controller = authController)
    (auth' : route'.controller = authController) (apart : route' ≠ route) :
    (log limits requests).countP (fun entry => entry.2 && entry.1.route = route) +
        (log limits requests).countP (fun entry => entry.2 && entry.1.route = route') ≤
      authAdmitted limits requests := by
  apply countP_add_le
  · intro entry
    exact auth_of_route auth
  · intro entry
    exact auth_of_route auth'
  · intro entry one two
    rw [Bool.and_eq_true, decide_eq_true_eq] at one two
    exact apart (two.2.symm.trans one.2)

/-- The other way round: more than the limit are let through where routes share, where a
request does not count, and where the budget is spent and its counter goes unheard. -/
theorem oneBudget_of_admitted (h : authAdmitted limits requests ≤ limits.authLimit)
    (many : limits.authLimit < requests.countP isAuth) : OneBudget limits requests := by
  have positive := limits.authLimit_pos
  obtain ⟨r, member, authR, spent⟩ := exists_spent h many
  have controller : r.route.controller = authController := of_decide_eq_true authR
  have first := admitted_route_ge limits requests controller
  have whole := route_le_authAdmitted limits requests controller
  have alone : ∀ other ∈ requests, isAuth other → other.route = r.route := by
    intro other memberO authO
    by_contra apart
    have controllerO : other.route.controller = authController := of_decide_eq_true authO
    have second := admitted_route_ge limits requests controllerO
    have some := asked_pos memberO
    have both := two_routes_le_authAdmitted limits requests controller controllerO apart
    omega
  have counts : ∀ other ∈ requests, isAuth other → counted other "auth" := by
    intro other memberO authO
    by_contra misses
    rw [Bool.not_eq_true] at misses
    have extra : 0 < requests.countP fun request =>
        request.route = r.route && !counted request "auth" :=
      List.countP_pos_iff.mpr ⟨other, memberO, by simp [alone other memberO authO, misses]⟩
    omega
  have route : ∀ request ∈ requests, ∀ request' ∈ requests, isAuth request → isAuth request' →
      request.route = request'.route := fun request mem request' mem' auth auth' =>
    (alone request mem auth).trans (alone request' mem' auth').symm
  refine ⟨route, counts, ?_⟩
  intro earlier request later split auth late
  by_contra unheeded
  rw [Bool.not_eq_true] at unheeded
  have mem : request ∈ requests := by rw [split]; simp
  -- the earlier ones fill the budget, and this one is let through on top
  have inside : ∀ other ∈ earlier, other ∈ requests := fun other memberO => by
    rw [split]
    exact List.mem_append_left _ memberO
  have fills := hits_eq_auth (fun other memberO at_ => route _ (inside _ memberO) _ mem at_ auth)
    (fun other memberO => counts _ (inside _ memberO)) auth
  have controller' : request.route.controller = authController := of_decide_eq_true auth
  have before := admitted_route_ge limits earlier controller'
  have part := route_le_authAdmitted limits earlier controller'
  have on_top := authAdmitted_snoc limits earlier request
  rw [admitted_auth auth, unheeded, Bool.false_and, Bool.not_false, auth, Bool.and_true,
    if_pos rfl] at on_top
  have mono := authAdmitted_mono limits (earlier ++ [request]) later
  rw [← List.append_cons, ← split] at mono
  omega

theorem hits_general_le (earlier : List (Request config)) (general : isGeneral request)
    (name : String) :
    hits (earlier ++ [request]) request.route name ≤ (earlier ++ [request]).countP isGeneral := by
  apply hits_le
  intro other _ same
  rwa [isGeneral, same]

theorem general_budget (h : Unshared limits requests)
    {before after : List (Request config × Bool)}
    (split : log limits requests = before ++ (request, false) :: after)
    (general : isGeneral request) :
    limits.limit < (before.map Prod.fst ++ [request]).countP isGeneral := by
  obtain ⟨served, refused⟩ := log_split split
  by_contra within
  have bounded := hits_general_le (before.map Prod.fst) general "default"
  rw [admitted_within (by omega)] at refused
  simp only [Bool.false_eq, Bool.not_eq_false', Bool.and_eq_true, decide_eq_true_eq] at refused
  exact within (h.general _ _ _ served general refused.1 refused.2)

theorem unshared_general (h : WithinBudgets limits (log limits requests))
    {later : List (Request config)} (split : requests = earlier ++ request :: later)
    (general : isGeneral request) (heeds : heeded request "auth")
    (exceeded : limits.authLimit < hits (earlier ++ [request]) request.route "auth") :
    limits.limit < (earlier ++ [request]).countP isGeneral := by
  by_contra within
  have bounded := hits_general_le earlier general "default"
  obtain ⟨after, found⟩ := log_at limits earlier later request
  rw [← split, admitted_within (by omega), heeds, decide_eq_true exceeded] at found
  have spent := h.general _ _ _ found general
  rw [log_fst] at spent
  exact within spent

end

/-- The guard keeps the configured budgets on exactly the runs that need no
sharing: the auth requests are few or share one budget, and no other route that
counts against the auth throttler is counted more often than its budget allows before
the general one is used up. -/
theorem within_budgets_iff (injective : Function.Injective hash) {client : String} {start : Int}
    {requests : List (Request config)} {db : Keyspace String}
    (window : Window limits client start requests) (fresh : Fresh hash limits client db) :
    WithinBudgets limits (serve hash limits requests db) ↔ Unshared limits requests := by
  have served : serve hash limits requests db = log limits requests :=
    serve_eq_decisions injective window (shows_fresh fresh)
  rw [served]
  constructor
  · intro h
    refine ⟨?_, fun _ _ _ => unshared_general h⟩
    by_cases few : requests.countP isAuth ≤ limits.authLimit
    · exact .inl few
    · exact .inr (oneBudget_of_admitted h.auth (not_le.mp few))
  · intro h
    refine ⟨?_, fun _ _ _ split general => general_budget h split general⟩
    rcases h.auth with few | one
    · calc (log limits requests).countP (fun entry => entry.2 && isAuth entry.1)
        _ ≤ (log limits requests).countP (fun entry => isAuth entry.1) :=
            List.countP_mono_left fun entry _ both => ((Bool.and_eq_true ..).mp both).2
        _ = requests.countP isAuth := countP_log limits isAuth
        _ ≤ limits.authLimit := few
    · exact (one.authAdmitted_eq (List.prefix_refl requests)).trans_le (Nat.min_le_right _ _)

/-! What the prefix has to do with it. -/

section

variable {controller : Controller} {handler : Handler}

theorem prefix_of_append {l front rest : Path} (h : l <+: front ++ '/' :: rest) (free : '/' ∉ l) :
    l <+: front := by
  rcases List.prefix_or_prefix_of_prefix h (List.prefix_append front _) with short | ⟨tail, rfl⟩
  · exact short
  · cases tail with
    | nil => simp
    | cons first tail =>
      obtain ⟨rest', same⟩ := h
      simp only [List.append_assoc, List.append_cancel_left_eq, List.cons_append,
        List.cons.injEq] at same
      simp [same.1] at free

theorem metrics_of_neutral : ∀ controller ∈ controllers, controller.version = .neutral →
    controller ≠ healthController → ∀ handler ∈ controller.handlers,
      controller = metricsController ∧ handler = ⟨"scrape", .get, ["metrics"]⟩ := by
  decide +kernel

theorem requestPath_metrics (config : AppConfigService) (params : String → String) :
    requestPath config metricsController ⟨"scrape", .get, ["metrics"]⟩ params = "/metrics" := by
  rfl

/-- Outside the probes the URL exempts a request only under a prefix that starts like theirs,
or is a pattern. -/
theorem prefix_of_skipIf {route : Route} {url : String}
    (routed : RoutesTo config route.controller route.handler url)
    (plain : isPattern config.app.apiPrefix = false)
    (other : route.controller ≠ healthController) (skipped : skipIf url = true) :
    "health".toList <+: config.app.apiPrefix.toList.map Char.toLower := by
  obtain ⟨front, params, path, slash, query, front_eq, url_eq, same, -⟩ := routed
  obtain rfl := front_eq plain
  change path.map Char.toLower =
    (requestPath config route.controller route.handler params).toList.map Char.toLower at same
  rw [skipIf, List.isPrefixOf_iff_prefix, url_eq, List.append_assoc] at skipped
  have lower := skipped.map Char.toLower
  have spelt : "/health".toList.map Char.toLower = '/' :: "health".toList := by decide
  rw [List.map_append, same, spelt] at lower
  cases version : route.controller.version with
  | neutral =>
    obtain ⟨metrics, scrape⟩ :=
      metrics_of_neutral _ route.mounted version other _ route.declared
    rw [metrics, scrape, requestPath_metrics] at lower
    obtain ⟨rest, lower⟩ := lower
    exact absurd (congrArg (·[1]?) lower) (by simp)
  | default =>
    rw [requestPath, toList_mountedAt version, servedBase] at lower
    by_cases unprefixed : config.app.apiPrefix = ""
    · rw [if_pos unprefixed] at lower
      obtain ⟨rest, lower⟩ := lower
      exact absurd (congrArg (·[1]?) lower) (by simp)
    · simp only [if_neg unprefixed, List.cons_append, List.nil_append, rooted_cons, List.map_cons,
        List.map_append, List.append_assoc] at lower
      exact prefix_of_append (List.cons_prefix_cons.mp lower).2 (by decide)

/-- Under a prefix that starts so, every URL outside the probes is exempt. -/
theorem skipIf_requestPath (served : controller.version = .default)
    (starts : "health".toList <+: config.app.apiPrefix.toList) (params : String → String) :
    skipIf (requestPath config controller handler params) = true := by
  have prefixed : config.app.apiPrefix ≠ "" := by
    rintro unprefixed
    rw [unprefixed] at starts
    exact absurd (List.prefix_nil.mp starts) (by decide)
  have spelt : "/health".toList = '/' :: "health".toList := by decide
  rw [skipIf, List.isPrefixOf_iff_prefix, requestPath, toList_mountedAt served, servedBase,
    if_neg prefixed, spelt]
  exact List.cons_prefix_cons.mpr ⟨rfl, starts.trans (by simp [List.append_assoc])⟩

end

def sampleLimits : ThrottleConfig where
  ttlS := 60
  limit := 120
  authLimit := 10
  ttlS_pos := by decide
  limit_pos := by decide
  authLimit_pos := by decide

def sampleHash (text : String) : String := "sha256:" ++ text

theorem sampleHash_injective : Function.Injective sampleHash := by
  intro first second same
  have text := congrArg String.toList same
  simp only [sampleHash, String.toList_append] at text
  exact String.toList_injective (List.append_cancel_left text)

/-- A request of the client at `203.0.113.7`, so many milliseconds into the window. -/
def authRequest (handler : Handler) (declared : handler ∈ authController.handlers) (url : String)
    (routed : RoutesTo (.ofDefaults "api" true) authController handler url) (time : Int) :
    Request (.ofDefaults "api" true) where
  route := ⟨authController, handler, List.mem_cons_self, declared⟩
  url := url
  routed := routed
  ip := some "203.0.113.7"
  remoteAddress := none
  time := time
  delivery := fun _ => .answered

def loginAt : Int → Request (.ofDefaults "api" true) :=
  authRequest ⟨"login", .post, ["login"]⟩ (by decide) "/api/v1/auth/login"
    ⟨"api", id, "/api/v1/auth/login".toList, [], [], fun _ => rfl, by decide, by decide +kernel, .inl rfl,
      .inl rfl⟩

def refreshAt : Int → Request (.ofDefaults "api" true) :=
  authRequest ⟨"refresh", .post, ["refresh"]⟩ (by decide) "/api/v1/auth/refresh"
    ⟨"api", id, "/api/v1/auth/refresh".toList, [], [], fun _ => rfl, by decide, by decide +kernel, .inl rfl,
      .inl rfl⟩

/-- Every login of the budget, and a refresh on top. -/
def sampleRequests : List (Request (.ofDefaults "api" true)) :=
  (List.range 10).map (fun n : Nat => loginAt n) ++ [refreshAt 10]

theorem sampleRequests_window : Window sampleLimits "203.0.113.7" 0 sampleRequests := by
  intro request mem
  rcases List.mem_append.mp mem with mem | mem
  · obtain ⟨n, bound, rfl⟩ := List.mem_map.mp mem
    have := List.mem_range.mp bound
    refine ⟨rfl, ?_, ?_⟩ <;> dsimp only [loginAt, authRequest, sampleLimits] <;> omega
  · rw [List.mem_singleton.mp mem]
    exact ⟨rfl, by decide, by decide⟩

theorem within_budgets_iff_sample :
    WithinBudgets sampleLimits (serve sampleHash sampleLimits sampleRequests Keyspace.empty) ↔
      Unshared sampleLimits sampleRequests :=
  within_budgets_iff sampleHash_injective sampleRequests_window fun _ _ _ => ⟨rfl, rfl⟩

/-- Ten logins and a refresh within a second are all let through. -/
theorem budgets_shared_fails :
    ¬ WithinBudgets sampleLimits (serve sampleHash sampleLimits sampleRequests Keyspace.empty) := by
  have served : serve sampleHash sampleLimits sampleRequests Keyspace.empty =
      log sampleLimits sampleRequests :=
    serve_eq_decisions sampleHash_injective sampleRequests_window
      (shows_fresh fun _ _ _ => ⟨rfl, rfl⟩)
  rw [served]
  intro h
  exact absurd h.auth (by decide +kernel)

end TenantOS.RateLimits
