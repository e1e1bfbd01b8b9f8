import TenantOS.Infrastructure.RedisThrottlerStorage
import Mathlib.Data.List.Basic
import Mathlib.Data.List.Induction
import Mathlib.Data.List.Sort

/-! One rate-limit bucket over any sequence of timed calls: its counter never
outlives its window, a window admits at most the limit, and a block ends. -/
namespace TenantOS.RateLimits

open TenantOS.Infrastructure TenantOS.Redis

/-- The arguments `increment` is called with, the same every time. -/
structure Bucket where
  throttlerName : String
  key : String
  ttl : Int
  limit : Int
  blockDuration : Int
deriving DecidableEq, Repr

namespace Bucket

variable (b : Bucket)

def hits : String := RedisThrottlerStorage.hitKey b.throttlerName b.key

def marker : String := RedisThrottlerStorage.blockKey b.throttlerName b.key

def block : Int := RedisThrottlerStorage.effectiveBlock b.ttl b.blockDuration

def increment (now : Int) (db : Keyspace String) : RedisThrottlerStorage.Verdict × Keyspace String :=
  RedisThrottlerStorage.increment b.key b.ttl b.limit b.blockDuration b.throttlerName .answered now db

structure WellFormed : Prop where
  ttl : 0 < b.ttl
  limit : 1 ≤ b.limit
  blockDuration : 0 ≤ b.blockDuration

end Bucket

/-- One call of a run, with the keyspace it found and left. -/
structure Call where
  time : Int
  before : Keyspace String
  verdict : RedisThrottlerStorage.Verdict
  after : Keyspace String

namespace Bucket

variable (b : Bucket)

def call (db : Keyspace String) (time : Int) : Call :=
  ⟨time, db, (b.increment time db).1, (b.increment time db).2⟩

def calls (db : Keyspace String) : List Int → List Call
  | [] => []
  | time :: times => b.call db time :: calls (b.call db time).after times

def final (db : Keyspace String) (times : List Int) : Keyspace String :=
  times.foldl (fun db time => (b.call db time).after) db

def Opens (c : Call) : Prop :=
  c.before.lookup c.time b.hits = none ∧ (c.after.lookup c.time b.hits).isSome

/-- The call was answered from the block marker. -/
def Marked (c : Call) : Prop :=
  0 < c.before.pttl c.time b.marker

def Marks (c : Call) : Prop :=
  ¬ b.Marked c ∧ c.verdict.isBlocked

/-- What a run of calls keeps to. -/
structure Safe (db : Keyspace String) (times : List Int) : Prop where
  /-- A counter that exists expires, at the latest `ttl` after its first increment. -/
  noStrandedCounter : ∀ now entry, (b.final db times).lookup now b.hits = some entry →
    ∃ earlier opening later expireAt, b.calls db times = earlier ++ opening :: later ∧
      b.Opens opening ∧ (∀ c ∈ later, ¬ b.Opens c) ∧
      entry.expireAt = some expireAt ∧ expireAt ≤ opening.time + b.ttl
  /-- From its creation to its expiry a counter admits at most `limit` calls. -/
  admitsLimit : ∀ earlier opening later entry, b.calls db times = earlier ++ opening :: later →
    b.Opens opening → opening.after b.hits = some entry →
    (((opening :: later).filter fun c => entry.live c.time && !c.verdict.isBlocked).length : Int) ≤
      b.limit
  markedUnchanged : ∀ c ∈ b.calls db times, b.Marked c → c.verdict.isBlocked ∧ c.after = c.before
  /-- The first call after a block has run out is admitted. -/
  recovers : b.ttl ≤ b.block → ∀ earlier blocking between c later,
    b.calls db times = earlier ++ blocking :: (between ++ c :: later) → b.Marks blocking →
    (∀ m ∈ between, m.time < blocking.time + b.block) → blocking.time + b.block < c.time →
    c.verdict.isBlocked = false

variable {b} {db db' : Keyspace String} {now time : Int} {times : List Int}

theorem hits_ne_marker : b.hits ≠ b.marker :=
  RedisThrottlerStorage.hitKey_ne_blockKey b.throttlerName b.key

theorem WellFormed.block (h : b.WellFormed) : 0 < b.block :=
  RedisThrottlerStorage.effectiveBlock_pos h.ttl h.blockDuration

/-! One call. -/

/-- The counter carries an expiry, no later than a window after `last`. -/
def Counted (b : Bucket) (last : Int) (db : Keyspace String) : Prop :=
  ∀ entry, db b.hits = some entry →
    ∃ value expireAt, entry = ⟨value, some expireAt⟩ ∧ 1 ≤ value ∧ expireAt ≤ last + b.ttl

theorem Counted.mono {last : Int} (h : b.Counted last db) (later : last ≤ now) :
    b.Counted now db := by
  intro entry found
  obtain ⟨value, expireAt, rfl, positive, bound⟩ := h entry found
  exact ⟨value, expireAt, rfl, positive, by omega⟩

inductive Hit (b : Bucket) (now : Int) (db : Keyspace String) : Int → Int → Prop
  | opened (missing : db.lookup now b.hits = none) : Hit b now db 1 (now + b.ttl)
  | counted {value expireAt : Int} (found : db b.hits = some ⟨value, some expireAt⟩)
      (live : now ≤ expireAt) : Hit b now db (value + 1) expireAt

/-- Everything one call can do. -/
inductive Answer (b : Bucket) (now : Int) (db : Keyspace String) : Bool → Keyspace String → Prop
  | marked (left : 0 < db.pttl now b.marker) : Answer b now db true db
  | admitted {value expireAt : Int} (unmarked : db.pttl now b.marker ≤ 0)
      (hit : Hit b now db value expireAt) (within : value ≤ b.limit) :
      Answer b now db false (db.put b.hits ⟨value, some expireAt⟩)
  | refused {value expireAt : Int} (unmarked : db.pttl now b.marker ≤ 0)
      (hit : Hit b now db value expireAt) (exceeded : b.limit < value) :
      Answer b now db true
        ((db.put b.hits ⟨value, some expireAt⟩).put b.marker ⟨1, some (now + b.block)⟩)

theorem increment_answer {last : Int} (h : b.Counted last db) (now : Int) :
    Answer b now db (b.increment now db).1.isBlocked (b.increment now db).2 := by
  have hit : ∃ value expireAt, Hit b now db value expireAt ∧
      RedisThrottlerStorage.countHit b.hits b.ttl now db =
        (value, db.put b.hits ⟨value, some expireAt⟩) := by
    cases stored : db b.hits with
    | none =>
      have missing : db.lookup now b.hits = none := Keyspace.lookup_none stored
      exact ⟨1, now + b.ttl, .opened missing, RedisThrottlerStorage.countHit_fresh missing⟩
    | some entry =>
      obtain ⟨value, expireAt, rfl, positive, -⟩ := h entry stored
      by_cases live : now ≤ expireAt
      · exact ⟨value + 1, expireAt, .counted stored live,
          RedisThrottlerStorage.countHit_live stored live (by omega)⟩
      · have missing := Keyspace.lookup_expired stored (by omega : expireAt < now)
        exact ⟨1, now + b.ttl, .opened missing, RedisThrottlerStorage.countHit_fresh missing⟩
  have settled : (b.increment now db).1.isBlocked =
        (RedisThrottlerStorage.script b.hits b.marker b.ttl b.limit b.block now db).1.isBlocked ∧
      (b.increment now db).2 =
        (RedisThrottlerStorage.script b.hits b.marker b.ttl b.limit b.block now db).2 :=
    ⟨rfl, rfl⟩
  rw [settled.1, settled.2]
  by_cases left : 0 < db.pttl now b.marker
  · rw [RedisThrottlerStorage.script_marked left]
    exact .marked left
  · have unmarked : db.pttl now b.marker ≤ 0 := by omega
    obtain ⟨value, expireAt, hit, count⟩ := hit
    by_cases exceeded : b.limit < value
    · rw [RedisThrottlerStorage.script_over unmarked count exceeded]
      exact .refused unmarked hit exceeded
    · have within : value ≤ b.limit := by omega
      rw [RedisThrottlerStorage.script_within unmarked count within]
      exact .admitted unmarked hit within

theorem Hit.positive {value expireAt last : Int} (h : Hit b now db value expireAt)
    (counted : b.Counted last db) (later : last ≤ now) :
    1 ≤ value ∧ expireAt ≤ now + b.ttl := by
  cases h with
  | opened missing => omega
  | counted found live =>
    obtain ⟨value, expireAt, same, positive, bound⟩ := counted _ found
    cases same
    omega

/-- The counter an unmarked call leaves behind. -/
theorem Answer.hits {blocked : Bool} (h : Answer b now db blocked db') :
    db' b.hits = db b.hits ∨
      ∃ value expireAt, Hit b now db value expireAt ∧ db' b.hits = some ⟨value, some expireAt⟩ := by
  cases h with
  | marked left => exact .inl rfl
  | admitted unmarked hit within => exact .inr ⟨_, _, hit, Keyspace.put_self⟩
  | refused unmarked hit exceeded =>
    refine .inr ⟨_, _, hit, ?_⟩
    rw [Keyspace.put_of_ne hits_ne_marker, Keyspace.put_self]

theorem Answer.counted {blocked : Bool} {last : Int} (h : Answer b now db blocked db')
    (counted : b.Counted last db) (later : last ≤ now) : b.Counted now db' := by
  intro entry found
  rcases h.hits with same | ⟨value, expireAt, hit, stored⟩
  · exact counted.mono later entry (same ▸ found)
  · cases stored.symm.trans found
    have := hit.positive counted later
    exact ⟨value, expireAt, rfl, this.1, this.2⟩

theorem call_answer {last : Int} (h : b.Counted last db) (time : Int) :
    Answer b time db (b.call db time).verdict.isBlocked (b.call db time).after :=
  increment_answer h time

/-- A call that opens no counter leaves the expiry as it was. -/
theorem Answer.kept {blocked : Bool} {entry : Entry} (h : Answer b now db blocked db')
    (ttl : 0 < b.ttl) (notOpened : ¬ (db.lookup now b.hits = none ∧ (db'.lookup now b.hits).isSome))
    (found : db' b.hits = some entry) :
    ∃ entry', db b.hits = some entry' ∧ entry'.expireAt = entry.expireAt := by
  rcases h.hits with same | ⟨value, expireAt, hit, stored⟩
  · exact ⟨entry, same ▸ found, rfl⟩
  · cases stored.symm.trans found
    cases hit with
    | opened missing =>
      have kept : db'.lookup now b.hits = _ := Keyspace.lookup_some_expiry found
      rw [if_pos (by omega)] at kept
      exact absurd ⟨missing, by rw [kept]; rfl⟩ notOpened
    | counted found live => exact ⟨_, found, rfl⟩

/-- A counter that was just opened stands at its first hit. -/
theorem Answer.opened {blocked : Bool} (h : Answer b now db blocked db')
    (missing : db.lookup now b.hits = none) (opened : (db'.lookup now b.hits).isSome) :
    db' b.hits = some ⟨1, some (now + b.ttl)⟩ := by
  rcases h.hits with same | ⟨value, expireAt, hit, stored⟩
  · rw [Keyspace.lookup, same] at opened
    rw [Keyspace.lookup] at missing
    rw [missing] at opened
    cases opened
  · cases hit with
    | opened missing => exact stored
    | counted found live =>
      rw [Keyspace.lookup_some_expiry found, if_pos live] at missing
      cases missing

/-! Runs of calls. -/

theorem calls_append (db : Keyspace String) (times times' : List Int) :
    b.calls db (times ++ times') = b.calls db times ++ b.calls (b.final db times) times' := by
  induction times generalizing db with
  | nil => rfl
  | cons time times ih => exact congrArg (b.call db time :: ·) (ih _)

theorem final_append (db : Keyspace String) (times times' : List Int) :
    b.final db (times ++ times') = b.final (b.final db times) times' :=
  List.foldl_append

theorem calls_split {earlier later : List Call} {c : Call}
    (h : b.calls db times = earlier ++ c :: later) :
    ∃ past time rest, times = past ++ time :: rest ∧ b.calls db past = earlier ∧
      c = b.call (b.final db past) time ∧ later = b.calls c.after rest := by
  induction times generalizing db earlier with
  | nil => cases earlier <;> cases h
  | cons time times ih =>
    cases earlier with
    | nil =>
      cases h
      exact ⟨[], time, times, rfl, rfl, rfl, rfl⟩
    | cons first earlier =>
      obtain ⟨rfl, tail⟩ := List.cons.inj h
      obtain ⟨past, time', rest, rfl, rfl, same, same'⟩ := ih tail
      exact ⟨time :: past, time', rest, rfl, rfl, same, same'⟩

/-- The counter of a reached keyspace is counted, as of any time no earlier. -/
theorem counted_final (fresh : b.Counted now db) (started : ∀ time ∈ times, now ≤ time)
    (sorted : times.Pairwise (· ≤ ·)) {last : Int} (h : ∀ time ∈ times, time ≤ last)
    (later : now ≤ last) : b.Counted last (b.final db times) := by
  induction times generalizing db now with
  | nil => exact fresh.mono later
  | cons time times ih =>
    have first := (call_answer fresh time).counted fresh (started time List.mem_cons_self)
    exact ih first (fun _ => List.rel_of_pairwise_cons sorted) sorted.of_cons
      (fun _ mem => h _ (List.mem_cons_of_mem _ mem)) (h time List.mem_cons_self)

theorem counted_of_none (fresh : db b.hits = none) (last : Int) : b.Counted last db := by
  intro entry found
  rw [fresh] at found
  cases found

/-- Before each call of a run the counter is counted, as of that call. -/
theorem counted_before {past rest : List Int} (fresh : db b.hits = none)
    (sorted : (past ++ time :: rest).Pairwise (· ≤ ·)) : b.Counted time (b.final db past) := by
  have ordered := List.pairwise_append.mp sorted
  have bound : ∀ t ∈ past, t ≤ time := fun t mem => ordered.2.2 t mem time List.mem_cons_self
  cases past with
  | nil => exact counted_of_none fresh time
  | cons first past =>
    exact counted_final (counted_of_none fresh first)
      (fun t mem => (List.mem_cons.mp mem).elim (fun h => h ▸ le_rfl)
        (fun h => List.rel_of_pairwise_cons ordered.1 h))
      ordered.1 bound (bound first List.mem_cons_self)

/-! The counter never outlives its window. -/

theorem noStrandedCounter (ttl : 0 < b.ttl) (fresh : db b.hits = none)
    (sorted : times.Pairwise (· ≤ ·)) {entry : Entry} (found : b.final db times b.hits = some entry) :
    ∃ earlier opening later expireAt, b.calls db times = earlier ++ opening :: later ∧
      b.Opens opening ∧ (∀ c ∈ later, ¬ b.Opens c) ∧
      entry.expireAt = some expireAt ∧ expireAt ≤ opening.time + b.ttl := by
  induction times using List.reverseRecOn generalizing entry with
  | nil =>
    rw [final, List.foldl_nil, fresh] at found
    cases found
  | append_singleton times time ih =>
    have answer := call_answer (counted_before fresh sorted) time
    rw [final_append] at found
    by_cases opens : b.Opens (b.call (b.final db times) time)
    · have opened := answer.opened opens.1 opens.2
      cases opened.symm.trans found
      exact ⟨b.calls db times, _, [], time + b.ttl, calls_append .., opens, by simp, rfl, le_rfl⟩
    · obtain ⟨entry', before, same⟩ := answer.kept ttl opens found
      obtain ⟨earlier, opening, later, expireAt, split, opens', kept, expiry, bound⟩ :=
        ih (List.pairwise_append.mp sorted).1 before
      refine ⟨earlier, opening, later ++ [b.call (b.final db times) time], expireAt, ?_, opens', ?_,
        same ▸ expiry, bound⟩
      · rw [calls_append, split, List.append_assoc]
        rfl
      · intro c mem
        rcases List.mem_append.mp mem with mem | mem
        · exact kept c mem
        · rw [List.mem_singleton.mp mem]
          exact opens

/-! A window admits at most the limit. -/

def admittedWhile (entry : Entry) (history : List Call) : List Call :=
  history.filter fun c => entry.live c.time && !c.verdict.isBlocked

theorem calls_time (db : Keyspace String) (times : List Int) :
    (b.calls db times).map (·.time) = times := by
  induction times generalizing db with
  | nil => rfl
  | cons time times ih => exact congrArg (time :: ·) (ih _)

theorem mem_calls {c : Call} (mem : c ∈ b.calls db times) : c.time ∈ times :=
  calls_time (b := b) db times ▸ List.mem_map_of_mem mem

theorem admittedWhile_expired {value expireAt : Int} (past : ∀ time ∈ times, expireAt < time) :
    admittedWhile ⟨value, some expireAt⟩ (b.calls db times) = [] := by
  rw [admittedWhile, List.filter_eq_nil_iff]
  intro c mem
  have := past c.time (mem_calls mem)
  simp only [Entry.live, Option.all_some, Bool.and_eq_true, decide_eq_true_eq]
  omega

/-- From a counter that stands at `value` on, the rest of the limit is left. -/
theorem admittedWhile_length (kept : Int) {value expireAt : Int} (counted : b.Counted now db)
    (later : ∀ time ∈ times, now ≤ time) (sorted : times.Pairwise (· ≤ ·))
    (found : db b.hits = some ⟨value, some expireAt⟩) :
    ((admittedWhile ⟨kept, some expireAt⟩ (b.calls db times)).length : Int) ≤
      max 0 (b.limit - value) := by
  induction times generalizing db now value with
  | nil => exact le_max_left ..
  | cons time times ih =>
    have answer := call_answer counted time
    have started := later time List.mem_cons_self
    have ordered : ∀ t ∈ times, time ≤ t := fun _ => List.rel_of_pairwise_cons sorted
    by_cases live : time ≤ expireAt
    · have next := fun {value' : Int} =>
        @ih _ _ value' (answer.counted counted started) ordered sorted.of_cons
      have again {value' expireAt' : Int} (hit : Hit b time db value' expireAt') :
          value' = value + 1 ∧ expireAt' = expireAt := by
        cases hit with
        | opened missing =>
          rw [Keyspace.lookup_some_expiry found, if_pos live] at missing
          cases missing
        | counted found' live' =>
          cases found.symm.trans found'
          exact ⟨rfl, rfl⟩
      rw [calls, admittedWhile, List.filter_cons]
      change Int.ofNat (List.length (if _ && !(b.call db time).verdict.isBlocked then _ else _)) ≤ _
      generalize (b.call db time).verdict.isBlocked = blocked at answer ⊢
      generalize (b.call db time).after = db' at answer next ⊢
      cases answer with
      | marked left =>
        rw [Bool.not_true, Bool.and_false]
        exact next found
      | admitted unmarked hit within =>
        obtain ⟨rfl, rfl⟩ := again hit
        have rest := next Keyspace.put_self
        have kept : Entry.live ⟨kept, some _⟩ (b.call db time).time = true := decide_eq_true live
        rw [Bool.not_false, Bool.and_true, if_pos kept]
        change Int.ofNat (List.length (admittedWhile _ _) + 1) ≤ _
        simp only [Int.ofNat_eq_natCast] at rest ⊢
        omega
      | refused unmarked hit exceeded =>
        obtain ⟨rfl, rfl⟩ := again hit
        rw [Bool.not_true, Bool.and_false]
        have rest := next ((Keyspace.put_of_ne hits_ne_marker).trans Keyspace.put_self)
        change Int.ofNat (List.length (admittedWhile _ _)) ≤ _
        simp only [Int.ofNat_eq_natCast] at rest ⊢
        omega
    · rw [admittedWhile_expired]
      · exact le_max_left ..
      · intro t mem
        rcases List.mem_cons.mp mem with rfl | mem
        · omega
        · have := ordered t mem
          omega

theorem admitsLimit (h : b.WellFormed) (fresh : db b.hits = none) (sorted : times.Pairwise (· ≤ ·))
    {earlier later : List Call} {opening : Call} {entry : Entry}
    (split : b.calls db times = earlier ++ opening :: later) (opens : b.Opens opening)
    (found : opening.after b.hits = some entry) :
    ((admittedWhile entry (opening :: later)).length : Int) ≤ b.limit := by
  obtain ⟨past, time, rest, rfl, rfl, rfl, rfl⟩ := calls_split split
  have counted := counted_before fresh sorted
  have answer := call_answer counted time
  have opened := answer.opened opens.1 opens.2
  cases opened.symm.trans found
  have ordered := (List.pairwise_append.mp sorted).2.1
  have rest := admittedWhile_length 1 (answer.counted counted le_rfl)
    (fun _ => List.rel_of_pairwise_cons ordered) ordered.of_cons opened
  have first := List.length_filter_le
    (fun c => (Entry.live ⟨1, some (time + b.ttl)⟩ c.time) && !c.verdict.isBlocked)
    [b.call (b.final db past) time]
  have limit := h.limit
  rw [admittedWhile, ← List.singleton_append, List.filter_append, List.length_append]
  simp only [admittedWhile, List.length_singleton] at rest first
  omega

/-! A block ends. -/

theorem Answer.of_marked {blocked : Bool} (h : Answer b now db blocked db')
    (left : 0 < db.pttl now b.marker) : blocked = true ∧ db' = db := by
  cases h with
  | marked left => exact ⟨rfl, rfl⟩
  | admitted unmarked hit within => omega
  | refused unmarked hit exceeded => omega

theorem markedUnchanged (fresh : db b.hits = none) (sorted : times.Pairwise (· ≤ ·)) {c : Call}
    (mem : c ∈ b.calls db times) (marked : b.Marked c) :
    c.verdict.isBlocked ∧ c.after = c.before := by
  obtain ⟨earlier, later, split⟩ := List.append_of_mem mem
  obtain ⟨past, time, rest, rfl, -, rfl, -⟩ := calls_split split
  exact (call_answer (counted_before fresh sorted) time).of_marked marked

theorem final_marked {value expireAt : Int} (counted : b.Counted now db)
    (later : ∀ time ∈ times, now ≤ time) (sorted : times.Pairwise (· ≤ ·))
    (found : db b.marker = some ⟨value, some expireAt⟩)
    (before : ∀ time ∈ times, time < expireAt) : b.final db times = db := by
  induction times generalizing now with
  | nil => rfl
  | cons time times ih =>
    have left := (Keyspace.pttl_pos found).mpr (before time List.mem_cons_self)
    have same := ((call_answer counted time).of_marked left).2
    rw [final, List.foldl_cons, same]
    exact ih (counted.mono (later time List.mem_cons_self))
      (fun _ => List.rel_of_pairwise_cons sorted) sorted.of_cons
      (fun t mem => before t (List.mem_cons_of_mem _ mem))

/-- A call that blocks sets the marker, and the counter ends with its window. -/
theorem Answer.marks {blocked : Bool} (h : Answer b now db blocked db')
    (unmarked : ¬ 0 < db.pttl now b.marker) (refused : blocked = true) :
    db' b.marker = some ⟨1, some (now + b.block)⟩ := by
  cases h with
  | marked left => exact absurd left unmarked
  | admitted unmarked hit within => cases refused
  | refused unmarked hit exceeded => exact Keyspace.put_self

/-- With neither counter nor marker left, a call is the first of a new window. -/
theorem Answer.first {blocked : Bool} (h : Answer b now db blocked db') (limit : 1 ≤ b.limit)
    (unmarked : ¬ 0 < db.pttl now b.marker) (missing : db.lookup now b.hits = none) :
    blocked = false := by
  cases h with
  | marked left => exact absurd left unmarked
  | admitted unmarked hit within => rfl
  | refused unmarked hit exceeded =>
    cases hit with
    | opened missing => omega
    | counted found live =>
      rw [Keyspace.lookup_some_expiry found, if_pos live] at missing
      cases missing

theorem recovers (h : b.WellFormed) (fresh : db b.hits = none) (sorted : times.Pairwise (· ≤ ·))
    (covers : b.ttl ≤ b.block) {earlier between later : List Call} {blocking c : Call}
    (split : b.calls db times = earlier ++ blocking :: (between ++ c :: later))
    (marks : b.Marks blocking) (within : ∀ m ∈ between, m.time < blocking.time + b.block)
    (after : blocking.time + b.block < c.time) : c.verdict.isBlocked = false := by
  obtain ⟨past, time, rest, rfl, rfl, rfl, tail⟩ := calls_split split
  obtain ⟨past', time', rest', rfl, rfl, rfl, -⟩ := calls_split tail.symm
  have counted := counted_before fresh sorted
  have answer := call_answer counted time
  have ordered := (List.pairwise_append.mp sorted).2.1
  have marker := answer.marks marks.1 marks.2
  have counted' := answer.counted counted le_rfl
  have started : ∀ t ∈ past', time ≤ t := fun t mem =>
    List.rel_of_pairwise_cons ordered (List.mem_append_left _ mem)
  have before : ∀ t ∈ past', t < time + b.block := by
    intro t mem
    rw [← calls_time (b := b) (b.call (b.final db past) time).after past'] at mem
    obtain ⟨m, member, rfl⟩ := List.mem_map.mp mem
    exact within m member
  have same := final_marked counted' started (List.pairwise_append.mp ordered.of_cons).1 marker before
  change (b.call (b.final (b.call (b.final db past) time).after past') time').verdict.isBlocked = _
  rw [same]
  have next : time ≤ time' :=
    List.rel_of_pairwise_cons ordered (List.mem_append_right _ List.mem_cons_self)
  apply (call_answer (counted'.mono next) time').first h.limit
  · rw [Keyspace.pttl_pos marker]
    exact not_lt_of_gt after
  · change time + b.block < time' at after
    cases stored : (b.call (b.final db past) time).after b.hits with
    | none => exact Keyspace.lookup_none stored
    | some entry =>
      obtain ⟨value, expireAt, rfl, -, bound⟩ := counted' entry stored
      apply Keyspace.lookup_expired stored
      omega

/-- The script keeps a bucket safe over every sequence of calls at times that do
not go back. -/
theorem script_safe (h : b.WellFormed) (fresh : db b.hits = none)
    (sorted : times.Pairwise (· ≤ ·)) : b.Safe db times where
  noStrandedCounter _ _ found := by
    apply noStrandedCounter h.ttl fresh sorted
    exact (Keyspace.eq_some_of_lookup found).1
  admitsLimit _ _ _ _ split opens found := admitsLimit h fresh sorted split opens found
  markedUnchanged _ mem marked := markedUnchanged fresh sorted mem marked
  recovers covers _ _ _ _ _ split marks within after :=
    recovers h fresh sorted covers split marks within after

/-- Three hits in a window of two, a refusal from the marker, and a new window. -/
theorem script_safe_login :
    Safe ⟨"auth", "127.0.0.1", 60000, 2, 0⟩ Keyspace.empty [0, 1, 2, 50000, 60003] :=
  script_safe ⟨by decide, by decide, by decide⟩ rfl (by decide)

end Bucket

end TenantOS.RateLimits
