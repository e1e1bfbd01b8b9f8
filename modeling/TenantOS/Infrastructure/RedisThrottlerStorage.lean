import TenantOS.Redis.Keyspace

/-! The Redis-backed rate-limit counters: one script, and the call around it. -/
namespace TenantOS.Infrastructure.RedisThrottlerStorage

open TenantOS.Redis

/-- What the script returns. -/
structure Verdict where
  totalHits : Int
  timeToExpire : Int
  isBlocked : Bool
  timeToBlockExpire : Int
deriving DecidableEq, Repr

section

variable {κ : Type} [DecidableEq κ]

/-- The hit is counted, and the first one starts the window. -/
def countHit (hitKey : κ) (ttl now : Int) (db : Keyspace κ) : Int × Keyspace κ :=
  let (hits, db) := db.incr now hitKey
  (hits, if hits = 1 then db.pexpire now hitKey ttl else db)

/-- `KEYS[1]` is the hit counter, `KEYS[2]` the block marker. -/
def script (hitKey blockKey : κ) (ttl limit blockDuration now : Int) (db : Keyspace κ) :
    Verdict × Keyspace κ :=
  let blockTtl := db.pttl now blockKey
  if blockTtl > 0 then
    (⟨(db.get now hitKey).getD limit, 0, true, blockTtl⟩, db)
  else
    let (hits, db) := countHit hitKey ttl now db
    let remaining := db.pttl now hitKey
    if hits > limit then
      (⟨hits, remaining, true, blockDuration⟩, db.setPx now blockKey 1 blockDuration)
    else
      (⟨hits, remaining, false, 0⟩, db)

end

def hitKey (throttlerName key : String) : String :=
  "throttle:" ++ throttlerName ++ ":" ++ key

def blockKey (throttlerName key : String) : String :=
  "throttle:block:" ++ throttlerName ++ ":" ++ key

/-- `blockDuration || ttl` -/
def effectiveBlock (ttl blockDuration : Int) : Int :=
  if blockDuration = 0 then ttl else blockDuration

/-- `Math.ceil(milliseconds / 1000)` -/
def toSeconds (milliseconds : Int) : Int :=
  -(-milliseconds / 1000)

/-- How the call of the script ends: `redis.eval` throws without it having run, or after. -/
inductive Delivery where
  | answered | unheard | lost
deriving DecidableEq, Repr

/-- Fails open: without an answer every request is a first one. -/
def increment (key : String) (ttl limit blockDuration : Int) (throttlerName : String)
    (delivery : Delivery) (now : Int) (db : Keyspace String) : Verdict × Keyspace String :=
  let (verdict, counted) := script (hitKey throttlerName key) (blockKey throttlerName key) ttl limit
    (effectiveBlock ttl blockDuration) now db
  match delivery with
  | .answered =>
      (⟨verdict.totalHits, toSeconds verdict.timeToExpire, verdict.isBlocked,
        toSeconds verdict.timeToBlockExpire⟩, counted)
  | .unheard => (⟨1, toSeconds ttl, false, 0⟩, counted)
  | .lost => (⟨1, toSeconds ttl, false, 0⟩, db)

theorem hitKey_ne_blockKey (throttlerName key : String) :
    hitKey throttlerName key ≠ blockKey throttlerName key := by
  unfold hitKey blockKey
  intro same
  have lengths := congrArg String.length same
  simp only [String.length_append] at lengths
  have : "throttle:".length = 9 := by decide
  have : "throttle:block:".length = 15 := by decide
  omega

theorem effectiveBlock_pos {ttl blockDuration : Int} (positive : 0 < ttl) (h : 0 ≤ blockDuration) :
    0 < effectiveBlock ttl blockDuration := by
  unfold effectiveBlock
  split
  · exact positive
  · omega

/-! What one run of the script does, by the three ways it can go. -/

section

variable {κ : Type} [DecidableEq κ] {hitKey blockKey : κ} {ttl limit blockDuration now : Int}
  {db : Keyspace κ}

/-- A live counter is counted up within its window, any other is started anew. -/
theorem countHit_live {value expireAt : Int} (h : db hitKey = some ⟨value, some expireAt⟩)
    (live : now ≤ expireAt) (counted : value ≠ 0) :
    countHit hitKey ttl now db = (value + 1, db.put hitKey ⟨value + 1, some expireAt⟩) := by
  have found : db.lookup now hitKey = some ⟨value, some expireAt⟩ := by
    rw [Keyspace.lookup_some_expiry h, if_pos live]
  have later : value + 1 ≠ 1 := by omega
  simp only [countHit, Keyspace.incr, found, later, if_false]

theorem countHit_fresh (missing : db.lookup now hitKey = none) :
    countHit hitKey ttl now db = (1, db.put hitKey ⟨1, some (now + ttl)⟩) := by
  have found : (db.put hitKey ⟨1, none⟩).lookup now hitKey = some ⟨1, none⟩ :=
    Keyspace.lookup_live Keyspace.put_self rfl
  simp only [countHit, Keyspace.incr, missing, if_true, Keyspace.pexpire, found]
  congr 1
  exact Function.update_idem ..

/-- Nothing but the counter changes. -/
theorem countHit_of_ne {other : κ} (h : other ≠ hitKey) :
    (countHit hitKey ttl now db).2 other = db other := by
  unfold countHit
  dsimp only
  split
  · rw [Keyspace.pexpire_of_ne h, Keyspace.incr_of_ne h]
  · exact Keyspace.incr_of_ne h

theorem script_marked (h : 0 < db.pttl now blockKey) :
    script hitKey blockKey ttl limit blockDuration now db =
      (⟨(db.get now hitKey).getD limit, 0, true, db.pttl now blockKey⟩, db) :=
  if_pos h

theorem script_over (unmarked : db.pttl now blockKey ≤ 0) {hits : Int} {counted : Keyspace κ}
    (h : countHit hitKey ttl now db = (hits, counted)) (exceeded : limit < hits) :
    script hitKey blockKey ttl limit blockDuration now db =
      (⟨hits, counted.pttl now hitKey, true, blockDuration⟩,
        counted.setPx now blockKey 1 blockDuration) := by
  rw [script, if_neg (by omega), h]
  exact if_pos exceeded

theorem script_within (unmarked : db.pttl now blockKey ≤ 0) {hits : Int} {counted : Keyspace κ}
    (h : countHit hitKey ttl now db = (hits, counted)) (within : hits ≤ limit) :
    script hitKey blockKey ttl limit blockDuration now db =
      (⟨hits, counted.pttl now hitKey, false, 0⟩, counted) := by
  rw [script, if_neg (by omega), h]
  exact if_neg (by omega)

/-- Other keys are left alone. -/
theorem script_of_ne {other : κ} (hit : other ≠ hitKey) (block : other ≠ blockKey) :
    (script hitKey blockKey ttl limit blockDuration now db).2 other = db other := by
  by_cases marked : 0 < db.pttl now blockKey
  · rw [script_marked marked]
  · have unmarked : db.pttl now blockKey ≤ 0 := by omega
    have counted : (countHit hitKey ttl now db).2 other = db other := countHit_of_ne hit
    rcases settled : countHit hitKey ttl now db with ⟨hits, db'⟩
    rw [settled] at counted
    by_cases exceeded : limit < hits
    · rw [script_over unmarked settled exceeded]
      exact (Keyspace.put_of_ne block).trans counted
    · rw [script_within unmarked settled (by omega)]
      exact counted

end

end TenantOS.Infrastructure.RedisThrottlerStorage
