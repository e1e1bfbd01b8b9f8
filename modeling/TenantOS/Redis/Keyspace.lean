import Mathlib.Logic.Function.Basic
import Mathlib.Tactic.Common

/-! A Redis keyspace, with the few commands a counter with an expiry needs. Each
command is given the time it runs at; a key is kept while that is no later than
its expiry, and an expired entry is as good as none. -/
namespace TenantOS.Redis

structure Entry where
  value : Int
  expireAt : Option Int
deriving DecidableEq, Repr

def Entry.live (entry : Entry) (now : Int) : Bool :=
  entry.expireAt.all fun expireAt => now ≤ expireAt

abbrev Keyspace (κ : Type) := κ → Option Entry

namespace Keyspace

variable {κ : Type} (db : Keyspace κ) (now : Int) (key : κ)

def empty : Keyspace κ := fun _ => none

/-- What a command finds under the key. -/
def lookup : Option Entry := (db key).filter (·.live now)

/-! The commands that read. -/

def get : Option Int := (db.lookup now key).map (·.value)

/-- `-2` for a missing key, `-1` for a key without expiry. -/
def pttl : Int :=
  match db.lookup now key with
  | none => -2
  | some entry =>
    match entry.expireAt with
    | none => -1
    | some expireAt => expireAt - now

section

variable [DecidableEq κ]

def put (entry : Entry) : Keyspace κ := Function.update db key (some entry)

/-! The commands that write. -/

/-- Keeps the expiry of a key that exists. -/
def incr : Int × Keyspace κ :=
  match db.lookup now key with
  | none => (1, db.put key ⟨1, none⟩)
  | some entry => (entry.value + 1, db.put key ⟨entry.value + 1, entry.expireAt⟩)

def pexpire (milliseconds : Int) : Keyspace κ :=
  match db.lookup now key with
  | none => db
  | some entry => db.put key ⟨entry.value, some (now + milliseconds)⟩

def setPx (value milliseconds : Int) : Keyspace κ :=
  db.put key ⟨value, some (now + milliseconds)⟩

end

variable {db now key}

theorem lookup_none (h : db key = none) : db.lookup now key = none := by
  rw [lookup, h]
  rfl

theorem lookup_live {entry : Entry} (h : db key = some entry) (live : entry.live now) :
    db.lookup now key = some entry := by
  rw [lookup, h]
  exact Option.filter_some_pos live

theorem lookup_expired {value expireAt : Int} (h : db key = some ⟨value, some expireAt⟩)
    (past : expireAt < now) : db.lookup now key = none := by
  rw [lookup, h]
  apply Option.filter_some_neg
  rw [Entry.live, Option.all_some, decide_eq_false_iff_not]
  omega

/-- The state of a key with an expiry: still kept, or gone. -/
theorem lookup_some_expiry {value expireAt : Int} (h : db key = some ⟨value, some expireAt⟩) :
    db.lookup now key = if now ≤ expireAt then some ⟨value, some expireAt⟩ else none := by
  split
  · apply lookup_live h
    simpa [Entry.live]
  · apply lookup_expired h
    omega

theorem eq_some_of_lookup {entry : Entry} (h : db.lookup now key = some entry) :
    db key = some entry ∧ entry.live now :=
  Option.filter_eq_some_iff.mp h

theorem pttl_of_missing (h : db.lookup now key = none) : db.pttl now key = -2 := by
  rw [pttl, h]

theorem pttl_of_expiry {value expireAt : Int}
    (h : db.lookup now key = some ⟨value, some expireAt⟩) :
    db.pttl now key = expireAt - now := by
  rw [pttl, h]

/-- Time to live is left exactly before the expiry. -/
theorem pttl_pos {value expireAt : Int} (h : db key = some ⟨value, some expireAt⟩) :
    0 < db.pttl now key ↔ now < expireAt := by
  have found : db.lookup now key = _ := lookup_some_expiry h
  split at found
  · rw [pttl_of_expiry found]
    omega
  · rw [pttl_of_missing found]
    omega

section

variable [DecidableEq κ] {entry : Entry}

@[simp] theorem put_self : db.put key entry key = some entry :=
  Function.update_self ..

theorem put_of_ne {other : κ} (h : other ≠ key) : db.put key entry other = db other :=
  Function.update_of_ne h ..

theorem incr_of_ne {other : κ} (h : other ≠ key) : (db.incr now key).2 other = db other := by
  unfold incr
  cases db.lookup now key with
  | none => exact put_of_ne h
  | some entry => exact put_of_ne h

theorem pexpire_of_ne {other : κ} {milliseconds : Int} (h : other ≠ key) :
    db.pexpire now key milliseconds other = db other := by
  unfold pexpire
  cases db.lookup now key with
  | none => rfl
  | some entry => exact put_of_ne h

end

end Keyspace

end TenantOS.Redis
