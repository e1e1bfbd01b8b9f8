import TenantOS.Domain.User
import TenantOS.Redis.Glob

/-! `CacheService.deleteByPrefix`: SCAN and UNLINK, batch by batch. -/
namespace TenantOS.Infrastructure

open TenantOS.Domain (utf16Units utf16Length dropUnits)
open TenantOS.Redis.Glob

/-- What Redis holds, under the keys as it has them. -/
abbrev RedisStore := String → Option String

/-- One answer to `SCAN`. -/
structure ScanReply where
  cursor : String
  keys : List String

/-- How a round of the loop goes: `SCAN` fails, or it is answered and `UNLINK`, if it is sent,
goes through or fails. -/
inductive ScanRound where
  | failed
  | answered (reply : ScanReply) (unlinks : Bool)

namespace PrefixInvalidation

/-- The client puts its `keyPrefix` before the keys of a command. -/
def clientKey (keyPrefix key : String) : String :=
  keyPrefix ++ ":" ++ key

def unlink (keyPrefix : String) (keys : List String) (store : RedisStore) : RedisStore :=
  fun key => if key ∈ keys.map (clientKey keyPrefix) then none else store key

/-- `MATCH` is no key: what the client puts before keys is written out. -/
def fullPattern (keyPrefix start : String) : String :=
  keyPrefix ++ ":" ++ start ++ "*"

/-- `k.slice(keyPrefix.length + 1)` -/
def unprefixed (keyPrefix key : String) : String :=
  String.ofList (dropUnits (utf16Length keyPrefix + 1) key.toList)

/-- What is unlinked over one answer. -/
def unlinkBatch (keyPrefix : String) (keys : List String) (store : RedisStore) : RedisStore :=
  if 0 < keys.length then unlink keyPrefix (keys.map (unprefixed keyPrefix)) store else store

/-- The loop, round by round; `none` while another answer is awaited, and where one is left that
nobody asked for. A failure is logged, and ends the loop. -/
def scanLoop (keyPrefix : String) : List ScanRound → Nat → RedisStore → Option (Nat × RedisStore)
  | [], _, _ => none
  | .failed :: _, deleted, store => some (deleted, store)
  | .answered reply unlinks :: rounds, deleted, store =>
      if !unlinks && reply.keys ≠ [] then some (deleted, store)
      else
        let store := unlinkBatch keyPrefix reply.keys store
        let deleted := deleted + reply.keys.length
        if reply.cursor ≠ "0" then scanLoop keyPrefix rounds deleted store
        else if rounds.isEmpty then some (deleted, store)
        else none

def deleteByPrefix (keyPrefix : String) (rounds : List ScanRound) (store : RedisStore) :
    Option (Nat × RedisStore) :=
  scanLoop keyPrefix rounds 0 store

/-- No command fails. -/
def withoutErrors (replies : List ScanReply) : List ScanRound :=
  replies.map fun reply => .answered reply true

/-- A scan that nobody else's writes run into: it is answered with keys that match, and with
each of them that is there all along. -/
structure CompleteScan (keyPrefix start : String) (replies : List ScanReply)
    (before after : RedisStore) : Prop where
  ends : ∃ deleted,
    deleteByPrefix keyPrefix (withoutErrors replies) before = some (deleted, after)
  answered : ∀ reply ∈ replies, ∀ key ∈ reply.keys,
    globMatch (fullPattern keyPrefix start) key = true ∧ (before key).isSome
  all : ∀ key, globMatch (fullPattern keyPrefix start) key = true → (after key).isSome →
    ∃ reply ∈ replies, key ∈ reply.keys

variable {keyPrefix start key : String} {replies : List ScanReply} {before after : RedisStore}

/-- The key that is unlinked for one that was found. -/
def unlinked (keyPrefix key : String) : String :=
  clientKey keyPrefix (unprefixed keyPrefix key)

theorem unlinkBatch_apply (keys : List String) (store : RedisStore) :
    unlinkBatch keyPrefix keys store key =
      if key ∈ keys.map (unlinked keyPrefix) then none else store key := by
  cases keys with
  | nil => simp [unlinkBatch]
  | cons first rest =>
    rw [unlinkBatch, if_pos (by simp), unlink, List.map_map]
    rfl

/-- The loop unlinks what it was answered, and leaves the rest. -/
theorem scanLoop_spec {deleted total : Nat}
    (h : scanLoop keyPrefix (withoutErrors replies) deleted before = some (total, after))
    (key : String) :
    after key =
      if key ∈ (replies.flatMap ScanReply.keys).map (unlinked keyPrefix) then none
      else before key := by
  induction replies generalizing deleted before with
  | nil => cases h
  | cons reply replies ih =>
    have batch : unlinkBatch keyPrefix reply.keys before key = _ := unlinkBatch_apply _ _
    simp only [withoutErrors, List.map_cons, scanLoop, Bool.not_true, Bool.false_and,
      Bool.false_eq_true, if_false] at h
    rw [List.flatMap_cons, List.map_append]
    split at h
    · rw [ih h, batch]
      simp only [List.mem_append]
      by_cases here : key ∈ reply.keys.map (unlinked keyPrefix)
      · simp only [here, if_true, true_or, ite_self]
      · simp only [here, if_false, false_or]
    · split at h
      · rename_i last
        obtain ⟨-, rfl⟩ := Prod.mk.inj (Option.some.inj h)
        rw [batch, List.map_eq_nil_iff.mp (List.isEmpty_iff.mp last)]
        simp
      · cases h

theorem CompleteScan.after_eq (h : CompleteScan keyPrefix start replies before after)
    (key : String) :
    after key =
      if key ∈ (replies.flatMap ScanReply.keys).map (unlinked keyPrefix) then none
      else before key := by
  obtain ⟨deleted, ends⟩ := h.ends
  exact scanLoop_spec ends key

/-- The code units of a text. -/
def units (text : List Char) : Nat :=
  (text.map utf16Units).sum

theorem utf16Length_eq_units (s : String) : utf16Length s = units s.toList := by
  rw [utf16Length, units, List.sum_eq_foldr, List.foldr_map]

theorem units_append (text text' : List Char) : units (text ++ text') = units text + units text' := by
  rw [units, List.map_append, List.sum_append]
  rfl

theorem utf16Units_pos (c : Char) : 0 < utf16Units c := by
  unfold utf16Units
  split <;> omega

theorem dropUnits_zero (text : List Char) : dropUnits 0 text = text := by
  cases text with
  | nil => rfl
  | cons c text => rw [dropUnits, if_pos rfl]

theorem dropUnits_append (text rest : List Char) : dropUnits (units text) (text ++ rest) = rest := by
  induction text with
  | nil => exact dropUnits_zero rest
  | cons c text ih =>
    have some := utf16Units_pos c
    have length : units (c :: text) = utf16Units c + units text := rfl
    rw [List.cons_append, dropUnits, if_neg (by omega), if_pos (by omega), length,
      Nat.add_sub_cancel_left, ih]

/-- Half of a pair is a unit as well. -/
theorem units_dropUnits (start : Nat) (text : List Char) :
    units (dropUnits start text) = units text - start := by
  induction text generalizing start with
  | nil => exact (Nat.zero_sub start).symm
  | cons c text ih =>
    have length (d : Char) : units (d :: text) = utf16Units d + units text := rfl
    have half : utf16Units '\ufffd' = 1 := rfl
    rw [dropUnits]
    split
    · rw [‹start = 0›, Nat.sub_zero]
    · split
      · rw [ih, length]
        omega
      · have pair : utf16Units c ≤ 2 := by
          unfold utf16Units
          split <;> omega
        rw [length, length, half]
        omega

/-- A key of the client's own is unlinked as itself. -/
theorem unlinked_own (h : (keyPrefix ++ ":").toList <+: key.toList) :
    unlinked keyPrefix key = key := by
  obtain ⟨rest, whole⟩ := h
  apply String.toList_inj.mp
  have length : utf16Length keyPrefix + 1 = units (keyPrefix ++ ":").toList := by
    rw [utf16Length_eq_units, String.toList_append, units_append]
    rfl
  rw [unlinked, clientKey, unprefixed, String.toList_append, String.toList_ofList, ← whole, length,
    dropUnits_append]

/-- What matches and is the client's own is gone. -/
theorem CompleteScan.own_gone (h : CompleteScan keyPrefix start replies before after)
    (own : (keyPrefix ++ ":").toList <+: key.toList)
    (matching : globMatch (fullPattern keyPrefix start) key = true) : after key = none := by
  by_contra left
  obtain ⟨reply, answered, found⟩ := h.all key matching (Option.isSome_iff_ne_none.mpr left)
  rw [h.after_eq, if_pos] at left
  · exact left rfl
  · rw [← unlinked_own own]
    exact List.mem_map_of_mem (List.mem_flatMap.mpr ⟨reply, answered, found⟩)

/-- One answer with all there is. -/
theorem completeScan_single (keys : List String) :
    let before : RedisStore := fun key => if key ∈ keys then some "" else none
    let found := keys.filter (globMatch (fullPattern keyPrefix start))
    CompleteScan keyPrefix start [⟨"0", found⟩] before (unlinkBatch keyPrefix found before) := by
  dsimp only
  refine ⟨⟨_, rfl⟩, ?_, ?_⟩
  · intro reply answered key found
    cases List.mem_singleton.mp answered
    obtain ⟨there, matching⟩ := List.mem_filter.mp found
    exact ⟨matching, by simp [there]⟩
  · intro key matching left
    refine ⟨_, List.mem_singleton_self _, List.mem_filter.mpr ⟨?_, matching⟩⟩
    by_contra missing
    rw [unlinkBatch_apply] at left
    simp [missing] at left

end PrefixInvalidation

end TenantOS.Infrastructure
