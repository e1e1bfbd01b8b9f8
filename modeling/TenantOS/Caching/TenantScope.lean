import TenantOS.Caching.PrefixDeletion
import TenantOS.Infrastructure.HttpCacheInterceptor

/-! What is cached for a tenant, and what deleting the keys under the tenant's scope finds of it. -/
namespace TenantOS.Caching.TenantScope

open TenantOS.Infrastructure TenantOS.Infrastructure.PrefixInvalidation TenantOS.Redis.Glob
open TenantOS.Shared (isUuid)
open TenantOS.Caching.PrefixDeletion

/-- Who writes to the cache under the application's own prefix. -/
inductive CacheWrite where
  /-- The interceptor, for a route whose scope is the tenant. -/
  | response (call : ExecutionContext) (ttlSeconds : Int)
  | tenant (tenantId : String)
  | membership (userId tenantId : String)
  | other (key : String)

namespace CacheWrite

variable (digest : HttpCacheInterceptor.Digest)

def key : CacheWrite → Option String
  | .response call ttlSeconds => HttpCacheInterceptor.buildKey digest call ⟨ttlSeconds, .tenant⟩
  | .tenant tenantId => some (CacheKey.tenant tenantId).text
  | .membership userId tenantId => some (CacheKey.membership userId tenantId).text
  | .other key => some key

def tenantOf : CacheWrite → Option String
  | .response call _ => call.context.bind (·.tenantId)
  | .tenant tenantId | .membership _ tenantId => some tenantId
  | .other _ => none

end CacheWrite

def store (keyPrefix : String) (digest : HttpCacheInterceptor.Digest) (before : RedisStore)
    (write : CacheWrite × String) : RedisStore :=
  match write.1.key digest with
  | none => before
  | some key => Function.update before (clientKey keyPrefix key) (some write.2)

def stored (keyPrefix : String) (digest : HttpCacheInterceptor.Digest)
    (writes : List (CacheWrite × String)) : RedisStore :=
  writes.foldl (store keyPrefix digest) fun _ => none

variable (keyPrefix tenantId : String) (digest : HttpCacheInterceptor.Digest)
  (writes : List (CacheWrite × String))

def WrittenFor (id key : String) : Prop :=
  ∃ write ∈ writes, write.1.tenantOf = some id ∧ write.1.key digest = some key

def Invalidates (after : RedisStore) : Prop :=
  ∀ id key, WrittenFor digest writes id key →
    after (clientKey keyPrefix key) =
      if id = tenantId then none
      else stored keyPrefix digest writes (clientKey keyPrefix key)

def Caught (key : String) : Prop :=
  globMatch (fullPattern keyPrefix (CacheKey.tenantScope tenantId).text)
    (clientKey keyPrefix key) = true

variable {keyPrefix tenantId digest writes} {key : String}

theorem own_clientKey (keyPrefix key : String) :
    (keyPrefix ++ ":").toList <+: (clientKey keyPrefix key).toList := by
  simp [clientKey]

/-! What is stored. -/

theorem store_isSome {before : RedisStore} {write : CacheWrite × String} {full : String} :
    (store keyPrefix digest before write full).isSome ↔
      (before full).isSome ∨ ∃ key, write.1.key digest = some key ∧ clientKey keyPrefix key = full := by
  unfold store
  cases write.1.key digest with
  | none => simp
  | some key =>
    by_cases same : full = clientKey keyPrefix key
    · simp [same]
    · simp [same, Ne.symm same]

theorem stored_isSome {full : String} : (stored keyPrefix digest writes full).isSome ↔
    ∃ write ∈ writes, ∃ key, write.1.key digest = some key ∧ clientKey keyPrefix key = full := by
  have run (before : RedisStore) : (writes.foldl (store keyPrefix digest) before full).isSome ↔
      (before full).isSome ∨
        ∃ write ∈ writes, ∃ key, write.1.key digest = some key ∧ clientKey keyPrefix key = full := by
    induction writes generalizing before with
    | nil => simp
    | cons write writes ih =>
      rw [List.foldl_cons, ih, store_isSome, or_assoc, List.exists_mem_cons_iff]
  rw [stored, run]
  simp

/-! What a scan deletes of it. -/

/-- All keys are the client's own, so what is unlinked is what was found. -/
theorem after_scan {replies : List ScanReply} {after : RedisStore}
    (scan : CompleteScan keyPrefix (CacheKey.tenantScope tenantId).text replies
      (stored keyPrefix digest writes) after) (key : String) :
    (Caught keyPrefix tenantId key → after (clientKey keyPrefix key) = none) ∧
      (¬ Caught keyPrefix tenantId key →
        after (clientKey keyPrefix key) = stored keyPrefix digest writes (clientKey keyPrefix key)) := by
  constructor
  · exact scan.own_gone (own_clientKey keyPrefix key)
  · intro missed
    rw [scan.after_eq, if_neg]
    intro deleted
    obtain ⟨found, mem, same⟩ := List.mem_map.mp deleted
    obtain ⟨reply, answered, here⟩ := List.mem_flatMap.mp mem
    obtain ⟨matching, there⟩ := scan.answered reply answered found here
    obtain ⟨_, -, own, -, rfl⟩ := stored_isSome.mp there
    rw [unlinked_own (own_clientKey keyPrefix own)] at same
    rw [same] at matching
    exact missed matching

theorem invalidates_iff {replies : List ScanReply} {after : RedisStore}
    (scan : CompleteScan keyPrefix (CacheKey.tenantScope tenantId).text replies
      (stored keyPrefix digest writes) after) :
    Invalidates keyPrefix tenantId digest writes after ↔
      ∀ id key, WrittenFor digest writes id key → (Caught keyPrefix tenantId key ↔ id = tenantId) := by
  apply forall_congr'
  intro id
  apply forall_congr'
  intro key
  apply imp_congr_right
  rintro ⟨write, mem, -, written⟩
  have there : stored keyPrefix digest writes (clientKey keyPrefix key) ≠ none :=
    Option.isSome_iff_ne_none.mp (stored_isSome.mpr ⟨write, mem, key, written, rfl⟩)
  obtain ⟨gone, left⟩ := after_scan scan key
  by_cases caught : Caught keyPrefix tenantId key
  · rw [gone caught]
    by_cases same : id = tenantId
    · simp [same, caught]
    · simp [same, caught, there.symm]
  · rw [left caught]
    by_cases same : id = tenantId
    · simp [same, caught, there]
    · simp [same, caught]

/-! The keys. -/

theorem mem_isUuid {text : List Char} (h : isUuid text = true) {c : Char} (mem : c ∈ text) :
    c = '-' ∨ Shared.isHexDigit c = true := by
  obtain ⟨i, here⟩ := List.mem_iff_getElem?.mp mem
  have all := (Bool.and_eq_true_iff.mp h).2
  have each := List.all_eq_true.mp all (c, i) (List.mem_zipIdx_iff_getElem?.mpr here)
  split at each
  · exact .inl (of_decide_eq_true each)
  · exact .inr each

theorem tenantScope_toList (id : String) : (CacheKey.tenantScope id).text.toList =
    ['v', '1', ':', 't', ':'] ++ id.toList := by
  simp [CacheKey.text, CacheKey.key, CacheKey.schemaVersion]

/-- Nothing of a tenant's scope means anything to the pattern. -/
theorem scope_literal (uuid : isUuid tenantId.toList = true) :
    ∀ c ∈ (CacheKey.tenantScope tenantId).text.toList, c ≠ '*' ∧ c ≠ '[' ∧ c ≠ '\\' ∧ c ≠ '?' := by
  rw [tenantScope_toList]
  have scope : ∀ c ∈ ['v', '1', ':', 't', ':'], c ≠ '*' ∧ c ≠ '[' ∧ c ≠ '\\' ∧ c ≠ '?' := by
    simp
  intro c mem
  rcases List.mem_append.mp mem with own | mem
  · exact scope c own
  · rcases mem_isUuid uuid mem with rfl | digit
    · decide
    · refine ⟨?_, ?_, ?_, ?_⟩ <;> rintro rfl <;> exact absurd digit (by decide)

theorem not_under_scope {id : String} (h : WrittenFor digest writes id key) :
    ¬ (CacheKey.tenantScope tenantId).text.toList <+: key.toList := by
  obtain ⟨⟨write, text⟩, -, about, written⟩ := h
  rw [tenantScope_toList]
  intro under
  have first : ['v', '1', ':', 't', ':'] <+: key.toList := (List.prefix_append _ _).trans under
  cases write with
  | response call ttlSeconds =>
    obtain ⟨identity, -, rfl⟩ := Option.map_eq_some_iff.mp written
    simp [List.cons_prefix_cons] at first
  | tenant tenantId =>
    cases written
    simp [CacheKey.text, CacheKey.key, CacheKey.schemaVersion] at first
  | membership userId tenantId =>
    cases written
    simp [CacheKey.text, CacheKey.key, CacheKey.schemaVersion] at first
  | other key => cases about

theorem not_caught {id : String} (uuid : isUuid tenantId.toList = true)
    (plain : ∀ c ∈ keyPrefix.toList, c ≠ '*' ∧ c ≠ '[' ∧ c ≠ '\\')
    (h : WrittenFor digest writes id key) : ¬ Caught keyPrefix tenantId key := by
  have scope := scope_literal uuid
  have pattern : Plain (written keyPrefix (CacheKey.tenantScope tenantId).text) :=
    plain_iff.mpr ⟨plain, fun c mem => ⟨(scope c mem).1, (scope c mem).2.1, (scope c mem).2.2.1⟩⟩
  intro caught
  exact not_under_scope h (starts_of_own pattern (fun c mem => (scope c mem).2.2.2) caught)

/-- A scan for the scope finds nothing of what is written for tenants. -/
theorem scan_finds_nothing (uuid : isUuid tenantId.toList = true)
    (plain : ∀ c ∈ keyPrefix.toList, c ≠ '*' ∧ c ≠ '[' ∧ c ≠ '\\')
    (tenants : ∀ write ∈ writes, write.1.tenantOf.isSome) :
    CompleteScan keyPrefix (CacheKey.tenantScope tenantId).text [⟨"0", []⟩]
      (stored keyPrefix digest writes) (stored keyPrefix digest writes) := by
  refine ⟨⟨0, rfl⟩, ?_, ?_⟩
  · intro reply answered key found
    cases List.mem_singleton.mp answered
    cases found
  · intro full matching there
    obtain ⟨write, mem, key, written, rfl⟩ := stored_isSome.mp there
    obtain ⟨id, about⟩ := Option.isSome_iff_exists.mp (tenants write mem)
    exact absurd matching (not_caught uuid plain ⟨write, mem, about, written⟩)

/-- Invalidating a tenant's scope leaves the caches of tenants alone exactly when the pattern
finds what is written for the tenant and nothing else that is; read literally it finds nothing. -/
theorem tenant_scope_invalidates_iff (keyPrefix tenantId : String)
    (uuid : isUuid tenantId.toList = true) (digest : HttpCacheInterceptor.Digest)
    (writes : List (CacheWrite × String)) (replies : List ScanReply) (after : RedisStore)
    (scan : CompleteScan keyPrefix (CacheKey.tenantScope tenantId).text replies
      (stored keyPrefix digest writes) after) :
    (Invalidates keyPrefix tenantId digest writes after ↔
      ∀ id key, WrittenFor digest writes id key →
        (Caught keyPrefix tenantId key ↔ id = tenantId)) ∧
    ((∀ c ∈ keyPrefix.toList, c ≠ '*' ∧ c ≠ '[' ∧ c ≠ '\\') →
      (Invalidates keyPrefix tenantId digest writes after ↔
        ¬ ∃ key, WrittenFor digest writes tenantId key)) := by
  refine ⟨invalidates_iff scan, fun plain => ?_⟩
  rw [invalidates_iff scan]
  constructor
  · rintro caught ⟨key, written⟩
    exact not_caught uuid plain written ((caught tenantId key written).mpr rfl)
  · intro nothing id key written
    constructor
    · intro caught
      exact absurd caught (not_caught uuid plain written)
    · rintro rfl
      exact absurd ⟨key, written⟩ nothing

/-! A tenant's own entry. -/

def sampleTenant : String := "0b7c6f52-9d1e-4a53-8c1f-6a2b3c4d5e6f"

def sampleWrites : List (CacheWrite × String) :=
  [(.tenant sampleTenant, "{}")]

theorem sampleWrites_written :
    WrittenFor id sampleWrites sampleTenant (CacheKey.tenant sampleTenant).text :=
  ⟨_, List.mem_singleton_self _, rfl, rfl⟩

theorem tenantos_plain : ∀ c ∈ "tenantos".toList, c ≠ '*' ∧ c ≠ '[' ∧ c ≠ '\\' := by
  simp

theorem sample_scan : CompleteScan "tenantos" (CacheKey.tenantScope sampleTenant).text [⟨"0", []⟩]
    (stored "tenantos" id sampleWrites) (stored "tenantos" id sampleWrites) :=
  scan_finds_nothing (by decide) tenantos_plain (by decide)

theorem tenant_scope_invalidates_iff_sample :
    ¬ ∃ key, WrittenFor id sampleWrites sampleTenant key ∧
      Invalidates "tenantos" sampleTenant id sampleWrites (stored "tenantos" id sampleWrites) := by
  rintro ⟨key, written, invalidates⟩
  exact ((tenant_scope_invalidates_iff "tenantos" sampleTenant (by decide) id sampleWrites _ _
    sample_scan).2 tenantos_plain).mp invalidates ⟨key, written⟩

/-- The entry under `CacheKey.tenant` is still there. -/
theorem tenant_entry_left :
    CompleteScan "tenantos" (CacheKey.tenantScope sampleTenant).text [⟨"0", []⟩]
        (stored "tenantos" id sampleWrites) (stored "tenantos" id sampleWrites) ∧
      ¬ Invalidates "tenantos" sampleTenant id sampleWrites
        (stored "tenantos" id sampleWrites) := by
  refine ⟨sample_scan, ?_⟩
  intro invalidates
  have gone := invalidates sampleTenant _ sampleWrites_written
  rw [if_pos rfl] at gone
  exact Option.isSome_iff_ne_none.mp
    (stored_isSome.mpr ⟨_, List.mem_singleton_self _, _, rfl, rfl⟩) gone

end TenantOS.Caching.TenantScope
