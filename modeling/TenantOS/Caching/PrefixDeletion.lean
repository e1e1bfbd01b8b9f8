import TenantOS.Infrastructure.PrefixInvalidation

/-! When `deleteByPrefix` deletes what starts with the prefix, and only that: a prefix is a
text, and `MATCH` reads a pattern. -/
namespace TenantOS.Caching.PrefixDeletion

open TenantOS.Infrastructure TenantOS.Infrastructure.PrefixInvalidation TenantOS.Redis.Glob
open TenantOS.Domain (utf16Units utf16Length dropUnits)
open TenantOS.Encoding.Utf8

variable {keyPrefix start key : String}

def DeletesPrefix (keyPrefix start : String) (before after : RedisStore) : Prop :=
  ∀ key, after key =
    if (keyPrefix ++ ":" ++ start).toList <+: key.toList then none else before key

def AlwaysDeletesPrefix (keyPrefix start : String) : Prop :=
  ∀ before after replies, CompleteScan keyPrefix start replies before after →
    DeletesPrefix keyPrefix start before after

/-- The pattern says what the prefix says. -/
def ReadLiterally (keyPrefix start : String) : Prop :=
  if start = "" then
    ∀ key : String, (keyPrefix ++ ":").toList <+: key.toList →
      globMatch (keyPrefix ++ ":*") key = true
  else
    (∀ c ∈ keyPrefix.toList, c ≠ '*' ∧ c ≠ '[' ∧ c ≠ '\\') ∧ ¬ ['?', '?'] <:+: keyPrefix.toList ∧
      ∀ c ∈ start.toList, c ≠ '*' ∧ c ≠ '[' ∧ c ≠ '\\' ∧ c ≠ '?'

/-! What a scan finds and what is unlinked for it. -/

structure Faithful (keyPrefix start : String) : Prop where
  finds : ∀ key : String, (keyPrefix ++ ":" ++ start).toList <+: key.toList →
    globMatch (fullPattern keyPrefix start) key = true
  keeps : ∀ key, globMatch (fullPattern keyPrefix start) key = true →
    (keyPrefix ++ ":" ++ start).toList <+: (unlinked keyPrefix key).toList

theorem own_of_starts (h : (keyPrefix ++ ":" ++ start).toList <+: key.toList) :
    (keyPrefix ++ ":").toList <+: key.toList := by
  rw [String.toList_append] at h
  exact (List.prefix_append _ _).trans h

theorem Faithful.deletes (h : Faithful keyPrefix start) : AlwaysDeletesPrefix keyPrefix start := by
  intro before after replies scan key
  split
  · rename_i starts
    exact scan.own_gone (own_of_starts starts) (h.finds key starts)
  · rename_i other
    rw [scan.after_eq, if_neg]
    intro deleted
    obtain ⟨found, mem, rfl⟩ := List.mem_map.mp deleted
    obtain ⟨reply, answered, here⟩ := List.mem_flatMap.mp mem
    exact other (h.keeps found (scan.answered reply answered found here).1)

/-- A key nobody finds, and one that is unlinked for another. -/
theorem AlwaysDeletesPrefix.faithful (h : AlwaysDeletesPrefix keyPrefix start) :
    Faithful keyPrefix start := by
  constructor
  · intro key starts
    by_contra unmatched
    have left := h _ _ _ (completeScan_single [key]) key
    rw [if_pos starts, List.filter_cons_of_neg unmatched] at left
    simp [unlinkBatch] at left
  · intro key matching
    by_contra other
    have left := h _ _ _ (completeScan_single [key, unlinked keyPrefix key]) (unlinked keyPrefix key)
    rw [if_neg other, unlinkBatch_apply, if_pos] at left
    · simp at left
    · rw [List.filter_cons_of_pos matching]
      exact List.mem_cons_self

theorem alwaysDeletesPrefix_iff_faithful :
    AlwaysDeletesPrefix keyPrefix start ↔ Faithful keyPrefix start :=
  ⟨fun h => h.faithful, fun h => h.deletes⟩

/-! The pattern. -/

theorem toList_fullKey (keyPrefix rest : String) :
    (keyPrefix ++ ":" ++ rest).toList = keyPrefix.toList ++ ':' :: rest.toList := by
  simp

def written (keyPrefix start : String) : List Char :=
  keyPrefix.toList ++ ':' :: start.toList

theorem globMatch_fullPattern : globMatch (fullPattern keyPrefix start) key = true ↔
    Begins (octets (written keyPrefix start)) (octets key.toList) := by
  have pattern : (fullPattern keyPrefix start).toList = written keyPrefix start ++ ['*'] := by
    simp [fullPattern, written]
  rw [globMatch, pattern, octets_append]
  rfl

/-- Where the rest of the key begins. -/
def rest (keyPrefix : String) (key : List Char) : List Char :=
  dropUnits (utf16Length keyPrefix + 1) key

theorem prefix_unlinked_iff :
    (keyPrefix ++ ":" ++ start).toList <+: (unlinked keyPrefix key).toList ↔
      start.toList <+: rest keyPrefix key.toList := by
  rw [unlinked, clientKey, toList_fullKey, toList_fullKey, unprefixed, String.toList_ofList,
    List.prefix_append_right_inj, List.prefix_cons_inj]
  rfl

/-- What stands before it only matters for its length. -/
theorem rest_append {own : List Char} (length : units own = units keyPrefix.toList)
    (later : List Char) : rest keyPrefix (own ++ ':' :: later) = later := by
  have whole : utf16Length keyPrefix + 1 = units (own ++ [':']) := by
    rw [utf16Length_eq_units, units_append, length]
    rfl
  rw [rest, whole, List.append_cons own ':' later, dropUnits_append]

theorem faithful_iff : Faithful keyPrefix start ↔
    (∀ later, Begins (octets (written keyPrefix start))
      (octets (written keyPrefix start ++ later))) ∧
    ∀ text, Begins (octets (written keyPrefix start)) (octets text) →
      start.toList <+: rest keyPrefix text := by
  constructor
  · intro h
    constructor
    · intro later
      have found := h.finds (String.ofList (written keyPrefix start ++ later))
      rw [globMatch_fullPattern, toList_fullKey, String.toList_ofList] at found
      exact found (List.prefix_append _ _)
    · intro text begins
      have kept := h.keeps (String.ofList text)
      rw [globMatch_fullPattern, prefix_unlinked_iff, String.toList_ofList] at kept
      exact kept begins
  · rintro ⟨own, kept⟩
    constructor
    · rintro key ⟨later, whole⟩
      rw [globMatch_fullPattern, ← whole, toList_fullKey]
      exact own later
    · intro key matching
      rw [prefix_unlinked_iff]
      exact kept key.toList (globMatch_fullPattern.mp matching)

/-- What is found is at least as long as what is looked for, in the units that are sliced off. -/
theorem Faithful.long (h : Faithful keyPrefix start) (some : start ≠ "") {text : List Char}
    (begins : Begins (octets (written keyPrefix start)) (octets text)) :
    units (written keyPrefix start) ≤ units text := by
  obtain ⟨later, whole⟩ := (faithful_iff.mp h).2 text begins
  have left : units (rest keyPrefix text) = units text - (utf16Length keyPrefix + 1) :=
    units_dropUnits _ text
  rw [← whole, units_append, utf16Length_eq_units] at left
  have length : units (written keyPrefix start) =
      units keyPrefix.toList + (1 + units start.toList) := units_append ..
  have letters : 0 < units start.toList := by
    obtain ⟨c, cs, letters⟩ := List.exists_cons_of_ne_nil (mt String.toList_eq_nil_iff.mp some)
    rw [letters]
    exact Nat.lt_of_lt_of_le (utf16Units_pos c) (Nat.le_add_right ..)
  omega

theorem Faithful.plain (h : Faithful keyPrefix start) (some : start ≠ "") :
    Plain (written keyPrefix start) := by
  have own := (faithful_iff.mp h).1
  rw [← plain_octets_iff]
  refine plain_of_begins ?_ ?_ ?_
  · have itself := own []
    rwa [List.append_nil] at itself
  · have longer := own ['*']
    rwa [octets_append] at longer
  · intro before c after bytes ascii shorter
    obtain ⟨first, last, whole, rfl, rfl⟩ := octets_split bytes ascii
    rw [← octets_append] at shorter
    have long := h.long some shorter
    have one : units (c :: last) = utf16Units c + units last := rfl
    have length := utf16Units_pos c
    rw [whole, units_append, units_append, one] at long
    omega

theorem Faithful.no_question (h : Faithful keyPrefix start) (some : start ≠ "") :
    ∀ c ∈ start.toList, c ≠ '?' := by
  have like : Resembles (octets (written keyPrefix start))
      (octets (keyPrefix.toList ++ ':' :: filled start.toList)) := by
    rw [written, octets_append, octets_append]
    exact (resembles_refl _).append ((resembles_refl (octetsOf ':')).append (resembles_filled _))
  have begins := (begins_iff (plain_octets_iff.mpr (h.plain some))).mpr
    ⟨_, [], (List.append_nil _).symm, like⟩
  have kept := (faithful_iff.mp h).2 _ begins
  rw [rest_append rfl] at kept
  have same : start.toList = filled start.toList := kept.eq_of_length (by simp [filled])
  rintro c mem rfl
  exact question_notMem_filled _ (same ▸ mem)

/-- Two question marks find a character of two bytes, which is a unit less. -/
theorem Faithful.lone_marks (h : Faithful keyPrefix start) (some : start ≠ "") :
    ¬ ['?', '?'] <:+: keyPrefix.toList := by
  rintro ⟨before, after, whole⟩
  have like : Resembles (octets (written keyPrefix start))
      (octets (before ++ ['é'] ++ after ++ ':' :: start.toList)) := by
    have both : Resembles (octets ['?', '?']) (octets ['é']) :=
      .cons (.inl rfl) (.cons (.inl rfl) .nil)
    rw [written, ← whole]
    simp only [octets_append]
    exact .append (.append (.append (resembles_refl _) both) (resembles_refl _)) (resembles_refl _)
  have begins := (begins_iff (plain_octets_iff.mpr (h.plain some))).mpr
    ⟨_, [], (List.append_nil _).symm, like⟩
  have long := h.long some begins
  have two : units ['?', '?'] = 2 := rfl
  have one : units ['é'] = 1 := rfl
  rw [written, ← whole] at long
  simp only [units_append, two, one] at long
  omega

theorem utf16Units_ascii {c : Char} (ascii : isAscii c = true) : utf16Units c = 1 := by
  have small := isAscii_iff.mp ascii
  exact if_pos (UInt32.lt_iff_toNat_lt.mpr (small.trans (by decide)))

theorem units_eq_of_like {own own' : List Char}
    (same : List.Forall₂ (fun c d => c = d ∨ c = '?' ∧ isAscii d = true) own own') :
    units own' = units own := by
  induction same with
  | nil => rfl
  | cons first _ ih =>
    refine congrArg₂ (· + ·) ?_ ih
    rcases first with rfl | ⟨rfl, ascii⟩
    · rfl
    · exact utf16Units_ascii ascii

/-- Read literally, the pattern finds what has the prefix, whatever stands for the question marks
of `keyPrefix`. -/
theorem faithful_of_plain (plain : Plain (written keyPrefix start))
    (lone : ¬ ['?', '?'] <:+: keyPrefix.toList) (marks : ∀ c ∈ start.toList, c ≠ '?') :
    Faithful keyPrefix start := by
  have bytes := plain_octets_iff.mpr plain
  rw [faithful_iff]
  constructor
  · intro later
    rw [octets_append]
    exact (begins_iff bytes).mpr ⟨_, _, rfl, resembles_refl _⟩
  · intro text begins
    obtain ⟨before, after, whole, like⟩ := (begins_iff bytes).mp begins
    have colon : ∀ c ∈ ':' :: start.toList, c ≠ '?' := List.forall_mem_cons.mpr ⟨by decide, marks⟩
    obtain ⟨own, later, rfl, same⟩ := like.texts lone (List.cons_ne_nil _ _) colon whole
    rw [List.append_assoc, List.cons_append, rest_append]
    · exact List.prefix_append _ _
    · exact units_eq_of_like same

/-- A key of the client's own that is found has the prefix, however many question marks
`keyPrefix` has. -/
theorem starts_of_own (plain : Plain (written keyPrefix start))
    (marks : ∀ c ∈ start.toList, c ≠ '?')
    (found : globMatch (fullPattern keyPrefix start) (clientKey keyPrefix key) = true) :
    start.toList <+: key.toList := by
  rw [globMatch_fullPattern, begins_iff (plain_octets_iff.mpr plain), clientKey,
    toList_fullKey] at found
  obtain ⟨before, after, whole, like⟩ := found
  rw [written, octets_append] at like
  have long : (octets keyPrefix.toList).length ≤ before.length := by
    rw [← List.Forall₂.length_eq like, List.length_append]
    exact Nat.le_add_right ..
  have later := congrArg (List.drop (octets keyPrefix.toList).length) whole
  rw [octets_append, List.drop_left, List.drop_append_of_le_length long] at later
  have same := List.forall₂_drop (octets keyPrefix.toList).length like
  rw [List.drop_left, ← List.append_nil (octets _)] at same
  have colon : ∀ c ∈ ':' :: start.toList, c ≠ '?' := List.forall_mem_cons.mpr ⟨by decide, marks⟩
  obtain ⟨rest, here, -⟩ := Resembles.literal (marks_octets colon) same
  rw [here, List.append_assoc] at later
  have begins : octets (':' :: start.toList) <+: octets (':' :: key.toList) := ⟨_, later.symm⟩
  exact (List.prefix_cons_inj ':').mp (octets_prefix_iff.mp begins)

theorem plain_iff : Plain (written keyPrefix start) ↔
    (∀ c ∈ keyPrefix.toList, c ≠ '*' ∧ c ≠ '[' ∧ c ≠ '\\') ∧
      ∀ c ∈ start.toList, c ≠ '*' ∧ c ≠ '[' ∧ c ≠ '\\' := by
  have meaning (c : Char) : (isOpening c = false ∧ c ≠ '*') ↔ c ≠ '*' ∧ c ≠ '[' ∧ c ≠ '\\' := by
    simp only [isOpening, Bool.or_eq_false_iff, decide_eq_false_iff_not]
    exact and_comm
  have colon : ':' ≠ '*' ∧ ':' ≠ '[' ∧ ':' ≠ '\\' := by decide
  simp only [Plain, written, meaning, List.forall_mem_append, List.forall_mem_cons]
  exact ⟨fun h => ⟨h.1, h.2.2⟩, fun h => ⟨h.1, colon, h.2⟩⟩

theorem faithful_iff_readLiterally :
    Faithful keyPrefix start ↔ ReadLiterally keyPrefix start := by
  unfold ReadLiterally
  split
  · rename_i none
    subst none
    have pattern : fullPattern keyPrefix "" = keyPrefix ++ ":*" := by
      rw [fullPattern, String.append_empty, String.append_assoc]
      rfl
    have nothing : keyPrefix ++ ":" ++ "" = keyPrefix ++ ":" := String.append_empty
    rw [← pattern]
    constructor
    · intro h key own
      refine h.finds key ?_
      rw [nothing]
      exact own
    · intro h
      constructor
      · intro key own
        rw [nothing] at own
        exact h key own
      · intro key _
        rw [prefix_unlinked_iff]
        exact List.nil_prefix
  · rename_i some
    constructor
    · intro h
      obtain ⟨own, text⟩ := plain_iff.mp (h.plain some)
      exact ⟨own, h.lone_marks some, fun c mem => ⟨(text c mem).1, (text c mem).2.1,
        (text c mem).2.2, h.no_question some c mem⟩⟩
    · rintro ⟨own, lone, text⟩
      exact faithful_of_plain (plain_iff.mpr ⟨own, fun c mem =>
        ⟨(text c mem).1, (text c mem).2.1, (text c mem).2.2.1⟩⟩) lone fun c mem => (text c mem).2.2.2

/-- A prefix is deleted, exactly and always, where the pattern reads it literally. -/
theorem delete_by_prefix_iff (keyPrefix start : String) :
    AlwaysDeletesPrefix keyPrefix start ↔ ReadLiterally keyPrefix start := by
  rw [alwaysDeletesPrefix_iff_faithful, faithful_iff_readLiterally]

/-- A question mark stands for any byte: the profile of a user is deleted, whose key does
not have the prefix. -/
theorem question_deletes_more :
    ∃ before after replies, before "tenantos:v1:user:7" = some "" ∧
      CompleteScan "tenantos" "v1:user:?" replies before after ∧
        ¬ DeletesPrefix "tenantos" "v1:user:?" before after := by
  refine ⟨_, _, _, ?_, completeScan_single ["tenantos:v1:user:7"], ?_⟩
  · rfl
  · intro exactly
    have left := exactly "tenantos:v1:user:7"
    have found : globMatch (fullPattern "tenantos" "v1:user:?") "tenantos:v1:user:7" = true := by
      decide
    rw [if_neg (by decide), List.filter_cons_of_pos found, unlinkBatch_apply, if_pos (by decide)] at left
    simp at left

end TenantOS.Caching.PrefixDeletion
