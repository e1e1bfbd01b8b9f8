import TenantOS.Modules.WorkspaceDtos
import Mathlib.Data.List.Chain

/-! The slug a name gets where none is supplied: whatever the name, it is one that the DTOs
would have let through, up to its length. -/
namespace TenantOS.Workspaces

open TenantOS.Domain TenantOS.Modules

/-- Words and single dashes, not yet trimmed. -/
structure Dashed (cs : List Char) : Prop where
  chars : ∀ c ∈ cs, isSlugChar c ∨ isDash c
  apart : cs.IsChain fun a b => isDash a → ¬ isDash b

theorem not_isDash_of_isSlugChar {c : Char} (h : isSlugChar c) : ¬ isDash c := by
  intro dash
  rw [of_decide_eq_true dash] at h
  exact absurd h (by decide)

theorem Dashed.of_isInfix {cs cs' : List Char} (h : Dashed cs) (part : cs' <:+: cs) :
    Dashed cs' where
  chars c mem := h.chars c (part.subset mem)
  apart := by
    obtain ⟨before, after, rfl⟩ := part
    have left := (List.isChain_append.mp h.apart).1
    exact (List.isChain_append.mp left).2.1

theorem Dashed.cons_word {c : Char} {cs : List Char} (h : Dashed cs) (word : isSlugChar c) :
    Dashed (c :: cs) where
  chars := by simpa [word] using h.chars
  apart := by
    apply List.isChain_cons.mpr ⟨?_, h.apart⟩
    intro next _ dash
    exact absurd dash (not_isDash_of_isSlugChar word)

theorem dashed_dashRuns (cs : List Char) : Dashed (dashRuns cs) := by
  induction cs with
  | nil => exact ⟨by simp [dashRuns], by simp [dashRuns]⟩
  | cons c cs ih =>
    unfold dashRuns
    split
    · exact ih.cons_word ‹_›
    · split
      · rename_i rest tail
        exact tail ▸ ih
      · rename_i rest apart
        refine ⟨?_, List.isChain_cons.mpr ⟨?_, ih.apart⟩⟩
        · intro c mem
          rcases List.mem_cons.mp mem with rfl | mem
          · exact .inr rfl
          · exact ih.chars c mem
        · intro next first _ dash
          obtain ⟨others, shape⟩ := List.head?_eq_some_iff.mp first
          exact apart others (by rw [shape, of_decide_eq_true dash])

/-- What the automaton accepts: no dash at an end, no two in a row. -/
theorem slugFrom_of_dashed {cs : List Char} (h : Dashed cs) {inWord : Bool}
    (first : ∀ c ∈ cs.head?, isDash c → inWord) (last : ∀ c ∈ cs.getLast?, ¬ isDash c)
    (some : cs = [] → inWord) : slugFrom inWord cs = true := by
  induction cs generalizing inWord with
  | nil => exact some rfl
  | cons c cs ih =>
    have rest := h.of_isInfix (List.suffix_cons c cs).isInfix
    have last' : ∀ d ∈ cs.getLast?, ¬ isDash d := by
      intro d mem
      apply last d
      rw [List.getLast?_cons, Option.mem_def.mp mem]
      rfl
    unfold slugFrom
    split
    · exact ih rest (by simp) last' (by simp)
    · rename_i dash
      have dash : isDash c := (h.chars c List.mem_cons_self).resolve_left dash
      have after := (List.isChain_cons.mp h.apart).1
      have more : cs ≠ [] := by
        rintro rfl
        exact last c rfl dash
      rw [dash, first c rfl dash, ih rest (fun d mem dash' => absurd dash' (after d mem dash)) last'
        (fun empty => absurd empty more)]
      rfl

theorem head?_of_isPrefix {cs cs' : List Char} (part : cs' <+: cs) {c : Char} (h : c ∈ cs'.head?) :
    c ∈ cs.head? := by
  obtain ⟨rest, rfl⟩ := part
  obtain ⟨others, rfl⟩ := List.head?_eq_some_iff.mp h
  rfl

/-! What is left of the letters once they are cut. -/
section Cut

variable {maxLength : Nat} {letters : List Char}

theorem cutSlug_isPrefix : cutSlug maxLength letters <+: (dashRuns letters).dropWhile isDash := by
  let start := (dashRuns letters).dropWhile isDash
  have short : cutSlug maxLength letters <+: (start.rdropWhile isDash).take maxLength :=
    List.rdropWhile_prefix _ _
  have cut : (start.rdropWhile isDash).take maxLength <+: start.rdropWhile isDash :=
    List.take_prefix _ _
  have trimmed : start.rdropWhile isDash <+: start := List.rdropWhile_prefix _ _
  exact short.trans (cut.trans trimmed)

theorem dashed_cutSlug : Dashed (cutSlug maxLength letters) := by
  apply (dashed_dashRuns _).of_isInfix
  exact cutSlug_isPrefix.isInfix.trans (List.dropWhile_suffix _).isInfix

theorem cutSlug_head {c : Char} (h : c ∈ (cutSlug maxLength letters).head?) : ¬ isDash c := by
  have first := head?_of_isPrefix cutSlug_isPrefix h
  have trimmed := List.head?_dropWhile_not isDash (dashRuns letters)
  rw [Option.mem_def.mp first] at trimmed
  simpa using trimmed

theorem cutSlug_last {c : Char} (h : c ∈ (cutSlug maxLength letters).getLast?) : ¬ isDash c := by
  obtain ⟨some, rfl⟩ := List.mem_getLast?_eq_getLast h
  exact List.rdropWhile_last_not _ _ some

theorem length_cutSlug : (cutSlug maxLength letters).length ≤ maxLength := by
  have trimmed : cutSlug maxLength letters <+: _ := List.rdropWhile_prefix _ _
  exact trimmed.length_le.trans (List.length_take_le _ _)

theorem slugFrom_cutSlug (some : cutSlug maxLength letters ≠ []) :
    slugFrom false (cutSlug maxLength letters) = true := by
  apply slugFrom_of_dashed dashed_cutSlug
  · intro c first dash
    exact absurd dash (cutSlug_head first)
  · intro c last
    exact cutSlug_last last
  · intro empty
    exact absurd empty some

end Cut

section Derived

variable {nfkd toLowerCase : String → String} {maxLength : Nat} (value : String)

/-- What is derived is a slug: of the letters that are left, or the fallback. -/
theorem matchesSlug_slugifyWith :
    matchesSlug (slugifyWith nfkd toLowerCase value maxLength) = true := by
  unfold slugifyWith
  dsimp only
  split
  · decide
  · rename_i some
    rw [matchesSlug, String.toList_ofList]
    exact slugFrom_cutSlug fun empty => some (List.isEmpty_iff.mpr empty)

theorem length_slugifyWith (least : 8 ≤ maxLength) :
    (slugifyWith nfkd toLowerCase value maxLength).length ≤ maxLength := by
  unfold slugifyWith
  dsimp only
  split
  · exact least
  · rw [String.length_ofList]
    exact length_cutSlug

end Derived

/-- Whatever the name, its slug keeps to the pattern and to the default length. -/
theorem slugify_matches {nfkd : String → String} {value : String} :
    matchesSlug (slugify nfkd value) = true :=
  matchesSlug_slugifyWith value

theorem slugify_length {nfkd : String → String} {value : String} :
    (slugify nfkd value).length ≤ 150 :=
  length_slugifyWith value (by decide)

theorem ascii_of_slugFrom {cs : List Char} {inWord : Bool} (h : slugFrom inWord cs = true) :
    ∀ c ∈ cs, c.val < 128 := by
  induction cs generalizing inWord with
  | nil => simp
  | cons c cs ih =>
    unfold slugFrom at h
    split at h
    · rename_i word
      apply List.forall_mem_cons.mpr ⟨?_, ih h⟩
      simp only [isSlugChar, Bool.or_eq_true, Bool.and_eq_true, decide_eq_true_eq] at word
      rcases word with word | word
      · exact Nat.lt_of_le_of_lt word.2 (by decide)
      · exact Nat.lt_of_le_of_lt word.2 (by decide)
    · simp only [Bool.and_eq_true] at h
      apply List.forall_mem_cons.mpr ⟨?_, ih h.2⟩
      rw [of_decide_eq_true h.1.1]
      decide

theorem length_of_matchesSlug {validator : Validator} {text : String} (h : matchesSlug text = true) :
    validator.length text = text.length :=
  validator.length_ascii text (ascii_of_slugFrom h)

end TenantOS.Workspaces
