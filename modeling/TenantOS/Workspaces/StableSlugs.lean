import TenantOS.Workspaces.DerivedSlugs

/-! Deriving a slug ends after one round: what is derived keeps to the pattern, and whatever
keeps to the pattern is its own slug. -/
namespace TenantOS.Workspaces

open TenantOS.Domain TenantOS.Modules

abbrev Ascii (text : String) : Prop :=
  ∀ c ∈ text.toList, c.val < 128

variable {cs : List Char} {inWord : Bool} {text : String} {maxLength : Nat}

/-! Each rewrite leaves a slug alone. -/

theorem slugFrom_chars (h : slugFrom inWord cs = true) : ∀ c ∈ cs, isSlugChar c ∨ isDash c := by
  induction cs generalizing inWord with
  | nil => simp
  | cons c cs ih =>
    unfold slugFrom at h
    split at h
    · exact List.forall_mem_cons.mpr ⟨.inl ‹_›, ih h⟩
    · simp only [Bool.and_eq_true] at h
      exact List.forall_mem_cons.mpr ⟨.inr h.1.1, ih h.2⟩

theorem slugFrom_head (h : slugFrom false cs = true) : ∃ c rest, cs = c :: rest ∧ isSlugChar c := by
  cases cs with
  | nil => cases h
  | cons c rest =>
    refine ⟨c, rest, rfl, ?_⟩
    unfold slugFrom at h
    split at h
    · assumption
    · simp at h

theorem slugFrom_last (h : slugFrom inWord cs = true) : ∀ c ∈ cs.getLast?, ¬ isDash c := by
  induction cs generalizing inWord with
  | nil => simp
  | cons c cs ih =>
    unfold slugFrom at h
    split at h
    · rename_i word
      cases cs with
      | nil => simpa using not_isDash_of_isSlugChar word
      | cons d ds => exact ih h
    · simp only [Bool.and_eq_true] at h
      obtain ⟨d, ds, rfl, -⟩ := slugFrom_head h.2
      exact ih h.2

theorem dashRuns_of_slugFrom (h : slugFrom inWord cs = true) : dashRuns cs = cs := by
  induction cs generalizing inWord with
  | nil => rfl
  | cons c cs ih =>
    unfold slugFrom at h
    unfold dashRuns
    split at h
    · rename_i word
      rw [if_pos word, ih h]
    · rename_i other
      simp only [Bool.and_eq_true] at h
      obtain ⟨d, ds, rfl, word⟩ := slugFrom_head h.2
      rw [if_neg other, ih h.2, of_decide_eq_true h.1.1]
      split
      · rename_i rest same
        rw [(List.cons.inj same).1] at word
        exact absurd word (by decide)
      · rfl

theorem cutSlug_of_slugFrom (h : slugFrom false cs = true) (short : cs.length ≤ maxLength) :
    cutSlug maxLength cs = cs := by
  obtain ⟨c, rest, rfl, word⟩ := slugFrom_head h
  have first : ¬ isDash c := not_isDash_of_isSlugChar word
  have last : (c :: rest).rdropWhile isDash = c :: rest := by
    rw [List.rdropWhile_eq_self_iff]
    intro some
    exact slugFrom_last h _ (List.getLast?_eq_some_getLast some)
  rw [cutSlug, dashRuns_of_slugFrom h, List.dropWhile_cons_of_neg first, last,
    List.take_of_length_le short, last]

theorem toLower_of_slugChar {c : Char} (h : isSlugChar c ∨ isDash c) : c.toLower = c := by
  unfold Char.toLower
  apply dif_neg
  rintro ⟨least, most⟩
  rcases h with word | dash
  · simp only [isSlugChar, Bool.or_eq_true, Bool.and_eq_true, decide_eq_true_eq] at word
    rcases word with letter | digit
    · exact absurd (UInt32.le_trans letter.1 most) (by decide)
    · exact absurd (UInt32.le_trans least digit.2) (by decide)
  · rw [of_decide_eq_true dash] at least
    exact absurd least (by decide)

theorem asciiLowerCase_of_slugFrom (h : slugFrom inWord text.toList = true) :
    asciiLowerCase text = text := by
  have same : text.toList.map Char.toLower = text.toList := by
    refine (List.map_congr_left fun c mem => ?_).trans (List.map_id _)
    exact toLower_of_slugChar (slugFrom_chars h c mem)
  rw [asciiLowerCase, same, String.ofList_toList]

/-- No ASCII character is a combining mark. -/
theorem filter_combiningMark (ascii : Ascii text) :
    text.toList.filter (fun c => !isCombiningMark c) = text.toList := by
  apply List.filter_eq_self.mpr
  intro c mem
  have small := ascii c mem
  rw [isCombiningMark, Bool.not_eq_true', Bool.and_eq_false_iff]
  refine .inl (decide_eq_false fun mark => ?_)
  exact absurd (UInt32.lt_of_le_of_lt mark small) (by decide)

/-! The host, as far as ASCII text goes. -/
section Host

variable {nfkd toLowerCase : String → String}

theorem slugifyWith_of_matchesSlug (keeps : ∀ text, Ascii text → nfkd text = text)
    (lower : ∀ text, Ascii text → toLowerCase text = asciiLowerCase text)
    (h : matchesSlug text = true) (short : text.length ≤ maxLength) :
    slugifyWith nfkd toLowerCase text maxLength = text := by
  have ascii : Ascii text := ascii_of_slugFrom h
  have letters : text.toList ≠ [] := by
    obtain ⟨c, rest, here, -⟩ := slugFrom_head h
    simp [here]
  rw [slugifyWith, keeps text ascii, filter_combiningMark ascii, String.ofList_toList,
    lower text ascii, asciiLowerCase_of_slugFrom h, cutSlug_of_slugFrom h short]
  simp [letters]

end Host

/-- A slug is not empty, no longer than allowed and of the pattern, and it is its own slug,
as is every text of the pattern that is no longer. -/
theorem slugify_valid_stable (nfkd toLowerCase : String → String)
    (keeps : ∀ text, Ascii text → nfkd text = text)
    (lower : ∀ text, Ascii text → toLowerCase text = asciiLowerCase text)
    (value : String) (maxLength : Nat) (least : 8 ≤ maxLength) :
    slugifyWith nfkd toLowerCase value maxLength ≠ "" ∧
      (slugifyWith nfkd toLowerCase value maxLength).length ≤ maxLength ∧
      matchesSlug (slugifyWith nfkd toLowerCase value maxLength) = true ∧
      slugifyWith nfkd toLowerCase (slugifyWith nfkd toLowerCase value maxLength) maxLength =
        slugifyWith nfkd toLowerCase value maxLength ∧
      ∀ text, matchesSlug text = true → text.length ≤ maxLength →
        slugifyWith nfkd toLowerCase text maxLength = text := by
  have pattern : matchesSlug (slugifyWith nfkd toLowerCase value maxLength) = true :=
    matchesSlug_slugifyWith value
  have short : (slugifyWith nfkd toLowerCase value maxLength).length ≤ maxLength :=
    length_slugifyWith value least
  refine ⟨?_, short, pattern, slugifyWith_of_matchesSlug keeps lower pattern short, ?_⟩
  · intro empty
    rw [empty] at pattern
    exact absurd pattern (by decide)
  · intro text matching fits
    exact slugifyWith_of_matchesSlug keeps lower matching fits

theorem slugify_valid_stable_cut :
    slugifyWith id asciiLowerCase "My flow, 2!" 8 = "my-flow" ∧
      slugifyWith id asciiLowerCase "my-flow" 8 = "my-flow" := by
  have cut : slugifyWith id asciiLowerCase "My flow, 2!" 8 = "my-flow" := by decide
  obtain ⟨-, -, -, again, -⟩ :=
    slugify_valid_stable id asciiLowerCase (fun _ _ => rfl) (fun _ _ => rfl) "My flow, 2!" 8
      (by decide)
  rw [cut] at again
  exact ⟨cut, again⟩

end TenantOS.Workspaces
