import Mathlib.Algebra.GroupWithZero.Nat
import Mathlib.Data.List.Forall2
import TenantOS.Encoding.Utf8

/-! The glob patterns of Redis, which are read and matched byte by byte: `*`, `?`, `[…]` and the
backslash. -/
namespace TenantOS.Redis.Glob

open TenantOS.Encoding.Utf8

inductive Token where
  | exactly (c : Char)
  | anyChar
  | oneOf (negated : Bool) (ranges : List (Char × Char))
  | anyText
deriving DecidableEq, Repr

/-- Outside of a class, or inside one with what has been read of it. -/
inductive Mode where
  | outside
  | inside (negated : Bool) (ranges : List (Char × Char))

/-- A class that is not closed ends with the pattern, and a backslash that nothing follows
stands for itself. -/
def tokens : Mode → List Char → List Token
  | .outside, [] => []
  | .outside, '*' :: rest => .anyText :: tokens .outside rest
  | .outside, '?' :: rest => .anyChar :: tokens .outside rest
  | .outside, '[' :: '^' :: rest => tokens (.inside true []) rest
  | .outside, '[' :: rest => tokens (.inside false []) rest
  | .outside, '\\' :: c :: rest => .exactly c :: tokens .outside rest
  | .outside, c :: rest => .exactly c :: tokens .outside rest
  | .inside negated ranges, [] => [.oneOf negated ranges]
  | .inside negated ranges, '\\' :: c :: rest => tokens (.inside negated (ranges ++ [(c, c)])) rest
  | .inside negated ranges, ']' :: rest => .oneOf negated ranges :: tokens .outside rest
  | .inside negated ranges, a :: '-' :: b :: rest =>
      tokens (.inside negated (ranges ++ [(a, b)])) rest
  | .inside negated ranges, c :: rest => tokens (.inside negated (ranges ++ [(c, c)])) rest

/-- The ends of a range may be given either way round. -/
def inRange (c : Char) (range : Char × Char) : Bool :=
  (range.1 ≤ c && c ≤ range.2) || (range.2 ≤ c && c ≤ range.1)

def Token.accepts : Token → Char → Bool
  | .exactly d, c => c = d
  | .anyChar, _ => true
  | .oneOf negated ranges, c => ranges.any (inRange c) != negated
  | .anyText, _ => false

def matchTokens : List Token → List Char → Bool
  | [], text => text.isEmpty
  | .anyText :: ts, text => text.tails.any (matchTokens ts)
  | t :: ts, text =>
      match text with
      | [] => false
      | c :: rest => t.accepts c && matchTokens ts rest

/-- Does the text match the pattern? -/
def globMatch (pattern text : String) : Bool :=
  matchTokens (tokens .outside (octets pattern.toList)) (octets text.toList)

example : globMatch "h[a-c^]l\\*??*" "hbl*é world" = true := by decide

variable {ts : List Token} {t : Token} {text cs : List Char} {c : Char}

/-! Matching. -/

theorem matchTokens_anyText : matchTokens (.anyText :: ts) text = true ↔
    ∃ before after, text = before ++ after ∧ matchTokens ts after = true := by
  rw [matchTokens, List.any_eq_true]
  constructor
  · rintro ⟨after, mem, matched⟩
    obtain ⟨before, rfl⟩ := (List.mem_tails ..).mp mem
    exact ⟨before, after, rfl, matched⟩
  · rintro ⟨before, after, rfl, matched⟩
    exact ⟨after, (List.mem_tails ..).mpr (List.suffix_append ..), matched⟩

theorem matchTokens_cons (single : t ≠ .anyText) : matchTokens (t :: ts) text = true ↔
    ∃ c rest, text = c :: rest ∧ t.accepts c = true ∧ matchTokens ts rest = true := by
  cases t with
  | anyText => exact absurd rfl single
  | exactly | anyChar | oneOf =>
    cases text with
    | nil => simp [matchTokens]
    | cons c rest => simp [matchTokens]

/-- The most bytes below 0x80 that a token takes, where it does not take any text. -/
def Token.narrow : Token → Nat
  | .exactly c => if isAscii c then 1 else 0
  | .anyChar => 1
  | .oneOf .. => 1
  | .anyText => 0

theorem narrow_of_accepts (accepts : t.accepts c = true) :
    (if isAscii c then 1 else 0) ≤ t.narrow := by
  cases t with
  | exactly d =>
    obtain rfl : c = d := of_decide_eq_true accepts
    exact le_rfl
  | anyChar | oneOf =>
    change _ ≤ 1
    split
    · exact le_rfl
    · exact Nat.zero_le 1
  | anyText => cases accepts

/-- What the tokens do not take one by one stands where any text would do, and can be left out. -/
theorem exists_shorter (matched : matchTokens ts text = true) :
    text.countP isAscii ≤ (ts.map Token.narrow).sum ∨
      ∃ before c after, text = before ++ c :: after ∧ isAscii c = true ∧
        matchTokens ts (before ++ after) = true := by
  induction ts generalizing text with
  | nil =>
    cases text with
    | nil => exact .inl le_rfl
    | cons c text => cases matched
  | cons t ts ih =>
    by_cases any : t = .anyText
    · subst any
      obtain ⟨start, rest, rfl, here⟩ := matchTokens_anyText.mp matched
      by_cases wide : start.countP isAscii = 0
      · rcases ih here with few | ⟨before, c, after, rfl, ascii, shorter⟩
        · refine .inl ?_
          rw [List.countP_append, wide, Nat.zero_add]
          exact few.trans (Nat.le_add_left ..)
        · refine .inr ⟨start ++ before, c, after, by rw [List.append_assoc], ascii, ?_⟩
          exact matchTokens_anyText.mpr ⟨start, before ++ after, by rw [List.append_assoc], shorter⟩
      · obtain ⟨c, mem, ascii⟩ := List.countP_pos_iff.mp (Nat.pos_of_ne_zero wide)
        obtain ⟨before, after, rfl⟩ := List.mem_iff_append.mp mem
        refine .inr ⟨before, c, after ++ rest, by rw [List.append_assoc, List.cons_append], ascii, ?_⟩
        exact matchTokens_anyText.mpr ⟨before ++ after, rest, by rw [List.append_assoc], here⟩
    · obtain ⟨c, rest, rfl, accepts, here⟩ := (matchTokens_cons any).mp matched
      rcases ih here with few | ⟨before, d, after, rfl, ascii, shorter⟩
      · refine .inl ?_
        have first := narrow_of_accepts accepts
        rw [List.countP_cons, List.map_cons, List.sum_cons]
        omega
      · refine .inr ⟨c :: before, d, after, rfl, ascii, ?_⟩
        exact (matchTokens_cons any).mpr ⟨c, before ++ after, rfl, accepts, shorter⟩

/-- Without any text all matching texts are as long as the tokens. -/
theorem length_of_solid (solid : .anyText ∉ ts) (matched : matchTokens ts text = true) :
    text.length = ts.length := by
  induction ts generalizing text with
  | nil => simpa [matchTokens] using matched
  | cons t ts ih =>
    rw [List.mem_cons, not_or] at solid
    obtain ⟨c, rest, rfl, -, after⟩ := (matchTokens_cons (Ne.symm solid.1)).mp matched
    rw [List.length_cons, List.length_cons, ih solid.2 after]

/-! Reading a pattern. -/

/-- Opens a class, or takes away what the next character means. -/
def isOpening (c : Char) : Bool :=
  c = '[' || c = '\\'

/-- A character outside of a class that opens nothing. -/
def plainToken (c : Char) : Token :=
  if c = '*' then .anyText else if c = '?' then .anyChar else .exactly c

theorem tokens_plain (plain : isOpening c = false) (rest : List Char) :
    tokens .outside (c :: rest) = plainToken c :: tokens .outside rest := by
  simp only [isOpening, Bool.or_eq_false_iff, decide_eq_false_iff_not] at plain
  unfold plainToken
  split
  · subst c
    rfl
  · split
    · subst c
      rfl
    · rw [tokens] <;> simp_all

/-- What a token costs of the pattern, in bytes below 0x80. -/
def Token.cost (t : Token) : Nat :=
  if t = .anyText then 1 else t.narrow

def cost (ts : List Token) : Nat :=
  (ts.map Token.cost).sum

/-- A class that is open costs a byte, or is paid for by what closes it. -/
theorem cost_tokens_le (mode : Mode) (cs : List Char) :
    cost (tokens mode cs) ≤ cs.countP isAscii + match mode with
      | .outside => 0
      | .inside .. => if cs.countP isAscii = 0 then 1 else 0 := by
  have special : isAscii '*' = true ∧ isAscii '?' = true ∧ isAscii '[' = true ∧
      isAscii '^' = true ∧ isAscii '\\' = true ∧ isAscii ']' = true ∧ isAscii '-' = true := by
    decide
  fun_induction tokens mode cs <;>
    simp only [cost, List.map_cons, List.map_nil, List.sum_cons, List.sum_nil, List.countP_cons,
      List.countP_nil, Token.cost, Token.narrow, special] at * <;> grind

theorem cost_plainToken (c : Char) : (plainToken c).cost = if isAscii c then 1 else 0 := by
  unfold plainToken
  split
  · subst c
    rfl
  · split
    · subst c
      rfl
    · rfl

/-- What is opened costs less than its bytes, unless the pattern ends there. -/
theorem cost_tokens_lt (opening : isOpening c = true) (more : 0 < cs.countP isAscii) :
    cost (tokens .outside (c :: cs)) < (c :: cs).countP isAscii := by
  cases cs with
  | nil => cases more
  | cons d rest =>
    rw [isOpening, Bool.or_eq_true, decide_eq_true_iff, decide_eq_true_iff] at opening
    rcases opening with rfl | rfl
    · have bracket : isAscii '[' = true := by decide
      by_cases caret : d = '^'
      · subst caret
        have negated := cost_tokens_le (.inside true []) rest
        have sign : isAscii '^' = true := by decide
        simp only [tokens, List.countP_cons, bracket, sign, if_true] at negated ⊢
        grind
      · have inside := cost_tokens_le (.inside false []) (d :: rest)
        have read : tokens .outside ('[' :: d :: rest) = tokens (.inside false []) (d :: rest) := by
          rw [tokens]
          intro _ same
          exact caret (List.cons.inj same).1
        rw [read, List.countP_cons, if_pos bracket]
        grind
    · have outside := cost_tokens_le .outside rest
      have backslash : isAscii '\\' = true := by decide
      simp only [tokens, cost, List.map_cons, List.sum_cons, List.countP_cons, backslash, if_true,
        Token.cost, Token.narrow] at outside ⊢
      grind

theorem plain_of_cost (full : cost (tokens .outside (cs ++ ['*'])) = (cs ++ ['*']).countP isAscii) :
    ∀ c ∈ cs, isOpening c = false := by
  induction cs with
  | nil => simp
  | cons c rest ih =>
    have more : 0 < (rest ++ ['*']).countP isAscii := by
      rw [List.countP_append]
      exact Nat.lt_of_lt_of_le (by decide) (Nat.le_add_left ..)
    have plain : isOpening c = false := by
      by_contra opening
      have fewer := cost_tokens_lt (Bool.not_eq_false _ ▸ opening) more
      exact fewer.ne full
    rw [List.cons_append, tokens_plain plain, cost, List.map_cons, List.sum_cons, cost_plainToken,
      List.countP_cons, Nat.add_comm] at full
    rw [List.forall_mem_cons]
    exact ⟨plain, ih (Nat.add_right_cancel full)⟩

theorem tokens_append (plain : ∀ c ∈ text, isOpening c = false) (rest : List Char) :
    tokens .outside (text ++ rest) = text.map plainToken ++ tokens .outside rest := by
  induction text with
  | nil => rfl
  | cons c text ih =>
    obtain ⟨first, others⟩ := List.forall_mem_cons.mp plain
    rw [List.cons_append, tokens_plain first, ih others]
    rfl

/-! Texts followed by a star. -/

/-- The texts that match the pattern `prefix*`. -/
def Begins (start text : List Char) : Prop :=
  matchTokens (tokens .outside (start ++ ['*'])) text = true

/-- Nothing of the text has a meaning but the question mark. -/
def Plain (text : List Char) : Prop :=
  ∀ c ∈ text, isOpening c = false ∧ c ≠ '*'

theorem tokens_star (plain : ∀ c ∈ text, isOpening c = false) :
    tokens .outside (text ++ ['*']) = text.map plainToken ++ [.anyText] := by
  rw [tokens_append plain]
  rfl

theorem plainToken_ne_anyText : plainToken c ≠ .anyText ↔ c ≠ '*' := by
  unfold plainToken
  split
  · simp [*]
  · split <;> simp [*]

theorem plainToken_accepts {d : Char} (star : c ≠ '*') :
    (plainToken c).accepts d = true ↔ c = '?' ∨ c = d := by
  unfold plainToken
  rw [if_neg star]
  split
  · simp [Token.accepts, *]
  · simp [Token.accepts, *, eq_comm]

theorem cost_eq (ts : List Token) :
    cost ts = (ts.map Token.narrow).sum + ts.count .anyText := by
  induction ts with
  | nil => rfl
  | cons t ts ih =>
    rw [cost, List.map_cons, List.sum_cons, List.map_cons, List.sum_cons, List.count_cons]
    unfold cost at ih
    rw [ih, Token.cost]
    by_cases any : t = .anyText
    · subst any
      simp [Token.narrow]
      omega
    · simp [any]
      omega

/-- A text that begins what goes on after it, and nothing that has less of it, is plain. -/
theorem plain_of_begins {start : List Char} (own : Begins start start)
    (longer : Begins start (start ++ ['*']))
    (least : ∀ before c after, start = before ++ c :: after → isAscii c = true →
      ¬ Begins start (before ++ after)) : Plain start := by
  have few : start.countP isAscii ≤ _ := (exists_shorter own).resolve_right fun shorter => by
    obtain ⟨before, c, after, whole, ascii, matched⟩ := shorter
    exact least before c after whole ascii matched
  have most := cost_tokens_le .outside (start ++ ['*'])
  have star : (start ++ ['*']).countP isAscii = start.countP isAscii + 1 := by
    rw [List.countP_append]
    rfl
  have any : (tokens .outside (start ++ ['*'])).count .anyText ≠ 0 := by
    intro none
    have solid := List.count_eq_zero.mp none
    have one := length_of_solid solid own
    have other := length_of_solid solid longer
    rw [List.length_append, List.length_singleton] at other
    omega
  rw [cost_eq] at most
  dsimp only at most
  have closed : ∀ c ∈ start, isOpening c = false := by
    apply plain_of_cost
    rw [cost_eq]
    omega
  intro c mem
  refine ⟨closed c mem, plainToken_ne_anyText.mp ?_⟩
  intro text
  have once : (tokens .outside (start ++ ['*'])).count .anyText = 1 := by omega
  rw [tokens_star closed, List.count_append, List.count_singleton_self, Nat.add_eq_right,
    List.count_eq_zero] at once
  exact once (text ▸ List.mem_map_of_mem mem)

/-- What matches a plain text is as long, and differs at the question marks only. -/
def Resembles (start text : List Char) : Prop :=
  List.Forall₂ (fun c d => c = '?' ∨ c = d) start text

theorem begins_iff {start : List Char} (plain : Plain start) :
    Begins start text ↔ ∃ before after, text = before ++ after ∧ Resembles start before := by
  rw [Begins, tokens_star fun c mem => (plain c mem).1]
  induction start generalizing text with
  | nil =>
    constructor
    · intro _
      exact ⟨[], text, rfl, .nil⟩
    · intro _
      exact matchTokens_anyText.mpr ⟨text, [], (List.append_nil text).symm, rfl⟩
  | cons c start ih =>
    obtain ⟨⟨opening, star⟩, others⟩ := List.forall_mem_cons.mp plain
    rw [List.map_cons, List.cons_append, matchTokens_cons (plainToken_ne_anyText.mpr star)]
    simp only [ih others]
    constructor
    · rintro ⟨d, _, rfl, accepts, before, after, rfl, like⟩
      exact ⟨d :: before, after, rfl, .cons ((plainToken_accepts star).mp accepts) like⟩
    · rintro ⟨_, after, rfl, like⟩
      cases like with
      | cons first like =>
        exact ⟨_, _, rfl, (plainToken_accepts star).mpr first, _, after, rfl, like⟩

theorem resembles_refl (text : List Char) : Resembles text text :=
  List.forall₂_same.mpr fun _ _ => .inr rfl

theorem Resembles.append {start start' text text' : List Char} (h : Resembles start text)
    (h' : Resembles start' text') : Resembles (start ++ start') (text ++ text') :=
  List.rel_append h h'

/-- Where no question mark is, nothing differs. -/
theorem Resembles.literal {start more text : List Char} (marks : ∀ c ∈ start, c ≠ '?')
    (h : Resembles (start ++ more) text) : ∃ rest, text = start ++ rest ∧ Resembles more rest := by
  induction start generalizing text with
  | nil => exact ⟨text, rfl, h⟩
  | cons c start ih =>
    obtain ⟨mark, others⟩ := List.forall_mem_cons.mp marks
    cases h with
    | cons first h =>
      obtain ⟨rest, rfl, like⟩ := ih others h
      obtain rfl := first.resolve_left mark
      exact ⟨rest, rfl, like⟩

/-! Texts, which a pattern sees the bytes of. -/

theorem plain_octets_iff : Plain (octets text) ↔ Plain text := by
  have ascii {c : Char} (special : ¬ (isOpening c = false ∧ c ≠ '*')) : isAscii c = true := by
    by_cases opening : isOpening c = true
    · rw [isOpening, Bool.or_eq_true, decide_eq_true_iff, decide_eq_true_iff] at opening
      rcases opening with rfl | rfl
      · decide
      · decide
    · have star : c = '*' := by
        by_contra other
        exact special ⟨Bool.not_eq_true _ ▸ opening, other⟩
      subst star
      decide
  constructor
  · intro plain c mem
    by_contra special
    exact special (plain c ((mem_octets_iff (ascii special)).mpr mem))
  · intro plain c mem
    by_contra special
    exact special (plain c ((mem_octets_iff (ascii special)).mp mem))

theorem marks_octetsOf (mark : c ≠ '?') : ∀ b ∈ octetsOf c, b ≠ '?' := by
  rintro b mem rfl
  exact mark (eq_of_mem_octetsOf mem (by decide)).symm

theorem marks_octets (marks : ∀ c ∈ text, c ≠ '?') : ∀ c ∈ octets text, c ≠ '?' := by
  rintro c mem rfl
  exact marks '?' ((mem_octets_iff (by decide)).mp mem) rfl

/-- A character is found where a character begins. -/
theorem Resembles.fresh {start before : List Char} (mark : c ≠ '?')
    (h : Resembles (octets (c :: start)) before) (after : List Char) :
    ∃ b ∈ (before ++ after).head?, ¬ isContinuation b = true := by
  obtain ⟨first, later, bytes, fresh⟩ := octetsOf_begins c
  obtain ⟨rest, rfl, -⟩ := h.literal (marks_octetsOf mark)
  rw [bytes]
  exact ⟨first, rfl, fresh⟩

/-- A question mark alone is a character of one byte, for what follows it begins another. -/
theorem Resembles.texts {own start before after : List Char} (lone : ¬ ['?', '?'] <:+: own)
    (some : start ≠ []) (marks : ∀ c ∈ start, c ≠ '?')
    (like : Resembles (octets (own ++ start)) before) (whole : octets text = before ++ after) :
    ∃ own' rest, text = own' ++ start ++ rest ∧
      List.Forall₂ (fun c d => c = d ∨ c = '?' ∧ isAscii d = true) own own' := by
  induction own generalizing text before with
  | nil =>
    rw [List.nil_append, ← List.append_nil (octets start)] at like
    obtain ⟨more, rfl, -⟩ := like.literal (marks_octets marks)
    have begins : octets start <+: octets text := by
      rw [whole, List.append_assoc]
      exact List.prefix_append _ _
    obtain ⟨rest, rfl⟩ := octets_prefix_iff.mp begins
    exact ⟨[], rest, rfl, .nil⟩
  | cons c own ih =>
    have lone' : ¬ ['?', '?'] <:+: own := fun two => lone (two.trans (List.suffix_cons c own).isInfix)
    rw [List.cons_append, octets_cons] at like
    by_cases mark : c = '?'
    · subst mark
      rw [octetsOf_ascii (by decide)] at like
      obtain ⟨b, before, -, others, rfl⟩ := List.forall₂_cons_left_iff.mp like
      have fresh : ∃ b ∈ (before ++ after).head?, ¬ isContinuation b = true := by
        cases own with
        | nil =>
          obtain ⟨e, more, rfl⟩ := List.exists_cons_of_ne_nil some
          exact Resembles.fresh (marks e List.mem_cons_self) others after
        | cons e own =>
          refine Resembles.fresh ?_ others after
          rintro rfl
          exact lone ⟨[], own, rfl⟩
      cases text with
      | nil => cases whole
      | cons d text =>
        rw [octets_cons] at whole
        have ascii : isAscii d = true := isAscii_of_octetsOf_append whole fresh
        rw [octetsOf_ascii ascii] at whole
        obtain ⟨own', rest, rfl, same⟩ := ih lone' others (List.cons.inj whole).2
        exact ⟨d :: own', rest, rfl, .cons (.inr ⟨rfl, ascii⟩) same⟩
    · obtain ⟨before, rfl, others⟩ := like.literal (marks_octetsOf mark)
      rw [List.append_assoc] at whole
      cases text with
      | nil => exact absurd whole.symm (by simp [octetsOf_ne_nil])
      | cons d text =>
        obtain ⟨rfl, later⟩ := octetsOf_append_inj whole
        obtain ⟨own', rest, rfl, same⟩ := ih lone' others later
        exact ⟨d :: own', rest, rfl, .cons (.inl rfl) same⟩

/-- A character for each question mark. -/
def filled (text : List Char) : List Char :=
  text.map fun c => if c = '?' then 'a' else c

theorem resembles_filled (text : List Char) : Resembles (octets text) (octets (filled text)) := by
  induction text with
  | nil => exact .nil
  | cons c text ih =>
    refine Resembles.append ?_ ih
    dsimp only
    by_cases mark : c = '?'
    · rw [if_pos mark, mark]
      exact .cons (.inl rfl) .nil
    · rw [if_neg mark]
      exact resembles_refl _

theorem question_notMem_filled (text : List Char) : '?' ∉ filled text := by
  intro mem
  obtain ⟨c, -, same⟩ := List.mem_map.mp mem
  split at same
  · exact absurd same (by decide)
  · contradiction

end TenantOS.Redis.Glob
