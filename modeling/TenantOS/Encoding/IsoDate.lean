import Mathlib.Tactic.Common
import Mathlib.Tactic.Linarith

/-! ECMAScript's date-time string format: `YYYY-MM-DDTHH:mm:ss.sssZ`, over the
proleptic Gregorian calendar, with a sign and six digits for the years that four
do not hold. -/
namespace TenantOS.IsoDate

/-! Decimal numbers of a fixed width. -/

def digits : Nat → Nat → List Char
  | 0, _ => []
  | width + 1, n => digits width (n / 10) ++ [Nat.digitChar (n % 10)]

def digitValue? (c : Char) : Option Nat :=
  if '0' ≤ c ∧ c ≤ '9' then some (c.toNat - '0'.toNat) else none

def number? (cs : List Char) : Option Nat :=
  cs.foldlM (fun n c => (digitValue? c).map (10 * n + ·)) 0

theorem digitValue?_digitChar {d : Nat} (h : d < 10) : digitValue? (Nat.digitChar d) = some d :=
  (by decide : ∀ d < 10, digitValue? (Nat.digitChar d) = some d) d h

@[simp] theorem length_digits (width n : Nat) : (digits width n).length = width := by
  induction width generalizing n with
  | zero => rfl
  | succ width ih => simp [digits, ih]

theorem number?_digits {width n : Nat} (h : n < 10 ^ width) :
    number? (digits width n) = some n := by
  induction width generalizing n with
  | zero =>
    have : n = 0 := by simpa using h
    subst this
    rfl
  | succ width ih =>
    have shorter : n / 10 < 10 ^ width := by
      rw [Nat.pow_succ] at h
      omega
    have := ih shorter
    unfold number? at this ⊢
    rw [digits, List.foldlM_append, this]
    simp only [Option.bind_eq_bind, Option.bind_some, List.foldlM_cons, List.foldlM_nil,
      digitValue?_digitChar (Nat.mod_lt n (by decide : 0 < 10)), Option.map_some, Option.pure_def,
      Option.some.injEq]
    omega

theorem digitValue?_of_mem_digits {width n : Nat} {c : Char} (h : c ∈ digits width n) :
    (digitValue? c).isSome := by
  induction width generalizing n with
  | zero => cases h
  | succ width ih =>
    rcases List.mem_append.mp h with before | last
    · exact ih before
    · rw [List.mem_singleton.mp last, digitValue?_digitChar (Nat.mod_lt n (by decide : 0 < 10))]
      rfl

/-! Numbers of fixed widths, each with the character that ends it. -/

abbrev Layout := List (Nat × Char)

def writeFields : Layout → List Nat → List Char
  | (width, stop) :: layout, n :: ns => digits width n ++ stop :: writeFields layout ns
  | _, _ => []

def readFields : Layout → List Char → Option (List Nat)
  | [], cs => if cs = [] then some [] else none
  | (width, stop) :: layout, cs => do
      let n ← number? (cs.take width)
      if (cs.drop width).head? = some stop then
        let ns ← readFields layout (cs.drop width).tail
        pure (n :: ns)
      else none

/-- The numbers fit their widths. -/
def Fits (layout : Layout) (ns : List Nat) : Prop :=
  List.Forall₂ (fun field n => n < 10 ^ field.1) layout ns

theorem mem_writeFields {layout : Layout} {ns : List Nat} {c : Char}
    (h : c ∈ writeFields layout ns) : (digitValue? c).isSome ∨ c ∈ layout.map Prod.snd := by
  induction layout generalizing ns with
  | nil => simp [writeFields] at h
  | cons field layout ih =>
    obtain ⟨width, stop⟩ := field
    cases ns with
    | nil => simp [writeFields] at h
    | cons n ns =>
      rcases List.mem_append.mp h with number | rest
      · exact .inl (digitValue?_of_mem_digits number)
      · rcases List.mem_cons.mp rest with rfl | rest
        · exact .inr List.mem_cons_self
        · exact (ih rest).imp_right (List.mem_cons_of_mem stop)

theorem readFields_writeFields {layout : Layout} {ns : List Nat} (fits : Fits layout ns) :
    readFields layout (writeFields layout ns) = some ns := by
  induction fits with
  | nil => rfl
  | @cons field n layout ns small _ ih =>
    obtain ⟨width, stop⟩ := field
    have taken : (digits width n ++ stop :: writeFields layout ns).take width = digits width n :=
      List.take_left' (length_digits width n)
    have left : (digits width n ++ stop :: writeFields layout ns).drop width =
        stop :: writeFields layout ns :=
      List.drop_left' (length_digits width n)
    simp [readFields, writeFields, taken, left, number?_digits small, ih]

theorem digitValue?_of_writeFields {width n : Nat} {stop c : Char} {layout : Layout}
    {ns : List Nat} {rest : List Char}
    (h : writeFields ((width + 1, stop) :: layout) (n :: ns) = c :: rest) :
    (digitValue? c).isSome := by
  cases text : digits (width + 1) n with
  | nil => simpa [text] using length_digits (width + 1) n
  | cons d ds =>
    simp only [writeFields, text, List.cons_append, List.cons.injEq] at h
    rw [← h.1]
    exact digitValue?_of_mem_digits (text ▸ List.mem_cons_self)

/-! The calendar: 400 years are 146 097 days, and a year starts in March, so that
a leap day comes last. -/

/-- The last century of an era and the last year of a leap cycle are a day longer. -/
def century (dayOfEra : Nat) : Nat :=
  min (dayOfEra / 36524) 3

def dayOfCentury (dayOfEra : Nat) : Nat :=
  dayOfEra - century dayOfEra * 36524

def yearOfCycle (dayOfEra : Nat) : Nat :=
  min (dayOfCentury dayOfEra % 1461 / 365) 3

def yearOfEra (dayOfEra : Nat) : Nat :=
  100 * century dayOfEra + 4 * (dayOfCentury dayOfEra / 1461) + yearOfCycle dayOfEra

def dayOfYear (dayOfEra : Nat) : Nat :=
  dayOfCentury dayOfEra % 1461 - yearOfCycle dayOfEra * 365

theorem dayOfCentury_lt {dayOfEra : Nat} (h : dayOfEra < 146097) :
    century dayOfEra ≤ 3 ∧ dayOfCentury dayOfEra < 36525 ∧
      century dayOfEra * 36524 + dayOfCentury dayOfEra = dayOfEra := by
  unfold dayOfCentury century
  omega

theorem yearOfCycle_le (dayOfEra : Nat) :
    yearOfCycle dayOfEra ≤ 3 ∧ yearOfCycle dayOfEra * 365 ≤ dayOfCentury dayOfEra % 1461 ∧
      dayOfCentury dayOfEra % 1461 ≤ yearOfCycle dayOfEra * 365 + 365 := by
  simp only [yearOfCycle]
  omega

theorem yearOfEra_bounds {dayOfEra : Nat} (h : dayOfEra < 146097) :
    yearOfEra dayOfEra < 400 ∧ dayOfYear dayOfEra ≤ 365 := by
  obtain ⟨atMost, inCentury, -⟩ := dayOfCentury_lt h
  obtain ⟨inCycle, -, short⟩ := yearOfCycle_le dayOfEra
  simp only [yearOfEra, dayOfYear]
  omega

theorem dayOfEra_eq {dayOfEra : Nat} (h : dayOfEra < 146097) :
    yearOfEra dayOfEra * 365 + yearOfEra dayOfEra / 4 + dayOfYear dayOfEra =
      dayOfEra + yearOfEra dayOfEra / 100 := by
  obtain ⟨atMost, inCentury, whole⟩ := dayOfCentury_lt h
  obtain ⟨inCycle, started, -⟩ := yearOfCycle_le dayOfEra
  have cycles : yearOfEra dayOfEra / 4 = 25 * century dayOfEra + dayOfCentury dayOfEra / 1461 := by
    unfold yearOfEra
    omega
  have centuries : yearOfEra dayOfEra / 100 = century dayOfEra := by
    unfold yearOfEra
    omega
  have cycle := Nat.div_add_mod (dayOfCentury dayOfEra) 1461
  have left := Nat.add_sub_cancel' started
  rw [cycles, centuries]
  unfold yearOfEra dayOfYear
  linarith

structure Civil where
  year : Int
  month : Nat
  day : Nat
deriving DecidableEq, Repr

/-- Days from 1 March of year 0 to 1 January 1970. -/
def epoch : Int := 719468

def monthFromMarch (dayOfYear : Nat) : Nat :=
  (5 * dayOfYear + 2) / 153

def monthOf (fromMarch : Nat) : Nat :=
  if fromMarch < 10 then fromMarch + 3 else fromMarch - 9

def marchIndex (month : Nat) : Nat :=
  if 2 < month then month - 3 else month + 9

/-- January and February close the year that began in March. -/
def yearTurn (month : Nat) : Int :=
  if month ≤ 2 then 1 else 0

def civilOfDays (days : Int) : Civil :=
  let dayOfEra := ((days + epoch) % 146097).toNat
  let fromMarch := monthFromMarch (dayOfYear dayOfEra)
  { year := (days + epoch) / 146097 * 400 + yearOfEra dayOfEra + yearTurn (monthOf fromMarch)
    month := monthOf fromMarch
    day := dayOfYear dayOfEra - (153 * fromMarch + 2) / 5 + 1 }

def daysOfCivil (c : Civil) : Int :=
  let year := c.year - yearTurn c.month
  let dayOfYear := (153 * (marchIndex c.month : Int) + 2) / 5 + c.day - 1
  year / 400 * 146097 + (year % 400 * 365 + year % 400 / 4 - year % 400 / 100 + dayOfYear) - epoch

theorem dayOfEra_lt (days : Int) : ((days + epoch) % 146097).toNat < 146097 := by
  omega

theorem monthOf_bounds {fromMarch : Nat} (h : fromMarch ≤ 11) :
    1 ≤ monthOf fromMarch ∧ monthOf fromMarch ≤ 12 := by
  unfold monthOf
  split <;> omega

theorem marchIndex_monthOf {fromMarch : Nat} (h : fromMarch ≤ 11) :
    marchIndex (monthOf fromMarch) = fromMarch := by
  unfold marchIndex monthOf
  split <;> split <;> omega

theorem monthFromMarch_le {dayOfYear : Nat} (h : dayOfYear ≤ 365) :
    monthFromMarch dayOfYear ≤ 11 ∧ (153 * monthFromMarch dayOfYear + 2) / 5 ≤ dayOfYear ∧
      dayOfYear ≤ (153 * monthFromMarch dayOfYear + 2) / 5 + 30 := by
  unfold monthFromMarch
  omega

theorem civilOfDays_bounds (days : Int) :
    1 ≤ (civilOfDays days).month ∧ (civilOfDays days).month ≤ 12 ∧
      1 ≤ (civilOfDays days).day ∧ (civilOfDays days).day ≤ 31 := by
  obtain ⟨month, -, short⟩ := monthFromMarch_le (yearOfEra_bounds (dayOfEra_lt days)).2
  obtain ⟨first, last⟩ := monthOf_bounds month
  refine ⟨first, last, ?_⟩
  simp only [civilOfDays]
  omega

theorem daysOfCivil_civilOfDays (days : Int) : daysOfCivil (civilOfDays days) = days := by
  have inEra := dayOfEra_lt days
  obtain ⟨year, day⟩ := yearOfEra_bounds inEra
  obtain ⟨month, started, -⟩ := monthFromMarch_le day
  have split := dayOfEra_eq inEra
  have whole : (((days + epoch) % 146097).toNat : Int) = (days + epoch) % 146097 := by omega
  simp only [civilOfDays, daysOfCivil, marchIndex_monthOf month, Int.add_sub_cancel]
  have era : ((days + epoch) / 146097 * 400 + yearOfEra ((days + epoch) % 146097).toNat) / 400 =
      (days + epoch) / 146097 := by omega
  have inside : ((days + epoch) / 146097 * 400 +
      yearOfEra ((days + epoch) % 146097).toNat) % 400 =
      yearOfEra ((days + epoch) % 146097).toNat := by omega
  rw [era, inside]
  omega

/-! The text of a time, in milliseconds since the epoch. -/

def dayLength : Int := 86400000

/-- The hosts keep a time within a hundred million days of the epoch. -/
def Representable (time : Int) : Prop :=
  -100000000 * dayLength ≤ time ∧ time ≤ 100000000 * dayLength

instance (time : Int) : Decidable (Representable time) :=
  inferInstanceAs (Decidable (_ ∧ _))

/-- What follows the year. -/
def fieldsOf (time : Int) : List Nat :=
  let date := civilOfDays (time / dayLength)
  let clock := (time % dayLength).toNat
  [date.month, date.day, clock / 3600000, clock / 60000 % 60, clock / 1000 % 60, clock % 1000]

def afterYear : Layout :=
  [(2, '-'), (2, 'T'), (2, ':'), (2, ':'), (2, '.'), (3, 'Z')]

def yearOf (time : Int) : Int :=
  (civilOfDays (time / dayLength)).year

def toISOString (time : Int) : List Char :=
  let year := (yearOf time).natAbs
  if 0 ≤ yearOf time ∧ yearOf time ≤ 9999 then
    writeFields ((4, '-') :: afterYear) (year :: fieldsOf time)
  else
    (if 0 ≤ yearOf time then '+' else '-') ::
      writeFields ((6, '-') :: afterYear) (year :: fieldsOf time)

/-- Back from the fields, the sign of the year given. -/
def timeOf (sign : Int) : List Nat → Option Int
  | [year, month, day, hour, minute, second, millisecond] =>
      some (daysOfCivil ⟨sign * year, month, day⟩ * dayLength +
        (((hour * 60 + minute) * 60 + second) * 1000 + millisecond : Nat))
  | _ => none

def read (text : List Char) : Option Int :=
  match text with
  | '+' :: rest => (readFields ((6, '-') :: afterYear) rest).bind (timeOf 1)
  | '-' :: rest => (readFields ((6, '-') :: afterYear) rest).bind (timeOf (-1))
  | _ => (readFields ((4, '-') :: afterYear) text).bind (timeOf 1)

/-- The time a text is the `toISOString` of, if it is one. -/
def parse (text : List Char) : Option Int :=
  (read text).filter fun time => Representable time ∧ toISOString time = text

theorem yearOf_natAbs_lt {time : Int} (h : Representable time) :
    (yearOf time).natAbs < 1000000 := by
  have day : -100000000 ≤ time / dayLength ∧ time / dayLength ≤ 100000000 := by
    unfold Representable dayLength at h
    unfold dayLength
    omega
  have inEra := (yearOfEra_bounds (dayOfEra_lt (time / dayLength))).1
  have turn : 0 ≤ yearTurn (civilOfDays (time / dayLength)).month ∧
      yearTurn (civilOfDays (time / dayLength)).month ≤ 1 := by
    unfold yearTurn
    split <;> decide
  change ((time / dayLength + epoch) / 146097 * 400 +
    yearOfEra ((time / dayLength + epoch) % 146097).toNat +
    yearTurn (civilOfDays (time / dayLength)).month).natAbs < 1000000
  unfold epoch at *
  omega

theorem fieldsOf_fit (time : Int) : Fits afterYear (fieldsOf time) := by
  obtain ⟨-, month, -, day⟩ := civilOfDays_bounds (time / dayLength)
  have clock : (time % dayLength).toNat < 86400000 := by
    unfold dayLength
    omega
  unfold fieldsOf afterYear
  refine .cons ?_ (.cons ?_ (.cons ?_ (.cons ?_ (.cons ?_ (.cons ?_ .nil))))) <;>
    dsimp only <;> omega

theorem timeOf_fields {time sign : Int} (h : sign * (yearOf time).natAbs = yearOf time) :
    timeOf sign ((yearOf time).natAbs :: fieldsOf time) = some time := by
  have clock : ((time % dayLength).toNat : Int) = time % dayLength := by
    unfold dayLength
    omega
  have split := Int.mul_ediv_add_emod time dayLength
  have civil : (⟨sign * (yearOf time).natAbs, (civilOfDays (time / dayLength)).month,
      (civilOfDays (time / dayLength)).day⟩ : Civil) = civilOfDays (time / dayLength) := by
    rw [h]
    rfl
  simp only [timeOf, fieldsOf, civil, daysOfCivil_civilOfDays, Option.some.injEq]
  generalize (time % dayLength).toNat = ms at *
  have fields : ((ms / 3600000 * 60 + ms / 60000 % 60) * 60 + ms / 1000 % 60) * 1000 + ms % 1000 =
      ms := by omega
  rw [fields, clock]
  linarith

theorem read_toISOString {time : Int} (h : Representable time) :
    read (toISOString time) = some time := by
  have small := yearOf_natAbs_lt h
  unfold toISOString
  dsimp only
  split
  · rename_i short
    have fits : Fits ((4, '-') :: afterYear) ((yearOf time).natAbs :: fieldsOf time) :=
      .cons (by dsimp only; omega) (fieldsOf_fit time)
    have back : timeOf 1 ((yearOf time).natAbs :: fieldsOf time) = some time :=
      timeOf_fields (by omega)
    unfold read
    split
    · rename_i rest text
      exact absurd (digitValue?_of_writeFields text) (by decide)
    · rename_i rest text
      exact absurd (digitValue?_of_writeFields text) (by decide)
    · rw [readFields_writeFields fits, Option.bind_some, back]
  · have fits : Fits ((6, '-') :: afterYear) ((yearOf time).natAbs :: fieldsOf time) :=
      .cons (by dsimp only; omega) (fieldsOf_fit time)
    split
    · simp only [read, readFields_writeFields fits, Option.bind_some]
      exact timeOf_fields (by omega)
    · simp only [read, readFields_writeFields fits, Option.bind_some]
      exact timeOf_fields (by omega)

theorem parse_toISOString {time : Int} (h : Representable time) :
    parse (toISOString time) = some time := by
  simp [parse, read_toISOString h, h]

/-- The text is digits and marks. -/
theorem mem_toISOString {time : Int} {c : Char} (h : c ∈ toISOString time) :
    (digitValue? c).isSome ∨ c ∈ ['+', '-', 'T', ':', '.', 'Z'] := by
  have marks {c : Char} {width : Nat}
      (h : c ∈ (((width, '-') :: afterYear : Layout).map Prod.snd)) :
      c ∈ ['+', '-', 'T', ':', '.', 'Z'] := by
    simp only [afterYear, List.map_cons, List.map_nil, List.mem_cons, List.not_mem_nil,
      or_false] at h
    rcases h with rfl | rfl | rfl | rfl | rfl | rfl | rfl <;> decide
  unfold toISOString at h
  dsimp only at h
  split at h
  · exact (mem_writeFields h).imp_right marks
  · rcases List.mem_cons.mp h with rfl | text
    · refine .inr ?_
      split <;> decide
    · exact (mem_writeFields text).imp_right marks

theorem toISOString_ne_nil (time : Int) : toISOString time ≠ [] := by
  unfold toISOString
  dsimp only
  split
  · simp [writeFields]
  · simp

end TenantOS.IsoDate
