import TenantQuery.Calendar.Reading
import TenantQuery.Proofs.Decimal.Numeral
import TenantQuery.Proofs.Identifier
import TenantQuery.Proofs.Text.Blank
/-!
How dates are written, said without reading them.

A plain date has its year, month and day between hyphens, and a timestamp has a time of day and an
offset behind them.  The readers find exactly what is written: `plainDate?_eq_some_iff` and
`timestampDate?_eq_some_iff`.
-/

namespace TenantQuery.Calendar

/-- Digits within bounds on how many there are, and the number that they write. -/
structure Digits (least most : Nat) (chars : List Char) (n : Nat) : Prop where
  least_le : least ≤ chars.length
  le_most : chars.length ≤ most
  all : AllDigits chars
  value : Text.decimalValue chars = n

/-- A year of up to four digits, or one of any length behind a sign. -/
inductive IsYear : List Char → Int → Prop
  | unsigned {digits : List Char} {n : Nat} (h : Digits 1 4 digits n) : IsYear digits n
  | plus {digits : List Char} {n : Nat} (h : Digits 1 digits.length digits n) :
      IsYear ('+' :: digits) n
  | minus {digits : List Char} {n : Nat} (h : Digits 1 digits.length digits n) :
      IsYear ('-' :: digits) (-n)

/-- The parts of a plain date: a year, and behind hyphens a month and a day, each with what stands
between it and its hyphen. -/
structure PlainDate where
  year : List Char
  monthGap : List Char
  month : List Char
  dayGap : List Char
  day : List Char

namespace PlainDate

def chars (written : PlainDate) : List Char :=
  written.year ++ '-' :: (written.monthGap ++ (written.month ++ '-' ::
    (written.dayGap ++ written.day)))

structure Names (written : PlainDate) (date : Date) : Prop where
  year : IsYear written.year date.year
  monthGap : ∀ c ∈ written.monthGap, Text.isBlank c
  month : Digits 1 2 written.month date.month
  dayGap : ∀ c ∈ written.dayGap, Text.isBlank c
  day : Digits 1 2 written.day date.day

/-- There are four digits, two and two, and nothing but the hyphens between them. -/
structure IsExact (written : PlainDate) : Prop where
  year : written.year.length = 4 ∧ AllDigits written.year
  monthGap : written.monthGap = []
  month : written.month.length = 2
  dayGap : written.dayGap = []
  day : written.day.length = 2

end PlainDate

/-- An offset from universal time: the letter for none, or hours and minutes behind a sign.  The
sign may be the minus sign of typography. -/
inductive IsOffsetText : List Char → Prop
  | universal {c : Char} (hc : c ∈ ['Z', 'z']) : IsOffsetText [c]
  | signed {sign : Char} {hours minutes : List Char} {h m : Nat}
      (hsign : sign ∈ ['+', '-', '\u2212']) (hhours : Digits 2 2 hours h) (hhour : h < 24)
      (hminutes : Digits 2 2 minutes m) (hminute : m < 60) :
      IsOffsetText (sign :: (hours ++ ':' :: minutes))

/-- The fraction of a second, which may be absent. -/
inductive IsFraction : List Char → Prop
  | none : IsFraction []
  | digits {digits : List Char} (hne : digits ≠ []) (hall : AllDigits digits) :
      IsFraction ('.' :: digits)

/-- Exactly four digits, two and two with hyphens between them: the numbers of the date. -/
inductive IsIsoDate : List Char → Date → Prop
  | mk {date : Date} {year month day : List Char} {y : Nat} (hyear : Digits 4 4 year y)
      (hdate : date.year = y) (hmonth : Digits 2 2 month date.month)
      (hday : Digits 2 2 day date.day) :
      IsIsoDate (year ++ '-' :: (month ++ '-' :: day)) date

/-- A timestamp: a date, a time of that day and an offset.  The date is the one that stands there,
whatever the offset is. -/
inductive IsTimestamp : List Char → Date → Prop
  | mk {date : Date} {front hour minute second fraction offset : List Char} {separator : Char}
      {h m s : Nat} (hfront : IsIsoDate front date) (hseparator : separator ∈ ['T', 't', ' '])
      (hhours : Digits 2 2 hour h) (hhour : h ≤ 23) (hminutes : Digits 2 2 minute m)
      (hminute : m ≤ 59) (hseconds : Digits 2 2 second s) (hsecond : s ≤ 60)
      (hfraction : IsFraction fraction) (hoffset : IsOffsetText offset) :
      IsTimestamp
        (front ++ separator ::
          (hour ++ ':' :: (minute ++ ':' :: (second ++ (fraction ++ offset))))) date

section Readers

variable {chars rest digits : List Char} {n : Nat}

theorem Digits.exact {count : Nat} (hlength : digits.length = count)
    (hall : digits.all Char.isDigit) (hvalue : Text.decimalValue digits = n) :
    Digits count count digits n :=
  ⟨hlength.ge, hlength.le, List.all_eq_true.mp hall, hvalue⟩

theorem Digits.ne_nil {least most : Nat} (h : Digits (least + 1) most digits n) : digits ≠ [] := by
  rintro rfl
  exact absurd h.least_le (by simp)

theorem Digits.head_isDigit {least most : Nat} (h : Digits (least + 1) most digits n) :
    ∀ c ∈ (digits ++ rest).head?, c.isDigit := by
  intro c hc
  obtain ⟨d, tail, rfl⟩ := List.exists_cons_of_ne_nil h.ne_nil
  obtain rfl : d = c := by simpa using hc
  exact h.all d List.mem_cons_self

theorem Digits.mono {least most fewer more : Nat} (h : Digits least most digits n)
    (hfewer : fewer ≤ least) (hmore : most ≤ more) : Digits fewer more digits n :=
  ⟨hfewer.trans h.least_le, h.le_most.trans hmore, h.all, h.value⟩

/-- Digits are read up to their end, or as many as may be. -/
theorem upTo?_append {most : Nat} (h : Digits 1 most digits n)
    (hnext : digits.length = most ∨ ∀ c ∈ rest.head?, ¬ c.isDigit) :
    upTo? most (digits ++ rest) = some (n, rest) := by
  have hstop : ((rest.take (most - digits.length)).takeWhile Char.isDigit) = [] := by
    rcases hnext with hfull | hnext
    · simp [hfull]
    · cases hrest : rest.take (most - digits.length) with
      | nil => rfl
      | cons c tail =>
          have hc : c ∈ rest.head? := by
            cases rest with
            | nil => simp at hrest
            | cons d rest =>
                cases hmost : most - digits.length with
                | zero => simp [hmost] at hrest
                | succ k => simp_all
          exact List.takeWhile_cons_of_neg (hnext c hc)
  have hdigits : ((digits ++ rest).take most).takeWhile Char.isDigit = digits := by
    rw [List.take_append, List.take_of_length_le h.le_most,
      List.takeWhile_append_of_pos h.all, hstop, List.append_nil]
  have hempty : digits.isEmpty = false := by simpa using h.ne_nil
  simp [upTo?, hdigits, hempty, h.value]

theorem exists_of_upTo? {most : Nat} (h : upTo? most chars = some (n, rest)) :
    ∃ digits, chars = digits ++ rest ∧ Digits 1 most digits n := by
  unfold upTo? at h
  extract_lets digits at h
  split at h
  · cases h
  · rename_i hempty
    simp only [Option.some.injEq, Prod.mk.injEq] at h
    obtain ⟨hvalue, rfl⟩ := h
    have hprefix : digits <+: chars :=
      (List.takeWhile_prefix _).trans (List.take_prefix most chars)
    refine ⟨digits, ?_, ?_, ?_, ?_, hvalue⟩
    · rw [← List.prefix_iff_eq_append.mp hprefix]
      simp
    · simpa [List.length_pos_iff, Nat.one_le_iff_ne_zero] using hempty
    · exact (List.takeWhile_prefix _).length_le.trans (List.length_take_le _ _)
    · exact fun c hc => List.all_eq_true.mp List.all_takeWhile c hc

theorem exactly?_eq_some_iff {count : Nat} :
    exactly? count chars = some (n, rest) ↔
      ∃ digits, chars = digits ++ rest ∧ Digits count count digits n := by
  unfold exactly?
  extract_lets digits
  constructor
  · intro h
    split at h
    · rename_i hdigits
      simp only [Bool.and_eq_true, decide_eq_true_eq] at hdigits
      simp only [Option.some.injEq, Prod.mk.injEq] at h
      obtain ⟨hvalue, rfl⟩ := h
      exact ⟨digits, (List.take_append_drop count chars).symm,
        .exact hdigits.1 hdigits.2 hvalue⟩
    · cases h
  · rintro ⟨found, rfl, h⟩
    have hlength : found.length = count := h.le_most.antisymm h.least_le
    have hfound : digits = found := by simp [digits, ← hlength]
    have hall : found.all Char.isDigit := List.all_eq_true.mpr h.all
    have hrest : (found ++ rest).drop count = rest := by simp [← hlength]
    simp [hfound, hlength, hall, h.value, hrest]

theorem after?_eq_some_iff {expected : Char} :
    after? expected chars = some rest ↔ chars = expected :: rest := by
  cases chars with
  | nil => simp [after?]
  | cons c tail => simp [after?, eq_comm]

theorem year?_append {year : List Char} {y : Int} (h : IsYear year y) (rest : List Char) :
    year? (year ++ '-' :: rest) = some (y, '-' :: rest) := by
  have hhyphen : ∀ c ∈ ('-' :: rest).head?, ¬ c.isDigit := by simp
  cases h with
  | @unsigned digits n h =>
      have hdigit : ∀ c ∈ (year ++ '-' :: rest).head?, c.isDigit := h.head_isDigit
      unfold year?
      split
      · rename_i heq
        exact absurd (hdigit '-' (by simp [heq])) (by decide)
      · rename_i heq
        exact absurd (hdigit '+' (by simp [heq])) (by decide)
      · rw [upTo?_append h (.inr hhyphen), Option.map_some]
  | @plus digits n h =>
      have hall : Digits 1 (digits ++ '-' :: rest).length digits n := h.mono le_rfl (by simp)
      rw [List.cons_append, year?, upTo?_append hall (.inr hhyphen), Option.map_some]
  | @minus digits n h =>
      have hall : Digits 1 (digits ++ '-' :: rest).length digits n := h.mono le_rfl (by simp)
      rw [List.cons_append, year?, upTo?_append hall (.inr hhyphen), Option.map_some]

theorem exists_of_year? {y : Int} (h : year? chars = some (y, rest)) :
    ∃ year, chars = year ++ rest ∧ IsYear year y := by
  have hsigned : ∀ {sign : Char} {tail : List Char} {n : Nat},
      upTo? tail.length tail = some (n, rest) →
        ∃ digits, sign :: tail = sign :: digits ++ rest ∧ Digits 1 digits.length digits n := by
    intro sign tail n hread
    obtain ⟨digits, rfl, hdigits⟩ := exists_of_upTo? hread
    exact ⟨digits, rfl, hdigits.least_le, le_rfl, hdigits.all, hdigits.value⟩
  unfold year? at h
  split at h <;> obtain ⟨⟨n, left⟩, hread, heq⟩ := Option.map_eq_some_iff.mp h <;> cases heq
  · obtain ⟨digits, hchars, hdigits⟩ := hsigned hread
    exact ⟨'-' :: digits, hchars, .minus hdigits⟩
  · obtain ⟨digits, hchars, hdigits⟩ := hsigned hread
    exact ⟨'+' :: digits, hchars, .plus hdigits⟩
  · obtain ⟨digits, hchars, hdigits⟩ := exists_of_upTo? hread
    exact ⟨digits, hchars, .unsigned hdigits⟩

end Readers

section PlainDates

variable {chars : List Char} {date : Date}

/-- No digit is blank. -/
theorem isBlank_eq_false_of_isDigit {c : Char} (h : c.isDigit) : Text.isBlank c = false := by
  cases hblank : Text.isBlank c with
  | false => rfl
  | true =>
      have hname : Identifier.isNameChar c := Identifier.isNameChar_iff.mpr (.inr h)
      exact absurd hname (Identifier.not_isNameChar_of_isBlank hblank)

/-- What is dropped in front of digits is the gap. -/
theorem dropBlank_gap_append {gap digits rest : List Char} {most n : Nat}
    (hgap : ∀ c ∈ gap, Text.isBlank c) (h : Digits 1 most digits n) :
    Text.dropBlank (gap ++ (digits ++ rest)) = digits ++ rest := by
  obtain ⟨d, tail, rfl⟩ := List.exists_cons_of_ne_nil h.ne_nil
  have hd := isBlank_eq_false_of_isDigit (h.all d List.mem_cons_self)
  rw [Text.dropBlank_blank_append hgap, Text.dropBlank, List.cons_append,
    List.dropWhile_cons_of_neg (by simp [hd])]

theorem dropBlank_gap_digits {gap digits : List Char} {most n : Nat}
    (hgap : ∀ c ∈ gap, Text.isBlank c) (h : Digits 1 most digits n) :
    Text.dropBlank (gap ++ digits) = digits := by
  have hdrop : Text.dropBlank (gap ++ (digits ++ [])) = digits ++ [] := dropBlank_gap_append hgap h
  simpa using hdrop

/-- A gap is split off the front of what is ahead. -/
theorem exists_gap (chars : List Char) :
    ∃ gap, chars = gap ++ Text.dropBlank chars ∧ ∀ c ∈ gap, Text.isBlank c :=
  ⟨chars.takeWhile Text.isBlank, List.takeWhile_append_dropWhile.symm,
    fun c hc => List.all_eq_true.mp List.all_takeWhile c hc⟩

/-- A plain date is read exactly where one is written. -/
theorem plainDate?_eq_some_iff :
    plainDate? false chars = some date ↔
      ∃ written : PlainDate, Text.dropBlank chars = written.chars ∧ written.Names date := by
  simp only [plainDate?, Bool.false_eq_true, ↓reduceIte, Option.bind_eq_bind,
    Option.bind_eq_some_iff, Prod.exists, after?_eq_some_iff, Option.ite_none_right_eq_some,
    Date.of?_eq_some_iff, List.isEmpty_iff]
  constructor
  · rintro ⟨y, _, hyear, afterYear, rfl, m, _, hmonth, afterMonth, rfl, d, _, hday, rfl, hdate⟩
    obtain ⟨rfl, rfl, rfl⟩ := hdate
    obtain ⟨year, hchars, hyear⟩ := exists_of_year? hyear
    obtain ⟨monthGap, hmonthGap, hblank⟩ := exists_gap afterYear
    obtain ⟨month, hmonthChars, hmonth⟩ := exists_of_upTo? hmonth
    obtain ⟨dayGap, hdayGap, hdayBlank⟩ := exists_gap afterMonth
    obtain ⟨day, hdayChars, hday⟩ := exists_of_upTo? hday
    refine ⟨⟨year, monthGap, month, dayGap, day⟩, ?_, hyear, hblank, hmonth, hdayBlank, hday⟩
    rw [hchars, hmonthGap, hmonthChars, hdayGap, hdayChars, List.append_nil]
    rfl
  · rintro ⟨⟨year, monthGap, month, dayGap, day⟩, hchars, hnames⟩
    have hmonth : upTo? 2 (Text.dropBlank (monthGap ++ (month ++ '-' :: (dayGap ++ day)))) =
        some (date.month, '-' :: (dayGap ++ day)) := by
      rw [dropBlank_gap_append hnames.monthGap hnames.month]
      exact upTo?_append hnames.month (.inr (by simp))
    have hday : upTo? 2 (Text.dropBlank (dayGap ++ day)) = some (date.day, []) := by
      rw [dropBlank_gap_digits hnames.dayGap hnames.day, ← List.append_nil day]
      exact upTo?_append hnames.day (.inr (by simp))
    rw [hchars]
    exact ⟨date.year, _, year?_append hnames.year _, _, rfl, date.month, _, hmonth, _, rfl,
      date.day, [], hday, rfl, rfl, rfl, rfl⟩

/-- Where a plain date is written, each of its parts is certain, and no other one is written with
more behind it. -/
theorem PlainDate.Names.eq_of_chars_eq {written other : PlainDate} {otherDate : Date}
    {tail : List Char} (h : written.Names date) (hother : other.Names otherDate)
    (htail : ∀ c ∈ tail.head?, ¬ c.isDigit) (hchars : written.chars = other.chars ++ tail) :
    written = other ∧ tail = [] := by
  obtain ⟨year, monthGap, month, dayGap, day⟩ := written
  obtain ⟨otherYear, otherMonthGap, otherMonth, otherDayGap, otherDay⟩ := other
  -- What a reader leaves ahead is the same, and so is what it took.
  have hsplit : ∀ {a b x y : List Char}, a ++ x = b ++ y → x = y → a = b := by
    rintro a b x y heq rfl
    exact List.append_cancel_right heq
  have hyear : year ++ '-' :: (monthGap ++ (month ++ '-' :: (dayGap ++ day))) =
      otherYear ++ '-' :: (otherMonthGap ++ (otherMonth ++ '-' ::
        (otherDayGap ++ (otherDay ++ tail)))) := by
    simpa [PlainDate.chars] using hchars
  have hreadYear := congrArg year? hyear
  rw [year?_append h.year, year?_append hother.year] at hreadYear
  simp only [Option.some.injEq, Prod.mk.injEq, List.cons.injEq, true_and] at hreadYear
  obtain ⟨-, hafterYear⟩ := hreadYear
  have hmonth := congrArg Text.dropBlank hafterYear
  rw [dropBlank_gap_append h.monthGap h.month,
    dropBlank_gap_append hother.monthGap hother.month] at hmonth
  have hreadMonth := congrArg (upTo? 2) hmonth
  rw [upTo?_append h.month (.inr (by simp)), upTo?_append hother.month (.inr (by simp))]
    at hreadMonth
  simp only [Option.some.injEq, Prod.mk.injEq, List.cons.injEq, true_and] at hreadMonth
  obtain ⟨-, hafterMonth⟩ := hreadMonth
  have hday := congrArg Text.dropBlank hafterMonth
  rw [dropBlank_gap_digits h.dayGap h.day, dropBlank_gap_append hother.dayGap hother.day] at hday
  change day = otherDay ++ tail at hday
  have hnothing : tail = [] := by
    cases tail with
    | nil => rfl
    | cons c rest => exact absurd (h.day.all c (by simp [hday])) (htail c rfl)
  subst hnothing
  rw [List.append_nil] at hyear hafterYear hmonth hafterMonth hday
  obtain rfl : year = otherYear := hsplit hyear (congrArg _ hafterYear)
  obtain rfl : monthGap = otherMonthGap := hsplit hafterYear hmonth
  obtain rfl : month = otherMonth := hsplit hmonth (congrArg _ hafterMonth)
  obtain rfl : dayGap = otherDayGap := hsplit hafterMonth hday
  obtain rfl : day = otherDay := hday
  exact ⟨rfl, rfl⟩

end PlainDates

section Timestamps

variable {chars rest : List Char} {date : Date}

theorem isOffset_iff : isOffset chars ↔ IsOffsetText chars := by
  constructor
  · intro h
    unfold isOffset at h
    split at h
    · exact .universal (by simp)
    · exact .universal (by simp)
    · rename_i sign a b c d
      simp only [Bool.and_eq_true, Bool.or_eq_true, beq_iff_eq, List.all_eq_true,
        decide_eq_true_eq] at h
      obtain ⟨⟨⟨hsign, hall⟩, hhour⟩, hminute⟩ := h
      have hhours : [a, b].all Char.isDigit :=
        List.all_eq_true.mpr fun e he => hall e (List.mem_append_left [c, d] he)
      have hminutes : [c, d].all Char.isDigit :=
        List.all_eq_true.mpr fun e he => hall e (List.mem_append_right [a, b] he)
      exact .signed (by simpa [or_assoc] using hsign) (.exact rfl hhours rfl) hhour
        (.exact rfl hminutes rfl) hminute
    · cases h
  · intro h
    cases h with
    | universal hc =>
        simp only [List.mem_cons, List.not_mem_nil, or_false] at hc
        rcases hc with rfl | rfl <;> rfl
    | @signed sign hours minutes h m hsign hhours hhour hminutes hminute =>
        obtain ⟨a, b, rfl⟩ := List.length_eq_two.mp (hhours.le_most.antisymm hhours.least_le)
        obtain ⟨c, d, rfl⟩ := List.length_eq_two.mp (hminutes.le_most.antisymm hminutes.least_le)
        have hab := hhours.all
        have hcd := hminutes.all
        simp only [AllDigits, List.forall_mem_cons] at hab hcd
        simp only [List.mem_cons, List.not_mem_nil, or_false] at hsign
        simp [isOffset, hhours.value, hminutes.value, hhour, hminute, hab, hcd, hsign, or_assoc]

/-- An offset starts with none of the characters that could be part of a time. -/
theorem IsOffsetText.head (h : IsOffsetText rest) :
    ∀ c ∈ rest.head?, c.isDigit = false ∧ c ≠ '.' := by
  intro c hc
  have hmem : c ∈ ['Z', 'z', '+', '-', '\u2212'] := by
    cases h with
    | universal hletter =>
        cases hc
        exact List.mem_append_left ['+', '-', '\u2212'] hletter
    | signed hsign =>
        cases hc
        exact List.mem_append_right ['Z', 'z'] hsign
  simp only [List.mem_cons, List.not_mem_nil, or_false] at hmem
  rcases hmem with rfl | rfl | rfl | rfl | rfl <;> decide

theorem skipFraction?_eq_some_iff (hnext : ∀ c ∈ rest.head?, c.isDigit = false ∧ c ≠ '.') :
    skipFraction? chars = some rest ↔
      ∃ fraction, chars = fraction ++ rest ∧ IsFraction fraction := by
  constructor
  · intro h
    unfold skipFraction? at h
    split at h
    · rename_i c tail
      simp only [Option.ite_none_right_eq_some, Option.some.injEq] at h
      obtain ⟨hc, rfl⟩ := h
      refine ⟨'.' :: c :: tail.takeWhile Char.isDigit, by simp, .digits (by simp) ?_⟩
      intro d hd
      rcases List.mem_cons.mp hd with rfl | hd
      · exact hc
      · exact List.all_eq_true.mp List.all_takeWhile d hd
    · cases h
    · cases h
      exact ⟨[], rfl, .none⟩
  · rintro ⟨fraction, rfl, hfraction⟩
    cases hfraction with
    | none =>
        rw [List.nil_append]
        unfold skipFraction?
        split
        · exact absurd rfl (hnext '.' rfl).2
        · exact absurd rfl (hnext '.' rfl).2
        · rfl
    | @digits digits hne hall =>
        obtain ⟨d, tail, rfl⟩ := List.exists_cons_of_ne_nil hne
        have hstop : rest.dropWhile Char.isDigit = rest := by
          cases rest with
          | nil => rfl
          | cons c rest => exact List.dropWhile_cons_of_neg (by simp [(hnext c rfl).1])
        have htail : (tail ++ rest).dropWhile Char.isDigit = rest := by
          rw [List.dropWhile_append_of_pos fun c hc => hall c (List.mem_cons_of_mem d hc), hstop]
        simp [skipFraction?, hall d List.mem_cons_self, htail]

theorem bind_exactly?_iff {count : Nat} {next : Nat × List Char → Option Date} :
    (exactly? count chars).bind next = some date ↔
      ∃ n digits rest, chars = digits ++ rest ∧ Digits count count digits n ∧
        next (n, rest) = some date := by
  simp only [Option.bind_eq_some_iff, Prod.exists, exactly?_eq_some_iff]
  constructor
  · rintro ⟨n, rest, ⟨digits, hchars, hdigits⟩, hnext⟩
    exact ⟨n, digits, rest, hchars, hdigits, hnext⟩
  · rintro ⟨n, digits, rest, hchars, hdigits, hnext⟩
    exact ⟨n, rest, ⟨digits, hchars, hdigits⟩, hnext⟩

theorem bind_after?_iff {expected : Char} {next : List Char → Option Date} :
    (after? expected chars).bind next = some date ↔
      ∃ rest, chars = expected :: rest ∧ next rest = some date := by
  simp only [Option.bind_eq_some_iff, after?_eq_some_iff]

/-- A timestamp is read exactly where one is written. -/
theorem timestampDate?_eq_some_iff : timestampDate? chars = some date ↔ IsTimestamp chars date := by
  unfold timestampDate?
  constructor
  -- The parts are read one behind the other, and each step leaves the text that is still to read.
  · intro h
    obtain ⟨y, year, _, rfl, hyear, h⟩ := bind_exactly?_iff.mp h
    obtain ⟨_, rfl, h⟩ := bind_after?_iff.mp h
    obtain ⟨month, monthDigits, _, rfl, hmonth, h⟩ := bind_exactly?_iff.mp h
    obtain ⟨_, rfl, h⟩ := bind_after?_iff.mp h
    obtain ⟨day, dayDigits, _, rfl, hday, h⟩ := bind_exactly?_iff.mp h
    dsimp only at h
    split at h
    · split at h
      · rename_i separator _ hseparator
        simp only [Bool.or_eq_true, decide_eq_true_eq] at hseparator
        obtain ⟨hour, hourDigits, _, rfl, hhours, h⟩ := bind_exactly?_iff.mp h
        obtain ⟨_, rfl, h⟩ := bind_after?_iff.mp h
        obtain ⟨minute, minuteDigits, _, rfl, hminutes, h⟩ := bind_exactly?_iff.mp h
        obtain ⟨_, rfl, h⟩ := bind_after?_iff.mp h
        obtain ⟨second, secondDigits, _, rfl, hseconds, h⟩ := bind_exactly?_iff.mp h
        obtain ⟨offset, hskip, h⟩ := Option.bind_eq_some_iff.mp h
        simp only [Bool.and_eq_true, decide_eq_true_eq, Option.ite_none_right_eq_some,
          Date.of?_eq_some_iff, isOffset_iff] at h
        obtain ⟨⟨⟨⟨hhour, hminute⟩, hsecond⟩, hoffset⟩, hdate, rfl, rfl⟩ := h
        obtain ⟨fraction, rfl, hfraction⟩ := (skipFraction?_eq_some_iff hoffset.head).mp hskip
        have htimestamp := IsTimestamp.mk (.mk hyear hdate hmonth hday)
          (by simpa [or_assoc] using hseparator) hhours hhour hminutes hminute hseconds hsecond
          hfraction hoffset
        simpa using htimestamp
      · cases h
    · cases h
  · intro h
    cases h with
    | @mk date front hour minute second fraction offset separator h m s hfront hseparator hhours
        hhour hminutes hminute hseconds hsecond hfraction hoffset =>
      cases hfront with
      | @mk date year month day y hyear hdate hmonth hday =>
        have hskip : skipFraction? (fraction ++ offset) = some offset :=
          (skipFraction?_eq_some_iff hoffset.head).mpr ⟨fraction, rfl, hfraction⟩
        simp only [List.append_assoc, List.cons_append]
        refine bind_exactly?_iff.mpr ⟨y, year, _, rfl, hyear, ?_⟩
        refine bind_after?_iff.mpr ⟨_, rfl, ?_⟩
        refine bind_exactly?_iff.mpr ⟨date.month, month, _, rfl, hmonth, ?_⟩
        refine bind_after?_iff.mpr ⟨_, rfl, ?_⟩
        refine bind_exactly?_iff.mpr ⟨date.day, day, _, rfl, hday, ?_⟩
        dsimp only
        rw [if_pos (by simpa [or_assoc] using hseparator)]
        refine bind_exactly?_iff.mpr ⟨h, hour, _, rfl, hhours, ?_⟩
        refine bind_after?_iff.mpr ⟨_, rfl, ?_⟩
        refine bind_exactly?_iff.mpr ⟨m, minute, _, rfl, hminutes, ?_⟩
        refine bind_after?_iff.mpr ⟨_, rfl, ?_⟩
        refine bind_exactly?_iff.mpr ⟨s, second, _, rfl, hseconds, ?_⟩
        refine Option.bind_eq_some_iff.mpr ⟨offset, hskip, ?_⟩
        simp only [hhour, hminute, hsecond, isOffset_iff.mpr hoffset, decide_true, Bool.and_self,
          ↓reduceIte]
        exact Date.of?_eq_some_iff.mpr ⟨hdate, rfl, rfl⟩

end Timestamps

end TenantQuery.Calendar
