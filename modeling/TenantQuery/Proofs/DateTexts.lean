import TenantQuery.Proofs.Calendar.Spelling
/-!
Which texts are dates, and which date each of them is.

A text is read as a date exactly when it is one in ISO form, a timestamp of RFC 3339, or written
more loosely than either.  What is written loosely is in neither of the strict forms.
-/

namespace TenantQuery.Calendar

/-- A timestamp as RFC 3339 has it: its letters may be of either case, as its notes allow, and a
space may stand for the first one, but no sign is the minus sign of typography. -/
def IsStrictTimestamp (chars : List Char) (date : Date) : Prop :=
  IsTimestamp chars date ∧ '\u2212' ∉ chars

/-- A date in neither of the strict forms. -/
inductive IsLooseDate : List Char → Date → Prop
  /-- The year has a sign or less than four digits, something blank stands before the month or the
  day, or one of these has a single digit. -/
  | plain {written : PlainDate} {date : Date} (hnames : written.Names date)
      (hloose : ¬ written.IsExact) : IsLooseDate written.chars date
  | timestamp {chars : List Char} {date : Date} (h : IsTimestamp chars date)
      (hminus : '\u2212' ∈ chars) : IsLooseDate chars date

variable {chars : List Char} {date : Date}

theorem IsYear.of_digits {year : List Char} {y : Int} (h : IsYear year y)
    (hlength : year.length = 4) (hall : AllDigits year) : ∃ n : Nat, Digits 4 4 year n ∧ y = n := by
  cases h with
  | @unsigned digits n h => exact ⟨n, ⟨hlength.ge, hlength.le, hall, h.value⟩, rfl⟩
  | plus h => exact absurd (hall '+' List.mem_cons_self) (by decide)
  | minus h => exact absurd (hall '-' List.mem_cons_self) (by decide)

/-- The exact plain dates are those in ISO form. -/
theorem isIsoDate_iff :
    IsIsoDate chars date ↔
      ∃ written : PlainDate, written.chars = chars ∧ written.Names date ∧ written.IsExact := by
  constructor
  · intro h
    cases h with
    | @mk date year month day y hyear hdate hmonth hday =>
        have hyears : IsYear year date.year := hdate ▸ .unsigned (hyear.mono (by decide) le_rfl)
        exact ⟨⟨year, [], month, [], day⟩, rfl,
          ⟨hyears, by simp, hmonth.mono (by decide) le_rfl, by simp,
            hday.mono (by decide) le_rfl⟩,
          ⟨⟨hyear.le_most.antisymm hyear.least_le, hyear.all⟩, rfl,
            hmonth.le_most.antisymm hmonth.least_le, rfl, hday.le_most.antisymm hday.least_le⟩⟩
  · rintro ⟨⟨year, monthGap, month, dayGap, day⟩, rfl, hnames, hexact⟩
    obtain ⟨n, hyear, hdate⟩ := hnames.year.of_digits hexact.year.1 hexact.year.2
    obtain rfl : monthGap = [] := hexact.monthGap
    obtain rfl : dayGap = [] := hexact.dayGap
    exact .mk hyear hdate ⟨hexact.month.ge, hexact.month.le, hnames.month.all, hnames.month.value⟩
      ⟨hexact.day.ge, hexact.day.le, hnames.day.all, hnames.day.value⟩

/-- Behind the date of a timestamp there is more to come, so it is no plain date. -/
theorem plainDate?_eq_none_of_isTimestamp (htrimmed : Text.dropBlank chars = chars)
    (h : IsTimestamp chars date) : plainDate? false chars = none := by
  cases h with
  | @mk date front hour minute second fraction offset separator h m s hfront hseparator =>
      obtain ⟨exactly, rfl, hexactly, -⟩ := isIsoDate_iff.mp hfront
      have hdigit : ∀ c ∈ (separator :: (hour ++ ':' :: (minute ++ ':' :: (second ++
          (fraction ++ offset))))).head?, ¬ c.isDigit := by
        simp only [List.mem_cons, List.not_mem_nil, or_false] at hseparator
        rcases hseparator with rfl | rfl | rfl <;> simp
      rw [Option.eq_none_iff_forall_ne_some]
      intro other hother
      obtain ⟨written, hchars, hnames⟩ := plainDate?_eq_some_iff.mp hother
      rw [htrimmed] at hchars
      have hmore := (hnames.eq_of_chars_eq hexactly hdigit hchars.symm).2
      cases hmore

/-- A text is a date when it is a plain date or a timestamp once it is trimmed. -/
theorem parseDate?_eq_some_iff {text : String} :
    parseDate? text = some date ↔
      (∃ written : PlainDate, written.chars = Text.trimChars text.toList ∧ written.Names date) ∨
        IsTimestamp (Text.trimChars text.toList) date := by
  have hplain : plainDate? false (Text.trimChars text.toList) = some date ↔
      ∃ written : PlainDate, written.chars = Text.trimChars text.toList ∧ written.Names date := by
    rw [plainDate?_eq_some_iff, Text.dropBlank_trimChars]
    exact exists_congr fun written => and_congr_left fun _ => eq_comm
  rw [parseDate?, Option.or_eq_some_iff, hplain, timestampDate?_eq_some_iff]
  constructor
  · exact Or.imp_right And.right
  · exact Or.imp_right fun htimestamp =>
      ⟨plainDate?_eq_none_of_isTimestamp (Text.dropBlank_trimChars _) htimestamp, htimestamp⟩

/-- A plain date is in ISO form, or written loosely. -/
theorem plain_iff :
    (∃ written : PlainDate, written.chars = chars ∧ written.Names date) ↔
      IsIsoDate chars date ∨ ∃ written : PlainDate, written.chars = chars ∧ written.Names date ∧
        ¬ written.IsExact := by
  rw [isIsoDate_iff, ← exists_or]
  refine exists_congr fun written => ?_
  by_cases hexact : written.IsExact <;> simp [hexact]

theorem isLooseDate_iff :
    IsLooseDate chars date ↔
      (∃ written : PlainDate, written.chars = chars ∧ written.Names date ∧ ¬ written.IsExact) ∨
        IsTimestamp chars date ∧ '\u2212' ∈ chars := by
  constructor
  · rintro (⟨hnames, hloose⟩ | ⟨h, hminus⟩)
    · exact .inl ⟨_, rfl, hnames, hloose⟩
    · exact .inr ⟨h, hminus⟩
  · rintro (⟨written, rfl, hnames, hloose⟩ | ⟨h, hminus⟩)
    · exact .plain hnames hloose
    · exact .timestamp h hminus

/-- A plain date that stands in one of the strict forms is exact. -/
theorem strict_of_plain {written : PlainDate} {other : Date}
    (htrimmed : Text.dropBlank written.chars = written.chars) (hnames : written.Names date)
    (hstrict : IsIsoDate written.chars other ∨ IsTimestamp written.chars other) :
    written.IsExact := by
  rcases hstrict with hiso | htimestamp
  · obtain ⟨exactly, hchars, hexactNames, hexact⟩ := isIsoDate_iff.mp hiso
    have hsame : written.chars = exactly.chars ++ [] := by rw [List.append_nil, hchars]
    obtain ⟨rfl, -⟩ := hnames.eq_of_chars_eq hexactNames (by simp) hsame
    exact hexact
  · have hnone := plainDate?_eq_none_of_isTimestamp htrimmed htimestamp
    cases hnone.symm.trans (plainDate?_eq_some_iff.mpr ⟨written, htrimmed, hnames⟩)

/-- A text is a date exactly when it is one in ISO form, a timestamp of RFC 3339 or a loosely
written date once it is trimmed, and then it is the date that is written.  What is written loosely
is in neither of the other forms. -/
theorem date_texts (text : String) (date : Date) :
    (parseDate? text = some date ↔
      IsIsoDate (Text.trimChars text.toList) date ∨
        IsStrictTimestamp (Text.trimChars text.toList) date ∨
          IsLooseDate (Text.trimChars text.toList) date) ∧
    (IsLooseDate (Text.trimChars text.toList) date → ∀ other,
      ¬ IsIsoDate (Text.trimChars text.toList) other ∧
        ¬ IsStrictTimestamp (Text.trimChars text.toList) other) := by
  have htrimmed := Text.dropBlank_trimChars text.toList
  constructor
  · rw [parseDate?_eq_some_iff, plain_iff, isLooseDate_iff, IsStrictTimestamp]
    grind
  · generalize Text.trimChars text.toList = chars at htrimmed
    rintro (⟨hnames, hloose⟩ | ⟨h, hminus⟩) other
    · exact ⟨fun hiso => hloose (strict_of_plain htrimmed hnames (.inl hiso)),
        fun htimestamp => hloose (strict_of_plain htrimmed hnames (.inr htimestamp.1))⟩
    · refine ⟨fun hiso => ?_, fun htimestamp => htimestamp.2 hminus⟩
      obtain ⟨exactly, rfl, hexactNames, -⟩ := isIsoDate_iff.mp hiso
      have hnone := plainDate?_eq_none_of_isTimestamp htrimmed h
      cases hnone.symm.trans (plainDate?_eq_some_iff.mpr ⟨exactly, htrimmed, hexactNames⟩)

/-- A timestamp with a leap second and an offset is on the day that it writes. -/
theorem date_texts_offset :
    IsStrictTimestamp "2024-02-29T23:59:60.5-09:30".toList ⟨2024, 2, 29, by decide⟩ ∧
      parseDate? "\t2024-02-29T23:59:60.5-09:30 " = some ⟨2024, 2, 29, by decide⟩ := by
  have hfront : IsIsoDate (['2', '0', '2', '4'] ++ '-' :: (['0', '2'] ++ '-' :: ['2', '9']))
      ⟨2024, 2, 29, by decide⟩ :=
    .mk (.exact rfl rfl rfl) rfl (.exact rfl rfl rfl) (.exact rfl rfl rfl)
  have hoffset : IsOffsetText ('-' :: (['0', '9'] ++ ':' :: ['3', '0'])) :=
    .signed (by decide) (.exact rfl rfl rfl) (by decide) (.exact rfl rfl rfl) (by decide)
  have hfraction : IsFraction ('.' :: ['5']) := .digits (by decide) (List.all_eq_true.mp rfl)
  have hhour : Digits 2 2 ['2', '3'] 23 := .exact rfl rfl rfl
  have hminute : Digits 2 2 ['5', '9'] 59 := .exact rfl rfl rfl
  have hsecond : Digits 2 2 ['6', '0'] 60 := .exact rfl rfl rfl
  have htimestamp := IsTimestamp.mk hfront (by decide : 'T' ∈ ['T', 't', ' ']) hhour (by decide)
    hminute (by decide) hsecond (by decide) hfraction hoffset
  have hstrict : IsStrictTimestamp "2024-02-29T23:59:60.5-09:30".toList
      ⟨2024, 2, 29, by decide⟩ := ⟨htimestamp, by decide⟩
  exact ⟨hstrict, (date_texts "\t2024-02-29T23:59:60.5-09:30 " _).1.mpr (.inr (.inl hstrict))⟩

namespace Sample

/-- A year, a month and a day without the zeros of the ISO form. -/
def shortDate : PlainDate :=
  ⟨['2', '0', '2', '4'], [], ['1'], [], ['5']⟩

end Sample

/-- A year, a month and a day are read as a date though they are in neither of the strict forms. -/
theorem date_texts_not_strict :
    parseDate? "2024-1-5" = some ⟨2024, 1, 5, by decide⟩ ∧
      ∀ other, ¬ IsIsoDate "2024-1-5".toList other ∧
        ¬ IsStrictTimestamp "2024-1-5".toList other := by
  have hchars : "2024-1-5".toList = Sample.shortDate.chars := by decide
  have hnames : Sample.shortDate.Names ⟨2024, 1, 5, by decide⟩ :=
    ⟨.unsigned ((Digits.exact rfl rfl rfl).mono (by decide) le_rfl), List.forall_mem_nil _,
      (Digits.exact rfl rfl rfl).mono le_rfl (by decide), List.forall_mem_nil _,
      (Digits.exact rfl rfl rfl).mono le_rfl (by decide)⟩
  have hloose : ¬ Sample.shortDate.IsExact := fun hexact => absurd hexact.month (by decide)
  have hshown : Text.dropBlank Sample.shortDate.chars = Sample.shortDate.chars := by decide
  rw [hchars]
  refine ⟨by decide +kernel, fun other => ⟨fun hiso => ?_, fun htimestamp => ?_⟩⟩
  · exact hloose (strict_of_plain hshown hnames (.inl hiso))
  · exact hloose (strict_of_plain hshown hnames (.inr htimestamp.1))

end TenantQuery.Calendar
