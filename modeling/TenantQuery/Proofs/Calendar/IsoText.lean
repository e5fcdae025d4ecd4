import TenantQuery.Proofs.Calendar.Spelling
import TenantQuery.Proofs.Sql.Rendering
/-!
The ISO text of a date is a plain date that names it, and so reading the text gives the date back.

This holds for every year there is: of four digits, before the year zero, and of more digits than
four behind a sign.
-/

namespace TenantQuery

namespace Calendar

variable {width most n : Nat}

/-- Digits that are padded to a width write the same number. -/
theorem Digits.padded (hwidth : width ≤ most) (hfits : (Nat.toDigits 10 n).length ≤ most) :
    Digits width most (Date.padded width n) n := by
  have hlength : (Date.padded width n).length =
      width - (Nat.toDigits 10 n).length + (Nat.toDigits 10 n).length := by
    simp [Date.padded]
  refine ⟨by omega, by omega, (AllDigits.zeros _).append (AllDigits.toDigits n), ?_⟩
  change Nat.ofDigitChars 10 (Date.padded width n) 0 = n
  rw [Date.padded, Nat.ofDigitChars_append, Nat.ofDigitChars_replicate_zero, Nat.mul_zero]
  exact Nat.ofDigitChars_ten_toDigits

/-- The digits of a number below a power of ten. -/
theorem Digits.padded_of_lt {width : Nat} (hfits : n < 10 ^ (width + 1)) :
    Digits (width + 1) (width + 1) (Date.padded (width + 1) n) n :=
  .padded le_rfl ((Nat.length_toDigits_le_iff (by decide) (Nat.succ_pos width)).mpr hfits)

theorem isYear_yearText (year : Int) : IsYear (Date.yearText year) year := by
  have hmany : Digits 1 (Date.padded 4 year.natAbs).length (Date.padded 4 year.natAbs)
      year.natAbs := by
    have h : Digits 4 (4 + (Nat.toDigits 10 year.natAbs).length) _ _ :=
      .padded (Nat.le_add_right _ _) (Nat.le_add_left _ _)
    exact ⟨(by decide : 1 ≤ 4).trans h.least_le, le_rfl, h.all, h.value⟩
  unfold Date.yearText
  extract_lets digits
  split
  · have hyear := IsYear.minus hmany
    rwa [show -(year.natAbs : Int) = year by omega] at hyear
  · split
    · have hfits : year.natAbs < 10 ^ (3 + 1) := by omega
      have hyear := IsYear.unsigned ((Digits.padded_of_lt hfits).mono (by decide) le_rfl)
      rwa [show (year.natAbs : Int) = year by omega] at hyear
    · have hyear := IsYear.plus hmany
      rwa [show (year.natAbs : Int) = year by omega] at hyear

theorem IsYear.isDigit_or_sign {year : List Char} {y : Int} (h : IsYear year y) :
    ∀ c ∈ year, c.isDigit ∨ c ∈ ['+', '-'] := by
  intro c hc
  cases h with
  | unsigned h => exact .inl (h.all c hc)
  | plus h =>
      rcases List.mem_cons.mp hc with rfl | hc
      · exact .inr (by decide)
      · exact .inl (h.all c hc)
  | minus h =>
      rcases List.mem_cons.mp hc with rfl | hc
      · exact .inr (by decide)
      · exact .inl (h.all c hc)

theorem daysInMonth_le (year : Int) (month : Nat) : daysInMonth year month ≤ 31 := by
  unfold daysInMonth
  split <;> try decide
  split <;> decide

end Calendar

namespace Date

open Calendar (PlainDate Digits IsIsoDate parseDate? sanitize)

variable (date : Date)

/-- The parts of the ISO text, with nothing between a hyphen and the number behind it. -/
def isoParts : PlainDate :=
  ⟨yearText date.year, [], padded 2 date.month, [], padded 2 date.day⟩

theorem chars_isoParts : date.isoParts.chars = date.isoChars := by
  simp [PlainDate.chars, isoParts, isoChars]

theorem digits_month : Digits 2 2 (padded 2 date.month) date.month :=
  .padded_of_lt (by have := date.month_mem; omega)

theorem digits_day : Digits 2 2 (padded 2 date.day) date.day :=
  .padded_of_lt (by
    have hlast := date.isDay.2.2.2
    have hmonth := Calendar.daysInMonth_le date.year date.month
    omega)

theorem names_isoParts : date.isoParts.Names date where
  year := Calendar.isYear_yearText date.year
  monthGap := List.forall_mem_nil _
  month := date.digits_month.mono (by decide) le_rfl
  dayGap := List.forall_mem_nil _
  day := date.digits_day.mono (by decide) le_rfl

/-- In the years of four digits the text is in ISO form. -/
theorem isIsoDate_isoChars (hfirst : 0 ≤ date.year) (hlast : date.year ≤ 9999) :
    IsIsoDate date.isoChars date := by
  have hfits : date.year.natAbs < 10 ^ (3 + 1) := by omega
  have hyear : yearText date.year = padded 4 date.year.natAbs := by
    simp [yearText, not_lt.mpr hfirst, hlast]
  have hdate : date.year = date.year.natAbs := by omega
  have hiso := IsIsoDate.mk (.padded_of_lt hfits) hdate date.digits_month date.digits_day
  rwa [isoChars, hyear, List.append_assoc]

theorem isDigit_or_sign_of_mem_isoChars {c : Char} (hc : c ∈ date.isoChars) :
    c.isDigit ∨ c ∈ ['+', '-'] := by
  have hnames := date.names_isoParts
  simp only [isoChars, List.mem_append, List.mem_cons] at hc
  rcases hc with (hc | rfl | hc) | rfl | hc
  · exact hnames.year.isDigit_or_sign c hc
  · exact .inr (by decide)
  · exact .inl (hnames.month.all c hc)
  · exact .inr (by decide)
  · exact .inl (hnames.day.all c hc)

/-- Nothing in the text is blank. -/
theorem isBlank_of_mem_isoChars {c : Char} (hc : c ∈ date.isoChars) : Text.isBlank c = false := by
  rcases date.isDigit_or_sign_of_mem_isoChars hc with hdigit | hsign
  · exact Calendar.isBlank_eq_false_of_isDigit hdigit
  · simp only [List.mem_cons, List.not_mem_nil, or_false] at hsign
    rcases hsign with rfl | rfl <;> decide

theorem trimChars_isoChars : Text.trimChars date.isoChars = date.isoChars :=
  Text.trimChars_of_visible fun _ hc => date.isBlank_of_mem_isoChars hc

theorem dropBlank_isoChars : Text.dropBlank date.isoChars = date.isoChars := by
  rw [← date.trimChars_isoChars, Text.dropBlank_trimChars]

theorem plainDate?_isoChars : Calendar.plainDate? false date.isoChars = some date := by
  refine Calendar.plainDate?_eq_some_iff.mpr ⟨date.isoParts, ?_, date.names_isoParts⟩
  rw [dropBlank_isoChars, chars_isoParts]

/-- The text is read as the date, whatever blank stands around it. -/
theorem parseDate?_iso {before after : String} (hbefore : Text.isBlankText before)
    (hafter : Text.isBlankText after) : parseDate? (before ++ date.iso ++ after) = some date := by
  have hblank : ∀ {text : String}, Text.isBlankText text → ∀ c ∈ text.toList, Text.isBlank c :=
    fun htext c hc => List.all_eq_true.mp htext c hc
  have htrim : Text.trimChars (before ++ date.iso ++ after).toList = date.isoChars := by
    simp only [String.toList_append, iso, String.toList_ofList]
    rw [Text.trimChars_padded _ (hblank hbefore) (hblank hafter), trimChars_isoChars]
  rw [parseDate?, htrim, plainDate?_isoChars, Option.some_or]

theorem parseDate?_iso_self : parseDate? date.iso = some date := by
  have hblank : Text.isBlankText "" := rfl
  have h := date.parseDate?_iso hblank hblank
  rwa [String.empty_append, String.append_empty] at h

/-- No character of the text is doubled in its literal. -/
theorem dateLiteral_eq : Sql.dateLiteral date = "'" ++ date.iso ++ "'::date" := by
  have hquote : '\'' ∉ date.isoChars := by
    intro hmem
    rcases date.isDigit_or_sign_of_mem_isoChars hmem with h | h <;> exact absurd h (by decide)
  have hescape : Sql.escape date.iso = date.iso := by
    rw [Sql.escape, iso, String.toList_ofList, Sql.doubleQuotes_eq_self hquote]
  rw [Sql.dateLiteral, Sql.quote, hescape, String.append_assoc]
  rfl

end Date

/-- What stands between the quotes of a date literal is read as the date of the literal, whatever
blank stands around it.  So two dates do not share a literal, and a date that was read from a text
is read again from its own literal, where no other date stands in for it. -/
theorem date_literals_read_back :
    (∀ (date : Date) (before after : String), Text.isBlankText before → Text.isBlankText after →
      Sql.dateLiteral date = "'" ++ date.iso ++ "'::date" ∧
        Calendar.parseDate? (before ++ date.iso ++ after) = some date) ∧
    Function.Injective Sql.dateLiteral ∧
    ∀ (text : String) (date today : Date), Calendar.parseDate? text = some date →
      Calendar.sanitize text today = ⟨date, false⟩ ∧
        Calendar.sanitize date.iso today = ⟨date, false⟩ := by
  refine ⟨fun date before after hbefore hafter =>
    ⟨date.dateLiteral_eq, date.parseDate?_iso hbefore hafter⟩, ?_, ?_⟩
  · intro first second hliteral
    rw [first.dateLiteral_eq, second.dateLiteral_eq] at hliteral
    have hiso : first.iso = second.iso := by
      have hchars := congrArg String.toList hliteral
      simpa [String.ext_iff] using hchars
    have hread := congrArg Calendar.parseDate? hiso
    rw [first.parseDate?_iso_self, second.parseDate?_iso_self] at hread
    exact Option.some.inj hread
  · intro text date today hread
    exact ⟨by rw [Calendar.sanitize, hread],
      by rw [Calendar.sanitize, date.parseDate?_iso_self]⟩

/-- A leap day before the year zero, with blanks of more than one kind around it. -/
theorem date_literals_read_back_leap_day :
    Calendar.parseDate? ("\u3000" ++ Date.iso ⟨-10004, 2, 29, by decide⟩ ++ " \n") =
      some ⟨-10004, 2, 29, by decide⟩ ∧
    Calendar.sanitize (Date.iso ⟨12024, 1, 1, by decide⟩) ⟨2025, 11, 20, by decide⟩ =
      ⟨⟨12024, 1, 1, by decide⟩, false⟩ := by
  obtain ⟨hback, -, hsanitized⟩ := date_literals_read_back
  exact ⟨(hback ⟨-10004, 2, 29, by decide⟩ "\u3000" " \n" (by decide) (by decide)).2,
    (hsanitized "+12024-1-1" ⟨12024, 1, 1, by decide⟩ ⟨2025, 11, 20, by decide⟩
      (by decide +kernel)).2⟩

end TenantQuery
