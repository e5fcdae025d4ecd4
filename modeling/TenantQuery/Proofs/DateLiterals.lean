import TenantQuery.Proofs.AuditTrail
import TenantQuery.Proofs.Calendar.IsoText
import TenantQuery.Proofs.DateTexts
import TenantQuery.Proofs.TimeWindows
/-!
The date literals in the condition of a time window.

There is one for each bound of a range, with the day that the bound stands for.  A literal is a
date for the database when its year is one from 1 to 9999, and nothing sees to that: a bound is
taken with any year that can be read.
-/

namespace TenantQuery

open Sql Compilation

/-- The contents of the literals that are cast to dates, from left to right. -/
def Sql.dateLiterals : List Token → List (List Char)
  | .literal content :: .mark ':' :: .mark ':' :: .word ['d', 'a', 't', 'e'] :: rest =>
    content :: dateLiterals rest
  | _ :: rest => dateLiterals rest
  | [] => []

/-- Four digits, two and two with hyphens between them, for a day of the years 1 to 9999. -/
def Sql.IsPlainDate (content : List Char) : Prop :=
  ∃ date, Calendar.IsIsoDate content date ∧ 1 ≤ date.year ∧ date.year ≤ 9999

namespace TimeFilter

/-- The bounds that are given, the first one first. -/
def boundTexts (filter : TimeFilter) : List String :=
  filter.dateFrom.toList ++ filter.dateTo.toList

/-- The days that the bounds stand for: the one that a bound writes, or else the current one. -/
def boundDates (filter : TimeFilter) (today : Date) : List Date :=
  filter.boundTexts.map fun text => (Calendar.parseDate? text).getD today

end TimeFilter

theorem Date.isPlainDate_isoChars_iff (date : Date) :
    IsPlainDate date.isoChars ↔ 1 ≤ date.year ∧ date.year ≤ 9999 := by
  constructor
  · rintro ⟨other, hiso, hfirst, hlast⟩
    obtain ⟨written, hchars, hnames, -⟩ := Calendar.isIsoDate_iff.mp hiso
    have hread := Calendar.plainDate?_eq_some_iff.mpr
      ⟨written, date.dropBlank_isoChars.trans hchars.symm, hnames⟩
    rw [date.plainDate?_isoChars] at hread
    cases hread
    exact ⟨hfirst, hlast⟩
  · rintro ⟨hfirst, hlast⟩
    exact ⟨date, date.isIsoDate_isoChars (by omega) hlast, hfirst, hlast⟩

namespace Sql

/-- The condition of a window is read as its parts with AND between them. -/
theorem tokens?_window {field : String} (hname : Identifier.IsName field.toList)
    (window : TimeWindow) :
    tokens? (window.render field) =
      some (separator.intercalate (Condition.windowConjuncts field window)) := by
  have hparts : ∀ part ∈ Condition.windowConjuncts field window, Plain keywords [field] part :=
    fun part hpart => (Plain.window hname List.mem_cons_self window part hpart).mono
      innerKeywords_subset (List.Subset.refl _)
  have hand : IsWordOf keywords [field] "AND".toList := .inl (List.mem_map_of_mem (by decide))
  exact tokens?_eq_some_iff.mpr ⟨(Condition.textOf_windowConjuncts field window).symm,
    (contained_intercalate (List.Subset.refl _) (by decide) hand hparts).spaced⟩

theorem dateLiterals_range (field : String) (range : DateRange) :
    dateLiterals (separator.intercalate (Condition.windowConjuncts field (.custom range))) =
      (range.first?.toList ++ range.last?.toList).map Date.isoChars := by
  have hchars : ∀ date : Date, date.iso.toList = date.isoChars := fun date => String.toList_ofList
  cases range with
  | since first => exact congrArg (fun content => [content]) (hchars first)
  | «until» last => exact congrArg (fun content => [content]) (hchars last)
  | between first last =>
      exact congrArg₂ (fun content other => [content, other]) (hchars first) (hchars last)

theorem dateLiterals_thisMonth (field : String) :
    dateLiterals (separator.intercalate (Condition.windowConjuncts field .thisMonth)) = [] :=
  rfl

end Sql

namespace TimeFilter

variable {filter : TimeFilter} {today : Date}

/-- The date literals of a custom window are the days of the bounds. -/
theorem dateLiterals_custom (hkind : filter.kind = .custom) (today : Date) (field : String) :
    dateLiterals (separator.intercalate
        (Condition.windowConjuncts field (filter.resolve today).window)) =
      (filter.boundDates today).map Date.isoChars := by
  have hdates : filter.boundDates today =
      (boundDate? filter.dateFrom today).toList ++ (boundDate? filter.dateTo today).toList := by
    simp only [boundDates, boundTexts, boundDate?, List.map_append, Option.toList_map]
  rw [resolve, hkind]
  by_cases hgiven : filter.dateFrom ≠ none ∨ filter.dateTo ≠ none
  · obtain ⟨range, hrange, hfirst, hlast⟩ := resolveCustom_eq today hgiven
    simp only [hrange, dateLiterals_range, hfirst, hlast, hdates]
  · obtain ⟨hfirst, hlast⟩ := not_or.mp hgiven
    simp only [ne_eq, not_not] at hfirst hlast
    simp only [resolveCustom_of_none hfirst hlast, dateLiterals_thisMonth]
    simp [boundDates, boundTexts, hfirst, hlast]

/-- The literals are plain dates exactly when the bounds that can be read have years of these. -/
theorem isPlainDate_boundDates_iff (hfirst : 1 ≤ today.year) (hlast : today.year ≤ 9999) :
    (∀ content ∈ (filter.boundDates today).map Date.isoChars, IsPlainDate content) ↔
      ∀ text ∈ filter.boundTexts, ∀ date, Calendar.parseDate? text = some date →
        1 ≤ date.year ∧ date.year ≤ 9999 := by
  simp only [List.forall_mem_map, boundDates, Date.isPlainDate_isoChars_iff]
  refine forall₂_congr fun text _ => ?_
  cases Calendar.parseDate? text <;> simp [hfirst, hlast]

theorem unreadableBound_mem_notes (hkind : filter.kind = .custom) {bound : RangeBound}
    (h : bound ∈ filter.unreadableBounds) :
    .unreadableBound bound today ∈ (filter.resolve today).notes := by
  have hgiven : filter.dateFrom ≠ none ∨ filter.dateTo ≠ none := by
    by_contra hnone
    obtain ⟨hfirst, hlast⟩ := not_or.mp hnone
    simp only [ne_eq, not_not] at hfirst hlast
    simp [unreadableBounds, isUnreadable, hfirst, hlast] at h
  obtain ⟨range, hrange, -⟩ := resolveCustom_eq today hgiven
  rw [resolve, hkind]
  simp only [hrange]
  exact List.mem_map_of_mem h

end TimeFilter

namespace Compilation

variable {settings : Settings} {access : Access} {intent : Intent} {today : Date}
  {filter : TimeFilter} {predicate : String}

/-- The condition that is reported behind the category of time is that of the filter. -/
theorem exists_timeCondition (hfilter : intent.timeFilter = some filter)
    (happlied : ConditionCategory.time.tag predicate ∈
      (compileOn settings access intent today).appliedFilters) :
    ∃ table, Admitted settings access intent table ∧
      admits access table (filter.dateField.getD settings.defaultDateField) ∧
      .time (filter.resolve today).window
          (Identifier.canonical (filter.dateField.getD settings.defaultDateField)) ∈
        (statementOver settings access table intent today).conditions ∧
      predicate = (filter.resolve today).window.render
        (Identifier.canonical (filter.dateField.getD settings.defaultDateField)) := by
  rcases run_cases settings access intent today with
    ⟨-, hrun⟩ | ⟨table, -, hrun | hrun | hadmitted⟩
  · rw [compileOn, hrun] at happlied
    cases happlied
  · rw [compileOn, hrun] at happlied
    cases happlied
  · rw [compileOn, hrun] at happlied
    cases happlied
  rw [compileOn_of_admitted hadmitted today] at happlied
  obtain ⟨condition, hmem, hentry⟩ := List.mem_map.mp happlied
  have hcategory : condition.category == .time := by
    rw [← isPrefixOf_auditEntry, hentry, List.isPrefixOf_iff_prefix]
    exact ⟨predicate.toList, String.toList_append.symm⟩
  have htime : condition ∈ (statementOver settings access table intent today).conditions.filter
      (·.category == .time) := List.mem_filter.mpr ⟨hmem, hcategory⟩
  rw [filter_category_conditions .time, conditionsOf, hfilter] at htime
  cases hadmits : admits access table (filter.dateField.getD settings.defaultDateField) with
  | false =>
      obtain ⟨_, -, hstep⟩ := timeConditions_of_not_admits today hadmits
      rw [hstep] at htime
      cases htime
  | true =>
      rw [timeConditions_of_admits today hadmits] at htime
      cases List.mem_singleton.mp htime
      refine ⟨table, hadmitted, hadmits, hmem, ?_⟩
      have hchars := congrArg String.toList hentry
      simp only [Condition.auditEntry, ConditionCategory.tag, String.toList_append] at hchars
      exact (String.toList_inj.mp (List.append_cancel_left hchars)).symm

theorem mem_warnings_of_note (hfilter : intent.timeFilter = some filter) {table : String}
    (hadmitted : Admitted settings access intent table)
    (hadmits : admits access table (filter.dateField.getD settings.defaultDateField))
    {note : WindowNote} (hnote : note ∈ (filter.resolve today).notes) :
    note.message ∈ (compileOn settings access intent today).warnings := by
  rw [compileOn_of_admitted hadmitted today]
  refine List.mem_map.mpr ⟨.windowReplaced
    (Identifier.canonical (filter.dateField.getD settings.defaultDateField)) note, ?_, rfl⟩
  have htime : .windowReplaced
      (Identifier.canonical (filter.dateField.getD settings.defaultDateField)) note ∈
        (timeConditions settings access table today intent.timeFilter).2 := by
    rw [hfilter, timeConditions_of_admits today hadmits]
    exact List.mem_map_of_mem hnote
  simp only [adjustmentsOver, conditions, List.mem_append]
  exact .inl (.inr (.inl htime))

end Compilation

/-- A custom window has one date literal for each bound that is given, with the day that the bound
writes or, for one that cannot be read, the day of the compilation; and every such bound is
reported.  The literals are plain dates exactly when no bound that can be read has a year outside
of 1 to 9999. -/
theorem date_bounds_written {settings : Settings} {access : Access} {intent : Intent}
    {filter : TimeFilter} {today : Date} {predicate : String}
    (hfilter : intent.timeFilter = some filter) (hkind : filter.kind = .custom)
    (hfirst : 1 ≤ today.year) (hlast : today.year ≤ 9999)
    (happlied : ConditionCategory.time.tag predicate ∈
      (compileOn settings access intent today).appliedFilters) :
    ∃ sql tokens, (compileOn settings access intent today).sql = some sql ∧
      predicate.toList <:+: sql.toList ∧ tokens? predicate = some tokens ∧
      dateLiterals tokens = (filter.boundDates today).map Date.isoChars ∧
      ((∀ content ∈ dateLiterals tokens, IsPlainDate content) ↔
        ∀ text ∈ filter.boundTexts, ∀ date, Calendar.parseDate? text = some date →
          1 ≤ date.year ∧ date.year ≤ 9999) ∧
      ∀ bound ∈ filter.unreadableBounds,
        "custom time filter " ++ bound.name ++ " is not a valid date; using " ++ today.iso ++
          " instead" ∈ (compileOn settings access intent today).warnings := by
  obtain ⟨table, hadmitted, hadmits, hmem, rfl⟩ := exists_timeCondition hfilter happlied
  have hname := Identifier.isName_of_isCanonical
    (Identifier.isCanonical_canonical (isIdentifier_of_admits hadmits))
  have hliterals := TimeFilter.dateLiterals_custom hkind today
    (Identifier.canonical (filter.dateField.getD settings.defaultDateField))
  have htokens := tokens?_window hname (filter.resolve today).window
  have hsql := sql_of_admitted hadmitted today
  have hinfix := Statement.infix_render hmem
  refine ⟨_, _, hsql, hinfix, htokens, hliterals, ?_, ?_⟩
  · rw [hliterals]
    exact TimeFilter.isPlainDate_boundDates_iff hfirst hlast
  · intro bound hbound
    exact mem_warnings_of_note hfilter hadmitted hadmits
      (TimeFilter.unreadableBound_mem_notes hkind hbound)

/-- The request for orders over a range with a bound that is no day of the calendar. -/
def Sample.spoiltIntent : Intent :=
  { Sample.intent with timeFilter := some Sample.spoiltRange }

/-- The day of the compilation stands in for that bound. -/
theorem date_bounds_written_spoilt :
    ∃ tokens, tokens? ("order_date >= '2024-02-29'::date AND " ++
        "order_date <= '2024-03-01'::date") = some tokens ∧
      dateLiterals tokens = ["2024-02-29".toList, "2024-03-01".toList] ∧
      (∀ content ∈ dateLiterals tokens, IsPlainDate content) ∧
      "custom time filter dateFrom is not a valid date; using 2024-02-29 instead" ∈
        (compileOn {} ⟨Sample.port, Sample.caller⟩ Sample.spoiltIntent Sample.day).warnings := by
  have happlied : ConditionCategory.time.tag
      ("order_date >= '2024-02-29'::date AND " ++ "order_date <= '2024-03-01'::date") ∈
        (compileOn {} ⟨Sample.port, Sample.caller⟩ Sample.spoiltIntent
          Sample.day).appliedFilters := by
    decide +kernel
  obtain ⟨-, tokens, -, -, htokens, hliterals, hplain, hreported⟩ :=
    date_bounds_written rfl rfl (by decide) (by decide) happlied
  have hbounds : Sample.spoiltRange.unreadableBounds = [.dateFrom] := by decide +kernel
  have hdates : (Sample.spoiltRange.boundDates Sample.day).map Date.isoChars =
      ["2024-02-29".toList, "2024-03-01".toList] := by decide +kernel
  refine ⟨tokens, htokens, ?_, ?_, ?_⟩
  · exact hliterals.trans hdates
  · apply hplain.mpr
    have hread : Sample.spoiltRange.boundTexts.map Calendar.parseDate? =
        [none, some ⟨2024, 3, 1, by decide⟩] := by decide +kernel
    intro text htext date hdate
    have hmem := List.mem_map_of_mem (f := Calendar.parseDate?) htext
    rw [hread, hdate] at hmem
    simp only [List.mem_cons, reduceCtorEq, Option.some.injEq, List.not_mem_nil, or_false,
      false_or] at hmem
    subst hmem
    decide
  · exact hreported .dateFrom (by rw [hbounds]; exact List.mem_cons_self)

namespace Sample

/-- A range whose bounds have years that the database does not. -/
def farRange : TimeFilter where
  kind := .custom
  dateFrom := some "0000-01-01"
  dateTo := some "+12024-01-01"

def farIntent : Intent where
  table := "orders"
  metrics := [{ field := "amount" }]
  timeFilter := some farRange

end Sample

/-- Years outside of 1 to 9999 are written in date literals without a word, and such a literal is
no plain date. -/
theorem far_dates_written :
    ConditionCategory.time.tag
        ("order_date >= '0000-01-01'::date AND " ++ "order_date <= '+12024-01-01'::date") ∈
      (compileOn {} ⟨Sample.port, Sample.caller⟩ Sample.farIntent Sample.day).appliedFilters ∧
    (compileOn {} ⟨Sample.port, Sample.caller⟩ Sample.farIntent Sample.day).warnings = [] ∧
    ¬ IsPlainDate "0000-01-01".toList ∧ ¬ IsPlainDate "+12024-01-01".toList := by
  have hfirst : "0000-01-01".toList = Date.isoChars ⟨0, 1, 1, by decide⟩ := by decide +kernel
  have hlast : "+12024-01-01".toList = Date.isoChars ⟨12024, 1, 1, by decide⟩ := by
    decide +kernel
  refine ⟨by decide +kernel, by decide +kernel, ?_, ?_⟩
  · rw [hfirst, Date.isPlainDate_isoChars_iff]
    decide
  · rw [hlast, Date.isPlainDate_isoChars_iff]
    decide

end TenantQuery
