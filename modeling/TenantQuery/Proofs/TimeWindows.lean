import TenantQuery.Proofs.Compilation.Outcome
/-!
A time window is the one that was asked for, or a note says what stands in for it.

The current date is used for nothing but a bound that cannot be read.  Where every bound can be
read, neither the window nor the statement depends on the day of the compilation.
-/

namespace TenantQuery

open Compilation

def DateRange.first? : DateRange → Option Date
  | .since first | .between first _ => some first
  | .until _ => none

def DateRange.last? : DateRange → Option Date
  | .until last | .between _ last => some last
  | .since _ => none

/-- The note about a kind whose parameters are missing; most kinds need none. -/
def WindowKind.complaint? : WindowKind → Option WindowNote
  | .thisYearMonth => some (.missingMonth .thisYearMonth)
  | .lastYearMonth => some (.missingMonth .lastYearMonth)
  | .lastNDays => some (.missingCount .lastNDays)
  | .lastNMonths => some (.missingCount .lastNMonths)
  | .custom => some .emptyRange
  | _ => none

namespace TimeFilter

/-- The window is of the requested kind and has exactly the requested parameters: a month of the
year, a count that the database can hold, or a day for each bound that is given. -/
def AsksFor (filter : TimeFilter) : TimeWindow → Prop
  | .thisMonth => filter.kind = .thisMonth
  | .lastMonth => filter.kind = .lastMonth
  | .thisYear => filter.kind = .thisYear
  | .lastYear => filter.kind = .lastYear
  | .thisYearMonth month =>
    filter.kind = .thisYearMonth ∧ filter.month = some (month : Int) ∧ 1 ≤ month ∧ month ≤ 12
  | .lastYearMonth month =>
    filter.kind = .lastYearMonth ∧ filter.month = some (month : Int) ∧ 1 ≤ month ∧ month ≤ 12
  | .lastNDays n =>
    filter.kind = .lastNDays ∧ filter.n = some (n : Int) ∧ 1 ≤ n ∧ n ≤ 2147483647
  | .lastNMonths n =>
    filter.kind = .lastNMonths ∧ filter.n = some (n : Int) ∧ 1 ≤ n ∧ n ≤ 2147483647
  | .thisQuarter => filter.kind = .thisQuarter
  | .today => filter.kind = .today
  | .thisWeek => filter.kind = .thisWeek
  | .custom range =>
    filter.kind = .custom ∧ filter.dateFrom.map Calendar.parseDate? = range.first?.map some ∧
      filter.dateTo.map Calendar.parseDate? = range.last?.map some

/-- The bound is given and is no date. -/
def isUnreadable (given : Option String) : Bool :=
  given.any fun text => (Calendar.parseDate? text).isNone

/-- The bounds that are given and are no dates, the first one first. -/
def unreadableBounds (filter : TimeFilter) : List RangeBound :=
  (if isUnreadable filter.dateFrom then [.dateFrom] else []) ++
    (if isUnreadable filter.dateTo then [.dateTo] else [])

/-- The day that a bound stands for: the one that it writes, or else the current one. -/
def boundDate? (given : Option String) (today : Date) : Option Date :=
  given.map fun text => (Calendar.parseDate? text).getD today

theorem inRange?_eq_some_iff {bound : Nat} {value : Option Int} {n : Nat} :
    inRange? bound value = some n ↔ value = some (n : Int) ∧ 1 ≤ n ∧ n ≤ bound := by
  cases value with
  | none => simp [inRange?]
  | some given =>
      simp only [inRange?, Option.ite_none_right_eq_some, Option.some.injEq]
      omega

section OrThisMonth

variable {parameter : Option Nat} {window : Nat → TimeWindow} {note : WindowNote}

/-- There is no note exactly when there is a parameter, and then the window has it. -/
theorem notes_orThisMonth_eq_nil_iff {asked : TimeWindow → Prop} (hnone : ¬ asked .thisMonth)
    (hsome : ∀ n, parameter = some n → asked (window n)) :
    (orThisMonth parameter window note).notes = [] ↔
      asked (orThisMonth parameter window note).window := by
  cases parameter with
  | none => simpa [orThisMonth] using hnone
  | some n => simpa [orThisMonth] using hsome n rfl

theorem orThisMonth_of_notes_ne_nil (h : (orThisMonth parameter window note).notes ≠ []) :
    orThisMonth parameter window note = ⟨.thisMonth, [note]⟩ := by
  cases parameter with
  | none => rfl
  | some n => exact absurd rfl h

end OrThisMonth

section Bounds

variable {filter : TimeFilter} {today other : Date}

theorem resolveBound_eq (bound : RangeBound) (given : Option String) (today : Date) :
    resolveBound bound given today =
      (boundDate? given today,
        if isUnreadable given then [.unreadableBound bound today] else []) := by
  cases given with
  | none => rfl
  | some text =>
      cases hdate : Calendar.parseDate? text <;>
        simp [resolveBound, Calendar.sanitize, boundDate?, isUnreadable, hdate]

/-- A range keeps exactly the bounds that are given. -/
theorem resolveCustom_eq (today : Date) (h : filter.dateFrom ≠ none ∨ filter.dateTo ≠ none) :
    ∃ range : DateRange,
      filter.resolveCustom today =
        ⟨.custom range, filter.unreadableBounds.map (.unreadableBound · today)⟩ ∧
      range.first? = boundDate? filter.dateFrom today ∧
      range.last? = boundDate? filter.dateTo today := by
  have hnotes : filter.unreadableBounds.map (WindowNote.unreadableBound · today) =
      (if isUnreadable filter.dateFrom then [.unreadableBound .dateFrom today] else []) ++
        (if isUnreadable filter.dateTo then [.unreadableBound .dateTo today] else []) := by
    simp only [unreadableBounds, List.map_append, apply_ite (List.map _), List.map_cons,
      List.map_nil]
  simp only [resolveCustom, resolveBound_eq, hnotes]
  cases hfirst : filter.dateFrom with
  | some first =>
      cases hlast : filter.dateTo with
      | some last => exact ⟨.between _ _, rfl, rfl, rfl⟩
      | none => exact ⟨.since _, rfl, rfl, rfl⟩
  | none =>
      cases hlast : filter.dateTo with
      | some last => exact ⟨.until _, rfl, rfl, rfl⟩
      | none => simp_all

theorem resolveCustom_of_none (hfirst : filter.dateFrom = none) (hlast : filter.dateTo = none) :
    filter.resolveCustom today = ⟨.thisMonth, [.emptyRange]⟩ := by
  simp [resolveCustom, resolveBound, hfirst, hlast]

/-- A bound is the day that it writes exactly when it can be read. -/
theorem map_parseDate?_eq_iff {given : Option String} :
    given.map Calendar.parseDate? = (boundDate? given today).map some ↔
      isUnreadable given = false := by
  cases given with
  | none => simp [boundDate?, isUnreadable]
  | some text => cases hdate : Calendar.parseDate? text <;> simp [boundDate?, isUnreadable, hdate]

theorem boundDate?_congr {given : Option String} (h : isUnreadable given = false)
    (today other : Date) : boundDate? given today = boundDate? given other := by
  cases given with
  | none => rfl
  | some text =>
      cases hdate : Calendar.parseDate? text with
      | none => simp [isUnreadable, hdate] at h
      | some date => simp [boundDate?, hdate]

theorem unreadableBounds_eq_nil_iff : filter.unreadableBounds = [] ↔
    isUnreadable filter.dateFrom = false ∧ isUnreadable filter.dateTo = false := by
  simp [unreadableBounds]

/-- Where both bounds can be read, the range is the same one on every day. -/
theorem resolveCustom_congr_day (h : filter.unreadableBounds = []) (today other : Date) :
    filter.resolveCustom today = filter.resolveCustom other := by
  obtain ⟨hfirst, hlast⟩ := unreadableBounds_eq_nil_iff.mp h
  simp only [resolveCustom, resolveBound_eq, hfirst, hlast, boundDate?_congr hfirst today other,
    boundDate?_congr hlast today other, Bool.false_eq_true, ↓reduceIte]

end Bounds

section Resolve

variable {filter : TimeFilter} {today other : Date}

theorem notes_resolveCustom_eq_nil_iff (hkind : filter.kind = .custom) :
    (filter.resolveCustom today).notes = [] ↔
      filter.AsksFor (filter.resolveCustom today).window := by
  by_cases hgiven : filter.dateFrom ≠ none ∨ filter.dateTo ≠ none
  · obtain ⟨range, hrange, hfirst, hlast⟩ := resolveCustom_eq today hgiven
    simp only [hrange, AsksFor, hkind, hfirst, hlast, map_parseDate?_eq_iff, true_and,
      List.map_eq_nil_iff, unreadableBounds_eq_nil_iff]
  · obtain ⟨hfirst, hlast⟩ := not_or.mp hgiven
    simp [resolveCustom_of_none (not_not.mp hfirst) (not_not.mp hlast), AsksFor, hkind]

/-- Nothing is noted exactly when the window is the one that is asked for. -/
theorem notes_resolve_eq_nil_iff (filter : TimeFilter) (today : Date) :
    (filter.resolve today).notes = [] ↔ filter.AsksFor (filter.resolve today).window := by
  unfold resolve
  cases hkind : filter.kind with
  | thisYearMonth | lastYearMonth | lastNDays | lastNMonths =>
      exact notes_orThisMonth_eq_nil_iff (by simp [AsksFor, hkind])
        fun n hn => ⟨hkind, inRange?_eq_some_iff.mp hn⟩
  | custom => exact notes_resolveCustom_eq_nil_iff hkind
  | thisMonth | lastMonth | thisYear | lastYear | thisQuarter | today | thisWeek =>
      simp [AsksFor, hkind]

/-- Without a bound, the current month stands in for whatever is noted. -/
theorem resolve_of_notes_ne_nil
    (hbounds : filter.kind = .custom → filter.dateFrom = none ∧ filter.dateTo = none)
    (h : (filter.resolve today).notes ≠ []) :
    ∃ note, filter.kind.complaint? = some note ∧
      filter.resolve today = ⟨.thisMonth, [note]⟩ := by
  unfold resolve at h ⊢
  cases hkind : filter.kind with
  | thisYearMonth | lastYearMonth | lastNDays | lastNMonths =>
      rw [hkind] at h
      exact ⟨_, rfl, orThisMonth_of_notes_ne_nil h⟩
  | custom =>
      obtain ⟨hfirst, hlast⟩ := hbounds hkind
      exact ⟨_, rfl, resolveCustom_of_none hfirst hlast⟩
  | thisMonth | lastMonth | thisYear | lastYear | thisQuarter | today | thisWeek =>
      simp [hkind] at h

/-- The day matters to no kind but a range with a bound that cannot be read. -/
theorem resolve_congr_day (h : filter.kind = .custom → filter.unreadableBounds = [])
    (today other : Date) : filter.resolve today = filter.resolve other := by
  unfold resolve
  cases hkind : filter.kind with
  | custom => exact resolveCustom_congr_day (h hkind) today other
  | _ => rfl

end Resolve

end TimeFilter

namespace Compilation

variable {settings : Settings} {access : Access} {intent : Intent} {today other : Date}

/-- A compilation looks at the day only to resolve the time filter. -/
theorem run_congr_day
    (h : ∀ filter, intent.timeFilter = some filter → filter.resolve today = filter.resolve other) :
    run settings access intent today = run settings access intent other := by
  -- The columns, the other conditions and the order are made without the day.
  have htime : ∀ table, timeConditions settings access table today intent.timeFilter =
      timeConditions settings access table other intent.timeFilter := by
    intro table
    cases hfilter : intent.timeFilter with
    | none => rfl
    | some filter => simp only [timeConditions, h filter hfilter]
  simp only [run, conditions, htime]

end Compilation

/-- A filter is resolved without a note exactly when the window is of its kind with its
parameters.  Without a bound, a note comes with the current month in place of the window.  A range
keeps the bounds that are given; the current date stands in for one that cannot be read, which is
noted once.  Where no bound is such, two days give the same window and the same compilation. -/
theorem time_windows_faithful (filter : TimeFilter) (today : Date) :
    ((filter.resolve today).notes = [] ↔ filter.AsksFor (filter.resolve today).window) ∧
    ((filter.kind = .custom → filter.dateFrom = none ∧ filter.dateTo = none) →
      (filter.resolve today).notes ≠ [] →
      ∃ note, filter.kind.complaint? = some note ∧
        filter.resolve today = ⟨.thisMonth, [note]⟩) ∧
    (filter.kind = .custom → filter.dateFrom ≠ none ∨ filter.dateTo ≠ none →
      ∃ range : DateRange,
        filter.resolve today =
          ⟨.custom range, filter.unreadableBounds.map (.unreadableBound · today)⟩ ∧
        range.first? = TimeFilter.boundDate? filter.dateFrom today ∧
        range.last? = TimeFilter.boundDate? filter.dateTo today) ∧
    ((filter.kind = .custom → filter.unreadableBounds = []) →
      ∀ other : Date, filter.resolve today = filter.resolve other ∧
        ∀ settings access (intent : Intent), intent.timeFilter = some filter →
          compileOn settings access intent today = compileOn settings access intent other ∧
          compileEvents settings access intent today =
            compileEvents settings access intent other) := by
  refine ⟨filter.notes_resolve_eq_nil_iff today, TimeFilter.resolve_of_notes_ne_nil, ?_, ?_⟩
  · intro hkind hgiven
    rw [TimeFilter.resolve, hkind]
    exact TimeFilter.resolveCustom_eq today hgiven
  · intro hreadable other
    have hresolve := TimeFilter.resolve_congr_day hreadable today other
    refine ⟨hresolve, fun settings access intent hfilter => ?_⟩
    have hrun : Compilation.run settings access intent today =
        Compilation.run settings access intent other :=
      Compilation.run_congr_day fun found hfound => by
        cases hfilter.symm.trans hfound
        exact hresolve
    exact ⟨by rw [compileOn, compileOn, hrun], by rw [compileEvents, compileEvents, hrun]⟩

def Sample.thirteenthMonth : TimeFilter where
  kind := .thisYearMonth
  month := some 13

/-- A range whose first bound is no day of the calendar. -/
def Sample.spoiltRange : TimeFilter where
  kind := .custom
  dateFrom := some "2024-02-30"
  dateTo := some "2024-03-01"

/-- A range with one bound, which can be read. -/
def Sample.openRange : TimeFilter where
  kind := .custom
  dateTo := some "2024-03-01"

theorem time_windows_faithful_ranges :
    Sample.thirteenthMonth.resolve Sample.day =
      ⟨.thisMonth, [.missingMonth .thisYearMonth]⟩ ∧
    (∃ range : DateRange,
      Sample.spoiltRange.resolve Sample.day =
        ⟨.custom range, [.unreadableBound .dateFrom Sample.day]⟩ ∧
      range.first? = some Sample.day ∧ range.last? = some ⟨2024, 3, 1, by decide⟩) ∧
    compileOn {} ⟨Sample.port, Sample.caller⟩
        { Sample.intent with timeFilter := some Sample.openRange } Sample.day =
      compileOn {} ⟨Sample.port, Sample.caller⟩
        { Sample.intent with timeFilter := some Sample.openRange } ⟨2025, 11, 20, by decide⟩ := by
  obtain ⟨-, hnoted, -, -⟩ := time_windows_faithful Sample.thirteenthMonth Sample.day
  obtain ⟨-, -, hspoilt, -⟩ := time_windows_faithful Sample.spoiltRange Sample.day
  obtain ⟨-, -, -, hopen⟩ := time_windows_faithful Sample.openRange Sample.day
  refine ⟨?_, ?_, ?_⟩
  · obtain ⟨note, hnote, hresolve⟩ := hnoted (by decide) (by decide)
    cases hnote
    exact hresolve
  · obtain ⟨range, hresolve, hfirst, hlast⟩ := hspoilt rfl (by decide)
    have hbounds : Sample.spoiltRange.unreadableBounds = [.dateFrom] := by decide +kernel
    rw [hbounds] at hresolve
    exact ⟨range, hresolve, hfirst.trans (by decide +kernel), hlast.trans (by decide +kernel)⟩
  · exact ((hopen (by decide +kernel) ⟨2025, 11, 20, by decide⟩).2 _ _ _ rfl).1

end TenantQuery
