import TenantQuery.Calendar.Reading
import TenantQuery.Intent.Basic
import TenantQuery.Sql.Literal
/-!
Time windows: what a time filter means, and the condition it puts on a date column.

A window holds exactly the parameters that its kind needs.  A filter that lacks them resolves to
the current month, and a bound that is no date is replaced by the current date; every such
replacement leaves a note.  "Now" in a condition is always the current date of the database.
-/

namespace TenantQuery

/-- A range of days with at least one bound; bounds belong to the range. -/
inductive DateRange where
  | since (first : Date)
  | until (last : Date)
  | between (first last : Date)
deriving DecidableEq

/-- A time window with the parameters that it needs. -/
inductive TimeWindow where
  | thisMonth
  | lastMonth
  | thisYear
  | lastYear
  | thisYearMonth (month : Nat)
  | lastYearMonth (month : Nat)
  | lastNDays (n : Nat)
  | lastNMonths (n : Nat)
  | thisQuarter
  | today
  | thisWeek
  | custom (range : DateRange)
deriving DecidableEq

/-- The bounds of a custom range, by the field that gives them. -/
inductive RangeBound where
  | dateFrom | dateTo
deriving DecidableEq

/-- The field that gives a bound. -/
def RangeBound.name : RangeBound → String
  | .dateFrom => "dateFrom"
  | .dateTo => "dateTo"

/-- Why a time filter was not taken at its word. -/
inductive WindowNote where
  /-- The kind needs a month from 1 to 12. -/
  | missingMonth (kind : WindowKind)
  /-- The kind needs a positive count. -/
  | missingCount (kind : WindowKind)
  /-- A custom range needs a bound. -/
  | emptyRange
  /-- A bound is no date, and this date stands in. -/
  | unreadableBound (bound : RangeBound) (substitute : Date)
deriving DecidableEq

/-- The largest count: interval fields of the database have 32 bits with a sign. -/
def maxCount : Nat := Nat.pow 2 31 - 1

def WindowNote.message : WindowNote → String
  | .missingMonth kind =>
    "time filter '" ++ Vocabulary.name kind ++
      "' requires a month between 1 and 12; using this_month instead"
  | .missingCount kind =>
    "time filter '" ++ Vocabulary.name kind ++ "' requires n between 1 and " ++
      toString maxCount ++ "; using this_month instead"
  | .emptyRange =>
    "custom time filter has neither dateFrom nor dateTo; using this_month instead"
  | .unreadableBound bound substitute =>
    "custom time filter " ++ bound.name ++ " is not a valid date; using " ++
      substitute.iso ++ " instead"

/-- A window and the notes on the way to it. -/
structure ResolvedWindow where
  window : TimeWindow
  notes : List WindowNote
deriving DecidableEq

namespace TimeFilter

/-- A parameter, when it is there and lies between 1 and a bound. -/
def inRange? (bound : Nat) (value : Option Int) : Option Nat :=
  match value with
  | some n => if 1 ≤ n ∧ n ≤ bound then some n.toNat else none
  | none => none

/-- The window of a parameter, or the current month with a note where it is missing. -/
def orThisMonth (parameter : Option Nat) (window : Nat → TimeWindow) (note : WindowNote) :
    ResolvedWindow :=
  match parameter with
  | some n => ⟨window n, []⟩
  | none => ⟨.thisMonth, [note]⟩

/-- A bound of a custom range, when it is given. -/
def resolveBound (bound : RangeBound) (given : Option String) (today : Date) :
    Option Date × List WindowNote :=
  match given with
  | none => (none, [])
  | some text =>
    let sanitized := Calendar.sanitize text today
    (some sanitized.date, if sanitized.substituted then [.unreadableBound bound today] else [])

def resolveCustom (filter : TimeFilter) (today : Date) : ResolvedWindow :=
  let (first, firstNotes) := resolveBound .dateFrom filter.dateFrom today
  let (last, lastNotes) := resolveBound .dateTo filter.dateTo today
  let notes := firstNotes ++ lastNotes
  match first, last with
  | some first, some last => ⟨.custom (.between first last), notes⟩
  | some first, none => ⟨.custom (.since first), notes⟩
  | none, some last => ⟨.custom (.until last), notes⟩
  | none, none => ⟨.thisMonth, [.emptyRange]⟩

def resolve (filter : TimeFilter) (today : Date) : ResolvedWindow :=
  match filter.kind with
  | .thisMonth => ⟨.thisMonth, []⟩
  | .lastMonth => ⟨.lastMonth, []⟩
  | .thisYear => ⟨.thisYear, []⟩
  | .lastYear => ⟨.lastYear, []⟩
  | .thisYearMonth =>
    orThisMonth (inRange? 12 filter.month) .thisYearMonth (.missingMonth filter.kind)
  | .lastYearMonth =>
    orThisMonth (inRange? 12 filter.month) .lastYearMonth (.missingMonth filter.kind)
  | .lastNDays => orThisMonth (inRange? maxCount filter.n) .lastNDays (.missingCount filter.kind)
  | .lastNMonths =>
    orThisMonth (inRange? maxCount filter.n) .lastNMonths (.missingCount filter.kind)
  | .thisQuarter => ⟨.thisQuarter, []⟩
  | .today => ⟨.today, []⟩
  | .thisWeek => ⟨.thisWeek, []⟩
  | .custom => resolveCustom filter today

end TimeFilter

namespace TimeWindow

/-- A column and the current date agree when both are truncated to a unit. -/
def sameUnit (unit field : String) : String :=
  "DATE_TRUNC('" ++ unit ++ "', " ++ field ++ ") = DATE_TRUNC('" ++ unit ++ "', CURRENT_DATE)"

def sameYear (field : String) : String :=
  "EXTRACT(YEAR FROM " ++ field ++ ") = EXTRACT(YEAR FROM CURRENT_DATE)"

def monthIs (field : String) (month : Nat) : String :=
  "EXTRACT(MONTH FROM " ++ field ++ ") = " ++ toString month

def render (field : String) : TimeWindow → String
  | .thisMonth => sameUnit "month" field
  | .lastMonth =>
    "DATE_TRUNC('month', " ++ field ++
      ") = DATE_TRUNC('month', CURRENT_DATE - INTERVAL '1 month')"
  | .thisYear => sameYear field
  | .lastYear => sameYear field ++ " - 1"
  | .thisYearMonth month => sameYear field ++ " AND " ++ monthIs field month
  | .lastYearMonth month => sameYear field ++ " - 1 AND " ++ monthIs field month
  | .lastNDays n => field ++ " >= CURRENT_DATE - INTERVAL '" ++ toString n ++ " days'"
  | .lastNMonths n =>
    field ++ " >= DATE_TRUNC('month', CURRENT_DATE - INTERVAL '" ++ toString n ++ " months')"
  | .thisQuarter => sameUnit "quarter" field
  | .today => field ++ " = CURRENT_DATE"
  | .thisWeek => sameUnit "week" field
  | .custom (.since first) => field ++ " >= " ++ Sql.dateLiteral first
  | .custom (.until last) => field ++ " <= " ++ Sql.dateLiteral last
  | .custom (.between first last) =>
    field ++ " >= " ++ Sql.dateLiteral first ++ " AND " ++ field ++ " <= " ++
      Sql.dateLiteral last

end TimeWindow

end TenantQuery
