import TenantQuery.Text.Blank
import TenantQuery.Text.Case
/-!
The closed vocabularies of a request.

Each vocabulary lists the words that name its members; several words may name one member, and
`name` is the word written back.  Reading is strict: the trimmed text, in lower case, is one of
the words or nothing at all.  Where requests are read leniently the fallback member stands in.
-/

namespace TenantQuery

/-- A closed set of named members. -/
class Vocabulary (α : Type) where
  /-- What the vocabulary is called in a message. -/
  title : String
  /-- The member that stands in for an unreadable value. -/
  fallback : α
  /-- The word written for a member. -/
  name : α → String
  /-- Every word that is read, with its member. -/
  words : List (String × α)

namespace Vocabulary

variable {α : Type} [Vocabulary α]

/-- The member that the text names. -/
def read? (text : String) : Option α :=
  (words : List (String × α)).lookup (Text.lower (Text.trim text))

end Vocabulary

/-- A text that names no member of the vocabulary. -/
structure UnknownWord where
  vocabulary : String
  input : String
deriving DecidableEq

/-- The report quotes the text as it was given. -/
def UnknownWord.message (unknown : UnknownWord) : String :=
  s!"Unknown {unknown.vocabulary} '{unknown.input}'"

/-- The member that the text names, or the report that it names none. -/
def Vocabulary.read (α : Type) [Vocabulary α] (text : String) : Except UnknownWord α :=
  match Vocabulary.read? text with
  | some member => .ok member
  | none => .error ⟨Vocabulary.title α, text⟩

inductive Aggregate where
  | sum | count | countDistinct | avg | max | min
deriving DecidableEq

namespace Aggregate

instance : Vocabulary Aggregate where
  title := "aggregate"
  fallback := .sum
  name
    | .sum => "sum"
    | .count => "count"
    | .countDistinct => "count_distinct"
    | .avg => "avg"
    | .max => "max"
    | .min => "min"
  words :=
    [("sum", .sum), ("count", .count),
     ("count_distinct", .countDistinct), ("countdistinct", .countDistinct),
     ("distinct_count", .countDistinct),
     ("avg", .avg), ("average", .avg), ("max", .max), ("maximum", .max),
     ("min", .min), ("minimum", .min)]

def apply (aggregate : Aggregate) (field : String) : String :=
  match aggregate with
  | .sum => "SUM(" ++ field ++ ")"
  | .count => "COUNT(" ++ field ++ ")"
  | .countDistinct => "COUNT(DISTINCT " ++ field ++ ")"
  | .avg => "AVG(" ++ field ++ ")"
  | .max => "MAX(" ++ field ++ ")"
  | .min => "MIN(" ++ field ++ ")"

end Aggregate

/-- The unit to which a date column is truncated. -/
inductive Granularity where
  | day | week | month | quarter | year
deriving DecidableEq

namespace Granularity

def unit : Granularity → String
  | .day => "day"
  | .week => "week"
  | .month => "month"
  | .quarter => "quarter"
  | .year => "year"

instance : Vocabulary Granularity where
  title := "granularity"
  fallback := .day
  name := unit
  words :=
    [("day", .day), ("daily", .day), ("week", .week), ("weekly", .week),
     ("month", .month), ("monthly", .month), ("quarter", .quarter),
     ("quarterly", .quarter), ("year", .year), ("yearly", .year)]

end Granularity

inductive WindowKind where
  | thisMonth | lastMonth | thisYear | lastYear | thisYearMonth | lastYearMonth
  | lastNDays | lastNMonths | thisQuarter | today | thisWeek | custom
deriving DecidableEq

instance : Vocabulary WindowKind where
  title := "time filter type"
  fallback := .thisMonth
  name
    | .thisMonth => "this_month"
    | .lastMonth => "last_month"
    | .thisYear => "this_year"
    | .lastYear => "last_year"
    | .thisYearMonth => "this_year_month"
    | .lastYearMonth => "last_year_month"
    | .lastNDays => "last_n_days"
    | .lastNMonths => "last_n_months"
    | .thisQuarter => "this_quarter"
    | .today => "today"
    | .thisWeek => "this_week"
    | .custom => "custom"
  words :=
    [("this_month", .thisMonth), ("last_month", .lastMonth), ("this_year", .thisYear),
     ("last_year", .lastYear), ("this_year_month", .thisYearMonth),
     ("last_year_month", .lastYearMonth), ("last_n_days", .lastNDays),
     ("last_n_months", .lastNMonths), ("this_quarter", .thisQuarter), ("today", .today),
     ("this_week", .thisWeek), ("custom", .custom)]

inductive FilterOperator where
  | eq | neq | gt | gte | lt | lte | like | startsWith | endsWith | isIn | notIn
  | isNull | isNotNull
deriving DecidableEq

namespace FilterOperator

instance : Vocabulary FilterOperator where
  title := "filter operator"
  fallback := .eq
  name
    | .eq => "eq"
    | .neq => "neq"
    | .gt => "gt"
    | .gte => "gte"
    | .lt => "lt"
    | .lte => "lte"
    | .like => "like"
    | .startsWith => "starts_with"
    | .endsWith => "ends_with"
    | .isIn => "in"
    | .notIn => "not_in"
    | .isNull => "is_null"
    | .isNotNull => "is_not_null"
  words :=
    [("eq", .eq), ("=", .eq), ("neq", .neq), ("ne", .neq), ("!=", .neq), ("<>", .neq),
     ("gt", .gt), (">", .gt), ("gte", .gte), (">=", .gte), ("lt", .lt), ("<", .lt),
     ("lte", .lte), ("<=", .lte), ("like", .like), ("contains", .like),
     ("starts_with", .startsWith), ("ends_with", .endsWith), ("in", .isIn),
     ("not_in", .notIn), ("is_null", .isNull), ("is_not_null", .isNotNull)]

/-- Every operator but the two null checks compares with a value. -/
def requiresValue : FilterOperator → Bool
  | .isNull | .isNotNull => false
  | _ => true

end FilterOperator

inductive SortDirection where
  | asc | desc
deriving DecidableEq

namespace SortDirection

instance : Vocabulary SortDirection where
  title := "sort direction"
  fallback := .asc
  name
    | .asc => "asc"
    | .desc => "desc"
  words := [("asc", .asc), ("ascending", .asc), ("desc", .desc), ("descending", .desc)]

def keyword : SortDirection → String
  | .asc => "ASC"
  | .desc => "DESC"

end SortDirection

inductive ChartType where
  | line | bar | pie | table
deriving DecidableEq

instance : Vocabulary ChartType where
  title := "chart type"
  fallback := .bar
  name
    | .line => "line"
    | .bar => "bar"
    | .pie => "pie"
    | .table => "table"
  words := [("line", .line), ("bar", .bar), ("pie", .pie), ("table", .table)]

end TenantQuery
