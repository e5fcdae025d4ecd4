import TenantQuery.Identifier
import TenantQuery.Json.Value
import TenantQuery.Vocabulary
/-!
A query intent: what a request asks for, in the words of the request.

Nothing in an intent is trusted.  Its texts are as they came, and each is checked where a
statement is made of it.
-/

namespace TenantQuery

/-- An aggregated column that a request asks for. -/
structure Metric where
  field : String := ""
  aggregate : Aggregate := .sum
  outputName : Option String := none
deriving DecidableEq

/-- A grouping column, by whole values or by units of time. -/
structure Dimension where
  field : String := ""
  granularity : Option Granularity := none
  outputName : Option String := none
deriving DecidableEq

/-- The output name of a metric that does not bring one: the aggregate and the column. -/
def Metric.defaultName (metric : Metric) : String :=
  Vocabulary.name metric.aggregate ++ "_" ++ Identifier.canonical metric.field

/-- The output name of a dimension that does not bring one: the column. -/
def Dimension.defaultName (dimension : Dimension) : String :=
  Identifier.canonical dimension.field

/-- The time window that a request asks for.  Only the parameters that its kind needs count. -/
structure TimeFilter where
  kind : WindowKind := .thisMonth
  month : Option Int := none
  n : Option Int := none
  dateFrom : Option String := none
  dateTo : Option String := none
  /-- The date column; without one the configured column is meant. -/
  dateField : Option String := none
deriving DecidableEq

structure Filter where
  field : String := ""
  operator : FilterOperator := .eq
  value : Option Json := none

/-- A sort key: an output name or the column behind one. -/
structure OrderSpec where
  field : String := ""
  direction : SortDirection := .asc
deriving DecidableEq

structure Intent where
  /-- A label for people to read. -/
  queryType : String := "sales_summary"
  table : String := ""
  metrics : List Metric := []
  dimensions : List Dimension := []
  timeFilter : Option TimeFilter := none
  filters : List Filter := []
  orderBy : List OrderSpec := []
  limit : Option Int := none
  chartType : ChartType := .bar
  chartTitle : Option String := none
  explanation : Option String := none

end TenantQuery
