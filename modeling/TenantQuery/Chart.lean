import TenantQuery.Compilation.Result
import TenantQuery.Intent.Basic
/-!
How the rows of a statement may be drawn.

Hints are made from a successful result only, so every axis names a column that is there.
-/

namespace TenantQuery

/-- What to draw, and which columns go on which axis. -/
structure ChartHints where
  chartType : ChartType
  title : String
  /-- The output name of the first dimension. -/
  xAxis : Option String
  /-- The output names of all metrics. -/
  yAxis : List String
deriving DecidableEq

namespace ChartHints

/-- The hints for a result.  The title is that of the intent, or else the question that was
asked. -/
def of? (intent : Intent) (result : CompileResult) (question : String) : Option ChartHints :=
  if result.success then
    some
      { chartType := intent.chartType
        title := intent.chartTitle.getD (Text.trim question)
        xAxis := (result.outputNames .dimension).head?
        yAxis := result.outputNames .metric }
  else none

/-- The hints in JSON.  An absent axis is left out. -/
def json (hints : ChartHints) : Json :=
  .object
    ([("chartType", .string (Vocabulary.name hints.chartType)), ("title", .string hints.title)] ++
     (hints.xAxis.map fun axis => ("xAxis", .string axis)).toList ++
     [("yAxis", .array (hints.yAxis.map .string))])

end ChartHints

end TenantQuery
