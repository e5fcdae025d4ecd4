import TenantQuery.Chart
import TenantQuery.Proofs.Grouping
/-!
The axes of a chart name columns that come out, each of them another one.

Hints are made from the result alone, in which nothing is left of a column but its name and kind.
Since dimensions stand in front of metrics and no two columns share a name, this is enough: the
horizontal axis is the first column where a dimension survives, and the vertical one has the
metrics in their order.
-/

namespace TenantQuery

open Sql Compilation Identifier

/-- The axes are named by the columns of a select list in which dimensions stand in front of
metrics. -/
structure ChartHints.DrawnFrom (hints : ChartHints) (dimensions metrics : List Column) : Prop where
  xAxis : hints.xAxis = dimensions.head?.map Column.outputName
  yAxis : hints.yAxis = metrics.map Column.outputName
  distinct : (hints.xAxis.toList ++ hints.yAxis).Nodup
  nonempty : hints.xAxis.toList ++ hints.yAxis ≠ []

/-- Hints are for a successful result, and their axes have its names. -/
theorem ChartHints.of_of?_eq_some {intent : Intent} {result : CompileResult} {question : String}
    {hints : ChartHints} (h : ChartHints.of? intent result question = some hints) :
    result.success ∧ hints.xAxis = (result.outputNames .dimension).head? ∧
      hints.yAxis = result.outputNames .metric := by
  unfold ChartHints.of? at h
  obtain ⟨hsuccess, hdrawn⟩ := Option.ite_none_right_eq_some.mp h
  obtain rfl := Option.some_inj.mp hdrawn
  exact ⟨hsuccess, rfl, rfl⟩

section Axes

variable {dimensions metrics : List Column}

/-- The names of either kind are those of the columns of that kind. -/
theorem CompileResult.outputNames_eq {result : CompileResult}
    (hcolumns : result.columns = (dimensions ++ metrics).map .ofColumn)
    (hdimensions : ∀ column ∈ dimensions, column.isDimension)
    (hmetrics : ∀ column ∈ metrics, column.isDimension = false) :
    result.outputNames .dimension = dimensions.map Column.outputName ∧
      result.outputNames .metric = metrics.map Column.outputName := by
  have hnames : OutputColumn.name ∘ OutputColumn.ofColumn = Column.outputName := rfl
  have hkept : dimensions.filter Column.isDimension = dimensions :=
    List.filter_eq_self.mpr hdimensions
  have hother : metrics.filter Column.isDimension = [] :=
    List.filter_eq_nil_iff.mpr (by simpa using hmetrics)
  have hgone : dimensions.filter (!·.isDimension) = [] :=
    List.filter_eq_nil_iff.mpr (by simpa using hdimensions)
  have hleft : metrics.filter (!·.isDimension) = metrics :=
    List.filter_eq_self.mpr (by simpa using hmetrics)
  simp only [CompileResult.outputNames, hcolumns, List.filter_map, List.map_map, hnames,
    Function.comp_def, Column.kind_eq_dimension, Column.kind_eq_metric, List.filter_append, hkept,
    hother, hgone, hleft, List.append_nil, List.nil_append, and_self]

/-- Axes that are named by the first dimension and by all metrics tell their columns apart. -/
theorem ChartHints.drawnFrom {hints : ChartHints}
    (hx : hints.xAxis = (dimensions.map Column.outputName).head?)
    (hy : hints.yAxis = metrics.map Column.outputName)
    (hnodup : ((dimensions ++ metrics).map Column.outputName).Nodup)
    (hsome : dimensions ++ metrics ≠ []) : hints.DrawnFrom dimensions metrics := by
  have hsublist : (hints.xAxis.toList ++ hints.yAxis).Sublist
      ((dimensions ++ metrics).map Column.outputName) := by
    rw [List.map_append, hx, hy]
    refine List.Sublist.append ?_ (List.Sublist.refl _)
    cases dimensions with
    | nil => exact List.Sublist.refl _
    | cons column rest => simp
  refine ⟨hx.trans List.head?_map, hy, hnodup.sublist hsublist, ?_⟩
  rw [hx, hy]
  cases dimensions with
  | nil => simpa using hsome
  | cons column rest => simp

end Axes

/-- A dimension comes out where one of those requested is over a field that the caller may name. -/
theorem Compilation.Survivors.dimensions_ne_nil_iff {access : Access} {table : String}
    {intent : Intent} {dimensions metrics : List Column}
    (h : Survivors access table intent dimensions metrics) :
    dimensions ≠ [] ↔ ∃ dimension ∈ intent.dimensions, admits access table dimension.field := by
  have hnil : dimensions = [] ↔ intent.dimensions.filter (admits access table ·.field) = [] := by
    rw [← List.map_eq_nil_iff, h.dimensions, List.map_eq_nil_iff]
  rw [ne_eq, hnil, List.filter_eq_nil_iff]
  push Not
  rfl

/-- Hints exist for a result that has a statement, and only then.  Their axes are named by columns
of the select list: the first one if it is a dimension, which it is where a dimension survives, and
the metrics that survive, in their order.  No name stands twice, and there is one at least. -/
theorem axes_name_columns (settings : Settings) (access : Access) (intent : Intent) (today : Date)
    (question : String) :
    ((ChartHints.of? intent (compileOn settings access intent today) question).isSome ↔
      (compileOn settings access intent today).success) ∧
    ∀ hints, ChartHints.of? intent (compileOn settings access intent today) question =
        some hints →
      ∃ (table : String) (statement : Statement) (dimensions metrics : List Column),
        resolveTable? settings intent.table = some table ∧
        (run settings access intent today).outcome = .ok statement ∧
        (compileOn settings access intent today).WrittenAs statement.clauseTexts ∧
        (compileOn settings access intent today).columns =
          statement.columns.map OutputColumn.ofColumn ∧
        statement.columns = dimensions ++ metrics ∧
        Survivors access table intent dimensions metrics ∧
        hints.DrawnFrom dimensions metrics ∧
        (hints.xAxis.isSome ↔ ∃ dimension ∈ intent.dimensions,
          admits access table dimension.field) ∧
        ∀ name, hints.xAxis = some name →
          (compileOn settings access intent today).columns.head? = some ⟨name, .dimension⟩ := by
  refine ⟨?_, ?_⟩
  · unfold ChartHints.of?
    cases (compileOn settings access intent today).success <;> simp
  · intro hints hhints
    obtain ⟨hsuccess, hx, hy⟩ := ChartHints.of_of?_eq_some hhints
    obtain ⟨table, hadmitted⟩ := success_iff.mp hsuccess
    obtain ⟨dimensions, metrics, hsurvivors⟩ := exists_survivors access table intent
    have hcolumns := columns_of_admitted hadmitted today
    have hnodup : ((selectColumns access table [] (columnRequests intent)).1.map
        Column.outputName).Nodup := nodup_outputNames (columnRequests intent) []
    have hsome := hadmitted.columns
    rw [hsurvivors.split] at hcolumns hnodup hsome
    obtain ⟨hdimensions, hmetrics⟩ := CompileResult.outputNames_eq hcolumns
      hsurvivors.isDimension hsurvivors.not_isDimension
    rw [hdimensions] at hx
    rw [hmetrics] at hy
    have haxes := ChartHints.drawnFrom hx hy hnodup hsome
    refine ⟨table, statementOver settings access table intent today, dimensions, metrics,
      hadmitted.resolved, by rw [run_of_admitted hadmitted today],
      writtenAs_of_admitted hadmitted today, columns_of_admitted hadmitted today, hsurvivors.split,
      hsurvivors, haxes, ?_, ?_⟩
    · rw [← hsurvivors.dimensions_ne_nil_iff, haxes.xAxis, Option.isSome_map, List.isSome_head?]
    · intro name hname
      rw [haxes.xAxis] at hname
      obtain ⟨column, hfirst, rfl⟩ := Option.map_eq_some_iff.mp hname
      obtain ⟨rest, rfl⟩ := List.head?_eq_some_iff.mp hfirst
      rw [hcolumns]
      simp [OutputColumn.ofColumn, hsurvivors.isDimension column List.mem_cons_self]

/-- The first dimension that survives is on the horizontal axis, under the name that was asked
for. -/
theorem axes_name_columns_mixed :
    ∃ hints, ChartHints.of? Sample.mixed
        (compileOn {} ⟨Sample.port, Sample.caller⟩ Sample.mixed Sample.day) "Which area?" =
          some hints ∧
      hints.xAxis = some "area" ∧ hints.yAxis = ["sum_amount"] ∧
      ∃ dimensions metrics,
        Survivors ⟨Sample.port, Sample.caller⟩ "orders" Sample.mixed dimensions metrics ∧
        hints.DrawnFrom dimensions metrics := by
  obtain ⟨hexists, hdrawn⟩ := axes_name_columns {} ⟨Sample.port, Sample.caller⟩ Sample.mixed
    Sample.day "Which area?"
  have hsuccess :
      (compileOn {} ⟨Sample.port, Sample.caller⟩ Sample.mixed Sample.day).success := by
    decide
  obtain ⟨hints, hhints⟩ := Option.isSome_iff_exists.mp (hexists.mpr hsuccess)
  obtain ⟨table, -, dimensions, metrics, htable, -, -, -, -, hsurvivors, haxes, -, -⟩ :=
    hdrawn hints hhints
  obtain rfl : "orders" = table := Option.some_inj.mp htable
  have hnames : (ChartHints.of? Sample.mixed (compileOn {} ⟨Sample.port, Sample.caller⟩
      Sample.mixed Sample.day) "Which area?").map (fun hints => (hints.xAxis, hints.yAxis)) =
        some (some "area", ["sum_amount"]) := by
    decide +kernel
  rw [hhints, Option.map_some, Option.some_inj, Prod.mk.injEq] at hnames
  exact ⟨hints, hhints, hnames.1, hnames.2, dimensions, metrics, hsurvivors, haxes⟩

end TenantQuery
