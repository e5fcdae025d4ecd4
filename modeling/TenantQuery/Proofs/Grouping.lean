import TenantQuery.Proofs.Compilation.ClauseTexts
/-!
What is grouped by is what is selected.

Dimensions stand in front of metrics in the select list, so the keys of the GROUP BY clause are
those of the first columns, one for each dimension: the position of a truncated one, counted from
one, and the field of a plain one.  A key never means a column that was dropped, or an aggregate.
-/

namespace TenantQuery

open Sql Compilation Identifier

/-- How a column over a field is written at a position of the select list, by its shape, and the
key by which rows are grouped there. -/
inductive Sql.Groups (field name : String) (position : Nat) :
    ColumnShape → ColumnKind → String → Option String → Prop where
  | truncated (granularity : Granularity) :
      Groups field name position (.dimension (some granularity)) .dimension
        ("DATE_TRUNC('" ++ granularity.unit ++ "', " ++ field ++ ") AS " ++ name)
        (some (toString position))
  | plain (hname : name = field) :
      Groups field name position (.dimension none) .dimension field (some field)
  | renamed :
      Groups field name position (.dimension none) .dimension (field ++ " AS " ++ name) (some field)
  | metric (aggregate : Aggregate) :
      Groups field name position (.metric aggregate) .metric
        (aggregate.apply field ++ " AS " ++ name) none

/-- The requested columns that survive, in the order of the select list. -/
def Intent.survivingColumns (access : Access) (table : String) (intent : Intent) :
    List ColumnRequest :=
  (columnRequests intent).filter (admits access table ·.field)

/-- A column is written and grouped as its shape says. -/
theorem Sql.Column.groups (column : Column) (position : Nat) :
    Groups column.field column.outputName position column.shape (OutputColumn.ofColumn column).kind
      column.render (column.groupKey? position) := by
  obtain ⟨field, shape, outputName⟩ := column
  cases shape with
  | metric aggregate => exact .metric aggregate
  | dimension granularity =>
      cases granularity with
      | some granularity =>
          have hrender : (Column.mk field (.dimension (some granularity)) outputName).render =
              "DATE_TRUNC('" ++ granularity.unit ++ "', " ++ field ++ ") AS " ++ outputName := by
            simp [Column.render, Column.expression, String.append_assoc]
          rw [hrender]
          exact .truncated granularity
      | none =>
          by_cases hname : field = outputName
          · have hrender : (Column.mk field (.dimension none) outputName).render = field := by
              simp [Column.render, hname]
            rw [hrender]
            exact .plain hname.symm
          · have hrender : (Column.mk field (.dimension none) outputName).render =
                field ++ " AS " ++ outputName := by
              simp [Column.render, Column.expression, hname]
            rw [hrender]
            exact .renamed

theorem Sql.Column.kind_eq_dimension (column : Column) :
    ((OutputColumn.ofColumn column).kind == .dimension) = column.isDimension := by
  cases hcolumn : column.isDimension <;> simp [OutputColumn.ofColumn, hcolumn]

theorem Sql.Column.kind_eq_metric (column : Column) :
    ((OutputColumn.ofColumn column).kind == .metric) = !column.isDimension := by
  cases hcolumn : column.isDimension <;> simp [OutputColumn.ofColumn, hcolumn]

theorem Sql.Column.isSome_groupKey? (column : Column) (position : Nat) :
    (column.groupKey? position).isSome = column.isDimension := by
  unfold Column.groupKey? Column.isDimension
  split <;> simp_all

/-- Where dimensions stand in front, no key is moved: each stands where its column does. -/
theorem Sql.getElem?_groupKeys {dimensions metrics : List Column}
    (hdimensions : ∀ column ∈ dimensions, column.isDimension)
    (hmetrics : ∀ column ∈ metrics, column.isDimension = false) (start i : Nat) :
    (((dimensions ++ metrics).zipIdx start).filterMap fun (column, position) =>
        column.groupKey? position)[i]? =
      (dimensions ++ metrics)[i]?.bind (·.groupKey? (start + i)) := by
  have hnone : ∀ column ∈ metrics, ∀ position, column.groupKey? position = none := by
    intro column hmem position
    rw [← Option.isNone_iff_eq_none, ← Option.not_isSome, Column.isSome_groupKey?,
      hmetrics column hmem]
    rfl
  induction dimensions generalizing start i with
  | nil =>
      have hempty : ((metrics.zipIdx start).filterMap fun (column, position) =>
          column.groupKey? position) = [] := by
        apply List.filterMap_eq_nil_iff.mpr
        rintro ⟨column, position⟩ hmem
        exact hnone column (List.fst_mem_of_mem_zipIdx hmem) position
      rw [List.nil_append, hempty, List.getElem?_nil]
      cases hcolumn : metrics[i]? with
      | none => rfl
      | some column => exact (hnone column (List.mem_of_getElem? hcolumn) _).symm
  | cons column rest ih =>
      have hfirst := hdimensions column List.mem_cons_self
      rw [← column.isSome_groupKey? start, Option.isSome_iff_exists] at hfirst
      obtain ⟨key, hkey⟩ := hfirst
      have hrest := ih fun other hmem => hdimensions other (List.mem_cons_of_mem column hmem)
      simp only [List.cons_append, List.zipIdx_cons, List.filterMap_cons, hkey]
      cases i with
      | zero => simpa using hkey.symm
      | succ i =>
          rw [List.getElem?_cons_succ, List.getElem?_cons_succ, hrest (start + 1) i,
            Nat.add_right_comm, Nat.add_assoc]

namespace Compilation

variable {settings : Settings} {access : Access} {table : String} {intent : Intent} {today : Date}

/-- The columns that come out of a request: those of the dimensions that survive, in their order,
and behind them those of the metrics. -/
structure Survivors (access : Access) (table : String) (intent : Intent)
    (dimensions metrics : List Column) : Prop where
  split : (selectColumns access table [] (columnRequests intent)).1 = dimensions ++ metrics
  dimensions : dimensions.map (fun column => (column.field, column.shape)) =
    (intent.dimensions.filter (admits access table ·.field)).map fun dimension =>
      (canonical dimension.field, .dimension dimension.granularity)
  metrics : metrics.map (fun column => (column.field, column.shape)) =
    (intent.metrics.filter (admits access table ·.field)).map fun metric =>
      (canonical metric.field, .metric metric.aggregate)

theorem exists_survivors (access : Access) (table : String) (intent : Intent) :
    ∃ dimensions metrics, Survivors access table intent dimensions metrics := by
  have hpairs := map_selectColumns access table [] (columnRequests intent)
  rw [columnRequests, List.filter_append, List.map_append, List.filter_map, List.filter_map,
    List.map_map, List.map_map] at hpairs
  obtain ⟨dimensions, metrics, hsplit, hdimensions, hmetrics⟩ := List.map_eq_append_iff.mp hpairs
  exact ⟨dimensions, metrics, hsplit, hdimensions, hmetrics⟩

section Survivors

variable {dimensions metrics : List Column}

theorem Survivors.isDimension (h : Survivors access table intent dimensions metrics) :
    ∀ column ∈ dimensions, column.isDimension := by
  intro column hmem
  have hpair := List.mem_map_of_mem (f := fun column => (column.field, column.shape)) hmem
  rw [h.dimensions] at hpair
  obtain ⟨dimension, -, heq⟩ := List.mem_map.mp hpair
  obtain ⟨-, hshape⟩ := Prod.mk.inj heq
  rw [Column.isDimension, ← hshape]

theorem Survivors.not_isDimension (h : Survivors access table intent dimensions metrics) :
    ∀ column ∈ metrics, column.isDimension = false := by
  intro column hmem
  have hpair := List.mem_map_of_mem (f := fun column => (column.field, column.shape)) hmem
  rw [h.metrics] at hpair
  obtain ⟨metric, -, heq⟩ := List.mem_map.mp hpair
  obtain ⟨-, hshape⟩ := Prod.mk.inj heq
  rw [Column.isDimension, ← hshape]

end Survivors

/-- A column is there for each request that survives, at the same place. -/
theorem exists_column_of_survivingColumns {i : Nat} {request : ColumnRequest}
    (h : (intent.survivingColumns access table)[i]? = some request) :
    ∃ column, (selectColumns access table [] (columnRequests intent)).1[i]? = some column ∧
      column.field = canonical request.field ∧ column.shape = request.shape := by
  have hmap := congrArg (·[i]?) (map_selectColumns access table [] (columnRequests intent))
  simp only [List.getElem?_map] at hmap
  rw [← Intent.survivingColumns, h, Option.map_some, Option.map_eq_some_iff] at hmap
  obtain ⟨column, hcolumn, heq⟩ := hmap
  exact ⟨column, hcolumn, congrArg Prod.fst heq, congrArg Prod.snd heq⟩

/-- The keys are those of the columns at their places. -/
theorem getElem?_groupKeys_statementOver (i : Nat) :
    (statementOver settings access table intent today).groupKeys[i]? =
      (selectColumns access table [] (columnRequests intent)).1[i]?.bind
        (·.groupKey? (i + 1)) := by
  obtain ⟨dimensions, metrics, hcolumns⟩ := exists_survivors access table intent
  rw [Statement.groupKeys, statementOver, hcolumns.split,
    getElem?_groupKeys hcolumns.isDimension hcolumns.not_isDimension 1 i, Nat.add_comm 1 i]

/-- There is one key for each dimension that comes out. -/
theorem length_groupKeys (columns : List Column) :
    ((columns.zipIdx 1).filterMap fun (column, position) => column.groupKey? position).length =
      ((columns.map OutputColumn.ofColumn).filter (·.kind == .dimension)).length := by
  have hkind : ((fun output : OutputColumn => output.kind == .dimension) ∘ OutputColumn.ofColumn) =
      Column.isDimension := funext Column.kind_eq_dimension
  have hsome : (fun place : Column × Nat => (place.1.groupKey? place.2).isSome) =
      Column.isDimension ∘ Prod.fst := by
    funext place
    exact place.1.isSome_groupKey? place.2
  rw [List.length_filterMap_eq_countP, hsome, ← List.countP_map, List.zipIdx_map_fst,
    ← List.countP_eq_length_filter, List.countP_map, hkind]

/-- A key that is a number is the position of one of the dimensions. -/
theorem position_of_mem_groupKeys {n : Nat}
    (hmem : toString n ∈ (statementOver settings access table intent today).groupKeys) :
    1 ≤ n ∧ n ≤ (statementOver settings access table intent today).groupKeys.length := by
  obtain ⟨i, hi⟩ := List.getElem?_of_mem hmem
  have hlength := (List.getElem?_eq_some_iff.mp hi).1
  rw [getElem?_groupKeys_statementOver, Option.bind_eq_some_iff] at hi
  obtain ⟨column, hcolumn, hkey⟩ := hi
  unfold Column.groupKey? at hkey
  split at hkey
  · have hdigits := congrArg String.toList (Option.some_inj.mp hkey)
    rw [AllDigits.toList_toString, AllDigits.toList_toString] at hdigits
    have hnumber := congrArg (Nat.ofDigitChars 10 · 0) hdigits
    simp only [Nat.ofDigitChars_ten_toDigits] at hnumber
    omega
  · -- The field of a plain dimension is a name, and names start with no digit.
    obtain ⟨request, -, hadmits, _, -, rfl⟩ := exists_request (List.mem_of_getElem? hcolumn)
    have hname : IsName (toString n).toList := by
      rw [← Option.some_inj.mp hkey]
      exact isName_of_isCanonical (isCanonical_canonical (isIdentifier_of_admits hadmits))
    obtain ⟨c, hc, hstart⟩ := hname.start
    rw [AllDigits.toList_toString] at hc
    have hdigit := AllDigits.toDigits n c (List.mem_of_mem_head? hc)
    exact absurd hdigit (by simp [not_isDigit_of_isNameStart hstart])
  · contradiction

end Compilation

/-- The GROUP BY clause has one key for each dimension of the select list and none for a metric:
the key at a place is that of the column at the same place, and a key that is a number is the
position of a dimension. -/
theorem grouping_matches_selection {settings : Settings} {access : Access} {intent : Intent}
    {today : Date} (hsuccess : (compileOn settings access intent today).success) :
    ∃ (table : String) (texts : ClauseTexts),
      resolveTable? settings intent.table = some table ∧
      (compileOn settings access intent today).WrittenAs texts ∧
      texts.columns.length = (intent.survivingColumns access table).length ∧
      texts.groupKeys.length =
        ((compileOn settings access intent today).outputNames .dimension).length ∧
      (∀ (i : Nat) (request : ColumnRequest),
        (intent.survivingColumns access table)[i]? = some request →
        ∃ (column : OutputColumn) (item : String),
          (compileOn settings access intent today).columns[i]? = some column ∧
          texts.columns[i]? = some item ∧
          Groups (canonical request.field) column.name (i + 1) request.shape column.kind item
            texts.groupKeys[i]?) ∧
      ∀ n : Nat, toString n ∈ texts.groupKeys → 1 ≤ n ∧
        n ≤ ((compileOn settings access intent today).outputNames .dimension).length := by
  obtain ⟨table, hadmitted⟩ := success_iff.mp hsuccess
  have hwritten := writtenAs_of_admitted hadmitted today
  have hcolumns := columns_of_admitted hadmitted today
  have hkeys : (statementOver settings access table intent today).clauseTexts.groupKeys.length =
      ((compileOn settings access intent today).outputNames .dimension).length := by
    rw [CompileResult.outputNames, List.length_map, hcolumns]
    exact length_groupKeys _
  refine ⟨table, _, hadmitted.resolved, hwritten, ?_, hkeys, ?_, ?_⟩
  · have hlength := congrArg List.length
      (map_selectColumns access table [] (columnRequests intent))
    rw [List.length_map, List.length_map] at hlength
    rw [hwritten.columns, hcolumns, List.length_map, hlength, Intent.survivingColumns]
  · intro i request hrequest
    obtain ⟨column, hcolumn, hfield, hshape⟩ := exists_column_of_survivingColumns hrequest
    have hkey : (statementOver settings access table intent today).clauseTexts.groupKeys[i]? =
        column.groupKey? (i + 1) := by
      rw [Statement.clauseTexts, getElem?_groupKeys_statementOver, hcolumn, Option.bind_some]
    refine ⟨.ofColumn column, column.render, ?_, ?_, ?_⟩
    · rw [hcolumns, List.getElem?_map, hcolumn, Option.map_some]
    · rw [Statement.clauseTexts, List.getElem?_map, statementOver, hcolumn, Option.map_some]
    · rw [hkey, ← hfield, ← hshape]
      exact column.groups (i + 1)
  · intro n hmem
    rw [← hkeys]
    exact position_of_mem_groupKeys hmem

/-- A request with a column that is dropped before each one that survives. -/
def Sample.mixed : Intent where
  table := "orders"
  dimensions := [{ field := "secret" }, { field := "Region", outputName := some "area" },
    { field := "no field" }, { field := "ordered_on", granularity := some .month }]
  metrics := [{ field := "secret" }, { field := "amount" }]

/-- The second column is truncated and grouped by its place among those that come out. -/
theorem grouping_matches_selection_mixed :
    ∃ texts : ClauseTexts,
      (compileOn {} ⟨Sample.port, Sample.caller⟩ Sample.mixed Sample.day).WrittenAs texts ∧
      texts.columns[1]? = some "DATE_TRUNC('month', ordered_on) AS ordered_on" ∧
      texts.groupKeys[1]? = some "2" ∧ texts.groupKeys[2]? = none := by
  have hsuccess :
      (compileOn {} ⟨Sample.port, Sample.caller⟩ Sample.mixed Sample.day).success := by
    decide
  obtain ⟨table, texts, htable, hwritten, -, -, hcolumns, -⟩ := grouping_matches_selection hsuccess
  obtain rfl : "orders" = table := Option.some_inj.mp htable
  obtain ⟨date, dateItem, hdate, hdateItem, hdateGroups⟩ := hcolumns 1 _ rfl
  obtain ⟨total, totalItem, htotal, -, htotalGroups⟩ := hcolumns 2 _ rfl
  cases hdate
  cases htotal
  generalize hdateKey : texts.groupKeys[1]? = dateKey at hdateGroups
  generalize htotalKey : texts.groupKeys[2]? = totalKey at htotalGroups
  cases hdateGroups
  cases htotalGroups
  exact ⟨texts, hwritten, hdateItem, hdateKey, htotalKey⟩

end TenantQuery
