import TenantQuery.Proofs.Grouping
/-!
What the rows are sorted by is a column that comes out.

An entry of the order means the column of that output name, or else the first column over that
field; fields may be shared and names may be those of other fields, but no two columns have one
output name, so every key means one column.  Where no key is left, grouped rows are sorted by the
first column, which is a dimension then.
-/

namespace TenantQuery

open Sql Compilation Identifier

/-- What an entry of the order means among columns: the output name of one of them with the
direction of the entry, or nothing. -/
inductive OrderSpec.Means (columns : List Column) (entry : OrderSpec) :
    Option (String × SortDirection) → Prop where
  | illFormed (h : isIdentifier entry.field = false) : Means columns entry none
  | name (h : isIdentifier entry.field) {column : Column} (hmem : column ∈ columns)
      (hname : column.outputName = canonical entry.field) :
      Means columns entry (some (column.outputName, entry.direction))
  | field (h : isIdentifier entry.field)
      (hnames : ∀ column ∈ columns, column.outputName ≠ canonical entry.field)
      {before after : List Column} {column : Column}
      (hcolumns : columns = before ++ column :: after)
      (hfirst : ∀ earlier ∈ before, earlier.field ≠ canonical entry.field)
      (hfield : column.field = canonical entry.field) :
      Means columns entry (some (column.outputName, entry.direction))
  | unmatched (h : isIdentifier entry.field)
      (hnames : ∀ column ∈ columns, column.outputName ≠ canonical entry.field)
      (hfields : ∀ column ∈ columns, column.field ≠ canonical entry.field) :
      Means columns entry none

/-- The output name and direction that an entry of the order comes to. -/
def OrderSpec.chosen? (columns : List Column) (entry : OrderSpec) :
    Option (String × SortDirection) :=
  if isIdentifier entry.field then
    (targetColumn? columns (canonical entry.field)).map fun column =>
      (column.outputName, entry.direction)
  else none

theorem OrderSpec.means_chosen? (columns : List Column) (entry : OrderSpec) :
    entry.Means columns (entry.chosen? columns) := by
  unfold OrderSpec.chosen?
  split
  · rename_i hidentifier
    cases hname : columns.find? (·.outputName == canonical entry.field) with
    | some column =>
        have hfound := List.find?_some hname
        rw [targetColumn?, hname, Option.some_or]
        exact .name hidentifier (List.mem_of_find?_eq_some hname) (by simpa using hfound)
    | none =>
        have hnames : ∀ column ∈ columns, column.outputName ≠ canonical entry.field := by
          simpa using List.find?_eq_none.mp hname
        rw [targetColumn?, hname, Option.none_or]
        cases hfield : columns.find? (·.field == canonical entry.field) with
        | some column =>
            obtain ⟨hsame, before, after, hsplit, hearlier⟩ :=
              List.find?_eq_some_iff_append.mp hfield
            exact .field hidentifier hnames hsplit (by simpa using hearlier) (by simpa using hsame)
        | none =>
            exact .unmatched hidentifier hnames (by simpa using List.find?_eq_none.mp hfield)
  · rename_i hidentifier
    exact .illFormed (by simpa using hidentifier)

/-- What an entry means is the output name of a column. -/
theorem OrderSpec.mem_of_chosen? {columns : List Column} {entry : OrderSpec}
    {chosen : String × SortDirection} (h : entry.chosen? columns = some chosen) :
    ∃ column ∈ columns, column.outputName = chosen.1 := by
  unfold OrderSpec.chosen? at h
  split at h
  · obtain ⟨column, hcolumn, rfl⟩ := Option.map_eq_some_iff.mp h
    exact ⟨column, mem_of_targetColumn? hcolumn, rfl⟩
  · cases h

namespace Compilation

/-- The keys of a statement are those of the entries that mean a column. -/
theorem sortKeys_fst (columns : List Column) (entries : List OrderSpec) :
    (sortKeys columns entries).1.map SortKey.render =
      if entries.filterMap (OrderSpec.chosen? columns) = [] then
        if columns.any (·.isDimension) then ["1 ASC"] else []
      else (entries.filterMap (OrderSpec.chosen? columns)).map fun chosen =>
        chosen.1 ++ " " ++ chosen.2.keyword := by
  have hkeys : (separate (entries.map (sortKey columns))).1 =
      (entries.filterMap (OrderSpec.chosen? columns)).map fun chosen =>
        SortKey.output chosen.1 chosen.2 := by
    rw [separate_fst, List.filterMap_map, List.map_filterMap]
    apply List.filterMap_congr
    intro entry _
    unfold OrderSpec.chosen? Function.comp sortKey
    cases isIdentifier entry.field with
    | false => rfl
    | true =>
        cases htarget : targetColumn? columns (canonical entry.field) <;>
          simp [htarget, Except.toOption]
  unfold sortKeys
  simp only [hkeys, List.isEmpty_map]
  cases entries.filterMap (OrderSpec.chosen? columns) with
  | nil =>
      cases columns.any (·.isDimension) <;> rfl
  | cons chosen rest => simp [SortKey.render, Function.comp_def]

/-- Where there is a dimension, the first column is one. -/
theorem isDimension_head {access : Access} {table : String} {intent : Intent}
    (h : (selectColumns access table [] (columnRequests intent)).1.any (·.isDimension)) :
    ∃ column rest, (selectColumns access table [] (columnRequests intent)).1 = column :: rest ∧
      column.isDimension := by
  obtain ⟨dimensions, metrics, hcolumns⟩ := exists_survivors access table intent
  rw [hcolumns.split, List.any_eq_true] at h
  obtain ⟨some, hmem, hsome⟩ := h
  cases dimensions with
  | nil => exact absurd hsome (by simp [hcolumns.not_isDimension some (by simpa using hmem)])
  | cons column rest =>
      exact ⟨column, rest ++ metrics, hcolumns.split,
        hcolumns.isDimension column List.mem_cons_self⟩

end Compilation

/-- The rows are sorted by what the entries of the order mean, in their order, and each key is the
output name of one column.  Where no entry means a column, they are sorted by the first column if
there is a dimension, and it is one; without a dimension they are not sorted. -/
theorem order_resolves_to_columns {settings : Settings} {access : Access} {intent : Intent}
    {today : Date} (hsuccess : (compileOn settings access intent today).success) :
    ∃ (statement : Statement) (meant : List (Option (String × SortDirection))),
      (run settings access intent today).outcome = .ok statement ∧
      (compileOn settings access intent today).columns =
        statement.columns.map OutputColumn.ofColumn ∧
      (compileOn settings access intent today).WrittenAs statement.clauseTexts ∧
      List.Forall₂ (OrderSpec.Means statement.columns) intent.orderBy meant ∧
      (∀ chosen ∈ meant.reduceOption, ((compileOn settings access intent today).columns.map
        OutputColumn.name).count chosen.1 = 1) ∧
      (meant.reduceOption ≠ [] → statement.clauseTexts.sortKeys =
        meant.reduceOption.map fun chosen => chosen.1 ++ " " ++ chosen.2.keyword) ∧
      (meant.reduceOption = [] →
        (compileOn settings access intent today).outputNames .dimension = [] →
          statement.clauseTexts.sortKeys = []) ∧
      (meant.reduceOption = [] →
        (compileOn settings access intent today).outputNames .dimension ≠ [] →
          statement.clauseTexts.sortKeys = ["1 ASC"] ∧
            ((compileOn settings access intent today).columns.head?.map OutputColumn.kind) =
              some .dimension) := by
  obtain ⟨table, hadmitted⟩ := success_iff.mp hsuccess
  have hcolumns := columns_of_admitted hadmitted today
  have hkeys := sortKeys_fst (selectColumns access table [] (columnRequests intent)).1
    intent.orderBy
  have hmeant : (intent.orderBy.map (OrderSpec.chosen?
      (selectColumns access table [] (columnRequests intent)).1)).reduceOption =
        intent.orderBy.filterMap (OrderSpec.chosen?
          (selectColumns access table [] (columnRequests intent)).1) := List.filterMap_map
  have hdimensions : (compileOn settings access intent today).outputNames .dimension = [] ↔
      (selectColumns access table [] (columnRequests intent)).1.any (·.isDimension) = false := by
    rw [CompileResult.outputNames, hcolumns]
    simp [OutputColumn.ofColumn]
  refine ⟨statementOver settings access table intent today, _, ?_, hcolumns,
    writtenAs_of_admitted hadmitted today,
    List.forall₂_map_right_iff.mpr (List.forall₂_same.mpr fun entry _ => entry.means_chosen? _),
    ?_, ?_, ?_, ?_⟩
  · rw [run_of_admitted hadmitted today]
  · intro chosen hmem
    obtain ⟨column, hcolumn, hname⟩ : ∃ column ∈ (selectColumns access table []
        (columnRequests intent)).1, column.outputName = chosen.1 := by
      rw [statementOver, hmeant] at hmem
      obtain ⟨entry, -, hchosen⟩ := List.mem_filterMap.mp hmem
      exact OrderSpec.mem_of_chosen? hchosen
    have hnames : OutputColumn.name ∘ OutputColumn.ofColumn = Column.outputName := rfl
    rw [hcolumns, List.map_map, hnames, ← hname]
    exact List.count_eq_one_of_mem (nodup_outputNames (columnRequests intent) [])
      (List.mem_map_of_mem hcolumn)
  · intro hsome
    rw [statementOver, hmeant] at hsome ⊢
    rw [Statement.clauseTexts, hkeys, if_neg hsome]
  · intro hnone hplain
    rw [statementOver, hmeant] at hnone
    rw [Statement.clauseTexts, statementOver, hkeys, if_pos hnone, hdimensions.mp hplain]
    rfl
  · intro hnone hgrouped
    rw [statementOver, hmeant] at hnone
    have hany := Bool.eq_true_of_not_eq_false fun hplain => hgrouped (hdimensions.mpr hplain)
    obtain ⟨column, rest, hfirst, hdimension⟩ := isDimension_head hany
    refine ⟨?_, ?_⟩
    · rw [Statement.clauseTexts, statementOver, hkeys, if_pos hnone, if_pos hany]
    · rw [hcolumns, hfirst]
      simp [OutputColumn.ofColumn, hdimension]

namespace Sample

/-- A request in which names of columns are fields of others. -/
def tangled : Intent where
  table := "orders"
  dimensions := [{ field := "region", outputName := some "amount" }]
  metrics := [{ field := "amount", outputName := some "total" }, { field := "quantity" },
    { field := "quantity", aggregate := .max }]
  orderBy := [{ field := "AMOUNT", direction := .desc }, { field := "quantity" },
    { field := "secret" }, { field := "no name" }]

end Sample

/-- An entry that is both a name and a field means the name, one that is a field of two columns
means the first of them, and the others mean nothing. -/
theorem order_resolves_to_columns_tangled :
    ∃ (statement : Statement) (meant : List (Option (String × SortDirection))),
      (run {} ⟨Sample.port, Sample.caller⟩ Sample.tangled Sample.day).outcome = .ok statement ∧
      List.Forall₂ (OrderSpec.Means statement.columns) Sample.tangled.orderBy meant ∧
      statement.clauseTexts.sortKeys = ["amount DESC", "sum_quantity ASC"] ∧
      (meant.reduceOption ≠ [] → meant.reduceOption.map
        (fun chosen => chosen.1 ++ " " ++ chosen.2.keyword) =
          ["amount DESC", "sum_quantity ASC"]) := by
  have hsuccess :
      (compileOn {} ⟨Sample.port, Sample.caller⟩ Sample.tangled Sample.day).success := by
    decide
  have hwritten : (run {} ⟨Sample.port, Sample.caller⟩ Sample.tangled
      Sample.day).outcome.toOption.map (·.clauseTexts.sortKeys) =
        some ["amount DESC", "sum_quantity ASC"] := by
    decide
  obtain ⟨statement, meant, houtcome, -, -, hmeant, -, hkeys, -⟩ :=
    order_resolves_to_columns hsuccess
  rw [houtcome] at hwritten
  have hsorted : statement.clauseTexts.sortKeys = ["amount DESC", "sum_quantity ASC"] :=
    Option.some_inj.mp hwritten
  exact ⟨statement, meant, houtcome, hmeant, hsorted, fun hsome => (hkeys hsome).symm.trans hsorted⟩

end TenantQuery
