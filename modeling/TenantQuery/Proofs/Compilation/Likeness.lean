import TenantQuery.Proofs.Compilation.Outcome
import TenantQuery.Proofs.PairedLists
/-!
Requests that compile alike.

A compilation looks at a text of a request only for what it can be read as: a name, an output
name, a table or a date.  So two requests whose texts are read as the same come to the same
compilation, and when only the values of their filters are read differently, nothing but the tests
of the filters' conditions can differ.
-/

namespace TenantQuery

open Sql Compilation Identifier

def Identifier.name? (text : String) : Option String :=
  if isIdentifier text then some (canonical text) else none

/-- Which texts and values may stand for one another at the places of a request. -/
structure Likeness where
  table : String → String → Prop
  /-- The field of a column, a filter or a sort key, and the date column. -/
  field : String → String → Prop
  outputName : String → String → Prop
  /-- The bounds of a custom range. -/
  date : String → String → Prop
  value : Json → Json → Prop

section Alike

variable (likeness : Likeness)

structure Metric.Alike (first second : Metric) : Prop where
  field : likeness.field first.field second.field
  aggregate : first.aggregate = second.aggregate
  outputName : Option.Rel likeness.outputName first.outputName second.outputName

structure Dimension.Alike (first second : Dimension) : Prop where
  field : likeness.field first.field second.field
  granularity : first.granularity = second.granularity
  outputName : Option.Rel likeness.outputName first.outputName second.outputName

structure TimeFilter.Alike (first second : TimeFilter) : Prop where
  kind : first.kind = second.kind
  month : first.month = second.month
  n : first.n = second.n
  dateFrom : Option.Rel likeness.date first.dateFrom second.dateFrom
  dateTo : Option.Rel likeness.date first.dateTo second.dateTo
  dateField : Option.Rel likeness.field first.dateField second.dateField

structure Filter.Alike (first second : Filter) : Prop where
  field : likeness.field first.field second.field
  operator : first.operator = second.operator
  value : Option.Rel likeness.value first.value second.value

structure OrderSpec.Alike (first second : OrderSpec) : Prop where
  field : likeness.field first.field second.field
  direction : first.direction = second.direction

/-- Requests that are the same but for texts and values that may stand for one another. -/
structure Intent.Alike (first second : Intent) : Prop where
  queryType : first.queryType = second.queryType
  table : likeness.table first.table second.table
  metrics : List.Forall₂ (Metric.Alike likeness) first.metrics second.metrics
  dimensions : List.Forall₂ (Dimension.Alike likeness) first.dimensions second.dimensions
  timeFilter : Option.Rel (TimeFilter.Alike likeness) first.timeFilter second.timeFilter
  filters : List.Forall₂ (Filter.Alike likeness) first.filters second.filters
  orderBy : List.Forall₂ (OrderSpec.Alike likeness) first.orderBy second.orderBy
  limit : first.limit = second.limit
  chartType : first.chartType = second.chartType
  chartTitle : first.chartTitle = second.chartTitle
  explanation : first.explanation = second.explanation

end Alike

/-- Texts that may stand for one another are read as the same, and a view of the conditions does
not tell values apart that may stand for one another. -/
structure Likeness.Harmless (settings : Settings) (view : Condition → Condition)
    (likeness : Likeness) : Prop where
  table : ∀ {first second}, likeness.table first second →
    resolveTable? settings first = resolveTable? settings second
  field : ∀ {first second}, likeness.field first second → name? first = name? second
  outputName : ∀ {first second}, likeness.outputName first second → ∀ field default,
    preferredName field (some first) default = preferredName field (some second) default
  date : ∀ {first second}, likeness.date first second →
    Calendar.parseDate? first = Calendar.parseDate? second
  value : ∀ {first second}, likeness.value first second → ∀ operator field,
    (FilterTest.of? operator (some first)).map (fun test => view (.user test field)) =
      (FilterTest.of? operator (some second)).map (fun test => view (.user test field))

/-- The statement with another view of its conditions. -/
def Sql.Statement.mapConditions (view : Condition → Condition) (statement : Statement) :
    Statement :=
  { statement with conditions := statement.conditions.map view }

namespace Compilation

/-- The compilation with another view of the conditions of its statement. -/
def mapConditions (view : Condition → Condition) (compilation : Compilation) : Compilation :=
  { compilation with outcome := compilation.outcome.map (Statement.mapConditions view) }

@[simp] theorem mapConditions_id (compilation : Compilation) :
    compilation.mapConditions id = compilation := by
  obtain ⟨table, adjustments, outcome⟩ := compilation
  cases outcome with
  | error rejection => rfl
  | ok statement => simp [mapConditions, Except.map, Statement.mapConditions]

theorem canonical_eq_of_name? {first second : String} (h : name? first = name? second)
    (hname : isIdentifier first) : canonical first = canonical second := by
  unfold name? at h
  rw [if_pos hname] at h
  split at h
  · exact Option.some_inj.mp h
  · cases h

/-- A field is authorized as the name that it is read as. -/
theorem authorize_eq (access : Access) (table : String) (role : FieldRole) (field : String) :
    authorize access table role field =
      match name? field with
      | none => .error (.fieldIllFormed role)
      | some name =>
        if access.fieldAllowed table name then .ok name else .error (.fieldDenied role name) := by
  unfold authorize name?
  cases isIdentifier field <;> rfl

/-- Requested columns that become the same column. -/
structure ColumnRequest.Interchangeable (first second : ColumnRequest) : Prop where
  role : first.role = second.role
  shape : first.shape = second.shape
  field : name? first.field = name? second.field
  outputName : isIdentifier first.field → ∀ taken field,
    resolveName taken field first.requestedName first.defaultName =
      resolveName taken field second.requestedName second.defaultName

section Columns

variable {access : Access} {table : String}

theorem authorize_congr {first second : String} (h : name? first = name? second)
    (role : FieldRole) :
    authorize access table role first = authorize access table role second := by
  rw [authorize_eq, authorize_eq, h]

theorem selectColumns_congr {first second : List ColumnRequest}
    (h : List.Forall₂ ColumnRequest.Interchangeable first second) (taken : List String) :
    selectColumns access table taken first = selectColumns access table taken second := by
  -- A column that is kept adds to the taken names, so the induction is over all of them.
  induction h generalizing taken with
  | nil => rfl
  | cons hhead htail ih =>
      rename_i head other rest more
      have hsame : authorize access table head.role head.field =
          authorize access table other.role other.field := by
        rw [hhead.role]
        exact authorize_congr hhead.field other.role
      cases hresult : authorize access table head.role head.field with
      | error adjustment => simp only [selectColumns, hresult, ← hsame, ih]
      | ok field =>
          have hname := isIdentifier_of_admits (authorize_eq_ok_iff.mp hresult).1
          simp only [selectColumns, hresult, ← hsame, ih, hhead.outputName hname, hhead.shape]

end Columns

section Congruence

variable {settings : Settings} {view : Condition → Condition} {likeness : Likeness}
  {access : Access} {table : String} {today : Date}

theorem preferredName_congr (hharmless : likeness.Harmless settings view)
    {first second : Option String} (h : Option.Rel likeness.outputName first second)
    (field default : String) :
    preferredName field first default = preferredName field second default := by
  cases h with
  | none => rfl
  | some hname => exact hharmless.outputName hname field default

theorem resolveName_congr (hharmless : likeness.Harmless settings view)
    {first second : Option String} (h : Option.Rel likeness.outputName first second)
    (taken : List String) (field default : String) :
    resolveName taken field first default = resolveName taken field second default := by
  unfold resolveName
  rw [preferredName_congr hharmless h]

theorem interchangeable_ofDimension (hharmless : likeness.Harmless settings view)
    {first second : Dimension} (h : first.Alike likeness second) :
    (ColumnRequest.ofDimension first).Interchangeable (.ofDimension second) := by
  have hfield := hharmless.field h.field
  refine ⟨rfl, congrArg ColumnShape.dimension h.granularity, hfield, ?_⟩
  intro hname taken field
  have hdefault : first.defaultName = second.defaultName := canonical_eq_of_name? hfield hname
  simp only [ColumnRequest.ofDimension, hdefault]
  exact resolveName_congr hharmless h.outputName taken field _

theorem interchangeable_ofMetric (hharmless : likeness.Harmless settings view)
    {first second : Metric} (h : first.Alike likeness second) :
    (ColumnRequest.ofMetric first).Interchangeable (.ofMetric second) := by
  have hfield := hharmless.field h.field
  refine ⟨rfl, congrArg ColumnShape.metric h.aggregate, hfield, ?_⟩
  intro hname taken field
  have hdefault : first.defaultName = second.defaultName := by
    rw [Metric.defaultName, Metric.defaultName, h.aggregate, canonical_eq_of_name? hfield hname]
  simp only [ColumnRequest.ofMetric, hdefault]
  exact resolveName_congr hharmless h.outputName taken field _

theorem columnRequests_congr (hharmless : likeness.Harmless settings view)
    {first second : Intent} (h : first.Alike likeness second) :
    List.Forall₂ ColumnRequest.Interchangeable (columnRequests first) (columnRequests second) := by
  apply List.rel_append
  · rw [List.forall₂_map_left_iff, List.forall₂_map_right_iff]
    exact h.dimensions.imp fun _ _ => interchangeable_ofDimension hharmless
  · rw [List.forall₂_map_left_iff, List.forall₂_map_right_iff]
    exact h.metrics.imp fun _ _ => interchangeable_ofMetric hharmless

theorem resolveBound_congr (hharmless : likeness.Harmless settings view)
    {first second : Option String} (h : Option.Rel likeness.date first second)
    (bound : RangeBound) :
    TimeFilter.resolveBound bound first today = TimeFilter.resolveBound bound second today := by
  cases h with
  | none => rfl
  | some hdate =>
      rename_i text other
      have hsame : Calendar.sanitize text today = Calendar.sanitize other today := by
        rw [Calendar.sanitize, Calendar.sanitize, hharmless.date hdate]
      rw [TimeFilter.resolveBound, TimeFilter.resolveBound, hsame]

theorem resolve_congr (hharmless : likeness.Harmless settings view) {first second : TimeFilter}
    (h : first.Alike likeness second) : first.resolve today = second.resolve today := by
  unfold TimeFilter.resolve TimeFilter.resolveCustom
  rw [h.kind, h.month, h.n, resolveBound_congr hharmless h.dateFrom,
    resolveBound_congr hharmless h.dateTo]

theorem name?_getD_congr (hharmless : likeness.Harmless settings view)
    {first second : Option String} (h : Option.Rel likeness.field first second)
    (default : String) : name? (first.getD default) = name? (second.getD default) := by
  cases h with
  | none => rfl
  | some hfield => exact hharmless.field hfield

theorem timeConditions_congr (hharmless : likeness.Harmless settings view)
    {first second : Option TimeFilter} (h : Option.Rel (TimeFilter.Alike likeness) first second) :
    timeConditions settings access table today first =
      timeConditions settings access table today second := by
  cases h with
  | none => rfl
  | some hfilter =>
      simp only [timeConditions, resolve_congr hharmless hfilter,
        authorize_congr (name?_getD_congr hharmless hfilter.dateField _)]

theorem test_congr (hharmless : likeness.Harmless settings view)
    {first second : Option Json} (h : Option.Rel likeness.value first second)
    (operator : FilterOperator) (field : String) :
    (FilterTest.of? operator first).map (fun test => view (.user test field)) =
      (FilterTest.of? operator second).map (fun test => view (.user test field)) := by
  cases h with
  | none => rfl
  | some hvalue => exact hharmless.value hvalue operator field

theorem isNone_congr {α : Type} {R : α → α → Prop} {first second : Option α}
    (h : Option.Rel R first second) : first.isNone = second.isNone := by
  cases h <;> rfl

theorem map_filterCondition (view : Condition → Condition) (filter : Filter) :
    (filterCondition access table filter).map view =
      match authorize access table .filter filter.field with
      | .error adjustment => .error adjustment
      | .ok field =>
        match (FilterTest.of? filter.operator filter.value).map fun test =>
          view (.user test field) with
        | some condition => .ok condition
        | none =>
          if filter.value.isNone && filter.operator.requiresValue then
            .error (.valueMissing field filter.operator)
          else .error (.valueUnusable field filter.operator) := by
  unfold filterCondition
  cases authorize access table .filter filter.field with
  | error adjustment => rfl
  | ok field =>
      cases FilterTest.of? filter.operator filter.value with
      | some test => rfl
      | none =>
          simp only [Option.map_none]
          split <;> rfl

theorem filterCondition_congr (hharmless : likeness.Harmless settings view)
    {first second : Filter} (h : first.Alike likeness second) :
    (filterCondition access table first).map view =
      (filterCondition access table second).map view := by
  rw [map_filterCondition, map_filterCondition, authorize_congr (hharmless.field h.field),
    h.operator, isNone_congr h.value]
  simp only [test_congr hharmless h.value]

theorem separate_map {ε α β : Type} (f : α → β) (attempts : List (Except ε α)) :
    separate (attempts.map (Except.map f)) =
      ((separate attempts).1.map f, (separate attempts).2) := by
  induction attempts with
  | nil => rfl
  | cons attempt rest ih =>
      cases attempt <;> simp [separate, Except.map, ih]

theorem filterConditions_congr (hharmless : likeness.Harmless settings view)
    {first second : List Filter} (h : List.Forall₂ (Filter.Alike likeness) first second)
    (access : Access) (table : String) :
    (filterConditions access table first).1.map view =
        (filterConditions access table second).1.map view ∧
      (filterConditions access table first).2 = (filterConditions access table second).2 := by
  have hsame : (first.map (filterCondition access table)).map (Except.map view) =
      (second.map (filterCondition access table)).map (Except.map view) := by
    rw [List.map_map, List.map_map]
    exact map_eq_of_forall₂ h fun _ _ hfilter => filterCondition_congr hharmless hfilter
  have hseparate := congrArg separate hsame
  rw [separate_map, separate_map] at hseparate
  exact Prod.mk.inj hseparate

/-- An entry of the order is looked up by the name that it is read as. -/
theorem sortKey_eq (columns : List Column) (entry : OrderSpec) :
    sortKey columns entry =
      match name? entry.field with
      | none => .error .sortKeyIllFormed
      | some name =>
        match targetColumn? columns name with
        | some column => .ok (.output column.outputName entry.direction)
        | none => .error (.sortKeyUnmatched name) := by
  unfold sortKey name?
  cases isIdentifier entry.field <;> rfl

theorem sortKeys_congr (hharmless : likeness.Harmless settings view)
    {first second : List OrderSpec} (h : List.Forall₂ (OrderSpec.Alike likeness) first second)
    (columns : List Column) : sortKeys columns first = sortKeys columns second := by
  have hsame : first.map (sortKey columns) = second.map (sortKey columns) := by
    apply map_eq_of_forall₂ h
    intro entry other hentry
    rw [sortKey_eq, sortKey_eq, hharmless.field hentry.field, hentry.direction]
  rw [sortKeys, sortKeys, hsame]

theorem conditions_congr (hharmless : likeness.Harmless settings view) {first second : Intent}
    (h : first.Alike likeness second) (access : Access) (table : String) (today : Date) :
    (conditions settings access table today first).1.map view =
        (conditions settings access table today second).1.map view ∧
      (conditions settings access table today first).2 =
        (conditions settings access table today second).2 := by
  obtain ⟨huser, hadjusted⟩ := filterConditions_congr hharmless h.filters access table
  simp only [conditions, timeConditions_congr hharmless h.timeFilter, List.map_append,
    List.map_cons, huser, hadjusted, and_self]

/-- Requests that are alike come to the same compilation, as far as the view shows. -/
theorem run_congr (hharmless : likeness.Harmless settings view) {first second : Intent}
    (h : first.Alike likeness second) (access : Access) (today : Date) :
    (run settings access first today).mapConditions view =
      (run settings access second today).mapConditions view := by
  unfold run
  rw [hharmless.table h.table]
  cases resolveTable? settings second.table with
  | none => rfl
  | some table =>
      simp only [selectColumns_congr (columnRequests_congr hharmless h),
        sortKeys_congr hharmless h.orderBy, h.limit]
      obtain ⟨hconditions, hadjusted⟩ := conditions_congr hharmless h access table today
      split
      · rfl
      · split
        · rfl
        · simp only [mapConditions, Except.map, Statement.mapConditions, hconditions, hadjusted]

end Congruence

/-- What is reported does not depend on what the conditions say. -/
@[simp] theorem events_mapConditions (view : Condition → Condition) (compilation : Compilation)
    (user : String) (intent : Intent) :
    (compilation.mapConditions view).events user intent = compilation.events user intent := by
  obtain ⟨table, adjustments, outcome⟩ := compilation
  cases outcome with
  | error rejection => rfl
  | ok statement =>
      simp [events, closingEvent, mapConditions, Except.map, Statement.mapConditions]

theorem events_congr {likeness : Likeness} {first second : Intent}
    (h : first.Alike likeness second) (compilation : Compilation) (user : String) :
    compilation.events user first = compilation.events user second := by
  rw [events, events, h.dimensions.length_eq, h.metrics.length_eq, h.filters.length_eq]

end Compilation

def CompileResult.withoutStatement (result : CompileResult) : CompileResult :=
  { result with sql := none, appliedFilters := [] }

section Results

variable {settings : Settings} {view : Condition → Condition} {likeness : Likeness}
  {first second : Intent}

/-- Requests that are alike report the same events. -/
theorem compileEvents_congr (hharmless : likeness.Harmless settings view)
    (h : first.Alike likeness second) (access : Access) (today : Date) :
    compileEvents settings access first today = compileEvents settings access second today := by
  rw [compileEvents, compileEvents, ← events_mapConditions view, run_congr hharmless h,
    events_mapConditions, events_congr h]

/-- Requests that are alike have results that differ at most in the conditions. -/
theorem withoutStatement_congr (hharmless : likeness.Harmless settings view)
    (h : first.Alike likeness second) (access : Access) (today : Date) :
    (compileOn settings access first today).withoutStatement =
      (compileOn settings access second today).withoutStatement := by
  have hview : ∀ compilation : Compilation,
      (compilation.mapConditions view).result.withoutStatement =
        compilation.result.withoutStatement := by
    rintro ⟨table, adjustments, outcome⟩
    cases outcome <;> rfl
  rw [compileOn, compileOn, ← hview, run_congr hharmless h, hview]

/-- Requests that are alike have the same result when no values are told apart. -/
theorem compileOn_congr (hharmless : likeness.Harmless settings id)
    (h : first.Alike likeness second) (access : Access) (today : Date) :
    compileOn settings access first today = compileOn settings access second today := by
  have hrun := run_congr hharmless h access today
  rw [mapConditions_id, mapConditions_id] at hrun
  rw [compileOn, compileOn, hrun]

end Results

end TenantQuery
