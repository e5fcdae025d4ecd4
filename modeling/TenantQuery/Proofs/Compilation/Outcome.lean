import TenantQuery.Compilation.Basic
import TenantQuery.Proofs.Compilation.Columns
import TenantQuery.Proofs.Sql.Outline
/-!
What a compilation that succeeds comes to.

It succeeds exactly when there is a table that the caller may query and a column that survives,
and then the result is one statement, given here as data.  Every name in this statement is a name.
-/

namespace TenantQuery.Compilation

open Identifier

/-- The statement for an intent over a table, the three refusals aside. -/
def statementOver (settings : Settings) (access : Access) (table : String) (intent : Intent)
    (today : Date) : Sql.Statement where
  columns := (selectColumns access table [] (columnRequests intent)).1
  table := table
  conditions := (conditions settings access table today intent).1
  sortKeys :=
    (sortKeys (selectColumns access table [] (columnRequests intent)).1 intent.orderBy).1
  limit := settings.effectiveLimit intent.limit

/-- The departures from an intent in the statement over a table. -/
def adjustmentsOver (settings : Settings) (access : Access) (table : String) (intent : Intent)
    (today : Date) : List Adjustment :=
  (selectColumns access table [] (columnRequests intent)).2 ++
    (conditions settings access table today intent).2 ++
    (sortKeys (selectColumns access table [] (columnRequests intent)).1 intent.orderBy).2

variable {settings : Settings} {access : Access} {intent : Intent} {today : Date}
  {table : String}

/-- Three things are asked before there is a statement. -/
structure Admitted (settings : Settings) (access : Access) (intent : Intent) (table : String) :
    Prop where
  resolved : resolveTable? settings intent.table = some table
  allowed : access.tableAllowed table
  columns : (selectColumns access table [] (columnRequests intent)).1 ≠ []

theorem run_of_admitted (h : Admitted settings access intent table) (today : Date) :
    run settings access intent today =
      { table := some table
        adjustments := adjustmentsOver settings access table intent today
        outcome := .ok (statementOver settings access table intent today) } := by
  have hsome : (selectColumns access table [] (columnRequests intent)).1.isEmpty = false := by
    simpa using h.columns
  simp only [run, h.resolved, h.allowed, hsome, Bool.not_true, Bool.false_eq_true, ↓reduceIte]
  rfl

/-- A compilation is refused at one of three points, or it comes to a statement. -/
theorem run_cases (settings : Settings) (access : Access) (intent : Intent) (today : Date) :
    (resolveTable? settings intent.table = none ∧
        run settings access intent today = ⟨none, [], .error .invalidTable⟩) ∨
      ∃ table, resolveTable? settings intent.table = some table ∧
        (run settings access intent today = ⟨some table, [], .error (.accessDenied table)⟩ ∨
          run settings access intent today =
            ⟨some table, (selectColumns access table [] (columnRequests intent)).2,
              .error .noAccessibleColumns⟩ ∨
          Admitted settings access intent table) := by
  cases htable : resolveTable? settings intent.table with
  | none => exact .inl ⟨rfl, by rw [run, htable]⟩
  | some table =>
      refine .inr ⟨table, rfl, ?_⟩
      by_cases hallowed : access.tableAllowed table
      · by_cases hcolumns : (selectColumns access table [] (columnRequests intent)).1 = []
        · exact .inr (.inl (by simp [run, htable, hallowed, hcolumns]))
        · exact .inr (.inr ⟨htable, hallowed, hcolumns⟩)
      · exact .inl (by simp [run, htable, hallowed])

theorem compileOn_of_admitted (h : Admitted settings access intent table) (today : Date) :
    compileOn settings access intent today =
      .ofStatement (statementOver settings access table intent today)
        ((adjustmentsOver settings access table intent today).map Adjustment.message) := by
  rw [compileOn, run_of_admitted h today]
  rfl

theorem sql_of_admitted (h : Admitted settings access intent table) (today : Date) :
    (compileOn settings access intent today).sql =
      some (statementOver settings access table intent today).render := by
  rw [compileOn_of_admitted h today]
  rfl

/-- A compilation succeeds exactly when the table and a column are admitted. -/
theorem success_iff :
    (compileOn settings access intent today).success ↔
      ∃ table, Admitted settings access intent table := by
  constructor
  · intro hsuccess
    rw [compileOn] at hsuccess
    rcases run_cases settings access intent today with
      ⟨-, hrun⟩ | ⟨table, -, hrun | hrun | hadmitted⟩
    · rw [hrun] at hsuccess
      cases hsuccess
    · rw [hrun] at hsuccess
      cases hsuccess
    · rw [hrun] at hsuccess
      cases hsuccess
    · exact ⟨table, hadmitted⟩
  · rintro ⟨table, hadmitted⟩
    rw [compileOn_of_admitted hadmitted today]
    rfl

/-- The table of a request is a table name in canonical form. -/
theorem isCanonicalTable_of_resolveTable? {requested : String}
    (h : resolveTable? settings requested = some table) : isCanonicalTable table := by
  unfold resolveTable? at h
  obtain ⟨named, hnamed, rfl⟩ := Option.map_eq_some_iff.mp h
  exact isCanonicalTable_canonical (Option.filter_eq_some_iff.mp hnamed).2

theorem separate_fst {ε α : Type} (attempts : List (Except ε α)) :
    (separate attempts).1 = attempts.filterMap Except.toOption := by
  induction attempts with
  | nil => rfl
  | cons attempt rest ih =>
      cases attempt <;> simp [separate, ih, Except.toOption, List.filterMap_cons]

theorem mem_separate_fst {ε α : Type} {attempts : List (Except ε α)} {value : α} :
    value ∈ (separate attempts).1 ↔ .ok value ∈ attempts := by
  rw [separate_fst, List.mem_filterMap]
  constructor
  · rintro ⟨attempt, hmem, hvalue⟩
    cases attempt with
    | error error => cases hvalue
    | ok found => cases hvalue; exact hmem
  · exact fun hmem => ⟨_, hmem, rfl⟩

theorem mem_separate_snd {ε α : Type} {attempts : List (Except ε α)} {error : ε} :
    error ∈ (separate attempts).2 ↔ .error error ∈ attempts := by
  induction attempts with
  | nil => simp [separate]
  | cons attempt rest ih => cases attempt <;> simp [separate, ih]

theorem filterCondition_eq_ok_iff {filter : Filter} {condition : Sql.Condition} :
    filterCondition access table filter = .ok condition ↔
      admits access table filter.field ∧ ∃ test,
        FilterTest.of? filter.operator filter.value = some test ∧
          condition = .user test (canonical filter.field) := by
  unfold filterCondition
  cases hadmits : admits access table filter.field with
  | false =>
      obtain ⟨adjustment, hresult⟩ := exists_authorize_error .filter hadmits
      simp [hresult]
  | true =>
      rw [authorize_of_admits .filter hadmits]
      cases FilterTest.of? filter.operator filter.value with
      | some test => simp [eq_comm]
      | none =>
          simp only [true_and, reduceCtorEq, false_and]
          split <;> simp

theorem timeConditions_of_admits {filter : TimeFilter} (today : Date)
    (h : admits access table (filter.dateField.getD settings.defaultDateField)) :
    timeConditions settings access table today (some filter) =
      let field := canonical (filter.dateField.getD settings.defaultDateField)
      ([.time (filter.resolve today).window field],
        (filter.resolve today).notes.map (.windowReplaced field)) := by
  rw [timeConditions, authorize_of_admits .timeFilterDate h]

theorem timeConditions_of_not_admits {filter : TimeFilter} (today : Date)
    (h : admits access table (filter.dateField.getD settings.defaultDateField) = false) :
    ∃ adjustment,
      authorize access table .timeFilterDate (filter.dateField.getD settings.defaultDateField) =
        .error adjustment ∧
      timeConditions settings access table today (some filter) =
        ([], [adjustment, .timeFilterDropped]) := by
  obtain ⟨adjustment, hresult⟩ := exists_authorize_error .timeFilterDate h
  exact ⟨adjustment, hresult, by rw [timeConditions, hresult]⟩

/-- The filter is over a column that the caller may name, and it makes a condition. -/
def survives (access : Access) (table : String) (filter : Filter) : Bool :=
  admits access table filter.field &&
    (filterPredicate? (canonical filter.field) filter.operator filter.value).isSome

theorem survives_iff {filter : Filter} :
    survives access table filter ↔
      ∃ condition, filterCondition access table filter = .ok condition := by
  simp only [survives, filterPredicate?, Bool.and_eq_true, Option.isSome_map,
    Option.isSome_iff_exists]
  constructor
  · rintro ⟨hadmits, test, htest⟩
    exact ⟨_, filterCondition_eq_ok_iff.mpr ⟨hadmits, test, htest, rfl⟩⟩
  · rintro ⟨condition, hcondition⟩
    obtain ⟨hadmits, test, htest, -⟩ := filterCondition_eq_ok_iff.mp hcondition
    exact ⟨hadmits, test, htest⟩

/-- What the conditions of filters show can be told from the filters that survive. -/
theorem map_filterConditions {β : Type} {f : Sql.Condition → β} {g : Filter → β}
    (h : ∀ filter test, FilterTest.of? filter.operator filter.value = some test →
      f (.user test (canonical filter.field)) = g filter) (filters : List Filter) :
    (filterConditions access table filters).1.map f =
      (filters.filter (survives access table)).map g := by
  rw [filterConditions, separate_fst]
  induction filters with
  | nil => rfl
  | cons filter rest ih =>
      rw [List.map_cons, List.filterMap_cons, List.filter_cons]
      cases hresult : filterCondition access table filter with
      | ok condition =>
          have hsurvives : survives access table filter := survives_iff.mpr ⟨condition, hresult⟩
          obtain ⟨-, test, htest, rfl⟩ := filterCondition_eq_ok_iff.mp hresult
          simpa [hsurvives, Except.toOption, h filter test htest] using ih
      | error adjustment =>
          have hdropped : survives access table filter = false := by
            rw [Bool.eq_false_iff, ne_eq, survives_iff, hresult]
            simp
          simpa [hdropped, Except.toOption] using ih

def laterConditions (settings : Settings) (access : Access) (table : String) (intent : Intent)
    (today : Date) : List Sql.Condition :=
  policyConditions access table ++
    ((timeConditions settings access table today intent.timeFilter).1 ++
      (filterConditions access table intent.filters).1)

theorem conditions_fst : (conditions settings access table today intent).1 =
    .tenant settings.tenantColumn :: laterConditions settings access table intent today := by
  simp [conditions, laterConditions]

/-- Where a condition behind the tenant's comes from: the words of the policy for the table, or a
field that the caller may name in it. -/
def Sourced (access : Access) (table : String) : Sql.Condition → Prop
  | .tenant _ => False
  | .policy predicate =>
    ∃ given, access.rowPredicate table = some given ∧ predicate = Text.trim given
  | .time _ field | .user _ field => ∃ given, admits access table given ∧ field = canonical given

theorem sourced_of_mem_laterConditions {condition : Sql.Condition}
    (hmem : condition ∈ laterConditions settings access table intent today) :
    Sourced access table condition := by
  rcases List.mem_append.mp hmem with hpolicy | hmem
  · unfold policyConditions at hpolicy
    cases hrows : access.rowPredicate table with
    | none => simp [hrows] at hpolicy
    | some predicate =>
        rw [hrows] at hpolicy
        by_cases hblank : (Text.trim predicate).isEmpty
        · simp [hblank] at hpolicy
        · simp only [hblank] at hpolicy
          cases List.mem_singleton.mp hpolicy
          exact ⟨predicate, hrows, rfl⟩
  rcases List.mem_append.mp hmem with htime | huser
  · cases hfilter : intent.timeFilter with
    | none =>
        rw [hfilter] at htime
        cases htime
    | some filter =>
        rw [hfilter] at htime
        cases hadmits : admits access table (filter.dateField.getD settings.defaultDateField) with
        | false =>
            obtain ⟨_, -, hstep⟩ := timeConditions_of_not_admits today hadmits
            rw [hstep] at htime
            cases htime
        | true =>
            rw [timeConditions_of_admits today hadmits] at htime
            cases List.mem_singleton.mp htime
            exact ⟨_, hadmits, rfl⟩
  · rw [filterConditions, mem_separate_fst, List.mem_map] at huser
    obtain ⟨filter, -, hcondition⟩ := huser
    obtain ⟨hadmits, test, -, rfl⟩ := filterCondition_eq_ok_iff.mp hcondition
    exact ⟨_, hadmits, rfl⟩

/-- A condition of a statement is the tenant's, or it has a source. -/
theorem mem_conditions {condition : Sql.Condition}
    (hmem : condition ∈ (statementOver settings access table intent today).conditions) :
    condition = .tenant settings.tenantColumn ∨ Sourced access table condition := by
  rw [statementOver, conditions_fst] at hmem
  exact (List.mem_cons.mp hmem).imp id sourced_of_mem_laterConditions

theorem sortKey_eq_ok_iff {columns : List Sql.Column} {entry : OrderSpec} {key : Sql.SortKey} :
    sortKey columns entry = .ok key ↔
      isIdentifier entry.field ∧ ∃ column,
        targetColumn? columns (canonical entry.field) = some column ∧
          key = .output column.outputName entry.direction := by
  unfold sortKey
  cases isIdentifier entry.field with
  | false => simp
  | true =>
      cases htarget : targetColumn? columns (canonical entry.field) with
      | none => simp [htarget]
      | some column => simp [htarget, eq_comm]

theorem mem_of_targetColumn? {columns : List Sql.Column} {text : String} {column : Sql.Column}
    (h : targetColumn? columns text = some column) : column ∈ columns := by
  rcases Option.or_eq_some_iff.mp h with hfound | ⟨-, hfound⟩
  · exact List.mem_of_find?_eq_some hfound
  · exact List.mem_of_find?_eq_some hfound

/-- What is dropped from an order is dropped, whatever rows are sorted by in its place. -/
theorem sortKeys_snd (columns : List Sql.Column) (entries : List OrderSpec) :
    (sortKeys columns entries).2 = (separate (entries.map (sortKey columns))).2 := by
  unfold sortKeys
  simp only []
  split <;> rfl

/-- A sort key is the output name of a column, or the first column. -/
theorem mem_sortKeys {columns : List Sql.Column} {entries : List OrderSpec} {key : Sql.SortKey}
    (hmem : key ∈ (sortKeys columns entries).1) :
    key = .firstColumn ∨ ∃ column ∈ columns, ∃ direction,
      key = .output column.outputName direction := by
  have hkept : ∀ kept, kept ∈ (separate (entries.map (sortKey columns))).1 →
      ∃ column ∈ columns, ∃ direction, kept = .output column.outputName direction := by
    intro kept hkept
    rw [mem_separate_fst, List.mem_map] at hkept
    obtain ⟨entry, -, hentry⟩ := hkept
    obtain ⟨-, column, htarget, rfl⟩ := sortKey_eq_ok_iff.mp hentry
    exact ⟨column, mem_of_targetColumn? htarget, entry.direction, rfl⟩
  unfold sortKeys at hmem
  simp only [] at hmem
  split at hmem
  · exact .inl (List.mem_singleton.mp hmem)
  · exact .inr (hkept key hmem)

/-- Settings without faults name the tenant column in canonical form. -/
theorem isCanonical_tenantColumn (h : settings.fault? = none) :
    isCanonical settings.tenantColumn := by
  unfold Settings.fault? at h
  split at h
  · cases h
  · rename_i htenant
    simpa using htenant

/-- Every name in the statement is a name. -/
theorem wellNamed_statementOver (access : Access) (intent : Intent) (today : Date)
    (hsettings : isCanonical settings.tenantColumn) (htable : isCanonicalTable table) :
    (statementOver settings access table intent today).WellNamed := by
  have hcolumn : ∀ column ∈ (statementOver settings access table intent today).columns,
      IsName column.field.toList ∧ IsName column.outputName.toList := by
    intro column hmem
    refine ⟨?_, isName_outputName hmem⟩
    obtain ⟨request, -, hadmits, earlier, -, rfl⟩ := exists_request hmem
    exact isName_of_isCanonical (isCanonical_canonical (isIdentifier_of_admits hadmits))
  have hfield : ∀ field, admits access table field → IsName (canonical field).toList :=
    fun field hadmits => isName_of_isCanonical
      (isCanonical_canonical (isIdentifier_of_admits hadmits))
  refine ⟨?_, htable⟩
  intro text htext
  simp only [Sql.Statement.names, List.mem_append, List.mem_flatMap] at htext
  rcases htext with (⟨column, hmem, htext⟩ | ⟨condition, hmem, htext⟩) | ⟨key, hmem, htext⟩
  · simp only [Sql.Column.names, List.mem_cons, List.not_mem_nil, or_false] at htext
    rcases htext with rfl | rfl
    · exact (hcolumn column hmem).1
    · exact (hcolumn column hmem).2
  · have hsource := mem_conditions hmem
    cases condition with
    | tenant column =>
        cases hsource.resolve_right id
        rw [List.mem_singleton.mp htext]
        exact isName_of_isCanonical hsettings
    | policy predicate => cases htext
    | time window field =>
        obtain ⟨given, hadmits, rfl⟩ := hsource.resolve_left (by simp)
        rw [List.mem_singleton.mp htext]
        exact hfield given hadmits
    | user test field =>
        obtain ⟨given, hadmits, rfl⟩ := hsource.resolve_left (by simp)
        rw [List.mem_singleton.mp htext]
        exact hfield given hadmits
  · rcases mem_sortKeys hmem with rfl | ⟨column, hcolumns, direction, rfl⟩
    · cases htext
    · rw [List.mem_singleton.mp htext]
      exact (hcolumn column hcolumns).2

end TenantQuery.Compilation

namespace TenantQuery.Sample

/-- A request for orders that reaches for more than it may have. -/
def intent : Intent where
  table := " Orders "
  dimensions := [{ field := "Ordered_On", granularity := some .month }, { field := "secret" }]
  metrics := [{ field := "amount", outputName := some "Total" }]
  timeFilter := some { kind := .lastNDays, n := some 7, dateField := some "ordered_on" }
  filters :=
    [{ field := "region", operator := .isIn,
       value := some (.array [.string "a'b", .bool true, .string "x' OR 1=1 --"]) },
     { field := "secret", value := some (.string "s") },
     { field := "region", operator := .like, value := some (.string "50%") },
     { field := "region" }]
  orderBy := [{ field := "TOTAL", direction := .desc }, { field := "secret" }]

def day : Date := ⟨2024, 2, 29, by decide⟩

/-- A caller whose region has a quote in its name. -/
def caller : Caller where
  userId := "u-1"
  attributes := [("area", "n'orth")]

/-- A policy that closes one column and hides nothing else. -/
def port : AccessPolicy where
  tableAllowed table _ := table == "orders"
  fieldAllowed _ field _ := field != "secret"
  rowPredicate _ _ := some " open OR shared "

/-- Enough is left of the request for a statement. -/
theorem success_compileOn : (compileOn {} ⟨port, caller⟩ intent day).success := by
  decide

end TenantQuery.Sample
