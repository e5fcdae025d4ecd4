import TenantQuery.Proofs.AuditTrail
import TenantQuery.Proofs.Compilation.ClauseTexts
import TenantQuery.Proofs.Refusal
/-!
Filters only narrow a request.

A filter has a say in the WHERE clause alone, and there only in its own condition: filters behind
others put their conditions behind all others, and the time filter puts in at most one.  Outcome,
columns and every other clause are the same with them and without them.
-/

namespace TenantQuery

open Sql Compilation

/-- Conditions behind others, each with the AND in front of it. -/
def Sql.conjoined (conditions : List String) : String :=
  String.join (conditions.map (" AND " ++ ·))

/-- The request with another time filter and other filters. -/
def Intent.filteredBy (window : Option TimeFilter) (filters : List Filter) (intent : Intent) :
    Intent :=
  { intent with timeFilter := window, filters := filters }

structure CompileResult.SameOutcome (first second : CompileResult) : Prop where
  success : first.success = second.success
  error : first.error = second.error
  columns : first.columns = second.columns

/-- The second statement is the first one with the conditions that are added between its own, and
so is the audit trail.  Conditions of the first one stand before them. -/
structure CompileResult.Inserts (wide narrow : CompileResult) (texts : ClauseTexts)
    (category : ConditionCategory) (before added behind : List String) : Prop where
  nonempty : before ≠ []
  wide_written : wide.WrittenAs { texts with conditions := before ++ behind }
  narrow_written : narrow.WrittenAs { texts with conditions := before ++ added ++ behind }
  wide_sql : wide.sql = some
    (texts.front ++ " AND ".intercalate before ++ (conjoined behind ++ texts.back))
  narrow_sql : narrow.sql = some
    (texts.front ++ " AND ".intercalate before ++ conjoined added ++
      (conjoined behind ++ texts.back))
  appliedFilters : ∃ first last : List String,
    first.length = before.length ∧ last.length = behind.length ∧
      wide.appliedFilters = first ++ last ∧
      narrow.appliedFilters = first ++ added.map category.tag ++ last

theorem Sql.conjoined_of_ne_nil {added : List String} (hne : added ≠ []) :
    conjoined added = " AND " ++ " AND ".intercalate added := by
  induction added with
  | nil => exact absurd rfl hne
  | cons text rest ih =>
      by_cases hrest : rest = []
      · simp [hrest, conjoined]
      · rw [String.intercalate_cons_of_ne_nil hrest, String.append_assoc, ← ih hrest, conjoined,
          List.map_cons, String.join_cons, String.append_assoc, conjoined]

/-- What is behind the first conditions is joined to them. -/
theorem Sql.intercalate_append_conjoined {before : List String} (hne : before ≠ [])
    (added : List String) :
    " AND ".intercalate (before ++ added) = " AND ".intercalate before ++ conjoined added := by
  by_cases hadded : added = []
  · simp [hadded, conjoined]
  · rw [String.intercalate_append_of_ne_nil hne hadded, conjoined_of_ne_nil hadded,
      String.append_assoc]

theorem Sql.conjoined_append (first second : List String) :
    conjoined (first ++ second) = conjoined first ++ conjoined second := by
  simp [conjoined]

/-- Conditions that are all there for one reason have it in front of each entry. -/
theorem Sql.map_auditEntry {category : ConditionCategory} {conditions : List Condition}
    (h : ∀ condition ∈ conditions, condition.category = category) :
    conditions.map Condition.auditEntry =
      (conditions.map Condition.render).map category.tag := by
  rw [List.map_map]
  apply List.map_congr_left
  intro condition hmem
  rw [Condition.auditEntry, h condition hmem, Function.comp_apply]

/-- A statement with further conditions between its own is written so. -/
theorem CompileResult.inserts_ofStatement (statement : Statement) {category : ConditionCategory}
    {before added behind : List Condition} (hne : before ≠ [])
    (hcategory : ∀ condition ∈ added, condition.category = category)
    (warnings others : List String) :
    (CompileResult.ofStatement { statement with conditions := before ++ behind } warnings).Inserts
      (.ofStatement { statement with conditions := before ++ added ++ behind } others)
      statement.clauseTexts category (before.map Condition.render) (added.map Condition.render)
      (behind.map Condition.render) := by
  have hbefore : before.map Condition.render ≠ [] := mt List.map_eq_nil_iff.mp hne
  have hwide := writtenAs_ofStatement { statement with conditions := before ++ behind } warnings
  have hnarrow :=
    writtenAs_ofStatement { statement with conditions := before ++ added ++ behind } others
  simp only [Statement.clauseTexts, List.map_append] at hwide hnarrow
  refine ⟨hbefore, hwide, hnarrow, ?_, ?_, before.map Condition.auditEntry,
    behind.map Condition.auditEntry, by simp, by simp, List.map_append, ?_⟩
  · rw [hwide.sql, ClauseTexts.text, intercalate_append_conjoined hbefore, String.append_assoc,
      String.append_assoc, String.append_assoc]
    rfl
  · rw [hnarrow.sql, ClauseTexts.text, List.append_assoc, intercalate_append_conjoined hbefore,
      conjoined_append]
    simp only [String.append_assoc]
    rfl
  · rw [← map_auditEntry hcategory, ← List.map_append, ← List.map_append]
    rfl

namespace Compilation

variable {settings : Settings} {access : Access} {table : String} {intent : Intent} {today : Date}

/-- A request for the same table with the same columns is admitted alike. -/
theorem Admitted.congr {other : Intent} (h : Admitted settings access intent table)
    (htable : other.table = intent.table)
    (hrequests : columnRequests other = columnRequests intent) :
    Admitted settings access other table := by
  refine ⟨?_, h.allowed, ?_⟩
  · rw [htable]
    exact h.resolved
  · rw [hrequests]
    exact h.columns

/-- Outcome and columns are those of the table, the dimensions and the metrics. -/
theorem sameOutcome {other : Intent} (htable : other.table = intent.table)
    (hdimensions : other.dimensions = intent.dimensions)
    (hmetrics : other.metrics = intent.metrics) :
    (compileOn settings access other today).SameOutcome
      (compileOn settings access intent today) := by
  have houtcome : _ ∧ (compileOn settings access other today).error = _ :=
    outcome_congr htable (congrArg (List.map Dimension.field) hdimensions)
      (congrArg (List.map Metric.field) hmetrics) today today
  refine ⟨houtcome.1, houtcome.2, ?_⟩
  have hrequests : columnRequests other = columnRequests intent := by
    rw [columnRequests, columnRequests, hdimensions, hmetrics]
  rcases success_or_refused settings access intent today with hsuccess | ⟨rejection, hrefused⟩
  · obtain ⟨table, hadmitted⟩ := success_iff.mp hsuccess
    rw [columns_of_admitted hadmitted today,
      columns_of_admitted (hadmitted.congr htable hrequests) today, hrequests]
  · have hcolumns := (failsFor_of_refused hrefused today).columns
    have hfailure : ¬ (compileOn settings access other today).success := by
      rw [houtcome.1, (failsFor_of_refused hrefused today).failure]
      exact Bool.false_ne_true
    obtain ⟨reason, hreason⟩ :=
      (success_or_refused settings access other today).resolve_left hfailure
    rw [hcolumns, (failsFor_of_refused hreason today).columns]

/-- Filters behind others put their conditions behind all others. -/
theorem conditions_append_filters (more : List Filter) :
    (conditions settings access table today { intent with filters := intent.filters ++ more }).1 =
      (conditions settings access table today intent).1 ++
        (filterConditions access table more).1 := by
  simp only [conditions_fst, laterConditions, filterConditions, separate_fst, List.map_append,
    List.filterMap_append, List.append_assoc, List.cons_append]

theorem category_of_mem_filterConditions {filters : List Filter} {condition : Condition}
    (hmem : condition ∈ (filterConditions access table filters).1) :
    condition.category = .user := by
  have hcategory := List.mem_map_of_mem (f := Condition.category) hmem
  rw [map_category_filterConditions] at hcategory
  exact List.eq_of_mem_replicate hcategory

theorem category_of_mem_timeConditions {condition : Condition}
    (hmem : condition ∈ (timeConditions settings access table today intent.timeFilter).1) :
    condition.category = .time := by
  have hcategory := List.mem_map_of_mem (f := Condition.category) hmem
  rw [map_category_timeConditions] at hcategory
  split at hcategory
  · exact List.mem_singleton.mp hcategory
  · cases hcategory

theorem length_timeConditions :
    (timeConditions settings access table today intent.timeFilter).1.length ≤ 1 := by
  rw [← List.length_map Condition.category, map_category_timeConditions]
  split <;> simp

theorem statementOver_filteredBy {window : Option TimeFilter} {filters : List Filter}
    {found : List Condition}
    (h : (conditions settings access table today (intent.filteredBy window filters)).1 = found) :
    statementOver settings access table (intent.filteredBy window filters) today =
      { statementOver settings access table intent today with conditions := found } := by
  rw [← h]
  rfl

/-- Where only filters are different, the statements differ in their conditions. -/
theorem inserts_of_conditions (h : Admitted settings access intent table)
    {window other : Option TimeFilter} {filters others : List Filter}
    {category : ConditionCategory} {before added behind : List Condition} (hne : before ≠ [])
    (hcategory : ∀ condition ∈ added, condition.category = category)
    (hwide : (conditions settings access table today (intent.filteredBy window filters)).1 =
      before ++ behind)
    (hnarrow : (conditions settings access table today (intent.filteredBy other others)).1 =
      before ++ added ++ behind) :
    (compileOn settings access (intent.filteredBy window filters) today).Inserts
      (compileOn settings access (intent.filteredBy other others) today)
      (statementOver settings access table intent today).clauseTexts category
      (before.map Condition.render) (added.map Condition.render)
      (behind.map Condition.render) := by
  have hfirst : Admitted settings access (intent.filteredBy window filters) table := h.congr rfl rfl
  have hsecond : Admitted settings access (intent.filteredBy other others) table := h.congr rfl rfl
  rw [compileOn_of_admitted hfirst, compileOn_of_admitted hsecond, statementOver_filteredBy hwide,
    statementOver_filteredBy hnarrow]
  exact CompileResult.inserts_ofStatement _ hne hcategory _ _

/-- Further filters of an admitted request stand at the end of its statement. -/
theorem inserts_filters (h : Admitted settings access intent table) (more : List Filter)
    (today : Date) :
    (compileOn settings access intent today).Inserts
      (compileOn settings access (intent.filteredBy intent.timeFilter (intent.filters ++ more))
        today)
      (statementOver settings access table intent today).clauseTexts .user
      ((conditions settings access table today intent).1.map Condition.render)
      ((filterConditions access table more).1.map Condition.render) [] := by
  have hne : (conditions settings access table today intent).1 ≠ [] := by
    rw [conditions_fst]
    exact List.cons_ne_nil _ _
  have hnarrow : (conditions settings access table today
      (intent.filteredBy intent.timeFilter (intent.filters ++ more))).1 =
        (conditions settings access table today intent).1 ++
          (filterConditions access table more).1 ++ [] := by
    rw [List.append_nil]
    exact conditions_append_filters more
  exact inserts_of_conditions h hne (fun _ => category_of_mem_filterConditions)
    (List.append_nil _).symm hnarrow

/-- The condition of the time filter stands in front of those of the other filters. -/
theorem inserts_window (h : Admitted settings access intent table) (today : Date) :
    (compileOn settings access (intent.filteredBy none intent.filters) today).Inserts
      (compileOn settings access intent today)
      (statementOver settings access table intent today).clauseTexts .time
      ((.tenant settings.tenantColumn :: policyConditions access table).map Condition.render)
      ((timeConditions settings access table today intent.timeFilter).1.map Condition.render)
      ((filterConditions access table intent.filters).1.map Condition.render) := by
  have hwide : (conditions settings access table today
      (intent.filteredBy none intent.filters)).1 =
        (.tenant settings.tenantColumn :: policyConditions access table) ++
          (filterConditions access table intent.filters).1 := by
    rw [conditions_fst]
    rfl
  have hnarrow : (conditions settings access table today
      (intent.filteredBy intent.timeFilter intent.filters)).1 =
        (.tenant settings.tenantColumn :: policyConditions access table) ++
          (timeConditions settings access table today intent.timeFilter).1 ++
            (filterConditions access table intent.filters).1 := by
    rw [conditions_fst, laterConditions, List.append_assoc]
    rfl
  exact inserts_of_conditions h (List.cons_ne_nil _ _)
    (fun _ => category_of_mem_timeConditions) hwide hnarrow

end Compilation

/-- A filter that is dropped and one that is not. -/
def Sample.moreFilters : List Filter :=
  [{ field := "secret", value := some (.bool true) },
   { field := "Amount", operator := .gte, value := some (.number (.integer 10)) }]

/-- Further filters change nothing in a result but for their own conditions, which stand at the end
of the WHERE clause and of the audit trail, and they change no outcome; without the time filter,
nothing is missing but for its condition, if it has one. -/
theorem filters_only_narrow (settings : Settings) (access : Access) (intent : Intent)
    (more : List Filter) (today : Date) :
    let result := compileOn settings access intent today
    let extended :=
      compileOn settings access { intent with filters := intent.filters ++ more } today
    let alone := compileOn settings access { intent with filters := more } today
    let unwindowed := compileOn settings access { intent with timeFilter := none } today
    extended.SameOutcome result ∧ unwindowed.SameOutcome result ∧
    (result.success →
      extended.appliedFilters = result.appliedFilters ++ alone.entries .user ∧
      (∃ (texts : ClauseTexts) (conditions added : List String),
        alone.entries .user = added.map ConditionCategory.user.tag ∧
        result.Inserts extended texts .user conditions added []) ∧
      ∃ (texts : ClauseTexts) (before window behind : List String),
        window.length ≤ 1 ∧ result.entries .time = window.map ConditionCategory.time.tag ∧
        unwindowed.Inserts result texts .time before window behind) := by
  dsimp only
  refine ⟨sameOutcome rfl rfl rfl, sameOutcome rfl rfl rfl, ?_⟩
  intro hsuccess
  obtain ⟨table, hadmitted⟩ := success_iff.mp hsuccess
  have hfilters := inserts_filters hadmitted more today
  have hwindow := inserts_window hadmitted today
  have halone : Admitted settings access { intent with filters := more } table :=
    hadmitted.congr rfl rfl
  have hown : (compileOn settings access { intent with filters := more } today).entries .user =
      (filterConditions access table more).1.map Condition.auditEntry :=
    entries_run halone today .user
  have htime : (compileOn settings access intent today).entries .time =
      (timeConditions settings access table today intent.timeFilter).1.map Condition.auditEntry :=
    entries_run hadmitted today .time
  rw [map_auditEntry fun _ => category_of_mem_filterConditions] at hown
  rw [map_auditEntry fun _ => category_of_mem_timeConditions] at htime
  refine ⟨?_, ⟨_, _, _, hown, hfilters⟩, _, _, _, _, ?_, htime, hwindow⟩
  · obtain ⟨first, last, -, hlast, hresult, hextended⟩ := hfilters.appliedFilters
    obtain rfl := List.eq_nil_of_length_eq_zero hlast
    rw [List.append_nil] at hresult hextended
    rw [hown, hresult]
    exact hextended
  · rw [List.length_map]
    exact length_timeConditions

/-- Of two more filters one is dropped, and the other puts in one condition. -/
theorem filters_only_narrow_orders :
    (compileOn {} ⟨Sample.port, Sample.caller⟩
      { Sample.intent with filters := Sample.intent.filters ++ Sample.moreFilters }
      Sample.day).appliedFilters =
        (compileOn {} ⟨Sample.port, Sample.caller⟩ Sample.intent Sample.day).appliedFilters ++
          ["[user] amount >= 10"] := by
  obtain ⟨-, -, hnarrow⟩ := filters_only_narrow {} ⟨Sample.port, Sample.caller⟩ Sample.intent
    Sample.moreFilters Sample.day
  obtain ⟨happlied, -⟩ := hnarrow Sample.success_compileOn
  have hown : (compileOn {} ⟨Sample.port, Sample.caller⟩
      { Sample.intent with filters := Sample.moreFilters } Sample.day).entries .user =
        ["[user] amount >= 10"] := by
    decide
  rw [happlied, hown]

end TenantQuery
