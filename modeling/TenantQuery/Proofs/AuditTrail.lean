import TenantQuery.Proofs.Compilation.Outcome
/-!
The audit trail is the WHERE clause.

The conditions that are reported for a statement are the ones in its text, word for word and in
the same order, each behind the reason why it is there.  The tenant's comes first; the policy's
and the time window's are there exactly when they are asked for.
-/

namespace TenantQuery

open Sql Compilation Identifier

/-- The policy has something to say about the rows of the table. -/
def Access.restricts (access : Access) (table : String) : Bool :=
  (access.rowPredicate table).any (!Text.isBlankText ·)

/-- The request has a time filter, over a date column that the caller may name. -/
def Intent.windowed (settings : Settings) (access : Access) (table : String)
    (intent : Intent) : Bool :=
  intent.timeFilter.any fun filter =>
    admits access table (filter.dateField.getD settings.defaultDateField)

/-- The reasons for the conditions of a request, in order: the tenant, the policy and the time
window if they ask for one, and every filter that survives. -/
def Intent.categories (settings : Settings) (access : Access) (table : String)
    (intent : Intent) : List ConditionCategory :=
  .tenant :: ((if access.restricts table then [.policy] else []) ++
    ((if intent.windowed settings access table then [.time] else []) ++
      List.replicate (intent.filters.countP (survives access table)) .user))

namespace Compilation

variable {settings : Settings} {access : Access} {table : String} {intent : Intent} {today : Date}

theorem map_category_policyConditions :
    (policyConditions access table).map Condition.category =
      if access.restricts table then [.policy] else [] := by
  unfold policyConditions Access.restricts
  cases access.rowPredicate table with
  | none => rfl
  | some predicate =>
      simp only [Text.isEmpty_trim, Option.any_some]
      by_cases hblank : Text.isBlankText predicate
      · simp [hblank]
      · simp [hblank, Condition.category]

theorem map_category_timeConditions :
    (timeConditions settings access table today intent.timeFilter).1.map Condition.category =
      if intent.windowed settings access table then [.time] else [] := by
  unfold Intent.windowed
  cases intent.timeFilter with
  | none => rfl
  | some filter =>
      rw [Option.any_some]
      cases hadmits : admits access table (filter.dateField.getD settings.defaultDateField) with
      | false =>
          obtain ⟨_, -, hstep⟩ := timeConditions_of_not_admits today hadmits
          rw [hstep]
          rfl
      | true =>
          rw [timeConditions_of_admits today hadmits]
          rfl

theorem map_category_filterConditions (filters : List Filter) :
    (filterConditions access table filters).1.map Condition.category =
      List.replicate (filters.countP (survives access table)) .user := by
  have hsame : (filterConditions access table filters).1.map Condition.category =
      (filters.filter (survives access table)).map fun _ => .user :=
    map_filterConditions (fun _ _ _ => rfl) filters
  rw [hsame, List.map_const', List.countP_eq_length_filter]

theorem map_category_conditions :
    (statementOver settings access table intent today).conditions.map Condition.category =
      intent.categories settings access table := by
  rw [statementOver, conditions_fst, laterConditions, List.map_cons, List.map_append,
    List.map_append, map_category_policyConditions, map_category_timeConditions,
    map_category_filterConditions]
  rfl

/-- Conditions that are all there for one reason are kept together or not at all. -/
theorem filter_category {conditions : List Condition} {reasons : List ConditionCategory}
    {own : ConditionCategory} (hmap : conditions.map Condition.category = reasons)
    (h : ∀ reason ∈ reasons, reason = own) (category : ConditionCategory) :
    conditions.filter (·.category == category) = if own = category then conditions else [] := by
  rw [← hmap, List.forall_mem_map] at h
  split
  · rename_i hsame
    exact List.filter_eq_self.mpr fun condition hmem => by simp [h condition hmem, hsame]
  · rename_i hother
    exact List.filter_eq_nil_iff.mpr fun condition hmem => by simp [h condition hmem, hother]

/-- The conditions that the part of a request behind a category asks for. -/
def conditionsOf (settings : Settings) (access : Access) (table : String) (intent : Intent)
    (today : Date) : ConditionCategory → List Condition
  | .tenant => [.tenant settings.tenantColumn]
  | .policy => policyConditions access table
  | .time => (timeConditions settings access table today intent.timeFilter).1
  | .user => (filterConditions access table intent.filters).1

/-- The conditions of one category are those of one part of a request. -/
theorem filter_category_conditions (category : ConditionCategory) :
    (statementOver settings access table intent today).conditions.filter
        (·.category == category) = conditionsOf settings access table intent today category := by
  have hone : ∀ {own : ConditionCategory} {present : Bool},
      ∀ reason ∈ (if present then [own] else []), reason = own := by
    intro own present reason hmem
    split at hmem
    · exact List.mem_singleton.mp hmem
    · cases hmem
  have hreasons : (filterConditions access table intent.filters).1.map Condition.category =
      List.replicate (intent.filters.countP (survives access table)) .user :=
    map_category_filterConditions intent.filters
  have huser := filter_category hreasons fun _ hmem => List.eq_of_mem_replicate hmem
  rw [statementOver, conditions_fst, laterConditions, List.filter_cons, List.filter_append,
    List.filter_append, filter_category map_category_policyConditions hone,
    filter_category map_category_timeConditions hone, huser]
  cases category <;> simp [Condition.category, conditionsOf]

end Compilation

/-- The entry of a condition starts with the name of its category and of no other. -/
theorem isPrefixOf_auditEntry (category : ConditionCategory) (condition : Condition) :
    ("[" ++ category.name ++ "] ").toList.isPrefixOf condition.auditEntry.toList =
      (condition.category == category) := by
  have htag : condition.auditEntry.toList =
      ("[" ++ condition.category.name ++ "] ").toList ++ condition.render.toList :=
    String.toList_append
  rw [htag]
  cases category <;> cases condition.category <;> simp [ConditionCategory.name] <;> rfl

/-- The entries of the audit trail that stand behind a category. -/
def CompileResult.entries (result : CompileResult) (category : ConditionCategory) : List String :=
  result.appliedFilters.filter fun entry =>
    ("[" ++ category.name ++ "] ").toList.isPrefixOf entry.toList

/-- The entries behind a category are those of its conditions. -/
theorem entries_ofStatement (statement : Statement) (warnings : List String)
    (category : ConditionCategory) :
    (CompileResult.ofStatement statement warnings).entries category =
      (statement.conditions.filter (·.category == category)).map Condition.auditEntry := by
  have hsame : ((fun entry : String => ("[" ++ category.name ++ "] ").toList.isPrefixOf
      entry.toList) ∘ Condition.auditEntry) = (·.category == category) := by
    funext condition
    exact isPrefixOf_auditEntry category condition
  rw [CompileResult.entries, CompileResult.ofStatement, List.filter_map, hsame]

/-- The entries behind a category are those of one part of the request. -/
theorem entries_run {settings : Settings} {access : Access} {table : String} {intent : Intent}
    (h : Admitted settings access intent table) (today : Date) (category : ConditionCategory) :
    (run settings access intent today).result.entries category =
      (conditionsOf settings access table intent today category).map Condition.auditEntry := by
  rw [← filter_category_conditions, run_of_admitted h today]
  exact entries_ofStatement _ _ category

/-- What is reported as applied is what the statement asks for: the same conditions in the same
order, and why each of them is there. -/
theorem audit_trail {settings : Settings} {access : Access} {intent : Intent} {today : Date}
    (hsuccess : (compileOn settings access intent today).success) :
    ∃ (table : String) (statement : Statement) (warnings : List String)
        (entries : List (ConditionCategory × String)),
      resolveTable? settings intent.table = some table ∧
      compileOn settings access intent today = .ofStatement statement warnings ∧
      (compileOn settings access intent today).appliedFilters =
        entries.map (fun entry => "[" ++ entry.1.name ++ "] " ++ entry.2) ∧
      (compileOn settings access intent today).sql = some
        ("SELECT " ++ ", ".intercalate (statement.columns.map Column.render) ++
          " FROM " ++ table ++
          " WHERE " ++ " AND ".intercalate (entries.map Prod.snd) ++ " " ++
          Statement.clauseText "GROUP BY" statement.groupKeys ++
          Statement.clauseText "ORDER BY" (statement.sortKeys.map SortKey.render) ++
          "LIMIT " ++ toString (settings.effectiveLimit intent.limit)) ∧
      entries.map Prod.fst = intent.categories settings access table := by
  obtain ⟨table, hadmitted⟩ := success_iff.mp hsuccess
  have hresult := compileOn_of_admitted hadmitted today
  have hrender := Statement.render_eq (statementOver settings access table intent today)
  refine ⟨table, _, _, (statementOver settings access table intent today).conditions.map
    fun condition => (condition.category, condition.render), hadmitted.resolved, hresult, ?_, ?_,
    ?_⟩
  · rw [hresult, List.map_map]
    rfl
  · rw [hresult, List.map_map]
    exact congrArg some hrender
  · rw [List.map_map]
    exact map_category_conditions

/-- Every kind of condition is in the trail of the request for orders, and two of its filters are
not. -/
theorem audit_trail_orders :
    ∃ entries : List (ConditionCategory × String),
      (compileOn {} ⟨Sample.port, Sample.caller⟩ Sample.intent Sample.day).appliedFilters =
        entries.map (fun entry => "[" ++ entry.1.name ++ "] " ++ entry.2) ∧
      entries.map Prod.fst = [.tenant, .policy, .time, .user, .user] := by
  obtain ⟨table, -, -, entries, htable, -, happlied, -, hcategories⟩ :=
    audit_trail Sample.success_compileOn
  obtain rfl : "orders" = table := Option.some_inj.mp htable
  exact ⟨entries, happlied, hcategories.trans (by decide)⟩

end TenantQuery
