import TenantQuery.Proofs.AuditTrail
import TenantQuery.Proofs.Policy.RowPredicate
/-!
More roles never mean less access.

A role opens tables and columns and lifts row conditions; there is none that closes anything.  So
a caller who gains roles gets every column, the time window and every filter that was had before,
and rows are hidden by the same condition as before or by none.
-/

namespace TenantQuery

open Sql Compilation Identifier

/-- The second caller is the first one with at least the same roles. -/
structure Caller.Gains (fewer more : Caller) : Prop where
  userId : more.userId = fewer.userId
  attributes : more.attributes = fewer.attributes
  roles : ∀ role ∈ fewer.roles, role ∈ more.roles

/-- What the first access lets see of a table, the second one does too, and it hides rows by the
same condition or by none. -/
structure Access.Widens (narrow wide : Access) (table : String) : Prop where
  allowed : wide.tableAllowed table
  fields : ∀ field, narrow.fieldAllowed table field → wide.fieldAllowed table field
  rows : wide.rowPredicate table = none ∨ wide.rowPredicate table = narrow.rowPredicate table

def Compilation.fields (compilation : Compilation) : List String :=
  match compilation.outcome with
  | .ok statement => statement.columns.map Column.field
  | .error _ => []

/-- What the first compilation comes to, the second one does too.  Only rows may be hidden from the
second where the first was refused. -/
structure Compilation.Within (narrow wide : Compilation) : Prop where
  success : narrow.result.success → wide.result.success
  fields : narrow.fields.Sublist wide.fields
  time : narrow.result.entries .time ≠ [] → wide.result.entries .time = narrow.result.entries .time
  user : (narrow.result.entries .user).Sublist (wide.result.entries .user)
  policy : narrow.result.success → wide.result.entries .policy = [] ∨
    wide.result.entries .policy = narrow.result.entries .policy

namespace Caller.Gains

variable {fewer more : Caller}

theorem hasAnyRole (h : fewer.Gains more) {roles : List String} (hany : fewer.hasAnyRole roles) :
    more.hasAnyRole roles := by
  simp only [Caller.hasAnyRole, Caller.hasRole, List.any_eq_true, List.contains_iff_mem] at hany ⊢
  obtain ⟨role, hlisted, hheld⟩ := hany
  exact ⟨role, hlisted, h.roles role hheld⟩

theorem admits (h : fewer.Gains more) {rules : TableRules} (hadmits : rules.admits fewer) :
    rules.admits more := by
  rw [TableRules.admits, Bool.or_eq_true] at hadmits ⊢
  exact hadmits.imp id h.hasAnyRole

/-- A restricted column is as restricted as before, whether it is listed as open or not. -/
theorem fieldVisible (h : fewer.Gains more) {rules : TableRules} {field : String}
    (hvisible : rules.fieldVisible field fewer) : rules.fieldVisible field more := by
  unfold TableRules.fieldVisible at hvisible ⊢
  cases hroles : rules.restrictedFields.get? field with
  | none => rwa [hroles] at hvisible
  | some roles =>
      rw [hroles] at hvisible
      exact h.hasAnyRole hvisible

/-- The attributes decide what a row condition says, and roles at most whether there is one. -/
theorem rowPredicate (h : fewer.Gains more) (rules : TableRules) :
    rules.rowPredicate more = none ∨ rules.rowPredicate more = rules.rowPredicate fewer := by
  have hconditions : RowCondition.ofFilter more = RowCondition.ofFilter fewer := by
    funext filter
    rw [RowCondition.ofFilter, RowCondition.ofFilter, Caller.attribute?, Caller.attribute?,
      h.attributes]
  unfold TableRules.rowPredicate TableRules.rowConditions?
  by_cases hmore : rules.rowFilters.isEmpty || more.hasAnyRole rules.exemptRoles
  · exact .inl (by simp [hmore])
  · have hfewer : ¬ (rules.rowFilters.isEmpty || fewer.hasAnyRole rules.exemptRoles) := by
      rw [Bool.or_eq_true] at hmore ⊢
      exact mt (Or.imp id h.hasAnyRole) hmore
    exact .inr (by rw [if_neg hmore, if_neg hfewer, hconditions])

/-- A declared policy is wider for a caller with more roles, on every table that was open. -/
theorem widens (h : fewer.Gains more) {allowlist : Allowlist} {table : String}
    (hallowed : Access.tableAllowed ⟨allowlist.toPolicy, fewer⟩ table) :
    Access.Widens ⟨allowlist.toPolicy, fewer⟩ ⟨allowlist.toPolicy, more⟩ table := by
  obtain ⟨rules, hfewer⟩ := Option.isSome_iff_exists.mp hallowed
  have hmore : allowlist.admitted? table more = some rules := by
    obtain ⟨hlisted, hadmits⟩ := Option.filter_eq_some_iff.mp hfewer
    exact Option.filter_eq_some_iff.mpr ⟨hlisted, h.admits hadmits⟩
  refine ⟨Option.isSome_iff_exists.mpr ⟨rules, hmore⟩, ?_, ?_⟩
  · intro field hfield
    simp only [Access.fieldAllowed, Allowlist.toPolicy, hfewer, hmore] at hfield ⊢
    exact h.fieldVisible hfield
  · simp only [Access.rowPredicate, Allowlist.toPolicy, hfewer, hmore, Option.bind_some]
    exact h.rowPredicate rules

end Caller.Gains

theorem fields_run {settings : Settings} {access : Access} {table : String} {intent : Intent}
    (h : Admitted settings access intent table) (today : Date) :
    (run settings access intent today).fields =
      (selectColumns access table [] (columnRequests intent)).1.map Column.field := by
  rw [run_of_admitted h today]
  rfl

namespace Access.Widens

variable {settings : Settings} {narrow wide : Access} {table : String} {intent : Intent}
  {today : Date}

theorem admits (h : narrow.Widens wide table) {field : String}
    (hadmits : Compilation.admits narrow table field) : Compilation.admits wide table field := by
  rw [Compilation.admits, Bool.and_eq_true] at hadmits ⊢
  exact ⟨hadmits.1, h.fields _ hadmits.2⟩

theorem survives (h : narrow.Widens wide table) {filter : Filter}
    (hsurvives : Compilation.survives narrow table filter) :
    Compilation.survives wide table filter := by
  rw [Compilation.survives, Bool.and_eq_true] at hsurvives ⊢
  exact ⟨h.admits hsurvives.1, hsurvives.2⟩

/-- The columns that were selected are among those that are now, in the same order. -/
theorem fields_sublist (h : narrow.Widens wide table) (requests : List ColumnRequest) :
    ((selectColumns narrow table [] requests).1.map Column.field).Sublist
      ((selectColumns wide table [] requests).1.map Column.field) := by
  have hfields : ∀ access, (selectColumns access table [] requests).1.map Column.field =
      (requests.filter (Compilation.admits access table ·.field)).map (canonical ·.field) := by
    intro access
    have hmap := congrArg (List.map Prod.fst) (map_selectColumns access table [] requests)
    simpa only [List.map_map, Function.comp_def] using hmap
  rw [hfields, hfields]
  exact (List.monotone_filter_right requests fun request => h.admits).map _

theorem admitted (h : narrow.Widens wide table)
    (hadmitted : Admitted settings narrow intent table) :
    Admitted settings wide intent table := by
  refine ⟨hadmitted.resolved, h.allowed, ?_⟩
  intro hnone
  have hsub := h.fields_sublist (columnRequests intent)
  rw [hnone, List.map_nil, List.sublist_nil, List.map_eq_nil_iff] at hsub
  exact hadmitted.columns hsub

theorem timeConditions (h : narrow.Widens wide table) {filter : Option TimeFilter}
    (hsome : (timeConditions settings narrow table today filter).1 ≠ []) :
    (timeConditions settings wide table today filter).1 =
      (timeConditions settings narrow table today filter).1 := by
  cases filter with
  | none => rfl
  | some filter =>
      cases hadmits : Compilation.admits narrow table
          (filter.dateField.getD settings.defaultDateField) with
      | false =>
          obtain ⟨_, -, hstep⟩ := timeConditions_of_not_admits today hadmits
          rw [hstep] at hsome
          exact absurd rfl hsome
      | true =>
          rw [timeConditions_of_admits today hadmits,
            timeConditions_of_admits today (h.admits hadmits)]

theorem policyConditions (h : narrow.Widens wide table) :
    policyConditions wide table = [] ∨
      policyConditions wide table = policyConditions narrow table := by
  unfold Compilation.policyConditions
  rcases h.rows with hnone | hsame
  · exact .inl (by rw [hnone])
  · exact .inr (by rw [hsame])

theorem filterConditions_sublist (h : narrow.Widens wide table) (filters : List Filter) :
    ((filterConditions narrow table filters).1.map Condition.auditEntry).Sublist
      ((filterConditions wide table filters).1.map Condition.auditEntry) := by
  have hentries : ∀ access, (filterConditions access table filters).1.map Condition.auditEntry =
      (filters.filter (Compilation.survives access table)).map fun filter =>
        ConditionCategory.user.tag ((filterPredicate? (canonical filter.field) filter.operator
          filter.value).getD "") := by
    intro access
    apply map_filterConditions
    intro filter test htest
    rw [filterPredicate?, htest]
    rfl
  rw [hentries, hentries]
  exact (List.monotone_filter_right filters fun filter => h.survives).map _

/-- A request that compiles under the narrower access compiles under the wider one, to no less. -/
theorem within (h : narrow.Widens wide table) (hadmitted : Admitted settings narrow intent table)
    (today : Date) :
    (run settings narrow intent today).Within (run settings wide intent today) := by
  have hwide := h.admitted hadmitted
  refine ⟨fun _ => success_iff.mpr ⟨table, hwide⟩, ?_, ?_, ?_, fun _ => ?_⟩
  · rw [fields_run hadmitted, fields_run hwide]
    exact h.fields_sublist (columnRequests intent)
  · simp only [entries_run hadmitted, entries_run hwide, conditionsOf]
    intro hsome
    rw [h.timeConditions (mt List.map_eq_nil_iff.mpr hsome)]
  · simp only [entries_run hadmitted, entries_run hwide, conditionsOf]
    exact h.filterConditions_sublist intent.filters
  · simp only [entries_run hadmitted, entries_run hwide, conditionsOf]
    rcases h.policyConditions with hnone | hsame
    · exact .inl (by rw [hnone, List.map_nil])
    · exact .inr (by rw [hsame])

end Access.Widens

/-- A compilation that was refused has nothing to lose. -/
theorem Compilation.Within.of_refused {narrow : Compilation} {rejection : Rejection}
    (h : narrow.outcome = .error rejection) (wide : Compilation) : narrow.Within wide := by
  have hresult : narrow.result = .ofRejection rejection narrow.warnings := by
    rw [Compilation.result, h]
  have hfields : narrow.fields = [] := by
    rw [Compilation.fields, h]
  have hentries : ∀ category, narrow.result.entries category = [] := by
    intro category
    rw [hresult]
    rfl
  have hfailure : ¬ narrow.result.success := by
    rw [hresult]
    exact Bool.false_ne_true
  refine ⟨fun hsuccess => absurd hsuccess hfailure, ?_, fun hsome => absurd (hentries .time) hsome,
    ?_, fun hsuccess => absurd hsuccess hfailure⟩
  · rw [hfields]
    exact List.nil_sublist _
  · rw [hentries]
    exact List.nil_sublist _

/-- Under a declared policy a caller who gains roles loses nothing: a request that compiled still
does, with the fields, the time window and the filters that it had, and with its row condition or
none. -/
theorem more_roles_more_access (settings : Settings) (allowlist : Allowlist)
    {fewer more : Caller} (hgains : fewer.Gains more) (intent : Intent) (today : Date) :
    (run settings ⟨allowlist.toPolicy, fewer⟩ intent today).Within
      (run settings ⟨allowlist.toPolicy, more⟩ intent today) := by
  cases houtcome : (run settings ⟨allowlist.toPolicy, fewer⟩ intent today).outcome with
  | error rejection => exact .of_refused houtcome _
  | ok statement =>
      have hsuccess : (compileOn settings ⟨allowlist.toPolicy, fewer⟩ intent today).success := by
        rw [compileOn, result, houtcome]
        rfl
      obtain ⟨table, hadmitted⟩ := success_iff.mp hsuccess
      exact (hgains.widens hadmitted.allowed).within hadmitted today

/-- A policy with a column for auditors only, under which managers see all rows. -/
def Sample.auditedPolicy : Allowlist where
  tables := [("orders",
    { fields := ["amount", "ordered_on", "region", "secret"]
      restrictedFields := [("secret", ["auditor"])]
      rowFilters := [⟨"region", "area"⟩]
      exemptRoles := ["manager"] })]

/-- An auditor keeps the row condition, and a manager is rid of it. -/
theorem more_roles_more_access_orders :
    (run {} ⟨Sample.auditedPolicy.toPolicy, Sample.caller⟩ Sample.intent
      Sample.day).result.entries .policy = ["[policy] (region = 'n''orth')"] ∧
    (run {} ⟨Sample.auditedPolicy.toPolicy, Sample.caller⟩ Sample.intent Sample.day).Within
      (run {} ⟨Sample.auditedPolicy.toPolicy, Sample.caller.withRole "auditor"⟩ Sample.intent
        Sample.day) ∧
    (run {} ⟨Sample.auditedPolicy.toPolicy, Sample.caller⟩ Sample.intent Sample.day).Within
      (run {} ⟨Sample.auditedPolicy.toPolicy, Sample.caller.withRole "manager"⟩ Sample.intent
        Sample.day) ∧
    (run {} ⟨Sample.auditedPolicy.toPolicy, Sample.caller.withRole "manager"⟩ Sample.intent
      Sample.day).result.entries .policy = [] := by
  have hgains : ∀ role, Sample.caller.Gains (Sample.caller.withRole role) :=
    fun role => ⟨rfl, rfl, fun _ hmem => List.mem_append_left [role] hmem⟩
  have hwithin := fun role =>
    more_roles_more_access {} Sample.auditedPolicy (hgains role) Sample.intent Sample.day
  exact ⟨by decide, hwithin "auditor", hwithin "manager", by decide⟩

end TenantQuery
