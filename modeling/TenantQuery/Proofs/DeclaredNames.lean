import TenantQuery.Proofs.Authorization
import TenantQuery.Proofs.Compilation.ClauseTexts
import TenantQuery.Proofs.LetterCase
import TenantQuery.Proofs.Policy.RowPredicate
import TenantQuery.Proofs.Refusal
import TenantQuery.Proofs.Text.Blank
/-!
The names that a policy declares are those that a request can come to.

A request comes to every table and column that is open to it, whatever letters and white space it
writes them with, as long as they are declared in canonical form.  Declared in any other form they
are never met, and a policy that is checked when it is loaded has none of these.
-/

namespace TenantQuery

open Sql Compilation Identifier

/-- The rules without the columns that are not in canonical form.  Row filters stay as they are. -/
def TableRules.live (rules : TableRules) : TableRules :=
  { rules with
    fields := rules.fields.filter isCanonical
    restrictedFields := rules.restrictedFields.filter fun entry => isCanonical entry.1 }

/-- The policy without the tables and columns that are not in canonical form. -/
def Allowlist.live (allowlist : Allowlist) : Allowlist where
  tables := (allowlist.tables.filter fun entry => isCanonicalTable entry.1).map fun entry =>
    (entry.1, entry.2.live)

/-- The request writes the table in some letters, with or without white space around it. -/
def Intent.Spells (intent : Intent) (table : String) : Prop :=
  ∃ before text after, intent.table = before ++ text ++ after ∧ Text.isBlankText before ∧
    Text.isBlankText after ∧ SameLetters text table

/-- The request writes the column in some letters, as a dimension or a metric. -/
def Intent.AsksFor (intent : Intent) (field : String) : Prop :=
  (∃ dimension ∈ intent.dimensions, SameLetters dimension.field field) ∨
    ∃ metric ∈ intent.metrics, SameLetters metric.field field

/-- The statement is over the field: it selects it, or it has a condition on it that is neither the
tenant's nor the policy's. -/
inductive Sql.Statement.IsOver (statement : Statement) : String → Prop where
  | column {column : Column} (h : column ∈ statement.columns) : IsOver statement column.field
  | time {window : TimeWindow} {field : String} (h : .time window field ∈ statement.conditions) :
      IsOver statement field
  | user {test : FilterTest} {field : String} (h : .user test field ∈ statement.conditions) :
      IsOver statement field

/-- A successful result that is written over the table, with a column over the field that is listed
at the place where it is selected. -/
structure CompileResult.Selects (result : CompileResult) (table field : String) : Prop where
  success : result.success
  column : ∃ (texts : ClauseTexts) (column : Column) (k : Nat), result.WrittenAs texts ∧
    texts.table = table ∧ column.field = field ∧ texts.columns[k]? = some column.render ∧
    result.columns[k]? = some (OutputColumn.ofColumn column)

/-- The second access answers as the first one does, as far as canonical names go. -/
structure Access.AgreesOnNames (first second : Access) : Prop where
  table : ∀ {table}, isCanonicalTable table → second.tableAllowed table = first.tableAllowed table
  field : ∀ {table field}, isCanonicalTable table → isCanonical field →
    second.fieldAllowed table field = first.fieldAllowed table field
  rows : ∀ {table}, isCanonicalTable table → second.rowPredicate table = first.rowPredicate table

section Reachable

variable {access : Access} {intent : Intent} {table field : String}

theorem isBlank_eq_false_of_isName {chars : List Char} (h : IsName chars) :
    ∀ c ∈ chars, Text.isBlank c = false :=
  fun c hc => isBlank_eq_false_of_isNameChar (h.all c hc)

/-- There is nothing blank in the name of a table, the point between its parts included. -/
theorem isBlank_eq_false_of_isCanonicalTable (h : isCanonicalTable table) :
    ∀ c ∈ table.toList, Text.isBlank c = false := by
  have hparts := isName_of_isCanonicalTable h
  cases hcut : Text.cutAt? '.' table.toList with
  | none =>
      rw [hcut] at hparts
      exact isBlank_eq_false_of_isName hparts
  | some parts =>
      obtain ⟨schema, inner⟩ := parts
      rw [hcut] at hparts
      rw [Text.append_of_cutAt? hcut]
      intro c hc
      rcases List.mem_append.mp hc with hc | hc
      · exact isBlank_eq_false_of_isName hparts.1 c hc
      · rcases List.mem_cons.mp hc with rfl | hc
        · rfl
        · exact isBlank_eq_false_of_isName hparts.2 c hc

theorem isTableName_of_isCanonicalTable (h : isCanonicalTable table) : isTableName table :=
  (Bool.and_eq_true _ _ ▸ h : isTableName table ∧ isFolded table).1

theorem canonical_of_isCanonicalTable (h : isCanonicalTable table) : canonical table = table :=
  canonical_eq_self (Bool.and_eq_true _ _ ▸ h : isTableName table ∧ isFolded table).2

/-- Letters and white space aside, the request says the name of the table. -/
theorem canonical_trim_of_spells (h : isCanonicalTable table) (hspells : intent.Spells table) :
    canonical (Text.trim intent.table) = table := by
  obtain ⟨before, text, after, htable, hbefore, hafter, hletters⟩ := hspells
  have hblank : ∀ {blank : String}, Text.isBlankText blank →
      ∀ c ∈ (canonical blank).toList, Text.isBlank c := by
    intro blank hall
    rw [← isBlankText_canonical] at hall
    exact List.all_eq_true.mp hall
  have hname : canonical text = table := hletters.trans (canonical_of_isCanonicalTable h)
  rw [← trim_canonical]
  apply String.toList_inj.mp
  calc (Text.trim (canonical intent.table)).toList
      = Text.trimChars ((canonical before).toList ++ (canonical text).toList ++
          (canonical after).toList) := by simp [htable, canonical]
    _ = Text.trimChars (canonical text).toList :=
        Text.trimChars_padded _ (hblank hbefore) (hblank hafter)
    _ = table.toList := by
        rw [hname]
        exact Text.trimChars_of_visible (isBlank_eq_false_of_isCanonicalTable h)

/-- However a canonical name of a table is written, it is this table that is meant. -/
theorem meansTable_of_spells (settings : Settings) (h : isCanonicalTable table)
    (hspells : intent.Spells table) : intent.MeansTable settings table := by
  have hname := canonical_trim_of_spells h hspells
  have hshown : Text.isBlankText intent.table = false := by
    rw [← Text.isEmpty_trim, Bool.eq_false_iff]
    intro hempty
    rw [String.isEmpty_iff.mp hempty] at hname
    subst hname
    cases h
  refine ⟨Text.trim intent.table, by simp [Intent.tableText?, hshown], ?_, hname.symm⟩
  rw [← isTableName_canonical, hname]
  exact isTableName_of_isCanonicalTable h

/-- A column that is open to the caller is admitted in whatever letters it is written. -/
theorem admits_of_sameLetters (hfield : isCanonical field)
    (hallowed : access.fieldAllowed table field) {written : String}
    (hletters : SameLetters written field) :
    admits access table written ∧ canonical written = field := by
  obtain ⟨hidentifier, hfolded⟩ := isCanonical_iff.mp hfield
  have hname : canonical written = field := hletters.trans hfolded
  rw [admits, ← isIdentifier_canonical, hname]
  exact ⟨by simp [hidentifier, hallowed], rfl⟩

/-- The requested column is selected. -/
theorem exists_column_of_asksFor (hfield : isCanonical field)
    (hallowed : access.fieldAllowed table field) (hasks : intent.AsksFor field) :
    ∃ column ∈ (selectColumns access table [] (columnRequests intent)).1, column.field = field := by
  have hselected : ∀ request ∈ columnRequests intent, SameLetters request.field field →
      ∃ column ∈ (selectColumns access table [] (columnRequests intent)).1,
        column.field = field := by
    intro request hrequest hletters
    obtain ⟨hadmits, hname⟩ := admits_of_sameLetters hfield hallowed hletters
    have hkept : (canonical request.field, request.shape) ∈
        (selectColumns access table [] (columnRequests intent)).1.map
          (fun column => (column.field, column.shape)) := by
      rw [map_selectColumns]
      exact List.mem_map_of_mem (List.mem_filter.mpr ⟨hrequest, hadmits⟩)
    obtain ⟨column, hcolumn, hsame⟩ := List.mem_map.mp hkept
    exact ⟨column, hcolumn, (congrArg Prod.fst hsame).trans hname⟩
  rcases hasks with ⟨dimension, hmem, hletters⟩ | ⟨metric, hmem, hletters⟩
  · exact hselected (.ofDimension dimension)
      (List.mem_append_left _ (List.mem_map_of_mem hmem)) hletters
  · exact hselected (.ofMetric metric)
      (List.mem_append_right _ (List.mem_map_of_mem hmem)) hletters

/-- A request for a column that is open to the caller compiles, and the column is selected. -/
theorem exists_statement_of_asksFor {allowlist : Allowlist} (h : allowlist.Canonical)
    (settings : Settings) (today : Date) {caller : Caller}
    (hallowed : allowlist.toPolicy.fieldAllowed table field caller)
    (hspells : intent.Spells table) (hasks : intent.AsksFor field) :
    ∃ statement,
      (run settings ⟨allowlist.toPolicy, caller⟩ intent today).outcome = .ok statement ∧
      statement.table = table ∧ (∃ column ∈ statement.columns, column.field = field) ∧
      (compileOn settings ⟨allowlist.toPolicy, caller⟩ intent today).Selects table field := by
  obtain ⟨rules, hrules, hlists⟩ := Allowlist.exists_of_fieldAllowed hallowed
  have hentry := Allowlist.mem_of_admitted? hrules
  have htable : isCanonicalTable table := h.tables _ hentry
  have hfield : isCanonical field := (h.rules _ hentry).of_lists hlists
  have hopen : Access.fieldAllowed ⟨allowlist.toPolicy, caller⟩ table field := hallowed
  obtain ⟨column, hcolumn, hname⟩ := exists_column_of_asksFor hfield hopen hasks
  have hadmitted : Admitted settings ⟨allowlist.toPolicy, caller⟩ intent table :=
    ⟨resolveTable?_eq_some_iff.mpr (meansTable_of_spells settings htable hspells),
      Option.isSome_iff_exists.mpr ⟨rules, hrules⟩, List.ne_nil_of_mem hcolumn⟩
  obtain ⟨k, hk⟩ := List.getElem?_of_mem hcolumn
  refine ⟨statementOver settings ⟨allowlist.toPolicy, caller⟩ table intent today, ?_, rfl,
    ⟨column, hcolumn, hname⟩, success_iff.mpr ⟨table, hadmitted⟩, _, column,
    k, writtenAs_of_admitted hadmitted today, rfl, hname, ?_, ?_⟩
  · rw [run_of_admitted hadmitted today]
  · rw [Statement.clauseTexts, List.getElem?_map]
    exact congrArg _ hk
  · rw [columns_of_admitted hadmitted today, List.getElem?_map, hk]
    rfl

end Reachable

section Unmet

variable {settings : Settings} {access first second : Access} {intent : Intent}
  {table field : String} {today : Date}

/-- Whatever a statement is over was authorized in canonical form. -/
theorem mayName_of_isOver
    (h : (statementOver settings access table intent today).IsOver field) :
    MayName access table field := by
  cases h with
  | column hmem =>
      obtain ⟨request, -, hadmits, earlier, -, rfl⟩ := exists_request hmem
      exact mayName_of_admits hadmits
  | time hmem =>
      obtain ⟨given, hadmits, rfl⟩ := (mem_conditions hmem).resolve_left (by simp)
      exact mayName_of_admits hadmits
  | user hmem =>
      obtain ⟨given, hadmits, rfl⟩ := (mem_conditions hmem).resolve_left (by simp)
      exact mayName_of_admits hadmits

/-- A statement is over a listed table and listed columns of it, all in canonical form. -/
theorem exists_rules_of_outcome {allowlist : Allowlist} {caller : Caller} {statement : Statement}
    (h : (run settings ⟨allowlist.toPolicy, caller⟩ intent today).outcome = .ok statement) :
    isCanonicalTable statement.table ∧ ∃ rules, (statement.table, rules) ∈ allowlist.tables ∧
      ∀ field, statement.IsOver field → isCanonical field ∧ rules.Lists field := by
  have hsuccess : (compileOn settings ⟨allowlist.toPolicy, caller⟩ intent today).success := by
    rw [compileOn, result, h]
    rfl
  obtain ⟨table, hadmitted⟩ := success_iff.mp hsuccess
  rw [run_of_admitted hadmitted today] at h
  cases h
  obtain ⟨rules, hrules⟩ := Option.isSome_iff_exists.mp hadmitted.allowed
  refine ⟨isCanonicalTable_of_resolveTable? hadmitted.resolved, rules,
    Allowlist.mem_of_admitted? hrules, ?_⟩
  intro field hover
  obtain ⟨hcanonical, hallowed⟩ := mayName_of_isOver hover
  refine ⟨hcanonical, ?_⟩
  obtain ⟨others, hothers, hlists⟩ := Allowlist.exists_of_fieldAllowed hallowed
  cases hrules.symm.trans hothers
  exact hlists

namespace Access.AgreesOnNames

/-- Only canonical names are put to the policy. -/
theorem authorize_eq (h : first.AgreesOnNames second) (htable : isCanonicalTable table)
    (role : FieldRole) (field : String) :
    authorize second table role field = authorize first table role field := by
  unfold authorize
  cases hidentifier : isIdentifier field with
  | false => rfl
  | true => simp only [h.field htable (isCanonical_canonical hidentifier)]

theorem selectColumns_eq (h : first.AgreesOnNames second) (htable : isCanonicalTable table)
    (taken : List String) (requests : List ColumnRequest) :
    selectColumns second table taken requests = selectColumns first table taken requests := by
  induction requests generalizing taken with
  | nil => rfl
  | cons request rest ih => simp only [selectColumns, h.authorize_eq htable, ih]

theorem conditions_eq (h : first.AgreesOnNames second) (htable : isCanonicalTable table)
    (settings : Settings) (today : Date) (intent : Intent) :
    conditions settings second table today intent =
      conditions settings first table today intent := by
  have hfilter : filterCondition second table = filterCondition first table := by
    funext filter
    simp only [filterCondition, h.authorize_eq htable]
  have htime : timeConditions settings second table today intent.timeFilter =
      timeConditions settings first table today intent.timeFilter := by
    cases intent.timeFilter with
    | none => rfl
    | some filter => simp only [timeConditions, h.authorize_eq htable]
  simp only [conditions, policyConditions, filterConditions, h.rows htable, hfilter, htime]

/-- A compilation asks about the canonical names of tables and columns and about no others. -/
theorem run_eq (h : first.AgreesOnNames second) (settings : Settings) (intent : Intent)
    (today : Date) : run settings second intent today = run settings first intent today := by
  cases hresolved : resolveTable? settings intent.table with
  | none => simp only [run, hresolved]
  | some table =>
      have htable := isCanonicalTable_of_resolveTable? hresolved
      simp only [run, hresolved, h.table htable, h.selectColumns_eq htable,
        h.conditions_eq htable]

end Access.AgreesOnNames

theorem TableRules.fieldVisible_live {field : String} (h : isCanonical field) (rules : TableRules)
    (caller : Caller) : rules.live.fieldVisible field caller = rules.fieldVisible field caller := by
  have hrestricted : rules.live.restrictedFields.get? field =
      rules.restrictedFields.get? field := by
    rw [TableRules.live, Dictionary.get?_filter isCanonical, if_pos h]
  have hopen : rules.live.fields.contains field = rules.fields.contains field := by
    rw [Bool.eq_iff_iff, List.contains_iff_mem, List.contains_iff_mem, TableRules.live,
      List.mem_filter]
    exact and_iff_left h
  simp only [TableRules.fieldVisible, hrestricted, hopen]

theorem Allowlist.admitted?_live {table : String} (h : isCanonicalTable table)
    (allowlist : Allowlist) (caller : Caller) :
    allowlist.live.admitted? table caller =
      (allowlist.admitted? table caller).map TableRules.live := by
  have hlisted : allowlist.live.tables.get? table =
      (allowlist.tables.get? table).map TableRules.live := by
    rw [Allowlist.live, Dictionary.get?_map, Dictionary.get?_filter isCanonicalTable, if_pos h]
  rw [Allowlist.admitted?, Allowlist.admitted?, hlisted]
  cases allowlist.tables.get? table with
  | none => rfl
  | some rules =>
      have hsame : rules.live.admits caller = rules.admits caller := rfl
      simp only [Option.map_some, Option.filter_some, hsame]
      split <;> rfl

/-- The names that are not in canonical form make no difference to the answers of a policy. -/
theorem Allowlist.agreesOnNames_live (allowlist : Allowlist) (caller : Caller) :
    Access.AgreesOnNames ⟨allowlist.toPolicy, caller⟩ ⟨allowlist.live.toPolicy, caller⟩ where
  table {table} htable := by
    simp only [Access.tableAllowed, Allowlist.toPolicy, Allowlist.admitted?_live htable,
      Option.isSome_map]
  field {table field} htable hfield := by
    simp only [Access.fieldAllowed, Allowlist.toPolicy, Allowlist.admitted?_live htable]
    cases allowlist.admitted? table caller with
    | none => rfl
    | some rules => exact TableRules.fieldVisible_live hfield rules caller
  rows {table} htable := by
    simp only [Access.rowPredicate, Allowlist.toPolicy, Allowlist.admitted?_live htable,
      Option.bind_map]
    rfl

end Unmet

/-- A policy passes its check exactly when all its names are in canonical form.  Under such a policy
every request for a column that is open to the caller succeeds with it in the statement and in the
columns, whatever letters and white space it is written with.  Under any policy a statement is over
a table and columns that are listed in canonical form, and the result and the reports are the same
without the other names. -/
theorem declared_names_reachable (allowlist : Allowlist) (settings : Settings) (caller : Caller)
    (intent : Intent) (today : Date) :
    (allowlist.validate = .ok allowlist ↔ allowlist.Canonical) ∧
    (allowlist.validate = .ok allowlist → ∀ table field,
      allowlist.toPolicy.fieldAllowed table field caller → intent.Spells table →
      intent.AsksFor field →
      ∃ statement,
        (run settings ⟨allowlist.toPolicy, caller⟩ intent today).outcome = .ok statement ∧
        statement.table = table ∧ (∃ column ∈ statement.columns, column.field = field) ∧
        (compileOn settings ⟨allowlist.toPolicy, caller⟩ intent today).Selects table field) ∧
    (∀ statement,
      (run settings ⟨allowlist.toPolicy, caller⟩ intent today).outcome = .ok statement →
      isCanonicalTable statement.table ∧ ∃ rules, (statement.table, rules) ∈ allowlist.tables ∧
        ∀ field, statement.IsOver field → isCanonical field ∧ rules.Lists field) ∧
    compileOn settings ⟨allowlist.live.toPolicy, caller⟩ intent today =
      compileOn settings ⟨allowlist.toPolicy, caller⟩ intent today ∧
    compileEvents settings ⟨allowlist.live.toPolicy, caller⟩ intent today =
      compileEvents settings ⟨allowlist.toPolicy, caller⟩ intent today := by
  have hrun := (allowlist.agreesOnNames_live caller).run_eq settings intent today
  refine ⟨Allowlist.validate_eq_ok_iff, ?_, fun _ => exists_rules_of_outcome, ?_, ?_⟩
  · intro hvalid table field hallowed hspells hasks
    exact exists_statement_of_asksFor (Allowlist.validate_eq_ok_iff.mp hvalid) settings today
      hallowed hspells hasks
  · rw [compileOn, compileOn, hrun]
  · rw [compileEvents, compileEvents, hrun]

namespace Sample

/-- A policy with a column that is not declared in canonical form. -/
def unmetPolicy : Allowlist where
  tables := [("Orders", {}), ("orders", { fields := ["Amount", "region"] })]

/-- A request for orders with white space around the table and capitals. -/
def spacedIntent : Intent where
  table := "\u3000ORDERS "
  dimensions := [{ field := "Region" }]
  metrics := [{ field := "AMOUNT" }]

theorem spells_spacedIntent : spacedIntent.Spells "orders" :=
  ⟨"\u3000", "ORDERS", " ", by decide, by decide, by decide, by decide⟩

end Sample

/-- The amounts are reached where they are declared in canonical form, and not where they are
declared with a capital. -/
theorem declared_names_reachable_amount :
    Sample.policy.validate = .ok Sample.policy ∧
      (compileOn {} ⟨Sample.policy.toPolicy, Sample.caller⟩ Sample.spacedIntent
        Sample.day).Selects "orders" "amount" ∧
      Sample.unmetPolicy.validate ≠ .ok Sample.unmetPolicy ∧
      compileOn {} ⟨Sample.unmetPolicy.live.toPolicy, Sample.caller⟩ Sample.spacedIntent
          Sample.day =
        compileOn {} ⟨Sample.unmetPolicy.toPolicy, Sample.caller⟩ Sample.spacedIntent
          Sample.day := by
  obtain ⟨hvalid, hreach, -⟩ := declared_names_reachable Sample.policy {} Sample.caller
    Sample.spacedIntent Sample.day
  obtain ⟨hinvalid, -, -, hsame, -⟩ := declared_names_reachable Sample.unmetPolicy {}
    Sample.caller Sample.spacedIntent Sample.day
  have hpolicy : Sample.policy.validate = .ok Sample.policy := by decide
  have hasks : Sample.spacedIntent.AsksFor "amount" :=
    .inr ⟨_, List.mem_singleton.mpr rfl, by decide⟩
  obtain ⟨-, -, -, -, hselects⟩ :=
    hreach hpolicy "orders" "amount" (by decide) Sample.spells_spacedIntent hasks
  exact ⟨hpolicy, hselects, by decide, hsame⟩

end TenantQuery
