import TenantQuery.Proofs.Compilation.Outcome
import TenantQuery.Proofs.Policy.RowPredicate
/-!
No text of a request becomes anything but the content of a literal.

A statement ends outside its literals, has no mark outside of them that ends a statement, quotes a
name or starts a comment, and closes every bracket.  Its literals hold the texts of the request and
of the caller as they came, in the order of the parts that bring them.
-/

namespace TenantQuery

open Sql Compilation Identifier

def Json.text? : Json → Option String
  | .string value => some value
  | _ => none

/-- The strings in a value: those in a list, or the value itself. -/
def Json.strings : Json → List String
  | .array items => items.filterMap Json.text?
  | value => value.text?.toList

/-- The texts that a filter brings: its strings as they are, or its pattern. -/
def Filter.texts (filter : Filter) : List String :=
  match filter.operator with
  | .isNull | .isNotNull => []
  | .like => patterns .contains
  | .startsWith => patterns .startsWith
  | .endsWith => patterns .endsWith
  | _ => (filter.value.map Json.strings).getD []
where
  patterns (shape : LikeShape) : List String :=
    ((filter.value.bind patternText?).map shape.pattern).toList

/-- The words, counts and dates of the window that a time filter asks for, when the caller may
name its column. -/
def windowTexts (settings : Settings) (access : Access) (table : String) (intent : Intent)
    (today : Date) : List String :=
  match intent.timeFilter with
  | some filter =>
    if admits access table (filter.dateField.getD settings.defaultDateField) then
      (filter.resolve today).window.texts
    else []
  | none => []

/-- The units to which the surviving dimensions are truncated. -/
def unitTexts (access : Access) (table : String) (intent : Intent) : List String :=
  (intent.dimensions.filter (admits access table ·.field)).filterMap fun dimension =>
    dimension.granularity.map Granularity.unit

theorem texts_of_ofJson? {value : Json} {operand : Literal}
    (h : Literal.ofJson? value = some operand) :
    operand.texts = value.strings ∧ operand.texts = value.text?.toList := by
  cases value <;> simp_all [Literal.ofJson?] <;> subst h <;> exact ⟨rfl, rfl⟩

theorem texts_of_mapM {items : List Json} {found : List Literal}
    (h : items.mapM Literal.ofJson? = some found) :
    found.flatMap Literal.texts = items.filterMap Json.text? := by
  induction items generalizing found with
  | nil =>
      cases h
      rfl
  | cons item rest ih =>
      simp only [List.mapM_cons, Option.bind_eq_bind, Option.bind_eq_some_iff] at h
      obtain ⟨operand, hoperand, others, hothers, hfound⟩ := h
      cases hfound
      rw [List.flatMap_cons, ih hothers, (texts_of_ofJson? hoperand).2, List.filterMap_cons]
      cases item.text? <;> rfl

theorem texts_of_items? {value : Json} {found : List Literal}
    (h : FilterTest.items? value = some found) :
    found.flatMap Literal.texts = value.strings := by
  cases value with
  | array items => exact texts_of_mapM h
  | _ =>
      simp only [FilterTest.items?] at h
      obtain ⟨operand, hoperand, rfl⟩ := Option.map_eq_some_iff.mp h
      simpa using (texts_of_ofJson? hoperand).1

/-- A test holds the texts of its filter. -/
theorem texts_of_of? {filter : Filter} {test : FilterTest}
    (h : FilterTest.of? filter.operator filter.value = some test) : test.texts = filter.texts := by
  have hcompare : ∀ {comparison : Comparison},
      (filter.value.bind Literal.ofJson?).map (.compare comparison) = some test →
        test.texts = (filter.value.map Json.strings).getD [] := by
    intro comparison h
    obtain ⟨operand, hoperand, rfl⟩ := Option.map_eq_some_iff.mp h
    obtain ⟨value, hvalue, hliteral⟩ := Option.bind_eq_some_iff.mp hoperand
    rw [hvalue]
    exact (texts_of_ofJson? hliteral).1
  have hlike : ∀ {shape : LikeShape},
      (filter.value.bind patternText?).map (.like shape) = some test →
        test.texts = Filter.texts.patterns filter shape := by
    intro shape h
    obtain ⟨text, htext, rfl⟩ := Option.map_eq_some_iff.mp h
    rw [Filter.texts.patterns, htext]
    rfl
  have hlist : ∀ {found : List Literal}, filter.value.bind FilterTest.items? = some found →
      found.flatMap Literal.texts = (filter.value.map Json.strings).getD [] := by
    intro found h
    obtain ⟨value, hvalue, hitems⟩ := Option.bind_eq_some_iff.mp h
    rw [hvalue]
    exact texts_of_items? hitems
  unfold Filter.texts
  cases hoperator : filter.operator <;> rw [hoperator] at h
  case isNull => cases h; rfl
  case isNotNull => cases h; rfl
  case like => exact hlike h
  case startsWith => exact hlike h
  case endsWith => exact hlike h
  case isIn =>
    obtain ⟨found, hfound, rfl⟩ := Option.map_eq_some_iff.mp h
    exact hlist hfound
  case notIn =>
    obtain ⟨found, hfound, rfl⟩ := Option.map_eq_some_iff.mp h
    exact hlist hfound
  all_goals exact hcompare h

section Statement

variable {settings : Settings} {access : Access} {table : String} {intent : Intent} {today : Date}

theorem texts_columns :
    (statementOver settings access table intent today).columns.flatMap Column.texts =
      unitTexts access table intent := by
  have hshape : ∀ columns : List Column, columns.flatMap Column.texts =
      (columns.map fun column => (column.field, column.shape)).flatMap fun pair =>
        Column.texts ⟨pair.1, pair.2, ""⟩ := by
    intro columns
    rw [List.flatMap_map]
    rfl
  rw [hshape, statementOver, map_selectColumns, columnRequests, List.filter_append,
    List.map_append, List.flatMap_append, List.filter_map, List.filter_map]
  have hdimensions : ∀ dimensions : List Dimension,
      ((dimensions.map ColumnRequest.ofDimension).map fun request =>
        (canonical request.field, request.shape)).flatMap (fun pair =>
          Column.texts ⟨pair.1, pair.2, ""⟩) =
        dimensions.filterMap fun dimension => dimension.granularity.map Granularity.unit := by
    intro dimensions
    induction dimensions with
    | nil => rfl
    | cons dimension rest ih =>
        simp only [List.map_cons, List.flatMap_cons, ih, List.filterMap_cons]
        cases hunit : dimension.granularity <;>
          simp [ColumnRequest.ofDimension, Column.texts, hunit]
  have hmetrics : ∀ metrics : List Metric,
      ((metrics.map ColumnRequest.ofMetric).map fun request =>
        (canonical request.field, request.shape)).flatMap (fun pair =>
          Column.texts ⟨pair.1, pair.2, ""⟩) = [] := by
    intro metrics
    rw [List.flatMap_eq_nil_iff]
    intro pair hpair
    simp only [List.map_map, List.mem_map] at hpair
    obtain ⟨metric, -, rfl⟩ := hpair
    rfl
  rw [hdimensions, hmetrics, List.append_nil, unitTexts]
  rfl

theorem texts_timeConditions :
    (timeConditions settings access table today intent.timeFilter).1.flatMap Condition.texts =
      windowTexts settings access table intent today := by
  unfold windowTexts
  cases intent.timeFilter with
  | none => rfl
  | some filter =>
      cases hadmits : admits access table (filter.dateField.getD settings.defaultDateField) with
      | false =>
          obtain ⟨_, -, hstep⟩ := timeConditions_of_not_admits today hadmits
          simp [hstep, hadmits]
      | true => simp [timeConditions_of_admits today hadmits, Condition.texts, hadmits]

theorem texts_filterConditions (filters : List Filter) :
    (filterConditions access table filters).1.flatMap Condition.texts =
      (filters.filter (survives access table)).flatMap Filter.texts := by
  rw [List.flatMap_def, List.flatMap_def]
  congr 1
  apply map_filterConditions
  intro filter test htest
  exact texts_of_of? htest

/-- A declared policy adds the attributes that it compares with, and nothing else. -/
theorem texts_policyConditions {allowlist : Allowlist} {caller : Caller}
    (hfault : allowlist.fault? = none) :
    (policyConditions ⟨allowlist.toPolicy, caller⟩ table).flatMap Condition.texts =
      allowlist.rowTexts table caller := by
  unfold policyConditions
  cases hrow : Access.rowPredicate ⟨allowlist.toPolicy, caller⟩ table with
  | none => exact (Allowlist.rowTexts_of_none hrow).symm
  | some predicate =>
      obtain ⟨tokens, names, htokens, -, hliterals⟩ := Allowlist.exists_tokens_trim hfault hrow
      have htexts : (literals tokens).map String.ofList = allowlist.rowTexts table caller := by
        simp [hliterals]
      by_cases hblank : (Text.trim predicate).isEmpty
      · rw [String.isEmpty_iff.mp hblank] at htokens
        cases htokens
        simpa [hblank] using htexts
      · simpa [hblank, Condition.texts, htokens] using htexts

end Statement

/-- Outside its literals a statement has nothing of a request but names, and its literals are the
texts of the request and of the caller, unchanged and in order. -/
theorem injection_resistance {settings : Settings} {allowlist : Allowlist} {caller : Caller}
    {intent : Intent} {today : Date} (hsettings : settings.fault? = none)
    (hpolicy : allowlist.fault? = none)
    (hsuccess : (compileOn settings ⟨allowlist.toPolicy, caller⟩ intent today).success) :
    ∃ table sql tokens,
      resolveTable? settings intent.table = some table ∧
      (compileOn settings ⟨allowlist.toPolicy, caller⟩ intent today).sql = some sql ∧
      tokens? sql = some tokens ∧
      (∀ c ∈ [';', '"'], .mark c ∉ tokens) ∧ CommentFree tokens ∧ Balanced allBrackets tokens ∧
      (literals tokens).map String.ofList =
        unitTexts ⟨allowlist.toPolicy, caller⟩ table intent ++
          allowlist.rowTexts table caller ++
          windowTexts settings ⟨allowlist.toPolicy, caller⟩ table intent today ++
          (intent.filters.filter (survives ⟨allowlist.toPolicy, caller⟩ table)).flatMap
            Filter.texts := by
  obtain ⟨table, hadmitted⟩ := success_iff.mp hsuccess
  have hnamed := wellNamed_statementOver ⟨allowlist.toPolicy, caller⟩ intent today
    (isCanonical_tenantColumn hsettings) (isCanonicalTable_of_resolveTable? hadmitted.resolved)
  have hfits : ∀ predicate, .policy predicate ∈ (statementOver settings
      ⟨allowlist.toPolicy, caller⟩ table intent today).conditions →
      Fits allBrackets (· ∈ '$' :: plainMarks) (fun _ => True) predicate := by
    intro predicate hmem
    obtain ⟨given, hrow, rfl⟩ := (mem_conditions hmem).resolve_left (by simp)
    obtain ⟨tokens, names, htokens, hplain, -⟩ := Allowlist.exists_tokens_trim hpolicy hrow
    exact ⟨tokens, htokens,
      Contained.mono hplain (fun _ => List.mem_cons_of_mem '$') fun _ _ => trivial⟩
  have hcontained := Statement.contained_tokens hnamed (Roomy.all fun _ _ => trivial)
    List.mem_cons_self hfits
  have htokens := Statement.tokens?_render hcontained.spaced fun predicate hmem =>
    (hfits predicate hmem).imp fun _ h => h.1
  refine ⟨table, _, _, hadmitted.resolved, sql_of_admitted hadmitted today, htokens, ?_,
    hcontained.commentFree, hcontained.balanced, ?_⟩
  · intro c hc hmem
    simp only [List.mem_cons, List.not_mem_nil, or_false] at hc
    rcases hc with rfl | rfl <;> exact absurd (hcontained.marks _ hmem) (by decide)
  · rw [Statement.literals_tokens, Statement.texts, texts_columns, statementOver, conditions_fst,
      List.flatMap_cons, laterConditions, List.flatMap_append, List.flatMap_append,
      texts_policyConditions hpolicy, texts_timeConditions, texts_filterConditions]
    simp [Condition.texts]

theorem injection_resistance_orders :
    ∃ sql tokens,
      (compileOn {} ⟨Sample.policy.toPolicy, Sample.caller⟩ Sample.intent Sample.day).sql =
        some sql ∧
      tokens? sql = some tokens ∧
      (literals tokens).map String.ofList =
        ["month", "n'orth", "7 days", "a'b", "x' OR 1=1 --", "%50\\%%"] := by
  have hsettings : ({} : Settings).fault? = none := by decide
  have hpolicy : Sample.policy.fault? = none := by decide
  have hsuccess : (compileOn {} ⟨Sample.policy.toPolicy, Sample.caller⟩ Sample.intent
      Sample.day).success := by
    decide
  obtain ⟨table, sql, tokens, htable, hsql, htokens, -, -, -, hliterals⟩ :=
    injection_resistance hsettings hpolicy hsuccess
  obtain rfl : "orders" = table := Option.some_inj.mp htable
  exact ⟨sql, tokens, hsql, htokens, hliterals.trans (by decide)⟩

end TenantQuery
