import TenantQuery.Chart
import TenantQuery.Proofs.Compilation.Outcome
/-!
When a request is refused, and what is left of it then.

There are three reasons, looked for one after the other: there is no table, the table is closed to
the caller, or none of the columns is open to the caller.  Nothing else of a request can stop it,
and of one that is stopped nothing is left to execute or to draw.
-/

namespace TenantQuery

open Sql Compilation Identifier

/-- The table of a request as it is written: its own, or the default one where that is blank. -/
def Intent.tableText? (settings : Settings) (intent : Intent) : Option String :=
  if Text.isBlankText intent.table then settings.defaultTable else some (Text.trim intent.table)

/-- The request means a table, and this is the canonical name of it. -/
def Intent.MeansTable (settings : Settings) (intent : Intent) (table : String) : Prop :=
  ∃ text, intent.tableText? settings = some text ∧ isTableName text ∧ table = canonical text

/-- One of the requested columns is over a field that the caller may name. -/
def Intent.ReachesColumn (access : Access) (table : String) (intent : Intent) : Prop :=
  (∃ dimension ∈ intent.dimensions, admits access table dimension.field) ∨
    ∃ metric ∈ intent.metrics, admits access table metric.field

/-- The first reason to refuse a request. -/
inductive Intent.Refused (settings : Settings) (access : Access) (intent : Intent) :
    Rejection → Prop where
  | invalidTable (h : ∀ table, ¬ intent.MeansTable settings table) :
      Refused settings access intent .invalidTable
  | accessDenied {table : String} (htable : intent.MeansTable settings table)
      (h : access.tableAllowed table = false) :
      Refused settings access intent (.accessDenied table)
  | noAccessibleColumns {table : String} (htable : intent.MeansTable settings table)
      (hallowed : access.tableAllowed table = true) (h : ¬ intent.ReachesColumn access table) :
      Refused settings access intent .noAccessibleColumns

/-- A result that says why it failed and holds nothing else that could be used. -/
structure CompileResult.FailsFor (result : CompileResult) (rejection : Rejection) : Prop where
  failure : result.success = false
  error : result.error = some rejection.message
  sql : result.sql = none
  columns : result.columns = []
  appliedFilters : result.appliedFilters = []
  hints : ∀ intent question, ChartHints.of? intent result question = none
  /-- Without a table that is open, no part of the request was looked at. -/
  warnings : rejection ≠ .noAccessibleColumns → result.warnings = []

/-- What the error of a refusal begins with. -/
def Rejection.initial : Rejection → Char
  | .invalidTable => 'I'
  | .accessDenied _ => 'A'
  | .noAccessibleColumns => 'N'

theorem Rejection.head?_message (rejection : Rejection) :
    rejection.message.toList.head? = some rejection.initial := by
  cases rejection with
  | invalidTable => rfl
  | noAccessibleColumns => rfl
  | accessDenied table =>
      change ("Access to table '" ++ table ++ "' denied").toList.head? = some 'A'
      simp

/-- The error of a refusal tells its reason, the name of the table included. -/
theorem Rejection.message_injective : Function.Injective Rejection.message := by
  intro first second heq
  have hhead := congrArg (fun text => text.toList.head?) heq
  simp only [Rejection.head?_message, Option.some_inj] at hhead
  cases first <;> cases second
  case accessDenied.accessDenied table other =>
    change "Access to table '" ++ table ++ "' denied" =
      "Access to table '" ++ other ++ "' denied" at heq
    have hchars := congrArg String.toList heq
    simp only [String.toList_append, List.append_left_inj, List.append_right_inj] at hchars
    rw [String.toList_inj.mp hchars]
  all_goals first | rfl | simp [Rejection.initial] at hhead

section Reasons

variable {settings : Settings} {access : Access} {intent : Intent} {table : String}

theorem resolveTable?_eq_some_iff :
    resolveTable? settings intent.table = some table ↔ intent.MeansTable settings table := by
  simp only [resolveTable?, Text.isEmpty_trim, Option.map_eq_some_iff, Option.filter_eq_some_iff,
    Intent.MeansTable, Intent.tableText?]
  constructor
  · rintro ⟨text, ⟨htext, hname⟩, rfl⟩
    exact ⟨text, htext, hname, rfl⟩
  · rintro ⟨text, htext, hname, rfl⟩
    exact ⟨text, ⟨htext, hname⟩, rfl⟩

theorem resolveTable?_eq_none_iff :
    resolveTable? settings intent.table = none ↔ ∀ table, ¬ intent.MeansTable settings table := by
  rw [Option.eq_none_iff_forall_ne_some]
  exact forall_congr' fun table => not_congr resolveTable?_eq_some_iff

/-- Columns come out exactly when one of those requested is open to the caller. -/
theorem selectColumns_ne_nil_iff :
    (selectColumns access table [] (columnRequests intent)).1 ≠ [] ↔
      intent.ReachesColumn access table := by
  have hmap := map_selectColumns access table [] (columnRequests intent)
  have hnil : (selectColumns access table [] (columnRequests intent)).1 = [] ↔
      (columnRequests intent).filter (admits access table ·.field) = [] := by
    rw [← List.map_eq_nil_iff, hmap, List.map_eq_nil_iff]
  rw [ne_eq, hnil, List.filter_eq_nil_iff]
  simp only [columnRequests, List.forall_mem_append, List.forall_mem_map,
    ColumnRequest.ofDimension, ColumnRequest.ofMetric, Intent.ReachesColumn]
  rw [not_and_or]
  push Not
  rfl

theorem admitted_iff :
    Admitted settings access intent table ↔
      intent.MeansTable settings table ∧ access.tableAllowed table ∧
        intent.ReachesColumn access table := by
  constructor
  · intro h
    exact ⟨resolveTable?_eq_some_iff.mp h.resolved, h.allowed,
      selectColumns_ne_nil_iff.mp h.columns⟩
  · rintro ⟨htable, hallowed, hreaches⟩
    exact ⟨resolveTable?_eq_some_iff.mpr htable, hallowed, selectColumns_ne_nil_iff.mpr hreaches⟩

theorem failsFor_ofRejection {rejection : Rejection} {warnings : List String}
    (h : rejection ≠ .noAccessibleColumns → warnings = []) :
    (CompileResult.ofRejection rejection warnings).FailsFor rejection :=
  ⟨rfl, rfl, rfl, rfl, rfl, fun _ _ => rfl, h⟩

/-- A request that there is a reason to refuse fails for this reason. -/
theorem failsFor_of_refused {rejection : Rejection}
    (h : intent.Refused settings access rejection) (today : Date) :
    (compileOn settings access intent today).FailsFor rejection := by
  cases h with
  | invalidTable hnone =>
      rw [compileOn, run, resolveTable?_eq_none_iff.mpr hnone]
      exact failsFor_ofRejection fun _ => rfl
  | accessDenied htable hdenied =>
      rw [compileOn, run, resolveTable?_eq_some_iff.mpr htable]
      simp only [hdenied, Bool.not_false, ↓reduceIte]
      exact failsFor_ofRejection fun _ => rfl
  | noAccessibleColumns htable hallowed hnone =>
      have hcolumns := not_ne_iff.mp (mt selectColumns_ne_nil_iff.mp hnone)
      rw [compileOn, run, resolveTable?_eq_some_iff.mpr htable]
      simp only [hallowed, hcolumns, Bool.not_true, Bool.false_eq_true, ↓reduceIte,
        List.isEmpty_nil]
      exact failsFor_ofRejection fun hother => absurd rfl hother

/-- There is a reason to refuse every request that does not succeed. -/
theorem success_or_refused (settings : Settings) (access : Access) (intent : Intent)
    (today : Date) :
    (compileOn settings access intent today).success ∨
      ∃ rejection, intent.Refused settings access rejection := by
  by_cases htable : ∃ table, intent.MeansTable settings table
  · obtain ⟨table, htable⟩ := htable
    cases hallowed : access.tableAllowed table with
    | false => exact .inr ⟨_, .accessDenied htable hallowed⟩
    | true =>
        by_cases hreaches : intent.ReachesColumn access table
        · exact .inl (success_iff.mpr ⟨table, admitted_iff.mpr ⟨htable, hallowed, hreaches⟩⟩)
        · exact .inr ⟨_, .noAccessibleColumns htable hallowed hreaches⟩
  · exact .inr ⟨_, .invalidTable (not_exists.mp htable)⟩

theorem failsFor_iff {today : Date} {rejection : Rejection} :
    (compileOn settings access intent today).FailsFor rejection ↔
      intent.Refused settings access rejection := by
  constructor
  · intro hfails
    rcases success_or_refused settings access intent today with hsuccess | ⟨other, hother⟩
    · rw [hfails.failure] at hsuccess
      cases hsuccess
    · have herror := (failsFor_of_refused hother today).error
      rw [hfails.error, Option.some_inj] at herror
      rwa [Rejection.message_injective herror]
  · intro hrefused
    exact failsFor_of_refused hrefused today

/-- The table and the columns are all that a refusal is about. -/
theorem Intent.Refused.congr {other : Intent} {rejection : Rejection}
    (h : intent.Refused settings access rejection)
    (hmeans : ∀ table, other.MeansTable settings table ↔ intent.MeansTable settings table)
    (hreaches : ∀ table, other.ReachesColumn access table ↔ intent.ReachesColumn access table) :
    other.Refused settings access rejection := by
  cases h with
  | invalidTable hnone => exact .invalidTable fun table => mt (hmeans table).mp (hnone table)
  | accessDenied htable hdenied => exact .accessDenied ((hmeans _).mpr htable) hdenied
  | noAccessibleColumns htable hallowed hnone =>
      exact .noAccessibleColumns ((hmeans _).mpr htable) hallowed (mt (hreaches _).mp hnone)

theorem exists_field_congr {α : Type} {field : α → String} {good : String → Bool}
    {first second : List α} (h : first.map field = second.map field) :
    (∃ item ∈ first, good (field item)) ↔ ∃ item ∈ second, good (field item) := by
  have hany : ∀ items : List α, (∃ item ∈ items, good (field item)) ↔ (items.map field).any good := by
    intro items
    simp
  rw [hany, hany, h]

/-- Requests for one table with columns over the same fields have the same outcome. -/
theorem outcome_congr {other : Intent} (htable : other.table = intent.table)
    (hdimensions : other.dimensions.map Dimension.field = intent.dimensions.map Dimension.field)
    (hmetrics : other.metrics.map Metric.field = intent.metrics.map Metric.field)
    (day today : Date) :
    (compileOn settings access other day).success =
        (compileOn settings access intent today).success ∧
      (compileOn settings access other day).error =
        (compileOn settings access intent today).error := by
  have hmeans : ∀ table, other.MeansTable settings table ↔ intent.MeansTable settings table := by
    intro table
    rw [Intent.MeansTable, Intent.MeansTable, Intent.tableText?, Intent.tableText?, htable]
  have hreaches : ∀ table, other.ReachesColumn access table ↔
      intent.ReachesColumn access table :=
    fun table => or_congr (exists_field_congr hdimensions) (exists_field_congr hmetrics)
  rcases success_or_refused settings access intent today with hsuccess | ⟨rejection, hrefused⟩
  · obtain ⟨table, hadmitted⟩ := success_iff.mp hsuccess
    obtain ⟨hname, hallowed, hcolumn⟩ := admitted_iff.mp hadmitted
    have hother : Admitted settings access other table :=
      admitted_iff.mpr ⟨(hmeans table).mpr hname, hallowed, (hreaches table).mpr hcolumn⟩
    rw [compileOn_of_admitted hadmitted today, compileOn_of_admitted hother day]
    exact ⟨rfl, rfl⟩
  · have hfirst := failsFor_of_refused hrefused today
    have hsecond := failsFor_of_refused (hrefused.congr hmeans hreaches) day
    exact ⟨hsecond.failure.trans hfirst.failure.symm, hsecond.error.trans hfirst.error.symm⟩

end Reasons

/-- A request succeeds exactly when it means a table that is open to the caller and has a column
that is; otherwise it fails for the first of the three reasons, with nothing in the result but the
error and the warnings of the columns.  No other part of the request has a say in this. -/
theorem refused_for_first_reason (settings : Settings) (access : Access) (intent : Intent)
    (today : Date) :
    ((compileOn settings access intent today).success ↔
      ∃ table, intent.MeansTable settings table ∧ access.tableAllowed table ∧
        intent.ReachesColumn access table) ∧
    ((compileOn settings access intent today).success ∨
      ∃ rejection, intent.Refused settings access rejection) ∧
    (∀ rejection, (compileOn settings access intent today).FailsFor rejection ↔
      intent.Refused settings access rejection) ∧
    ∀ (other : Intent) (day : Date), other.table = intent.table →
      other.dimensions.map Dimension.field = intent.dimensions.map Dimension.field →
      other.metrics.map Metric.field = intent.metrics.map Metric.field →
      (compileOn settings access other day).success =
          (compileOn settings access intent today).success ∧
        (compileOn settings access other day).error =
          (compileOn settings access intent today).error := by
  refine ⟨?_, success_or_refused settings access intent today, fun _ => failsFor_iff, ?_⟩
  · rw [success_iff]
    exact exists_congr fun table => admitted_iff
  · intro other day htable hdimensions hmetrics
    exact outcome_congr htable hdimensions hmetrics day today

/-- A closed table is named in the error, and the filters and the order do not matter. -/
theorem refused_for_first_reason_invoices :
    (compileOn {} ⟨Sample.port, Sample.caller⟩ { Sample.intent with table := "Invoices " }
      Sample.day).FailsFor (.accessDenied "invoices") ∧
    (compileOn {} ⟨Sample.port, Sample.caller⟩
      { Sample.intent with filters := [], orderBy := [], limit := some (-1) } Sample.day).success =
        (compileOn {} ⟨Sample.port, Sample.caller⟩ Sample.intent Sample.day).success := by
  have hmeans : Intent.MeansTable {} { Sample.intent with table := "Invoices " } "invoices" :=
    ⟨"Invoices", by decide, by decide, by decide⟩
  obtain ⟨-, -, hfails, -⟩ := refused_for_first_reason {} ⟨Sample.port, Sample.caller⟩
    { Sample.intent with table := "Invoices " } Sample.day
  obtain ⟨-, -, -, hsame⟩ := refused_for_first_reason {} ⟨Sample.port, Sample.caller⟩
    Sample.intent Sample.day
  have hdenied := (hfails (.accessDenied "invoices")).mpr (.accessDenied hmeans (by decide))
  have hbare := hsame { Sample.intent with filters := [], orderBy := [], limit := some (-1) }
    Sample.day rfl rfl rfl
  exact ⟨hdenied, hbare.1⟩

end TenantQuery
