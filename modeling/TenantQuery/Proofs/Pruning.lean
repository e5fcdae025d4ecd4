import TenantQuery.Proofs.Compilation.Drops
/-!
What is dropped from a request has no influence on what is kept.

Without the elements that were dropped a request compiles to the same statement, and of the
warnings only those are left that report no drop.
-/

namespace TenantQuery

open Sql Compilation Identifier

/-- The request without what is dropped from it when these columns come out. -/
def Intent.prune (settings : Settings) (access : Access) (table : String)
    (columns : List Column) (intent : Intent) : Intent :=
  { intent with
    dimensions := intent.dimensions.filter (admits access table ·.field)
    metrics := intent.metrics.filter (admits access table ·.field)
    filters := intent.filters.filter (survives access table)
    timeFilter := intent.timeFilter.filter fun filter =>
      admits access table (filter.dateField.getD settings.defaultDateField)
    orderBy := intent.orderBy.filter (OrderSpec.matches columns) }

namespace Compilation

variable {settings : Settings} {access : Access} {table : String} {intent : Intent} {today : Date}

/-- The departures that dropped nothing. -/
def kept (adjustments : List Adjustment) : List Adjustment :=
  adjustments.filter (!·.isDrop)

@[simp] theorem kept_append (first second : List Adjustment) :
    kept (first ++ second) = kept first ++ kept second :=
  List.filter_append ..

theorem kept_eq_self {adjustments : List Adjustment}
    (h : ∀ adjustment ∈ adjustments, adjustment.isDrop = false) : kept adjustments = adjustments :=
  List.filter_eq_self.mpr fun adjustment hmem => by simp [h adjustment hmem]

theorem kept_eq_nil {adjustments : List Adjustment}
    (h : ∀ adjustment ∈ adjustments, adjustment.isDrop = true) : kept adjustments = [] :=
  List.filter_eq_nil_iff.mpr fun adjustment hmem => by simp [h adjustment hmem]

/-- A request that is dropped takes no name. -/
theorem selectColumns_filter (access : Access) (table : String) (taken : List String)
    (requests : List ColumnRequest) :
    selectColumns access table taken (requests.filter (admits access table ·.field)) =
      ((selectColumns access table taken requests).1,
        kept (selectColumns access table taken requests).2) := by
  induction requests generalizing taken with
  | nil => rfl
  | cons request rest ih =>
      cases hadmits : admits access table request.field with
      | false =>
          obtain ⟨adjustment, hresult, hstep⟩ :=
            selectColumns_cons_of_not_admits taken rest hadmits
          have hdrop := isDrop_of_authorize_error hresult
          rw [hstep, List.filter_cons, hadmits]
          simpa [kept, hdrop] using ih taken
      | true =>
          rw [selectColumns_cons_of_admits _ _ hadmits, List.filter_cons, hadmits]
          simp only [↓reduceIte]
          rw [selectColumns_cons_of_admits _ _ hadmits]
          simp only [ih, kept_append]
          rw [kept_eq_self fun adjustment hmem =>
            Adjustment.isDrop_of_isNaming (isNaming_resolveName _ _ _ _ adjustment hmem)]

theorem columnRequests_prune (columns : List Column) :
    columnRequests (intent.prune settings access table columns) =
      (columnRequests intent).filter (admits access table ·.field) := by
  rw [columnRequests, columnRequests, List.filter_append, List.filter_map, List.filter_map]
  rfl

/-- Attempts that fail can be left out. -/
theorem separate_filter {ε α β : Type} {attempt : α → Except ε β} {good : α → Bool}
    (h : ∀ item, good item ↔ ∃ value, attempt item = .ok value) (items : List α) :
    separate ((items.filter good).map attempt) = ((separate (items.map attempt)).1, []) := by
  induction items with
  | nil => rfl
  | cons item rest ih =>
      cases hgood : good item with
      | true =>
          obtain ⟨value, hvalue⟩ := (h item).mp hgood
          simp [hgood, hvalue, separate, ih]
      | false =>
          cases hattempt : attempt item with
          | ok value => simp [(h item).mpr ⟨value, hattempt⟩] at hgood
          | error error => simp [hgood, hattempt, separate, ih]

theorem isDrop_filterConditions (filters : List Filter) :
    ∀ adjustment ∈ (filterConditions access table filters).2, adjustment.isDrop := by
  intro adjustment hmem
  obtain ⟨filter, -, herror⟩ := List.mem_map.mp (mem_separate_snd.mp hmem)
  exact isDrop_of_filterCondition_error herror

theorem filterConditions_filter (filters : List Filter) :
    filterConditions access table (filters.filter (survives access table)) =
      ((filterConditions access table filters).1,
        kept (filterConditions access table filters).2) := by
  rw [kept_eq_nil (isDrop_filterConditions filters)]
  exact separate_filter (fun _ => survives_iff) filters

theorem timeConditions_filter :
    timeConditions settings access table today
        (intent.timeFilter.filter fun filter =>
          admits access table (filter.dateField.getD settings.defaultDateField)) =
      ((timeConditions settings access table today intent.timeFilter).1,
        kept (timeConditions settings access table today intent.timeFilter).2) := by
  cases intent.timeFilter with
  | none => rfl
  | some filter =>
      cases hadmits : admits access table (filter.dateField.getD settings.defaultDateField) with
      | false =>
          obtain ⟨adjustment, hresult, hstep⟩ := timeConditions_of_not_admits today hadmits
          have hdrop := isDrop_of_authorize_error hresult
          have hnone : kept [adjustment, .timeFilterDropped] = [] :=
            kept_eq_nil (List.forall_mem_cons.mpr ⟨hdrop, List.forall_mem_singleton.mpr rfl⟩)
          rw [Option.filter_some, hadmits, hstep, hnone]
          rfl
      | true =>
          have hnotes : ∀ notes : List WindowNote, ∀ field,
              kept (notes.map (.windowReplaced field)) = notes.map (.windowReplaced field) := by
            intro notes field
            apply kept_eq_self
            simp [Adjustment.isDrop]
          rw [Option.filter_some, hadmits, if_pos rfl, timeConditions_of_admits today hadmits]
          simp only [hnotes]

theorem conditions_prune (columns : List Column) :
    conditions settings access table today (intent.prune settings access table columns) =
      ((conditions settings access table today intent).1,
        kept (conditions settings access table today intent).2) := by
  unfold conditions
  simp only [Intent.prune, timeConditions_filter, filterConditions_filter, kept_append]

theorem isDrop_sortKeys (columns : List Column) (entries : List OrderSpec) :
    ∀ adjustment ∈ (sortKeys columns entries).2, adjustment.isDrop := by
  intro adjustment hmem
  rw [sortKeys_snd] at hmem
  obtain ⟨entry, -, herror⟩ := List.mem_map.mp (mem_separate_snd.mp hmem)
  exact isDrop_of_sortKey_error herror

theorem sortKeys_filter (columns : List Column) (entries : List OrderSpec) :
    sortKeys columns (entries.filter (OrderSpec.matches columns)) =
      ((sortKeys columns entries).1, kept (sortKeys columns entries).2) := by
  rw [kept_eq_nil (isDrop_sortKeys columns entries)]
  unfold sortKeys
  rw [separate_filter (fun _ => matches_iff) entries]
  simp only []
  split <;> rfl

/-- A pruned request comes to the same statement. -/
theorem statementOver_prune :
    statementOver settings access table (intent.prune settings access table
        (statementOver settings access table intent today).columns) today =
      statementOver settings access table intent today := by
  have hcolumns := selectColumns_filter access table [] (columnRequests intent)
  have hkeys := sortKeys_filter (selectColumns access table [] (columnRequests intent)).1
    intent.orderBy
  simp only [statementOver, columnRequests_prune, hcolumns, conditions_prune]
  rw [Intent.prune, hkeys]

/-- Of the departures from a request, a pruned one keeps those that dropped nothing. -/
theorem adjustmentsOver_prune :
    adjustmentsOver settings access table (intent.prune settings access table
        (statementOver settings access table intent today).columns) today =
      kept (adjustmentsOver settings access table intent today) := by
  have hcolumns := selectColumns_filter access table [] (columnRequests intent)
  have hkeys := sortKeys_filter (selectColumns access table [] (columnRequests intent)).1
    intent.orderBy
  simp only [adjustmentsOver, statementOver, columnRequests_prune, hcolumns, conditions_prune,
    kept_append]
  rw [Intent.prune, hkeys]

theorem admitted_prune (h : Admitted settings access intent table) (today : Date) :
    Admitted settings access (intent.prune settings access table
      (statementOver settings access table intent today).columns) table := by
  refine ⟨h.resolved, h.allowed, ?_⟩
  rw [columnRequests_prune, selectColumns_filter]
  exact h.columns

end Compilation

namespace Adjustment

/-- How the warnings of drops begin. -/
def dropOpenings : List String := ["dimension", "metric", "time filter d", "filter", "order by"]

/-- How the other warnings begin. -/
def otherOpenings : List String := ["alias", "time filter '", "custom"]

theorem openings_differ : ∀ other ∈ otherOpenings, ∀ drop ∈ dropOpenings,
    ¬ other.toList <+: drop.toList ∧ ¬ drop.toList <+: other.toList := by
  simp [otherOpenings, dropOpenings]

def Begins (opening text : String) : Prop := opening.toList <+: text.toList

instance (opening text : String) : Decidable (Begins opening text) := by
  unfold Begins
  infer_instance

theorem Begins.append {opening text : String} (h : Begins opening text) (more : String) :
    Begins opening (text ++ more) := by
  rw [Begins, String.toList_append]
  exact h.trans (List.prefix_append _ _)

/-- What a role is called begins the warnings about it. -/
theorem begins_role (role : FieldRole) : ∃ opening ∈ dropOpenings, Begins opening role.name := by
  cases role with
  | dimension => exact ⟨"dimension", by simp [dropOpenings], by decide⟩
  | metric => exact ⟨"metric", by simp [dropOpenings], by decide⟩
  | timeFilterDate => exact ⟨"time filter d", by simp [dropOpenings], by decide⟩
  | filter => exact ⟨"filter", by simp [dropOpenings], by decide⟩

theorem message_of_isDrop {adjustment : Adjustment} (h : adjustment.isDrop) :
    ∃ opening ∈ dropOpenings, Begins opening adjustment.message := by
  cases adjustment with
  | fieldIllFormed role =>
      obtain ⟨opening, hmem, hrole⟩ := begins_role role
      exact ⟨opening, hmem, hrole.append _⟩
  | fieldDenied role field =>
      obtain ⟨opening, hmem, hrole⟩ := begins_role role
      exact ⟨opening, hmem, ((hrole.append _).append _).append _⟩
  | timeFilterDropped => exact ⟨"time filter d", by simp [dropOpenings], by decide⟩
  | valueMissing field operator =>
      have hstart : Begins "filter" "filter on '" := by decide
      exact ⟨"filter", by simp [dropOpenings],
        (((hstart.append _).append _).append _).append _⟩
  | valueUnusable field operator =>
      have hstart : Begins "filter" "filter on '" := by decide
      exact ⟨"filter", by simp [dropOpenings],
        (((hstart.append _).append _).append _).append _⟩
  | sortKeyIllFormed => exact ⟨"order by", by simp [dropOpenings], by decide⟩
  | sortKeyUnmatched name =>
      have hstart : Begins "order by" "order by '" := by decide
      exact ⟨"order by", by simp [dropOpenings], (hstart.append _).append _⟩
  | nameReserved field word used => cases h
  | nameIllFormed field used => cases h
  | nameTaken field wanted used => cases h
  | windowReplaced field note => cases h

theorem message_of_not_isDrop {adjustment : Adjustment} (h : adjustment.isDrop = false) :
    ∃ opening ∈ otherOpenings, Begins opening adjustment.message := by
  cases adjustment with
  | nameReserved field word used =>
      have hstart : Begins "alias" "alias '" := by decide
      exact ⟨"alias", by simp [otherOpenings], (((hstart.append _).append _).append _).append _⟩
  | nameIllFormed field used =>
      have hstart : Begins "alias" "alias is not a valid identifier; using '" := by decide
      exact ⟨"alias", by simp [otherOpenings], (hstart.append _).append _⟩
  | nameTaken field wanted used =>
      have hstart : Begins "alias" "alias '" := by decide
      exact ⟨"alias", by simp [otherOpenings], (((hstart.append _).append _).append _).append _⟩
  | windowReplaced field note =>
      have hnamed : Begins "time filter '" "time filter '" := by decide
      cases note with
      | missingMonth kind =>
          exact ⟨"time filter '", by simp [otherOpenings], (hnamed.append _).append _⟩
      | missingCount kind =>
          exact ⟨"time filter '", by simp [otherOpenings],
            (((hnamed.append _).append _).append _).append _⟩
      | emptyRange =>
          have hstart : Begins "custom" "custom time filter has neither " := by decide
          exact ⟨"custom", by simp [otherOpenings],
            hstart.append "dateFrom nor dateTo; using this_month instead"⟩
      | unreadableBound bound substitute =>
          have hstart : Begins "custom" "custom time filter " := by decide
          exact ⟨"custom", by simp [otherOpenings],
            (((hstart.append _).append _).append _).append _⟩
  | fieldIllFormed role => cases h
  | fieldDenied role field => cases h
  | timeFilterDropped => cases h
  | valueMissing field operator => cases h
  | valueUnusable field operator => cases h
  | sortKeyIllFormed => cases h
  | sortKeyUnmatched name => cases h

/-- A drop is never worded like a departure that dropped nothing. -/
theorem message_ne_of_isDrop {first second : Adjustment} (hfirst : first.isDrop = false)
    (hsecond : second.isDrop) : first.message ≠ second.message := by
  intro heq
  obtain ⟨other, hother, hbegins⟩ := message_of_not_isDrop hfirst
  obtain ⟨drop, hdrop, hends⟩ := message_of_isDrop hsecond
  rw [heq] at hbegins
  obtain ⟨hleft, hright⟩ := openings_differ other hother drop hdrop
  rcases List.prefix_or_prefix_of_prefix hbegins hends with hprefix | hprefix
  · exact hleft hprefix
  · exact hright hprefix

end Adjustment

/-- A request that compiles comes to the same statement without the elements that were dropped
from it, and no warning is left that reports a drop. -/
theorem compileOn_prune {settings : Settings} {access : Access} {intent : Intent} {today : Date}
    (hsuccess : (compileOn settings access intent today).success) :
    ∃ table statement adjustments,
      resolveTable? settings intent.table = some table ∧
      compileOn settings access intent today =
        .ofStatement statement (adjustments.map Adjustment.message) ∧
      compileOn settings access (intent.prune settings access table statement.columns) today =
        .ofStatement statement ((kept adjustments).map Adjustment.message) ∧
      ∀ warning ∈ (compileOn settings access
          (intent.prune settings access table statement.columns) today).warnings,
        ∀ adjustment : Adjustment, adjustment.isDrop → warning ≠ adjustment.message := by
  obtain ⟨table, hadmitted⟩ := success_iff.mp hsuccess
  have hpruned := compileOn_of_admitted (admitted_prune hadmitted today) today
  rw [statementOver_prune, adjustmentsOver_prune] at hpruned
  refine ⟨table, _, _, hadmitted.resolved, compileOn_of_admitted hadmitted today, hpruned, ?_⟩
  intro warning hmem adjustment hdrop
  rw [hpruned] at hmem
  obtain ⟨other, hother, rfl⟩ := List.mem_map.mp hmem
  have hkept := (List.mem_filter.mp hother).2
  exact Adjustment.message_ne_of_isDrop (by simpa using hkept) hdrop

/-- Two of the four filters go, and the statement stays as it is. -/
theorem compileOn_prune_orders :
    ∃ columns,
      (Sample.intent.prune {} ⟨Sample.port, Sample.caller⟩ "orders" columns).filters.length = 2 ∧
      (compileOn {} ⟨Sample.port, Sample.caller⟩ (Sample.intent.prune {}
          ⟨Sample.port, Sample.caller⟩ "orders" columns) Sample.day).sql =
        (compileOn {} ⟨Sample.port, Sample.caller⟩ Sample.intent Sample.day).sql := by
  have hsuccess :
      (compileOn {} ⟨Sample.port, Sample.caller⟩ Sample.intent Sample.day).success := by
    decide
  obtain ⟨table, statement, adjustments, htable, hresult, hpruned, -⟩ := compileOn_prune hsuccess
  obtain rfl : "orders" = table := Option.some_inj.mp htable
  refine ⟨statement.columns, rfl, ?_⟩
  rw [hpruned, hresult]
  rfl

end TenantQuery
