import TenantQuery.Proofs.Refusal
/-!
The log and the result of a compilation tell the same story.

The log opens with one entry, unless there is no table to name, and closes with one that says how
the compilation ended.  Between them stands one entry for each warning of the result, in the same
order and in the same words, and what an entry names as a field is a canonical name.
-/

namespace TenantQuery

open Sql Compilation Identifier

namespace LogEntry

def field? (entry : LogEntry) (key : String) : Option String :=
  entry.fields.lookup key

/-- The entry reports the start of a compilation. -/
def opens (entry : LogEntry) : Bool :=
  entry.message == "compiling query intent"

/-- The entry reports a departure from the request. -/
def adjusts (entry : LogEntry) : Bool :=
  entry.message == "query intent adjusted"

/-- The entry reports how a compilation ended. -/
def closes (entry : LogEntry) : Bool :=
  entry.message == "query intent compiled" || entry.message == "query intent rejected"

end LogEntry

def compileLog (settings : Settings) (access : Access) (intent : Intent) (today : Date) :
    List LogEntry :=
  (compileEvents settings access intent today).map CompilationEvent.entry

/-- The entry closes the log of a compilation with this result: a statement is counted up, and a
failure is given with its error. -/
inductive CompileResult.ClosedBy (result : CompileResult) (user : String) : LogEntry → Prop where
  | compiled {table : String} (h : result.success = true) :
      ClosedBy result user
        ⟨.info, "query intent compiled",
          [("user", user), ("table", table), ("columns", toString result.columns.length),
           ("applied_filters", toString result.appliedFilters.length),
           ("warnings", toString result.warnings.length)]⟩
  | rejected {error : String} (h : result.success = false) (herror : result.error = some error) :
      ClosedBy result user
        ⟨.warn, "query intent rejected", [("user", user), ("error", error)]⟩

/-- A departure names a field by its canonical name, or none at all. -/
def Adjustment.NamesCanonical (adjustment : Adjustment) : Prop :=
  ∀ field, adjustment.field? = some field → isCanonical field

namespace Compilation

section Fields

variable {settings : Settings} {access : Access} {table : String} {adjustment : Adjustment}

theorem namesCanonical_of_authorize_error {role : FieldRole} {field : String}
    (h : authorize access table role field = .error adjustment) : adjustment.NamesCanonical := by
  unfold authorize at h
  intro name hname
  split at h
  · cases h
    cases hname
  · rename_i hidentifier
    simp only [] at h
    split at h
    · cases h
    · cases h
      cases hname
      exact isCanonical_canonical (by simpa using hidentifier)

theorem namesCanonical_selectColumns (requests : List ColumnRequest) (taken : List String) :
    ∀ adjustment ∈ (selectColumns access table taken requests).2, adjustment.NamesCanonical := by
  induction requests generalizing taken with
  | nil => simp [selectColumns]
  | cons request rest ih =>
      intro adjustment hmem
      cases hadmits : admits access table request.field with
      | false =>
          obtain ⟨dropped, hresult, hstep⟩ := selectColumns_cons_of_not_admits taken rest hadmits
          rw [hstep] at hmem
          rcases List.mem_cons.mp hmem with rfl | hmem
          · exact namesCanonical_of_authorize_error hresult
          · exact ih taken adjustment hmem
      | true =>
          rw [selectColumns_cons_of_admits taken rest hadmits] at hmem
          rcases List.mem_append.mp hmem with hmem | hmem
          · intro field hfield
            have hcanonical := isCanonical_canonical (isIdentifier_of_admits hadmits)
            rcases mem_resolveName_snd hmem with ⟨_, _, rfl⟩ | ⟨_, rfl⟩ | ⟨_, _, rfl⟩ <;>
              cases hfield <;> exact hcanonical
          · exact ih _ adjustment hmem

theorem namesCanonical_timeConditions (today : Date) (timeFilter : Option TimeFilter) :
    ∀ adjustment ∈ (timeConditions settings access table today timeFilter).2,
      adjustment.NamesCanonical := by
  cases timeFilter with
  | none => simp [timeConditions]
  | some filter =>
      intro adjustment hmem
      cases hadmits : admits access table (filter.dateField.getD settings.defaultDateField) with
      | false =>
          obtain ⟨dropped, hresult, hstep⟩ := timeConditions_of_not_admits today hadmits
          rw [hstep] at hmem
          rcases List.mem_cons.mp hmem with rfl | hmem
          · exact namesCanonical_of_authorize_error hresult
          · rw [List.mem_singleton.mp hmem]
            intro field hfield
            cases hfield
      | true =>
          rw [timeConditions_of_admits today hadmits] at hmem
          obtain ⟨note, -, rfl⟩ := List.mem_map.mp hmem
          intro field hfield
          cases hfield
          exact isCanonical_canonical (isIdentifier_of_admits hadmits)

theorem namesCanonical_of_filterCondition_error {filter : Filter}
    (h : filterCondition access table filter = .error adjustment) :
    adjustment.NamesCanonical := by
  unfold filterCondition at h
  cases hresult : authorize access table .filter filter.field with
  | error other =>
      rw [hresult] at h
      cases h
      exact namesCanonical_of_authorize_error hresult
  | ok name =>
      obtain ⟨hadmits, rfl⟩ := authorize_eq_ok_iff.mp hresult
      have hcanonical := isCanonical_canonical (isIdentifier_of_admits hadmits)
      rw [hresult] at h
      simp only [] at h
      intro field hfield
      split at h
      · cases h
      · split at h <;> cases h <;> cases hfield <;> exact hcanonical

theorem namesCanonical_of_sortKey_error {columns : List Column} {entry : OrderSpec}
    (h : sortKey columns entry = .error adjustment) : adjustment.NamesCanonical := by
  unfold sortKey at h
  intro field hfield
  split at h
  · cases h
    cases hfield
  · rename_i hidentifier
    simp only [] at h
    split at h
    · cases h
    · cases h
      cases hfield
      exact isCanonical_canonical (by simpa using hidentifier)

/-- Whatever a request contains, the fields that its departures name are canonical. -/
theorem namesCanonical_adjustmentsOver (intent : Intent) (today : Date) :
    ∀ adjustment ∈ adjustmentsOver settings access table intent today,
      adjustment.NamesCanonical := by
  intro adjustment hmem
  rcases List.mem_append.mp hmem with hmem | hmem
  · rcases List.mem_append.mp hmem with hmem | hmem
    · exact namesCanonical_selectColumns _ _ adjustment hmem
    · rcases List.mem_append.mp hmem with hmem | hmem
      · exact namesCanonical_timeConditions today intent.timeFilter adjustment hmem
      · obtain ⟨filter, -, herror⟩ := List.mem_map.mp (mem_separate_snd.mp hmem)
        exact namesCanonical_of_filterCondition_error herror
  · rw [sortKeys_snd] at hmem
    obtain ⟨entry, -, herror⟩ := List.mem_map.mp (mem_separate_snd.mp hmem)
    exact namesCanonical_of_sortKey_error herror

end Fields

section Events

variable {settings : Settings} {access : Access} {intent : Intent} {today : Date}

/-- The fields that the departures of a compilation name are canonical, however it ends. -/
theorem namesCanonical_run (settings : Settings) (access : Access) (intent : Intent)
    (today : Date) :
    ∀ adjustment ∈ (run settings access intent today).adjustments, adjustment.NamesCanonical := by
  rcases run_cases settings access intent today with ⟨-, hrun⟩ | ⟨table, -, hrun | hrun | hadmitted⟩
  · simp [hrun]
  · simp [hrun]
  · rw [hrun]
    exact namesCanonical_selectColumns (columnRequests intent) []
  · rw [run_of_admitted hadmitted today]
    exact namesCanonical_adjustmentsOver intent today

/-- The log of a compilation without a table is its closing entry. -/
theorem compileLog_of_none (h : resolveTable? settings intent.table = none) :
    compileLog settings access intent today =
      [((run settings access intent today).closingEvent access.caller.userId).entry] := by
  rcases run_cases settings access intent today with ⟨-, hrun⟩ | ⟨table, htable, -⟩
  · simp [compileLog, compileEvents, events, hrun]
  · simp [h] at htable

/-- The log of a compilation over a table: the start, the departures and the end. -/
theorem compileLog_of_some {table : String}
    (h : resolveTable? settings intent.table = some table) :
    compileLog settings access intent today =
      (CompilationEvent.started access.caller.userId table intent.dimensions.length
          intent.metrics.length intent.filters.length).entry ::
        ((run settings access intent today).adjustments.map
            (fun adjustment => (CompilationEvent.adjusted table adjustment).entry) ++
          [((run settings access intent today).closingEvent access.caller.userId).entry]) := by
  have hrun : (run settings access intent today).table = some table := by
    rcases run_cases settings access intent today with
      ⟨hnone, -⟩ | ⟨other, hother, hrun | hrun | hadmitted⟩
    · simp [h] at hnone
    · rw [hrun, ← h, hother]
    · rw [hrun, ← h, hother]
    · rw [run_of_admitted hadmitted today, ← h, hother]
  simp [compileLog, compileEvents, events, hrun, Function.comp_def]

/-- Without a table there is nothing to warn of. -/
theorem adjustments_of_none (h : resolveTable? settings intent.table = none) :
    (run settings access intent today).adjustments = [] := by
  rcases run_cases settings access intent today with ⟨-, hrun⟩ | ⟨table, htable, -⟩
  · rw [hrun]
  · simp [h] at htable

theorem warnings_compileOn :
    (compileOn settings access intent today).warnings =
      (run settings access intent today).adjustments.map Adjustment.message := by
  rw [compileOn, result]
  split <;> rfl

/-- The last event of a compilation closes its log. -/
theorem closedBy_closingEvent (user : String) :
    (compileOn settings access intent today).ClosedBy user
      ((run settings access intent today).closingEvent user).entry := by
  rw [compileOn, result, closingEvent]
  cases (run settings access intent today).outcome with
  | error rejection => exact .rejected rfl rfl
  | ok statement =>
      have hclosed : (CompileResult.ofStatement statement
          (run settings access intent today).warnings).ClosedBy user _ :=
        @CompileResult.ClosedBy.compiled _ _ statement.table rfl
      simpa [CompileResult.ofStatement, warnings, CompilationEvent.entry] using hclosed

end Events

end Compilation

namespace CompilationEvent

section Entries

variable (user table : String) (adjustment : Adjustment)

theorem field?_warning_entry :
    (adjusted table adjustment).entry.field? "warning" = some adjustment.message := by
  cases hfield : adjustment.field? <;> simp [entry, LogEntry.field?, hfield, List.lookup_cons]

theorem field?_field_entry :
    (adjusted table adjustment).entry.field? "field" = adjustment.field? := by
  cases hfield : adjustment.field? <;> simp [entry, LogEntry.field?, hfield, List.lookup_cons]

@[simp] theorem adjusts_started (dimensions metrics filters : Nat) :
    (started user table dimensions metrics filters).entry.adjusts = false := by
  simp [entry, LogEntry.adjusts]

@[simp] theorem closes_started (dimensions metrics filters : Nat) :
    (started user table dimensions metrics filters).entry.closes = false := by
  simp [entry, LogEntry.closes]

@[simp] theorem adjusts_adjusted : (adjusted table adjustment).entry.adjusts = true := by
  simp [entry, LogEntry.adjusts]

@[simp] theorem closes_adjusted : (adjusted table adjustment).entry.closes = false := by
  simp [entry, LogEntry.closes]

@[simp] theorem opens_adjusted : (adjusted table adjustment).entry.opens = false := by
  simp [entry, LogEntry.opens]

end Entries

@[simp] theorem adjusts_closingEvent (compilation : Compilation) (user : String) :
    (compilation.closingEvent user).entry.adjusts = false := by
  rw [Compilation.closingEvent]
  cases compilation.outcome <;> simp [entry, LogEntry.adjusts]

@[simp] theorem opens_closingEvent (compilation : Compilation) (user : String) :
    (compilation.closingEvent user).entry.opens = false := by
  rw [Compilation.closingEvent]
  cases compilation.outcome <;> simp [entry, LogEntry.opens]

end CompilationEvent

/-- The log tells the story of the result: one entry for each warning, with the same words, about
a field of canonical name or about none, and in the end one entry for the outcome. -/
structure CompileResult.ToldBy (result : CompileResult) (user : String) (log : List LogEntry) :
    Prop where
  warnings : (log.filter LogEntry.adjusts).map (·.field? "warning") = result.warnings.map some
  fields : ∀ entry ∈ log, entry.adjusts → ∀ field, entry.field? "field" = some field →
    isCanonical field
  closing : ∃ earlier last, log = earlier ++ [last] ∧ result.ClosedBy user last ∧
    ∀ entry ∈ earlier, entry.closes = false

namespace Compilation

variable {settings : Settings} {access : Access} {intent : Intent} {today : Date}

theorem toldBy_compileLog_of_none (h : resolveTable? settings intent.table = none) :
    (compileOn settings access intent today).ToldBy access.caller.userId
      (compileLog settings access intent today) where
  warnings := by simp [compileLog_of_none h, warnings_compileOn, adjustments_of_none h]
  fields entry hmem hadjusts := by
    rw [compileLog_of_none h] at hmem
    rw [List.mem_singleton.mp hmem, CompilationEvent.adjusts_closingEvent] at hadjusts
    cases hadjusts
  closing := ⟨[], _, compileLog_of_none h, closedBy_closingEvent _, by simp⟩

theorem toldBy_compileLog_of_some {table : String}
    (h : resolveTable? settings intent.table = some table) :
    (compileOn settings access intent today).ToldBy access.caller.userId
      (compileLog settings access intent today) where
  warnings := by
    rw [compileLog_of_some h, warnings_compileOn]
    simp [List.filter_map, Function.comp_def, CompilationEvent.field?_warning_entry]
  fields entry hmem hadjusts := by
    rw [compileLog_of_some h] at hmem
    simp only [List.mem_cons, List.mem_append, List.mem_map, List.not_mem_nil, or_false] at hmem
    rcases hmem with rfl | ⟨adjustment, hadjustment, rfl⟩ | rfl
    · simp at hadjusts
    · intro field hfield
      rw [CompilationEvent.field?_field_entry] at hfield
      exact namesCanonical_run settings access intent today adjustment hadjustment field hfield
    · simp at hadjusts
  closing := by
    refine ⟨_ :: _, _, compileLog_of_some h, closedBy_closingEvent _, ?_⟩
    intro entry hmem
    simp only [List.mem_cons, List.mem_map] at hmem
    rcases hmem with rfl | ⟨adjustment, -, rfl⟩
    · simp
    · simp

end Compilation

/-- The log of every compilation tells the story of its result, and it opens with the table unless
the request means none. -/
theorem log_tells_result (settings : Settings) (access : Access) (intent : Intent) (today : Date) :
    (compileOn settings access intent today).ToldBy access.caller.userId
        (compileLog settings access intent today) ∧
      ((∀ table, ¬ intent.MeansTable settings table) →
        ∀ entry ∈ compileLog settings access intent today, entry.opens = false) ∧
      ∀ table, intent.MeansTable settings table →
        ∃ first later, compileLog settings access intent today = first :: later ∧
          first.opens ∧ first.field? "table" = some table ∧
          ∀ entry ∈ later, entry.opens = false := by
  refine ⟨?_, ?_, ?_⟩
  · cases htable : resolveTable? settings intent.table with
    | none => exact toldBy_compileLog_of_none htable
    | some table => exact toldBy_compileLog_of_some htable
  · intro hnone entry hmem
    rw [compileLog_of_none (resolveTable?_eq_none_iff.mpr hnone)] at hmem
    rw [List.mem_singleton.mp hmem, CompilationEvent.opens_closingEvent]
  · intro table htable
    refine ⟨_, _, compileLog_of_some (resolveTable?_eq_some_iff.mpr htable), ?_, ?_, ?_⟩
    · simp [CompilationEvent.entry, LogEntry.opens]
    · simp [CompilationEvent.entry, LogEntry.field?, List.lookup_cons]
    · intro entry hmem
      simp only [List.mem_append, List.mem_map, List.mem_singleton] at hmem
      rcases hmem with ⟨adjustment, -, rfl⟩ | rfl
      · simp
      · simp

/-- The request for orders, in which a column, two filters and an entry of the order are dropped,
opens its log with the table that it means. -/
theorem log_tells_result_orders :
    Sample.intent.MeansTable {} "orders" ∧
    ((compileLog {} ⟨Sample.port, Sample.caller⟩ Sample.intent Sample.day).filter
        LogEntry.adjusts).length = 4 ∧
    ∃ first later, compileLog {} ⟨Sample.port, Sample.caller⟩ Sample.intent Sample.day =
      first :: later ∧ first.opens ∧ ∀ entry ∈ later, entry.opens = false := by
  have hmeans : Sample.intent.MeansTable {} "orders" := ⟨"Orders", by decide, by decide, by decide⟩
  obtain ⟨htold, -, hopens⟩ :=
    log_tells_result {} ⟨Sample.port, Sample.caller⟩ Sample.intent Sample.day
  obtain ⟨first, later, hlog, hfirst, -, hlater⟩ := hopens "orders" hmeans
  have hlength := congrArg List.length htold.warnings
  rw [List.length_map, List.length_map] at hlength
  exact ⟨hmeans, hlength.trans (by decide), first, later, hlog, hfirst, hlater⟩

end TenantQuery
