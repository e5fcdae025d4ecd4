import TenantQuery.Proofs.Compilation.Outcome
/-!
Every reference of a statement was authorized.

A field reaches a statement as a column, as a grouping key, under the time window or under a
filter, and on each of these routes it is the canonical form that was put to the policy for the
very table of the statement.  Other names are the table itself, the tenant column, the output
names, and whatever the policy says in its own words.
-/

namespace TenantQuery

open Sql Compilation Identifier

/-- The requested columns can be counted by a machine word, as those of any list in memory can. -/
def Intent.Addressable (intent : Intent) : Prop :=
  intent.dimensions.length + intent.metrics.length < 2 ^ 64

instance (intent : Intent) : Decidable intent.Addressable := by
  unfold Intent.Addressable
  infer_instance

/-- The field is in canonical form, and the caller may name it in the table. -/
def MayName (access : Access) (table field : String) : Prop :=
  isCanonical field ∧ access.fieldAllowed table field

/-- What a caller must be allowed for a statement to be theirs. -/
structure Authorized (settings : Settings) (access : Access) (statement : Statement) : Prop where
  /-- The table was allowed under the canonical name that is emitted. -/
  table : isCanonicalTable statement.table ∧ access.tableAllowed statement.table
  columns : ∀ column ∈ statement.columns, MayName access statement.table column.field
  /-- A grouping key is a position of the select list or an allowed field. -/
  groupKeys : ∀ key ∈ statement.groupKeys,
    (∃ position : Nat, key = toString position) ∨ MayName access statement.table key
  time : ∀ window field, .time window field ∈ statement.conditions →
    MayName access statement.table field
  user : ∀ test field, .user test field ∈ statement.conditions →
    MayName access statement.table field
  tenant : ∀ column, .tenant column ∈ statement.conditions → column = settings.tenantColumn
  policy : ∀ predicate, .policy predicate ∈ statement.conditions →
    ∃ given, access.rowPredicate statement.table = some given ∧ predicate = Text.trim given
  outputs : ∀ column ∈ statement.columns, isCanonical column.outputName
  sortKeys : ∀ output direction, .output output direction ∈ statement.sortKeys →
    ∃ column ∈ statement.columns, column.outputName = output

/-- The condition, with nothing between the parentheses of the policy. -/
def Sql.Condition.withoutPolicyText : Condition → Condition
  | .policy _ => .policy ""
  | condition => condition

/-- The statement, with nothing between the parentheses of the policy. -/
def Sql.Statement.withoutPolicyText (statement : Statement) : Statement :=
  { statement with conditions := statement.conditions.map Condition.withoutPolicyText }

/-- The word is one of the compiler's own, or it names the table, the tenant column, a field that
the caller may name, or an output. -/
inductive AccountedFor (settings : Settings) (access : Access) (statement : Statement) :
    List Char → Prop where
  | keyword {text : String} (h : text ∈ keywords) :
      AccountedFor settings access statement text.toList
  | number {chars : List Char} (h : StartsWithDigit chars) :
      AccountedFor settings access statement chars
  | table {text : String} (h : text ∈ tableNames statement.table) :
      AccountedFor settings access statement text.toList
  | tenant : AccountedFor settings access statement settings.tenantColumn.toList
  | field {text : String} (h : MayName access statement.table text) :
      AccountedFor settings access statement text.toList
  | output {column : Column} (h : column ∈ statement.columns) :
      AccountedFor settings access statement column.outputName.toList

theorem mayName_of_admits {access : Access} {table field : String}
    (h : admits access table field) : MayName access table (canonical field) := by
  unfold admits at h
  obtain ⟨hidentifier, hallowed⟩ := (Bool.and_eq_true _ _).mp h
  exact ⟨isCanonical_canonical hidentifier, hallowed⟩

section Statement

variable {settings : Settings} {access : Access} {table : String} {intent : Intent} {today : Date}

/-- The number behind an output name leaves room for a name. -/
theorem isCanonical_outputName (hcount : intent.Addressable) {column : Column}
    (hmem : column ∈ (selectColumns access table [] (columnRequests intent)).1) :
    isCanonical column.outputName := by
  obtain ⟨request, hrequest, hadmits, earlier, hearlier, rfl⟩ := exists_request hmem
  have hregular := regular_of_mem_columnRequests hrequest (isIdentifier_of_admits hadmits)
  apply isCanonical_resolveName hregular
  simp only [columnRequests, List.length_nil, List.length_append, List.length_map,
    Intent.Addressable] at hearlier hcount
  omega

/-- The statement over a table that the caller may query is authorized. -/
theorem authorized_statementOver (hcount : intent.Addressable)
    (hadmitted : Admitted settings access intent table) (today : Date) :
    Authorized settings access (statementOver settings access table intent today) := by
  have hcolumns : ∀ column ∈ (statementOver settings access table intent today).columns,
      MayName access table column.field ∧ isCanonical column.outputName := by
    intro column hmem
    refine ⟨?_, isCanonical_outputName hcount hmem⟩
    obtain ⟨request, -, hadmits, earlier, -, rfl⟩ := exists_request hmem
    exact mayName_of_admits hadmits
  refine ⟨⟨isCanonicalTable_of_resolveTable? hadmitted.resolved, hadmitted.allowed⟩,
    fun column hmem => (hcolumns column hmem).1, ?_, ?_, ?_, ?_, ?_,
    fun column hmem => (hcolumns column hmem).2, ?_⟩
  · intro key hmem
    rcases Statement.groupKeys_cases hmem with hposition | ⟨column, hcolumn, -, rfl⟩
    · exact .inl hposition
    · exact .inr (hcolumns column hcolumn).1
  · intro window field hmem
    obtain ⟨given, hadmits, rfl⟩ := (mem_conditions hmem).resolve_left (by simp)
    exact mayName_of_admits hadmits
  · intro test field hmem
    obtain ⟨given, hadmits, rfl⟩ := (mem_conditions hmem).resolve_left (by simp)
    exact mayName_of_admits hadmits
  · intro column hmem
    cases (mem_conditions hmem).resolve_right id
    rfl
  · exact fun predicate hmem => (mem_conditions hmem).resolve_left (by simp)
  · intro output direction hmem
    rcases mem_sortKeys hmem with heq | ⟨column, hcolumn, _, heq⟩
    · cases heq
    · cases heq
      exact ⟨column, hcolumn, rfl⟩

end Statement

theorem Sql.Condition.names_withoutPolicyText (condition : Condition) :
    condition.withoutPolicyText.names = condition.names := by
  cases condition <;> rfl

theorem Sql.Statement.names_withoutPolicyText (statement : Statement) :
    statement.withoutPolicyText.names = statement.names := by
  simp [Statement.names, Statement.withoutPolicyText, List.flatMap_map,
    Condition.names_withoutPolicyText]

/-- The names of an authorized statement are those that its parts were authorized for. -/
theorem Authorized.accountedFor {settings : Settings} {access : Access} {statement : Statement}
    (h : Authorized settings access statement) {text : String}
    (hmem : text ∈ statement.names) : AccountedFor settings access statement text.toList := by
  simp only [Statement.names, List.mem_append, List.mem_flatMap] at hmem
  rcases hmem with (⟨column, hcolumn, htext⟩ | ⟨condition, hcondition, htext⟩) |
    ⟨key, hkey, htext⟩
  · simp only [Column.names, List.mem_cons, List.not_mem_nil, or_false] at htext
    rcases htext with rfl | rfl
    · exact .field (h.columns column hcolumn)
    · exact .output hcolumn
  · cases condition with
    | tenant column =>
        rw [List.mem_singleton.mp htext, h.tenant column hcondition]
        exact .tenant
    | policy predicate => cases htext
    | time window field =>
        rw [List.mem_singleton.mp htext]
        exact .field (h.time window field hcondition)
    | user test field =>
        rw [List.mem_singleton.mp htext]
        exact .field (h.user test field hcondition)
  · cases key with
    | firstColumn => cases htext
    | output output direction =>
        obtain ⟨column, hcolumn, houtput⟩ := h.sortKeys output direction hkey
        rw [List.mem_singleton.mp htext, ← houtput]
        exact .output hcolumn

/-- Every word of an authorized statement is accounted for, the policy's own words aside. -/
theorem Authorized.words {settings : Settings} {access : Access} {statement : Statement}
    (h : Authorized settings access statement) (hnamed : statement.WellNamed) :
    ∃ tokens, tokens? statement.withoutPolicyText.render = some tokens ∧
      ∀ chars, .word chars ∈ tokens → AccountedFor settings access statement chars := by
  have hbare : statement.withoutPolicyText.WellNamed :=
    ⟨by rw [Statement.names_withoutPolicyText]; exact hnamed.names, hnamed.table⟩
  have hfits : ∀ predicate, .policy predicate ∈ statement.withoutPolicyText.conditions →
      tokens? predicate = some [] := by
    intro predicate hmem
    obtain ⟨condition, -, hcondition⟩ := List.mem_map.mp hmem
    cases condition with
    | policy given =>
        cases hcondition
        rfl
    | tenant column => cases hcondition
    | time window field => cases hcondition
    | user test field => cases hcondition
  have hcontained := Statement.contained_tokens hbare (Roomy.all fun _ h => h) List.mem_cons_self
    fun predicate hmem => ⟨[], hfits predicate hmem, .nil⟩
  refine ⟨_, Statement.tokens?_render hcontained.spaced fun predicate hmem =>
    ⟨[], hfits predicate hmem⟩, ?_⟩
  intro chars hmem
  rcases hcontained.words chars hmem with hkeyword | hdigit | hname
  · obtain ⟨text, htext, rfl⟩ := List.mem_map.mp hkeyword
    exact .keyword htext
  · exact .number hdigit
  · obtain ⟨text, htext, rfl⟩ := List.mem_map.mp hname
    rcases List.mem_append.mp htext with htext | htext
    · rw [Statement.names_withoutPolicyText] at htext
      exact h.accountedFor htext
    · exact .table htext

/-- A statement names its table behind the select list. -/
theorem Sql.Statement.exists_render (statement : Statement) :
    ∃ rest, statement.render =
      "SELECT " ++ ", ".intercalate (statement.columns.map Column.render) ++ " FROM " ++
        statement.table ++ " WHERE " ++ rest := by
  simp only [Statement.render_eq, String.append_assoc]
  exact ⟨_, rfl⟩

/-- Whatever the policy, every reference in a statement was authorized for its table. -/
theorem references_authorized {settings : Settings} {access : Access} {intent : Intent}
    {today : Date} (hsettings : settings.fault? = none) (hcount : intent.Addressable)
    (hsuccess : (compileOn settings access intent today).success) :
    ∃ statement warnings rest,
      compileOn settings access intent today = .ofStatement statement warnings ∧
      statement.render = "SELECT " ++ ", ".intercalate (statement.columns.map Column.render) ++
        " FROM " ++ statement.table ++ " WHERE " ++ rest ∧
      Authorized settings access statement ∧
      ∃ tokens, tokens? statement.withoutPolicyText.render = some tokens ∧
        ∀ chars, .word chars ∈ tokens → AccountedFor settings access statement chars := by
  obtain ⟨table, hadmitted⟩ := success_iff.mp hsuccess
  have hauthorized := authorized_statementOver hcount hadmitted today
  have hnamed := wellNamed_statementOver access intent today
    (isCanonical_tenantColumn hsettings) (isCanonicalTable_of_resolveTable? hadmitted.resolved)
  obtain ⟨rest, hrest⟩ := (statementOver settings access table intent today).exists_render
  exact ⟨_, _, rest, compileOn_of_admitted hadmitted today, hrest, hauthorized,
    hauthorized.words hnamed⟩

theorem references_authorized_orders :
    ∃ statement warnings,
      compileOn {} ⟨Sample.port, Sample.caller⟩ Sample.intent Sample.day =
        .ofStatement statement warnings ∧
      Authorized {} ⟨Sample.port, Sample.caller⟩ statement := by
  have hsettings : ({} : Settings).fault? = none := by decide
  have hcount : Sample.intent.Addressable := by decide
  have hsuccess :
      (compileOn {} ⟨Sample.port, Sample.caller⟩ Sample.intent Sample.day).success := by
    decide
  obtain ⟨statement, warnings, -, hresult, -, hauthorized, -⟩ :=
    references_authorized hsettings hcount hsuccess
  exact ⟨statement, warnings, hresult, hauthorized⟩

end TenantQuery
