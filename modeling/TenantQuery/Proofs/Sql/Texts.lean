import TenantQuery.Proofs.Sql.Rendering
/-!
The texts inside the literals of a statement, as its data has them.

A statement has no literals but the units that its columns are truncated to, those of the
policy's own words, those of its time window and those of its filters.
-/

namespace TenantQuery

def TimeWindow.texts : TimeWindow → List String
  | .thisMonth => ["month", "month"]
  | .lastMonth => ["month", "month", "1 month"]
  | .thisYear | .lastYear | .thisYearMonth _ | .lastYearMonth _ => []
  | .lastNDays n => [toString n ++ " days"]
  | .lastNMonths n => ["month", toString n ++ " months"]
  | .thisQuarter => ["quarter", "quarter"]
  | .today => []
  | .thisWeek => ["week", "week"]
  | .custom (.since first) => [first.iso]
  | .custom (.until last) => [last.iso]
  | .custom (.between first last) => [first.iso, last.iso]

/-- The text of a literal that is one. -/
def Sql.Literal.texts : Sql.Literal → List String
  | .text value => [value]
  | .number _ | .truth _ => []

def FilterTest.texts : FilterTest → List String
  | .isNull | .isNotNull => []
  | .compare _ operand => operand.texts
  | .like shape text => [shape.pattern text]
  | .oneOf items | .noneOf items => items.flatMap Sql.Literal.texts

namespace Sql

/-- The unit that a column is truncated to. -/
def Column.texts (column : Column) : List String :=
  match column.shape with
  | .dimension (some granularity) => [granularity.unit]
  | .dimension none | .metric _ => []

def Condition.texts : Condition → List String
  | .tenant _ => []
  | .policy predicate => (literals ((tokens? predicate).getD [])).map String.ofList
  | .time window _ => window.texts
  | .user test _ => test.texts

/-- The texts in a statement, from left to right. -/
def Statement.texts (statement : Statement) : List String :=
  statement.columns.flatMap Column.texts ++ statement.conditions.flatMap Condition.texts

@[simp] theorem literals_name (text : String) (rest : List Token) :
    literals (name text :: rest) = literals rest := rfl

@[simp] theorem literals_signs (text : String) : literals (signs text) = [] :=
  literals_map_mark text.toList

theorem literals_intercalate {between : List Token} (h : literals between = [])
    (parts : List (List Token)) :
    literals (between.intercalate parts) = parts.flatMap literals := by
  induction parts with
  | nil => rfl
  | cons part rest ih =>
      cases rest with
      | nil => simp
      | cons next rest => simp [List.intercalate_cons_cons, ih, h]

@[simp] theorem literals_spaced (parts : List (List Token)) :
    literals (spaced parts) = parts.flatMap literals :=
  literals_intercalate rfl parts

@[simp] theorem literals_listed (parts : List (List Token)) :
    literals (listed parts) = parts.flatMap literals :=
  literals_intercalate rfl parts

@[simp] theorem literals_applied (function : String) (arguments : List Token) :
    literals (applied function arguments) = literals arguments := by
  simp [applied]

@[simp] theorem literals_related (left : List Token) (sign : String) (right : List Token) :
    literals (related left sign right) = literals left ++ literals right := by
  simp [related]

@[simp] theorem literals_truncated (unit : String) (operand : List Token) :
    literals (truncated unit operand) = unit.toList :: literals operand := by
  simp [truncated]

@[simp] theorem literals_extracted (part : String) (operand : List Token) :
    literals (extracted part operand) = literals operand := by
  simp [extracted]

@[simp] theorem literals_before (span : String) : literals (before span) = [span.toList] := by
  simp [before]

@[simp] theorem literals_dateTokens (date : Date) :
    literals (dateTokens date) = [date.iso.toList] := by
  simp [dateTokens]

@[simp] theorem Literal.literals_tokens (value : Literal) :
    literals value.tokens = value.texts.map String.toList := by
  cases value with
  | text value => rfl
  | truth value => cases value <;> rfl
  | number value => exact (read_number value).2.1

theorem Column.literals_tokens (column : Column) :
    literals column.tokens = column.texts.map String.toList := by
  obtain ⟨field, shape, outputName⟩ := column
  cases shape with
  | dimension granularity =>
      cases granularity with
      | none =>
          by_cases hsame : field = outputName
          · simp [tokens, texts, hsame]
          · simp [tokens, expressionTokens, texts, hsame]
      | some granularity => simp [tokens, expressionTokens, texts]
  | metric aggregate => cases aggregate <;> simp [tokens, expressionTokens, texts]

namespace Condition

theorem literals_windowConjuncts (field : String) (window : TimeWindow) :
    (windowConjuncts field window).flatMap literals = window.texts.map String.toList := by
  cases window with
  | custom range => cases range <;> rfl
  | _ => rfl

theorem literals_testTokens (field : String) (test : FilterTest) :
    literals (testTokens field test) = test.texts.map String.toList := by
  have harray : ∀ items : List Literal,
      literals (arrayTokens items) = (items.flatMap Literal.texts).map String.toList := by
    intro items
    simp [arrayTokens, List.flatMap_map, List.map_flatMap]
  cases test with
  | isNull => rfl
  | isNotNull => rfl
  | compare comparison operand => simp [testTokens, FilterTest.texts]
  | like shape text => simp [testTokens, FilterTest.texts]
  | oneOf items => cases items <;> simp [testTokens, FilterTest.texts, harray]
  | noneOf items => cases items <;> simp [testTokens, FilterTest.texts, harray]

theorem literals_conjuncts (condition : Condition) :
    condition.conjuncts.flatMap literals = condition.texts.map String.toList := by
  cases condition with
  | tenant column => simp [conjuncts, texts]
  | policy predicate => simp [conjuncts, texts]
  | time window field => exact literals_windowConjuncts field window
  | user test field => simpa [conjuncts, texts] using literals_testTokens field test

end Condition

theorem literals_tableTokens (table : String) : literals (tableTokens table) = [] := by
  unfold tableTokens
  split <;> rfl

theorem SortKey.literals_tokens (key : SortKey) : literals key.tokens = [] := by
  cases key <;> simp [tokens]

namespace Statement

theorem literals_optionalClause {keyword : String} {parts : List (List Token)}
    (h : ∀ part ∈ parts, literals part = []) : literals (optionalClause keyword parts) = [] := by
  have hnone : parts.flatMap literals = [] := List.flatMap_eq_nil_iff.mpr h
  unfold optionalClause
  split
  · rfl
  · simp [hnone]

/-- The literals of a statement are the texts of its data, from left to right. -/
theorem literals_tokens (statement : Statement) :
    literals statement.tokens = statement.texts.map String.toList := by
  have hcolumns : (statement.columns.map Column.tokens).flatMap literals =
      (statement.columns.flatMap Column.texts).map String.toList := by
    simp [List.flatMap_map, List.map_flatMap, Column.literals_tokens]
  have hconditions : statement.conjuncts.flatMap literals =
      (statement.conditions.flatMap Condition.texts).map String.toList := by
    simp [conjuncts, List.flatMap_assoc, List.map_flatMap, Condition.literals_conjuncts]
  have hclosing : literals statement.closing = [] := by
    have hgroup : literals (optionalClause "GROUP" (statement.groupKeys.map fun key =>
        [name key])) = [] :=
      literals_optionalClause (by simp)
    have hsort : literals (optionalClause "ORDER" (statement.sortKeys.map SortKey.tokens)) = [] :=
      literals_optionalClause (by simp [SortKey.literals_tokens])
    simp [closing, hgroup, hsort]
  have hbetween : literals (separator.intercalate statement.conjuncts) =
      statement.conjuncts.flatMap literals := literals_intercalate rfl _
  simp [tokens, opening, padded, hbetween, hcolumns, hconditions, hclosing,
    literals_tableTokens, texts]

end Statement

end Sql

end TenantQuery
