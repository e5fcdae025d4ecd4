import TenantQuery.Policy.Allowlist
import TenantQuery.Proofs.Sql.Numeral
import TenantQuery.Sql.Statement
/-!
The tokens of a statement, written down from its parts and not from its text.

Each part of a statement has a list of tokens here, and the text of these tokens is the text of
the part: `Statement.textOf_tokens`.  The policy's own words are the only ones that have to be
read first.
-/

namespace TenantQuery.Sql

/-- A text as one word. -/
def name (text : String) : Token := .word text.toList

/-- A text as single marks. -/
def signs (text : String) : List Token := text.toList.map Token.mark

/-- A function applied to its arguments. -/
def applied (function : String) (arguments : List Token) : List Token :=
  name function :: (.mark '(' :: arguments ++ [.mark ')'])

/-- Parts with a comma between them. -/
def listed (parts : List (List Token)) : List Token :=
  [.mark ',', .mark ' '].intercalate parts

/-- Parts with a space between them. -/
def spaced (parts : List (List Token)) : List Token :=
  [.mark ' '].intercalate parts

/-- Two operands with a sign between them. -/
def related (left : List Token) (sign : String) (right : List Token) : List Token :=
  spaced [left, signs sign, right]

/-- An operand cut to a unit of time. -/
def truncated (unit : String) (operand : List Token) : List Token :=
  applied "DATE_TRUNC" (.literal unit.toList :: .mark ',' :: .mark ' ' :: operand)

def extracted (part : String) (operand : List Token) : List Token :=
  applied "EXTRACT" (spaced [[name part], [name "FROM"], operand])

/-- A span of time before the current date. -/
def before (span : String) : List Token :=
  related [name "CURRENT_DATE"] "-" (spaced [[name "INTERVAL"], [.literal span.toList]])

def dateTokens (date : Date) : List Token :=
  .literal date.iso.toList :: .mark ':' :: .mark ':' :: [name "date"]

namespace Literal

/-- A literal as it is read; the text of a number has no quotes, so it can be read. -/
def tokens : Literal → List Token
  | .text value => [.literal value.toList]
  | .number value => (tokens? value.text).getD []
  | .truth true => [name "TRUE"]
  | .truth false => [name "FALSE"]

end Literal

/-- The name of a table, alone or behind that of its schema. -/
def tableTokens (table : String) : List Token :=
  match Text.cutAt? '.' table.toList with
  | some (schema, table) => [.word schema, .mark '.', .word table]
  | none => [name table]

namespace Column

def expressionTokens (column : Column) : List Token :=
  match column.shape with
  | .dimension (some granularity) => truncated granularity.unit [name column.field]
  | .dimension none => [name column.field]
  | .metric .sum => applied "SUM" [name column.field]
  | .metric .count => applied "COUNT" [name column.field]
  | .metric .countDistinct => applied "COUNT" (spaced [[name "DISTINCT"], [name column.field]])
  | .metric .avg => applied "AVG" [name column.field]
  | .metric .max => applied "MAX" [name column.field]
  | .metric .min => applied "MIN" [name column.field]

def tokens (column : Column) : List Token :=
  if column.shape = .dimension none && column.field == column.outputName then
    [name column.field]
  else spaced [column.expressionTokens, [name "AS"], [name column.outputName]]

end Column

namespace Condition

/-- The parts of a window's condition that must all hold. -/
def windowConjuncts (field : String) : TimeWindow → List (List Token)
  | .thisMonth => [sameUnit "month"]
  | .lastMonth => [related (truncated "month" column) "=" (truncated "month" (before "1 month"))]
  | .thisYear => [related year "=" currentYear]
  | .lastYear => [related year "=" lastYear]
  | .thisYearMonth month => [related year "=" currentYear, monthIs month]
  | .lastYearMonth month => [related year "=" lastYear, monthIs month]
  | .lastNDays n => [related column ">=" (before (toString n ++ " days"))]
  | .lastNMonths n =>
    [related column ">=" (truncated "month" (before (toString n ++ " months")))]
  | .thisQuarter => [sameUnit "quarter"]
  | .today => [related column "=" [name "CURRENT_DATE"]]
  | .thisWeek => [sameUnit "week"]
  | .custom (.since first) => [related column ">=" (dateTokens first)]
  | .custom (.until last) => [related column "<=" (dateTokens last)]
  | .custom (.between first last) =>
    [related column ">=" (dateTokens first), related column "<=" (dateTokens last)]
where
  column : List Token := [name field]
  sameUnit (unit : String) : List Token :=
    related (truncated unit column) "=" (truncated unit [name "CURRENT_DATE"])
  year : List Token := extracted "YEAR" column
  currentYear : List Token := extracted "YEAR" [name "CURRENT_DATE"]
  lastYear : List Token := related currentYear "-" [name "1"]
  monthIs (month : Nat) : List Token :=
    related (extracted "MONTH" column) "=" [name (toString month)]

def arrayTokens (items : List Literal) : List Token :=
  name "ARRAY" :: (.mark '[' :: listed (items.map Literal.tokens) ++ [.mark ']'])

def testTokens (field : String) : FilterTest → List Token
  | .isNull => spaced [[name field], [name "IS"], [name "NULL"]]
  | .isNotNull => spaced [[name field], [name "IS"], [name "NOT"], [name "NULL"]]
  | .compare comparison operand => related [name field] comparison.sign operand.tokens
  | .like shape text =>
    spaced [[name field], [name "ILIKE"], [.literal (shape.pattern text).toList]]
  | .oneOf [] => [name "FALSE"]
  | .oneOf items => related [name field] "=" (applied "ANY" (arrayTokens items))
  | .noneOf [] => [name "TRUE"]
  | .noneOf items => related [name field] "<>" (applied "ALL" (arrayTokens items))

/-- The parts of a condition that must all hold.  The policy's words are one part. -/
def conjuncts : Condition → List (List Token)
  | .tenant column => [related [name column] "=" [.mark '$', name "1"]]
  | .policy predicate => [.mark '(' :: (tokens? predicate).getD [] ++ [.mark ')']]
  | .time window field => windowConjuncts field window
  | .user test field => [testTokens field test]

end Condition

def SortKey.tokens : SortKey → List Token
  | .output chosen direction => spaced [[name chosen], [name direction.keyword]]
  | .firstColumn => spaced [[name "1"], [name "ASC"]]

namespace Statement

/-- A clause that is absent when nothing is listed in it, with the space behind it. -/
def optionalClause (keyword : String) (parts : List (List Token)) : List Token :=
  if parts.isEmpty then []
  else spaced [[name keyword], [name "BY"], listed parts] ++ [.mark ' ']

/-- What stands before the conditions. -/
def opening (statement : Statement) : List Token :=
  spaced [[name "SELECT"], listed (statement.columns.map Column.tokens), [name "FROM"],
    tableTokens statement.table, []]

def conjuncts (statement : Statement) : List (List Token) :=
  statement.conditions.flatMap Condition.conjuncts

/-- What stands behind the conditions. -/
def closing (statement : Statement) : List Token :=
  optionalClause "GROUP" (statement.groupKeys.map fun key => [name key]) ++
    optionalClause "ORDER" (statement.sortKeys.map SortKey.tokens) ++
    spaced [[name "LIMIT"], [name (toString statement.limit)]]

def tokens (statement : Statement) : List Token :=
  statement.opening ++ name "WHERE" ::
    (padded (separator.intercalate statement.conjuncts) ++ statement.closing)

end Statement

@[simp] theorem chars_name (text : String) : (name text).chars = text.toList := rfl

@[simp] theorem chars_word (chars : List Char) : (Token.word chars).chars = chars := rfl

@[simp] theorem chars_mark (c : Char) : (Token.mark c).chars = [c] := rfl

@[simp] theorem textOf_signs (text : String) : textOf (signs text) = text.toList := by
  have h : ∀ chars : List Char, textOf (chars.map Token.mark) = chars := by
    intro chars
    induction chars with
    | nil => rfl
    | cons c rest ih => simp [ih]
  exact h text.toList

theorem textOf_intercalate (between : List Token) (parts : List (List Token)) :
    textOf (between.intercalate parts) = (textOf between).intercalate (parts.map textOf) := by
  induction parts with
  | nil => rfl
  | cons part rest ih =>
      cases rest with
      | nil => simp
      | cons next rest => simp [List.intercalate_cons_cons, ih]

theorem toList_quote (text : String) :
    (quote text).toList = (Token.literal text.toList).chars := by
  simp [quote, escape, Token.chars]

@[simp] theorem textOf_applied (function : String) (arguments : List Token) :
    textOf (applied function arguments) =
      function.toList ++ '(' :: textOf arguments ++ [')'] := by
  simp [applied]

@[simp] theorem textOf_listed (parts : List (List Token)) :
    textOf (listed parts) = [',', ' '].intercalate (parts.map textOf) := by
  simp [listed, textOf_intercalate]

@[simp] theorem textOf_spaced (parts : List (List Token)) :
    textOf (spaced parts) = [' '].intercalate (parts.map textOf) := by
  simp [spaced, textOf_intercalate]

@[simp] theorem textOf_related (left : List Token) (sign : String) (right : List Token) :
    textOf (related left sign right) =
      textOf left ++ ' ' :: sign.toList ++ ' ' :: textOf right := by
  simp [related, List.intercalate_cons_cons]

@[simp] theorem textOf_truncated (unit : String) (operand : List Token) :
    textOf (truncated unit operand) =
      "DATE_TRUNC(".toList ++ (Token.literal unit.toList).chars ++ ", ".toList ++
        textOf operand ++ [')'] := by
  simp [truncated]

@[simp] theorem textOf_extracted (part : String) (operand : List Token) :
    textOf (extracted part operand) =
      "EXTRACT(".toList ++ part.toList ++ " FROM ".toList ++ textOf operand ++ [')'] := by
  simp [extracted, List.intercalate_cons_cons]

@[simp] theorem textOf_before (span : String) :
    textOf (before span) =
      "CURRENT_DATE - INTERVAL ".toList ++ (Token.literal span.toList).chars := by
  simp [before, List.intercalate_cons_cons]

@[simp] theorem textOf_dateTokens (date : Date) :
    textOf (dateTokens date) = (dateLiteral date).toList := by
  simp [dateTokens, dateLiteral, toList_quote]

theorem doubleQuotes_eq_self {chars : List Char} (h : '\'' ∉ chars) :
    doubleQuotes chars = chars := by
  induction chars with
  | nil => rfl
  | cons c rest ih =>
      rw [List.mem_cons, not_or] at h
      rw [doubleQuotes, if_neg (Ne.symm h.1), ih h.2]

/-- A literal whose text has no quote. -/
theorem chars_literal {chars : List Char} (h : '\'' ∉ chars) :
    (Token.literal chars).chars = '\'' :: (chars ++ ['\'']) := by
  rw [Token.chars, doubleQuotes_eq_self h]

theorem quote_not_mem_toString (n : Nat) : '\'' ∉ (toString n).toList := by
  intro hmem
  rw [AllDigits.toList_toString] at hmem
  exact absurd (AllDigits.toDigits n '\'' hmem) (by decide)

theorem chars_unit (granularity : Granularity) :
    (Token.literal granularity.unit.toList).chars =
      '\'' :: (granularity.unit.toList ++ ['\'']) := by
  apply chars_literal
  cases granularity <;> decide

namespace Literal

/-- The text of a number can be read, and it is contained. -/
theorem read_number (value : Number) :
    tokens? value.text = some (Literal.number value).tokens ∧
      literals (Literal.number value).tokens = [] ∧
      Contained allBrackets (· ∈ ['.', '+', '-']) StartsWithDigit
        (Literal.number value).tokens := by
  obtain ⟨found, hscan, hnone, hcontained⟩ := contained_of_isNumeral value.isNumeral_text
  have hread : tokens? value.text = some found := hscan
  simp only [tokens, hread, Option.getD_some]
  exact ⟨trivial, hnone, hcontained⟩

@[simp] theorem textOf_tokens (value : Literal) : textOf value.tokens = value.render.toList := by
  cases value with
  | text value => simp [tokens, render, toList_quote]
  | truth value => cases value <;> simp [tokens, render]
  | number value => exact (tokens?_eq_some_iff.mp (read_number value).1).1.symm

end Literal

namespace Column

@[simp] theorem textOf_expressionTokens (column : Column) :
    textOf column.expressionTokens = column.expression.toList := by
  obtain ⟨field, shape, outputName⟩ := column
  cases shape with
  | dimension granularity =>
      cases granularity with
      | none =>
          change textOf [name field] = field.toList
          simp
      | some granularity =>
          change textOf (truncated granularity.unit [name field]) =
            ("DATE_TRUNC('" ++ granularity.unit ++ "', " ++ field ++ ")").toList
          simp [chars_unit]
  | metric aggregate =>
      have hcall : ∀ function opening : String, opening.toList = function.toList ++ ['('] →
          textOf (applied function [name field]) = (opening ++ field ++ ")").toList := by
        intro function opening hopening
        simp [hopening]
      cases aggregate with
      | sum => exact hcall "SUM" "SUM(" (by decide)
      | count => exact hcall "COUNT" "COUNT(" (by decide)
      | avg => exact hcall "AVG" "AVG(" (by decide)
      | max => exact hcall "MAX" "MAX(" (by decide)
      | min => exact hcall "MIN" "MIN(" (by decide)
      | countDistinct =>
          change textOf (applied "COUNT" (spaced [[name "DISTINCT"], [name field]])) =
            ("COUNT(DISTINCT " ++ field ++ ")").toList
          simp [List.intercalate_cons_cons]

@[simp] theorem textOf_tokens (column : Column) :
    textOf column.tokens = column.render.toList := by
  unfold tokens render
  split
  · simp
  · simp [List.intercalate_cons_cons]

end Column

namespace Condition

open windowConjuncts in
theorem textOf_sameUnit (field : String) {unit : String} (h : '\'' ∉ unit.toList) :
    textOf (sameUnit field unit) = (TimeWindow.sameUnit unit field).toList := by
  change textOf (related (truncated unit [name field]) "="
      (truncated unit [name "CURRENT_DATE"])) =
    ("DATE_TRUNC('" ++ unit ++ "', " ++ field ++ ") = DATE_TRUNC('" ++ unit ++
      "', CURRENT_DATE)").toList
  simp [chars_literal h]

theorem quote_not_mem_span (n : Nat) (unit : String) (h : '\'' ∉ unit.toList) :
    '\'' ∉ (toString n ++ unit).toList := by
  rw [String.toList_append, List.mem_append, not_or]
  exact ⟨quote_not_mem_toString n, h⟩

open windowConjuncts in
theorem textOf_sameYear (field : String) :
    textOf (related (year field) "=" currentYear) = (TimeWindow.sameYear field).toList := by
  change textOf (related (extracted "YEAR" [name field]) "="
      (extracted "YEAR" [name "CURRENT_DATE"])) =
    ("EXTRACT(YEAR FROM " ++ field ++ ") = EXTRACT(YEAR FROM CURRENT_DATE)").toList
  simp

open windowConjuncts in
theorem textOf_yearBefore (field : String) :
    textOf (related (year field) "=" lastYear) =
      (TimeWindow.sameYear field).toList ++ " - 1".toList := by
  rw [← textOf_sameYear]
  change textOf (related (year field) "=" (related currentYear "-" [name "1"])) = _
  simp

open windowConjuncts in
theorem textOf_monthIs (field : String) (month : Nat) :
    textOf (monthIs field month) = (TimeWindow.monthIs field month).toList := by
  change textOf (related (extracted "MONTH" [name field]) "=" [name (toString month)]) =
    ("EXTRACT(MONTH FROM " ++ field ++ ") = " ++ toString month).toList
  simp

open windowConjuncts in
theorem textOf_windowConjuncts (field : String) (window : TimeWindow) :
    textOf (separator.intercalate (windowConjuncts field window)) =
      (window.render field).toList := by
  have hand : textOf separator = " AND ".toList := by decide
  cases window with
  | thisMonth => exact textOf_sameUnit field (by decide)
  | thisQuarter => exact textOf_sameUnit field (by decide)
  | thisWeek => exact textOf_sameUnit field (by decide)
  | thisYear => exact textOf_sameYear field
  | lastMonth =>
      change textOf (related (truncated "month" [name field]) "="
          (truncated "month" (before "1 month"))) =
        ("DATE_TRUNC('month', " ++ field ++
          ") = DATE_TRUNC('month', CURRENT_DATE - INTERVAL '1 month')").toList
      have hspan := chars_literal (show '\'' ∉ "1 month".toList by decide)
      have hunit := chars_literal (show '\'' ∉ "month".toList by decide)
      rw [textOf_related, textOf_truncated, textOf_truncated, textOf_before, hspan, hunit]
      simp
  | lastYear =>
      apply (textOf_yearBefore field).trans
      exact String.toList_append.symm
  | thisYearMonth month =>
      change textOf (separator.intercalate
        [related (year field) "=" currentYear, monthIs field month]) =
          (TimeWindow.sameYear field ++ " AND " ++ TimeWindow.monthIs field month).toList
      simp only [List.intercalate_cons_cons, List.intercalate_singleton, textOf_append, hand,
        textOf_sameYear, textOf_monthIs, String.toList_append]
  | lastYearMonth month =>
      change textOf (separator.intercalate
        [related (year field) "=" lastYear, monthIs field month]) =
          (TimeWindow.sameYear field ++ " - 1 AND " ++ TimeWindow.monthIs field month).toList
      simp [List.intercalate_cons_cons, hand, textOf_yearBefore, textOf_monthIs, -textOf_related]
  | lastNDays n =>
      change textOf (related [name field] ">=" (before (toString n ++ " days"))) =
        (field ++ " >= CURRENT_DATE - INTERVAL '" ++ toString n ++ " days'").toList
      have hspan := chars_literal (quote_not_mem_span n " days" (by decide))
      rw [textOf_related, textOf_before, hspan]
      simp
  | lastNMonths n =>
      change textOf (related [name field] ">="
          (truncated "month" (before (toString n ++ " months")))) =
        (field ++ " >= DATE_TRUNC('month', CURRENT_DATE - INTERVAL '" ++ toString n ++
          " months')").toList
      have hspan := chars_literal (quote_not_mem_span n " months" (by decide))
      have hunit := chars_literal (show '\'' ∉ "month".toList by decide)
      rw [textOf_related, textOf_truncated, textOf_before, hspan, hunit]
      simp
  | today =>
      change textOf (related [name field] "=" [name "CURRENT_DATE"]) =
        (field ++ " = CURRENT_DATE").toList
      simp
  | custom range =>
      cases range with
      | since first =>
          change textOf (related [name field] ">=" (dateTokens first)) =
            (field ++ " >= " ++ dateLiteral first).toList
          simp
      | «until» last =>
          change textOf (related [name field] "<=" (dateTokens last)) =
            (field ++ " <= " ++ dateLiteral last).toList
          simp
      | between first last =>
          change textOf (separator.intercalate [related [name field] ">=" (dateTokens first),
              related [name field] "<=" (dateTokens last)]) =
            (field ++ " >= " ++ dateLiteral first ++ " AND " ++ field ++ " <= " ++
              dateLiteral last).toList
          simp [List.intercalate_cons_cons, hand]

@[simp] theorem textOf_testTokens (field : String) (test : FilterTest) :
    textOf (testTokens field test) = (test.render field).toList := by
  have harray : ∀ items : List Literal,
      textOf (arrayTokens items) = (FilterTest.renderArray items).toList := by
    intro items
    simp [arrayTokens, FilterTest.renderArray, String.toList_intercalate, Function.comp_def]
  cases test with
  | isNull => simp [testTokens, FilterTest.render]
  | isNotNull => simp [testTokens, FilterTest.render]
  | compare comparison operand => simp [testTokens, FilterTest.render]
  | like shape text => simp [testTokens, FilterTest.render, toList_quote]
  | oneOf items => cases items <;> simp [testTokens, FilterTest.render, harray]
  | noneOf items => cases items <;> simp [testTokens, FilterTest.render, harray]

/-- The policy's words can be read; of the other conditions that is always so. -/
def Readable : Condition → Prop
  | .policy predicate => ∃ tokens, tokens? predicate = some tokens
  | .tenant _ | .time _ _ | .user _ _ => True

theorem textOf_conjuncts {condition : Condition} (h : condition.Readable) :
    textOf (separator.intercalate condition.conjuncts) = condition.render.toList := by
  cases condition with
  | tenant column => simp [conjuncts, render, tenantParameter]
  | policy predicate =>
      obtain ⟨tokens, htokens⟩ := h
      simp [conjuncts, render, htokens, (tokens?_eq_some_iff.mp htokens).1]
  | time window field => exact textOf_windowConjuncts field window
  | user test field => simp [conjuncts, render]

theorem conjuncts_ne_nil (condition : Condition) : condition.conjuncts ≠ [] := by
  cases condition with
  | time window field =>
      cases window with
      | custom range => cases range <;> simp [conjuncts, windowConjuncts]
      | _ => simp [conjuncts, windowConjuncts]
  | _ => simp [conjuncts]

end Condition

theorem textOf_sortKey (key : SortKey) : textOf key.tokens = key.render.toList := by
  cases key with
  | output chosen direction => simp [SortKey.tokens, SortKey.render]
  | firstColumn => simp [SortKey.tokens, SortKey.render, SortDirection.keyword]

theorem textOf_tableTokens (table : String) : textOf (tableTokens table) = table.toList := by
  unfold tableTokens
  split
  · rename_i schema name hcut
    rw [Text.append_of_cutAt? hcut]
    simp [Token.chars]
  · simp

theorem intercalate_append {α : Type} {between : List α} {first second : List (List α)}
    (hfirst : first ≠ []) (hsecond : second ≠ []) :
    between.intercalate (first ++ second) =
      between.intercalate first ++ between ++ between.intercalate second := by
  induction first with
  | nil => exact absurd rfl hfirst
  | cons part rest ih =>
      cases rest with
      | nil => simp [List.intercalate_cons_of_ne_nil hsecond]
      | cons next rest =>
          have hrest := ih (by simp)
          simp only [List.cons_append] at hrest ⊢
          simp [hrest]

theorem intercalate_flatMap {α β : Type} {between : List α} {items : List β}
    {parts : β → List (List α)} (h : ∀ item, parts item ≠ []) :
    between.intercalate (items.flatMap parts) =
      between.intercalate (items.map fun item => between.intercalate (parts item)) := by
  induction items with
  | nil => rfl
  | cons item rest ih =>
      cases rest with
      | nil => simp
      | cons next rest =>
          have hne : (next :: rest).flatMap parts ≠ [] := by simp [h next]
          rw [List.flatMap_cons, intercalate_append (h item) hne, ih]
          simp

theorem infix_intercalate {α : Type} {between part : List α} {parts : List (List α)}
    (h : part ∈ parts) : part <:+: between.intercalate parts := by
  induction parts with
  | nil => cases h
  | cons next rest ih =>
      by_cases hrest : rest = []
      · subst hrest
        obtain rfl := List.mem_singleton.mp h
        simp
      · rw [List.intercalate_cons_of_ne_nil hrest]
        rcases List.mem_cons.mp h with rfl | h
        · rw [List.append_assoc]
          exact (List.prefix_append _ _).isInfix
        · exact (ih h).trans (List.suffix_append _ _).isInfix

theorem intercalate_append_singleton {clauses : List String} (h : clauses ≠ []) (last : String) :
    " ".intercalate (clauses ++ [last]) = " ".intercalate clauses ++ " " ++ last := by
  induction clauses with
  | nil => exact absurd rfl h
  | cons clause rest ih =>
      by_cases hrest : rest = []
      · simp [hrest, String.intercalate_cons_cons]
      · rw [List.cons_append, String.intercalate_cons_of_ne_nil (by simp),
          String.intercalate_cons_of_ne_nil hrest, ih hrest]
        simp only [String.append_assoc]

namespace Statement

/-- The text of a clause that is absent when nothing is listed in it, with the space behind it. -/
def clauseText (keyword : String) (parts : List String) : String :=
  if parts.isEmpty then "" else keyword ++ " " ++ ", ".intercalate parts ++ " "

theorem intercalate_clause (keyword : String) (parts : List String) {rest : List String}
    (h : rest ≠ []) :
    " ".intercalate (clause keyword parts ++ rest) =
      clauseText keyword parts ++ " ".intercalate rest := by
  unfold clause clauseText
  split
  · simp
  · rw [List.singleton_append, String.intercalate_cons_of_ne_nil h]

/-- The text of a statement, clause by clause. -/
theorem render_eq (statement : Statement) :
    statement.render =
      "SELECT " ++ ", ".intercalate (statement.columns.map Column.render) ++
        " FROM " ++ statement.table ++
        " WHERE " ++ " AND ".intercalate (statement.conditions.map Condition.render) ++ " " ++
        clauseText "GROUP BY" statement.groupKeys ++
        clauseText "ORDER BY" (statement.sortKeys.map SortKey.render) ++
        "LIMIT " ++ toString statement.limit := by
  -- There is always a LIMIT, so every clause before it has a space behind it.
  have hrest : clause "GROUP BY" statement.groupKeys ++
      (clause "ORDER BY" (statement.sortKeys.map SortKey.render) ++
        ["LIMIT " ++ toString statement.limit]) ≠ [] := by simp
  have hoptional : " ".intercalate (clause "GROUP BY" statement.groupKeys ++
      (clause "ORDER BY" (statement.sortKeys.map SortKey.render) ++
        ["LIMIT " ++ toString statement.limit])) =
      clauseText "GROUP BY" statement.groupKeys ++
        (clauseText "ORDER BY" (statement.sortKeys.map SortKey.render) ++
          ("LIMIT " ++ toString statement.limit)) := by
    rw [intercalate_clause _ _ (by simp), intercalate_clause _ _ (by simp),
      String.intercalate_singleton]
  simp only [render, clauses, List.append_assoc, List.cons_append, List.nil_append,
    String.intercalate_cons_cons, String.intercalate_cons_of_ne_nil hrest, hoptional]
  apply String.toList_inj.mp
  simp

/-- The text of a condition stands in that of its statement. -/
theorem infix_render {statement : Statement} {condition : Condition}
    (h : condition ∈ statement.conditions) :
    condition.render.toList <:+: statement.render.toList := by
  have hpart : condition.render.toList <:+:
      (" AND ".intercalate (statement.conditions.map Condition.render)).toList := by
    rw [String.toList_intercalate]
    exact infix_intercalate (List.mem_map_of_mem (List.mem_map_of_mem h))
  have hclause : (" AND ".intercalate (statement.conditions.map Condition.render)).toList <:+:
      statement.render.toList := by
    rw [render_eq]
    simp only [String.toList_append, List.append_assoc]
    -- Five parts stand in front of the clause.
    iterate 5 refine List.IsInfix.trans ?_ (List.suffix_append _ _).isInfix
    exact (List.prefix_append _ _).isInfix
  exact hpart.trans hclause

/-- A statement ends in its row count. -/
theorem exists_front (statement : Statement) :
    ∃ front, statement.render = front ++ " LIMIT " ++ toString statement.limit := by
  have hspace : " " ++ ("LIMIT " ++ toString statement.limit) =
      " LIMIT " ++ toString statement.limit := by
    rw [← String.append_assoc]
    rfl
  rw [render, clauses, intercalate_append_singleton (by simp),
    String.append_assoc, hspace, ← String.append_assoc]
  exact ⟨_, rfl⟩

theorem textOf_optionalClause (keyword : String) (parts : List (List Token)) :
    textOf (optionalClause keyword parts) =
      (clauseText (keyword ++ " BY") (parts.map fun part => String.ofList (textOf part))).toList := by
  unfold optionalClause clauseText
  cases parts with
  | nil => rfl
  | cons part rest =>
      simp [String.toList_intercalate, Function.comp_def]

/-- The tokens of a statement have its text. -/
theorem textOf_tokens {statement : Statement}
    (h : ∀ condition ∈ statement.conditions, condition.Readable) :
    textOf statement.tokens = statement.render.toList := by
  have hconditions : textOf (separator.intercalate statement.conjuncts) =
      (" AND ".intercalate (statement.conditions.map Condition.render)).toList := by
    rw [conjuncts, intercalate_flatMap Condition.conjuncts_ne_nil, textOf_intercalate,
      String.toList_intercalate, List.map_map, List.map_map]
    congr 1
    exact List.map_congr_left fun condition hmem => Condition.textOf_conjuncts (h condition hmem)
  have hgroup := textOf_optionalClause "GROUP" (statement.groupKeys.map fun key => [name key])
  have hsort := textOf_optionalClause "ORDER" (statement.sortKeys.map SortKey.tokens)
  simp only [List.map_map, Function.comp_def, textOf_cons, textOf_nil, chars_name,
    List.append_nil, String.ofList_toList, textOf_sortKey, List.map_id'] at hgroup hsort
  rw [render_eq]
  simp [tokens, opening, closing, padded, hconditions, hgroup, hsort, String.toList_intercalate,
    textOf_tableTokens, Function.comp_def]

end Statement

end TenantQuery.Sql
