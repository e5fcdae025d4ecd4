import TenantQuery.Proofs.Policy.RowPredicate
/-!
Row security fails closed.

The row condition of a declared policy is read the way the database reads it: cut into lexemes,
taken apart at every AND, and decided for a row one conjunct after another.  What is read is the
row filters themselves, in their order, so a row is seen exactly when the caller has every
attribute that is compared and the row has its value, whatever text that is.
-/

namespace TenantQuery

/-- A row: the text in each column, by the name of the column. -/
abbrev Row := String → String

namespace Sql

/-- White space, which separates words and otherwise means nothing. -/
def Token.isSpace : Token → Bool
  | .mark c => c.isWhitespace
  | .word _ | .literal _ => false

def Token.isAnd : Token → Bool
  | .word chars => chars.map Char.toLower == "and".toList
  | .literal _ | .mark _ => false

/-- The parts of a condition between its ANDs, without white space.  A literal is one token, so
no AND inside of it counts. -/
def andParts (tokens : List Token) : List (List Token) :=
  (tokens.filter (!·.isSpace)).splitOnP Token.isAnd

/-- What a part of a condition says of a row: an unquoted name is the column of its folded form,
and key words count in any letter case. -/
def verdict? (row : Row) : List Token → Option Bool
  | [.word column, .mark '=', .literal content] =>
    some (row (Identifier.canonical (String.ofList column)) == String.ofList content)
  | [.word chars] =>
    if chars.map Char.toLower = "true".toList then some true
    else if chars.map Char.toLower = "false".toList then some false
    else none
  | _ => none

/-- Whether a row satisfies a condition; none when the condition cannot be read. -/
def satisfies? (row : Row) (predicate : String) : Option Bool := do
  let tokens ← tokens? predicate
  let verdicts ← (andParts tokens).mapM (verdict? row)
  return verdicts.all id

/-- Putting parts together with AND and taking the result apart gives the parts again. -/
theorem andParts_intercalate {parts : List (List Token)} (hne : parts ≠ [])
    (hparts : ∀ part ∈ parts, ∀ token ∈ part, token.isAnd = false) :
    andParts (separator.intercalate parts) = parts.map (List.filter (!·.isSpace)) := by
  induction parts with
  | nil => exact absurd rfl hne
  | cons part rest ih =>
      have hfirst : ∀ token ∈ part.filter (!·.isSpace), token.isAnd = false :=
        fun token hmem => hparts part List.mem_cons_self token (List.mem_of_mem_filter hmem)
      cases rest with
      | nil =>
          rw [List.intercalate_singleton, andParts, List.splitOnP_eq_singleton hfirst]
          rfl
      | cons next rest =>
          have htail := ih (by simp) fun other hmem =>
            hparts other (List.mem_cons_of_mem part hmem)
          have hbetween : separator.filter (!·.isSpace) = [.word "AND".toList] := by decide
          have hand : (Token.word "AND".toList).isAnd = true := by decide
          rw [andParts] at htail ⊢
          rw [List.intercalate_cons_cons, List.filter_append, List.filter_append, hbetween,
            List.append_assoc, List.singleton_append, List.splitOnP_append_cons _ _ hand,
            List.splitOnP_eq_singleton hfirst, htail]
          rfl

/-- AND is reserved, so no name is read as one. -/
theorem isAnd_name {text : String} (h : Identifier.IsName text.toList) :
    (name text).isAnd = false := by
  have hreserved : "and" ∈ Identifier.reservedWords := by decide
  simpa [name, Token.isAnd, h.folded] using h.notReserved "and" hreserved

end Sql

open Sql

namespace RowCondition

/-- The condition without the white space in it. -/
def lexemes : RowCondition → List Token
  | .equals field value => [name field, .mark '=', .literal value.toList]
  | .never => [name "FALSE"]

def holds (row : Row) : RowCondition → Bool
  | .equals field value => row field == value
  | .never => false

theorem filter_tokens (condition : RowCondition) :
    condition.tokens.filter (!·.isSpace) = condition.lexemes := by
  cases condition <;> rfl

theorem isAnd_of_mem_tokens {condition : RowCondition}
    (h : ∀ text ∈ condition.names, Identifier.isCanonical text) :
    ∀ token ∈ condition.tokens, token.isAnd = false := by
  cases condition with
  | never => decide
  | equals field value =>
      have hfield := isAnd_name (Identifier.isName_of_isCanonical (h field List.mem_cons_self))
      simpa [tokens, related, spaced, signs, List.intercalate_cons_cons, Token.isAnd] using hfield

theorem verdict?_lexemes {condition : RowCondition}
    (h : ∀ text ∈ condition.names, Identifier.isCanonical text) (row : Row) :
    verdict? row condition.lexemes = some (condition.holds row) := by
  cases condition with
  | never => rfl
  | equals field value =>
      have hfolded := (Identifier.isCanonical_iff.mp (h field List.mem_cons_self)).2
      simp [lexemes, name, verdict?, holds, hfolded]

/-- The condition of a row filter: fail closed where the caller lacks the attribute. -/
theorem holds_ofFilter (caller : Caller) (filter : RowFilter) (row : Row) :
    (ofFilter caller filter).holds row =
      decide (caller.attribute? filter.userAttribute = some (row filter.field)) := by
  unfold ofFilter
  cases caller.attribute? filter.userAttribute with
  | none => rfl
  | some value => simp [holds, Bool.beq_eq_decide_eq, eq_comm]

theorem lexemes_ofFilter (caller : Caller) (filter : RowFilter) :
    (ofFilter caller filter).lexemes =
      match caller.attribute? filter.userAttribute with
      | some value => [.word filter.field.toList, .mark '=', .literal value.toList]
      | none => [.word "FALSE".toList] := by
  unfold ofFilter
  cases caller.attribute? filter.userAttribute <;> rfl

/-- Every condition over names has a verdict on a row. -/
theorem mapM_verdict? {conditions : List RowCondition}
    (h : ∀ condition ∈ conditions, ∀ text ∈ condition.names, Identifier.isCanonical text)
    (row : Row) :
    (conditions.map lexemes).mapM (verdict? row) = some (conditions.map (holds row)) := by
  induction conditions with
  | nil => rfl
  | cons condition rest ih =>
      have hfirst := verdict?_lexemes (h condition List.mem_cons_self) row
      have hrest := ih fun other hmem => h other (List.mem_cons_of_mem condition hmem)
      simp [hfirst, hrest]

end RowCondition

namespace TableRules

variable {rules : TableRules} {caller : Caller}

/-- Rows are unrestricted where there is no filter or the caller is exempt, and only there. -/
theorem rowPredicate_eq_none_iff :
    rules.rowPredicate caller = none ↔
      rules.rowFilters = [] ∨ ∃ role ∈ rules.exemptRoles, role ∈ caller.roles := by
  simp [rowPredicate, rowConditions?, Caller.hasAnyRole, Caller.hasRole, or_iff_not_imp_left]

theorem canonical_ofFilter
    (hcanonical : ∀ filter ∈ rules.rowFilters, Identifier.isCanonical filter.field) :
    ∀ condition ∈ rules.rowFilters.map (RowCondition.ofFilter caller),
      ∀ text ∈ condition.names, Identifier.isCanonical text := by
  intro condition hcondition text htext
  obtain ⟨filter, hfilter, rfl⟩ := List.mem_map.mp hcondition
  rw [List.mem_singleton.mp (RowCondition.names_ofFilter_subset caller filter htext)]
  exact hcanonical filter hfilter

/-- The parts of a row condition are its filters. -/
theorem andParts_rowPredicate
    (hcanonical : ∀ filter ∈ rules.rowFilters, Identifier.isCanonical filter.field)
    {predicate : String} (h : rules.rowPredicate caller = some predicate) :
    ∃ tokens, tokens? predicate = some tokens ∧ CommentFree tokens ∧
      andParts tokens =
        (rules.rowFilters.map (RowCondition.ofFilter caller)).map RowCondition.lexemes := by
  obtain ⟨htokens, hplain⟩ := Allowlist.tokens?_rowConditions hcanonical h
  have hne : rules.rowFilters ≠ [] := by
    intro hnil
    simp [rowPredicate_eq_none_iff.mpr (.inl hnil)] at h
  refine ⟨_, htokens, hplain.commentFree, ?_⟩
  rw [andParts_intercalate (by simpa using hne)]
  · simp [Function.comp_def, RowCondition.filter_tokens]
  · intro part hpart
    obtain ⟨condition, hcondition, rfl⟩ := List.mem_map.mp hpart
    exact RowCondition.isAnd_of_mem_tokens (canonical_ofFilter hcanonical condition hcondition)

/-- A row condition can be read, and a row satisfies it when it passes every filter. -/
theorem satisfies?_rowPredicate
    (hcanonical : ∀ filter ∈ rules.rowFilters, Identifier.isCanonical filter.field)
    {predicate : String} (h : rules.rowPredicate caller = some predicate) (row : Row) :
    satisfies? row predicate = some (decide (∀ filter ∈ rules.rowFilters,
      caller.attribute? filter.userAttribute = some (row filter.field))) := by
  obtain ⟨tokens, htokens, -, hparts⟩ := andParts_rowPredicate hcanonical h
  have hnames := @canonical_ofFilter rules caller hcanonical
  have hverdicts := RowCondition.mapM_verdict? hnames row
  have hall : satisfies? row predicate =
      some ((rules.rowFilters.map (RowCondition.ofFilter caller)).all (·.holds row)) := by
    simp only [satisfies?, htokens, Option.bind_eq_bind, Option.bind_some, hparts, hverdicts,
      List.all_map]
    rfl
  rw [hall, Option.some_inj, Bool.eq_iff_iff]
  simp [RowCondition.holds_ofFilter]

end TableRules

/-- In a policy without faults the rows of a table are unrestricted for the callers without
filters to pass, and for them only.  For the others the row condition is read as one part for
each filter, in order, which compares the column with the attribute of the caller; where the
attribute is missing no row will do. -/
theorem row_security_fails_closed {allowlist : Allowlist} (hfault : allowlist.fault? = none)
    {table : String} {rules : TableRules} (hlisted : allowlist.tables.get? table = some rules)
    {caller : Caller} (hadmits : rules.admits caller) :
    (allowlist.toPolicy.rowPredicate table caller = none ↔
      rules.rowFilters = [] ∨ ∃ role ∈ rules.exemptRoles, role ∈ caller.roles) ∧
    ∀ predicate, allowlist.toPolicy.rowPredicate table caller = some predicate →
      (∃ tokens, tokens? predicate = some tokens ∧ CommentFree tokens ∧
        andParts tokens = rules.rowFilters.map fun filter =>
          match caller.attribute? filter.userAttribute with
          | some value => [.word filter.field.toList, .mark '=', .literal value.toList]
          | none => [.word "FALSE".toList]) ∧
      ∀ row, satisfies? row predicate = some (decide (∀ filter ∈ rules.rowFilters,
        caller.attribute? filter.userAttribute = some (row filter.field))) := by
  have hrules : allowlist.admitted? table caller = some rules :=
    Option.filter_eq_some_iff.mpr ⟨hlisted, hadmits⟩
  have hrow : allowlist.toPolicy.rowPredicate table caller = rules.rowPredicate caller := by
    change (allowlist.admitted? table caller).bind _ = _
    rw [hrules, Option.bind_some]
  have hcanonical := Allowlist.isCanonical_of_admitted? hfault hrules
  rw [hrow]
  refine ⟨TableRules.rowPredicate_eq_none_iff, ?_⟩
  intro predicate hpredicate
  refine ⟨?_, TableRules.satisfies?_rowPredicate hcanonical hpredicate⟩
  obtain ⟨tokens, htokens, hcomment, hparts⟩ :=
    TableRules.andParts_rowPredicate hcanonical hpredicate
  refine ⟨tokens, htokens, hcomment, hparts.trans ?_⟩
  rw [List.map_map]
  exact List.map_congr_left fun filter _ => RowCondition.lexemes_ofFilter caller filter

def Sample.guardedRules : TableRules where
  fields := ["amount"]
  rowFilters := [⟨"region", "area"⟩, ⟨"grade", "clearance"⟩]

def Sample.guardedPolicy : Allowlist where
  tables := [("orders", Sample.guardedRules)]

/-- A caller whose area reads like more conditions. -/
def Sample.intruder : Caller where
  userId := "u-2"
  attributes := [("area", "n' OR TRUE AND 'x' = 'x' --")]

/-- The text of the attribute stays inside its literal, and the missing attribute closes the
table. -/
theorem row_security_fails_closed_intruder :
    ∃ predicate,
      Sample.guardedPolicy.toPolicy.rowPredicate "orders" Sample.intruder = some predicate ∧
      (∃ tokens, tokens? predicate = some tokens ∧
        andParts tokens =
          [[.word "region".toList, .mark '=', .literal "n' OR TRUE AND 'x' = 'x' --".toList],
            [.word "FALSE".toList]]) ∧
      ∀ row, satisfies? row predicate = some false := by
  have hfault : Sample.guardedPolicy.fault? = none := by decide
  have hlisted : Sample.guardedPolicy.tables.get? "orders" = some Sample.guardedRules := rfl
  have hadmits : Sample.guardedRules.admits Sample.intruder := by decide
  obtain ⟨habsent, hpresent⟩ := row_security_fails_closed hfault hlisted hadmits
  cases hpredicate : Sample.guardedPolicy.toPolicy.rowPredicate "orders" Sample.intruder with
  | none => exact absurd (habsent.mp hpredicate) (by decide)
  | some predicate =>
      obtain ⟨⟨tokens, htokens, -, hparts⟩, hrows⟩ := hpresent predicate hpredicate
      refine ⟨predicate, rfl, ⟨tokens, htokens, hparts⟩, ?_⟩
      intro row
      have hmissing : Sample.intruder.attribute? "clearance" = none := by decide
      rw [hrows row]
      simp [Sample.guardedRules, hmissing]

end TenantQuery
