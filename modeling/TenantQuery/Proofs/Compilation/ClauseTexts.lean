import TenantQuery.Proofs.Compilation.Outcome
/-!
A statement as the texts of its clauses.

The words of a policy are arbitrary text, so a statement cannot be cut at its key words alone.  It
can where its conditions are known, and these stand in the audit trail, each behind its reason.
-/

namespace TenantQuery

open Sql Compilation

namespace Sql

/-- The texts that a statement is put together from, clause by clause. -/
structure ClauseTexts where
  columns : List String
  table : String
  conditions : List String
  groupKeys : List String
  sortKeys : List String
  limit : Nat

namespace ClauseTexts

/-- What stands in front of the first condition. -/
def front (texts : ClauseTexts) : String :=
  "SELECT " ++ ", ".intercalate texts.columns ++ " FROM " ++ texts.table ++ " WHERE "

/-- What stands behind the last condition.  A clause without keys is left out. -/
def back (texts : ClauseTexts) : String :=
  " " ++ Statement.clauseText "GROUP BY" texts.groupKeys ++
    Statement.clauseText "ORDER BY" texts.sortKeys ++ "LIMIT " ++ toString texts.limit

def text (texts : ClauseTexts) : String :=
  texts.front ++ " AND ".intercalate texts.conditions ++ texts.back

end ClauseTexts

def Statement.clauseTexts (statement : Statement) : ClauseTexts where
  columns := statement.columns.map Column.render
  table := statement.table
  conditions := statement.conditions.map Condition.render
  groupKeys := statement.groupKeys
  sortKeys := statement.sortKeys.map SortKey.render
  limit := statement.limit

theorem Statement.text_clauseTexts (statement : Statement) :
    statement.clauseTexts.text = statement.render := by
  rw [Statement.render_eq]
  simp only [ClauseTexts.text, ClauseTexts.front, ClauseTexts.back, Statement.clauseTexts,
    String.append_assoc]

end Sql

/-- The texts make the statement of a result, with one text for each of its columns and with the
conditions of its audit trail. -/
structure CompileResult.WrittenAs (result : CompileResult) (texts : ClauseTexts) : Prop where
  sql : result.sql = some texts.text
  columns : texts.columns.length = result.columns.length
  conditions : ∃ reasons : List ConditionCategory, reasons.length = texts.conditions.length ∧
    result.appliedFilters = List.zipWith ConditionCategory.tag reasons texts.conditions

theorem CompileResult.writtenAs_ofStatement (statement : Statement) (warnings : List String) :
    (CompileResult.ofStatement statement warnings).WrittenAs statement.clauseTexts := by
  refine ⟨congrArg some statement.text_clauseTexts.symm, ?_,
    statement.conditions.map Condition.category, ?_, ?_⟩
  · simp [Statement.clauseTexts, CompileResult.ofStatement]
  · simp [Statement.clauseTexts]
  · rw [Statement.clauseTexts, List.zipWith_map, List.zipWith_self]
    rfl

namespace Compilation

variable {settings : Settings} {access : Access} {intent : Intent} {table : String}

/-- A request that is admitted is written as the texts of its statement. -/
theorem writtenAs_of_admitted (h : Admitted settings access intent table) (today : Date) :
    (compileOn settings access intent today).WrittenAs
      (statementOver settings access table intent today).clauseTexts := by
  rw [compileOn_of_admitted h today]
  exact CompileResult.writtenAs_ofStatement _ _

theorem columns_of_admitted (h : Admitted settings access intent table) (today : Date) :
    (compileOn settings access intent today).columns =
      (selectColumns access table [] (columnRequests intent)).1.map OutputColumn.ofColumn := by
  rw [compileOn_of_admitted h today]
  rfl

end Compilation

end TenantQuery
