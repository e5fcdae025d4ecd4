import TenantQuery.Compilation.Adjustment
import TenantQuery.Json.Value
import TenantQuery.Sql.Statement
/-!
The result of a compilation as it is handed out: either a statement with its audit trail, or an
error.  Only the statement of a successful result is ever to be executed.
-/

namespace TenantQuery

inductive ColumnKind where
  | dimension | metric
deriving DecidableEq

def ColumnKind.name : ColumnKind → String
  | .dimension => "dimension"
  | .metric => "metric"

/-- A column of the rows that a statement yields. -/
structure OutputColumn where
  name : String
  kind : ColumnKind
deriving DecidableEq

def OutputColumn.ofColumn (column : Sql.Column) : OutputColumn where
  name := column.outputName
  kind := if column.isDimension then .dimension else .metric

structure CompileResult where
  success : Bool
  sql : Option String
  error : Option String
  /-- One for every element of the request that was dropped or changed. -/
  warnings : List String
  /-- Every condition of the statement, in order, behind its category. -/
  appliedFilters : List String
  /-- The columns in the order of the select list. -/
  columns : List OutputColumn
deriving DecidableEq

namespace CompileResult

def ofStatement (statement : Sql.Statement) (warnings : List String) : CompileResult where
  success := true
  sql := some statement.render
  error := none
  warnings := warnings
  appliedFilters := statement.conditions.map Sql.Condition.auditEntry
  columns := statement.columns.map OutputColumn.ofColumn

def ofRejection (rejection : Rejection) (warnings : List String) : CompileResult where
  success := false
  sql := none
  error := some rejection.message
  warnings := warnings
  appliedFilters := []
  columns := []

def executableSql (result : CompileResult) : Option String :=
  if result.success then result.sql else none

def outputNames (result : CompileResult) (kind : ColumnKind) : List String :=
  (result.columns.filter (·.kind == kind)).map OutputColumn.name

def columnJson (column : OutputColumn) : Json :=
  .object [("alias", .string column.name), ("kind", .string column.kind.name)]

/-- The members of the result in JSON.  An absent statement or error is left out. -/
def members (result : CompileResult) : List (String × Json) :=
  ("success", .bool result.success) ::
    ((result.sql.map fun sql => ("sql", .string sql)).toList ++
     (result.error.map fun error => ("error", .string error)).toList ++
     [("warnings", .array (result.warnings.map .string)),
      ("appliedFilters", .array (result.appliedFilters.map .string)),
      ("columns", .array (result.columns.map columnJson))])

end CompileResult

end TenantQuery
