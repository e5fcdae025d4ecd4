import TenantQuery.Condition.Filter
import TenantQuery.Condition.Window
/-!
The one form of statement that is ever produced, as data and as text.

A statement selects columns of one table under conditions that all must hold.  Names in it are
names of columns, of the table and of outputs; every other text of a request is inside a
literal.
-/

namespace TenantQuery.Sql

inductive ColumnShape where
  /-- A grouping column, truncated to a unit of time if there is one. -/
  | dimension (granularity : Option Granularity)
  | metric (aggregate : Aggregate)
deriving DecidableEq

structure Column where
  field : String
  shape : ColumnShape
  outputName : String
deriving DecidableEq

namespace Column

def isDimension (column : Column) : Bool :=
  match column.shape with
  | .dimension _ => true
  | .metric _ => false

/-- What is selected, without the output name. -/
def expression (column : Column) : String :=
  match column.shape with
  | .dimension (some granularity) =>
    "DATE_TRUNC('" ++ granularity.unit ++ "', " ++ column.field ++ ")"
  | .dimension none => column.field
  | .metric aggregate => aggregate.apply column.field

/-- The column in the select list.  A plain column that keeps its name needs no other. -/
def render (column : Column) : String :=
  if column.shape = .dimension none && column.field == column.outputName then column.field
  else column.expression ++ " AS " ++ column.outputName

/-- The grouping key of the column at a position of the select list, counted from one. -/
def groupKey? (column : Column) (position : Nat) : Option String :=
  match column.shape with
  | .dimension (some _) => some (toString position)
  | .dimension none => some column.field
  | .metric _ => none

end Column

inductive ConditionCategory where
  | tenant | policy | time | user
deriving DecidableEq

def ConditionCategory.name : ConditionCategory → String
  | .tenant => "tenant"
  | .policy => "policy"
  | .time => "time"
  | .user => "user"

/-- An entry of the audit trail: a condition behind its category. -/
def ConditionCategory.tag (category : ConditionCategory) (predicate : String) : String :=
  "[" ++ category.name ++ "] " ++ predicate

inductive Condition where
  /-- The tenant column equals the tenant parameter. -/
  | tenant (column : String)
  /-- The condition of the access policy, in the policy's own words. -/
  | policy (predicate : String)
  | time (window : TimeWindow) (field : String)
  | user (test : FilterTest) (field : String)
deriving DecidableEq

/-- The parameter that the tenant is passed in. -/
def tenantParameter : String := "$1"

namespace Condition

def category : Condition → ConditionCategory
  | .tenant _ => .tenant
  | .policy _ => .policy
  | .time _ _ => .time
  | .user _ _ => .user

/-- The condition as it stands in the statement.  The policy's words are kept together. -/
def render : Condition → String
  | .tenant column => column ++ " = " ++ tenantParameter
  | .policy predicate => "(" ++ predicate ++ ")"
  | .time window field => window.render field
  | .user test field => test.render field

def auditEntry (condition : Condition) : String :=
  condition.category.tag condition.render

end Condition

inductive SortKey where
  /-- An output name. -/
  | output (name : String) (direction : SortDirection)
  /-- The first column, which is how grouped rows are sorted when nothing else is asked. -/
  | firstColumn
deriving DecidableEq

def SortKey.render : SortKey → String
  | .output name direction => name ++ " " ++ direction.keyword
  | .firstColumn => "1 " ++ SortDirection.asc.keyword

structure Statement where
  columns : List Column
  table : String
  conditions : List Condition
  sortKeys : List SortKey
  limit : Nat
deriving DecidableEq

namespace Statement

/-- The grouping keys, one for each dimension. -/
def groupKeys (statement : Statement) : List String :=
  (statement.columns.zipIdx 1).filterMap fun (column, position) => column.groupKey? position

/-- A clause over a list, which is absent when the list is empty. -/
def clause (keyword : String) (parts : List String) : List String :=
  if parts.isEmpty then [] else [keyword ++ " " ++ ", ".intercalate parts]

def clauses (statement : Statement) : List String :=
  ["SELECT " ++ ", ".intercalate (statement.columns.map Column.render),
   "FROM " ++ statement.table,
   "WHERE " ++ " AND ".intercalate (statement.conditions.map Condition.render)] ++
  clause "GROUP BY" statement.groupKeys ++
  clause "ORDER BY" (statement.sortKeys.map SortKey.render) ++
  ["LIMIT " ++ toString statement.limit]

/-- The statement as text, with single spaces between the clauses. -/
def render (statement : Statement) : String :=
  " ".intercalate statement.clauses

end Statement

end TenantQuery.Sql
