import TenantQuery.Intent.Basic
import TenantQuery.Sql.Literal
/-!
The condition that a user filter puts on a column.

A filter becomes a condition only when its operator can use its value: comparisons take one
scalar, patterns take a text or a number, and membership takes a list of scalars or one scalar
for a list of one.  Every value stands in the condition as its own literal.
-/

namespace TenantQuery

inductive Comparison where
  | equal | different | greater | atLeast | less | atMost
deriving DecidableEq

def Comparison.sign : Comparison → String
  | .equal => "="
  | .different => "<>"
  | .greater => ">"
  | .atLeast => ">="
  | .less => "<"
  | .atMost => "<="

inductive FilterTest where
  | isNull
  | isNotNull
  | compare (comparison : Comparison) (operand : Sql.Literal)
  | like (shape : Sql.LikeShape) (text : String)
  | oneOf (items : List Sql.Literal)
  | noneOf (items : List Sql.Literal)
deriving DecidableEq

namespace FilterTest

/-- The members of a list: its items, or a scalar as the only one. -/
def items? : Json → Option (List Sql.Literal)
  | .array items => items.mapM Sql.Literal.ofJson?
  | scalar => (Sql.Literal.ofJson? scalar).map fun item => [item]

/-- The test of an operator with a value, when it has one that it can use. -/
def of? (operator : FilterOperator) (value : Option Json) : Option FilterTest :=
  match operator with
  | .isNull => some .isNull
  | .isNotNull => some .isNotNull
  | .eq => compareWith .equal
  | .neq => compareWith .different
  | .gt => compareWith .greater
  | .gte => compareWith .atLeast
  | .lt => compareWith .less
  | .lte => compareWith .atMost
  | .like => likeShape .contains
  | .startsWith => likeShape .startsWith
  | .endsWith => likeShape .endsWith
  | .isIn => (value.bind items?).map .oneOf
  | .notIn => (value.bind items?).map .noneOf
where
  compareWith (comparison : Comparison) : Option FilterTest :=
    (value.bind Sql.Literal.ofJson?).map (.compare comparison)
  likeShape (shape : Sql.LikeShape) : Option FilterTest :=
    (value.bind Sql.patternText?).map (.like shape)

def renderArray (items : List Sql.Literal) : String :=
  "ARRAY[" ++ ", ".intercalate (items.map Sql.Literal.render) ++ "]"

/-- The condition on a column.  Nothing is one of no values, and everything is none of them. -/
def render (field : String) : FilterTest → String
  | .isNull => field ++ " IS NULL"
  | .isNotNull => field ++ " IS NOT NULL"
  | .compare comparison operand => field ++ " " ++ comparison.sign ++ " " ++ operand.render
  | .like shape text => field ++ " ILIKE " ++ Sql.quote (shape.pattern text)
  | .oneOf [] => "FALSE"
  | .oneOf items => field ++ " = ANY(" ++ renderArray items ++ ")"
  | .noneOf [] => "TRUE"
  | .noneOf items => field ++ " <> ALL(" ++ renderArray items ++ ")"

end FilterTest

def filterPredicate? (field : String) (operator : FilterOperator) (value : Option Json) :
    Option String :=
  (FilterTest.of? operator value).map (FilterTest.render field)

end TenantQuery
