import TenantQuery.Compilation.Adjustment
import TenantQuery.Intent.Basic
import TenantQuery.Policy.Access
import TenantQuery.Sql.Statement
/-!
The select list: which requested columns survive, and under which output names.

A column survives when its field is an identifier whose canonical form the policy allows.  Its
output name is the requested one if that is an identifier, else the default; a name that an
earlier column has is replaced by one that none has.  What is dropped takes no name.
-/

namespace TenantQuery.Compilation

/-- The canonical form of a requested field, when the caller may name that column. -/
def authorize (access : Access) (table : String) (role : FieldRole) (field : String) :
    Except Adjustment String :=
  if !Identifier.isIdentifier field then .error (.fieldIllFormed role)
  else
    let name := Identifier.canonical field
    if access.fieldAllowed table name then .ok name else .error (.fieldDenied role name)

/-- A name cut so that it still fits with a suffix of the given length. -/
def cutFor (suffixLength : Nat) (base : String) : String :=
  String.ofList (base.toList.take (Identifier.maxLength - suffixLength))

/-- The names that stand in for one that cannot be used, in the order in which they are tried:
the name itself, then the name with `_2`, `_3`, … behind it, each cut to the length of an
identifier. -/
def candidate (base : String) : Nat → String
  | 0 => cutFor 0 base
  | k + 1 =>
    let suffix := "_" ++ toString (k + 2)
    cutFor suffix.length base ++ suffix

/-- The first candidate that is not taken.  Numbered candidates differ from one another, so there
is one among the unnumbered candidate and one more numbered ones than there are taken names. -/
def unusedName (taken : List String) (base : String) : String :=
  (((List.range (taken.length + 2)).map (candidate base)).find? (!taken.contains ·)).getD
    (candidate base 0)

/-- The output name that a column asks for: its own if that is an identifier, else the
default. -/
def preferredName (field : String) (requested : Option String) (default : String) :
    String × List Adjustment :=
  match requested with
  | none => (default, [])
  | some name =>
    if Identifier.isIdentifier name then (Identifier.canonical name, [])
    else if Identifier.isReserved name then
      (default, [.nameReserved field (Identifier.canonical name) default])
    else (default, [.nameIllFormed field default])

/-- The output name that a column gets.  A name that is taken, or too long to be one, gives way
to an unused name made from the default. -/
def settledName (taken : List String) (field preferred default : String) :
    String × List Adjustment :=
  if taken.contains preferred then
    let name := unusedName taken default
    (name, [.nameTaken field preferred name])
  else if Identifier.isIdentifier preferred then (preferred, [])
  else (unusedName taken default, [])

/-- The output name of a column, and the departures from the requested one. -/
def resolveName (taken : List String) (field : String) (requested : Option String)
    (default : String) : String × List Adjustment :=
  let (preferred, first) := preferredName field requested default
  let (name, second) := settledName taken field preferred default
  (name, first ++ second)

structure ColumnRequest where
  role : FieldRole
  field : String
  shape : Sql.ColumnShape
  requestedName : Option String
  defaultName : String

def ColumnRequest.ofDimension (dimension : Dimension) : ColumnRequest where
  role := .dimension
  field := dimension.field
  shape := .dimension dimension.granularity
  requestedName := dimension.outputName
  defaultName := dimension.defaultName

def ColumnRequest.ofMetric (metric : Metric) : ColumnRequest where
  role := .metric
  field := metric.field
  shape := .metric metric.aggregate
  requestedName := metric.outputName
  defaultName := metric.defaultName

/-- The requested columns of an intent, dimensions before metrics. -/
def columnRequests (intent : Intent) : List ColumnRequest :=
  intent.dimensions.map .ofDimension ++ intent.metrics.map .ofMetric

/-- The surviving columns in the order of the requests, given the output names of earlier
columns. -/
def selectColumns (access : Access) (table : String) :
    List String → List ColumnRequest → List Sql.Column × List Adjustment
  | _, [] => ([], [])
  | taken, request :: rest =>
    match authorize access table request.role request.field with
    | .error adjustment =>
      let (columns, later) := selectColumns access table taken rest
      (columns, adjustment :: later)
    | .ok field =>
      let (name, here) := resolveName taken field request.requestedName request.defaultName
      let (columns, later) := selectColumns access table (name :: taken) rest
      ({ field, shape := request.shape, outputName := name } :: columns, here ++ later)

end TenantQuery.Compilation
