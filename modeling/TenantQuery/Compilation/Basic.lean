import TenantQuery.Compilation.Order
import TenantQuery.Compilation.Result
/-!
Compiling an intent into a statement for one caller.

Only three things stop a compilation: no valid table, a table that the caller may not query, and
no column that the caller may see.  Everything else is adjusted and reported.
-/

namespace TenantQuery

/-- What a compilation came to. -/
structure Compilation where
  /-- The table, once it is known. -/
  table : Option String
  /-- The departures from the request, in the order in which they were made. -/
  adjustments : List Adjustment
  outcome : Except Rejection Sql.Statement

namespace Compilation

/-- The canonical name of the requested table, or of the default one for a blank request. -/
def resolveTable? (settings : Settings) (requested : String) : Option String :=
  let trimmed := Text.trim requested
  let named := if trimmed.isEmpty then settings.defaultTable else some trimmed
  (named.filter Identifier.isTableName).map Identifier.canonical

/-- The compilation of an intent on a day. -/
def run (settings : Settings) (access : Access) (intent : Intent) (today : Date) :
    Compilation :=
  match resolveTable? settings intent.table with
  | none => ⟨none, [], .error .invalidTable⟩
  | some table =>
    if !access.tableAllowed table then ⟨some table, [], .error (.accessDenied table)⟩
    else
      let (columns, columnAdjustments) := selectColumns access table [] (columnRequests intent)
      if columns.isEmpty then ⟨some table, columnAdjustments, .error .noAccessibleColumns⟩
      else
        let (conditions, conditionAdjustments) := conditions settings access table today intent
        let (sortKeys, sortAdjustments) := sortKeys columns intent.orderBy
        { table := some table
          adjustments := columnAdjustments ++ conditionAdjustments ++ sortAdjustments
          outcome := .ok
            { columns, table, conditions, sortKeys
              limit := settings.effectiveLimit intent.limit } }

def warnings (compilation : Compilation) : List String :=
  compilation.adjustments.map Adjustment.message

def result (compilation : Compilation) : CompileResult :=
  match compilation.outcome with
  | .ok statement => .ofStatement statement compilation.warnings
  | .error rejection => .ofRejection rejection compilation.warnings

def closingEvent (compilation : Compilation) (user : String) : CompilationEvent :=
  match compilation.outcome with
  | .ok statement =>
    .compiled user statement.table statement.columns.length statement.conditions.length
      compilation.adjustments.length
  | .error rejection => .rejected user rejection

/-- What a compilation reports: that it started, unless there is no table to name, then every
departure from the request, and how it ended. -/
def events (compilation : Compilation) (user : String) (intent : Intent) :
    List CompilationEvent :=
  (match compilation.table with
    | some table =>
      .started user table intent.dimensions.length intent.metrics.length
          intent.filters.length ::
        compilation.adjustments.map (.adjusted table)
    | none => []) ++
  [compilation.closingEvent user]

end Compilation

def compileOn (settings : Settings) (access : Access) (intent : Intent) (today : Date) :
    CompileResult :=
  (Compilation.run settings access intent today).result

def compileEvents (settings : Settings) (access : Access) (intent : Intent) (today : Date) :
    List CompilationEvent :=
  (Compilation.run settings access intent today).events access.caller.userId intent

end TenantQuery
