import TenantQuery.Condition.Window
import TenantQuery.Log
/-!
Where a compilation departs from the request, and when it refuses altogether.

An adjustment drops or changes one element and is a warning in the result; a rejection leaves
no statement.  Neither ever repeats text of the request that was not found to be a name.
-/

namespace TenantQuery

/-- The places at which a request names a column. -/
inductive FieldRole where
  | dimension | metric | timeFilterDate | filter
deriving DecidableEq

/-- The role as a warning names it. -/
def FieldRole.name : FieldRole → String
  | .dimension => "dimension"
  | .metric => "metric"
  | .timeFilterDate => "time filter date"
  | .filter => "filter"

/-- One departure from the request. -/
inductive Adjustment where
  | fieldIllFormed (role : FieldRole)
  | fieldDenied (role : FieldRole) (field : String)
  | nameReserved (field word used : String)
  | nameIllFormed (field used : String)
  | nameTaken (field wanted used : String)
  | timeFilterDropped
  | windowReplaced (field : String) (note : WindowNote)
  | valueMissing (field : String) (operator : FilterOperator)
  | valueUnusable (field : String) (operator : FilterOperator)
  | sortKeyIllFormed
  | sortKeyUnmatched (name : String)
deriving DecidableEq

namespace Adjustment

def message : Adjustment → String
  | .fieldIllFormed role => role.name ++ " field is not a valid identifier; dropped"
  | .fieldDenied role field =>
    role.name ++ " field '" ++ field ++ "' is not accessible; dropped"
  | .nameReserved _ word used =>
    "alias '" ++ word ++ "' is a reserved word; using '" ++ used ++ "'"
  | .nameIllFormed _ used => "alias is not a valid identifier; using '" ++ used ++ "'"
  | .nameTaken _ wanted used =>
    "alias '" ++ wanted ++ "' is already in use; using '" ++ used ++ "'"
  | .timeFilterDropped => "time filter dropped"
  | .windowReplaced _ note => note.message
  | .valueMissing field operator =>
    "filter on '" ++ field ++ "' dropped: operator '" ++ Vocabulary.name operator ++
      "' requires a value"
  | .valueUnusable field operator =>
    "filter on '" ++ field ++ "' dropped: operator '" ++ Vocabulary.name operator ++
      "' has no usable value"
  | .sortKeyIllFormed => "order by entry is not a valid identifier; dropped"
  | .sortKeyUnmatched name =>
    "order by '" ++ name ++ "' does not match an output column; dropped"

/-- The short name of the kind of departure. -/
def reason : Adjustment → String
  | .fieldIllFormed _ => "invalid_identifier"
  | .fieldDenied _ _ => "not_accessible"
  | .nameReserved _ _ _ => "reserved_alias"
  | .nameIllFormed _ _ => "invalid_alias"
  | .nameTaken _ _ _ => "duplicate_alias"
  | .timeFilterDropped => "time_filter_dropped"
  | .windowReplaced _ _ => "time_fallback"
  | .valueMissing _ _ => "missing_value"
  | .valueUnusable _ _ => "unusable_value"
  | .sortKeyIllFormed => "invalid_order"
  | .sortKeyUnmatched _ => "unmatched_order"

/-- The column or name concerned, once it is known to be a name. -/
def field? : Adjustment → Option String
  | .fieldIllFormed _ | .timeFilterDropped | .sortKeyIllFormed => none
  | .fieldDenied _ field | .nameReserved field _ _ | .nameIllFormed field _
  | .nameTaken field _ _ | .windowReplaced field _ | .valueMissing field _
  | .valueUnusable field _ | .sortKeyUnmatched field => some field

end Adjustment

/-- Why there is no statement. -/
inductive Rejection where
  | invalidTable
  | accessDenied (table : String)
  | noAccessibleColumns
deriving DecidableEq

def Rejection.message : Rejection → String
  | .invalidTable => "Intent does not name a valid table"
  | .accessDenied table => "Access to table '" ++ table ++ "' denied"
  | .noAccessibleColumns => "No accessible columns"

inductive CompilationEvent where
  | started (user table : String) (dimensions metrics filters : Nat)
  | adjusted (table : String) (adjustment : Adjustment)
  | compiled (user table : String) (columns conditions warnings : Nat)
  | rejected (user : String) (rejection : Rejection)
deriving DecidableEq

def CompilationEvent.entry : CompilationEvent → LogEntry
  | .started user table dimensions metrics filters =>
    ⟨.debug, "compiling query intent",
      [("user", user), ("table", table), ("dimensions", toString dimensions),
       ("metrics", toString metrics), ("filters", toString filters)]⟩
  | .adjusted table adjustment =>
    ⟨.warn, "query intent adjusted",
      ("table", table) :: ((adjustment.field?.map fun field => ("field", field)).toList ++
        [("reason", adjustment.reason), ("warning", adjustment.message)])⟩
  | .compiled user table columns conditions warnings =>
    ⟨.info, "query intent compiled",
      [("user", user), ("table", table), ("columns", toString columns),
       ("applied_filters", toString conditions), ("warnings", toString warnings)]⟩
  | .rejected user rejection =>
    ⟨.warn, "query intent rejected", [("user", user), ("error", rejection.message)]⟩

end TenantQuery
