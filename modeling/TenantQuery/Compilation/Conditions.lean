import TenantQuery.Compilation.Columns
import TenantQuery.Settings
/-!
The conditions of a statement: the tenant, the policy, the time window and the user's filters,
in this order.
-/

namespace TenantQuery.Compilation

/-- The condition of the access policy, unless it is blank. -/
def policyConditions (access : Access) (table : String) : List Sql.Condition :=
  match access.rowPredicate table with
  | some predicate =>
    let trimmed := Text.trim predicate
    if trimmed.isEmpty then [] else [.policy trimmed]
  | none => []

/-- The condition of a time filter.  A date column that is not allowed drops the filter. -/
def timeConditions (settings : Settings) (access : Access) (table : String) (today : Date) :
    Option TimeFilter → List Sql.Condition × List Adjustment
  | none => ([], [])
  | some filter =>
    let requested := filter.dateField.getD settings.defaultDateField
    match authorize access table .timeFilterDate requested with
    | .error adjustment => ([], [adjustment, .timeFilterDropped])
    | .ok field =>
      let resolved := filter.resolve today
      ([.time resolved.window field], resolved.notes.map (.windowReplaced field))

/-- The condition of a filter, or the reason why it has none. -/
def filterCondition (access : Access) (table : String) (filter : Filter) :
    Except Adjustment Sql.Condition :=
  match authorize access table .filter filter.field with
  | .error adjustment => .error adjustment
  | .ok field =>
    match FilterTest.of? filter.operator filter.value with
    | some test => .ok (.user test field)
    | none =>
      if filter.value.isNone && filter.operator.requiresValue then
        .error (.valueMissing field filter.operator)
      else .error (.valueUnusable field filter.operator)

/-- The results and the failures of a list of attempts, each in order. -/
def separate {ε α : Type} : List (Except ε α) → List α × List ε
  | [] => ([], [])
  | .ok value :: rest => let (values, errors) := separate rest; (value :: values, errors)
  | .error error :: rest => let (values, errors) := separate rest; (values, error :: errors)

def filterConditions (access : Access) (table : String) (filters : List Filter) :
    List Sql.Condition × List Adjustment :=
  separate (filters.map (filterCondition access table))

def conditions (settings : Settings) (access : Access) (table : String) (today : Date)
    (intent : Intent) : List Sql.Condition × List Adjustment :=
  let (time, timeAdjustments) := timeConditions settings access table today intent.timeFilter
  let (user, userAdjustments) := filterConditions access table intent.filters
  (.tenant settings.tenantColumn :: policyConditions access table ++ time ++ user,
    timeAdjustments ++ userAdjustments)

end TenantQuery.Compilation
