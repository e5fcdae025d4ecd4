import TenantQuery.ConfigFault
import TenantQuery.Identifier
import TenantQuery.Policy.Access
import TenantQuery.Sql.Literal
/-!
An access policy declared table by table.

A table that is not listed is closed.  A listed one is open to the roles it names, or to every
caller when it names none.  A column of it is open when it is listed; a restricted column is
open to its own roles only, whether or not it is listed as well.  Row filters are conditions
that all must hold, and a caller without the attribute that one of them compares with sees no
rows at all.
-/

namespace TenantQuery

/-- Rows are visible where a column equals an attribute of the caller. -/
structure RowFilter where
  field : String
  userAttribute : String
deriving DecidableEq

structure TableRules where
  /-- The roles that may query the table; none means everyone. -/
  roles : List String := []
  /-- The columns open to whoever may query the table. -/
  fields : List String := []
  /-- The columns open to certain roles only. -/
  restrictedFields : Dictionary (List String) := []
  rowFilters : List RowFilter := []
  /-- The roles to which the row filters do not apply. -/
  exemptRoles : List String := []
deriving DecidableEq

namespace TableRules

/-- The caller may query the table. -/
def admits (rules : TableRules) (caller : Caller) : Bool :=
  rules.roles.isEmpty || caller.hasAnyRole rules.roles

def fieldVisible (rules : TableRules) (field : String) (caller : Caller) : Bool :=
  match rules.restrictedFields.get? field with
  | some roles => caller.hasAnyRole roles
  | none => rules.fields.contains field

end TableRules

inductive RowCondition where
  | equals (field value : String)
  | never
deriving DecidableEq

namespace RowCondition

/-- A row filter for a caller: without the attribute no row will do. -/
def ofFilter (caller : Caller) (filter : RowFilter) : RowCondition :=
  match caller.attribute? filter.userAttribute with
  | some value => .equals filter.field value
  | none => .never

def render : RowCondition → String
  | .equals field value => field ++ " = " ++ Sql.quote value
  | .never => "FALSE"

end RowCondition

/-- The conditions on the rows that a caller may see; none at all for tables without row
filters and for exempt callers. -/
def TableRules.rowConditions? (rules : TableRules) (caller : Caller) :
    Option (List RowCondition) :=
  if rules.rowFilters.isEmpty || caller.hasAnyRole rules.exemptRoles then none
  else some (rules.rowFilters.map (RowCondition.ofFilter caller))

/-- The condition on the rows that a caller may see, as text. -/
def TableRules.rowPredicate (rules : TableRules) (caller : Caller) : Option String :=
  (rules.rowConditions? caller).map fun conditions =>
    " AND ".intercalate (conditions.map RowCondition.render)

/-- A policy that lists what is open. -/
structure Allowlist where
  tables : Dictionary TableRules := []
deriving DecidableEq

namespace Allowlist

def tableFault? (name : String) (rules : TableRules) : Option ConfigFault :=
  if !Identifier.isCanonicalTable name then some (.policyTable name)
  else
    match (rules.fields ++ rules.restrictedFields.keys).find? (!Identifier.isCanonical ·) with
    | some field => some (.policyField field name)
    | none =>
      match rules.rowFilters.find? (!Identifier.isCanonical ·.field) with
      | some filter => some (.rowFilterColumn filter.field name)
      | none => none

/-- The first fault, tables in the order of their names.  Every name must be in the form in
which requests are compared with it, since another could never be met. -/
def fault? (allowlist : Allowlist) : Option ConfigFault :=
  allowlist.tables.findSome? fun (name, rules) => tableFault? name rules

/-- The rules of a table, when it is listed and open to the caller. -/
def admitted? (allowlist : Allowlist) (table : String) (caller : Caller) : Option TableRules :=
  (allowlist.tables.get? table).filter (·.admits caller)

def toPolicy (allowlist : Allowlist) : AccessPolicy where
  tableAllowed table caller := (allowlist.admitted? table caller).isSome
  fieldAllowed table field caller :=
    match allowlist.admitted? table caller with
    | some rules => rules.fieldVisible field caller
    | none => false
  rowPredicate table caller := (allowlist.admitted? table caller).bind (·.rowPredicate caller)

end Allowlist

end TenantQuery
