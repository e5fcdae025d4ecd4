import TenantQuery.ConfigFault
import TenantQuery.Identifier
import TenantQuery.Sql.Statement
/-!
What the operator of the compiler decides: the tenant column and the defaults of a request.
-/

namespace TenantQuery

structure Settings where
  /-- The column that holds the tenant; every statement is bound to one tenant by it. -/
  tenantColumn : String := "company_code"
  /-- The date column of a time filter that names none. -/
  defaultDateField : String := "order_date"
  /-- The table of a request that names none. -/
  defaultTable : Option String := none
  /-- The row count of a request that asks for none. -/
  defaultLimit : Nat := 100
deriving DecidableEq

namespace Settings

/-- No statement asks for more rows. -/
def rowLimitCeiling : Nat := 1000

def fault? (settings : Settings) : Option ConfigFault :=
  if !Identifier.isCanonical settings.tenantColumn then
    some (.tenantColumn settings.tenantColumn)
  else if !Identifier.isCanonical settings.defaultDateField then
    some (.dateField settings.defaultDateField)
  else
    match settings.defaultTable.filter (!Identifier.isCanonicalTable ·) with
    | some table => some (.defaultTable table)
    | none => if settings.defaultLimit = 0 then some .zeroLimit else none

/-- The condition that keeps a statement within one tenant. -/
def tenantPredicate (settings : Settings) : String :=
  (Sql.Condition.tenant settings.tenantColumn).render

/-- The row count for a requested one.  Only positive numbers are requests, and the ceiling
holds for the default as well. -/
def effectiveLimit (settings : Settings) (requested : Option Int) : Nat :=
  let wanted :=
    match requested with
    | some n => if 0 < n then n.toNat else settings.defaultLimit
    | none => settings.defaultLimit
  min wanted rowLimitCeiling

end Settings

end TenantQuery
