import TenantQuery.Dictionary
import TenantQuery.Text.Inspection
/-!
Who asks, and what a policy lets them see.

A policy is three questions about a caller: may the table be queried, may a column be named,
and which rows are visible.  A compilation asks them for one caller and one table.
-/

namespace TenantQuery

/-- The verified identity behind a request. -/
structure Caller where
  userId : String
  roles : List String := []
  /-- Verified facts such as a department, which row conditions refer to. -/
  attributes : Dictionary String := []
deriving DecidableEq

namespace Caller

def withRole (caller : Caller) (role : String) : Caller :=
  { caller with roles := caller.roles ++ [role] }

/-- The caller with an attribute; an earlier value of it gives way. -/
def withAttribute (caller : Caller) (key value : String) : Caller :=
  { caller with attributes := caller.attributes.insert key value }

def hasRole (caller : Caller) (role : String) : Bool :=
  caller.roles.contains role

def hasAnyRole (caller : Caller) (roles : List String) : Bool :=
  roles.any caller.hasRole

def attribute? (caller : Caller) (key : String) : Option String :=
  caller.attributes.get? key

end Caller

/-- What callers may see. -/
structure AccessPolicy where
  tableAllowed : String → Caller → Bool
  fieldAllowed : String → String → Caller → Bool
  /-- The condition on the rows of a table, beyond the tenant's own. -/
  rowPredicate : String → Caller → Option String

/-- A policy as it applies to one caller. -/
structure Access where
  policy : AccessPolicy
  caller : Caller

namespace Access

def tableAllowed (access : Access) (table : String) : Bool :=
  access.policy.tableAllowed table access.caller

def fieldAllowed (access : Access) (table field : String) : Bool :=
  access.policy.fieldAllowed table field access.caller

def rowPredicate (access : Access) (table : String) : Option String :=
  access.policy.rowPredicate table access.caller

/-- What diagnostics show of an access: who asks, and nothing of what is allowed. -/
def describe (access : Access) : String :=
  "AccessDecision \x7b caller: " ++ Text.inspect access.caller.userId ++ ", .. \x7d"

end Access

end TenantQuery
