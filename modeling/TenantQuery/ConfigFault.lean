/-!
What can be wrong with a policy or with settings that could be read.
-/

namespace TenantQuery

/-- Why a policy or settings are refused. -/
inductive ConfigFault where
  | tenantColumn (name : String)
  | dateField (name : String)
  | defaultTable (name : String)
  | zeroLimit
  | policyTable (name : String)
  | policyField (field table : String)
  | rowFilterColumn (field table : String)
deriving DecidableEq

/-- The wording of a fault; the offending name is quoted. -/
def ConfigFault.message : ConfigFault → String
  | .tenantColumn name => s!"tenantColumn '{name}' is not a valid lower-case identifier"
  | .dateField name => s!"defaultDateField '{name}' is not a valid lower-case identifier"
  | .defaultTable name => s!"defaultTable '{name}' is not a valid lower-case table name"
  | .zeroLimit => "defaultLimit must be positive"
  | .policyTable name => s!"policy table '{name}' is not a valid lower-case table name"
  | .policyField field table =>
    s!"field '{field}' on table '{table}' is not a valid lower-case identifier"
  | .rowFilterColumn field table =>
    s!"row filter column '{field}' on table '{table}' is not a valid lower-case identifier"

end TenantQuery
