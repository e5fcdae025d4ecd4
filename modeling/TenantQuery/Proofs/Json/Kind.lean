import TenantQuery.Json.Value
/-!
The kinds of JSON values.  What may be read where is said by kinds.
-/

namespace TenantQuery.Json

inductive Kind where
  | null | bool | number | string | array | object
deriving DecidableEq

def kind : Json → Kind
  | .null => .null
  | .bool _ => .bool
  | .number _ => .number
  | .string _ => .string
  | .array _ => .array
  | .object _ => .object

end TenantQuery.Json
