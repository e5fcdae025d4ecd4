import TenantQuery.Decimal.Shortest
import TenantQuery.Dictionary
/-!
JSON values.

A number keeps its value and not its spelling: an integer that fits 64 bits, signed or
unsigned, is exact, and anything else is a binary64 number near to it.  An object has one value
for each key.
-/

namespace TenantQuery

inductive Number where
  /-- An integer from `-2 ^ 63` to `2 ^ 64 - 1`, other than a zero written with a sign. -/
  | integer (value : Int)
  /-- Any other number, rounded. -/
  | real (value : Binary64)
deriving DecidableEq

def Number.text : Number → String
  | .integer value => toString value
  | .real value => value.text

inductive Json where
  | null
  | bool (value : Bool)
  | number (value : Number)
  | string (value : String)
  | array (items : List Json)
  | object (members : List (String × Json))

end TenantQuery
