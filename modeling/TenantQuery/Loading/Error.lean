import TenantQuery.ConfigFault
/-!
Why an intent, a policy or settings could not be loaded.
-/

namespace TenantQuery

/-- The causes.  What is wrong inside a malformed document is not told apart. -/
inductive LoadError where
  /-- The file is missing, or it is not text. -/
  | unreadable (path : String)
  | malformedYaml
  | malformedJson
  /-- The JSON is well formed but no object. -/
  | notAnObject
  | invalid (fault : ConfigFault)
deriving DecidableEq

namespace LoadError

def message : LoadError → String
  | .unreadable path => s!"Failed to read '{path}': "
  | .malformedYaml => "Invalid YAML: "
  | .malformedJson => "Invalid intent JSON: "
  | .notAnObject => "Invalid intent JSON: intent must be a JSON object"
  | .invalid fault => "Invalid configuration: " ++ fault.message

/-- The error was caused by another one, below the library. -/
def hasSource : LoadError → Bool
  | .invalid _ => false
  | _ => true

end LoadError

end TenantQuery
