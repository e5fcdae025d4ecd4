/-!
What the library reports while it works: entries of named fields, all of them text.
-/

namespace TenantQuery

inductive LogLevel where
  | debug | info | warn
deriving DecidableEq

def LogLevel.name : LogLevel → String
  | .debug => "DEBUG"
  | .info => "INFO"
  | .warn => "WARN"

structure LogEntry where
  level : LogLevel
  message : String
  fields : List (String × String)
deriving DecidableEq

end TenantQuery
