import TenantQuery.Chart
import TenantQuery.CommandLine.Arguments
import TenantQuery.Compilation.Basic
import TenantQuery.Json.Printer
import TenantQuery.Loading.Documents
/-!
What the command line prints, and how it ends.

The status is 0 for a statement, 1 for a compilation that was rejected, and 2 when something
could not be read, in which case nothing is printed.
-/

namespace TenantQuery.CommandLine

structure Inputs where
  file : String → Option ByteArray
  standardInput : ByteArray
  /-- The date on which to compile when none is given. -/
  today : Date

/-- What a command prints on standard output, and its status. -/
structure Output where
  status : Nat
  text : String

def CompileArguments.caller (arguments : CompileArguments) : Caller :=
  let withRoles := arguments.roles.foldl Caller.withRole { userId := arguments.user }
  arguments.attributes.foldl (fun caller (key, value) => caller.withAttribute key value) withRoles

def CompileArguments.intentText (arguments : CompileArguments) (inputs : Inputs) :
    Except LoadError String :=
  fileText arguments.intent
    (if arguments.intent == "-" then some inputs.standardInput
     else inputs.file arguments.intent)

/-- Everything that a compilation needs, read in the order in which it is reported missing. -/
structure Prepared where
  allowlist : Allowlist
  settings : Settings
  intent : Intent

def CompileArguments.prepare (arguments : CompileArguments) (inputs : Inputs) :
    Except LoadError Prepared := do
  let policyText ← fileText arguments.policy (inputs.file arguments.policy)
  let allowlist ← Allowlist.load policyText
  let settings ←
    match arguments.settings with
    | some path => Settings.load (← fileText path (inputs.file path))
    | none => Settings.validate {}
  let text ← arguments.intentText inputs
  let (intent, _) ← if arguments.raw then Intent.loadResponse text else Intent.load text
  return { allowlist, settings, intent }

/-- A printed value, with a line end behind it. -/
def Output.ofJson (status : Nat) (value : Json) : Output :=
  ⟨status, value.pretty ++ "\n"⟩

/-- The output of a compilation: its result, and hints for a chart when there are any. -/
def compileOutput (result : CompileResult) (chart : Option ChartHints) : Output :=
  .ofJson (if result.success then 0 else 1)
    (.object (result.members ++ (chart.map fun hints => ("chart", hints.json)).toList))

/-- The output for arguments that cannot be followed. -/
def failure : Output := ⟨2, ""⟩

def CompileArguments.run (arguments : CompileArguments) (inputs : Inputs) : Output :=
  match arguments.prepare inputs with
  | .error _ => failure
  | .ok prepared =>
    let access : Access := ⟨prepared.allowlist.toPolicy, arguments.caller⟩
    let today := arguments.today.getD inputs.today
    let result := compileOn prepared.settings access prepared.intent today
    compileOutput result (ChartHints.of? prepared.intent result arguments.question)

/-- What a policy says of one table, in short. -/
def tableSummary (rules : TableRules) : Json :=
  let texts (values : List String) : Json := .array (values.map .string)
  .object
    [("exemptRoles", texts rules.exemptRoles),
     ("fields", .number (.integer rules.fields.length)),
     ("restrictedFields", texts rules.restrictedFields.keys),
     ("roles", texts rules.roles),
     ("rowFilterColumns", texts (rules.rowFilters.map RowFilter.field))]

def summarize (path : String) (inputs : Inputs) : Output :=
  match (fileText path (inputs.file path)).bind Allowlist.load with
  | .error _ => failure
  | .ok allowlist =>
    .ofJson 0 (.object
      [("tables", .object (allowlist.tables.map fun (name, rules) => (name, tableSummary rules)))])

def programVersion : String := "0.1.0"

def Command.run (command : Command) (inputs : Inputs) : Output :=
  match command with
  | .compile arguments => arguments.run inputs
  | .checkPolicy path => summarize path inputs
  | .version => ⟨0, "intentql " ++ programVersion ++ "\n"⟩

end TenantQuery.CommandLine
