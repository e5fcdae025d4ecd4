import TenantQuery.Calendar.Reading
/-!
The arguments of the command line.

Options are long, and take their value behind an equals sign or as the next argument.  An option
that is not a list stands at most once.  What looks like an option is never taken for a value,
except for a single hyphen; behind two hyphens nothing is an option any more.  Before the command
the version may be asked for, also by the short option `-V`.
-/

namespace TenantQuery.CommandLine

/-- What is compiled, and for whom. -/
structure CompileArguments where
  /-- The file of the intent; a hyphen means standard input. -/
  intent : String
  policy : String
  settings : Option String
  user : String
  roles : List String
  attributes : List (String × String)
  /-- The intent is to be found in the raw answer of a language model. -/
  raw : Bool
  today : Option Date
  question : String
deriving DecidableEq

inductive Command where
  | compile (arguments : CompileArguments)
  | checkPolicy (path : String)
  | version
deriving DecidableEq

structure Options where
  /-- The options without a value. -/
  flags : List String
  /-- The options with a value. -/
  valued : List String

/-- Arguments told apart: options in the order in which they stand, and the others. -/
structure Parts where
  options : List (String × Option String) := []
  others : List String := []

def isOptionLike (argument : String) : Bool :=
  argument.toList.head? == some '-' && argument != "-"

/-- The name of a long option and the value behind its equals sign. -/
def longOption? (argument : String) : Option (String × Option String) :=
  match argument.toList with
  | '-' :: '-' :: name =>
    match Text.cutAt? '=' name with
    | some (name, value) => some (String.ofList name, some (String.ofList value))
    | none => some (String.ofList name, none)
  | _ => none

/-- Tells the arguments of a command apart. -/
def Options.split? (options : Options) : List String → Option Parts
  | [] => some {}
  | argument :: rest =>
    if argument == "--" then some { others := rest }
    else if !isOptionLike argument then
      (options.split? rest).map fun parts => { parts with others := argument :: parts.others }
    else
      match longOption? argument with
      | none => none
      | some (name, value) =>
        if options.flags.contains name then
          if value.isSome then none
          else (options.split? rest).map fun parts =>
            { parts with options := (name, none) :: parts.options }
        else if options.valued.contains name then
          match value, rest with
          | some value, rest =>
            (options.split? rest).map fun parts =>
              { parts with options := (name, some value) :: parts.options }
          | none, value :: rest =>
            if isOptionLike value then none
            else (options.split? rest).map fun parts =>
              { parts with options := (name, some value) :: parts.options }
          | none, [] => none
        else none

def Parts.values (parts : Parts) (name : String) : List String :=
  parts.options.filterMap fun (found, value) => if found == name then value else none

/-- The value of an option that stands at most once. -/
def Parts.single? (parts : Parts) (name : String) : Option (Option String) :=
  match parts.values name with
  | [] => some none
  | [value] => some (some value)
  | _ => none

/-- Whether a flag is set, which it may be at most once. -/
def Parts.flag? (parts : Parts) (name : String) : Option Bool :=
  match parts.options.filter (·.1 == name) with
  | [] => some false
  | [_] => some true
  | _ => none

/-- An attribute of the caller: a key that is not blank, and behind the first equals sign its
value as it is. -/
def attribute? (argument : String) : Option (String × String) :=
  match Text.cutAt? '=' argument.toList with
  | some (key, value) =>
    let key := String.ofList (Text.trimChars key)
    if key.isEmpty then none else some (key, String.ofList value)
  | none => none

def date? (argument : String) : Option Date :=
  Calendar.plainDate? true argument.toList

def compileOptions : Options where
  flags := ["debug", "raw"]
  valued := ["intent", "policy", "config", "user", "role", "attr", "today", "question"]

def compile? (arguments : List String) : Option Command := do
  let parts ← compileOptions.split? arguments
  if !parts.others.isEmpty then none
  let _ ← parts.flag? "debug"
  let today ← match ← parts.single? "today" with
    | some text => (date? text).map some
    | none => some none
  return .compile
    { intent := ← (← parts.single? "intent")
      policy := ← (← parts.single? "policy")
      settings := ← parts.single? "config"
      user := ← (← parts.single? "user")
      roles := parts.values "role"
      attributes := ← (parts.values "attr").mapM attribute?
      raw := ← parts.flag? "raw"
      today
      question := (← parts.single? "question").getD "" }

/-- The command that summarizes a policy. -/
def checkPolicy? (arguments : List String) : Option Command := do
  let parts ← Options.split? { flags := ["debug"], valued := [] } arguments
  let _ ← parts.flag? "debug"
  match parts.others with
  | [path] => some (.checkPolicy path)
  | _ => none

/-- An argument that asks for the version.  The short option is obeyed as soon as it is read, so
what stands behind it in the same argument does not matter. -/
def asksVersion (argument : String) : Bool :=
  argument == "--version" || argument.toList.take 2 == ['-', 'V']

/-- The command that follows the options of the program itself. -/
def command? (arguments : List String) : Option Command :=
  match arguments with
  | "compile" :: rest => compile? rest
  | "check-policy" :: rest => checkPolicy? rest
  | argument :: _ => if asksVersion argument then some .version else none
  | [] => none

def parse? (arguments : List String) : Option Command :=
  match arguments with
  | "--debug" :: rest => command? rest
  | _ => command? arguments

def Command.paths : Command → List String
  | .compile arguments =>
    arguments.policy :: (arguments.settings.toList ++
      if arguments.intent == "-" then [] else [arguments.intent])
  | .checkPolicy path => [path]
  | .version => []

def Command.readsInput : Command → Bool
  | .compile arguments => arguments.intent == "-"
  | _ => false

end TenantQuery.CommandLine
