import TenantQuery.Intent.Extraction
import TenantQuery.Intent.Reading
import TenantQuery.Json.Reader
import TenantQuery.Loading.Error
import TenantQuery.Policy.Allowlist
import TenantQuery.Settings
import TenantQuery.Yaml.Decoding
/-!
Loading the three kinds of documents: intents in JSON, policies and settings in YAML.

Policies and settings are checked when they are loaded.  An intent is checked when it is
compiled; only a text that is no JSON object at all is refused here.
-/

namespace TenantQuery

open Yaml (Decoder)
open Yaml.Decoder

/-- A row filter in a policy document; it has both of its fields. -/
def RowFilter.decoder : Decoder RowFilter := fun document node => do
  let fields ← record ["field", "userAttribute"] document node
  return {
    field := ← requiredField "field" text document fields
    userAttribute := ← requiredField "userAttribute" text document fields }

/-- The rules of a table in a policy document; every field may be absent. -/
def TableRules.decoder : Decoder TableRules := fun document node => do
  let fields ←
    record ["roles", "fields", "restrictedFields", "rowFilters", "exemptRoles"] document node
  return {
    roles := ← optionalField [] "roles" (list text) document fields
    fields := ← optionalField [] "fields" (list text) document fields
    restrictedFields :=
      ← optionalField [] "restrictedFields" (dictionary (list text)) document fields
    rowFilters := ← optionalField [] "rowFilters" (list RowFilter.decoder) document fields
    exemptRoles := ← optionalField [] "exemptRoles" (list text) document fields }

def Allowlist.decoder : Decoder Allowlist := fun document node => do
  let fields ← record ["tables"] document node
  return { tables := ← optionalField [] "tables" (dictionary TableRules.decoder) document fields }

/-- A settings document; an absent field has its usual value. -/
def Settings.decoder : Decoder Settings := fun document node => do
  let fields ←
    record ["tenantColumn", "defaultDateField", "defaultTable", "defaultLimit"] document node
  let usual : Settings := {}
  return {
    tenantColumn := ← optionalField usual.tenantColumn "tenantColumn" text document fields
    defaultDateField :=
      ← optionalField usual.defaultDateField "defaultDateField" text document fields
    defaultTable :=
      ← optionalField usual.defaultTable "defaultTable" (optional text) document fields
    defaultLimit :=
      ← optionalField usual.defaultLimit "defaultLimit" (natBelow (Nat.pow 2 32)) document fields }

def readYaml {α : Type} (decoder : Decoder α) (yaml : String) : Except LoadError α :=
  match (Yaml.parse? yaml).bind decoder.decode? with
  | some value => .ok value
  | none => .error .malformedYaml

/-- The value itself, unless a fault was found in it. -/
def unlessFault {α : Type} (value : α) (fault : Option ConfigFault) : Except LoadError α :=
  match fault with
  | some fault => .error (.invalid fault)
  | none => .ok value

def Allowlist.validate (allowlist : Allowlist) : Except LoadError Allowlist :=
  unlessFault allowlist allowlist.fault?

def Settings.validate (settings : Settings) : Except LoadError Settings :=
  unlessFault settings settings.fault?

def Allowlist.load (yaml : String) : Except LoadError Allowlist := do
  (← readYaml Allowlist.decoder yaml).validate

def Settings.load (yaml : String) : Except LoadError Settings := do
  (← readYaml Settings.decoder yaml).validate

def Intent.load (json : String) : Except LoadError (Reading.Noted Intent) :=
  match Json.parse? json with
  | none => .error .malformedJson
  | some value =>
    match Intent.ofJson? value with
    | some noted => .ok noted
    | none => .error .notAnObject

/-- An intent is read from the members of an object. -/
theorem Intent.exists_of_load {json : String} {noted : Reading.Noted Intent}
    (h : Intent.load json = .ok noted) :
    ∃ members, Json.parse? json = some (.object members) ∧ Intent.read members = noted := by
  unfold Intent.load at h
  split at h
  · cases h
  · rename_i value hparse
    cases value with
    | object members =>
        cases h
        exact ⟨members, hparse, rfl⟩
    | _ => cases h

/-- The intent in the raw answer of a language model. -/
def Intent.loadResponse (response : String) : Except LoadError (Reading.Noted Intent) :=
  Intent.load (Extraction.extract response)

/-- The text of a file with the given bytes, when it is there. -/
def fileText (path : String) (bytes : Option ByteArray) : Except LoadError String :=
  match bytes.bind String.fromUTF8? with
  | some text => .ok text
  | none => .error (.unreadable path)

end TenantQuery
