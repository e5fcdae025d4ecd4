import TenantQuery.Calendar.Date
import TenantQuery.Json.Value
/-!
Values as literals of a statement.

This is the only way in which text of a request becomes part of a statement other than as a
checked name.  Texts stand between single quotes with each quote inside them doubled, numbers
are written anew from their value, and dates are written from a day of the calendar.
-/

namespace TenantQuery.Sql

/-- The characters with each single quote doubled. -/
def doubleQuotes : List Char → List Char
  | [] => []
  | c :: rest => if c = '\'' then '\'' :: '\'' :: doubleQuotes rest else c :: doubleQuotes rest

/-- The text with each single quote doubled. -/
def escape (text : String) : String :=
  String.ofList (doubleQuotes text.toList)

def quote (text : String) : String :=
  "'" ++ escape text ++ "'"

/-- A value that a statement can hold. -/
inductive Literal where
  | text (value : String)
  | number (value : Number)
  | truth (value : Bool)
deriving DecidableEq

namespace Literal

/-- The literal of a JSON value; null, arrays and objects have none. -/
def ofJson? : Json → Option Literal
  | .string value => some (.text value)
  | .number value => some (.number value)
  | .bool value => some (.truth value)
  | .null | .array _ | .object _ => none

def render : Literal → String
  | .text value => quote value
  | .number value => value.text
  | .truth true => "TRUE"
  | .truth false => "FALSE"

end Literal

/-- Where the wildcards of a pattern stand. -/
inductive LikeShape where
  | contains | startsWith | endsWith
deriving DecidableEq

/-- The characters with a backslash before each that a pattern gives a meaning. -/
def escapeWildcards : List Char → List Char
  | [] => []
  | c :: rest =>
    if c = '\\' || c = '%' || c = '_' then '\\' :: c :: escapeWildcards rest
    else c :: escapeWildcards rest

/-- The pattern that a text of a shape matches; the given characters stand for themselves. -/
def LikeShape.pattern (shape : LikeShape) (text : String) : String :=
  let literal := String.ofList (escapeWildcards text.toList)
  match shape with
  | .contains => "%" ++ literal ++ "%"
  | .startsWith => literal ++ "%"
  | .endsWith => "%" ++ literal

/-- The text that a pattern is made of: a string, or the text of a number. -/
def patternText? : Json → Option String
  | .string value => some value
  | .number value => some value.text
  | _ => none

def likePattern? (value : Json) (shape : LikeShape) : Option String :=
  (patternText? value).map fun text => quote (shape.pattern text)

def dateLiteral (date : Date) : String :=
  quote date.iso ++ "::date"

end TenantQuery.Sql
