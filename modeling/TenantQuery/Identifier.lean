import TenantQuery.Text.Blank
import TenantQuery.Text.Case
/-!
Names that may stand in a statement.

Names are never quoted, so a name is admitted only when it reads as one unquoted identifier:
a letter or underscore, then letters, digits and underscores, at most 63 in all, and not a
reserved word.  The database folds unquoted names to lower case; `canonical` is that form, and
it is the only form that is authorized or emitted.
-/

namespace TenantQuery.Identifier

/-- Longer names are truncated by the database. -/
def maxLength : Nat := 63

/-- Reserved key words, those reserved except as function or type names included.  None of
them can stand unquoted as a column or an output name. -/
def reservedWords : List String :=
  ["all", "analyse", "analyze", "and", "any", "array", "as", "asc", "asymmetric",
   "authorization", "binary", "both", "case", "cast", "check", "collate", "collation",
   "column", "concurrently", "constraint", "create", "cross", "current_catalog",
   "current_date", "current_role", "current_schema", "current_time", "current_timestamp",
   "current_user", "default", "deferrable", "desc", "distinct", "do", "else", "end",
   "except", "false", "fetch", "for", "foreign", "freeze", "from", "full", "grant",
   "group", "having", "ilike", "in", "initially", "inner", "intersect", "into", "is",
   "isnull", "join", "lateral", "leading", "left", "like", "limit", "localtime",
   "localtimestamp", "natural", "not", "notnull", "null", "offset", "on", "only", "or",
   "order", "outer", "overlaps", "placing", "primary", "references", "returning", "right",
   "select", "session_user", "similar", "some", "symmetric", "system_user", "table",
   "tablesample", "then", "to", "trailing", "true", "union", "unique", "user", "using",
   "variadic", "verbose", "when", "where", "window", "with"]

/-- The form of a name, or of `schema.table`, that the database resolves. -/
def canonical (name : String) : String :=
  Text.fold name

/-- A reserved word in any letter case. -/
def isReserved (name : String) : Bool :=
  reservedWords.contains (canonical name)

def isNameStart (c : Char) : Bool :=
  c.isAlpha || c == '_'

def isNameChar (c : Char) : Bool :=
  c.isAlphanum || c == '_'

/-- The shape of an unquoted name, reserved words not yet excluded. -/
def isNameShaped : List Char → Bool
  | [] => false
  | c :: rest => isNameStart c && rest.all isNameChar && rest.length < maxLength

/-- A name that may stand unquoted in a statement. -/
def isIdentifier (name : String) : Bool :=
  isNameShaped name.toList && !isReserved name

/-- No ASCII capital letter. -/
def isFolded (name : String) : Bool :=
  !name.toList.any Char.isUpper

def isCanonical (name : String) : Bool :=
  isIdentifier name && isFolded name

/-- An identifier, or two of them around the first point: `schema.table`. -/
def isTableName (name : String) : Bool :=
  match Text.cutAt? '.' name.toList with
  | some (schema, table) =>
    isIdentifier (String.ofList schema) && isIdentifier (String.ofList table)
  | none => isIdentifier name

def isCanonicalTable (name : String) : Bool :=
  isTableName name && isFolded name

end TenantQuery.Identifier
