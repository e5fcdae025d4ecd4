import TenantQuery.Text.Visible
/-!
Texts as they are shown in diagnostics: between double quotes and unambiguous on one line.
-/

namespace TenantQuery.Text

/-- The hexadecimal code of a character, in lower case. -/
def codeChars (c : Char) : List Char :=
  Nat.toDigits 16 c.toNat

/-- A character of an inspected text.  Some are written as a letter behind a backslash, and
those that do not show as themselves by their code. -/
def inspectChar (c : Char) : List Char :=
  if c = '"' || c = '\\' then ['\\', c]
  else if c = '\n' then ['\\', 'n']
  else if c = '\r' then ['\\', 'r']
  else if c = '\t' then ['\\', 't']
  else if c = '\x00' then ['\\', '0']
  else if isVisible c then [c]
  else '\\' :: 'u' :: '{' :: codeChars c ++ ['}']

/-- The text as it is shown. -/
def inspect (text : String) : String :=
  "\"" ++ String.ofList (text.toList.flatMap inspectChar) ++ "\""

end TenantQuery.Text
