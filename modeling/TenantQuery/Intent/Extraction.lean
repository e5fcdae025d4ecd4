import TenantQuery.Text.Blank
/-!
Finding the JSON object in the raw answer of a language model.

Models are asked for a bare object but often wrap it in prose or in a fenced block.  Tried in
order are the whole answer, the body of the first fenced block, and everything from the first
opening brace to the last closing one; where none of these is shaped like an object the empty
object stands in.  The search looks at the text only; what it finds is parsed afterwards.
-/

namespace TenantQuery.Extraction

/-- Begins with an opening brace and ends with a closing one. -/
def isObjectShaped (chars : List Char) : Bool :=
  chars.head? == some '{' && chars.getLast? == some '}'

/-- The characters behind the first fence of three back quotes. -/
def behindFence? : List Char → Option (List Char)
  | [] => none
  | c :: rest =>
    match List.isPrefixOf? ['\x60', '\x60', '\x60'] (c :: rest) with
    | some behind => some behind
    | none => behindFence? rest

/-- The characters before the first fence of three back quotes. -/
def beforeFence? : List Char → Option (List Char)
  | [] => none
  | c :: rest =>
    if List.isPrefixOf ['\x60', '\x60', '\x60'] (c :: rest) then some []
    else (beforeFence? rest).map (c :: ·)

/-- The letter in either case.  The long s is a case of the letter s. -/
def isLetter (letter c : Char) : Bool :=
  c.toLower == letter || (letter == 's' && c == '\u017F')

/-- The characters behind the tag `json` in any letter case, where it is there. -/
def skipTag (chars : List Char) : List Char :=
  match chars with
  | j :: s :: o :: n :: rest =>
    if isLetter 'j' j && isLetter 's' s && isLetter 'o' o && isLetter 'n' n then rest else chars
  | _ => chars

/-- The body of the first fenced block, without white space around it. -/
def fencedBody? (chars : List Char) : Option (List Char) := do
  let behind ← behindFence? chars
  let body ← beforeFence? (skipTag behind)
  return Text.trimChars body

/-- Everything from the first opening brace to the last closing one behind it. -/
def braced? (chars : List Char) : Option (List Char) :=
  let opened := chars.dropWhile (· != '{')
  let closed := (opened.reverse.dropWhile (· != '}')).reverse
  if closed.isEmpty then none else some closed

def fromTrimmed (chars : List Char) : List Char :=
  if isObjectShaped chars then chars
  else
    match (fencedBody? chars).filter isObjectShaped with
    | some body => body
    | none => (braced? chars).getD ['{', '}']

def extract (response : String) : String :=
  String.ofList (fromTrimmed (Text.trimChars response.toList))

end TenantQuery.Extraction
