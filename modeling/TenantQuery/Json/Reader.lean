import TenantQuery.Json.Value
import TenantQuery.Text.Digits
/-!
Reading JSON text, strictly.

White space is the space, the tab and the two line-break characters; nothing may follow the
value; strings hold no raw control character and no half of a surrogate pair; arrays and objects
nest less than 128 deep; and a number must not exceed the binary64 range.  Of several members
under one key the last counts.

Only an integer within 64 bits is read exactly.  Of any other number the first digits are taken
that fit 64 bits; they are rounded, and then scaled by a power of ten.

Every reader takes the characters ahead and gives what it read with the characters left.
-/

namespace TenantQuery.Json

def isSpace (c : Char) : Bool :=
  c == ' ' || c == '\t' || c == '\n' || c == '\r'

def skipSpace (chars : List Char) : List Char :=
  chars.dropWhile isSpace

/-- A code unit that opens a surrogate pair. -/
def isHighSurrogate (unit : Nat) : Bool :=
  0xD800 ≤ unit && unit ≤ 0xDBFF

/-- A code unit that closes a surrogate pair. -/
def isLowSurrogate (unit : Nat) : Bool :=
  0xDC00 ≤ unit && unit ≤ 0xDFFF

def pairedChar (high low : Nat) : Char :=
  Char.ofNat (0x10000 + (high - 0xD800) * 0x400 + (low - 0xDC00))

/-- The character that a backslash and this letter stand for. -/
def shortEscape? (c : Char) : Option Char :=
  match c with
  | '"' => some '"'
  | '\\' => some '\\'
  | '/' => some '/'
  | 'b' => some '\x08'
  | 'f' => some '\x0c'
  | 'n' => some '\n'
  | 'r' => some '\r'
  | 't' => some '\t'
  | _ => none

/-- A part of a string: a character, or a code unit written by its number. -/
inductive StringPart where
  | char (c : Char)
  | codeUnit (unit : Nat)

/-- The parts of a string whose opening quote has been read. -/
def stringParts? : List Char → Option (List StringPart × List Char)
  | [] => none
  | '"' :: rest => some ([], rest)
  | '\\' :: 'u' :: a :: b :: c :: d :: rest =>
    match Text.numeral? 16 [a, b, c, d] with
    | some unit => (stringParts? rest).map fun (parts, left) => (.codeUnit unit :: parts, left)
    | none => none
  | '\\' :: c :: rest =>
    match shortEscape? c with
    | some char => (stringParts? rest).map fun (parts, left) => (.char char :: parts, left)
    | none => none
  | c :: rest =>
    if c = '\\' || c.toNat < 0x20 then none
    else (stringParts? rest).map fun (parts, left) => (.char c :: parts, left)

/-- The characters that the parts stand for.  Two code units that form a surrogate pair are one
character, and a half of such a pair may not stand alone. -/
def joinParts? : List StringPart → Option (List Char)
  | [] => some []
  | .char c :: rest => (joinParts? rest).map (c :: ·)
  | .codeUnit first :: .codeUnit second :: rest =>
    if isHighSurrogate first then
      if isLowSurrogate second then (joinParts? rest).map (pairedChar first second :: ·) else none
    else if isLowSurrogate first then none
    else (joinParts? (.codeUnit second :: rest)).map (Char.ofNat first :: ·)
  | .codeUnit unit :: rest =>
    if isHighSurrogate unit || isLowSurrogate unit then none
    else (joinParts? rest).map (Char.ofNat unit :: ·)

/-- The text of a string whose opening quote has been read. -/
def stringText? (chars : List Char) : Option (String × List Char) :=
  match stringParts? chars with
  | some (parts, left) => (joinParts? parts).map fun chars => (String.ofList chars, left)
  | none => none

/-- The digits at the front and the characters behind them. -/
def splitDigits (chars : List Char) : List Char × List Char :=
  (chars.takeWhile Char.isDigit, chars.dropWhile Char.isDigit)

/-- A significand with digits appended while it fits 64 bits, and the digits left over from the
first on that does not. -/
def appendDigits (significand : Nat) : List Char → Nat × List Char
  | [] => (significand, [])
  | c :: rest =>
    let longer := 10 * significand + (c.toNat - '0'.toNat)
    if longer < Nat.pow 2 64 then appendDigits longer rest else (significand, c :: rest)

/-- An integer whose magnitude fits 64 bits.  A negative zero is not an integer. -/
def word? (negative : Bool) (magnitude : Nat) : Option Number :=
  if negative then
    if 0 < magnitude && magnitude ≤ Nat.pow 2 63 then some (.integer (-(magnitude : Int)))
    else (Binary64.ofNat? true magnitude).map .real
  else some (.integer magnitude)

/-- The value of an integer literal.  Digits left over only scale it. -/
def integerLiteral? (negative : Bool) (digits : List Char) : Option Number :=
  match appendDigits 0 digits with
  | (magnitude, []) => word? negative magnitude
  | (significand, beyond) => (Binary64.ofDecimal? negative significand beyond.length).map .real

/-- The value of a literal with a fraction or an exponent.  Digits of the fraction follow those
of the whole part that were kept, and when they are left over they are ignored. -/
def decimalLiteral? (negative : Bool) (whole fraction : List Char) (exponent : Int) :
    Option Number :=
  let (start, beyond) := appendDigits 0 whole
  let (significand, ignored) := appendDigits start fraction
  let behindPoint := fraction.length - ignored.length
  (Binary64.ofDecimal? negative significand (exponent + beyond.length - behindPoint)).map .real

/-- The digits behind a point, when there is one; a point must have digits behind it. -/
def fraction? : List Char → Option (List Char × List Char)
  | '.' :: rest =>
    match splitDigits rest with
    | ([], _) => none
    | found => some found
  | chars => some ([], chars)

/-- The digits of an exponent, which must not be absent. -/
def exponentDigits? (negative : Bool) (chars : List Char) : Option (Option Int × List Char) :=
  match splitDigits chars with
  | ([], _) => none
  | (digits, rest) =>
    let value : Int := Text.decimalValue digits
    some (some (if negative then -value else value), rest)

def exponent? : List Char → Option (Option Int × List Char)
  | c :: rest =>
    if c = 'e' || c = 'E' then
      match rest with
      | '+' :: digits => exponentDigits? false digits
      | '-' :: digits => exponentDigits? true digits
      | digits => exponentDigits? false digits
    else some (none, c :: rest)
  | [] => some (none, [])

/-- A number without its sign.  A zero is not followed by further digits. -/
def unsignedNumber? (negative : Bool) (chars : List Char) : Option (Number × List Char) :=
  match splitDigits chars with
  | ([], _) => none
  | ('0' :: _ :: _, _) => none
  | (whole, rest) => do
    let (fraction, rest) ← fraction? rest
    let (exponent, rest) ← exponent? rest
    let number ←
      if fraction.isEmpty && exponent.isNone then integerLiteral? negative whole
      else decimalLiteral? negative whole fraction (exponent.getD 0)
    return (number, rest)

def number? : List Char → Option (Number × List Char)
  | '-' :: rest => unsignedNumber? true rest
  | chars => unsignedNumber? false chars

/-- The characters behind a word that must stand at the front. -/
def expect? (word : String) (chars : List Char) : Option (List Char) :=
  word.toList.isPrefixOf? chars

mutual

/-- A value at the front of the characters.  `depth` is how many more levels may open. -/
def value? : Nat → Nat → List Char → Option (Json × List Char)
  | 0, _, _ => none
  | fuel + 1, depth, chars =>
    match skipSpace chars with
    | '"' :: rest =>
      (stringText? rest).map fun (text, left) => (.string text, left)
    | '[' :: rest =>
      match depth with
      | 0 => none
      | depth + 1 =>
        match skipSpace rest with
        | ']' :: left => some (.array [], left)
        | rest => (items? fuel depth rest).map fun (items, left) => (.array items, left)
    | '{' :: rest =>
      match depth with
      | 0 => none
      | depth + 1 =>
        match skipSpace rest with
        | '}' :: left => some (.object [], left)
        | rest =>
          (members? fuel depth rest).map fun (members, left) =>
            (.object (Dictionary.ofList members), left)
    | 't' :: rest => (expect? "rue" rest).map fun left => (.bool true, left)
    | 'f' :: rest => (expect? "alse" rest).map fun left => (.bool false, left)
    | 'n' :: rest => (expect? "ull" rest).map fun left => (.null, left)
    | rest => (number? rest).map fun (found, left) => (.number found, left)

/-- The items of an array up to and with its closing bracket; there is at least one. -/
def items? : Nat → Nat → List Char → Option (List Json × List Char)
  | 0, _, _ => none
  | fuel + 1, depth, chars =>
    match value? fuel depth chars with
    | none => none
    | some (item, rest) =>
      match skipSpace rest with
      | ']' :: left => some ([item], left)
      | ',' :: rest =>
        (items? fuel depth rest).map fun (items, left) => (item :: items, left)
      | _ => none

/-- The members of an object up to and with its closing bracket, in the order written; there is
at least one. -/
def members? : Nat → Nat → List Char → Option (List (String × Json) × List Char)
  | 0, _, _ => none
  | fuel + 1, depth, chars =>
    match skipSpace chars with
    | '"' :: rest =>
      match stringText? rest with
      | none => none
      | some (key, rest) =>
        match skipSpace rest with
        | ':' :: rest =>
          match value? fuel depth rest with
          | none => none
          | some (value, rest) =>
            let member := (key, value)
            match skipSpace rest with
            | '}' :: left => some ([member], left)
            | ',' :: rest =>
              (members? fuel depth rest).map fun (members, left) => (member :: members, left)
            | _ => none
        | _ => none
    | _ => none

end

/-- How deep arrays and objects may nest. -/
def maxDepth : Nat := 127

/-- The value that a text writes.  Each step reads a character or is followed by one that does,
so twice the length of the text is fuel enough. -/
def parse? (text : String) : Option Json :=
  let chars := text.toList
  match value? (2 * chars.length + 2) maxDepth chars with
  | some (value, rest) => if (skipSpace rest).isEmpty then some value else none
  | none => none

end TenantQuery.Json
