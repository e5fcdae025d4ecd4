import TenantQuery.Calendar.Date
import TenantQuery.Text.Blank
import TenantQuery.Text.Digits
/-!
Reading dates from request text.

Two forms are read.  A plain date is a year, a month and a day between hyphens, where white
space may stand before each number; the year may have a sign and then any number of digits, and
has up to four without one.  A timestamp is one of RFC 3339, of which the local date counts.
-/

namespace TenantQuery.Calendar

/-- One to `most` digits at the front, as many as there are. -/
def upTo? (most : Nat) (chars : List Char) : Option (Nat × List Char) :=
  let digits := (chars.take most).takeWhile Char.isDigit
  if digits.isEmpty then none else some (Text.decimalValue digits, chars.drop digits.length)

/-- Exactly `count` digits at the front. -/
def exactly? (count : Nat) (chars : List Char) : Option (Nat × List Char) :=
  let digits := chars.take count
  if digits.length = count && digits.all Char.isDigit then
    some (Text.decimalValue digits, chars.drop count)
  else none

/-- The characters behind one that must stand at the front. -/
def after? (expected : Char) : List Char → Option (List Char)
  | [] => none
  | c :: rest => if c = expected then some rest else none

/-- A year with an optional sign. -/
def year? (chars : List Char) : Option (Int × List Char) :=
  match chars with
  | '-' :: rest => (upTo? rest.length rest).map fun (n, left) => (-(n : Int), left)
  | '+' :: rest => (upTo? rest.length rest).map fun (n, left) => ((n : Int), left)
  | chars => (upTo? 4 chars).map fun (n, left) => ((n : Int), left)

/-- A plain date and nothing else.  In a spaced date white space may also stand before each
hyphen and at the end. -/
def plainDate? (spaced : Bool) (chars : List Char) : Option Date := do
  let gap := fun chars => if spaced then Text.dropBlank chars else chars
  let (year, rest) ← year? (Text.dropBlank chars)
  let rest ← after? '-' (gap rest)
  let (month, rest) ← upTo? 2 (Text.dropBlank rest)
  let rest ← after? '-' (gap rest)
  let (day, rest) ← upTo? 2 (Text.dropBlank rest)
  if (gap rest).isEmpty then Date.of? year month day else none

/-- The characters behind the fraction of a second, when there is one. -/
def skipFraction? : List Char → Option (List Char)
  | '.' :: c :: rest => if c.isDigit then some (rest.dropWhile Char.isDigit) else none
  | ['.'] => none
  | chars => some chars

/-- An offset from universal time and nothing else: `Z`, or hours and minutes behind a plus, a
hyphen or a minus sign. -/
def isOffset : List Char → Bool
  | ['Z'] | ['z'] => true
  | sign :: a :: b :: ':' :: [c, d] =>
    (sign == '+' || sign == '-' || sign == '\u2212') &&
      [a, b, c, d].all Char.isDigit &&
      Text.decimalValue [a, b] < 24 && Text.decimalValue [c, d] < 60
  | _ => false

/-- The local date of an RFC 3339 timestamp.  A leap second may stand in any minute. -/
def timestampDate? (chars : List Char) : Option Date := do
  let (year, rest) ← exactly? 4 chars
  let (month, rest) ← exactly? 2 (← after? '-' rest)
  let (day, rest) ← exactly? 2 (← after? '-' rest)
  let rest ← match rest with
    | separator :: rest =>
      if separator = 'T' || separator = 't' || separator = ' ' then some rest else none
    | [] => none
  let (hour, rest) ← exactly? 2 rest
  let (minute, rest) ← exactly? 2 (← after? ':' rest)
  let (second, rest) ← exactly? 2 (← after? ':' rest)
  let rest ← skipFraction? rest
  if hour ≤ 23 && minute ≤ 59 && second ≤ 60 && isOffset rest then Date.of? year month day
  else none

/-- The date that a text writes, white space around it aside. -/
def parseDate? (text : String) : Option Date :=
  let chars := Text.trimChars text.toList
  (plainDate? false chars).or (timestampDate? chars)

/-- A bound of a range once it is certain to be a date. -/
structure SanitizedDate where
  date : Date
  /-- The text was no date and the current date stands in. -/
  substituted : Bool
deriving DecidableEq

/-- The date that a text writes, or else the current date. -/
def sanitize (text : String) (today : Date) : SanitizedDate :=
  match parseDate? text with
  | some date => ⟨date, false⟩
  | none => ⟨today, true⟩

end TenantQuery.Calendar
