/-!
Numbers written in digits.

Letters stand for the digits from ten on, in either case.  A numeral is read from the left, so
leading zeros change nothing.
-/

namespace TenantQuery.Text

/-- The digits of all bases up to 16, in lower case. -/
def digitChars : List Char :=
  "0123456789abcdef".toList

def digit? (base : Nat) (c : Char) : Option Nat :=
  (digitChars.findIdx? (· == c.toLower)).filter (· < base)

/-- The number that digits of a base write; nothing when another character is among them. -/
def numeral? (base : Nat) (digits : List Char) : Option Nat :=
  digits.foldl (fun n c => do return base * (← n) + (← digit? base c)) (some 0)

/-- The number that characters write of which each is known to be a decimal digit. -/
def decimalValue (digits : List Char) : Nat :=
  digits.foldl (fun n c => 10 * n + (c.toNat - '0'.toNat)) 0

end TenantQuery.Text
