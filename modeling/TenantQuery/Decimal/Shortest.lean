import TenantQuery.Decimal.Binary64
/-!
The shortest decimal text of a binary64 number.

Of all decimals that round to the number, one with the fewest digits is written, and of those
the one nearest to the number; of two that are equally near, the one with the even last digit.
The digits are searched for in exact arithmetic: the decimals with `n` digits form a grid, and a
grid has a point in the rounding interval exactly when one of the two neighbours of the number
on it lies there.
-/

namespace TenantQuery.Binary64

/-- The decimals that round to a number, as multiples of a quarter of its last place. -/
structure RoundingInterval where
  low : Nat
  value : Nat
  high : Nat
  /-- The ends belong to the interval: a half goes to the even number. -/
  closed : Bool
  /-- A quarter of the last place is `2 ^ exponent`. -/
  exponent : Int

/-- Below a power of two the next number is half as far away. -/
def roundingInterval (x : Binary64) : RoundingInterval :=
  let below := if x.mantissa = Nat.pow 2 52 && x.exponent != minExponent then 1 else 2
  { low := 4 * x.mantissa - below
    value := 4 * x.mantissa
    high := 4 * x.mantissa + 2
    closed := x.mantissa % 2 == 0
    exponent := x.exponent - 2 }

def digitCount (n : Nat) : Nat :=
  (Nat.toDigits 10 n).length

/-- The exponent of the leading decimal digit of a positive `num / den`. -/
def leadingExponent (num den : Nat) : Int :=
  if den ≤ num then digitCount (num / den) - 1
  else -(digitCount ((den + num - 1) / num - 1) : Int)

/-- A decimal: `digits * 10 ^ scale`. -/
structure Decimal where
  digits : Nat
  scale : Int
deriving DecidableEq

/-- The decimal with `count` digits that rounds to the number and is nearest to it, a half going
to the even one. -/
def onGrid? (interval : RoundingInterval) (leading : Int) (count : Nat) : Option Decimal :=
  let scale := leading - (count : Int) + 1
  -- Both sides are scaled to integers: a grid step is `step`, a quarter place is `quarter`.
  let tens := Nat.pow 10 scale.natAbs
  let twos := Nat.pow 2 interval.exponent.natAbs
  let step := (if 0 ≤ scale then tens else 1) * (if 0 ≤ interval.exponent then 1 else twos)
  let quarter := (if 0 ≤ scale then 1 else tens) * (if 0 ≤ interval.exponent then twos else 1)
  let value := interval.value * quarter
  let inside (digits : Nat) : Bool :=
    let point := digits * step
    let low := interval.low * quarter
    let high := interval.high * quarter
    if interval.closed then low ≤ point && point ≤ high else low < point && point < high
  let below := value / step
  let above := below + 1
  let chosen? :=
    if inside below && inside above then
      some (divNearest value step)
    else if inside below then some below
    else if inside above then some above
    else none
  chosen?.map fun digits => ⟨digits, scale⟩

/-- The shortest decimal that rounds to a nonzero number.  Seventeen digits always suffice. -/
def shortest (x : Binary64) : Decimal :=
  let interval := x.roundingInterval
  let (num, den) :=
    if 0 ≤ x.exponent then (x.mantissa * Nat.pow 2 x.exponent.toNat, 1)
    else (x.mantissa, Nat.pow 2 (-x.exponent).toNat)
  let leading := leadingExponent num den
  ((List.range 17).findSome? fun n => onGrid? interval leading (n + 1)).getD ⟨x.mantissa, 0⟩

/-- Which decimals are written without an exponent, by the exponent of their first digit. -/
structure Layout where
  positionalFrom : Int
  positionalBelow : Int

/-- Numbers are written positionally from `0.00001` up to sixteen digits before the point. -/
def layout : Layout := ⟨-5, 16⟩

def stripZeros (digits : List Char) : List Char :=
  (digits.reverse.dropWhile (· == '0')).reverse

/-- A decimal in the layout.  Positional text always has a point and a digit behind it; the
exponent is always signed when it is written. -/
def Decimal.text (layout : Layout) (decimal : Decimal) : String :=
  let all := Nat.toDigits 10 decimal.digits
  let leading : Int := all.length - 1 + decimal.scale
  let digits := stripZeros all
  if layout.positionalFrom ≤ leading && leading < layout.positionalBelow then
    if leading < 0 then
      "0." ++ String.ofList (List.replicate (-leading - 1).toNat '0' ++ digits)
    else
      let whole := leading.toNat + 1
      let padded := digits ++ List.replicate (whole - digits.length) '0'
      let fraction := digits.drop whole
      String.ofList (padded.take whole) ++ "." ++
        (if fraction.isEmpty then "0" else String.ofList fraction)
  else
    let mantissa := match digits with
      | [] => "0"
      | [d] => String.ofList [d]
      | d :: rest => String.ofList (d :: '.' :: rest)
    mantissa ++ "e" ++ (if 0 ≤ leading then "+" else "-") ++ toString leading.natAbs

def text (x : Binary64) : String :=
  (if x.negative then "-" else "") ++
    (if x.mantissa = 0 then "0.0" else x.shortest.text layout)

end TenantQuery.Binary64
