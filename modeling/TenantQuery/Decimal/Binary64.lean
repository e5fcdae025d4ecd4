/-!
Finite binary64 numbers as exact integers scaled by a power of two.

The result of an operation is its exact value, rounded to the nearest representable number and to
the even one of two that are equally near.  Nothing here uses machine floating point, so every
value can be computed with in a proof.
-/

namespace TenantQuery

/-- The number `± mantissa * 2 ^ exponent`.  A number that `ofRatio?` makes has a mantissa
below `2 ^ 53` and an exponent from -1074 to 971, and its mantissa is at least `2 ^ 52` unless
its exponent is -1074. -/
structure Binary64 where
  negative : Bool
  mantissa : Nat
  exponent : Int
deriving DecidableEq

namespace Binary64

/-- The least exponent; numbers below it in size are rounded to a multiple of its power. -/
def minExponent : Int := -1074

/-- The largest exponent of a finite number. -/
def maxExponent : Int := 971

/-- The quotient rounded to the nearest integer, a half going to the even one. -/
def divNearest (num den : Nat) : Nat :=
  let quotient := num / den
  let twice := 2 * (num % den)
  if twice < den || (twice == den && quotient % 2 == 0) then quotient else quotient + 1

/-- `num / den` in units of `2 ^ exponent`, again as a fraction. -/
def inUnits (num den : Nat) (exponent : Int) : Nat × Nat :=
  -- `Nat.pow` by name: what `^` stands for depends on the modules that are imported
  if 0 ≤ exponent then (num, den * Nat.pow 2 exponent.toNat)
  else (num * Nat.pow 2 (-exponent).toNat, den)

/-- The exponent at which a positive `num / den` has 53 binary digits, or the least exponent
where that is larger. -/
def unitExponent (num den : Nat) : Int :=
  let estimate : Int := (Nat.log2 num : Int) - Nat.log2 den
  let (top, bottom) := inUnits num den estimate
  let leading := if bottom ≤ top then estimate else estimate - 1
  max (leading - 52) minExponent

/-- The magnitude nearest to a positive `num / den`; nothing when that is too large. -/
def nearest? (num den : Nat) : Option (Nat × Int) :=
  let exponent := unitExponent num den
  let (top, bottom) := inUnits num den exponent
  let rounded := divNearest top bottom
  let (mantissa, exponent) :=
    if rounded = Nat.pow 2 53 then (Nat.pow 2 52, exponent + 1) else (rounded, exponent)
  if maxExponent < exponent then none else some (mantissa, exponent)

/-- The number nearest to `± num / den`; nothing when that is too large. -/
def ofRatio? (negative : Bool) (num den : Nat) : Option Binary64 :=
  if num = 0 then some ⟨negative, 0, minExponent⟩
  else (nearest? num den).map fun (mantissa, exponent) => ⟨negative, mantissa, exponent⟩

def ofNat? (negative : Bool) (n : Nat) : Option Binary64 :=
  ofRatio? negative n 1

/-- The product of two numbers, rounded. -/
def times? (x y : Binary64) : Option Binary64 :=
  let (num, den) := inUnits (x.mantissa * y.mantissa) 1 (-(x.exponent + y.exponent))
  ofRatio? (x.negative != y.negative) num den

/-- The quotient by a number other than zero, rounded. -/
def over? (x y : Binary64) : Option Binary64 :=
  let (num, den) := inUnits x.mantissa y.mantissa (y.exponent - x.exponent)
  ofRatio? (x.negative != y.negative) num den

/-- The exponent of the largest power of ten that is kept as a number. -/
def lastPowerOfTen : Nat := 308

def powerOfTen? (exponent : Nat) : Option Binary64 :=
  ofNat? false (Nat.pow 10 exponent)

/-- The number times a power of ten, by one operation with a power that is kept.  A number that
such a power cannot make large enough is divided by the last of them before. -/
def scale? (x : Binary64) (exponent : Int) : Option Binary64 :=
  if exponent.natAbs ≤ lastPowerOfTen then do
    let power ← powerOfTen? exponent.natAbs
    if 0 ≤ exponent then x.times? power else x.over? power
  else if x.mantissa = 0 then some x
  else if 0 ≤ exponent then none
  else do
    let smaller ← x.over? (← powerOfTen? lastPowerOfTen)
    smaller.scale? (exponent + lastPowerOfTen)
termination_by exponent.natAbs
decreasing_by
  have hlast : lastPowerOfTen = 308 := rfl
  omega

/-- The number for `± significand * 10 ^ exponent`.  The significand is rounded before it is
scaled, so this need not be the nearest number. -/
def ofDecimal? (negative : Bool) (significand : Nat) (exponent : Int) : Option Binary64 := do
  let unscaled ← ofNat? negative significand
  unscaled.scale? exponent

def natAbs? (x : Binary64) : Option Nat :=
  if 0 ≤ x.exponent then some (x.mantissa * Nat.pow 2 x.exponent.toNat)
  else
    let unit := Nat.pow 2 (-x.exponent).toNat
    if x.mantissa % unit = 0 then some (x.mantissa / unit) else none

def toInt? (x : Binary64) : Option Int :=
  x.natAbs?.map fun n => if x.negative then -(n : Int) else n

end Binary64

end TenantQuery
