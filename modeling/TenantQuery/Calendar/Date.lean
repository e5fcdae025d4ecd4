/-!
Days of the proleptic Gregorian calendar and their ISO text.
-/

namespace TenantQuery

namespace Calendar

/-- Every fourth year is a leap year, but of the full centuries only every fourth. -/
def isLeapYear (year : Int) : Bool :=
  year % 4 == 0 && (year % 100 != 0 || year % 400 == 0)

/-- How many days a month has; no other number is a month. -/
def daysInMonth (year : Int) (month : Nat) : Nat :=
  match month with
  | 1 | 3 | 5 | 7 | 8 | 10 | 12 => 31
  | 4 | 6 | 9 | 11 => 30
  | 2 => if isLeapYear year then 29 else 28
  | _ => 0

def firstYear : Int := -262143

def lastYear : Int := 262142

def IsDay (year : Int) (month day : Nat) : Prop :=
  firstYear ≤ year ∧ year ≤ lastYear ∧ 1 ≤ day ∧ day ≤ daysInMonth year month

instance (year : Int) (month day : Nat) : Decidable (IsDay year month day) := by
  unfold IsDay
  infer_instance

end Calendar

structure Date where
  year : Int
  month : Nat
  day : Nat
  isDay : Calendar.IsDay year month day
deriving DecidableEq

namespace Date

def of? (year : Int) (month day : Nat) : Option Date :=
  if h : Calendar.IsDay year month day then some ⟨year, month, day, h⟩ else none

/-- Decimal digits, padded with zeros in front to a width. -/
def padded (width n : Nat) : List Char :=
  let digits := Nat.toDigits 10 n
  List.replicate (width - digits.length) '0' ++ digits

/-- A year has four digits; outside the years 0 to 9999 it has a sign and at least four. -/
def yearText (year : Int) : List Char :=
  let digits := padded 4 year.natAbs
  if year < 0 then '-' :: digits
  else if year ≤ 9999 then digits
  else '+' :: digits

def isoChars (date : Date) : List Char :=
  yearText date.year ++ '-' :: padded 2 date.month ++ '-' :: padded 2 date.day

/-- Year, month and day with hyphens between them. -/
def iso (date : Date) : String :=
  String.ofList date.isoChars

/-- The three numbers of a date name that date. -/
theorem of?_self (date : Date) : of? date.year date.month date.day = some date := by
  simp [of?, date.isDay]

/-- Only the named day is found. -/
theorem of?_eq_some_iff {year : Int} {month day : Nat} {date : Date} :
    of? year month day = some date ↔
      date.year = year ∧ date.month = month ∧ date.day = day := by
  constructor
  · intro h
    unfold of? at h
    split at h
    · cases h
      exact ⟨rfl, rfl, rfl⟩
    · contradiction
  · rintro ⟨rfl, rfl, rfl⟩
    exact of?_self date

/-- A month is one of twelve. -/
theorem month_mem (date : Date) : 1 ≤ date.month ∧ date.month ≤ 12 := by
  obtain ⟨_, _, hfirst, hlast⟩ := date.isDay
  have hpos : 0 < Calendar.daysInMonth date.year date.month := by omega
  unfold Calendar.daysInMonth at hpos
  split at hpos <;> omega

end Date

end TenantQuery
