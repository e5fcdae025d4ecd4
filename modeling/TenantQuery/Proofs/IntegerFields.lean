import TenantQuery.Loading.Documents
import TenantQuery.Proofs.Json.IntegerLiteral
import TenantQuery.Proofs.Json.Places
/-!
The integers of a request: its number of rows, and the month and the count of its time window.

An integer of 64 bits is read exactly.  One that is further out is not read, except that rounding
brings those within half a unit of it back to the ends of the range.
-/

namespace TenantQuery

namespace Reading

/-- What is read where an integer is written: the integer itself within 64 bits and nothing out of
that range, save that an end of the range stands for the integers that are rounded to it. -/
structure ReadsInteger (written : Int) (read : Option Int) : Prop where
  within : -9223372036854775808 ≤ written → written ≤ 9223372036854775807 → read = some written
  above : 9223372036854775808 ≤ written → written ≤ 9223372036854776832 →
    read = some 9223372036854775807
  below : -9223372036854776832 ≤ written → written ≤ -9223372036854775809 →
    read = some (-9223372036854775808)
  beyond : written < -9223372036854776832 ∨ 9223372036854776832 < written → read = none

theorem readsInteger_readInteger? (v : Int) : ReadsInteger v (readInteger? v) := by
  unfold readInteger?
  rw [integerBound_eq]
  constructor
  · intro hfirst hlast
    rw [if_pos (by omega)]
    congr 1
    omega
  · intro hfirst hlast
    rw [if_pos (by omega)]
    congr 1
    omega
  · intro hfirst hlast
    rw [if_pos (by omega)]
    congr 1
    omega
  · intro hfar
    rw [if_neg (by omega)]

end Reading

/-- What is read at a place where an integer is written. -/
theorem Json.Place.readsInteger {place : Json.Place} {literal : List Char} {v : Int}
    (htext : place.text? = some literal) (hliteral : Json.IsIntegerLiteral literal v) :
    Reading.ReadsInteger v (Reading.integer? place.value?) := by
  obtain ⟨number, rest, hvalue, hnumber⟩ := exists_number htext hliteral
  rw [hvalue, Reading.integer?, Reading.numberInteger?_of_isIntegerLiteral hliteral hnumber]
  exact Reading.readsInteger_readInteger? v

/-- The integers that a request has for itself. -/
inductive IntegerField where
  | limit
  | month
  | n

namespace IntegerField

def place? (json : String) : IntegerField → Option Json.Place
  | .limit => (Json.Place.ofText json).member? "limit"
  | .month => ((Json.Place.ofText json).member? "timeFilter").bind (·.member? "month")
  | .n => ((Json.Place.ofText json).member? "timeFilter").bind (·.member? "n")

def value? (intent : Intent) : IntegerField → Option Int
  | .limit => intent.limit
  | .month => intent.timeFilter.bind TimeFilter.month
  | .n => intent.timeFilter.bind TimeFilter.n

variable {json : String} {intent : Intent} {notes : List ReadingNote} {place : Json.Place}

/-- A time window whose members have places is read from these members. -/
theorem timeFilter_of_load (h : Intent.load json = .ok (intent, notes)) {key : String}
    (hplace : ((Json.Place.ofText json).member? "timeFilter").bind (·.member? key) = some place) :
    ∃ fields : Dictionary Json, intent.timeFilter = some (TimeFilter.read fields).1 ∧
      fields.get? key = place.value? := by
  obtain ⟨members, hparse, hread⟩ := Intent.exists_of_load h
  obtain rfl : (Intent.read members).1 = intent := congrArg Prod.fst hread
  obtain ⟨window, hwindow, hpart⟩ := Option.bind_eq_some_iff.mp hplace
  obtain ⟨_, _, heq, hget, hvalue⟩ :=
    Json.Place.exists_of_member? (Json.Place.value?_ofText hparse) hwindow
  cases heq
  obtain ⟨fields, found, rfl, hfield, hfound⟩ := Json.Place.exists_of_member? hvalue hpart
  refine ⟨fields, ?_, hfield.trans hfound.symm⟩
  change (TimeFilter.readMember (Dictionary.get? members "timeFilter")).1 = _
  rw [hget]
  rfl

/-- The integers of a request are those that are read at their places. -/
theorem value?_of_load (h : Intent.load json = .ok (intent, notes)) {field : IntegerField}
    (hplace : field.place? json = some place) :
    field.value? intent = Reading.integer? place.value? := by
  cases field with
  | limit =>
      obtain ⟨members, hparse, hread⟩ := Intent.exists_of_load h
      obtain rfl : (Intent.read members).1 = intent := congrArg Prod.fst hread
      obtain ⟨_, _, heq, hget, hvalue⟩ :=
        Json.Place.exists_of_member? (Json.Place.value?_ofText hparse) hplace
      cases heq
      rw [hvalue, ← hget]
      rfl
  | month =>
      obtain ⟨fields, hwindow, hget⟩ := timeFilter_of_load h hplace
      rw [value?, hwindow, ← hget]
      rfl
  | n =>
      obtain ⟨fields, hwindow, hget⟩ := timeFilter_of_load h hplace
      rw [value?, hwindow, ← hget]
      rfl

end IntegerField

/-- Wherever an integer is written in a text, and so also where it is the number of rows of a
request or the month or the count of its window, it is read exactly within 64 bits, as an end of
that range where it is rounded to this end, and otherwise not at all. -/
theorem integers_read_within_range {place : Json.Place} {literal : List Char} {v : Int}
    (htext : place.text? = some literal) (hliteral : Json.IsIntegerLiteral literal v) :
    Reading.ReadsInteger v (Reading.integer? place.value?) ∧
    ∀ {json : String} {intent : Intent} {notes : List ReadingNote} {field : IntegerField},
      Intent.load json = .ok (intent, notes) → field.place? json = some place →
        Reading.ReadsInteger v (field.value? intent) := by
  have hread := place.readsInteger htext hliteral
  refine ⟨hread, fun hload hplace => ?_⟩
  rw [IntegerField.value?_of_load hload hplace]
  exact hread

namespace Sample

/-- A request for integers at the ends of what is read. -/
def extremeJson : String :=
  "\x7b\"limit\":-9223372036854775808,\"timeFilter\":" ++
    "\x7b\"month\":9223372036854776832,\"n\": 9223372036854776833\x7d\x7d"

/-- A request for integers just out of the range of 64 bits. -/
def overrunJson : String :=
  "\x7b\"limit\":9223372036854775808,\"timeFilter\":\x7b\"n\":-9223372036854775809\x7d\x7d"

end Sample

theorem integers_read_within_range_extreme :
    ∃ intent notes, Intent.load Sample.extremeJson = .ok (intent, notes) ∧
      IntegerField.limit.value? intent = some (-9223372036854775808) ∧
      IntegerField.month.value? intent = some 9223372036854775807 ∧
      IntegerField.n.value? intent = none := by
  have hloads : (Intent.load Sample.extremeJson).toOption.isSome := by decide +kernel
  have hlimit : (IntegerField.limit.place? Sample.extremeJson).bind Json.Place.text? =
      some "-9223372036854775808".toList := by
    decide +kernel
  have hmonth : (IntegerField.month.place? Sample.extremeJson).bind Json.Place.text? =
      some "9223372036854776832".toList := by
    decide +kernel
  have hcount : (IntegerField.n.place? Sample.extremeJson).bind Json.Place.text? =
      some "9223372036854776833".toList := by
    decide +kernel
  have hleast : Json.IsIntegerLiteral "-9223372036854775808".toList (-9223372036854775808) :=
    .minus (by decide) (List.all_eq_true.mp rfl)
  have hlast : Json.IsIntegerLiteral "9223372036854776832".toList 9223372036854776832 :=
    .plain (by decide) (List.all_eq_true.mp rfl)
  have hfar : Json.IsIntegerLiteral "9223372036854776833".toList 9223372036854776833 :=
    .plain (by decide) (List.all_eq_true.mp rfl)
  obtain ⟨limit, hlimit, hlimitText⟩ := Option.bind_eq_some_iff.mp hlimit
  obtain ⟨month, hmonth, hmonthText⟩ := Option.bind_eq_some_iff.mp hmonth
  obtain ⟨count, hcount, hcountText⟩ := Option.bind_eq_some_iff.mp hcount
  cases hload : Intent.load Sample.extremeJson with
  | error error =>
      rw [hload] at hloads
      cases hloads
  | ok noted =>
      have hread := (integers_read_within_range hlimitText hleast).2 hload hlimit
      have hrounded := (integers_read_within_range hmonthText hlast).2 hload hmonth
      have hnone := (integers_read_within_range hcountText hfar).2 hload hcount
      exact ⟨noted.1, noted.2, rfl, hread.within (by decide) (by decide),
        hrounded.above (by decide) (by decide), hnone.beyond (by decide)⟩

/-- Integers that are not of 64 bits are read, as other integers. -/
theorem integers_read_out_of_range :
    (IntegerField.limit.place? Sample.overrunJson).bind Json.Place.text? =
      some "9223372036854775808".toList ∧
    Json.IsIntegerLiteral "9223372036854775808".toList 9223372036854775808 ∧
    (IntegerField.n.place? Sample.overrunJson).bind Json.Place.text? =
      some "-9223372036854775809".toList ∧
    Json.IsIntegerLiteral "-9223372036854775809".toList (-9223372036854775809) ∧
    ((Intent.load Sample.overrunJson).toOption.map fun noted =>
        (IntegerField.limit.value? noted.1, IntegerField.n.value? noted.1)) =
      some (some 9223372036854775807, some (-9223372036854775808)) := by
  refine ⟨by decide +kernel, .plain (by decide) (List.all_eq_true.mp rfl), by decide +kernel,
    .minus (by decide) (List.all_eq_true.mp rfl), by decide +kernel⟩

end TenantQuery
