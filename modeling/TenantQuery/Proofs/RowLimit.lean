import TenantQuery.Loading.Documents
import TenantQuery.Proofs.Compilation.Outcome
import TenantQuery.Proofs.Json.Members
/-!
The number of rows that is asked for in a JSON text, and the one in the statement.

A positive integer is granted up to the ceiling.  An integer that is far out of the range of
64 bits is no request for rows, and the default stands in for it as for one that is not positive.
-/

namespace TenantQuery

open Sql Compilation

/-- The number of rows for an integer in the text of a request.  The largest integer that counts
is half a unit of the rounding behind `2 ^ 63`. -/
def Settings.rowsFor (settings : Settings) (v : Int) : Nat :=
  if 1 ≤ v ∧ v ≤ 9223372036854776832 then min v.toNat 1000 else min settings.defaultLimit 1000

namespace Settings

variable {settings : Settings} {v : Int}

theorem effectiveLimit_readInteger? (settings : Settings) (v : Int) :
    settings.effectiveLimit (Reading.readInteger? v) = settings.rowsFor v := by
  rw [Reading.readInteger?, Reading.integerBound_eq]
  split
  · simp only [effectiveLimit, rowsFor, rowLimitCeiling]
    split <;> split <;> omega
  · simp only [effectiveLimit, rowsFor, rowLimitCeiling]
    rw [if_neg (by omega)]

theorem defaultLimit_pos (h : settings.fault? = none) : 0 < settings.defaultLimit := by
  unfold fault? at h
  split at h
  · cases h
  · split at h
    · cases h
    · split at h
      · cases h
      · rw [ite_eq_right_iff] at h
        exact Nat.pos_of_ne_zero fun hzero => nomatch h hzero

/-- Every statement asks for at least one row and for no more than the ceiling. -/
theorem rowsFor_bounds (h : settings.fault? = none) (v : Int) :
    1 ≤ settings.rowsFor v ∧ settings.rowsFor v ≤ 1000 := by
  have hdefault := defaultLimit_pos h
  unfold rowsFor
  split <;> omega

theorem rowsFor_mono {more : Int} (hfirst : 1 ≤ v) (hmore : v ≤ more)
    (hlast : more ≤ 9223372036854776832) : settings.rowsFor v ≤ settings.rowsFor more := by
  rw [rowsFor, rowsFor, if_pos (by omega), if_pos (by omega)]
  omega

end Settings

/-- The limit of an intent is read from the member of that name. -/
theorem Intent.limit_of_load {json : String} {intent : Intent} {notes : List ReadingNote}
    (h : Intent.load json = .ok (intent, notes)) :
    ∃ members : Dictionary Json, Json.parse? json = some (.object members) ∧
      intent.limit = Reading.integer? (members.get? "limit") := by
  obtain ⟨members, hparse, hread⟩ := Intent.exists_of_load h
  cases hread
  exact ⟨members, hparse, rfl⟩

/-- The statement for a request whose row count is an integer ends in the row count for this
integer, which is at least one and at most the ceiling, and which grows with the integer where that
is a request for rows. -/
theorem requested_rows_granted {settings : Settings} (hsettings : settings.fault? = none)
    {access : Access} {json : String} {intent : Intent} {notes : List ReadingNote}
    {literal : List Char} {v : Int} {today : Date}
    (hload : Intent.load json = .ok (intent, notes))
    (hlimit : Json.memberText? "limit" json = some literal)
    (hliteral : Json.IsIntegerLiteral literal v)
    (hsuccess : (compileOn settings access intent today).success) :
    (∃ front, (compileOn settings access intent today).sql =
      some (front ++ " LIMIT " ++ toString (settings.rowsFor v))) ∧
    1 ≤ settings.rowsFor v ∧ settings.rowsFor v ≤ 1000 ∧
    ∀ more : Int, 1 ≤ v → v ≤ more → more ≤ 9223372036854776832 →
      settings.rowsFor v ≤ settings.rowsFor more := by
  obtain ⟨table, hadmitted⟩ := success_iff.mp hsuccess
  obtain ⟨members, hparse, hread⟩ := Intent.limit_of_load hload
  obtain ⟨value, hvalue, htext⟩ := Json.exists_of_memberText? hparse hlimit
  obtain ⟨number, rest, rfl, hnumber⟩ := htext.integer hliteral
  have hrows : settings.effectiveLimit intent.limit = settings.rowsFor v := by
    rw [hread, hvalue, Reading.integer?,
      Reading.numberInteger?_of_isIntegerLiteral hliteral hnumber,
      Settings.effectiveLimit_readInteger?]
  obtain ⟨front, hrender⟩ :=
    Statement.exists_front (statementOver settings access table intent today)
  obtain ⟨hleast, hmost⟩ := Settings.rowsFor_bounds hsettings v
  refine ⟨⟨front, ?_⟩, hleast, hmost, fun more => Settings.rowsFor_mono⟩
  rw [sql_of_admitted hadmitted today, hrender, ← hrows]
  rfl

namespace Sample

/-- A request with two row counts, of which the second counts. -/
def crowdedJson : String :=
  "\x7b\"limit\":7,\"table\":\"orders\",\"metrics\":[[\"amount\"]],\"limit\" : 2500 \x7d"

/-- A request for more rows than 64 bits can count. -/
def vastJson : String :=
  "\x7b\"table\":\"orders\",\"metrics\":[\x7b\"field\":\"amount\"\x7d]," ++
    "\"limit\":10000000000000000000\x7d"

end Sample

theorem requested_rows_granted_crowded :
    ∃ intent notes, Intent.load Sample.crowdedJson = .ok (intent, notes) ∧
      ∃ front, (compileOn {} ⟨Sample.port, Sample.caller⟩ intent Sample.day).sql =
        some (front ++ " LIMIT " ++ "1000") := by
  have hsuccess : (Intent.load Sample.crowdedJson).toOption.any (fun noted =>
      (compileOn {} ⟨Sample.port, Sample.caller⟩ noted.1 Sample.day).success) := by
    decide +kernel
  have hlimit : Json.memberText? "limit" Sample.crowdedJson = some ['2', '5', '0', '0'] := by
    decide +kernel
  have hliteral : Json.IsIntegerLiteral ['2', '5', '0', '0'] 2500 :=
    .plain (by decide) (List.all_eq_true.mp rfl)
  cases hload : Intent.load Sample.crowdedJson with
  | error error =>
      rw [hload] at hsuccess
      cases hsuccess
  | ok noted =>
      rw [hload] at hsuccess
      obtain ⟨hgranted, -⟩ :=
        requested_rows_granted (by decide) hload hlimit hliteral hsuccess
      exact ⟨noted.1, noted.2, rfl, hgranted⟩

/-- A request for more rows than 64 bits can count gets the default and not the ceiling. -/
theorem vast_request_not_granted :
    Json.memberText? "limit" Sample.vastJson = some "10000000000000000000".toList ∧
    ((Intent.load Sample.vastJson).toOption.bind fun noted =>
        (compileOn {} ⟨Sample.port, Sample.caller⟩ noted.1 Sample.day).sql) =
      some ("SELECT SUM(amount) AS sum_amount FROM orders " ++
        "WHERE company_code = $1 AND (open OR shared) LIMIT 100") ∧
    ¬ ∃ front, "SELECT SUM(amount) AS sum_amount FROM orders " ++
      "WHERE company_code = $1 AND (open OR shared) LIMIT 100" =
        front ++ " LIMIT " ++ toString (min 10000000000000000000 1000) := by
  refine ⟨by decide +kernel, by decide +kernel, ?_⟩
  rintro ⟨front, heq⟩
  have hceiling : toString (min 10000000000000000000 1000) = "1000" := by decide +kernel
  rw [hceiling] at heq
  have hchars := congrArg String.toList heq
  simp only [String.toList_append] at hchars
  -- The one has a one where the other has its second zero.
  have hend := congrArg (fun chars => (chars.reverse.drop 2).head?) hchars
  simp at hend

end TenantQuery
