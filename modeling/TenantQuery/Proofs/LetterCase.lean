import TenantQuery.Chart
import TenantQuery.Proofs.Compilation.Likeness
/-!
The letter case of names makes no difference.

The database folds unquoted names, and so does a compilation before it does anything else with
them.  Requests that write the same names in other letters have the same result, the same hints for
a chart and the same reports.
-/

namespace TenantQuery

open Sql Compilation Identifier

/-- The texts differ at most in the case of ASCII letters. -/
def SameLetters (first second : String) : Prop := Text.fold first = Text.fold second

instance (first second : String) : Decidable (SameLetters first second) :=
  inferInstanceAs (Decidable (Text.fold first = Text.fold second))

/-- The likeness of requests that differ only in the letter case of names. -/
def Likeness.letterCase : Likeness where
  table := SameLetters
  field := SameLetters
  outputName := SameLetters
  date := Eq
  value := Eq

theorem isBlank_eq_false_of_isNameChar {c : Char} (h : isNameChar c) : Text.isBlank c = false := by
  rw [Bool.eq_false_iff]
  exact fun hblank => not_isNameChar_of_isBlank hblank h

theorem isBlank_toLower (c : Char) : Text.isBlank c.toLower = Text.isBlank c := by
  by_cases hupper : c.isUpper
  · have hname : isNameChar c := by simp [isNameChar, Char.isAlphanum, Char.isAlpha, hupper]
    have hlower : isNameChar c.toLower := by rwa [isNameChar_toLower]
    rw [isBlank_eq_false_of_isNameChar hname, isBlank_eq_false_of_isNameChar hlower]
  · rw [Char.toLower_eq_of_not_isUpper hupper]

theorem isBlankText_canonical (text : String) :
    Text.isBlankText (canonical text) = Text.isBlankText text := by
  simp [Text.isBlankText, canonical, Function.comp_def, isBlank_toLower]

theorem dropBlank_map_toLower (chars : List Char) :
    Text.dropBlank (chars.map Char.toLower) = (Text.dropBlank chars).map Char.toLower := by
  rw [Text.dropBlank, List.dropWhile_map]
  congr 2
  exact funext isBlank_toLower

/-- Folding and trimming change nothing for one another. -/
theorem trim_canonical (text : String) :
    Text.trim (canonical text) = canonical (Text.trim text) := by
  apply String.toList_inj.mp
  simp [canonical, Text.trimChars, dropBlank_map_toLower, ← List.map_reverse]

/-- A table is looked up by its folded name. -/
theorem resolveTable?_canonical (settings : Settings) (requested : String) :
    resolveTable? settings (canonical requested) = resolveTable? settings requested := by
  unfold resolveTable?
  simp only [Text.isEmpty_trim, isBlankText_canonical]
  simp only [trim_canonical]
  split
  · rfl
  · simp only [Option.filter_some, isTableName_canonical]
    split <;> simp

theorem name?_canonical (text : String) : name? (canonical text) = name? text := by
  simp [name?]

theorem preferredName_canonical (field name default : String) :
    preferredName field (some (canonical name)) default =
      preferredName field (some name) default := by
  simp [preferredName]

/-- Letter case does no harm. -/
theorem harmless_letterCase (settings : Settings) :
    Likeness.letterCase.Harmless settings id where
  -- A name is read as its folded text is, and the folded texts are equal.
  table {first second} h := by
    rw [← resolveTable?_canonical settings first, ← resolveTable?_canonical settings second]
    exact congrArg _ h
  field {first second} h := by
    rw [← name?_canonical first, ← name?_canonical second]
    exact congrArg _ h
  outputName {first second} h field default := by
    rw [← preferredName_canonical field first, ← preferredName_canonical field second]
    exact congrArg (fun name => preferredName field (some name) default) h
  date h := congrArg _ h
  value {first second} h operator field := by
    cases h
    rfl

/-- Requests that differ only in the letter case of their names have the same result, the same
hints for a chart and the same reports. -/
theorem letter_case_irrelevant {first second : Intent} (h : first.Alike .letterCase second)
    (settings : Settings) (access : Access) (today : Date) :
    compileOn settings access first today = compileOn settings access second today ∧
      (∀ question,
        ChartHints.of? first (compileOn settings access first today) question =
          ChartHints.of? second (compileOn settings access second today) question) ∧
      compileEvents settings access first today = compileEvents settings access second today := by
  have hresult := compileOn_congr (harmless_letterCase settings) h access today
  refine ⟨hresult, ?_, compileEvents_congr (harmless_letterCase settings) h access today⟩
  intro question
  rw [hresult, ChartHints.of?, ChartHints.of?, h.chartType, h.chartTitle]

namespace Sample

/-- A request that uses its names wherever it can. -/
def namedIntent (table grouped measured total : String) : Intent where
  table := table
  dimensions := [{ field := grouped, granularity := some .month }]
  metrics := [{ field := measured, outputName := some total }]
  timeFilter := some { kind := .lastNDays, n := some 7, dateField := some grouped }
  filters := [{ field := measured, operator := .gt, value := some (.bool true) }]
  orderBy := [{ field := total, direction := .desc }, { field := measured }]

theorem namedIntent_alike {table table' grouped grouped' measured measured' total total' : String}
    (htable : SameLetters table table') (hgrouped : SameLetters grouped grouped')
    (hmeasured : SameLetters measured measured') (htotal : SameLetters total total') :
    (namedIntent table grouped measured total).Alike .letterCase
      (namedIntent table' grouped' measured' total') where
  queryType := rfl
  table := htable
  metrics := .cons ⟨hmeasured, rfl, .some htotal⟩ .nil
  dimensions := .cons ⟨hgrouped, rfl, .none⟩ .nil
  timeFilter := .some ⟨rfl, rfl, rfl, .none, .none, .some hgrouped⟩
  filters := .cons ⟨hmeasured, rfl, .some rfl⟩ .nil
  orderBy := .cons ⟨htotal, rfl⟩ (.cons ⟨hmeasured, rfl⟩ .nil)
  limit := rfl
  chartType := rfl
  chartTitle := rfl
  explanation := rfl

end Sample

/-- A request for orders, and the same in other letters. -/
theorem letter_case_irrelevant_orders :
    (compileOn {} ⟨Sample.port, Sample.caller⟩
        (Sample.namedIntent " Orders" "Ordered_On" "amount" "Total") Sample.day).success ∧
      compileOn {} ⟨Sample.port, Sample.caller⟩
          (Sample.namedIntent " Orders" "Ordered_On" "amount" "Total") Sample.day =
        compileOn {} ⟨Sample.port, Sample.caller⟩
          (Sample.namedIntent " ORDERS" "ordered_ON" "Amount" "tOTAL") Sample.day := by
  have htable : SameLetters " Orders" " ORDERS" := by decide
  have hgrouped : SameLetters "Ordered_On" "ordered_ON" := by decide
  have hmeasured : SameLetters "amount" "Amount" := by decide
  have htotal : SameLetters "Total" "tOTAL" := by decide
  have halike := Sample.namedIntent_alike htable hgrouped hmeasured htotal
  exact ⟨by decide, (letter_case_irrelevant halike {} _ _).1⟩

end TenantQuery
