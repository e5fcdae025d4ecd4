import TenantQuery.Proofs.Compilation.Likeness
import TenantQuery.Proofs.Sql.Values
/-!
Text of a request that was not checked is never shown.

Two requests that differ only in texts which cannot be read where they stand have the same result.
When the strings and numbers of filter values differ as well, the conditions differ in their
literals, and nothing that is reported does.
-/

namespace TenantQuery

open Sql Compilation Identifier

/-- The texts are equal, or neither of them can be read. -/
def Masked (readable : String → Bool) (first second : String) : Prop :=
  first = second ∨ readable first = false ∧ readable second = false

/-- The values differ at most in the contents of their strings and numbers.  No filter can use an
object, so nothing is asked of the members of objects. -/
inductive Json.SameShape : Json → Json → Prop where
  | null : SameShape .null .null
  | bool (value : Bool) : SameShape (.bool value) (.bool value)
  | number (first second : Number) : SameShape (.number first) (.number second)
  | string (first second : String) : SameShape (.string first) (.string second)
  | array {first second : List Json} (h : List.Forall₂ SameShape first second) :
      SameShape (.array first) (.array second)
  | object (first second : List (String × Json)) : SameShape (.object first) (.object second)

/-- The likeness of requests that differ only in texts that cannot be read.  A table name may have
white space around it, and a blank one means the default table. -/
def Likeness.unchecked (value : Json → Json → Prop) : Likeness where
  table := Masked fun text => Text.isBlankText text || isTableName (Text.trim text)
  field := Masked isIdentifier
  outputName := Masked fun text => isIdentifier text || isReserved text
  date := Masked fun text => (Calendar.parseDate? text).isSome
  value := value

/-- The condition, with nothing said about what its column is compared with. -/
def Sql.Condition.withoutTest : Condition → Condition
  | .user _ field => .user .isNull field
  | condition => condition

namespace Json.SameShape

theorem isSome_ofJson? {first second : Json} (h : SameShape first second) :
    (Literal.ofJson? first).isSome = (Literal.ofJson? second).isSome := by
  cases h <;> rfl

theorem isSome_patternText? {first second : Json} (h : SameShape first second) :
    (patternText? first).isSome = (patternText? second).isSome := by
  cases h <;> rfl

theorem isSome_items? {first second : Json} (h : SameShape first second) :
    (FilterTest.items? first).isSome = (FilterTest.items? second).isSome := by
  cases h with
  | array hitems =>
      simp only [FilterTest.items?, Literal.isSome_mapM_ofJson?]
      induction hitems with
      | nil => rfl
      | cons hhead htail ih => rw [List.all_cons, List.all_cons, hhead.isSome_ofJson?, ih]
  | null => rfl
  | bool value => rfl
  | number first second => rfl
  | string first second => rfl
  | object first second => rfl

/-- Whether an operator can use a value shows in its shape. -/
theorem isSome_of? {first second : Json} (h : SameShape first second)
    (operator : FilterOperator) :
    (FilterTest.of? operator (some first)).isSome =
      (FilterTest.of? operator (some second)).isSome := by
  cases operator <;>
    simp [FilterTest.of?, FilterTest.of?.compareWith, FilterTest.of?.likeShape,
      h.isSome_ofJson?, h.isSome_patternText?, h.isSome_items?]

end Json.SameShape

theorem resolveTable?_eq_none (settings : Settings) {requested : String}
    (hblank : Text.isBlankText requested = false)
    (hname : isTableName (Text.trim requested) = false) :
    resolveTable? settings requested = none := by
  rw [← Text.isEmpty_trim] at hblank
  simp [resolveTable?, hblank, hname]

theorem resolveTable?_congr {settings : Settings} {value : Json → Json → Prop}
    {first second : String} (h : (Likeness.unchecked value).table first second) :
    resolveTable? settings first = resolveTable? settings second := by
  rcases h with rfl | ⟨hfirst, hsecond⟩
  · rfl
  · rw [Bool.or_eq_false_iff] at hfirst hsecond
    rw [resolveTable?_eq_none settings hfirst.1 hfirst.2,
      resolveTable?_eq_none settings hsecond.1 hsecond.2]

/-- Texts that cannot be read do no harm, whatever is made of the values. -/
theorem harmless_unchecked {settings : Settings} {view : Condition → Condition}
    {value : Json → Json → Prop}
    (hvalue : ∀ {first second}, value first second → ∀ operator field,
      (FilterTest.of? operator (some first)).map (fun test => view (.user test field)) =
        (FilterTest.of? operator (some second)).map (fun test => view (.user test field))) :
    (Likeness.unchecked value).Harmless settings view where
  table h := resolveTable?_congr h
  field h := by
    rcases h with rfl | ⟨hfirst, hsecond⟩
    · rfl
    · simp [name?, hfirst, hsecond]
  outputName h field default := by
    rcases h with rfl | ⟨hfirst, hsecond⟩
    · rfl
    · rw [Bool.or_eq_false_iff] at hfirst hsecond
      simp [preferredName, hfirst, hsecond]
  date h := by
    rcases h with rfl | ⟨hfirst, hsecond⟩
    · rfl
    · rw [Option.isSome_eq_false_iff, Option.isNone_iff_eq_none] at hfirst hsecond
      rw [hfirst, hsecond]
  value h := hvalue h

/-- Strings and numbers do no harm to what a condition is about. -/
theorem harmless_unchecked_sameShape (settings : Settings) :
    (Likeness.unchecked Json.SameShape).Harmless settings Condition.withoutTest := by
  apply harmless_unchecked
  intro first second h operator field
  -- The view leaves nothing of a test but that there is one.
  have hview : ∀ test? : Option FilterTest,
      test?.map (fun test => Condition.withoutTest (.user test field)) =
        if test?.isSome then some (.user .isNull field) else none := by
    intro test?
    cases test? <;> rfl
  rw [hview, hview, h.isSome_of? operator]

theorem harmless_unchecked_eq (settings : Settings) :
    (Likeness.unchecked Eq).Harmless settings id := by
  apply harmless_unchecked
  rintro first _ rfl operator field
  rfl

/-- Text of a request that was not checked reaches no diagnostics, and values of filters reach
none either.  Texts that cannot be read make no difference to the result at all. -/
theorem unchecked_text_unreported (settings : Settings) (access : Access) (today : Date)
    (first second : Intent) :
    (first.Alike (.unchecked Json.SameShape) second →
      (compileOn settings access first today).success =
          (compileOn settings access second today).success ∧
        (compileOn settings access first today).error =
          (compileOn settings access second today).error ∧
        (compileOn settings access first today).warnings =
          (compileOn settings access second today).warnings ∧
        (compileOn settings access first today).columns =
          (compileOn settings access second today).columns ∧
        compileEvents settings access first today =
          compileEvents settings access second today) ∧
      (first.Alike (.unchecked Eq) second →
        compileOn settings access first today = compileOn settings access second today) := by
  constructor
  · intro h
    have hresult := withoutStatement_congr (harmless_unchecked_sameShape settings) h access today
    rw [CompileResult.withoutStatement, CompileResult.withoutStatement,
      CompileResult.mk.injEq] at hresult
    obtain ⟨hsuccess, -, herror, hwarnings, -, hcolumns⟩ := hresult
    exact ⟨hsuccess, herror, hwarnings, hcolumns,
      compileEvents_congr (harmless_unchecked_sameShape settings) h access today⟩
  · intro h
    exact compileOn_congr (harmless_unchecked_eq settings) h access today

namespace Sample

/-- A request with a text at every place where it cannot be read, and with a value. -/
def noisyIntent (noise : String) (value : Json) : Intent where
  table := "orders"
  dimensions := [{ field := "region", outputName := some noise }, { field := noise }]
  metrics := [{ field := noise }, { field := "amount" }]
  timeFilter := some
    { kind := .custom, dateFrom := some noise, dateTo := some "2024-02-01",
      dateField := some "ordered_on" }
  filters := [{ field := noise }, { field := "region", operator := .isIn, value := some value }]
  orderBy := [{ field := noise }, { field := "region", direction := .desc }]

/-- No text that cannot be read makes a difference to the likeness. -/
theorem noisyIntent_alike {first second : String} {value other : Json}
    {alike : Json → Json → Prop} (hname : Masked isIdentifier first second)
    (houtput : (Likeness.unchecked alike).outputName first second)
    (hdate : (Likeness.unchecked alike).date first second) (hvalue : alike value other) :
    (noisyIntent first value).Alike (.unchecked alike) (noisyIntent second other) where
  queryType := rfl
  table := .inl rfl
  metrics := .cons ⟨hname, rfl, .none⟩ (.cons ⟨.inl rfl, rfl, .none⟩ .nil)
  dimensions := .cons ⟨.inl rfl, rfl, .some houtput⟩ (.cons ⟨hname, rfl, .none⟩ .nil)
  timeFilter := .some ⟨rfl, rfl, rfl, .some hdate, .some (.inl rfl), .some (.inl rfl)⟩
  filters := .cons ⟨hname, rfl, .none⟩ (.cons ⟨.inl rfl, rfl, .some hvalue⟩ .nil)
  orderBy := .cons ⟨hname, rfl⟩ (.cons ⟨.inl rfl, rfl⟩ .nil)
  limit := rfl
  chartType := rfl
  chartTitle := rfl
  explanation := rfl

end Sample

/-- Two requests with different hostile texts are warned about alike, whatever the region is
compared with, and have the same result where that is the same. -/
theorem unchecked_text_unreported_orders :
    (compileOn {} ⟨Sample.port, Sample.caller⟩
        (Sample.noisyIntent "x'; --" (.string "a")) Sample.day).warnings =
      (compileOn {} ⟨Sample.port, Sample.caller⟩
        (Sample.noisyIntent "$1 OR 1" (.string "b'c")) Sample.day).warnings ∧
    (compileOn {} ⟨Sample.port, Sample.caller⟩
        (Sample.noisyIntent "x'; --" (.string "a")) Sample.day).success ∧
    compileOn {} ⟨Sample.port, Sample.caller⟩
        (Sample.noisyIntent "x'; --" (.string "a")) Sample.day =
      compileOn {} ⟨Sample.port, Sample.caller⟩
        (Sample.noisyIntent "$1 OR 1" (.string "a")) Sample.day := by
  have hname : Masked isIdentifier "x'; --" "$1 OR 1" := .inr (by decide)
  have houtput : Masked (fun text => isIdentifier text || isReserved text) "x'; --" "$1 OR 1" :=
    .inr (by decide)
  have hdate : Masked (fun text => (Calendar.parseDate? text).isSome) "x'; --" "$1 OR 1" :=
    .inr (by decide)
  refine ⟨?_, by decide, ?_⟩
  · have halike := Sample.noisyIntent_alike hname houtput hdate (Json.SameShape.string "a" "b'c")
    exact ((unchecked_text_unreported {} _ _ _ _).1 halike).2.2.1
  · have halike := Sample.noisyIntent_alike hname houtput hdate (Eq.refl (Json.string "a"))
    exact (unchecked_text_unreported {} _ _ _ _).2 halike

end TenantQuery
