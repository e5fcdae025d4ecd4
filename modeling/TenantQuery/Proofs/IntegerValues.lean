import TenantQuery.Loading.Documents
import TenantQuery.Proofs.AskedFilters
import TenantQuery.Proofs.Compilation.ClauseTexts
import TenantQuery.Proofs.Json.IntegerText
import TenantQuery.Proofs.Json.Places
/-!
Integers in the values of filters, from the text of a request to the text of a statement.

Where a filter becomes a condition, every value of its list has a constant in the condition, in the
same order.  The constant of an integer stands for the integer that is written in the request.
-/

namespace TenantQuery

open Sql Compilation Identifier

/-- The places of the elements of the list of filters in the text of a request. -/
def filterPlaces (json : String) : List Json.Place :=
  (((Json.Place.ofText json).member? "filters").map Json.Place.items).getD []

theorem Json.IsScalar.kind_not_mem {value : Json} (h : value.IsScalar) :
    value.kind ∉ [.array, .object] := by
  cases value <;> simp_all [Json.IsScalar, Json.kind]

namespace Json.Place

def filter? (place : Place) : Option Filter :=
  place.value?.bind fun element =>
    (Reading.record? Filter.fieldNames Filter.read element).1

/-- The places of the members of a list; a value that is no list is the only one. -/
def operands (place : Place) : List Place :=
  match place.value? with
  | some (.array _) => place.items
  | _ => [place]

variable {place inner : Place} {value : Json} {literal : List Char} {v : Int}

theorem forall₂_operands (h : place.value? = some value) :
    List.Forall₂ (fun item part => part.value? = some item) value.members place.operands := by
  rw [operands, h]
  cases value with
  | array items => exact forall₂_items h
  | _ => exact .cons h .nil

/-- The literals of a value are those of its operands, one for one. -/
theorem forall₂_literals (h : place.value? = some value) {literals : List Literal}
    (hliterals : List.Forall₂ (fun item literal => Literal.ofJson? item = some literal)
      value.members literals) :
    List.Forall₂ (fun operand literal => operand.value?.bind Literal.ofJson? = some literal)
      place.operands literals := by
  have hparts := forall₂_operands h
  generalize value.members = items at hparts hliterals
  generalize place.operands = operands at hparts
  induction hparts generalizing literals with
  | nil =>
      cases hliterals
      exact .nil
  | cons hitem _ ih =>
      cases hliterals with
      | cons hliteral hrest => exact .cons (by rw [hitem, Option.bind_some, hliteral]) (ih hrest)

/-- Inside of a list of single values, every single value is one of the list. -/
theorem mem_operands_of_within (h : place.value? = some value)
    (hvalue : ∀ item ∈ value.members, item.IsScalar) (hinner : inner.Within place)
    {found : Json} (hfound : inner.value? = some found) (hscalar : found.IsScalar) :
    inner ∈ place.operands := by
  have hparts := forall₂_operands h
  by_cases hsingle : value.IsScalar
  · -- A value that is no list is read at its own place.
    have hoperands : place.operands = [place] := by
      rw [operands, h]
      cases value <;> simp_all [IsScalar, kind]
    rw [hoperands, hinner.eq_of_kind h hsingle.kind_not_mem]
    exact List.mem_singleton_self place
  · obtain ⟨items, rfl⟩ : ∃ items, value = .array items := by
      cases value <;> simp_all [Json.members]
    rcases hinner.eq_or_item h with rfl | ⟨part, hpart, hinner⟩
    · rw [h] at hfound
      cases hfound
      exact absurd hscalar hsingle
    · have hoperands : place.operands = place.items := by rw [operands, h]
      rw [hoperands] at hparts ⊢
      obtain ⟨i, hi⟩ := List.getElem?_of_mem hpart
      obtain ⟨item, hitem, hread⟩ := exists_getElem?_of_forall₂ hparts hi
      rwa [hinner.eq_of_kind hread (hvalue item (List.mem_of_getElem? hitem)).kind_not_mem]

/-- Where an integer literal stands, there is a number whose text denotes an integer that stands
for the literal. -/
theorem exists_constant (htext : place.text? = some literal)
    (hliteral : IsIntegerLiteral literal v) :
    ∃ (number : Number) (written : Int), place.value? = some (.number number) ∧
      constant? number.text.toList = some (written : ℚ) ∧ StandsFor written v := by
  obtain ⟨number, rest, hvalue, hnumber⟩ := exists_number htext hliteral
  obtain ⟨negative, digits, hall, hinteger, rfl⟩ := integerLiteral?_of_number? hliteral hnumber
  obtain ⟨written, hconstant, hstands⟩ := constant?_of_integerLiteral? hall hinteger
  exact ⟨number, written, hvalue, hconstant, hstands⟩

end Json.Place

/-- The records of a list are those of its elements that are records. -/
theorem Reading.list_fst {α : Type} (read? : Json → Noted (Option α)) (member : Option Json) :
    (Reading.list read? member).1 =
      (Reading.elements member).filterMap fun element => (read? element).1 := by
  cases member with
  | none => rfl
  | some value =>
      cases value with
      | array items => rw [Reading.list, Reading.records_eq, Reading.elements]
      | _ => rfl

/-- The filters of an intent are those that are read at their places. -/
theorem Intent.filters_of_load {json : String} {intent : Intent} {notes : List ReadingNote}
    (h : Intent.load json = .ok (intent, notes)) :
    intent.filters = (filterPlaces json).filterMap Json.Place.filter? := by
  obtain ⟨members, hparse, hread⟩ := Intent.exists_of_load h
  cases hread
  have hroot := Json.Place.value?_ofText hparse
  change (Reading.list _ (Dictionary.get? members "filters")).1 = _
  rw [Reading.list_fst, filterPlaces]
  have hfilters := Json.Place.rel_member? hroot "filters"
  generalize Dictionary.get? members "filters" = member at hfilters
  generalize (Json.Place.ofText json).member? "filters" = place at hfilters
  cases hfilters with
  | none => rfl
  | some hvalue => exact Json.Place.filterMap_items hvalue _

/-- The value of a filter is the one at its place. -/
theorem Json.Place.value_of_filter? {element part : Json.Place} {filter : Filter}
    (hfilter : element.filter? = some filter)
    (hpart : element.field? Filter.fieldNames "value" = some part) :
    ∃ given, part.value? = some given ∧ filter.value = Reading.value? (some given) := by
  obtain ⟨record, hrecord, hread⟩ := Option.bind_eq_some_iff.mp hfilter
  unfold Reading.record? at hread
  split at hread
  · cases hread
  · rename_i fields usable hfields
    have hvalue := Json.Place.rel_field? hrecord hfields "value"
    have hfound : filter.value = Reading.value? (fields.get? "value") := by
      obtain ⟨-, heq⟩ := Option.ite_none_right_eq_some.mp hread
      cases heq
      rfl
    rw [hpart] at hvalue
    rw [hfound]
    generalize fields.get? "value" = found at hvalue
    cases hvalue with
    | some hgiven => exact ⟨_, hgiven, rfl⟩

/-- The condition of an operator over a column has the constants for its operands, in order. -/
inductive FilterOperator.Writes (field : String) :
    FilterOperator → List String → String → Prop where
  | compare {operator : FilterOperator} {sign : String} (hsign : operator.sign? = some sign)
      (constant : String) :
      Writes field operator [constant] (field ++ " " ++ sign ++ " " ++ constant)
  | member {operator : FilterOperator} {sign quantifier : String} {constants : List String}
      (hquantifier : operator.quantifier? = some (sign, quantifier)) (hne : constants ≠ []) :
      Writes field operator constants (field ++ " " ++ sign ++ " " ++ quantifier ++ "(ARRAY[" ++
        ", ".intercalate constants ++ "])")

/-- The condition of an operator over a column has the literals of the members of a value. -/
def FilterOperator.WritesValue (operator : FilterOperator) (field : String) (value : Json)
    (predicate : String) : Prop :=
  ∃ literals : List Literal,
    operator.Writes field (literals.map Literal.render) predicate ∧
    List.Forall₂ (fun item literal => Literal.ofJson? item = some literal) value.members literals

section Written

variable {field : String} {operator : FilterOperator} {value : Json} {test : FilterTest}

theorem FilterTest.writes_compare {comparison : Comparison}
    (hsign : operator.sign? = some comparison.sign)
    (h : FilterTest.of?.compareWith (some value) comparison = some test) :
    operator.WritesValue field value (test.render field) := by
  obtain ⟨literal, hliteral, rfl⟩ := Option.map_eq_some_iff.mp h
  change Literal.ofJson? value = some literal at hliteral
  refine ⟨[literal], .compare hsign literal.render, ?_⟩
  cases value with
  | array items => cases hliteral
  | _ => exact .cons hliteral .nil

theorem FilterTest.writes_member {sign quantifier : String} {build : List Literal → FilterTest}
    (hquantifier : operator.quantifier? = some (sign, quantifier)) (hne : value ≠ .array [])
    (hrender : ∀ item rest, (build (item :: rest)).render field =
      field ++ " " ++ sign ++ " " ++ quantifier ++ "(" ++ renderArray (item :: rest) ++ ")")
    (h : ((some value).bind FilterTest.items?).map build = some test) :
    operator.WritesValue field value (test.render field) := by
  rcases FilterTest.exists_items h with ⟨hempty, -⟩ | ⟨_, item, rest, heq, hitems, rfl⟩
  · exact absurd (Option.some_inj.mp hempty) hne
  · cases heq
    refine ⟨item :: rest, ?_, FilterTest.forall₂_of_items? hitems⟩
    have htext : (build (item :: rest)).render field = field ++ " " ++ sign ++ " " ++ quantifier ++
        "(ARRAY[" ++ ", ".intercalate ((item :: rest).map Literal.render) ++ "])" := by
      rw [hrender, renderArray, ← String.toList_inj]
      simp
    rw [htext]
    exact .member hquantifier (by simp)

/-- Where an operator can use a value, it puts the literals of its members into the condition. -/
theorem FilterTest.writes_of_of? (hoperator : operator.sign?.isSome ∨ operator.quantifier?.isSome)
    (hne : value ≠ .array []) (h : FilterTest.of? operator (some value) = some test) :
    operator.WritesValue field value (test.render field) := by
  cases operator with
  | eq => exact writes_compare rfl h
  | neq => exact writes_compare rfl h
  | gt => exact writes_compare rfl h
  | gte => exact writes_compare rfl h
  | lt => exact writes_compare rfl h
  | lte => exact writes_compare rfl h
  | isIn =>
      refine writes_member rfl hne (fun item rest => ?_) h
      simp [FilterTest.render, ← String.toList_inj]
  | notIn =>
      refine writes_member rfl hne (fun item rest => ?_) h
      simp [FilterTest.render, ← String.toList_inj]
  | _ => simp [FilterOperator.sign?, FilterOperator.quantifier?] at hoperator

end Written

/-- The condition of an operator has the literals of all operands in the text of a request, and the
one for the operand at a place denotes an integer that stands for the one that is written there. -/
def FilterOperator.Embeds (operator : FilterOperator) (field : String)
    (value place : Json.Place) (v : Int) (predicate : String) : Prop :=
  ∃ (literals : List Literal) (i : Nat) (literal : Literal) (written : Int),
    operator.Writes field (literals.map Literal.render) predicate ∧
    List.Forall₂ (fun operand literal => operand.value?.bind Literal.ofJson? = some literal)
      value.operands literals ∧
    value.operands[i]? = some place ∧ literals[i]? = some literal ∧
    constant? literal.render.toList = some (written : ℚ) ∧ StandsFor written v

section Embedded

variable {field : String} {operator : FilterOperator} {given : Json} {test : FilterTest}
  {value place : Json.Place} {literal : List Char} {v : Int}

/-- An integer in the value of a filter has its constant in the condition. -/
theorem FilterTest.embeds_of_of?
    (hoperator : operator.sign?.isSome ∨ operator.quantifier?.isSome)
    (hvalue : value.value? = some given) (hplace : place.Within value)
    (htext : place.text? = some literal) (hliteral : Json.IsIntegerLiteral literal v)
    (h : FilterTest.of? operator (some given) = some test) :
    operator.Embeds field value place v (test.render field) := by
  obtain ⟨number, written, hnumber, hconstant, hstands⟩ := place.exists_constant htext hliteral
  have hscalar : (Json.number number).IsScalar := by simp [Json.IsScalar, Json.kind]
  have hne : given ≠ .array [] := by
    rintro rfl
    have hmem := Json.Place.mem_operands_of_within hvalue (by simp [Json.members]) hplace hnumber
      hscalar
    have hparts := Json.Place.forall₂_operands hvalue
    rw [Json.members, List.forall₂_nil_left_iff] at hparts
    simp [hparts] at hmem
  obtain ⟨literals, hwrites, hliterals⟩ := FilterTest.writes_of_of? hoperator hne h
  have hmembers : ∀ item ∈ given.members, item.IsScalar := by
    intro item hitem
    obtain ⟨i, hi⟩ := List.getElem?_of_mem hitem
    obtain ⟨found, -, hfound⟩ := exists_getElem?_of_forall₂ hliterals.flip hi
    exact Literal.isSome_ofJson?_iff.mp (Option.isSome_of_eq_some hfound)
  have hoperands := Json.Place.forall₂_literals hvalue hliterals
  obtain ⟨i, hi⟩ := List.getElem?_of_mem
    (Json.Place.mem_operands_of_within hvalue hmembers hplace hnumber hscalar)
  obtain ⟨found, hfound, hread⟩ := exists_getElem?_of_forall₂ hoperands.flip hi
  rw [hnumber] at hread
  cases hread
  exact ⟨literals, i, _, written, hwrites, hoperands, hi, hfound, hconstant, hstands⟩

end Embedded

namespace Compilation

variable {settings : Settings} {access : Access} {intent : Intent} {today : Date} {table : String}
  {filter : Filter} {given : Json}

/-- A filter whose operator has no use for its value is reported. -/
theorem mem_warnings_of_unusable (h : Admitted settings access intent table)
    (hfilter : filter ∈ intent.filters) (hadmits : admits access table filter.field)
    (hvalue : filter.value = some given)
    (hnone : FilterTest.of? filter.operator filter.value = none) :
    (Adjustment.valueUnusable (canonical filter.field) filter.operator).message ∈
      (compileOn settings access intent today).warnings := by
  have herror : filterCondition access table filter =
      .error (.valueUnusable (canonical filter.field) filter.operator) := by
    simp only [filterCondition, authorize_of_admits .filter hadmits, hnone]
    simp [hvalue]
  have hmem : .valueUnusable (canonical filter.field) filter.operator ∈
      (filterConditions access table intent.filters).2 :=
    mem_separate_snd.mpr (herror ▸ List.mem_map_of_mem hfilter)
  rw [compileOn_of_admitted h]
  refine List.mem_map_of_mem (List.mem_append_left _ (List.mem_append_right _ ?_))
  exact List.mem_append_right _ hmem

/-- The condition of a filter is one of those of the statement. -/
theorem mem_conditions_of_filter (settings : Settings) (today : Date) {test : FilterTest}
    (hfilter : filter ∈ intent.filters) (hadmits : admits access table filter.field)
    (htest : FilterTest.of? filter.operator filter.value = some test) :
    .user test (canonical filter.field) ∈
      (statementOver settings access table intent today).conditions := by
  have hcondition : filterCondition access table filter =
      .ok (.user test (canonical filter.field)) :=
    filterCondition_eq_ok_iff.mpr ⟨hadmits, test, htest, rfl⟩
  have hmem : .user test (canonical filter.field) ∈
      (filterConditions access table intent.filters).1 :=
    mem_separate_fst.mpr (hcondition ▸ List.mem_map_of_mem hfilter)
  rw [statementOver, conditions_fst, laterConditions]
  exact List.mem_cons_of_mem _ (List.mem_append_right _ (List.mem_append_right _ hmem))

end Compilation

/-- Where an integer literal stands in the value of a comparison or of a membership filter over a
column that is allowed, the filter has a condition in the statement and in the audit trail, with a
constant that stands for the integer, or it is reported that its value cannot be used. -/
theorem integer_values_embedded {settings : Settings} {access : Access} {json : String}
    {intent : Intent} {notes : List ReadingNote} {element value place : Json.Place}
    {filter : Filter} {literal : List Char} {v : Int} {table : String} {today : Date}
    (hload : Intent.load json = .ok (intent, notes))
    (helement : element ∈ filterPlaces json) (hfilter : element.filter? = some filter)
    (hvalue : element.field? Filter.fieldNames "value" = some value)
    (hplace : place.Within value) (htext : place.text? = some literal)
    (hliteral : Json.IsIntegerLiteral literal v)
    (hoperator : filter.operator.sign?.isSome ∨ filter.operator.quantifier?.isSome)
    (htable : resolveTable? settings intent.table = some table)
    (hadmits : admits access table filter.field)
    (hsuccess : (compileOn settings access intent today).success) :
    filter ∈ intent.filters ∧
    ((∃ (texts : ClauseTexts) (k : Nat) (predicate : String),
        (compileOn settings access intent today).WrittenAs texts ∧
        texts.conditions[k]? = some predicate ∧
        (compileOn settings access intent today).appliedFilters[k]? =
          some (ConditionCategory.user.tag predicate) ∧
        filterPredicate? (canonical filter.field) filter.operator filter.value =
          some predicate ∧
        filter.operator.Embeds (canonical filter.field) value place v predicate) ∨
      (filterPredicate? (canonical filter.field) filter.operator filter.value = none ∧
        (Adjustment.valueUnusable (canonical filter.field) filter.operator).message ∈
          (compileOn settings access intent today).warnings)) := by
  obtain ⟨admitted, hadmitted⟩ := success_iff.mp hsuccess
  obtain rfl : admitted = table := Option.some_inj.mp (hadmitted.resolved.symm.trans htable)
  have hmem : filter ∈ intent.filters := by
    rw [Intent.filters_of_load hload]
    exact List.mem_filterMap.mpr ⟨element, helement, hfilter⟩
  obtain ⟨given, hgiven, hread⟩ := Json.Place.value_of_filter? hfilter hvalue
  obtain ⟨number, -, hnumber, -⟩ := place.exists_constant htext hliteral
  have hsome : filter.value = some given := by
    rw [hread, Reading.value?]
    rintro ⟨⟩
    -- There is no number in a null.
    rw [hplace.eq_of_kind hgiven (by simp [Json.kind]), hgiven] at hnumber
    cases hnumber
  refine ⟨hmem, ?_⟩
  cases htest : FilterTest.of? filter.operator filter.value with
  | none =>
      exact .inr ⟨by rw [filterPredicate?, htest, Option.map_none],
        mem_warnings_of_unusable hadmitted hmem hadmits hsome htest⟩
  | some test =>
      obtain ⟨k, hk⟩ := List.getElem?_of_mem
        (mem_conditions_of_filter settings today hmem hadmits htest)
      have hpredicate : filterPredicate? (canonical filter.field) filter.operator filter.value =
          some (test.render (canonical filter.field)) := by
        rw [filterPredicate?, htest, Option.map_some]
      refine .inl ⟨_, k, _, writtenAs_of_admitted hadmitted today, ?_, ?_, hpredicate, ?_⟩
      · rw [Statement.clauseTexts, List.getElem?_map, hk]
        rfl
      · rw [compileOn_of_admitted hadmitted, CompileResult.ofStatement, List.getElem?_map, hk]
        rfl
      · exact FilterTest.embeds_of_of? hoperator hgiven hplace htext hliteral (hsome ▸ htest)

namespace Sample

/-- A request with a list of two integers, of which the second is beyond 64 bits. -/
def longJson : String :=
  "\x7b\"table\":\"orders\",\"metrics\":[[\"amount\"]],\"filters\":[\"none\"," ++
    "\x7b\"field\":\"Amount\",\"operator\":\"in\",\"value\":[7, -1200000000000000000000]\x7d]\x7d"

def longFilter : Json.Place :=
  ((filterPlaces longJson)[1]?).getD (.ofText longJson)

def longValue : Json.Place :=
  (longFilter.field? Filter.fieldNames "value").getD longFilter

def longItem : Json.Place :=
  (longValue.items[1]?).getD longValue

theorem places_longJson :
    (filterPlaces longJson)[1]? = some longFilter ∧
      longFilter.field? Filter.fieldNames "value" = some longValue ∧
      longValue.items[1]? = some longItem ∧
      longItem.text? = some "-1200000000000000000000".toList := by
  decide +kernel

/-- A request about one integer beyond 64 bits. -/
def exactJson : String :=
  "\x7b\"table\":\"orders\",\"metrics\":[[\"amount\"]],\"filters\":[" ++
    "\x7b\"field\":\"amount\",\"operator\":\"eq\",\"value\":18446744073709551617\x7d]\x7d"

/-- A request without columns, about a list where there may be none. -/
def emptyJson : String :=
  "\x7b\"table\":\"orders\",\"filters\":[" ++
    "\x7b\"field\":\"amount\",\"operator\":\"eq\",\"value\":[1]\x7d]\x7d"

def resultOf (json : String) : Option CompileResult :=
  (Intent.load json).toOption.map fun noted => compileOn {} ⟨port, caller⟩ noted.1 day

end Sample

/-- A long integer among the values of a list has its constant at its place. -/
theorem integer_values_embedded_long :
    ∃ intent notes, Intent.load Sample.longJson = .ok (intent, notes) ∧
      ∃ (texts : ClauseTexts) (k : Nat) (predicate : String),
        (compileOn {} ⟨Sample.port, Sample.caller⟩ intent Sample.day).WrittenAs texts ∧
        texts.conditions[k]? = some predicate ∧
        FilterOperator.isIn.Embeds "amount" Sample.longValue Sample.longItem
          (-1200000000000000000000) predicate := by
  have hcompiled : ∃ noted ∈ (Intent.load Sample.longJson).toOption,
      resolveTable? {} noted.1.table = some "orders" ∧
        (compileOn {} ⟨Sample.port, Sample.caller⟩ noted.1 Sample.day).success := by
    decide +kernel
  have hknown : ∃ filter ∈ Sample.longFilter.filter?,
      filter.field = "Amount" ∧ filter.operator = .isIn ∧
        (filterPredicate? (canonical filter.field) filter.operator filter.value).isSome := by
    decide +kernel
  obtain ⟨helement, hvalue, hitem, htext⟩ := Sample.places_longJson
  have hliteral : Json.IsIntegerLiteral "-1200000000000000000000".toList
      (-1200000000000000000000) :=
    .minus (by decide) (List.all_eq_true.mp rfl)
  obtain ⟨noted, hnoted, htable, hsuccess⟩ := hcompiled
  obtain ⟨filter, hfilter, hfield, hoperator, hpredicate⟩ := hknown
  have hload : Intent.load Sample.longJson = .ok noted := by
    generalize Intent.load Sample.longJson = outcome at hnoted
    cases outcome with
    | error error => cases hnoted
    | ok found => rw [Option.some_inj.mp hnoted]
  have hadmits : admits ⟨Sample.port, Sample.caller⟩ "orders" filter.field := by
    rw [hfield]
    decide
  obtain ⟨-, hwritten | ⟨hnone, -⟩⟩ :=
    integer_values_embedded hload (List.mem_of_getElem? helement) hfilter hvalue
      (.item (List.mem_of_getElem? hitem) (.refl _)) htext hliteral
      (.inr (by rw [hoperator]; rfl)) htable hadmits hsuccess
  · obtain ⟨texts, k, predicate, htexts, hk, -, -, hembeds⟩ := hwritten
    have hcanonical : canonical filter.field = "amount" := by
      rw [hfield]
      decide
    rw [hoperator, hcanonical] at hembeds
    exact ⟨noted.1, noted.2, hload, texts, k, predicate, htexts, hk, hembeds⟩
  · rw [hnone] at hpredicate
    cases hpredicate

/-- A long integer can be written as another one, and without a statement nothing is reported. -/
theorem long_integer_rounded :
    (((filterPlaces Sample.exactJson)[0]?).bind (·.field? Filter.fieldNames "value")).bind
      Json.Place.text? = some "18446744073709551617".toList ∧
    Json.IsIntegerLiteral "18446744073709551617".toList 18446744073709551617 ∧
    ((Sample.resultOf Sample.exactJson).map fun result =>
        (result.appliedFilters, result.warnings)) =
      some (["[tenant] company_code = $1", "[policy] (open OR shared)",
        "[user] amount = 1.8446744073709552e+19"], []) ∧
    Sql.constant? "1.8446744073709552e+19".toList = some 18446744073709552000 ∧
    (18446744073709552000 : ℚ) ≠ (18446744073709551617 : Int) ∧
    ((Sample.resultOf Sample.emptyJson).map fun result =>
        (result.appliedFilters, result.warnings)) = some ([], []) := by
  refine ⟨by decide +kernel, .plain (by decide) (List.all_eq_true.mp rfl), by decide +kernel, ?_,
    by norm_num, by decide +kernel⟩
  have hconstant := Sql.constant?_signed false
    (Binary64.isUnsigned_text Binary64.layout ⟨18446744073709552, 3⟩)
    (Binary64.unsignedConstant?_text Binary64.layout ⟨18446744073709552, 3⟩)
  have htext : Binary64.Decimal.text Binary64.layout ⟨18446744073709552, 3⟩ =
      "1.8446744073709552e+19" := by
    decide +kernel
  rw [htext] at hconstant
  refine Eq.trans hconstant ?_
  norm_num

end TenantQuery
