import TenantQuery.Proofs.PairedLists
import TenantQuery.Proofs.Sql.Parts
import TenantQuery.Proofs.Sql.Values
/-!
A filter becomes a condition exactly when its operator can use its value, and the condition says
what the filter asks.

What is asked is said of the operator and the value alone: the sign of a comparison, the pattern of
a shape, the members of a list.  The tokens of the condition are those of the column, the sign and
the literals of the value.  No literal has a comma or a bracket outside of its text, so the members
of a list can be told apart.
-/

namespace TenantQuery

open Sql

/-- The members of a list; a value that is no list is the only one. -/
def Json.members : Json → List Json
  | .array items => items
  | value => [value]

/-- The tokens are the literal of the value: a string stands as it is between quotes, and a number
as its text. -/
inductive Json.ReadAs : Json → List Token → Prop where
  | string (text : String) : ReadAs (.string text) [.literal text.toList]
  | number {value : Number} {tokens : List Token} (h : tokens? value.text = some tokens) :
      ReadAs (.number value) tokens
  | «true» : ReadAs (.bool true) [name "TRUE"]
  | «false» : ReadAs (.bool false) [name "FALSE"]

namespace FilterOperator

def sign? : FilterOperator → Option String
  | .eq => some "="
  | .neq => some "<>"
  | .gt => some ">"
  | .gte => some ">="
  | .lt => some "<"
  | .lte => some "<="
  | _ => none

def shape? : FilterOperator → Option LikeShape
  | .like => some .contains
  | .startsWith => some .startsWith
  | .endsWith => some .endsWith
  | _ => none

/-- How a column is compared with the members of a list. -/
def quantifier? : FilterOperator → Option (String × String)
  | .isIn => some ("=", "ANY")
  | .notIn => some ("<>", "ALL")
  | _ => none

/-- The operator can use the value, or needs none. -/
def Usable (value : Option Json) : FilterOperator → Prop
  | .isNull | .isNotNull => True
  | .eq | .neq | .gt | .gte | .lt | .lte => ∃ given, value = some given ∧ given.IsScalar
  | .like | .startsWith | .endsWith =>
    ∃ given, value = some given ∧ given.kind ∈ [.string, .number]
  | .isIn | .notIn => ∃ given, value = some given ∧
    (given.IsScalar ∨ ∃ items, given = .array items ∧ ∀ item ∈ items, item.IsScalar)

/-- The tokens say of the column what the operator asks with the value. -/
inductive Asks (field : String) : FilterOperator → Option Json → List Token → Prop where
  | isNull (value : Option Json) :
      Asks field .isNull value (spaced [[name field], [name "IS"], [name "NULL"]])
  | isNotNull (value : Option Json) :
      Asks field .isNotNull value (spaced [[name field], [name "IS"], [name "NOT"], [name "NULL"]])
  | compare {operator : FilterOperator} {sign : String} {value : Json} {literal : List Token}
      (hsign : operator.sign? = some sign) (hliteral : value.ReadAs literal) :
      Asks field operator (some value) (related [name field] sign literal)
  | like {operator : FilterOperator} {shape : LikeShape} {value : Json} {sql : String}
      {literal : List Token} (hshape : operator.shape? = some shape)
      (hpattern : likePattern? value shape = some sql) (hliteral : tokens? sql = some literal) :
      Asks field operator (some value) (spaced [[name field], [name "ILIKE"], literal])
  | member {operator : FilterOperator} {sign quantifier : String} {value : Json}
      {literals : List (List Token)} (hquantifier : operator.quantifier? = some (sign, quantifier))
      (hne : value.members ≠ []) (hliterals : List.Forall₂ Json.ReadAs value.members literals)
      (hapart : ∀ literal ∈ literals, ∀ c ∈ [',', '[', ']'], .mark c ∉ literal) :
      Asks field operator (some value) (related [name field] sign (applied quantifier
        (name "ARRAY" :: (.mark '[' :: listed literals ++ [.mark ']']))))
  | oneOfNone : Asks field .isIn (some (.array [])) [name "FALSE"]
  | noneOfNone : Asks field .notIn (some (.array [])) [name "TRUE"]

end FilterOperator

section Usable

theorem isSome_patternText?_iff {value : Json} :
    (patternText? value).isSome ↔ value.kind ∈ [.string, .number] := by
  cases value <;> simp [patternText?, Json.kind]

/-- The literals of a list are those of its members. -/
theorem FilterTest.items?_eq (value : Json) :
    FilterTest.items? value = value.members.mapM Literal.ofJson? := by
  cases value <;> simp [FilterTest.items?, Json.members, Option.map_eq_bind]

theorem FilterTest.isSome_items?_iff {value : Json} :
    (FilterTest.items? value).isSome ↔
      value.IsScalar ∨ ∃ items, value = .array items ∧ ∀ item ∈ items, item.IsScalar := by
  rw [FilterTest.items?_eq, Literal.isSome_mapM_ofJson?, List.all_eq_true]
  simp only [Literal.isSome_ofJson?_iff]
  cases value <;> simp [Json.members, Json.IsScalar, Json.kind]

/-- A parameter that a reader can use is one that is there. -/
theorem isSome_bind_iff {α β : Type} {value : Option α} {reader : α → Option β} :
    (value.bind reader).isSome ↔ ∃ given, value = some given ∧ (reader given).isSome := by
  cases value <;> simp

/-- There is a test exactly when the value can be used. -/
theorem FilterTest.isSome_of?_iff {operator : FilterOperator} {value : Option Json} :
    (FilterTest.of? operator value).isSome ↔ operator.Usable value := by
  cases operator <;>
    simp only [FilterTest.of?, FilterTest.of?.compareWith, FilterTest.of?.likeShape,
      FilterOperator.Usable, Option.isSome_map, Option.isSome_some, isSome_bind_iff,
      Literal.isSome_ofJson?_iff, isSome_patternText?_iff, FilterTest.isSome_items?_iff]

end Usable

section Asked

variable {field : String} {operator : FilterOperator} {value : Json}

theorem Json.ReadAs.of_ofJson? {literal : Literal} (h : Literal.ofJson? value = some literal) :
    value.ReadAs literal.tokens := by
  cases value with
  | string text =>
      cases h
      exact .string text
  | number value =>
      cases h
      exact .number (Literal.read_number value).1
  | bool truth =>
      cases h
      cases truth
      · exact .false
      · exact .true
  | null => cases h
  | array items => cases h
  | object members => cases h

/-- Outside of texts a literal has only the marks of numbers. -/
theorem Sql.Literal.mark_not_mem_tokens (literal : Literal) :
    ∀ c ∈ [',', '[', ']'], .mark c ∉ literal.tokens := by
  intro c hc hmem
  cases literal with
  | text value => simp [Literal.tokens] at hmem
  | truth value => cases value <;> simp [Literal.tokens, name] at hmem
  | number value =>
      have hmark := (Literal.read_number value).2.2.marks c hmem
      simp only [List.mem_cons, List.not_mem_nil, or_false] at hc
      rcases hc with rfl | rfl | rfl <;> exact absurd hmark (by decide)

/-- The members of a list have their literals, one for one. -/
theorem FilterTest.forall₂_of_items? {found : List Literal}
    (h : FilterTest.items? value = some found) :
    List.Forall₂ (fun item literal => Literal.ofJson? item = some literal) value.members found := by
  rw [FilterTest.items?_eq] at h
  exact mapM_eq_some_iff.mp h

theorem FilterTest.members_ne_nil {item : Literal} {rest : List Literal}
    (h : FilterTest.items? value = some (item :: rest)) : value.members ≠ [] := by
  intro hnil
  have hmembers := FilterTest.forall₂_of_items? h
  rw [hnil] at hmembers
  cases hmembers

theorem FilterTest.eq_array_nil (h : FilterTest.items? value = some []) : value = .array [] := by
  have hmembers := FilterTest.forall₂_of_items? h
  cases value with
  | array items =>
      cases hmembers
      rfl
  | _ => cases hmembers

/-- Literals are those of an empty list, or there is one at least. -/
theorem FilterTest.exists_items {value : Option Json} {build : List Literal → FilterTest}
    {test : FilterTest} (h : (value.bind FilterTest.items?).map build = some test) :
    (value = some (.array []) ∧ test = build []) ∨
      ∃ given item rest, value = some given ∧
        FilterTest.items? given = some (item :: rest) ∧ test = build (item :: rest) := by
  obtain ⟨found, hfound, rfl⟩ := Option.map_eq_some_iff.mp h
  obtain ⟨given, rfl, hgiven⟩ := Option.bind_eq_some_iff.mp hfound
  cases found with
  | nil => exact .inl ⟨congrArg some (FilterTest.eq_array_nil hgiven), rfl⟩
  | cons item rest => exact .inr ⟨given, item, rest, rfl, hgiven, rfl⟩

theorem asks_compare {comparison : Comparison} {value : Option Json} {test : FilterTest}
    (hsign : operator.sign? = some comparison.sign)
    (h : FilterTest.of?.compareWith value comparison = some test) :
    operator.Asks field value (Condition.testTokens field test) := by
  obtain ⟨literal, hliteral, rfl⟩ := Option.map_eq_some_iff.mp h
  obtain ⟨given, rfl, hgiven⟩ := Option.bind_eq_some_iff.mp hliteral
  exact .compare hsign (.of_ofJson? hgiven)

theorem asks_like {shape : LikeShape} {value : Option Json} {test : FilterTest}
    (hshape : operator.shape? = some shape)
    (h : FilterTest.of?.likeShape value shape = some test) :
    operator.Asks field value (Condition.testTokens field test) := by
  obtain ⟨text, htext, rfl⟩ := Option.map_eq_some_iff.mp h
  obtain ⟨given, rfl, hgiven⟩ := Option.bind_eq_some_iff.mp htext
  have hpattern : likePattern? given shape = some (quote (shape.pattern text)) := by
    rw [likePattern?, hgiven, Option.map_some]
  exact .like hshape hpattern (tokens?_quote _)

theorem asks_member {sign quantifier : String} {item : Literal} {rest : List Literal}
    (hquantifier : operator.quantifier? = some (sign, quantifier))
    (h : FilterTest.items? value = some (item :: rest)) :
    operator.Asks field (some value) (related [name field] sign
      (applied quantifier (Condition.arrayTokens (item :: rest)))) := by
  refine .member hquantifier (FilterTest.members_ne_nil h) ?_ ?_
  · rw [List.forall₂_map_right_iff]
    exact (FilterTest.forall₂_of_items? h).imp fun _ _ => .of_ofJson?
  · intro literal hliteral
    obtain ⟨source, -, rfl⟩ := List.mem_map.mp hliteral
    exact source.mark_not_mem_tokens

/-- The tokens of a test say what the operator asks with the value. -/
theorem asks_of_of? {value : Option Json} {test : FilterTest}
    (h : FilterTest.of? operator value = some test) :
    operator.Asks field value (Condition.testTokens field test) := by
  cases operator with
  | isNull =>
      cases h
      exact .isNull value
  | isNotNull =>
      cases h
      exact .isNotNull value
  | eq => exact asks_compare rfl h
  | neq => exact asks_compare rfl h
  | gt => exact asks_compare rfl h
  | gte => exact asks_compare rfl h
  | lt => exact asks_compare rfl h
  | lte => exact asks_compare rfl h
  | like => exact asks_like rfl h
  | startsWith => exact asks_like rfl h
  | endsWith => exact asks_like rfl h
  | isIn =>
      rcases FilterTest.exists_items h with ⟨rfl, rfl⟩ | ⟨_, _, _, rfl, hitems, rfl⟩
      · exact .oneOfNone
      · exact asks_member rfl hitems
  | notIn =>
      rcases FilterTest.exists_items h with ⟨rfl, rfl⟩ | ⟨_, _, _, rfl, hitems, rfl⟩
      · exact .noneOfNone
      · exact asks_member rfl hitems

end Asked

/-- A filter on a column has a condition exactly when its operator can use its value, and the
condition is read as what the operator asks with the value. -/
theorem filters_say_what_is_asked {field : String} (hfield : Identifier.isCanonical field)
    (operator : FilterOperator) (value : Option Json) :
    ((filterPredicate? field operator value).isSome ↔ operator.Usable value) ∧
      ∀ sql, filterPredicate? field operator value = some sql →
        ∃ tokens, tokens? sql = some tokens ∧ operator.Asks field value tokens := by
  constructor
  · rw [filterPredicate?, Option.isSome_map, FilterTest.isSome_of?_iff]
  · intro sql hsql
    obtain ⟨test, htest, rfl⟩ := Option.map_eq_some_iff.mp hsql
    have hplain := Plain.test (Identifier.isName_of_isCanonical hfield)
      (List.mem_singleton.mpr rfl) test
    refine ⟨Condition.testTokens field test, ?_, asks_of_of? htest⟩
    exact tokens?_eq_some_iff.mpr ⟨(Condition.textOf_testTokens field test).symm, hplain.spaced⟩

namespace Sample

/-- Members with the marks of lists and literals in them. -/
def awkwardMembers : List Json :=
  [.string "a', 'b]", .number (.integer (-5)), .bool true]

end Sample

/-- A list of awkward texts is one literal for each member, and one member that is no single value
is enough for there to be no condition. -/
theorem filters_say_what_is_asked_list :
    (∃ sql tokens, filterPredicate? "status" .isIn (some (.array Sample.awkwardMembers)) =
        some sql ∧ tokens? sql = some tokens ∧
        FilterOperator.isIn.Asks "status" (some (.array Sample.awkwardMembers)) tokens) ∧
      filterPredicate? "status" .isIn (some (.array (.null :: Sample.awkwardMembers))) = none := by
  have hfield : Identifier.isCanonical "status" := by decide
  constructor
  · obtain ⟨husable, hasked⟩ := filters_say_what_is_asked hfield .isIn
      (some (.array Sample.awkwardMembers))
    have hsome : FilterOperator.isIn.Usable (some (.array Sample.awkwardMembers)) :=
      ⟨_, rfl, .inr ⟨_, rfl, by simp [Sample.awkwardMembers, Json.IsScalar, Json.kind]⟩⟩
    obtain ⟨sql, hsql⟩ := Option.isSome_iff_exists.mp (husable.mpr hsome)
    obtain ⟨tokens, htokens, hasks⟩ := hasked sql hsql
    exact ⟨sql, tokens, hsql, htokens, hasks⟩
  · rfl

end TenantQuery
