import TenantQuery.Proofs.IntentReading
import TenantQuery.Proofs.Json.Kind
/-!
A member of a kind that is not read is as good as absent, with one exception.

For every name there are the kinds that are read under it.  Readers see a member only when it is
of such a kind, so two objects whose readable members are the same are the same intent.  The label
of an intent is the exception: a label that is no text is read as the empty one, and only an absent
label is the usual one.
-/

namespace TenantQuery

def Dictionary.without {α : Type} (entries : Dictionary α) (key : String) : Dictionary α :=
  entries.filter (·.1 != key)

theorem Dictionary.get?_without {α : Type} (entries : Dictionary α) (key other : String) :
    (entries.without key).get? other = if other = key then none else entries.get? other := by
  rw [without, Dictionary.get?_filter (· != key)]
  by_cases hother : other = key <;> simp [hother]

namespace Reading

/-- For every name the kinds of values that are read under it. -/
abbrev Kinds := Dictionary (List Json.Kind)

/-- What is found, when it is of a kind that is read. -/
def ofKind (known : List Json.Kind) (found : Option Json) : Option Json :=
  found.filter fun value => value.kind ∈ known

/-- What is found under a name is of none of the kinds that are read there. -/
def Misread (kinds : Kinds) (members : Dictionary Json) (name : String) : Prop :=
  ∃ known value, kinds.get? name = some known ∧ members.get? name = some value ∧
    value.kind ∉ known

def SameReadable (kinds : Kinds) (first second : Dictionary Json) : Prop :=
  ∀ name known, kinds.get? name = some known →
    ofKind known (first.get? name) = ofKind known (second.get? name)

/-- The same value, or two objects with the same readable values. -/
inductive SameElement (kinds : Kinds) : Json → Json → Prop where
  | refl (value : Json) : SameElement kinds value value
  | object {first second : Dictionary Json} (h : SameReadable kinds first second) :
      SameElement kinds (.object first) (.object second)

theorem forall₂_sameElement_refl (kinds : Kinds) (items : List Json) :
    List.Forall₂ (SameElement kinds) items items :=
  List.forall₂_same.mpr fun item _ => .refl item

/-- A record is made of the readable values of its fields. -/
def ReadsKinds {α : Type} (kinds : Kinds) (read : Dictionary Json → Noted α) : Prop :=
  ∀ {first second : Dictionary Json}, SameReadable kinds first second →
    (read first).1 = (read second).1

section Readers

variable (found : Option Json)

@[simp] theorem text_ofKind : text (ofKind [.string] found) = text found := by
  cases found with
  | none => rfl
  | some value => cases value <;> rfl

@[simp] theorem text?_ofKind : text? (ofKind [.string] found) = text? found := by
  cases found with
  | none => rfl
  | some value => cases value <;> rfl

@[simp] theorem integer?_ofKind : integer? (ofKind [.number] found) = integer? found := by
  cases found with
  | none => rfl
  | some value => cases value <;> rfl

@[simp] theorem value?_ofKind :
    value? (ofKind [.bool, .number, .string, .array, .object] found) = value? found := by
  cases found with
  | none => rfl
  | some value => cases value <;> rfl

/-- Another kind is noted, and the fallback stands in as it does for nothing at all. -/
@[simp] theorem word_ofKind (α : Type) [Vocabulary α] :
    (word α (ofKind [.string] found)).1 = (word α found).1 := by
  cases found with
  | none => rfl
  | some value => cases value <;> rfl

@[simp] theorem word?_ofKind (α : Type) [Vocabulary α] :
    word? α (ofKind [.string] found) = word? α found := by
  rw [word?, text?_ofKind, word?]

@[simp] theorem elements_ofKind : elements (ofKind [.array] found) = elements found := by
  cases found with
  | none => rfl
  | some value => cases value <;> rfl

@[simp] theorem readMember_ofKind :
    TimeFilter.readMember (ofKind [.object] found) = TimeFilter.readMember found := by
  cases found with
  | none => rfl
  | some value => cases value <;> rfl

end Readers

theorem Misread.ofKind_eq_none {kinds : Kinds} {members : Dictionary Json} {name : String}
    (h : Misread kinds members name) {known : List Json.Kind}
    (hknown : kinds.get? name = some known) : ofKind known (members.get? name) = none := by
  obtain ⟨given, value, hgiven, hvalue, hkind⟩ := h
  obtain rfl : given = known := Option.some_inj.mp (hgiven.symm.trans hknown)
  simp [ofKind, hvalue, hkind]

/-- Taking out a member that is not read leaves the readable values as they are. -/
theorem Misread.sameReadable {kinds : Kinds} {members : Dictionary Json} {name : String}
    (h : Misread kinds members name) : SameReadable kinds members (members.without name) := by
  intro other known hknown
  rw [Dictionary.get?_without]
  split
  · rename_i heq
    subst heq
    rw [h.ofKind_eq_none hknown]
    rfl
  · rfl

/-- Of two lists the records are the same when their elements are, one for one. -/
theorem recordsOf_congr {α : Type} {kinds : Kinds} {read : Dictionary Json → Noted α}
    (hread : ReadsKinds kinds read) (names : List String) {first second : Option Json}
    (h : List.Forall₂ (SameElement kinds) (elements first) (elements second)) :
    recordsOf names read first = recordsOf names read second := by
  unfold recordsOf
  generalize elements first = items, elements second = others at h ⊢
  induction h with
  | nil => rfl
  | cons hhead _ ih =>
      cases hhead with
      | refl => simp only [List.filter_cons, apply_ite (List.map _), List.map_cons, ih]
      | @object fields others hsame =>
          have hhead : (read (namedFields names (.object fields))).1 =
              (read (namedFields names (.object others))).1 := hread hsame
          rw [List.filter_cons_of_pos rfl, List.filter_cons_of_pos rfl, List.map_cons,
            List.map_cons, hhead, ih]

end Reading

open Reading

def Metric.kinds : Kinds :=
  [("field", [.string]), ("aggregate", [.string]), ("alias", [.string])]

def Dimension.kinds : Kinds :=
  [("field", [.string]), ("granularity", [.string]), ("alias", [.string])]

/-- The kinds that are read in a filter: a value may be anything but null. -/
def Filter.kinds : Kinds :=
  [("field", [.string]), ("operator", [.string]),
    ("value", [.bool, .number, .string, .array, .object])]

def OrderSpec.kinds : Kinds :=
  [("field", [.string]), ("direction", [.string])]

def TimeFilter.kinds : Kinds :=
  [("type", [.string]), ("month", [.number]), ("n", [.number]), ("dateFrom", [.string]),
    ("dateTo", [.string]), ("dateField", [.string])]

def Intent.kinds : Kinds :=
  [("queryType", [.string]), ("table", [.string]), ("metrics", [.array]),
    ("dimensions", [.array]), ("timeFilter", [.object]), ("filters", [.array]),
    ("orderBy", [.array]), ("limit", [.number]), ("chartType", [.string]),
    ("chartTitle", [.string]), ("explanation", [.string])]

/-- The lists of an intent, with the kinds that are read in their elements. -/
def Intent.elementKinds : Dictionary Kinds :=
  [("metrics", Metric.kinds), ("dimensions", Dimension.kinds), ("filters", Filter.kinds),
    ("orderBy", OrderSpec.kinds)]

/-- One member of a kind that is not read is taken out of an object: a member of its own, one of an
object in one of its lists, or one of its time filter. -/
inductive Intent.Omits (members : Dictionary Json) : Dictionary Json → Prop where
  | member {name : String} (h : Misread Intent.kinds members name) :
      Omits members (members.without name)
  | element {list name : String} {kinds : Kinds} {before after : List Json}
      {fields : Dictionary Json} (hlist : Intent.elementKinds.get? list = some kinds)
      (hfound : members.get? list = some (.array (before ++ .object fields :: after)))
      (h : Misread kinds fields name) :
      Omits members
        (members.insert list (.array (before ++ .object (fields.without name) :: after)))
  | timeFilter {name : String} {fields : Dictionary Json}
      (hfound : members.get? "timeFilter" = some (.object fields))
      (h : Misread TimeFilter.kinds fields name) :
      Omits members (members.insert "timeFilter" (.object (fields.without name)))

/-- The names of the members of an intent that are neither lists nor records, but for the label. -/
def Intent.scalarNames : List String :=
  ["table", "limit", "chartType", "chartTitle", "explanation"]

/-- Two objects with the same readable values everywhere, whatever their labels are. -/
structure Intent.SameReadable (first second : Dictionary Json) : Prop where
  scalars : ∀ name ∈ Intent.scalarNames, ∀ known, Intent.kinds.get? name = some known →
    ofKind known (first.get? name) = ofKind known (second.get? name)
  lists : ∀ list kinds, Intent.elementKinds.get? list = some kinds →
    List.Forall₂ (SameElement kinds) (elements (first.get? list)) (elements (second.get? list))
  timeFilter : (TimeFilter.readMember (first.get? "timeFilter")).1 =
    (TimeFilter.readMember (second.get? "timeFilter")).1

section Records

/-- A reader that sees only the readable values gives the same for values that agree on them. -/
theorem Reading.congr_ofKind {β : Type} {reader : Option Json → β} {known : List Json.Kind}
    (hreader : ∀ found, reader (ofKind known found) = reader found) {first second : Option Json}
    (h : ofKind known first = ofKind known second) : reader first = reader second := by
  rw [← hreader first, h, hreader]

theorem Reading.word_congr (α : Type) [Vocabulary α] {first second : Option Json}
    (h : ofKind [.string] first = ofKind [.string] second) :
    (word α first).1 = (word α second).1 := by
  rw [← word_ofKind first, h, word_ofKind second]

theorem Metric.readsKinds : ReadsKinds Metric.kinds Metric.read := by
  intro first second h
  have hfield := congr_ofKind text_ofKind (h "field" _ rfl)
  have haggregate := word_congr Aggregate (h "aggregate" _ rfl)
  have hname := congr_ofKind text?_ofKind (h "alias" _ rfl)
  simp only [Metric.read, hfield, haggregate, hname]

theorem Dimension.readsKinds : ReadsKinds Dimension.kinds Dimension.read := by
  intro first second h
  have hfield := congr_ofKind text_ofKind (h "field" _ rfl)
  have hunit := congr_ofKind (fun found => word?_ofKind found Granularity) (h "granularity" _ rfl)
  have hname := congr_ofKind text?_ofKind (h "alias" _ rfl)
  simp only [Dimension.read, hfield, hunit, hname]

theorem Filter.readsKinds : ReadsKinds Filter.kinds Filter.read := by
  intro first second h
  have hfield := congr_ofKind text_ofKind (h "field" _ rfl)
  have hoperator := word_congr FilterOperator (h "operator" _ rfl)
  have hvalue := congr_ofKind value?_ofKind (h "value" _ rfl)
  simp only [Filter.read, hfield, hoperator, hvalue]

theorem OrderSpec.readsKinds : ReadsKinds OrderSpec.kinds OrderSpec.read := by
  intro first second h
  have hfield := congr_ofKind text_ofKind (h "field" _ rfl)
  have hdirection := word_congr SortDirection (h "direction" _ rfl)
  simp only [OrderSpec.read, hfield, hdirection]

theorem TimeFilter.readsKinds : ReadsKinds TimeFilter.kinds TimeFilter.read := by
  intro first second h
  have hkind := word_congr WindowKind (h "type" _ rfl)
  have hmonth := congr_ofKind integer?_ofKind (h "month" _ rfl)
  have hcount := congr_ofKind integer?_ofKind (h "n" _ rfl)
  have hfirst := congr_ofKind text?_ofKind (h "dateFrom" _ rfl)
  have hlast := congr_ofKind text?_ofKind (h "dateTo" _ rfl)
  have hfield := congr_ofKind text?_ofKind (h "dateField" _ rfl)
  simp only [TimeFilter.read, hkind, hmonth, hcount, hfirst, hlast, hfield]

end Records

namespace Intent

/-- Objects with the same readable values are the same intent but for the label. -/
theorem SameReadable.read_eq {first second : Dictionary Json}
    (h : Intent.SameReadable first second) :
    (Intent.read first).1 =
      { (Intent.read second).1 with queryType := readQueryType (first.get? "queryType") } := by
  have htable := congr_ofKind text_ofKind (h.scalars "table" (by decide) _ rfl)
  have hlimit := congr_ofKind integer?_ofKind (h.scalars "limit" (by decide) _ rfl)
  have hchart := word_congr ChartType (h.scalars "chartType" (by decide) _ rfl)
  have htitle := congr_ofKind text?_ofKind (h.scalars "chartTitle" (by decide) _ rfl)
  have hremark := congr_ofKind text?_ofKind (h.scalars "explanation" (by decide) _ rfl)
  have hmetrics := recordsOf_congr Metric.readsKinds Metric.fieldNames (h.lists "metrics" _ rfl)
  have hdimensions := recordsOf_congr Dimension.readsKinds Dimension.fieldNames
    (h.lists "dimensions" _ rfl)
  have hfilters := recordsOf_congr Filter.readsKinds Filter.fieldNames (h.lists "filters" _ rfl)
  have horder := recordsOf_congr OrderSpec.readsKinds OrderSpec.fieldNames
    (h.lists "orderBy" _ rfl)
  simp only [Intent.read, list_eq, htable, hlimit, hchart, htitle, hremark, hmetrics, hdimensions,
    hfilters, horder, h.timeFilter]

theorem scalarNames_not_list : ∀ name ∈ scalarNames, elementKinds.get? name = none := by
  decide

theorem kinds_of_list {list : String} {kinds : Kinds} (h : elementKinds.get? list = some kinds) :
    Intent.kinds.get? list = some [.array] := by
  have hall : ∀ entry ∈ elementKinds, Intent.kinds.get? entry.1 = some [.array] := by decide
  obtain ⟨before, after, hsplit, -⟩ := List.lookup_eq_some_iff.mp h
  exact hall (list, kinds) (by simp [hsplit])

/-- Taking out what is not read leaves the readable values as they are. -/
theorem Omits.sameReadable {members others : Dictionary Json} (h : Omits members others) :
    Intent.SameReadable members others := by
  cases h with
  | member h =>
      refine ⟨fun name _ known hknown => h.sameReadable name known hknown, ?_, ?_⟩
      · intro list kinds hlist
        have hsame := congr_ofKind elements_ofKind (h.sameReadable list _ (kinds_of_list hlist))
        rw [hsame]
        exact forall₂_sameElement_refl _ _
      · rw [congr_ofKind readMember_ofKind (h.sameReadable "timeFilter" _ rfl)]
  | @element list name kinds before after fields hlist hfound h =>
      refine ⟨?_, ?_, ?_⟩
      · intro scalar hscalar known _
        have hne : scalar ≠ list := by
          rintro rfl
          rw [scalarNames_not_list scalar hscalar] at hlist
          cases hlist
        rw [Dictionary.get?_insert_of_ne hne]
      · intro other given hgiven
        by_cases hsame : other = list
        · subst hsame
          obtain rfl : kinds = given := Option.some_inj.mp (hlist.symm.trans hgiven)
          rw [Dictionary.get?_insert_self, hfound]
          -- Only the one object is another, and what is taken out of it is not read.
          exact List.rel_append (forall₂_sameElement_refl _ _)
            (.cons (.object h.sameReadable) (forall₂_sameElement_refl _ _))
        · rw [Dictionary.get?_insert_of_ne hsame]
          exact forall₂_sameElement_refl _ _
      · have hne : "timeFilter" ≠ list := by
          rintro rfl
          cases hlist
        rw [Dictionary.get?_insert_of_ne hne]
  | timeFilter hfound h =>
      refine ⟨?_, ?_, ?_⟩
      · intro scalar hscalar known _
        have hne : scalar ≠ "timeFilter" := ne_of_mem_of_not_mem hscalar (by decide)
        rw [Dictionary.get?_insert_of_ne hne]
      · intro list kinds hlist
        have hne : list ≠ "timeFilter" := by
          rintro rfl
          cases hlist
        rw [Dictionary.get?_insert_of_ne hne]
        exact forall₂_sameElement_refl _ _
      · rw [Dictionary.get?_insert_self, hfound]
        exact congrArg some (TimeFilter.readsKinds h.sameReadable)

/-- The label stays what it is, or it is what was taken out. -/
theorem Omits.label {members others : Dictionary Json} (h : Omits members others) :
    members.get? "queryType" = others.get? "queryType" ∨
      Misread Intent.kinds members "queryType" ∧ others.get? "queryType" = none := by
  cases h with
  | @member name h =>
      rw [Dictionary.get?_without]
      by_cases hname : "queryType" = name
      · subst hname
        exact .inr ⟨h, if_pos rfl⟩
      · exact .inl (if_neg hname).symm
  | @element list name kinds before after fields hlist hfound h =>
      have hne : "queryType" ≠ list := by
        rintro rfl
        cases hlist
      exact .inl (Dictionary.get?_insert_of_ne hne _ _).symm
  | timeFilter hfound h => exact .inl (Dictionary.get?_insert_of_ne (by decide) _ _).symm

theorem readQueryType_of_misread {members : Dictionary Json}
    (h : Misread Intent.kinds members "queryType") :
    readQueryType (members.get? "queryType") = "" := by
  have htext := text_ofKind (members.get? "queryType")
  rw [h.ofKind_eq_none rfl] at htext
  obtain ⟨-, value, -, hvalue, -⟩ := h
  rw [hvalue] at htext ⊢
  exact htext.symm

end Intent

/-- An object and the object without a member of a kind that is not read are the same intent,
wherever the member is.  Only when it is the label are the two labels different: the empty one and
the usual one. -/
theorem wrong_kinds_read_as_absent {members others : Dictionary Json}
    (h : Intent.Omits members others) :
    (members.get? "queryType" = others.get? "queryType" →
      (Intent.read members).1 = (Intent.read others).1) ∧
    (members.get? "queryType" ≠ others.get? "queryType" →
      (Intent.read members).1 = { (Intent.read others).1 with queryType := "" } ∧
        (Intent.read others).1.queryType = "sales_summary") := by
  have hread := h.sameReadable.read_eq
  constructor
  · intro hlabel
    rw [hread, hlabel]
    rfl
  · intro hlabel
    obtain ⟨hmisread, habsent⟩ := h.label.resolve_left hlabel
    rw [Intent.readQueryType_of_misread hmisread] at hread
    refine ⟨hread, ?_⟩
    change Intent.readQueryType (others.get? "queryType") = "sales_summary"
    rw [habsent]
    rfl

namespace Sample

/-- A metric whose output name is no text. -/
def flaggedMetric : Dictionary Json :=
  [("alias", .bool true), ("field", .string "amount")]

/-- An object with members that are not read, one of them within a list. -/
def misreadMembers : Dictionary Json :=
  [("limit", .string "100"), ("metrics", .array [.null, .object flaggedMetric]),
    ("queryType", .number (.integer 5))]

end Sample

theorem wrong_kinds_read_as_absent_metric :
    (Intent.read Sample.misreadMembers).1 =
      (Intent.read (Sample.misreadMembers.insert "metrics"
        (.array [.null, .object [("field", .string "amount")]]))).1 ∧
    (Intent.read Sample.misreadMembers).1 =
      { (Intent.read (Sample.misreadMembers.without "queryType")).1 with queryType := "" } := by
  have hmetric : Misread Metric.kinds Sample.flaggedMetric "alias" :=
    ⟨[.string], .bool true, rfl, rfl, by decide⟩
  have hlabel : Misread Intent.kinds Sample.misreadMembers "queryType" :=
    ⟨[.string], .number (.integer 5), rfl, rfl, by decide⟩
  have helement : Intent.Omits Sample.misreadMembers (Sample.misreadMembers.insert "metrics"
      (.array ([.null] ++ .object (Sample.flaggedMetric.without "alias") :: []))) :=
    .element rfl rfl hmetric
  constructor
  · exact (wrong_kinds_read_as_absent helement).1
      (Dictionary.get?_insert_of_ne (by decide) _ _).symm
  · refine ((wrong_kinds_read_as_absent (.member hlabel)).2 ?_).1
    rw [Dictionary.get?_without, if_pos rfl]
    nofun

/-- A label that is no text is read as the empty label, and without it the label is the usual
one. -/
theorem wrong_kind_label_read :
    Intent.Omits [("queryType", .number (.integer 5))] [] ∧
      (Intent.read [("queryType", .number (.integer 5))]).1.queryType = "" ∧
      (Intent.read []).1.queryType = "sales_summary" := by
  have hlabel : Misread Intent.kinds [("queryType", .number (.integer 5))] "queryType" :=
    ⟨[.string], .number (.integer 5), rfl, rfl, by decide⟩
  exact ⟨.member hlabel, rfl, rfl⟩

end TenantQuery
