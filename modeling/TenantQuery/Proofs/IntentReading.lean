import TenantQuery.Intent.Reading
import Mathlib.Data.List.Forall2
/-!
Every object is an intent, and of its lists nothing is lost but what is no record.

An element counts as a record by its kind alone, an array also by its length, so no content of an
element and nothing beside it takes it from the list.  What stands under names that nobody asks for
makes no difference anywhere.
-/

namespace TenantQuery

namespace Reading

/-- The elements of a list; any other kind has none. -/
def elements : Option Json → List Json
  | some (.array items) => items
  | _ => []

/-- An element that is an object, or an array with no more items than there are names. -/
def isRecord (names : List String) : Json → Bool
  | .object _ => true
  | .array items => items.length ≤ names.length
  | _ => false

/-- The fields of a record; those of an array have the names in order. -/
def namedFields (names : List String) : Json → Dictionary Json
  | .object members => members
  | .array items => names.zip items
  | _ => []

/-- The records of a list in their order, each read by itself. -/
def recordsOf {α : Type} (names : List String) (read : Dictionary Json → Noted α)
    (member : Option Json) : List α :=
  ((elements member).filter (isRecord names)).map fun element =>
    (read (namedFields names element)).1

/-- The number of elements that are no records. -/
def unreadable (names : List String) (member : Option Json) : Nat :=
  (elements member).countP fun element => !isRecord names element

/-- The message of the entry about elements that are no records. -/
def skipMessage : String := "skipped unreadable list elements"

/-- The entries about skipped elements among those that reading leaves. -/
def skips (notes : List ReadingNote) : List LogEntry :=
  (notes.map ReadingNote.entry).filter (·.message == skipMessage)

/-- One entry about a list with so many unreadable elements, and none without any. -/
def skipEntries (count : Nat) : List LogEntry :=
  if count = 0 then [] else [⟨.debug, skipMessage, [("skipped", toString count)]⟩]

def AgreeOn (names : List String) (first second : Dictionary Json) : Prop :=
  ∀ name ∈ names, first.get? name = second.get? name

/-- The same value, or two objects that differ under other names only. -/
inductive SameRecord (names : List String) : Json → Json → Prop where
  | refl (value : Json) : SameRecord names value value
  | object {first second : Dictionary Json} (h : AgreeOn names first second) :
      SameRecord names (.object first) (.object second)

/-- The same value, or two lists whose elements differ under other names only. -/
inductive SameList (names : List String) : Option Json → Option Json → Prop where
  | refl (member : Option Json) : SameList names member member
  | array {first second : List Json} (h : List.Forall₂ (SameRecord names) first second) :
      SameList names (some (.array first)) (some (.array second))

/-- Fields are read by these names only, and reading them skips nothing. -/
structure ReadsOnly {α : Type} (names : List String) (read : Dictionary Json → Noted α) :
    Prop where
  congr : ∀ {first second : Dictionary Json}, AgreeOn names first second →
    read first = read second
  quiet : ∀ fields, skips (read fields).2 = []

@[simp] theorem skips_append (first second : List ReadingNote) :
    skips (first ++ second) = skips first ++ skips second := by
  simp [skips]

/-- It makes no difference what is put under a name that is not asked for. -/
theorem AgreeOn.insert {names : List String} {name : String} (h : name ∉ names)
    (first second : Json) (fields : Dictionary Json) :
    AgreeOn names (fields.insert name first) (fields.insert name second) := by
  intro known hknown
  have hne : known ≠ name := ne_of_mem_of_not_mem hknown h
  rw [Dictionary.get?_insert_of_ne hne, Dictionary.get?_insert_of_ne hne]

section Words

variable {α : Type} [Vocabulary α]

@[simp] theorem skips_fallbackWord : skips (fallbackWord α).2 = [] := by
  simp [fallbackWord, skips, ReadingNote.entry, skipMessage]

@[simp] theorem skips_word (found : Option Json) : skips (word α found).2 = [] := by
  unfold word
  split
  · rfl
  · split
    · rfl
    · exact skips_fallbackWord
  · exact skips_fallbackWord

@[simp] theorem skips_word? (found : Option Json) : skips (word? α found).2 = [] := by
  unfold word?
  split
  · rfl
  · split
    · rfl
    · exact skips_fallbackWord

end Words

section Lists

variable {α : Type} {names : List String} {read : Dictionary Json → Noted α}

theorem record?_fst (element : Json) :
    (record? names read element).1 =
      if isRecord names element then some (read (namedFields names element)).1 else none := by
  cases element with
  | array items =>
      by_cases h : items.length ≤ names.length <;>
        simp [record?, fields?, isRecord, namedFields, h]
  | _ => rfl

theorem skips_record? (hread : ReadsOnly names read) (element : Json) :
    skips (record? names read element).2 = [] := by
  unfold record?
  split
  · rfl
  · exact hread.quiet _

theorem record?_congr (hread : ReadsOnly names read) {first second : Json}
    (h : SameRecord names first second) :
    record? names read first = record? names read second := by
  cases h with
  | refl => rfl
  | object hagree => simp only [record?, fields?, hread.congr hagree]

theorem records_eq (read? : Json → Noted (Option α)) (items : List Json) :
    records read? items =
      (items.filterMap fun element => (read? element).1,
        items.countP fun element => (read? element).1.isNone,
        items.flatMap fun element => (read? element).2) := by
  induction items with
  | nil => rfl
  | cons element rest ih =>
      cases hfound : (read? element).1 <;> simp [records, ih, hfound]

theorem records_congr {read? : Json → Noted (Option α)} {R : Json → Json → Prop}
    (hread : ∀ first second, R first second → read? first = read? second)
    {first second : List Json} (h : List.Forall₂ R first second) :
    records read? first = records read? second := by
  induction h with
  | nil => rfl
  | cons hhead _ ih => simp only [records, hread _ _ hhead, ih]

/-- A list is read as its records, and the others are noted together. -/
theorem list_eq (names : List String) (read : Dictionary Json → Noted α)
    (member : Option Json) :
    list (record? names read) member =
      (recordsOf names read member,
        ((elements member).flatMap fun element => (record? names read element).2) ++
          if unreadable names member = 0 then []
          else [.elementsSkipped (unreadable names member)]) := by
  have hnone : ∀ element, (record? names read element).1.isNone = !isRecord names element := by
    intro element
    rw [record?_fst]
    split <;> simp_all
  cases member with
  | none => rfl
  | some value =>
      cases value with
      | array items =>
          simp only [list, records_eq, hnone, recordsOf, unreadable, elements]
          simp only [record?_fst, ← List.filterMap_filter, List.filterMap_eq_map']
          rfl
      | _ => rfl

theorem skips_elementsSkipped (count : Nat) :
    skips (if count = 0 then [] else [.elementsSkipped count]) = skipEntries count := by
  unfold skipEntries
  split
  · rfl
  · simp [skips, ReadingNote.entry, skipMessage]

/-- Elements that are no records are reported together. -/
theorem skips_list (hread : ReadsOnly names read) (member : Option Json) :
    skips (list (record? names read) member).2 = skipEntries (unreadable names member) := by
  have hquiet : ∀ items : List Json,
      skips (items.flatMap fun element => (record? names read element).2) = [] := by
    intro items
    induction items with
    | nil => rfl
    | cons element rest ih => simp [ih, skips_record? hread]
  rw [list_eq, skips_append, hquiet, skips_elementsSkipped, List.nil_append]

theorem list_congr (hread : ReadsOnly names read) {first second : Option Json}
    (h : SameList names first second) :
    list (record? names read) first = list (record? names read) second := by
  cases h with
  | refl => rfl
  | array helements =>
      have hrecords := records_congr (R := SameRecord names)
        (fun _ _ => record?_congr hread) helements
      simp only [list, hrecords]

end Lists

end Reading

open Reading

theorem Metric.readsOnly : ReadsOnly Metric.fieldNames Metric.read where
  congr h := by
    simp only [AgreeOn, Metric.fieldNames, List.forall_mem_cons] at h
    simp only [Metric.read, h]
  quiet fields := skips_word (α := Aggregate) (fields.get? "aggregate")

theorem Dimension.readsOnly : ReadsOnly Dimension.fieldNames Dimension.read where
  congr h := by
    simp only [AgreeOn, Dimension.fieldNames, List.forall_mem_cons] at h
    simp only [Dimension.read, h]
  quiet fields := skips_word? (α := Granularity) (fields.get? "granularity")

theorem Filter.readsOnly : ReadsOnly Filter.fieldNames Filter.read where
  congr h := by
    simp only [AgreeOn, Filter.fieldNames, List.forall_mem_cons] at h
    simp only [Filter.read, h]
  quiet fields := skips_word (α := FilterOperator) (fields.get? "operator")

theorem OrderSpec.readsOnly : ReadsOnly OrderSpec.fieldNames OrderSpec.read where
  congr h := by
    simp only [AgreeOn, OrderSpec.fieldNames, List.forall_mem_cons] at h
    simp only [OrderSpec.read, h]
  quiet fields := skips_word (α := SortDirection) (fields.get? "direction")

theorem TimeFilter.readsOnly : ReadsOnly TimeFilter.fieldNames TimeFilter.read where
  congr h := by
    simp only [AgreeOn, TimeFilter.fieldNames, List.forall_mem_cons] at h
    simp only [TimeFilter.read, h]
  quiet fields := skips_word (α := WindowKind) (fields.get? "type")

theorem TimeFilter.skips_readMember (member : Option Json) :
    skips (TimeFilter.readMember member).2 = [] := by
  unfold TimeFilter.readMember
  split
  · exact TimeFilter.readsOnly.quiet _
  · rfl

theorem TimeFilter.readMember_congr {first second : Option Json}
    (h : Option.Rel (SameRecord TimeFilter.fieldNames) first second) :
    TimeFilter.readMember first = TimeFilter.readMember second := by
  cases h with
  | none => rfl
  | some hsame =>
      cases hsame with
      | refl => rfl
      | object hagree => simp only [TimeFilter.readMember, TimeFilter.readsOnly.congr hagree]

/-- The names of the members of an intent that are neither lists nor records. -/
def Intent.plainNames : List String :=
  ["queryType", "table", "limit", "chartType", "chartTitle", "explanation"]

/-- Two objects that differ only under names that are not asked for, be it their own, those of the
elements of a list or those of the time filter. -/
structure Intent.SameKnown (first second : Dictionary Json) : Prop where
  plain : AgreeOn Intent.plainNames first second
  metrics : SameList Metric.fieldNames (first.get? "metrics") (second.get? "metrics")
  dimensions : SameList Dimension.fieldNames (first.get? "dimensions") (second.get? "dimensions")
  filters : SameList Filter.fieldNames (first.get? "filters") (second.get? "filters")
  orderBy : SameList OrderSpec.fieldNames (first.get? "orderBy") (second.get? "orderBy")
  timeFilter : Option.Rel (SameRecord TimeFilter.fieldNames) (first.get? "timeFilter")
    (second.get? "timeFilter")

/-- The lists of an intent are the records of the lists of an object, and for each list that has
other elements there is one entry that says how many. -/
structure Intent.ListsReadFrom (members : Dictionary Json) (intent : Intent)
    (notes : List ReadingNote) : Prop where
  metrics : intent.metrics = recordsOf Metric.fieldNames Metric.read (members.get? "metrics")
  dimensions : intent.dimensions =
    recordsOf Dimension.fieldNames Dimension.read (members.get? "dimensions")
  filters : intent.filters = recordsOf Filter.fieldNames Filter.read (members.get? "filters")
  orderBy : intent.orderBy =
    recordsOf OrderSpec.fieldNames OrderSpec.read (members.get? "orderBy")
  skips : skips notes =
    skipEntries (unreadable Dimension.fieldNames (members.get? "dimensions")) ++
    skipEntries (unreadable Filter.fieldNames (members.get? "filters")) ++
    skipEntries (unreadable Metric.fieldNames (members.get? "metrics")) ++
    skipEntries (unreadable OrderSpec.fieldNames (members.get? "orderBy"))

theorem Intent.listsReadFrom_read (members : Dictionary Json) :
    Intent.ListsReadFrom members (Intent.read members).1 (Intent.read members).2 where
  metrics := by simp only [Intent.read, list_eq]
  dimensions := by simp only [Intent.read, list_eq]
  filters := by simp only [Intent.read, list_eq]
  orderBy := by simp only [Intent.read, list_eq]
  skips := by
    simp only [Intent.read, skips_append, skips_word, skips_list Metric.readsOnly,
      skips_list Dimension.readsOnly, skips_list Filter.readsOnly, skips_list OrderSpec.readsOnly,
      TimeFilter.skips_readMember, List.nil_append, List.append_nil]

theorem Intent.read_congr {first second : Dictionary Json} (h : Intent.SameKnown first second) :
    Intent.read first = Intent.read second := by
  have hplain := h.plain
  simp only [AgreeOn, Intent.plainNames, List.forall_mem_cons] at hplain
  simp only [Intent.read, hplain, list_congr Metric.readsOnly h.metrics,
    list_congr Dimension.readsOnly h.dimensions, list_congr Filter.readsOnly h.filters,
    list_congr OrderSpec.readsOnly h.orderBy, TimeFilter.readMember_congr h.timeFilter]

/-- The values that can be read as an intent are the objects, and the intent of an object has the
records of its lists in their order, whatever is in them.  Names that are not asked for change
neither the intent nor what is noted. -/
theorem objects_are_intents :
    (∀ value, (Intent.ofJson? value).isSome ↔ ∃ members, value = .object members) ∧
    ∀ members, ∃ intent notes, Intent.ofJson? (.object members) = some (intent, notes) ∧
      intent.ListsReadFrom members notes ∧
      ∀ others, Intent.SameKnown members others →
        Intent.ofJson? (.object others) = some (intent, notes) := by
  constructor
  · intro value
    cases value with
    | object members => simp [Intent.ofJson?]
    | _ => simp [Intent.ofJson?]
  · intro members
    refine ⟨(Intent.read members).1, (Intent.read members).2, rfl,
      Intent.listsReadFrom_read members, ?_⟩
    intro others hsame
    rw [Intent.ofJson?, ← Intent.read_congr hsame]

namespace Sample

/-- An object with two metrics that can be read and two elements that cannot, with the same value
under three names that are not asked for. -/
def looseMembers (noise : Json) : Dictionary Json :=
  [("dimensions", .string "region"),
    ("metrics", .array
      [.array [.string "amount", .string "MAX"], .number (.integer 7),
        .object (Dictionary.insert "hint" noise
          [("alias", .bool true), ("field", .string "amount")]),
        .array [.null, .null, .null, .null]]),
    ("remark", noise),
    ("timeFilter", .object (Dictionary.insert "hint" noise [("type", .string "today")]))]

theorem sameKnown_looseMembers (first second : Json) :
    Intent.SameKnown (looseMembers first) (looseMembers second) where
  plain := by simp [AgreeOn, Intent.plainNames, looseMembers, Dictionary.get?, List.lookup_cons]
  metrics := by
    have hhint : "hint" ∉ Metric.fieldNames := by decide
    have hmetric := AgreeOn.insert hhint first second
      [("alias", .bool true), ("field", .string "amount")]
    exact .array (.cons (.refl _) (.cons (.refl _) (.cons (.object hmetric)
      (.cons (.refl _) .nil))))
  dimensions := .refl _
  filters := .refl _
  orderBy := .refl _
  timeFilter := by
    have hhint : "hint" ∉ TimeFilter.fieldNames := by decide
    exact .some (.object (AgreeOn.insert hhint first second [("type", .string "today")]))

end Sample

theorem objects_are_intents_loose :
    Intent.ofJson? (.object (Sample.looseMembers (.string "ignored"))) =
      Intent.ofJson? (.object (Sample.looseMembers .null)) ∧
    ∃ intent notes, Intent.ofJson? (.object (Sample.looseMembers .null)) = some (intent, notes) ∧
      intent.metrics = [{ field := "amount", aggregate := .max }, { field := "amount" }] ∧
      intent.dimensions = [] ∧
      skips notes = [⟨.debug, skipMessage, [("skipped", "2")]⟩] := by
  obtain ⟨intent, notes, hread, hlists, hsame⟩ :=
    objects_are_intents.2 (Sample.looseMembers .null)
  refine ⟨?_, intent, notes, hread, ?_, hlists.dimensions, ?_⟩
  · rw [hread]
    exact hsame _ (Sample.sameKnown_looseMembers .null (.string "ignored"))
  · rw [hlists.metrics]
    decide +kernel
  · rw [hlists.skips]
    decide +kernel

end TenantQuery
