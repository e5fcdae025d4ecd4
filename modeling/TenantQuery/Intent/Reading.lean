import TenantQuery.Intent.Basic
import TenantQuery.Log
/-!
Reading an intent from a JSON object, leniently.

An intent comes from a language model, so no content of an object makes it unreadable: a field
of the wrong kind reads as if it were absent, an unknown word of a vocabulary reads as the
fallback, and an element of a list that is no record is skipped.  Every word that was replaced
and every list that was shortened leaves a note, in the byte order of the keys.
-/

namespace TenantQuery

/-- Something that reading passed over. -/
inductive ReadingNote where
  /-- A value that is no word of its vocabulary reads as this word. -/
  | wordReplaced (fallback : String)
  /-- So many elements of a list are no records. -/
  | elementsSkipped (count : Nat)
deriving DecidableEq

def ReadingNote.entry : ReadingNote → LogEntry
  | .wordReplaced fallback =>
    ⟨.debug, "unrecognized vocabulary value; using default", [("fallback", fallback)]⟩
  | .elementsSkipped count =>
    ⟨.debug, "skipped unreadable list elements", [("skipped", toString count)]⟩

namespace Reading

/-- What was read, and the notes on the way to it. -/
abbrev Noted (α : Type) := α × List ReadingNote

/-- A text; any other kind reads as the empty text. -/
def text : Option Json → String
  | some (.string value) => value
  | _ => ""

/-- A text that is not blank, as it is. -/
def text? : Option Json → Option String
  | some (.string value) => if Text.isBlankText value then none else some value
  | _ => none

/-- The integers of 64 bits: from `-2 ^ 63` up to below `2 ^ 63`. -/
def integerBound : Int := Nat.pow 2 63

/-- A rounded number as an integer of 64 bits.  The bound itself, to which integers beyond the
range may have been rounded, is taken for the largest one. -/
def realInteger? (value : Binary64) : Option Int :=
  match value.toInt? with
  | some n =>
    if -integerBound ≤ n ∧ n ≤ integerBound then some (min n (integerBound - 1)) else none
  | none => none

/-- A number as an integer of 64 bits: numbers with a fraction and numbers out of range are
none.  An integer past the range goes by its rounded value. -/
def numberInteger? : Number → Option Int
  | .integer value =>
    if value < integerBound then some value
    else (Binary64.ofNat? false value.toNat).bind realInteger?
  | .real value => realInteger? value

/-- An integer; any other kind reads as absent. -/
def integer? : Option Json → Option Int
  | some (.number value) => numberInteger? value
  | _ => none

/-- Any value but null. -/
def value? : Option Json → Option Json
  | some .null => none
  | found => found

/-- The fallback of a vocabulary, with the note that it stands in. -/
def fallbackWord (α : Type) [Vocabulary α] : Noted α :=
  let fallback : α := Vocabulary.fallback
  (fallback, [.wordReplaced (Vocabulary.name fallback)])

/-- A word of a vocabulary.  A value that is no such word is replaced; an absent one is the
fallback without a note. -/
def word (α : Type) [Vocabulary α] : Option Json → Noted α
  | none => (Vocabulary.fallback, [])
  | some (.string value) =>
    match Vocabulary.read? value with
    | some member => (member, [])
    | none => fallbackWord α
  | some _ => fallbackWord α

/-- An optional word of a vocabulary.  Only a text that is not blank can be one. -/
def word? (α : Type) [Vocabulary α] (found : Option Json) : Noted (Option α) :=
  match text? found with
  | none => (none, [])
  | some value =>
    match Vocabulary.read? value with
    | some member => (some member, [])
    | none => ((fallbackWord α).map some id)

/-- The named fields of a record: an object, or an array that gives the fields by position.
An array with more items than there are fields is read as far as they go, but is no record. -/
def fields? (names : List String) : Json → Option (Dictionary Json × Bool)
  | .object members => some (members, true)
  | .array items => some (names.zip items, items.length ≤ names.length)
  | _ => none

/-- An element of a list, when it is a record. -/
def record? {α : Type} (names : List String) (read : Dictionary Json → Noted α)
    (element : Json) : Noted (Option α) :=
  match fields? names element with
  | none => (none, [])
  | some (fields, usable) =>
    let (found, notes) := read fields
    (if usable then some found else none, notes)

/-- The records among the elements of a list, in order, and how many elements are none. -/
def records {α : Type} (read? : Json → Noted (Option α)) :
    List Json → List α × Nat × List ReadingNote
  | [] => ([], 0, [])
  | element :: rest =>
    let (found, notes) := read? element
    let (kept, skipped, later) := records read? rest
    match found with
    | some record => (record :: kept, skipped, notes ++ later)
    | none => (kept, skipped + 1, notes ++ later)

/-- A list of records; any other kind reads as the empty list. -/
def list {α : Type} (read? : Json → Noted (Option α)) : Option Json → Noted (List α)
  | some (.array elements) =>
    let (kept, skipped, notes) := records read? elements
    (kept, notes ++ if skipped = 0 then [] else [.elementsSkipped skipped])
  | _ => ([], [])

end Reading

open Reading

/-- The fields of a metric, by position. -/
def Metric.fieldNames : List String := ["field", "aggregate", "alias"]

def Metric.read (fields : Dictionary Json) : Noted Metric :=
  let (aggregate, notes) := word Aggregate (fields.get? "aggregate")
  ({ field := text (fields.get? "field"), aggregate, outputName := text? (fields.get? "alias") },
    notes)

def Dimension.fieldNames : List String := ["field", "granularity", "alias"]

def Dimension.read (fields : Dictionary Json) : Noted Dimension :=
  let (granularity, notes) := word? Granularity (fields.get? "granularity")
  ({ field := text (fields.get? "field"), granularity, outputName := text? (fields.get? "alias") },
    notes)

def Filter.fieldNames : List String := ["field", "operator", "value"]

def Filter.read (fields : Dictionary Json) : Noted Filter :=
  let (operator, notes) := word FilterOperator (fields.get? "operator")
  ({ field := text (fields.get? "field"), operator, value := value? (fields.get? "value") }, notes)

def OrderSpec.fieldNames : List String := ["field", "direction"]

def OrderSpec.read (fields : Dictionary Json) : Noted OrderSpec :=
  let (direction, notes) := word SortDirection (fields.get? "direction")
  ({ field := text (fields.get? "field"), direction }, notes)

def TimeFilter.fieldNames : List String :=
  ["type", "month", "n", "dateFrom", "dateTo", "dateField"]

def TimeFilter.read (fields : Dictionary Json) : Noted TimeFilter :=
  let (kind, notes) := word WindowKind (fields.get? "type")
  ({ kind
     month := integer? (fields.get? "month")
     n := integer? (fields.get? "n")
     dateFrom := text? (fields.get? "dateFrom")
     dateTo := text? (fields.get? "dateTo")
     dateField := text? (fields.get? "dateField") }, notes)

/-- The time filter of an intent is an object or it is absent. -/
def TimeFilter.readMember : Option Json → Noted (Option TimeFilter)
  | some (.object members) => (TimeFilter.read members).map some id
  | _ => (none, [])

/-- The label of an intent; only an absent one is the usual label. -/
def Intent.readQueryType : Option Json → String
  | none => "sales_summary"
  | found => text found

def Intent.read (members : Dictionary Json) : Noted Intent :=
  let (chartType, chartNotes) := word ChartType (members.get? "chartType")
  let (dimensions, dimensionNotes) :=
    list (record? Dimension.fieldNames Dimension.read) (members.get? "dimensions")
  let (filters, filterNotes) :=
    list (record? Filter.fieldNames Filter.read) (members.get? "filters")
  let (metrics, metricNotes) :=
    list (record? Metric.fieldNames Metric.read) (members.get? "metrics")
  let (orderBy, orderNotes) :=
    list (record? OrderSpec.fieldNames OrderSpec.read) (members.get? "orderBy")
  let (timeFilter, timeNotes) := TimeFilter.readMember (members.get? "timeFilter")
  ({ queryType := Intent.readQueryType (members.get? "queryType")
     table := text (members.get? "table")
     metrics, dimensions, timeFilter, filters, orderBy
     limit := integer? (members.get? "limit")
     chartType
     chartTitle := text? (members.get? "chartTitle")
     explanation := text? (members.get? "explanation") },
    chartNotes ++ dimensionNotes ++ filterNotes ++ metricNotes ++ orderNotes ++ timeNotes)

/-- An intent from a JSON value: only an object is one. -/
def Intent.ofJson? : Json → Option (Noted Intent)
  | .object members => some (Intent.read members)
  | _ => none

end TenantQuery
