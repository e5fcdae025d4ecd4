import TenantQuery.Proofs.Identifier
import TenantQuery.Proofs.Sql.Rendering
/-!
What the parts of a statement are made of.

Every part is contained, and its words are key words, numbers and the names that it was given.
Names are never key words, so none of the key words that a statement is cut at stands in a part.
-/

namespace TenantQuery.Sql

/-- The marks of a statement, besides the sign of the tenant parameter. -/
def plainMarks : List Char :=
  [' ', ',', '.', '=', '<', '>', '+', '-', ':', '(', ')', '[', ']']

/-- The key words and functions of columns, conditions and sort keys. -/
def innerKeywords : List String :=
  ["DATE_TRUNC", "EXTRACT", "YEAR", "MONTH", "FROM", "CURRENT_DATE", "INTERVAL", "date", "IS",
   "NOT", "NULL", "ILIKE", "ANY", "ALL", "ARRAY", "TRUE", "FALSE", "SUM", "COUNT", "DISTINCT",
   "AVG", "MAX", "MIN", "AS", "ASC", "DESC"]

/-- The key words and functions in front of the WHERE clause. -/
def openingKeywords : List String := "SELECT" :: innerKeywords

def keywords : List String :=
  ["WHERE", "AND", "GROUP", "BY", "ORDER", "LIMIT"] ++ openingKeywords

theorem innerKeywords_subset : innerKeywords ⊆ keywords :=
  List.Subset.trans (List.subset_cons_self _ _) (List.subset_append_right _ _)

/-- The word is a key word, a number or a name. -/
def IsWordOf (keywords names : List String) (chars : List Char) : Prop :=
  chars ∈ keywords.map String.toList ∨ StartsWithDigit chars ∨ chars ∈ names.map String.toList

def Column.names (column : Column) : List String :=
  [column.field, column.outputName]

def SortKey.names : SortKey → List String
  | .output chosen _ => [chosen]
  | .firstColumn => []

/-- The names in a condition, apart from the policy's own words. -/
def Condition.names : Condition → List String
  | .tenant column => [column]
  | .policy _ => []
  | .time _ field => [field]
  | .user _ field => [field]

/-- The names that the name of a table is made of. -/
def tableNames (table : String) : List String :=
  match Text.cutAt? '.' table.toList with
  | some (schema, inner) => [String.ofList schema, String.ofList inner]
  | none => [table]

theorem isName_of_mem_tableNames {table : String} (h : Identifier.isCanonicalTable table)
    {text : String} (hmem : text ∈ tableNames table) : Identifier.IsName text.toList := by
  have hname := Identifier.isName_of_isCanonicalTable h
  unfold tableNames at hmem
  cases hcut : Text.cutAt? '.' table.toList with
  | none =>
      rw [hcut] at hname hmem
      rw [List.mem_singleton.mp hmem]
      exact hname
  | some parts =>
      rw [hcut] at hname hmem
      simp only [List.mem_cons, List.not_mem_nil, or_false] at hmem
      rcases hmem with rfl | rfl
      · simpa using hname.1
      · simpa using hname.2

/-- Contained tokens whose marks are those of statements and whose words are known. -/
def Plain (keywords names : List String) : List Token → Prop :=
  Contained allBrackets (· ∈ plainMarks) (IsWordOf keywords names)

theorem valid_of_mem_keywords :
    ∀ text ∈ keywords, text.toList ≠ [] ∧ ∀ c ∈ text.toList, Identifier.isNameChar c := by
  simp [keywords, openingKeywords, innerKeywords, Identifier.isNameChar]

theorem isWordOf_mono {few many fewNames manyNames : List String} (hkeywords : few ⊆ many)
    (hnames : fewNames ⊆ manyNames) {chars : List Char} (h : IsWordOf few fewNames chars) :
    IsWordOf many manyNames chars := by
  rcases h with hkeyword | hdigit | hname
  · exact .inl (List.map_subset _ hkeywords hkeyword)
  · exact .inr (.inl hdigit)
  · exact .inr (.inr (List.map_subset _ hnames hname))

/-- The key words outside of all parts, where a statement is cut. -/
def cutKeywords : List String := ["where", "and", "or"] ++ laterClauses

theorem cutKeywords_reserved : ∀ keyword ∈ cutKeywords, keyword ∈ Identifier.reservedWords := by
  simp [cutKeywords, laterClauses, Identifier.reservedWords]

theorem cutKeywords_start : ∀ keyword ∈ cutKeywords, ∀ c ∈ keyword.toList.head?,
    Identifier.isNameStart c := by
  simp [cutKeywords, laterClauses, Identifier.isNameStart]

theorem openingKeywords_not_cut : ∀ chars ∈ openingKeywords.map String.toList,
    ∀ keyword ∈ cutKeywords, chars.map Char.toLower ≠ keyword.toList := by
  decide +kernel

/-- The key words that a statement is cut at are none of its other words. -/
theorem noOuter_of_isWordOf {names : List String} {tokens : List Token}
    (h : ∀ chars, .word chars ∈ tokens → IsWordOf openingKeywords names chars)
    (hnames : ∀ text ∈ names, Identifier.IsName text.toList) : NoOuter cutKeywords tokens := by
  apply NoOuter.of_words
  intro chars hmem keyword hkeyword heq
  rcases h chars hmem with hinner | ⟨c, hc, hdigit⟩ | hname
  · exact openingKeywords_not_cut chars hinner keyword hkeyword heq
  · have hstart := cutKeywords_start keyword hkeyword c.toLower
    rw [← heq, List.head?_map] at hstart
    have hname := hstart (Option.mem_map_of_mem Char.toLower hc)
    rw [Identifier.isNameStart_toLower] at hname
    exact absurd hdigit (by simp [Identifier.not_isDigit_of_isNameStart hname])
  · obtain ⟨text, htext, rfl⟩ := List.mem_map.mp hname
    rw [(hnames text htext).folded] at heq
    exact (hnames text htext).notReserved keyword (cutKeywords_reserved keyword hkeyword) heq

namespace Plain

variable {known names : List String}

theorem mono {few many fewNames manyNames : List String} {tokens : List Token}
    (h : Plain few fewNames tokens) (hkeywords : few ⊆ many) (hnames : fewNames ⊆ manyNames) :
    Plain many manyNames tokens :=
  Contained.mono h (fun _ hmark => hmark) fun _ hword => isWordOf_mono hkeywords hnames hword

theorem keyword {text : String} (hknown : known ⊆ keywords) (h : text ∈ known) :
    Plain known names [name text] := by
  obtain ⟨hne, hchars⟩ := valid_of_mem_keywords text (hknown h)
  exact .word hne hchars (.inl (List.mem_map_of_mem h))

theorem inner {text : String} (h : text ∈ innerKeywords) : Plain innerKeywords names [name text] :=
  keyword innerKeywords_subset h

theorem column {text : String} (hname : Identifier.IsName text.toList) (h : text ∈ names) :
    Plain known names [name text] :=
  .word hname.ne_nil hname.all (.inr (.inr (List.mem_map_of_mem h)))

theorem count (n : Nat) : Plain known names [name (toString n)] := by
  have hdigits : AllDigits (toString n).toList := by
    rw [AllDigits.toList_toString]
    exact AllDigits.toDigits n
  have hne : (toString n).toList ≠ [] := by
    rw [AllDigits.toList_toString]
    exact Nat.toDigits_ne_nil
  refine .word hne ?_ (.inr (.inl ?_))
  · intro c hc
    exact Identifier.isNameChar_iff.mpr (.inr (hdigits c hc))
  · obtain ⟨c, rest, hchars⟩ := List.exists_cons_of_ne_nil hne
    refine ⟨c, ?_, hdigits c ?_⟩
    · rw [hchars]
      rfl
    · rw [hchars]
      exact List.mem_cons_self

theorem literal (content : List Char) : Plain known names [.literal content] :=
  Contained.literal content

theorem glue (first : List Token) {c : Char} (hglue : IsGlue c) (hmark : c ∈ plainMarks)
    {second : List Token} (hfirst : Plain known names first)
    (hsecond : Plain known names second) : Plain known names (first ++ .mark c :: second) :=
  Contained.glue first (List.Subset.refl allBrackets) hglue hmark hfirst hsecond

theorem glue_cons {c : Char} (hglue : IsGlue c) (hmark : c ∈ plainMarks) {tokens : List Token}
    (h : Plain known names tokens) : Plain known names (.mark c :: tokens) :=
  Contained.glue_cons (List.Subset.refl allBrackets) hglue hmark h

theorem spaced_one {part : List Token} (h : Plain known names part) :
    Plain known names (spaced [part]) := by
  simpa [Sql.spaced] using h

theorem spaced_cons {part next : List Token} {rest : List (List Token)}
    (hpart : Plain known names part) (hrest : Plain known names (spaced (next :: rest))) :
    Plain known names (spaced (part :: next :: rest)) := by
  unfold Sql.spaced
  rw [List.intercalate_cons_cons, List.append_assoc]
  exact glue part (by decide) (by decide) hpart hrest

theorem listed {parts : List (List Token)} (h : ∀ part ∈ parts, Plain known names part) :
    Plain known names (listed parts) := by
  refine Contained.intercalate ?_ h
  intro first second hfirst hsecond
  exact glue first (by decide) (by decide) hfirst (glue_cons (by decide) (by decide) hsecond)

theorem between {opening closing : Char} (hpair : (opening, closing) ∈ allBrackets)
    {inner : List Token} (h : Plain known names inner) :
    Plain known names (.mark opening :: inner ++ [.mark closing]) := by
  have hmarks : opening ∈ plainMarks ∧ closing ∈ plainMarks := by
    simp only [allBrackets, List.mem_cons, Prod.mk.injEq, List.not_mem_nil, or_false] at hpair
    rcases hpair with ⟨rfl, rfl⟩ | ⟨rfl, rfl⟩ <;> decide
  exact Contained.pair hpair (List.Subset.refl allBrackets) hmarks.1 hmarks.2 h

/-- A word in front of brackets. -/
theorem called {function : String} (hfunction : function ∈ innerKeywords)
    {opening closing : Char} (hpair : (opening, closing) ∈ allBrackets) {arguments : List Token}
    (h : Plain innerKeywords names arguments) :
    Plain innerKeywords names
      (name function :: (.mark opening :: arguments ++ [.mark closing])) := by
  apply Contained.append (inner hfunction) (between hpair h)
  intro last hlast next hnext
  cases hlast
  cases hnext
  exact ⟨Token.apart_mark_right _ opening, id⟩

theorem applied {function : String} (hfunction : function ∈ innerKeywords)
    {arguments : List Token} (h : Plain innerKeywords names arguments) :
    Plain innerKeywords names (applied function arguments) :=
  called hfunction (by decide) h

theorem sign {text : String} (h : text ∈ ["=", "<>", ">", ">=", "<", "<=", "-"]) :
    Plain known names (signs text) := by
  have hone : ∀ c, IsGlue c → c ∈ plainMarks → Plain known names [.mark c] :=
    fun c hglue hmark => glue_cons hglue hmark Contained.nil
  simp only [List.mem_cons, List.not_mem_nil, or_false] at h
  rcases h with rfl | rfl | rfl | rfl | rfl | rfl | rfl
  · exact hone '=' (by decide) (by decide)
  · exact glue_cons (by decide) (by decide) (hone '>' (by decide) (by decide))
  · exact hone '>' (by decide) (by decide)
  · exact glue_cons (by decide) (by decide) (hone '=' (by decide) (by decide))
  · exact hone '<' (by decide) (by decide)
  · exact glue_cons (by decide) (by decide) (hone '=' (by decide) (by decide))
  · exact Contained.mark ⟨by decide, by decide⟩ (by decide) (by decide)

theorem related {sign : String} (hsign : sign ∈ ["=", "<>", ">", ">=", "<", "<=", "-"])
    {left right : List Token} (hleft : Plain known names left)
    (hright : Plain known names right) : Plain known names (related left sign right) :=
  spaced_cons hleft (spaced_cons (Plain.sign hsign) (spaced_one hright))

theorem truncated {unit : String} {operand : List Token}
    (h : Plain innerKeywords names operand) :
    Plain innerKeywords names (truncated unit operand) := by
  apply applied (by decide)
  exact glue [.literal unit.toList] (by decide) (by decide) (literal _)
    (glue_cons (by decide) (by decide) h)

theorem extracted {part : String} (hpart : part ∈ innerKeywords) {operand : List Token}
    (h : Plain innerKeywords names operand) :
    Plain innerKeywords names (extracted part operand) :=
  applied (by decide) (spaced_cons (inner hpart) (spaced_cons (inner (by decide)) (spaced_one h)))

theorem today : Plain innerKeywords names [name "CURRENT_DATE"] :=
  inner (by decide)

theorem before (span : String) : Plain innerKeywords names (before span) :=
  related (by decide) today (spaced_cons (inner (by decide)) (spaced_one (literal _)))

theorem date (date : Date) : Plain innerKeywords names (dateTokens date) := by
  apply glue [.literal date.iso.toList] (by decide) (by decide) (literal _)
  exact glue_cons (by decide) (by decide) (inner (by decide))

theorem value (value : Literal) : Plain innerKeywords names value.tokens := by
  cases value with
  | text value => exact literal value.toList
  | truth value => cases value <;> exact inner (by decide)
  | number value =>
      refine Contained.mono (Literal.read_number value).2.2 ?_ fun _ hdigit => .inr (.inl hdigit)
      simp [plainMarks]

theorem test {field : String} (hname : Identifier.IsName field.toList) (hmem : field ∈ names)
    (test : FilterTest) : Plain innerKeywords names (Condition.testTokens field test) := by
  have hfield : Plain innerKeywords names [name field] := column hname hmem
  have hitems : ∀ items : List Literal,
      Plain innerKeywords names (Condition.arrayTokens items) := by
    intro items
    refine called (by decide) (by decide) (listed ?_)
    intro part hpart
    obtain ⟨item, -, rfl⟩ := List.mem_map.mp hpart
    exact value item
  cases test with
  | isNull =>
      exact spaced_cons hfield (spaced_cons (inner (by decide)) (spaced_one (inner (by decide))))
  | isNotNull =>
      exact spaced_cons hfield (spaced_cons (inner (by decide))
        (spaced_cons (inner (by decide)) (spaced_one (inner (by decide)))))
  | compare comparison operand =>
      exact related (by cases comparison <;> simp [Comparison.sign]) hfield (value operand)
  | like shape text =>
      exact spaced_cons hfield (spaced_cons (inner (by decide)) (spaced_one (literal _)))
  | oneOf items =>
      cases items with
      | nil => exact inner (by decide)
      | cons item rest =>
          exact related (by decide) hfield (applied (by decide) (hitems _))
  | noneOf items =>
      cases items with
      | nil => exact inner (by decide)
      | cons item rest =>
          exact related (by decide) hfield (applied (by decide) (hitems _))

open Condition.windowConjuncts in
theorem window {field : String} (hname : Identifier.IsName field.toList) (hmem : field ∈ names)
    (window : TimeWindow) :
    ∀ part ∈ Condition.windowConjuncts field window, Plain innerKeywords names part := by
  have hfield : Plain innerKeywords names [name field] := column hname hmem
  have hunit : ∀ unit, Plain innerKeywords names (sameUnit field unit) :=
    fun unit => related (by decide) (truncated hfield) (truncated today)
  have hyear : Plain innerKeywords names (year field) :=
    extracted (by decide) hfield
  have hcurrent : Plain innerKeywords names currentYear :=
    extracted (by decide) today
  have hlast : Plain innerKeywords names lastYear :=
    related (by decide) hcurrent (count 1)
  have hmonth : ∀ month, Plain innerKeywords names (monthIs field month) :=
    fun month => related (by decide) (extracted (by decide) hfield) (count month)
  cases window with
  | thisMonth => exact List.forall_mem_singleton.mpr (hunit "month")
  | thisQuarter => exact List.forall_mem_singleton.mpr (hunit "quarter")
  | thisWeek => exact List.forall_mem_singleton.mpr (hunit "week")
  | lastMonth =>
      exact List.forall_mem_singleton.mpr
        (related (by decide) (truncated hfield) (truncated (before "1 month")))
  | thisYear => exact List.forall_mem_singleton.mpr (related (by decide) hyear hcurrent)
  | lastYear => exact List.forall_mem_singleton.mpr (related (by decide) hyear hlast)
  | thisYearMonth month =>
      exact List.forall_mem_cons.mpr ⟨related (by decide) hyear hcurrent,
        List.forall_mem_singleton.mpr (hmonth month)⟩
  | lastYearMonth month =>
      exact List.forall_mem_cons.mpr ⟨related (by decide) hyear hlast,
        List.forall_mem_singleton.mpr (hmonth month)⟩
  | lastNDays n =>
      exact List.forall_mem_singleton.mpr (related (by decide) hfield (before _))
  | lastNMonths n =>
      exact List.forall_mem_singleton.mpr
        (related (by decide) hfield (truncated (before _)))
  | today => exact List.forall_mem_singleton.mpr (related (by decide) hfield today)
  | custom range =>
      cases range with
      | since first =>
          exact List.forall_mem_singleton.mpr (related (by decide) hfield (date first))
      | «until» last =>
          exact List.forall_mem_singleton.mpr (related (by decide) hfield (date last))
      | between first last =>
          exact List.forall_mem_cons.mpr ⟨related (by decide) hfield (date first),
            List.forall_mem_singleton.mpr (related (by decide) hfield (date last))⟩

theorem expression {selected : Column} (hname : Identifier.IsName selected.field.toList)
    (hmem : selected.field ∈ names) : Plain innerKeywords names selected.expressionTokens := by
  have hfield : Plain innerKeywords names [name selected.field] := column hname hmem
  have hcall : ∀ function ∈ ["SUM", "COUNT", "AVG", "MAX", "MIN"],
      Plain innerKeywords names (Sql.applied function [name selected.field]) := by
    intro function hfunction
    simp only [List.mem_cons, List.not_mem_nil, or_false] at hfunction
    rcases hfunction with rfl | rfl | rfl | rfl | rfl <;>
      exact applied (by decide) hfield
  unfold Column.expressionTokens
  split
  · exact truncated hfield
  · exact hfield
  · exact hcall "SUM" (by simp)
  · exact hcall "COUNT" (by simp)
  · exact applied (by decide) (spaced_cons (inner (by decide)) (spaced_one hfield))
  · exact hcall "AVG" (by simp)
  · exact hcall "MAX" (by simp)
  · exact hcall "MIN" (by simp)

theorem selected {selected : Column}
    (h : ∀ text ∈ selected.names, Identifier.IsName text.toList) :
    Plain innerKeywords selected.names selected.tokens := by
  have hfield : selected.field ∈ selected.names := by simp [Column.names]
  have houtput : selected.outputName ∈ selected.names := by simp [Column.names]
  unfold Column.tokens
  split
  · exact column (h _ hfield) hfield
  · exact spaced_cons (expression (h _ hfield) hfield)
      (spaced_cons (inner (by decide)) (spaced_one (column (h _ houtput) houtput)))

theorem sortKey {key : SortKey} (h : ∀ text ∈ key.names, Identifier.IsName text.toList) :
    Plain innerKeywords key.names key.tokens := by
  have hdirection : ∀ direction : SortDirection,
      Plain innerKeywords key.names [name direction.keyword] := by
    intro direction
    cases direction <;> exact inner (by decide)
  cases key with
  | output chosen direction =>
      have hmem : chosen ∈ (SortKey.output chosen direction).names := List.mem_singleton.mpr rfl
      exact spaced_cons (column (h chosen hmem) hmem) (spaced_one (hdirection direction))
  | firstColumn => exact spaced_cons (count 1) (spaced_one (hdirection .asc))

theorem table {table : String} (h : Identifier.isCanonicalTable table) :
    Plain innerKeywords (tableNames table) (tableTokens table) := by
  have hword : ∀ text ∈ tableNames table, Plain innerKeywords (tableNames table) [name text] :=
    fun text hmem => column (isName_of_mem_tableNames h hmem) hmem
  unfold tableTokens
  unfold tableNames at hword ⊢
  cases hcut : Text.cutAt? '.' table.toList with
  | none => simpa [hcut] using hword
  | some parts =>
      obtain ⟨schema, inner⟩ := parts
      have hboth : Plain innerKeywords [String.ofList schema, String.ofList inner]
            [.word schema] ∧
          Plain innerKeywords [String.ofList schema, String.ofList inner] [.word inner] := by
        simpa [hcut, name] using hword
      exact glue [.word schema] (by decide) (by decide) hboth.1 hboth.2

/-- A part of a condition that is neither the tenant's nor the policy's. -/
theorem conjunct {condition : Condition}
    (h : ∀ text ∈ condition.names, Identifier.IsName text.toList)
    (hcategory : condition.category = .time ∨ condition.category = .user) :
    ∀ part ∈ condition.conjuncts, Plain innerKeywords condition.names part := by
  cases condition with
  | tenant column => simp [Condition.category] at hcategory
  | policy predicate => simp [Condition.category] at hcategory
  | time chosen field =>
      have hmem : field ∈ (Condition.time chosen field).names := List.mem_singleton.mpr rfl
      exact window (h field hmem) hmem chosen
  | user asked field =>
      have hmem : field ∈ (Condition.user asked field).names := List.mem_singleton.mpr rfl
      exact List.forall_mem_singleton.mpr (test (h field hmem) hmem asked)

end Plain

end TenantQuery.Sql
