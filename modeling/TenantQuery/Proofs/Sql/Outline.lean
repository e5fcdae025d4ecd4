import TenantQuery.Proofs.Sql.Parts
/-!
The outline of a whole statement, put together from its parts.

When all names of a statement are names, its WHERE clause is what was meant as one, and the
parts of its conditions are what stands between the outer ANDs of that clause.  For the words of
the policy it is enough that their brackets are balanced.
-/

namespace TenantQuery.Sql

variable {brackets : List (Char × Char)} {Mark : Char → Prop} {Word : List Char → Prop}

/-- Brackets, marks and words that leave room for statements over some names. -/
structure Roomy (brackets : List (Char × Char)) (Mark : Char → Prop) (Word : List Char → Prop)
    (names : List String) : Prop where
  subset : brackets ⊆ allBrackets
  parentheses : ('(', ')') ∈ brackets
  balanced : ∀ tokens, Balanced allBrackets tokens → Balanced brackets tokens
  marks : ∀ c ∈ plainMarks, Mark c
  words : ∀ chars, IsWordOf keywords names chars → Word chars

/-- Room for all brackets and marks of a statement. -/
theorem Roomy.all {names : List String}
    (hwords : ∀ chars, IsWordOf keywords names chars → Word chars) :
    Roomy allBrackets (· ∈ '$' :: plainMarks) Word names :=
  ⟨List.Subset.refl allBrackets, by decide, fun _ h => h, fun _ => List.mem_cons_of_mem '$', hwords⟩

/-- Room for any words, where only the parentheses count. -/
theorem Roomy.grouping {names : List String} (hmarks : ∀ c ∈ plainMarks, Mark c) :
    Roomy Sql.parentheses Mark (fun _ => True) names :=
  ⟨by decide, by decide, fun _ => Balanced.parentheses_of_all, hmarks, fun _ _ => trivial⟩

theorem Roomy.contained {names : List String} (hroom : Roomy brackets Mark Word names)
    {known some : List String} {tokens : List Token} (h : Plain known some tokens)
    (hknown : known ⊆ keywords) (hsome : some ⊆ names) : Contained brackets Mark Word tokens :=
  ⟨Contained.spaced h, hroom.balanced tokens h.balanced, h.commentFree,
    fun c hmem => hroom.marks c (h.marks c hmem),
    fun chars hmem => hroom.words chars (isWordOf_mono hknown hsome (h.words chars hmem))⟩

/-- The words of a policy can be read, and they are contained. -/
def Fits (brackets : List (Char × Char)) (Mark : Char → Prop) (Word : List Char → Prop)
    (predicate : String) : Prop :=
  ∃ tokens, tokens? predicate = some tokens ∧ Contained brackets Mark Word tokens

/-- The tenant's condition is the only one with a parameter. -/
theorem contained_tenant {column : String} (hname : Identifier.IsName column.toList) :
    Contained allBrackets (· ∈ '$' :: plainMarks) (IsWordOf innerKeywords [column])
      (related [name column] "=" [.mark '$', name "1"]) := by
  have hmarks : ∀ c ∈ plainMarks, c ∈ '$' :: plainMarks := fun c hc => List.mem_cons_of_mem '$' hc
  have hall : allBrackets ⊆ allBrackets := List.Subset.refl allBrackets
  have hcolumn : Contained allBrackets (· ∈ '$' :: plainMarks) (IsWordOf innerKeywords [column])
      [name column] :=
    .mono (Plain.column hname (List.mem_singleton.mpr rfl)) hmarks fun _ h => h
  have hnumber : Contained allBrackets (· ∈ '$' :: plainMarks) (IsWordOf innerKeywords [column])
      [name (toString 1)] :=
    .mono (Plain.count 1) hmarks fun _ h => h
  have hsign : Contained allBrackets (· ∈ '$' :: plainMarks) (IsWordOf innerKeywords [column])
      [.mark '='] :=
    .glue_cons hall (by decide) (by decide) .nil
  exact .glue [name column] hall (by decide) (by decide) hcolumn (.glue [.mark '='] hall
    (by decide) (by decide) hsign (.glue_cons hall (by decide) (by decide) hnumber))

/-- Every part of a condition is contained when its names and its policy words are. -/
theorem contained_conjunct {names : List String} (hroom : Roomy brackets Mark Word names)
    {condition : Condition} (hnames : ∀ text ∈ condition.names, Identifier.IsName text.toList)
    (hsub : condition.names ⊆ names)
    (hpolicy : ∀ predicate, condition = .policy predicate → Fits brackets Mark Word predicate)
    (htenant : ∀ column, condition = .tenant column → Mark '$') :
    ∀ part ∈ condition.conjuncts, Contained brackets Mark Word part := by
  intro part hpart
  cases condition with
  | tenant column =>
      have hmem : column ∈ (Condition.tenant column).names := List.mem_singleton.mpr rfl
      rw [List.mem_singleton.mp hpart]
      have h := contained_tenant (hnames column hmem)
      refine ⟨h.spaced, hroom.balanced _ h.balanced, h.commentFree, ?_, ?_⟩
      · intro c hc
        rcases List.mem_cons.mp (h.marks c hc) with rfl | hplain
        · exact htenant column rfl
        · exact hroom.marks c hplain
      · intro chars hchars
        exact hroom.words chars (isWordOf_mono innerKeywords_subset hsub (h.words chars hchars))
  | policy predicate =>
      obtain ⟨tokens, htokens, hcontained⟩ := hpolicy predicate rfl
      rw [List.mem_singleton.mp hpart, htokens]
      exact .pair hroom.parentheses hroom.subset (hroom.marks '(' (by decide))
        (hroom.marks ')' (by decide)) hcontained
  | time window field =>
      exact hroom.contained (Plain.conjunct hnames (.inl rfl) part hpart) innerKeywords_subset hsub
  | user test field =>
      exact hroom.contained (Plain.conjunct hnames (.inr rfl) part hpart) innerKeywords_subset hsub

/-- The parts of a conjunction with the key word between them. -/
theorem contained_intercalate (hsub : brackets ⊆ allBrackets) (hspace : Mark ' ')
    (hand : Word "AND".toList) {parts : List (List Token)}
    (h : ∀ part ∈ parts, Contained brackets Mark Word part) :
    Contained brackets Mark Word (separator.intercalate parts) := by
  have hvalid := valid_of_mem_keywords "AND" (by decide)
  have hword : Contained brackets Mark Word [.word "AND".toList] :=
    .word hvalid.1 hvalid.2 hand
  refine .intercalate ?_ h
  intro first second hfirst hsecond
  exact .glue first hsub (by decide) hspace hfirst
    (.glue [.word "AND".toList] hsub (by decide) hspace hword hsecond)

/-- A part of the conditions that does not disturb the clause around it. -/
def Undisturbing (part : List Token) : Prop :=
  Balanced parentheses part ∧ NoOuter cutKeywords part

theorem undisturbing_conjunct {condition : Condition}
    (hnames : ∀ text ∈ condition.names, Identifier.IsName text.toList)
    (hpolicy : ∀ predicate, condition = .policy predicate →
      ∃ tokens, tokens? predicate = some tokens ∧ Balanced parentheses tokens) :
    ∀ part ∈ condition.conjuncts, Undisturbing part := by
  intro part hpart
  have hopening : innerKeywords ⊆ openingKeywords := List.subset_cons_self _ _
  have hplain : ∀ {Mark : Char → Prop},
      Contained allBrackets Mark (IsWordOf innerKeywords condition.names) part →
      Undisturbing part :=
    fun h => ⟨h.balanced.parentheses_of_all, noOuter_of_isWordOf
      (fun chars hmem => isWordOf_mono hopening (List.Subset.refl _) (h.words chars hmem)) hnames⟩
  cases condition with
  | tenant column =>
      rw [List.mem_singleton.mp hpart] at hplain ⊢
      exact hplain (contained_tenant (hnames column (List.mem_singleton.mpr rfl)))
  | policy predicate =>
      obtain ⟨tokens, htokens, hbalanced⟩ := hpolicy predicate rfl
      rw [List.mem_singleton.mp hpart, htokens]
      exact ⟨.pair (by simp [parentheses]) hbalanced, .parenthesized hbalanced⟩
  | time window field => exact hplain (Plain.conjunct hnames (.inl rfl) part hpart)
  | user test field => exact hplain (Plain.conjunct hnames (.inr rfl) part hpart)

theorem undisturbing_intercalate (fewer : List String) {parts : List (List Token)}
    (hsub : fewer ⊆ cutKeywords) (hand : "and" ∉ fewer)
    (h : ∀ part ∈ parts, Undisturbing part) :
    Balanced parentheses (separator.intercalate parts) ∧
      NoOuter fewer (separator.intercalate parts) := by
  have hbetween : Balanced parentheses separator := .of_forall (by decide)
  have hquiet : NoOuter fewer separator := by
    refine .of_words ?_
    intro chars hmem keyword hkeyword heq
    have hchars : chars = "AND".toList := by simpa [separator] using hmem
    subst hchars
    have hsame : keyword = "and" := String.toList_inj.mp (heq.symm.trans (by decide))
    exact hand (hsame ▸ hkeyword)
  induction parts with
  | nil => exact ⟨.nil, by simp [NoOuter, levels]⟩
  | cons part rest ih =>
      obtain ⟨hbalanced, hnone⟩ := h part List.mem_cons_self
      have hrest := ih fun other hmem => h other (List.mem_cons_of_mem part hmem)
      cases rest with
      | nil => simpa using ⟨hbalanced, hnone.mono hsub⟩
      | cons next rest =>
          rw [List.intercalate_cons_cons]
          exact ⟨.append (.append hbalanced hbetween) hrest.1,
            .append (.append hbalanced hbetween)
              (.append hbalanced (hnone.mono hsub) hquiet) hrest.2⟩

namespace Statement

/-- The names in a statement, apart from those of its table. -/
def names (statement : Statement) : List String :=
  statement.columns.flatMap Column.names ++ statement.conditions.flatMap Condition.names ++
    statement.sortKeys.flatMap SortKey.names

/-- A statement whose names can be told from its key words and numbers. -/
structure WellNamed (statement : Statement) : Prop where
  names : ∀ text ∈ statement.names, Identifier.IsName text.toList
  table : Identifier.isCanonicalTable statement.table

/-- What stands before the conditions, but for the space in front of the key word. -/
def front (statement : Statement) : List Token :=
  spaced [[name "SELECT"], listed (statement.columns.map Column.tokens), [name "FROM"],
    tableTokens statement.table]

theorem opening_eq (statement : Statement) :
    statement.opening = statement.front ++ [.mark ' '] := by
  simp [opening, front, spaced, List.intercalate_cons_cons]

theorem tokens_eq (statement : Statement) :
    statement.tokens = statement.front ++ .mark ' ' :: ([name "WHERE"] ++ .mark ' ' ::
      (separator.intercalate statement.conjuncts ++ .mark ' ' :: statement.closing)) := by
  simp [tokens, opening_eq, padded]

variable {statement : Statement}

theorem mem_names_of_column {column : Column} (hmem : column ∈ statement.columns) :
    column.names ⊆ statement.names := by
  intro text htext
  simp only [names, List.mem_append, List.mem_flatMap]
  exact .inl (.inl ⟨column, hmem, htext⟩)

theorem mem_names_of_condition {condition : Condition} (hmem : condition ∈ statement.conditions) :
    condition.names ⊆ statement.names := by
  intro text htext
  simp only [names, List.mem_append, List.mem_flatMap]
  exact .inl (.inr ⟨condition, hmem, htext⟩)

theorem mem_names_of_sortKey {key : SortKey} (hmem : key ∈ statement.sortKeys) :
    key.names ⊆ statement.names := by
  intro text htext
  simp only [names, List.mem_append, List.mem_flatMap]
  exact .inr ⟨key, hmem, htext⟩

/-- A grouping key is a position or a column. -/
theorem groupKeys_cases {key : String} (hmem : key ∈ statement.groupKeys) :
    (∃ position : Nat, key = toString position) ∨
      ∃ column ∈ statement.columns, column.shape = .dimension none ∧ key = column.field := by
  obtain ⟨⟨column, position⟩, hplace, hkey⟩ := List.mem_filterMap.mp hmem
  have hcolumn : column ∈ statement.columns :=
    List.fst_mem_of_mem_zipIdx hplace
  simp only [Column.groupKey?] at hkey
  split at hkey
  · exact .inl ⟨position, (Option.some_inj.mp hkey).symm⟩
  · rename_i hshape
    exact .inr ⟨column, hcolumn, hshape, (Option.some_inj.mp hkey).symm⟩
  · contradiction

theorem plain_front (h : statement.WellNamed) :
    Plain openingKeywords (statement.names ++ tableNames statement.table) statement.front := by
  have hinner : innerKeywords ⊆ openingKeywords := List.subset_cons_self _ _
  have hknown : openingKeywords ⊆ keywords := List.subset_append_right _ _
  have htable := (Plain.table h.table).mono hinner (List.subset_append_right statement.names _)
  refine .spaced_cons (.keyword hknown (by decide)) (.spaced_cons (.listed ?_)
    (.spaced_cons (.keyword hknown (by decide)) (.spaced_one htable)))
  intro part hpart
  obtain ⟨column, hmem, rfl⟩ := List.mem_map.mp hpart
  have hsub := mem_names_of_column hmem
  exact (Plain.selected fun text htext => h.names text (hsub htext)).mono hinner
    (List.Subset.trans hsub (List.subset_append_left _ _))

theorem plain_optionalClause {keyword : String} (hkeyword : keyword ∈ keywords)
    {names : List String} {parts : List (List Token)}
    (h : ∀ part ∈ parts, Plain keywords names part) {rest : List Token}
    (hrest : Plain keywords names rest) :
    Plain keywords names (optionalClause keyword parts ++ rest) := by
  have hall : keywords ⊆ keywords := List.Subset.refl keywords
  unfold optionalClause
  split
  · exact hrest
  · rw [List.append_assoc]
    refine .glue _ (by decide) (by decide) ?_ hrest
    exact .spaced_cons (.keyword hall hkeyword)
      (.spaced_cons (.keyword hall (by decide)) (.spaced_one (.listed h)))

theorem plain_closing (h : statement.WellNamed) :
    Plain keywords statement.names statement.closing := by
  have hinner := innerKeywords_subset
  rw [closing, List.append_assoc]
  refine plain_optionalClause (by decide) ?_ (plain_optionalClause (by decide) ?_
    (.spaced_cons (.keyword (List.Subset.refl keywords) (by decide))
      (.spaced_one (.count statement.limit))))
  · intro part hpart
    obtain ⟨key, hmem, rfl⟩ := List.mem_map.mp hpart
    rcases groupKeys_cases hmem with ⟨position, rfl⟩ | ⟨column, hcolumn, -, rfl⟩
    · exact .count position
    · have hfield := mem_names_of_column hcolumn (List.mem_cons_self ..)
      exact .column (h.names _ hfield) hfield
  · intro part hpart
    obtain ⟨key, hmem, rfl⟩ := List.mem_map.mp hpart
    have hsub := mem_names_of_sortKey hmem
    exact (Plain.sortKey fun text htext => h.names text (hsub htext)).mono hinner hsub

/-- A statement is contained when its conditions are. -/
theorem contained (hsub : brackets ⊆ allBrackets) (hspace : Mark ' ')
    (hkeyword : ∀ text ∈ keywords, Word text.toList)
    (hfront : Contained brackets Mark Word statement.front)
    (hparts : ∀ part ∈ statement.conjuncts, Contained brackets Mark Word part)
    (hclosing : Contained brackets Mark Word statement.closing) :
    Contained brackets Mark Word statement.tokens := by
  have hvalid := valid_of_mem_keywords "WHERE" (by decide)
  have hwhere : Contained brackets Mark Word [name "WHERE"] :=
    .word hvalid.1 hvalid.2 (hkeyword "WHERE" (by decide))
  rw [tokens_eq]
  refine .glue _ hsub (by decide) hspace hfront (.glue _ hsub (by decide) hspace hwhere
    (.glue _ hsub (by decide) hspace ?_ hclosing))
  exact contained_intercalate hsub hspace (hkeyword "AND" (by decide)) hparts

/-- A statement is contained when its names and its policy words are. -/
theorem contained_tokens (h : statement.WellNamed)
    (hroom : Roomy brackets Mark Word (statement.names ++ tableNames statement.table))
    (hdollar : Mark '$')
    (hpolicy : ∀ predicate, .policy predicate ∈ statement.conditions →
      Fits brackets Mark Word predicate) :
    Contained brackets Mark Word statement.tokens := by
  have hkeyword : ∀ text ∈ keywords, Word text.toList :=
    fun text hmem => hroom.words _ (.inl (List.mem_map_of_mem hmem))
  have hfront := hroom.contained (plain_front h) (List.subset_append_right _ _)
    (List.Subset.refl _)
  have hclosing := hroom.contained (plain_closing h) (List.Subset.refl _)
    (List.subset_append_left _ _)
  apply contained hroom.subset (hroom.marks ' ' (by decide)) hkeyword hfront _ hclosing
  intro part hpart
  obtain ⟨condition, hmem, hpart⟩ := List.mem_flatMap.mp hpart
  have hsub := mem_names_of_condition hmem
  exact contained_conjunct hroom (fun text htext => h.names text (hsub htext))
    (List.Subset.trans hsub (List.subset_append_left _ _))
    (fun predicate heq => hpolicy predicate (heq ▸ hmem)) (fun _ _ => hdollar) part hpart

/-- A statement is read back as the tokens that it was put together from. -/
theorem tokens?_render (hspaced : WellSpaced statement.tokens)
    (hpolicy : ∀ predicate, .policy predicate ∈ statement.conditions →
      ∃ tokens, tokens? predicate = some tokens) :
    tokens? statement.render = some statement.tokens := by
  refine tokens?_eq_some_iff.mpr ⟨(textOf_tokens ?_).symm, hspaced⟩
  intro condition hmem
  cases condition with
  | policy predicate => exact hpolicy predicate hmem
  | tenant column => trivial
  | time window field => trivial
  | user test field => trivial

theorem exists_closing (statement : Statement) :
    ∃ chars rest, statement.closing = .word chars :: rest ∧
      ∃ keyword ∈ laterClauses, chars.map Char.toLower = keyword.toList := by
  have hstart : ∀ (keyword : String) (parts : List (List Token)), parts ≠ [] →
      ∃ rest, optionalClause keyword parts = name keyword :: rest := by
    intro keyword parts hne
    rw [optionalClause, if_neg (by simpa using hne)]
    exact ⟨_, rfl⟩
  unfold closing
  cases hgroup : statement.groupKeys with
  | cons key keys =>
      obtain ⟨rest, hrest⟩ := hstart "GROUP" ((key :: keys).map fun key => [name key]) (by simp)
      rw [hrest]
      exact ⟨_, _, rfl, "group", by decide, by decide⟩
  | nil =>
      cases hsort : statement.sortKeys with
      | cons key keys =>
          obtain ⟨rest, hrest⟩ := hstart "ORDER" ((key :: keys).map SortKey.tokens) (by simp)
          rw [hrest]
          exact ⟨_, _, rfl, "order", by decide, by decide⟩
      | nil => exact ⟨_, _, rfl, "limit", by decide, by decide⟩

/-- The WHERE clause is what stands for the conditions. -/
theorem whereClause_tokens (h : statement.WellNamed)
    (hparts : ∀ part ∈ statement.conjuncts, Undisturbing part) :
    whereClause statement.tokens =
      levels 0 (padded (separator.intercalate statement.conjuncts)) := by
  have hfront := plain_front h
  have hnames : ∀ text ∈ statement.names ++ tableNames statement.table,
      Identifier.IsName text.toList := by
    intro text htext
    rcases List.mem_append.mp htext with htext | htext
    · exact h.names text htext
    · exact isName_of_mem_tableNames h.table htext
  have hbefore : Balanced parentheses statement.opening := by
    rw [opening_eq]
    exact .append hfront.balanced.parentheses_of_all (.plain _ (by decide))
  have hquiet : NoOuter ["where"] statement.opening := by
    rw [opening_eq]
    exact .append hfront.balanced.parentheses_of_all
      ((noOuter_of_isWordOf hfront.words hnames).mono (by simp [cutKeywords])) (.of_words (by simp))
  obtain ⟨hbody, hinside⟩ := undisturbing_intercalate laterClauses
    (List.subset_append_right _ _) (by decide) hparts
  obtain ⟨chars, rest, hclosing, keyword, hkeyword, hchars⟩ := statement.exists_closing
  rw [tokens, hclosing]
  exact whereClause_eq hbefore hquiet (hbody.padded (by decide)) (hinside.padded hbody)
    hkeyword hchars

end Statement

end TenantQuery.Sql
