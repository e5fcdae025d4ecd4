import TenantQuery.Proofs.Compilation.Outcome
import TenantQuery.Proofs.Policy.RowPredicate
/-!
No request gets out of its tenant.

The WHERE clause of every statement is a conjunction whose first part binds the tenant column to
the only parameter, and whose second part is the policy's own condition if it has one.  Nothing
that a request brings can add an alternative to these parts or end the clause before them.
-/

namespace TenantQuery

open Sql Compilation

def tenantPart (column : String) : List Token :=
  related [name column] "=" [.mark '$', name "1"]

/-- A text that starts with one of the characters of a name and ends with another visible one. -/
theorem trimmed_tenantPart {column : String} (hname : Identifier.IsName column.toList) :
    String.ofList (Text.trimChars (textOf (tenantPart column))) = column ++ " = $1" := by
  have htext : textOf (tenantPart column) = (column ++ " = $1").toList := by simp [tenantPart]
  obtain ⟨c, hc, hstart⟩ := hname.start
  have hshown : Text.isBlank c = false := by
    by_contra hblank
    exact Identifier.not_isNameChar_of_isBlank (by simpa using hblank)
      (Identifier.isNameChar_of_isNameStart hstart)
  have hfirst : (column ++ " = $1").toList.head? = some c := by
    rw [String.toList_append, List.head?_append]
    simp [Option.mem_def.mp hc]
  have hlast : (column ++ " = $1").toList.getLast? = some '1' := by
    simp [List.getLast?_append]
  rw [htext, Text.trimChars_eq_self hfirst hlast hshown (by decide), String.ofList_toList]

theorem trimmed_policyPart {predicate : String} {tokens : List Token}
    (h : tokens? predicate = some tokens) :
    String.ofList (Text.trimChars (textOf (.mark '(' :: tokens ++ [.mark ')']))) =
      "(" ++ predicate ++ ")" := by
  have htext : textOf (.mark '(' :: tokens ++ [.mark ')']) =
      ("(" ++ predicate ++ ")").toList := by
    simp [(tokens?_eq_some_iff.mp h).1]
  have hfirst : ("(" ++ predicate ++ ")").toList.head? = some '(' := by simp
  have hlast : ("(" ++ predicate ++ ")").toList.getLast? = some ')' := by
    rw [String.toList_append]
    exact List.getLast?_concat
  rw [htext, Text.trimChars_eq_self hfirst hlast (by decide) (by decide), String.ofList_toList]

section Statement

variable {settings : Settings} {access : Access} {table : String} {intent : Intent} {today : Date}

/-- What the policy adds to a statement stays within its parentheses. -/
theorem fits_policy (hpolicy : access.policy.Trusted) {predicate : String}
    (hmem : .policy predicate ∈ (statementOver settings access table intent today).conditions) :
    Fits parentheses (· ≠ '$') (fun _ => True) predicate := by
  obtain ⟨given, hrow, rfl⟩ := (mem_conditions hmem).resolve_left (by simp)
  obtain ⟨tokens, htokens, hbalanced, hquiet, hdollar⟩ := hpolicy.selfContained hrow
  have hspaced := (tokens?_eq_some_iff.mp htokens).2
  have hcontained : Contained parentheses (· ≠ '$') (fun _ => True) tokens :=
    ⟨hspaced, hbalanced, hquiet, by rintro c hc rfl; exact hdollar hc, by simp⟩
  obtain ⟨inner, hinner, -, hrest⟩ := hcontained.trim (by decide) htokens
  exact ⟨inner, hinner, hrest⟩

/-- The parts of a statement are the tenant's and those of the later conditions. -/
theorem conjuncts_statementOver :
    (statementOver settings access table intent today).conjuncts =
      tenantPart settings.tenantColumn ::
        (laterConditions settings access table intent today).flatMap Condition.conjuncts := by
  rw [Statement.conjuncts, statementOver, conditions_fst]
  rfl

/-- No other part has a parameter. -/
theorem contained_later (hnamed : (statementOver settings access table intent today).WellNamed)
    (hpolicy : access.policy.Trusted) :
    ∀ part ∈ (laterConditions settings access table intent today).flatMap Condition.conjuncts,
      Contained parentheses (· ≠ '$') (fun _ => True) part := by
  intro part hpart
  obtain ⟨condition, hmem, hpart⟩ := List.mem_flatMap.mp hpart
  have hcondition : condition ∈ (statementOver settings access table intent today).conditions := by
    rw [statementOver, conditions_fst]
    exact List.mem_cons_of_mem _ hmem
  refine contained_conjunct (Roomy.grouping (by simp [plainMarks]))
    (fun text htext => hnamed.names text (Statement.mem_names_of_condition hcondition htext))
    (List.Subset.refl _) ?_ ?_ part hpart
  · rintro predicate rfl
    exact fits_policy hpolicy hcondition
  · rintro column rfl
    exact absurd (sourced_of_mem_laterConditions hmem) id

/-- The second part is the policy's, when it has one. -/
theorem head?_later (settings : Settings) (intent : Intent) (today : Date) {predicate : String}
    (hrow : access.rowPredicate table = some predicate)
    (hshown : ¬ Text.isBlankText predicate) :
    (laterConditions settings access table intent today).head? =
      some (.policy (Text.trim predicate)) := by
  rw [← Text.isEmpty_trim] at hshown
  simp [laterConditions, policyConditions, hrow, hshown]

/-- The parameter stands in the part of the tenant and nowhere else. -/
theorem exists_parameter (hnamed : (statementOver settings access table intent today).WellNamed)
    (hpolicy : access.policy.Trusted) :
    ∃ before after, (statementOver settings access table intent today).tokens =
        before ++ .mark '$' :: .word ['1'] :: after ∧ .mark '$' ∉ before ++ after := by
  have hfront : .mark '$' ∉ (statementOver settings access table intent today).front :=
    fun hmem => absurd ((Statement.plain_front hnamed).marks '$' hmem) (by decide)
  have hclosing : .mark '$' ∉ (statementOver settings access table intent today).closing :=
    fun hmem => absurd ((Statement.plain_closing hnamed).marks '$' hmem) (by decide)
  have hlater : Contained parentheses (· ≠ '$') (fun _ => True) (separator.intercalate
      ((laterConditions settings access table intent today).flatMap Condition.conjuncts)) :=
    contained_intercalate (by decide) (by decide) trivial (contained_later hnamed hpolicy)
  have hnone := fun hmem => hlater.marks '$' hmem rfl
  obtain ⟨tail, htail, hquiet⟩ : ∃ tail,
      separator.intercalate (statementOver settings access table intent today).conjuncts =
        tenantPart settings.tenantColumn ++ tail ∧ .mark '$' ∉ tail := by
    rw [conjuncts_statementOver]
    cases hparts : (laterConditions settings access table intent today).flatMap
        Condition.conjuncts with
    | nil => exact ⟨[], by simp, by simp⟩
    | cons part rest =>
        rw [hparts] at hnone
        refine ⟨separator ++ separator.intercalate (part :: rest),
          by rw [List.intercalate_cons_cons, List.append_assoc], ?_⟩
        simpa [separator] using hnone
  refine ⟨(statementOver settings access table intent today).front ++
      [.mark ' ', name "WHERE", .mark ' ', name settings.tenantColumn, .mark ' ', .mark '=',
        .mark ' '],
    tail ++ .mark ' ' :: (statementOver settings access table intent today).closing, ?_, ?_⟩
  · rw [Statement.tokens_eq, htail]
    simp [tenantPart, related, spaced, signs, List.intercalate_cons_cons, name]
  · simp [hfront, hclosing, hquiet, name]

/-- The text is read back as the tokens, and no comment hides any of them. -/
theorem tokens?_statementOver
    (hnamed : (statementOver settings access table intent today).WellNamed)
    (hpolicy : access.policy.Trusted) :
    tokens? (statementOver settings access table intent today).render =
        some (statementOver settings access table intent today).tokens ∧
      CommentFree (statementOver settings access table intent today).tokens := by
  have hfits : ∀ predicate,
      .policy predicate ∈ (statementOver settings access table intent today).conditions →
        Fits parentheses (fun _ => True) (fun _ => True) predicate := by
    intro predicate hmem
    obtain ⟨tokens, htokens, hfits⟩ := fits_policy hpolicy hmem
    exact ⟨tokens, htokens, hfits.mono (fun _ _ => trivial) fun _ h => h⟩
  have hcontained := Statement.contained_tokens hnamed (Roomy.grouping fun _ _ => trivial) trivial
    hfits
  exact ⟨Statement.tokens?_render hcontained.spaced fun predicate hmem =>
    (hfits predicate hmem).imp fun _ h => h.1, hcontained.commentFree⟩

/-- No part ends the clause or adds an alternative. -/
theorem undisturbing_statementOver
    (hnamed : (statementOver settings access table intent today).WellNamed)
    (hpolicy : access.policy.Trusted) :
    ∀ part ∈ (statementOver settings access table intent today).conjuncts, Undisturbing part := by
  intro part hpart
  obtain ⟨condition, hmem, hpart⟩ := List.mem_flatMap.mp hpart
  refine undisturbing_conjunct
    (fun text htext => hnamed.names text (Statement.mem_names_of_condition hmem htext)) ?_
    part hpart
  rintro predicate rfl
  obtain ⟨tokens, htokens, hfits⟩ := fits_policy hpolicy hmem
  exact ⟨tokens, htokens, hfits.balanced⟩

/-- The parts of the clause, as texts. -/
theorem conjuncts_whereClause
    (hnamed : (statementOver settings access table intent today).WellNamed)
    (hpolicy : access.policy.Trusted) (htenant : Identifier.isCanonical settings.tenantColumn) :
    conjuncts (whereClause (statementOver settings access table intent today).tokens) =
      (settings.tenantColumn ++ " = $1") ::
        ((laterConditions settings access table intent today).flatMap Condition.conjuncts).map
          fun part => String.ofList (Text.trimChars (textOf part)) := by
  have hparts := undisturbing_statementOver hnamed hpolicy
  have hsplit : ∀ part ∈ (statementOver settings access table intent today).conjuncts,
      Balanced parentheses part ∧ NoOuter ["and"] part :=
    fun part hpart => ⟨(hparts part hpart).1, (hparts part hpart).2.mono (by decide)⟩
  rw [Statement.whereClause_tokens hnamed hparts,
    conjuncts_intercalate (by simp [conjuncts_statementOver]) hsplit, conjuncts_statementOver,
    List.map_cons, trimmed_tenantPart (Identifier.isName_of_isCanonical htenant)]

theorem head?_laterParts (hpolicy : access.policy.Trusted) {predicate : String}
    (hrow : access.rowPredicate table = some predicate) (hshown : ¬ Text.isBlankText predicate) :
    (((laterConditions settings access table intent today).flatMap Condition.conjuncts).map
      fun part => String.ofList (Text.trimChars (textOf part))).head? =
        some ("(" ++ Text.trim predicate ++ ")") := by
  obtain ⟨rest, hlater⟩ := List.head?_eq_some_iff.mp
    (head?_later settings intent today hrow hshown)
  have hmem : .policy (Text.trim predicate) ∈
      (statementOver settings access table intent today).conditions := by
    rw [statementOver, conditions_fst, hlater]
    simp
  obtain ⟨tokens, hread, -⟩ := fits_policy hpolicy hmem
  rw [hlater, List.flatMap_cons, Condition.conjuncts, hread]
  simpa using trimmed_policyPart hread

/-- There is no alternative to the parts of the clause. -/
theorem not_isOuter_or (hnamed : (statementOver settings access table intent today).WellNamed)
    (hpolicy : access.policy.Trusted) :
    ∀ place ∈ whereClause (statementOver settings access table intent today).tokens,
      isOuter "or" place = false := by
  have hparts := undisturbing_statementOver hnamed hpolicy
  obtain ⟨hbalanced, hor⟩ := undisturbing_intercalate ["or"] (by decide) (by decide) hparts
  rw [Statement.whereClause_tokens hnamed hparts]
  exact fun place hmem => hor.padded hbalanced place hmem "or" (by simp)

end Statement

/-- Every statement is bound to one tenant: its conditions begin with the tenant's and the
policy's, there is no alternative to them, and nothing else asks for the parameter. -/
theorem tenant_isolation {settings : Settings} {access : Access} {intent : Intent} {today : Date}
    (hsettings : settings.fault? = none) (hpolicy : access.policy.Trusted)
    (hsuccess : (compileOn settings access intent today).success) :
    ∃ table sql tokens rest,
      resolveTable? settings intent.table = some table ∧
      (compileOn settings access intent today).sql = some sql ∧
      tokens? sql = some tokens ∧ CommentFree tokens ∧
      conjuncts (whereClause tokens) = (settings.tenantColumn ++ " = $1") :: rest ∧
      (∀ predicate, access.rowPredicate table = some predicate → ¬ Text.isBlankText predicate →
        rest.head? = some ("(" ++ Text.trim predicate ++ ")")) ∧
      (∀ place ∈ whereClause tokens, isOuter "or" place = false) ∧
      ∃ before after, tokens = before ++ .mark '$' :: .word ['1'] :: after ∧
        .mark '$' ∉ before ++ after := by
  obtain ⟨table, hadmitted⟩ := success_iff.mp hsuccess
  have htenant := isCanonical_tenantColumn hsettings
  have hnamed := wellNamed_statementOver access intent today htenant
    (isCanonicalTable_of_resolveTable? hadmitted.resolved)
  obtain ⟨htokens, hquiet⟩ := tokens?_statementOver hnamed hpolicy
  refine ⟨table, _, _, _, hadmitted.resolved, sql_of_admitted hadmitted today, htokens, hquiet,
    conjuncts_whereClause hnamed hpolicy htenant, ?_, not_isOuter_or hnamed hpolicy,
    exists_parameter hnamed hpolicy⟩
  exact fun predicate hrow hshown => head?_laterParts hpolicy hrow hshown

theorem tenant_isolation_orders :
    ∃ sql tokens rest,
      (compileOn {} ⟨Sample.policy.toPolicy, Sample.caller⟩ Sample.intent Sample.day).sql =
        some sql ∧
      tokens? sql = some tokens ∧
      conjuncts (whereClause tokens) = "company_code = $1" :: "(region = 'n''orth')" :: rest := by
  have hsettings : ({} : Settings).fault? = none := by decide
  have hpolicy : Sample.policy.toPolicy.Trusted := .declared (by decide)
  have hsuccess : (compileOn {} ⟨Sample.policy.toPolicy, Sample.caller⟩ Sample.intent
      Sample.day).success := by
    decide
  obtain ⟨table, sql, tokens, rest, htable, hsql, htokens, -, hparts, hrow, -⟩ :=
    tenant_isolation hsettings hpolicy hsuccess
  obtain rfl : "orders" = table := Option.some_inj.mp htable
  obtain ⟨later, rfl⟩ := List.head?_eq_some_iff.mp
    (hrow "region = 'n''orth'" (by decide) (by decide))
  exact ⟨sql, tokens, later, hsql, htokens, hparts⟩

end TenantQuery
