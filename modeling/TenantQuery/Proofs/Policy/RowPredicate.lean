import TenantQuery.Proofs.Policy.CanonicalNames
import TenantQuery.Proofs.Sql.Outline
import TenantQuery.Proofs.Sql.Texts
import TenantQuery.Proofs.Sql.Trimmed
/-!
The row conditions of a declared policy, as tokens.

In a policy without faults every row filter is over a name, so its condition is contained
whatever the attribute of the caller is, and the attributes are its only literals.
-/

namespace TenantQuery

/-- A condition on rows that cannot be told from one of the statement's own: its literals and
parentheses are closed, and it has neither a comment nor a parameter. -/
def Sql.SelfContained (predicate : String) : Prop :=
  ∃ tokens, Sql.tokens? predicate = some tokens ∧ Sql.Balanced Sql.parentheses tokens ∧
    Sql.CommentFree tokens ∧ Sql.Token.mark '$' ∉ tokens

/-- The policies whose row conditions can stand in a statement. -/
inductive AccessPolicy.Trusted : AccessPolicy → Prop where
  /-- A declared policy without faults. -/
  | declared {allowlist : Allowlist} (h : allowlist.fault? = none) :
      Trusted allowlist.toPolicy
  /-- Any other source of row conditions that are self-contained. -/
  | port {policy : AccessPolicy}
      (h : ∀ table caller predicate, policy.rowPredicate table caller = some predicate →
        Sql.SelfContained predicate) : Trusted policy

/-- The attributes of a caller that the row conditions of a table compare with. -/
def Allowlist.rowTexts (allowlist : Allowlist) (table : String) (caller : Caller) :
    List String :=
  match allowlist.admitted? table caller with
  | some rules =>
    if rules.rowFilters.isEmpty || caller.hasAnyRole rules.exemptRoles then []
    else rules.rowFilters.filterMap fun filter => caller.attribute? filter.userAttribute
  | none => []

open Sql

namespace RowCondition

def tokens : RowCondition → List Token
  | .equals field value => related [name field] "=" [.literal value.toList]
  | .never => [name "FALSE"]

def names : RowCondition → List String
  | .equals field _ => [field]
  | .never => []

def texts : RowCondition → List String
  | .equals _ value => [value]
  | .never => []

theorem textOf_tokens (condition : RowCondition) :
    textOf condition.tokens = condition.render.toList := by
  cases condition with
  | never => simp [tokens, render]
  | equals field value => simp [tokens, render, toList_quote]

theorem literals_tokens (condition : RowCondition) :
    literals condition.tokens = condition.texts.map String.toList := by
  cases condition <;> simp [tokens, texts]

theorem plain_tokens {condition : RowCondition} {names : List String}
    (h : ∀ text ∈ condition.names, Identifier.isCanonical text ∧ text ∈ names) :
    Plain keywords names condition.tokens := by
  cases condition with
  | never => exact .keyword (List.Subset.refl keywords) (by decide)
  | equals field value =>
      obtain ⟨hfield, hmem⟩ := h field (List.mem_singleton.mpr rfl)
      exact .related (by decide) (.column (Identifier.isName_of_isCanonical hfield) hmem)
        (.literal value.toList)

/-- A row filter is over its own column alone. -/
theorem names_ofFilter_subset (caller : Caller) (filter : RowFilter) :
    (ofFilter caller filter).names ⊆ [filter.field] := by
  unfold ofFilter
  cases caller.attribute? filter.userAttribute with
  | none => exact List.nil_subset _
  | some value => exact List.Subset.refl _

end RowCondition

namespace Allowlist

variable {allowlist : Allowlist} {table : String} {caller : Caller}

/-- Rules that apply to a caller are listed, so they have no fault. -/
theorem isCanonical_of_admitted? (hfault : allowlist.fault? = none) {rules : TableRules}
    (hrules : allowlist.admitted? table caller = some rules) :
    ∀ filter ∈ rules.rowFilters, Identifier.isCanonical filter.field :=
  ((fault?_eq_none_iff.mp hfault).rules _ (mem_of_admitted? hrules)).rowFilters

theorem attributeTexts (caller : Caller) (filters : List RowFilter) :
    (filters.map (RowCondition.ofFilter caller)).flatMap RowCondition.texts =
      filters.filterMap fun filter => caller.attribute? filter.userAttribute := by
  induction filters with
  | nil => rfl
  | cons filter rest ih =>
      simp only [List.map_cons, List.flatMap_cons, ih, RowCondition.ofFilter, List.filterMap_cons]
      cases caller.attribute? filter.userAttribute <;> rfl

theorem rowTexts_of_none (h : allowlist.toPolicy.rowPredicate table caller = none) :
    allowlist.rowTexts table caller = [] := by
  unfold rowTexts
  change (allowlist.admitted? table caller).bind (·.rowPredicate caller) = none at h
  cases hrules : allowlist.admitted? table caller with
  | none => rfl
  | some rules =>
      rw [hrules] at h
      have hnone : rules.rowConditions? caller = none := Option.map_eq_none_iff.mp h
      unfold TableRules.rowConditions? at hnone
      split at hnone
      · rename_i hexempt
        simp only [hexempt, ↓reduceIte]
      · cases hnone

/-- The row filters of rules that have no fault, as tokens. -/
theorem tokens?_rowConditions {rules : TableRules}
    (hcanonical : ∀ filter ∈ rules.rowFilters, Identifier.isCanonical filter.field)
    {predicate : String} (h : rules.rowPredicate caller = some predicate) :
    let tokens := separator.intercalate
      ((rules.rowFilters.map (RowCondition.ofFilter caller)).map RowCondition.tokens)
    tokens? predicate = some tokens ∧
      Plain keywords (rules.rowFilters.map RowFilter.field) tokens := by
  obtain ⟨conditions, hconditions, rfl⟩ := Option.map_eq_some_iff.mp h
  unfold TableRules.rowConditions? at hconditions
  split at hconditions
  · cases hconditions
  · cases hconditions
    have hplain : ∀ part ∈ (rules.rowFilters.map (RowCondition.ofFilter caller)).map
        RowCondition.tokens, Plain keywords (rules.rowFilters.map RowFilter.field) part := by
      intro part hpart
      simp only [List.mem_map, exists_exists_and_eq_and] at hpart
      obtain ⟨filter, hmem, rfl⟩ := hpart
      apply RowCondition.plain_tokens
      intro text htext
      rw [List.mem_singleton.mp (RowCondition.names_ofFilter_subset caller filter htext)]
      exact ⟨hcanonical filter hmem, List.mem_map_of_mem hmem⟩
    have hcontained := contained_intercalate (List.Subset.refl allBrackets)
      (by decide) (.inl (List.mem_map_of_mem (by decide))) hplain
    refine ⟨tokens?_eq_some_iff.mpr ⟨?_, hcontained.spaced⟩, hcontained⟩
    rw [textOf_intercalate, String.toList_intercalate]
    simp [Function.comp_def, RowCondition.textOf_tokens, separator]

/-- The row conditions of a policy without faults, as tokens. -/
theorem exists_tokens_rowPredicate (hfault : allowlist.fault? = none) {predicate : String}
    (h : allowlist.toPolicy.rowPredicate table caller = some predicate) :
    ∃ tokens names, tokens? predicate = some tokens ∧ Plain keywords names tokens ∧
      literals tokens = (allowlist.rowTexts table caller).map String.toList := by
  obtain ⟨rules, hrules, hrow⟩ := Option.bind_eq_some_iff.mp h
  obtain ⟨htokens, hplain⟩ :=
    tokens?_rowConditions (isCanonical_of_admitted? hfault hrules) hrow
  refine ⟨_, _, htokens, hplain, ?_⟩
  have happly : ¬ (rules.rowFilters.isEmpty || caller.hasAnyRole rules.exemptRoles) := by
    intro hexempt
    simp [TableRules.rowPredicate, TableRules.rowConditions?, hexempt] at hrow
  rw [literals_intercalate rfl, rowTexts, hrules]
  simp only [happly]
  rw [← attributeTexts]
  simp [List.flatMap_map, List.map_flatMap, RowCondition.literals_tokens]

theorem exists_tokens_trim (hfault : allowlist.fault? = none) {predicate : String}
    (h : allowlist.toPolicy.rowPredicate table caller = some predicate) :
    ∃ tokens names, tokens? (Text.trim predicate) = some tokens ∧ Plain keywords names tokens ∧
      literals tokens = (allowlist.rowTexts table caller).map String.toList := by
  obtain ⟨tokens, names, htokens, hplain, hliterals⟩ := exists_tokens_rowPredicate hfault h
  obtain ⟨inner, hinner, hsame, hcontained⟩ :=
    Contained.trim (List.Subset.refl allBrackets) htokens hplain
  exact ⟨inner, names, hinner, hcontained, hsame.trans hliterals⟩

end Allowlist

/-- The row conditions of a trusted policy are self-contained. -/
theorem AccessPolicy.Trusted.selfContained {policy : AccessPolicy} (h : policy.Trusted)
    {table : String} {caller : Caller} {predicate : String}
    (hrow : policy.rowPredicate table caller = some predicate) :
    Sql.SelfContained predicate := by
  cases h with
  | port hport => exact hport table caller predicate hrow
  | declared hfault =>
      obtain ⟨tokens, names, htokens, hplain, -⟩ :=
        Allowlist.exists_tokens_rowPredicate hfault hrow
      refine ⟨tokens, htokens, hplain.balanced.parentheses_of_all, hplain.commentFree, ?_⟩
      exact fun hmem => absurd (hplain.marks '$' hmem) (by decide)

/-- A policy under which a caller sees the orders of one region. -/
def Sample.policy : Allowlist where
  tables := [("orders",
    { fields := ["amount", "ordered_on", "region"], rowFilters := [⟨"region", "area"⟩] })]

end TenantQuery
