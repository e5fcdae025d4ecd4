import TenantQuery.Loading.Documents
/-!
The names in a declared policy, and what the check of them finds.

A policy passes the check exactly when every name in it is in canonical form: those of its tables,
and in the rules of each table those of the open columns, of the restricted ones and of the columns
of row filters.
-/

namespace TenantQuery

open Identifier

theorem unlessFault_eq_ok_iff {α : Type} {value found : α} {fault : Option ConfigFault} :
    unlessFault value fault = .ok found ↔ fault = none ∧ value = found := by
  cases fault <;> simp [unlessFault]

/-- Every name in the rules of a table can be the name of a column in a request. -/
structure TableRules.Canonical (rules : TableRules) : Prop where
  fields : ∀ field ∈ rules.fields, isCanonical field
  restrictedFields : ∀ field ∈ rules.restrictedFields.keys, isCanonical field
  rowFilters : ∀ filter ∈ rules.rowFilters, isCanonical filter.field

/-- Every name in a policy can be that of a table or of a column in a request. -/
structure Allowlist.Canonical (allowlist : Allowlist) : Prop where
  tables : ∀ entry ∈ allowlist.tables, isCanonicalTable entry.1
  rules : ∀ entry ∈ allowlist.tables, entry.2.Canonical

/-- The table lists the column, as an open or as a restricted one. -/
def TableRules.Lists (rules : TableRules) (field : String) : Prop :=
  field ∈ rules.fields ∨ field ∈ rules.restrictedFields.keys

theorem TableRules.Canonical.of_lists {rules : TableRules} (h : rules.Canonical) {field : String}
    (hlists : rules.Lists field) : isCanonical field :=
  hlists.elim (h.fields field) (h.restrictedFields field)

/-- A column that a caller may see is listed. -/
theorem TableRules.lists_of_fieldVisible {rules : TableRules} {field : String}
    {caller : Caller} (h : rules.fieldVisible field caller) :
    rules.Lists field := by
  unfold TableRules.fieldVisible at h
  cases hroles : rules.restrictedFields.get? field with
  | some roles => exact .inr (Dictionary.mem_keys_of_get? hroles)
  | none =>
      rw [hroles] at h
      exact .inl (List.contains_iff_mem.mp h)

namespace Allowlist

variable {allowlist : Allowlist} {table field : String} {caller : Caller} {rules : TableRules}

theorem tableFault?_eq_none_iff :
    tableFault? table rules = none ↔ isCanonicalTable table ∧ rules.Canonical := by
  unfold tableFault?
  cases htable : isCanonicalTable table with
  | false => simp
  | true =>
      have hnames : (rules.fields ++ rules.restrictedFields.keys).find? (!isCanonical ·) = none ↔
          (∀ field ∈ rules.fields, isCanonical field) ∧
            ∀ field ∈ rules.restrictedFields.keys, isCanonical field := by
        simp [List.find?_eq_none]
      have hfilters : rules.rowFilters.find? (!isCanonical ·.field) = none ↔
          ∀ filter ∈ rules.rowFilters, isCanonical filter.field := by
        simp [List.find?_eq_none]
      constructor
      · intro hnone
        simp only [Bool.not_true, Bool.false_eq_true, ↓reduceIte] at hnone
        split at hnone
        · cases hnone
        · rename_i hfields
          split at hnone
          · cases hnone
          · rename_i hrows
            exact ⟨rfl, (hnames.mp hfields).1, (hnames.mp hfields).2, hfilters.mp hrows⟩
      · rintro ⟨-, hfields, hrestricted, hrows⟩
        simp [hnames.mpr ⟨hfields, hrestricted⟩, hfilters.mpr hrows]

/-- The check goes through all rules and stops at the first name that is not in canonical form. -/
theorem fault?_eq_none_iff : allowlist.fault? = none ↔ allowlist.Canonical := by
  rw [fault?, List.findSome?_eq_none_iff]
  simp only [tableFault?_eq_none_iff]
  exact ⟨fun h => ⟨fun entry hentry => (h entry hentry).1, fun entry hentry => (h entry hentry).2⟩,
    fun h entry hentry => ⟨h.tables entry hentry, h.rules entry hentry⟩⟩

theorem validate_eq_ok_iff : allowlist.validate = .ok allowlist ↔ allowlist.Canonical := by
  rw [validate, unlessFault_eq_ok_iff, fault?_eq_none_iff]
  exact and_iff_left rfl

/-- Rules that apply to a caller are listed under the name of the table. -/
theorem mem_of_admitted? (h : allowlist.admitted? table caller = some rules) :
    (table, rules) ∈ allowlist.tables :=
  Dictionary.mem_of_get? (Option.filter_eq_some_iff.mp h).1

/-- What a caller may name is listed in rules that apply to the caller. -/
theorem exists_of_fieldAllowed (h : allowlist.toPolicy.fieldAllowed table field caller) :
    ∃ rules, allowlist.admitted? table caller = some rules ∧ rules.Lists field := by
  simp only [toPolicy] at h
  cases hrules : allowlist.admitted? table caller with
  | none => simp [hrules] at h
  | some rules =>
      rw [hrules] at h
      exact ⟨rules, rfl, TableRules.lists_of_fieldVisible h⟩

end Allowlist

end TenantQuery
