import TenantQuery.Proofs.Compilation.Outcome
/-!
Which departures leave an element of the request out, and which elements are left out.

An element that cannot be used is dropped with one departure that says so; the departures of an
element that is used are about its output name or its time window.
-/

namespace TenantQuery

open Sql Compilation Identifier

/-- The departure left an element of the request out. -/
def Adjustment.isDrop : Adjustment → Bool
  | .fieldIllFormed _ | .fieldDenied _ _ | .timeFilterDropped | .valueMissing _ _
  | .valueUnusable _ _ | .sortKeyIllFormed | .sortKeyUnmatched _ => true
  | .nameReserved _ _ _ | .nameIllFormed _ _ | .nameTaken _ _ _ | .windowReplaced _ _ => false

/-- The departure gave a column another output name. -/
def Adjustment.isNaming : Adjustment → Bool
  | .nameReserved _ _ _ | .nameIllFormed _ _ | .nameTaken _ _ _ => true
  | .fieldIllFormed _ | .fieldDenied _ _ | .timeFilterDropped | .windowReplaced _ _
  | .valueMissing _ _ | .valueUnusable _ _ | .sortKeyIllFormed | .sortKeyUnmatched _ => false

theorem Adjustment.isDrop_of_isNaming {adjustment : Adjustment} (h : adjustment.isNaming) :
    adjustment.isDrop = false := by
  cases adjustment <;> first | rfl | cases h

/-- An entry of the order means one of the columns. -/
def OrderSpec.matches (columns : List Column) (entry : OrderSpec) : Bool :=
  isIdentifier entry.field && columns.any fun column =>
    column.outputName == canonical entry.field || column.field == canonical entry.field

namespace Compilation

variable {access : Access} {table : String} {adjustment : Adjustment}

/-- A field is refused by dropping it. -/
theorem isDrop_of_authorize_error {role : FieldRole} {field : String}
    (h : authorize access table role field = .error adjustment) : adjustment.isDrop := by
  unfold authorize at h
  split at h
  · cases h
    rfl
  · simp only [] at h
    split at h
    · cases h
    · cases h
      rfl

/-- A column that is selected is at most renamed. -/
theorem isNaming_resolveName (taken : List String) (field : String) (requested : Option String)
    (default : String) :
    ∀ adjustment ∈ (resolveName taken field requested default).2, adjustment.isNaming := by
  intro adjustment hmem
  rcases mem_resolveName_snd hmem with ⟨_, _, rfl⟩ | ⟨_, rfl⟩ | ⟨_, _, rfl⟩ <;> rfl

/-- A filter without a condition is dropped. -/
theorem isDrop_of_filterCondition_error {filter : Filter}
    (h : filterCondition access table filter = .error adjustment) : adjustment.isDrop := by
  unfold filterCondition at h
  cases hresult : authorize access table .filter filter.field with
  | error other =>
      rw [hresult] at h
      cases h
      exact isDrop_of_authorize_error hresult
  | ok field =>
      rw [hresult] at h
      simp only [] at h
      split at h
      · cases h
      · split at h <;> cases h <;> rfl

/-- An entry without a sort key is dropped. -/
theorem isDrop_of_sortKey_error {columns : List Column} {entry : OrderSpec}
    (h : sortKey columns entry = .error adjustment) : adjustment.isDrop := by
  unfold sortKey at h
  split at h
  · cases h
    rfl
  · simp only [] at h
    split at h
    · cases h
    · cases h
      rfl

theorem isSome_targetColumn? (columns : List Column) (text : String) :
    (targetColumn? columns text).isSome =
      columns.any fun column => column.outputName == text || column.field == text := by
  rw [Bool.eq_iff_iff, targetColumn?, Option.isSome_or, Bool.or_eq_true, List.find?_isSome,
    List.find?_isSome, List.any_eq_true]
  constructor
  · rintro (⟨column, hmem, hsame⟩ | ⟨column, hmem, hsame⟩)
    · exact ⟨column, hmem, by simp [hsame]⟩
    · exact ⟨column, hmem, by simp [hsame]⟩
  · rintro ⟨column, hmem, hsame⟩
    rcases Bool.or_eq_true_iff.mp hsame with hsame | hsame
    · exact .inl ⟨column, hmem, hsame⟩
    · exact .inr ⟨column, hmem, hsame⟩

/-- An entry becomes a sort key exactly when it means a column. -/
theorem matches_iff {columns : List Column} {entry : OrderSpec} :
    entry.matches columns ↔ ∃ key, sortKey columns entry = .ok key := by
  rw [OrderSpec.matches, ← isSome_targetColumn?, Bool.and_eq_true, Option.isSome_iff_exists]
  constructor
  · rintro ⟨hname, column, htarget⟩
    exact ⟨_, sortKey_eq_ok_iff.mpr ⟨hname, column, htarget, rfl⟩⟩
  · rintro ⟨key, hkey⟩
    obtain ⟨hname, column, htarget, -⟩ := sortKey_eq_ok_iff.mp hkey
    exact ⟨hname, column, htarget⟩

end Compilation

end TenantQuery
