import TenantQuery.Proofs.Json.Kind
import TenantQuery.Proofs.Sql.Rendering
/-!
Which values have a literal, and how the literal of a text is read.
-/

namespace TenantQuery

/-- The value is a single one: a string, a number or a truth value. -/
def Json.IsScalar (value : Json) : Prop :=
  value.kind ∈ [.string, .number, .bool]

namespace Sql

namespace Literal

theorem isSome_ofJson?_iff {value : Json} : (ofJson? value).isSome ↔ value.IsScalar := by
  cases value <;> simp [ofJson?, Json.IsScalar, Json.kind]

/-- A list of literals needs a literal of each item. -/
theorem isSome_mapM_ofJson? (items : List Json) :
    (items.mapM ofJson?).isSome = items.all fun item => (ofJson? item).isSome := by
  induction items with
  | nil => rfl
  | cons item rest ih =>
      rw [List.mapM_cons, List.all_cons, ← ih]
      cases ofJson? item with
      | none => rfl
      | some literal => cases rest.mapM ofJson? <;> rfl

end Literal

/-- A quoted text is read as one literal that stands for the text. -/
theorem tokens?_quote (text : String) : tokens? (quote text) = some [.literal text.toList] := by
  rw [tokens?_eq_some_iff, toList_quote]
  exact ⟨by simp, wellSpaced_cons_iff.mpr ⟨trivial, by simp, .nil⟩⟩

end Sql

end TenantQuery
