import Mathlib.Data.List.Forall2
/-!
Lists that go together element by element: what is done to one of them shows in the other.
-/

namespace TenantQuery

variable {α β : Type} {R : α → β → Prop}

/-- What is at a place in the second list is alike to what is at the same place in the first. -/
theorem exists_getElem?_of_forall₂ {values : List α} {others : List β}
    (h : List.Forall₂ R values others) {i : Nat} {other : β} (hother : others[i]? = some other) :
    ∃ value, values[i]? = some value ∧ R value other := by
  induction h generalizing i with
  | nil => simp at hother
  | @cons value _ values _ hhead _ ih =>
      cases i with
      | zero =>
          cases hother
          exact ⟨value, rfl, hhead⟩
      | succ i => exact ih hother

theorem map_eq_of_forall₂ {γ : Type} {f : α → γ} {g : β → γ} {first : List α} {second : List β}
    (h : List.Forall₂ R first second) (hsame : ∀ a b, R a b → f a = g b) :
    first.map f = second.map g := by
  rw [← List.forall₂_eq_eq_eq, List.forall₂_map_left_iff, List.forall₂_map_right_iff]
  exact h.imp hsame

/-- What is alike is alike under the same names. -/
theorem forall₂_zip {values : List α} {others : List β} (h : List.Forall₂ R values others)
    (names : List String) :
    List.Forall₂ (fun entry other => entry.1 = other.1 ∧ R entry.2 other.2) (names.zip values)
      (names.zip others) := by
  induction h generalizing names with
  | nil => simp
  | cons hhead _ ih =>
      cases names with
      | nil => exact .nil
      | cons name names => exact .cons ⟨rfl, hhead⟩ (ih names)

/-- Under the same keys the same is found, in what is alike. -/
theorem rel_lookup {entries : List (String × α)} {others : List (String × β)}
    (h : List.Forall₂ (fun entry other => entry.1 = other.1 ∧ R entry.2 other.2) entries others)
    (key : String) : Option.Rel R (entries.lookup key) (others.lookup key) := by
  induction h with
  | nil => exact .none
  | @cons entry other entries others hhead _ ih =>
      obtain ⟨hkey, hvalue⟩ := hhead
      rw [List.lookup_cons, List.lookup_cons, hkey]
      split
      · exact .some hvalue
      · exact ih

/-- Attempts succeed together when each of them does, and then their results are those of each. -/
theorem mapM_eq_some_iff {attempt : α → Option β} {items : List α} {found : List β} :
    items.mapM attempt = some found ↔
      List.Forall₂ (fun item value => attempt item = some value) items found := by
  induction items generalizing found with
  | nil => cases found <;> simp
  | cons item items ih =>
      simp only [List.mapM_cons, Option.bind_eq_bind, Option.bind_eq_some_iff, ih]
      constructor
      · rintro ⟨value, hvalue, values, hvalues, hfound⟩
        cases hfound
        exact .cons hvalue hvalues
      · rintro (_ | ⟨hvalue, hvalues⟩)
        exact ⟨_, hvalue, _, hvalues, rfl⟩

end TenantQuery
