import Mathlib.Data.Option.Basic
import TenantQuery.Proofs.IntentReading
import TenantQuery.Proofs.Json.Kind
import TenantQuery.Proofs.Json.Members
/-!
The places of values in a JSON text.

A place is where the reader stands in front of a value.  The parts of the value have places of
their own, and at each of them the reader finds the part: the items of an array in their order,
and under each key of an object the last value that is written there.
-/

namespace TenantQuery

namespace Json

/-- A place in a text: the characters from there on, and what the reader has left of its fuel and
of the levels that may open. -/
structure Place where
  fuel : Nat
  depth : Nat
  chars : List Char
deriving DecidableEq

/-- The places of the items of an array whose opening bracket has been read, as far as the items
can be read. -/
def itemPlaces : Nat → Nat → List Char → List Place
  | 0, _, _ => []
  | fuel + 1, depth, chars =>
    match value? fuel depth chars with
    | none => []
    | some (_, left) =>
      ⟨fuel, depth, chars⟩ ::
        match skipSpace left with
        | ',' :: rest => itemPlaces fuel depth rest
        | _ => []

/-- The places of the values of an object whose opening bracket has been read, each under its key,
as far as the values can be read. -/
def memberPlaces : Nat → Nat → List Char → List (String × Place)
  | 0, _, _ => []
  | fuel + 1, depth, chars =>
    match skipSpace chars with
    | '"' :: rest =>
      match stringText? rest with
      | none => []
      | some (key, rest) =>
        match skipSpace rest with
        | ':' :: rest =>
          match value? fuel depth rest with
          | none => []
          | some (_, left) =>
            (key, ⟨fuel, depth, rest⟩) ::
              match skipSpace left with
              | ',' :: rest => memberPlaces fuel depth rest
              | _ => []
        | _ => []
    | _ => []

namespace Place

def ofText (text : String) : Place where
  fuel := 2 * text.toList.length + 2
  depth := maxDepth
  chars := text.toList

/-- What is read at a place, and the characters left. -/
def read? (place : Place) : Option (Json × List Char) :=
  Json.value? place.fuel place.depth place.chars

def value? (place : Place) : Option Json :=
  place.read?.map Prod.fst

def text? (place : Place) : Option (List Char) :=
  place.read?.map fun found => writtenText place.chars found.2

/-- The places of the items, where an array stands. -/
def items : Place → List Place
  | ⟨fuel + 1, depth + 1, chars⟩ =>
    match skipSpace chars with
    | '[' :: rest => itemPlaces fuel depth (skipSpace rest)
    | _ => []
  | _ => []

/-- The places of the values and their keys, where an object stands. -/
def members : Place → List (String × Place)
  | ⟨fuel + 1, depth + 1, chars⟩ =>
    match skipSpace chars with
    | '{' :: rest => memberPlaces fuel depth (skipSpace rest)
    | _ => []
  | _ => []

/-- The place of the value that counts under a key. -/
def member? (place : Place) (key : String) : Option Place :=
  place.members.reverse.lookup key

/-- A place inside of another one: the place itself, or one in an item or a member there. -/
inductive Within : Place → Place → Prop where
  | refl (place : Place) : Within place place
  | item {inner part outer : Place} (hitem : part ∈ outer.items) (hinner : Within inner part) :
      Within inner outer
  | member {inner part outer : Place} {key : String} (hmember : (key, part) ∈ outer.members)
      (hinner : Within inner part) : Within inner outer

end Place

def member? (key : String) : Json → Option Json
  | .object members => Dictionary.get? members key
  | _ => none

variable {fuel depth : Nat} {chars left : List Char} {place : Place} {value : Json}

/-- At the place of every item the item is read. -/
theorem forall₂_itemPlaces {items : List Json} (h : items? fuel depth chars = some (items, left)) :
    List.Forall₂ (fun item place => place.value? = some item) items
      (itemPlaces fuel depth chars) := by
  induction fuel generalizing chars items with
  | zero => simp [items?] at h
  | succ fuel ih =>
      rw [items?] at h
      split at h
      · cases h
      · rename_i item behind hitem
        have hplace : (⟨fuel, depth, chars⟩ : Place).value? = some item := by
          rw [Place.value?, Place.read?, hitem, Option.map_some]
        split at h
        · rename_i hclose
          cases h
          simp only [itemPlaces, hitem, hclose]
          exact .cons hplace .nil
        · rename_i next hcomma
          obtain ⟨⟨later, rest⟩, hlater, heq⟩ := Option.map_eq_some_iff.mp h
          cases heq
          simp only [itemPlaces, hitem, hcomma]
          exact .cons hplace (ih hlater)
        · cases h

/-- At the place under every key the value of the member is read. -/
theorem forall₂_memberPlaces {members : List (String × Json)}
    (h : members? fuel depth chars = some (members, left)) :
    List.Forall₂ (fun member entry => member.1 = entry.1 ∧ entry.2.value? = some member.2)
      members (memberPlaces fuel depth chars) := by
  induction fuel generalizing chars members with
  | zero => simp [members?] at h
  | succ fuel ih =>
      obtain ⟨_, key, _, afterColon, value, behind, later, hquote, htext, hcolon, hvalue, rfl,
        hrest⟩ := exists_of_members? h
      have hplace : (⟨fuel, depth, afterColon⟩ : Place).value? = some value := by
        rw [Place.value?, Place.read?, hvalue, Option.map_some]
      rcases hrest with ⟨hclose, rfl⟩ | ⟨next, hcomma, hlater⟩
      · simp only [memberPlaces, hquote, htext, hcolon, hvalue, hclose]
        exact .cons ⟨rfl, hplace⟩ .nil
      · simp only [memberPlaces, hquote, htext, hcolon, hvalue, hcomma]
        exact .cons ⟨rfl, hplace⟩ (ih hlater)

theorem itemPlaces_closing (fuel depth : Nat) (rest : List Char) :
    itemPlaces fuel depth (']' :: rest) = [] := by
  have hnone : ∀ fuel, value? fuel depth (']' :: rest) = none := by
    intro fuel
    cases fuel <;> simp [value?, skipSpace, isSpace, number?, unsignedNumber?, splitDigits]
  cases fuel <;> simp [itemPlaces, hnone]

theorem memberPlaces_closing (fuel depth : Nat) (rest : List Char) :
    memberPlaces fuel depth ('}' :: rest) = [] := by
  cases fuel <;> simp [memberPlaces, skipSpace, isSpace]

/-- What stands where a value is read.  Nothing but an array has items, and nothing but an object
has members. -/
inductive Place.Shows : Place → Json → Prop where
  | array {place : Place} {items : List Json} (hmembers : place.members = [])
      (hitems : List.Forall₂ (fun item place => place.value? = some item) items place.items) :
      Shows place (.array items)
  | object {place : Place} {members : List (String × Json)} (hitems : place.items = [])
      (hmembers : List.Forall₂
        (fun member entry => member.1 = entry.1 ∧ entry.2.value? = some member.2) members
        place.members) :
      Shows place (.object (Dictionary.ofList members))
  | other {place : Place} {value : Json} (hkind : value.kind ∉ [.array, .object])
      (hitems : place.items = []) (hmembers : place.members = []) : Shows place value

namespace Place

theorem items_eq_nil (h : (skipSpace place.chars).head? ≠ some '[') : place.items = [] := by
  unfold items
  split
  · split
    · rename_i heq
      exact absurd (congrArg List.head? heq) h
    · rfl
  · rfl

theorem members_eq_nil (h : (skipSpace place.chars).head? ≠ some '{') : place.members = [] := by
  unfold members
  split
  · split
    · rename_i heq
      exact absurd (congrArg List.head? heq) h
    · rfl
  · rfl

theorem shows_array {rest : List Char} (hopen : skipSpace place.chars = '[' :: rest)
    (h : place.read? = some (value, left)) : place.Shows value := by
  obtain ⟨fuel, depth, chars⟩ := place
  have hmembers : members ⟨fuel, depth, chars⟩ = [] := members_eq_nil (by simp [hopen])
  match fuel, depth with
  | 0, _ => simp [read?, Json.value?] at h
  | _ + 1, 0 => simp [read?, Json.value?, hopen] at h
  | fuel + 1, depth + 1 =>
      simp only [read?, Json.value?, hopen] at h
      split at h
      · rename_i hclose
        cases h
        refine .array hmembers ?_
        simp only [items, hopen, hclose, itemPlaces_closing]
        exact .nil
      · obtain ⟨⟨found, behind⟩, hfound, heq⟩ := Option.map_eq_some_iff.mp h
        cases heq
        refine .array hmembers ?_
        simp only [items, hopen]
        exact forall₂_itemPlaces hfound

theorem shows_object {rest : List Char} (hopen : skipSpace place.chars = '{' :: rest)
    (h : place.read? = some (value, left)) : place.Shows value := by
  obtain ⟨fuel, depth, chars⟩ := place
  have hitems : items ⟨fuel, depth, chars⟩ = [] := items_eq_nil (by simp [hopen])
  match fuel, depth with
  | 0, _ => simp [read?, Json.value?] at h
  | _ + 1, 0 => simp [read?, Json.value?, hopen] at h
  | fuel + 1, depth + 1 =>
      simp only [read?, Json.value?, hopen] at h
      split at h
      · rename_i hclose
        cases h
        change Shows _ (.object (Dictionary.ofList []))
        refine .object hitems ?_
        simp only [members, hopen, hclose, memberPlaces_closing]
        exact .nil
      · obtain ⟨⟨found, behind⟩, hfound, heq⟩ := Option.map_eq_some_iff.mp h
        cases heq
        refine .object hitems ?_
        simp only [members, hopen]
        exact forall₂_memberPlaces hfound

/-- Behind any other character than an opening bracket there is a single value. -/
theorem shows_other (hitems : (skipSpace place.chars).head? ≠ some '[')
    (hmembers : (skipSpace place.chars).head? ≠ some '{')
    (h : place.read? = some (value, left)) : place.Shows value := by
  refine .other ?_ (items_eq_nil hitems) (members_eq_nil hmembers)
  obtain ⟨fuel, depth, chars⟩ := place
  cases fuel with
  | zero => simp [read?, Json.value?] at h
  | succ fuel =>
      rw [read?, Json.value?] at h
      split at h
      case h_2 hopen => simp [hopen] at hitems
      case h_3 hopen => simp [hopen] at hmembers
      all_goals
        obtain ⟨_, -, heq⟩ := Option.map_eq_some_iff.mp h
        cases heq
        simp [kind]

theorem shows_of_value? (h : place.value? = some value) : place.Shows value := by
  obtain ⟨⟨_, left⟩, hread, rfl⟩ := Option.map_eq_some_iff.mp h
  by_cases hitems : (skipSpace place.chars).head? = some '['
  · obtain ⟨rest, hopen⟩ := List.head?_eq_some_iff.mp hitems
    exact shows_array hopen hread
  by_cases hmembers : (skipSpace place.chars).head? = some '{'
  · obtain ⟨rest, hopen⟩ := List.head?_eq_some_iff.mp hmembers
    exact shows_object hopen hread
  exact shows_other hitems hmembers hread

/-- The value that a text writes is read at the place of the text. -/
theorem value?_ofText {text : String} (h : parse? text = some value) :
    (ofText text).value? = some value := by
  unfold parse? at h
  dsimp only at h
  split at h
  · rename_i found left hread
    rw [Option.ite_none_right_eq_some] at h
    obtain ⟨-, heq⟩ := h
    cases heq
    exact congrArg (Option.map Prod.fst) hread
  · cases h

/-- The items of an array, in their order. -/
theorem forall₂_items {items : List Json} (h : place.value? = some (.array items)) :
    List.Forall₂ (fun item part => part.value? = some item) items place.items := by
  cases shows_of_value? h with
  | array _ hitems => exact hitems
  | other hkind => simp [kind] at hkind

/-- A single value has no place inside of it but its own. -/
theorem Within.eq_of_kind {inner outer : Place} (h : inner.Within outer)
    (hvalue : outer.value? = some value) (hkind : value.kind ∉ [.array, .object]) :
    inner = outer := by
  have hparts : outer.items = [] ∧ outer.members = [] := by
    cases shows_of_value? hvalue with
    | array => simp [kind] at hkind
    | object => simp [kind] at hkind
    | other _ hitems hmembers => exact ⟨hitems, hmembers⟩
  cases h with
  | refl => rfl
  | item hitem => simp [hparts.1] at hitem
  | member hmember => simp [hparts.2] at hmember

/-- Inside of an array there are its own place and those in its items. -/
theorem Within.eq_or_item {inner outer : Place} (h : inner.Within outer) {items : List Json}
    (hvalue : outer.value? = some (.array items)) :
    inner = outer ∨ ∃ part ∈ outer.items, inner.Within part := by
  have hmembers : outer.members = [] := by
    cases shows_of_value? hvalue with
    | array hmembers => exact hmembers
    | other hkind => simp [kind] at hkind
  cases h with
  | refl => exact .inl rfl
  | item hitem hinner => exact .inr ⟨_, hitem, hinner⟩
  | member hmember => simp [hmembers] at hmember

/-- A key of an object has a value and a place of the value, or neither of them. -/
theorem rel_member? {members : Dictionary Json} (h : place.value? = some (.object members))
    (key : String) :
    Option.Rel (fun found part => part.value? = some found) (members.get? key)
      (place.member? key) := by
  cases shows_of_value? h with
  | object _ hmembers =>
      rw [member?, Dictionary.get?_ofList]
      exact rel_lookup (List.forall₂_reverse_iff.mpr hmembers) key
  | other hkind => simp [kind] at hkind

/-- Where there is a place under a key there is an object, and the value under the key is read at
the place. -/
theorem exists_of_member? (h : place.value? = some value) {key : String} {part : Place}
    (hpart : place.member? key = some part) :
    ∃ (members : Dictionary Json) (found : Json), value = .object members ∧
      members.get? key = some found ∧ part.value? = some found := by
  obtain ⟨members, rfl⟩ : ∃ members, value = .object members := by
    cases shows_of_value? h with
    | array hmembers => simp [member?, hmembers] at hpart
    | object => exact ⟨_, rfl⟩
    | other _ _ hmembers => simp [member?, hmembers] at hpart
  have hrel := rel_member? h key
  rw [hpart] at hrel
  generalize hget : Dictionary.get? members key = found at hrel
  cases hrel with
  | some hvalue => exact ⟨members, _, rfl, hget, hvalue⟩

/-- Where an integer literal stands, its number is read. -/
theorem exists_number {literal : List Char} {v : Int} (htext : place.text? = some literal)
    (hliteral : IsIntegerLiteral literal v) :
    ∃ number rest, place.value? = some (.number number) ∧
      number? (literal ++ rest) = some (number, rest) := by
  obtain ⟨⟨value, left⟩, hread, rfl⟩ := Option.map_eq_some_iff.mp htext
  have hwritten : IsTextOf (writtenText place.chars left) value :=
    ⟨place.fuel, place.depth, place.chars, left, hread, rfl⟩
  obtain ⟨number, rest, rfl, hnumber⟩ := hwritten.integer hliteral
  exact ⟨number, rest, congrArg (Option.map Prod.fst) hread, hnumber⟩

/-- The elements of a list are read at their places. -/
theorem filterMap_items {α : Type} (h : place.value? = some value) (read? : Json → Option α) :
    (Reading.elements (some value)).filterMap read? =
      place.items.filterMap fun part => part.value?.bind read? := by
  cases shows_of_value? h with
  | array _ hitems =>
      clear h
      rw [Reading.elements]
      generalize place.items = parts at hitems ⊢
      induction hitems with
      | nil => rfl
      | cons hitem _ ih => simp only [List.filterMap_cons, hitem, Option.bind_some, ih]
  | object hitems =>
      rw [hitems]
      rfl
  | other hkind hitems =>
      rw [hitems]
      cases value <;> first | rfl | simp [kind] at hkind

/-- The place of a named field of a record, be it an object or an array that gives the fields by
position. -/
def field? (names : List String) (name : String) (place : Place) : Option Place :=
  (place.member? name).or ((names.zip place.items).lookup name)

/-- A field of a record has its place, and no other field has one. -/
theorem rel_field? {names : List String} {fields : Dictionary Json} {usable : Bool}
    (h : place.value? = some value) (hfields : Reading.fields? names value = some (fields, usable))
    (name : String) :
    Option.Rel (fun found part => part.value? = some found) (fields.get? name)
      (place.field? names name) := by
  cases shows_of_value? h with
  | @array items hmembers hitems =>
      cases hfields
      rw [field?, member?, hmembers]
      exact rel_lookup (forall₂_zip hitems names) name
  | object hitems =>
      cases hfields
      rw [field?, hitems, List.zip_nil_right, List.lookup_nil, Option.or_none]
      exact rel_member? h name
  | other hkind =>
      have hnone : Reading.fields? names value = none := by
        cases value <;> simp_all [kind, Reading.fields?]
      rw [hnone] at hfields
      cases hfields

end Place

end Json

end TenantQuery
