import TenantQuery.Proofs.Json.IntegerLiteral
import TenantQuery.Proofs.PairedLists
/-!
The members of an object as they are written: under each key the characters of its value.

They are found along the way of the reader.  The value under a key is that of the last text that
is written under it.
-/

namespace TenantQuery

namespace Json

/-- The characters of a value, with nothing blank in front, where the rest is left behind it. -/
def writtenText (chars left : List Char) : List Char :=
  (skipSpace chars).take ((skipSpace chars).length - left.length)

/-- The characters of the values of an object whose opening bracket has been read, each under its
key, as far as they can be read. -/
def memberTexts : Nat → Nat → List Char → List (String × List Char)
  | 0, _, _ => []
  | fuel + 1, depth, chars =>
    match skipSpace chars with
    | '"' :: rest =>
      match stringText? rest with
      | none => []
      | some (key, rest) =>
        match skipSpace rest with
        | ':' :: rest =>
          match value? fuel depth rest with
          | none => []
          | some (_, left) =>
            (key, writtenText rest left) ::
              match skipSpace left with
              | ',' :: rest => memberTexts fuel depth rest
              | _ => []
        | _ => []
    | _ => []

/-- The characters of the last value under a key of the object that a text writes. -/
def memberText? (key text : String) : Option (List Char) :=
  match skipSpace text.toList with
  | '{' :: rest =>
    (memberTexts (2 * text.toList.length + 1) (maxDepth - 1) (skipSpace rest)).reverse.lookup key
  | _ => none

/-- The reader finds the value where these characters stand. -/
def IsTextOf (text : List Char) (value : Json) : Prop :=
  ∃ fuel depth chars left, value? fuel depth chars = some (value, left) ∧
    text = writtenText chars left

variable {fuel depth : Nat} {chars left : List Char} {members : List (String × Json)}

/-- What the reader finds on its way over the members: one of them, and behind it the closing
bracket or the other members. -/
theorem exists_of_members? (h : members? (fuel + 1) depth chars = some (members, left)) :
    ∃ (afterQuote : List Char) (key : String) (afterKey afterColon : List Char) (value : Json)
      (behind : List Char) (later : List (String × Json)),
      skipSpace chars = '"' :: afterQuote ∧ stringText? afterQuote = some (key, afterKey) ∧
      skipSpace afterKey = ':' :: afterColon ∧ value? fuel depth afterColon = some (value, behind) ∧
      members = (key, value) :: later ∧
      ((skipSpace behind = '}' :: left ∧ later = []) ∨
        ∃ next, skipSpace behind = ',' :: next ∧
          members? fuel depth next = some (later, left)) := by
  rw [members?] at h
  split at h
  · rename_i afterQuote hquote
    split at h
    · cases h
    · rename_i key afterKey htext
      split at h
      · rename_i afterColon hcolon
        split at h
        · cases h
        · rename_i value behind hvalue
          split at h
          · rename_i hclose
            cases h
            exact ⟨_, _, _, _, _, _, _, hquote, htext, hcolon, hvalue, rfl, .inl ⟨hclose, rfl⟩⟩
          · rename_i next hcomma
            obtain ⟨⟨later, rest⟩, hlater, heq⟩ := Option.map_eq_some_iff.mp h
            cases heq
            exact ⟨_, _, _, _, _, _, _, hquote, htext, hcolon, hvalue, rfl,
              .inr ⟨next, hcomma, hlater⟩⟩
          · cases h
      · cases h
  · cases h

/-- Every member that is read has its text. -/
theorem forall₂_memberTexts (h : members? fuel depth chars = some (members, left)) :
    List.Forall₂ (fun member written => member.1 = written.1 ∧ IsTextOf written.2 member.2)
      members (memberTexts fuel depth chars) := by
  induction fuel generalizing chars members with
  | zero => simp [members?] at h
  | succ fuel ih =>
      obtain ⟨_, key, _, afterColon, value, behind, later, hquote, htext, hcolon, hvalue, rfl,
        hrest⟩ := exists_of_members? h
      have hwritten : IsTextOf (writtenText afterColon behind) value :=
        ⟨fuel, depth, afterColon, behind, hvalue, rfl⟩
      rcases hrest with ⟨hclose, rfl⟩ | ⟨next, hcomma, hlater⟩
      · simp only [memberTexts, hquote, htext, hcolon, hvalue, hclose]
        exact .cons ⟨rfl, hwritten⟩ .nil
      · simp only [memberTexts, hquote, htext, hcolon, hvalue, hcomma]
        exact .cons ⟨rfl, hwritten⟩ (ih hlater)

end Json

/-- In a dictionary that is made of entries, the last entry under a key counts. -/
theorem Dictionary.get?_ofList {α : Type} (entries : List (String × α)) (key : String) :
    Dictionary.get? (Dictionary.ofList entries) key = entries.reverse.lookup key := by
  induction entries using List.reverseRecOn with
  | nil => rfl
  | append_singleton entries entry ih =>
      have hinsert : Dictionary.ofList (entries ++ [entry]) =
          Dictionary.insert entry.1 entry.2 (Dictionary.ofList entries) := by
        simp [Dictionary.ofList]
      rw [hinsert, List.reverse_append, List.reverse_singleton, List.singleton_append,
        List.lookup_cons]
      by_cases hkey : key = entry.1
      · simp [hkey]
      · have hbeq : (key == entry.1) = false := by simpa using hkey
        rw [Dictionary.get?_insert_of_ne hkey, ih, hbeq]

/-- An entry behind all others stays there. -/
theorem Dictionary.insert_of_last {α : Type} {key : String} {entries : Dictionary α}
    (h : ∀ entry ∈ entries, entry.1 < key) (value : α) :
    entries.insert key value = entries ++ [(key, value)] := by
  induction entries with
  | nil => rfl
  | cons entry entries ih =>
      obtain ⟨other, kept⟩ := entry
      obtain ⟨hother, hrest⟩ := List.forall_mem_cons.mp h
      have hne : key ≠ other := fun heq => String.lt_irrefl key (heq ▸ hother)
      simp only [insert, String.lt_asymm hother, hne, ↓reduceIte, ih hrest, List.cons_append]

/-- Entries in the order of their keys are a dictionary as they are. -/
theorem Dictionary.ofList_of_sorted {α : Type} {entries : List (String × α)}
    (h : (entries.map Prod.fst).Pairwise (· < ·)) : Dictionary.ofList entries = entries := by
  induction entries using List.reverseRecOn with
  | nil => rfl
  | append_singleton entries entry ih =>
      rw [List.map_append, List.pairwise_append] at h
      obtain ⟨hsorted, -, hlast⟩ := h
      have hbelow : ∀ earlier ∈ entries, earlier.1 < entry.1 := fun earlier hearlier =>
        hlast _ (List.mem_map_of_mem hearlier) _ (List.mem_singleton.mpr rfl)
      rw [ofList] at ih
      rw [ofList, List.foldl_append, ih hsorted]
      exact Dictionary.insert_of_last hbelow entry.2
namespace Json

/-- The value under a key of an object is read where its text stands. -/
theorem exists_of_memberText? {text key : String} {members : Dictionary Json}
    {written : List Char} (hparse : parse? text = some (.object members))
    (hwritten : memberText? key text = some written) :
    ∃ value, members.get? key = some value ∧ IsTextOf written value := by
  unfold memberText? at hwritten
  split at hwritten
  · rename_i rest hobject
    have hread : ∃ found left, value? (2 * text.toList.length + 2) maxDepth text.toList =
        some (found, left) ∧ found = .object members := by
      unfold parse? at hparse
      dsimp only at hparse
      split at hparse
      · rename_i found left hvalue
        rw [Option.ite_none_right_eq_some] at hparse
        exact ⟨found, left, hvalue, Option.some_inj.mp hparse.2⟩
      · cases hparse
    obtain ⟨_, left, hvalue, rfl⟩ := hread
    rw [value?, hobject] at hvalue
    simp only [maxDepth] at hvalue
    split at hvalue
    · rename_i behind hclose
      have hskip : skipSpace ('}' :: behind) = '}' :: behind := rfl
      simp [memberTexts, hclose, hskip] at hwritten
    · obtain ⟨⟨entries, behind⟩, hmembers, heq⟩ := Option.map_eq_some_iff.mp hvalue
      cases heq
      have hlookup : Option.Rel (fun value text => IsTextOf text value)
          (entries.reverse.lookup key) (some written) := by
        rw [← hwritten]
        exact rel_lookup (List.forall₂_reverse_iff.mpr (forall₂_memberTexts hmembers)) key
      rw [Dictionary.get?_ofList]
      generalize entries.reverse.lookup key = found at hlookup
      cases hlookup with
      | some htext => exact ⟨_, rfl, htext⟩
  · cases hwritten

/-- Where the text of a value is an integer literal, the value is the number that is read at the
literal. -/
theorem IsTextOf.integer {written : List Char} {value : Json} {v : Int}
    (h : IsTextOf written value) (hliteral : IsIntegerLiteral written v) :
    ∃ number rest, value = .number number ∧ number? (written ++ rest) = some (number, rest) := by
  obtain ⟨fuel, depth, chars, left, hvalue, rfl⟩ := h
  obtain ⟨first, tail, hfirst, hdigit⟩ := hliteral.head
  obtain ⟨ahead, hahead⟩ : ∃ ahead, skipSpace chars = first :: ahead := by
    have hprefix := List.take_prefix ((skipSpace chars).length - left.length) (skipSpace chars)
    rw [← writtenText, hfirst] at hprefix
    obtain ⟨more, hmore⟩ := hprefix
    exact ⟨tail ++ more, hmore.symm⟩
  cases fuel with
  | zero => simp [value?] at hvalue
  | succ fuel =>
      rw [value?, hahead] at hvalue
      -- No other value starts with a digit or a minus.
      split at hvalue
      case h_7 =>
        obtain ⟨⟨number, behind⟩, hnumber, heq⟩ := Option.map_eq_some_iff.mp hvalue
        cases heq
        obtain ⟨read, hread⟩ := exists_of_number? hnumber
        refine ⟨number, left, rfl, ?_⟩
        have hwritten : writtenText chars left = read := by
          simp [writtenText, hahead, hread]
        rw [hwritten, ← hread]
        exact hnumber
      all_goals
        rename_i heq
        cases heq
        exact absurd hdigit (by decide)

end Json

end TenantQuery
