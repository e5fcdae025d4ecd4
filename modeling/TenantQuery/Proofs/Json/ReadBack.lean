import TenantQuery.Json.Printer
import TenantQuery.Proofs.Json.Members
/-!
Reading what was printed over indented lines.

A string reads back as the characters that were printed, the escaped ones included.  An array or an
object reads back when its parts do, an object as the dictionary of its members.
-/

namespace TenantQuery.Json

section Strings

theorem numeral?_hexDigits : ∀ n < 0x20,
    Text.numeral? 16 ['0', '0', hexDigit (n / 16), hexDigit n] = some n := by
  decide

/-- A character is printed by a letter behind a backslash, by its number, or as it is. -/
theorem escapeChar_cases (c : Char) :
    (∃ letter, letter ≠ 'u' ∧ escapeChar c = ['\\', letter] ∧ shortEscape? letter = some c) ∨
      (c.toNat < 0x20 ∧
        escapeChar c = ['\\', 'u', '0', '0', hexDigit (c.toNat / 16), hexDigit c.toNat]) ∨
      (escapeChar c = [c] ∧ c ≠ '"' ∧ c ≠ '\\' ∧ ¬ c.toNat < 0x20) := by
  by_cases hshort : c ∈ ['"', '\\', '\x08', '\x0c', '\n', '\r', '\t']
  · refine .inl ?_
    simp only [List.mem_cons, List.not_mem_nil, or_false] at hshort
    rcases hshort with rfl | rfl | rfl | rfl | rfl | rfl | rfl <;>
      exact ⟨_, by decide, rfl, rfl⟩
  · simp only [List.mem_cons, List.not_mem_nil, or_false, not_or] at hshort
    by_cases hcontrol : c.toNat < 0x20
    · exact .inr (.inl ⟨hcontrol, by simp [escapeChar, hshort, hcontrol]⟩)
    · exact .inr (.inr ⟨by simp [escapeChar, hshort, hcontrol], hshort.1, hshort.2.1, hcontrol⟩)

/-- A number below the surrogates is that of a character, whatever follows. -/
theorem joinParts?_codeUnit {unit : Nat} (h : unit < 0xD800) (rest : List StringPart) :
    joinParts? (.codeUnit unit :: rest) = (joinParts? rest).map (Char.ofNat unit :: ·) := by
  have hhigh : isHighSurrogate unit = false := by simp [isHighSurrogate]; omega
  have hlow : isLowSurrogate unit = false := by simp [isLowSurrogate]; omega
  cases rest with
  | nil => simp [joinParts?, hhigh, hlow]
  | cons part rest => cases part <;> simp [joinParts?, hhigh, hlow]

/-- A printed character is read as one part of a string, and the part stands for the character. -/
theorem exists_part (c : Char) :
    ∃ part, (∀ rest, stringParts? (escapeChar c ++ rest) =
        (stringParts? rest).map fun (parts, left) => (part :: parts, left)) ∧
      ∀ parts, joinParts? (part :: parts) = (joinParts? parts).map (c :: ·) := by
  rcases escapeChar_cases c with ⟨letter, hletter, hescape, hshort⟩ | ⟨hcontrol, hescape⟩ |
    ⟨hescape, hquote, hbackslash, hcontrol⟩
  · exact ⟨.char c, by simp [hescape, stringParts?, hletter, hshort], fun _ => rfl⟩
  · have hunit := numeral?_hexDigits c.toNat hcontrol
    refine ⟨.codeUnit c.toNat, by simp [hescape, stringParts?, hunit], ?_⟩
    intro parts
    rw [joinParts?_codeUnit (by omega), Char.ofNat_toNat]
  · exact ⟨.char c, by simp [hescape, stringParts?, hbackslash, hcontrol], fun _ => rfl⟩

theorem exists_parts (chars rest : List Char) :
    ∃ parts, stringParts? (chars.flatMap escapeChar ++ '"' :: rest) = some (parts, rest) ∧
      joinParts? parts = some chars := by
  induction chars with
  | nil => exact ⟨[], by simp [stringParts?], rfl⟩
  | cons c chars ih =>
      obtain ⟨parts, hparts, hjoin⟩ := ih
      obtain ⟨part, hread, hstands⟩ := exists_part c
      refine ⟨part :: parts, ?_, by simp [hstands, hjoin]⟩
      rw [List.flatMap_cons, List.append_assoc, hread, hparts]
      rfl

/-- A printed string is read back, and reading stops behind its closing quote. -/
theorem stringText?_quote (text : String) (rest : List Char) :
    ∃ chars, (quote text).toList ++ rest = '"' :: chars ∧
      stringText? chars = some (text, rest) := by
  obtain ⟨parts, hparts, hjoin⟩ := exists_parts text.toList rest
  refine ⟨text.toList.flatMap escapeChar ++ '"' :: rest, by simp [quote], ?_⟩
  simp [stringText?, hparts, hjoin]

end Strings

section Layout

theorem skipSpace_append {blank : List Char} (h : ∀ c ∈ blank, isSpace c) (chars : List Char) :
    skipSpace (blank ++ chars) = skipSpace chars :=
  List.dropWhile_append_of_pos h

theorem skipSpace_cons {c : Char} (h : isSpace c = false) (chars : List Char) :
    skipSpace (c :: chars) = c :: chars :=
  List.dropWhile_cons_of_neg (by simp [h])

theorem isSpace_of_mem_newline (level : Nat) : ∀ c ∈ (newline level).toList, isSpace c := by
  intro c hc
  simp only [newline, String.toList_append, String.toList_ofList, List.mem_append,
    List.mem_replicate] at hc
  rcases hc with hc | ⟨-, rfl⟩
  · rw [List.mem_singleton.mp hc]
    rfl
  · rfl

/-- White space in front of a value does not matter. -/
theorem value?_congr {first second : List Char} (h : skipSpace first = skipSpace second)
    (fuel depth : Nat) : value? fuel depth first = value? fuel depth second := by
  cases fuel with
  | zero => rfl
  | succ fuel => rw [value?, value?, h]

theorem prettyItems_eq (level : Nat) (items : List Json) :
    prettyItems level items = items.map (prettyAt level) := by
  induction items with
  | nil => rfl
  | cons item items ih => rw [prettyItems, ih, List.map_cons]

def prettyMember (level : Nat) (member : String × Json) : String :=
  quote member.1 ++ ": " ++ prettyAt level member.2

theorem prettyMembers_eq (level : Nat) (members : List (String × Json)) :
    prettyMembers level members = members.map (prettyMember level) := by
  induction members with
  | nil => rfl
  | cons member members ih =>
      obtain ⟨key, value⟩ := member
      rw [prettyMembers, ih, List.map_cons, prettyMember]

/-- The parts of a block with commas between them, each behind a line break but the first. -/
def listed (gap : List Char) (parts : List String) : List Char :=
  (',' :: gap).intercalate (parts.map String.toList)

theorem listed_singleton (gap : List Char) (part : String) : listed gap [part] = part.toList := by
  simp [listed]

theorem listed_cons_cons (gap : List Char) (first second : String) (parts : List String) :
    listed gap (first :: second :: parts) =
      first.toList ++ ',' :: (gap ++ listed gap (second :: parts)) := by
  simp [listed, List.intercalate_cons_of_ne_nil]

/-- A list of parts starts as the first of them does. -/
theorem exists_listed (gap : List Char) (part : String) (parts : List String) :
    ∃ chars, listed gap (part :: parts) = part.toList ++ chars := by
  cases parts with
  | nil => exact ⟨[], by rw [listed_singleton, List.append_nil]⟩
  | cons next parts => exact ⟨_, listed_cons_cons gap part next parts⟩

/-- Behind its bracket and the white space, a block is its parts and the bracket that closes it. -/
theorem exists_inside {opening closing part : String} {first last c : Char} {chars : List Char}
    (hopening : opening.toList = [first]) (hclosing : closing.toList = [last])
    (hpart : part.toList = c :: chars) (hshown : isSpace c = false) (level : Nat)
    (parts : List String) (rest : List Char) :
    ∃ ahead tail,
      (block opening closing level (part :: parts)).toList ++ rest = first :: ahead ∧
      skipSpace ahead = c :: tail ∧
      c :: tail = listed (newline (level + 1)).toList (part :: parts) ++
        ((newline level).toList ++ last :: rest) ∧
      (listed (newline (level + 1)).toList (part :: parts)).length + 1 <
        (block opening closing level (part :: parts)).toList.length := by
  have hblock : (block opening closing level (part :: parts)).toList =
      first :: ((newline (level + 1)).toList ++
        (listed (newline (level + 1)).toList (part :: parts) ++
          ((newline level).toList ++ [last]))) := by
    simp [block, listed, String.toList_intercalate, List.append_assoc, hopening, hclosing]
  obtain ⟨behind, hlisted⟩ := exists_listed (newline (level + 1)).toList part parts
  refine ⟨_, chars ++ (behind ++ ((newline level).toList ++ last :: rest)),
    by rw [hblock, List.cons_append], ?_, by simp [hlisted, hpart], ?_⟩
  · simp only [List.append_assoc, skipSpace_append (isSpace_of_mem_newline _), hlisted, hpart,
      List.cons_append, skipSpace_cons hshown, List.nil_append]
  · rw [hblock]
    simp only [List.length_cons, List.length_append]
    omega

end Layout

/-- Printed at any level, the first value is read as the second one where so many levels may open,
with anything behind it and fuel for all of its characters. -/
structure ReadsAs (depth : Nat) (value found : Json) : Prop where
  /-- A printed value cannot be taken for the end of an array. -/
  starts : ∀ level, ∃ c chars, (prettyAt level value).toList = c :: chars ∧ isSpace c = false ∧
    c ≠ ']'
  reads : ∀ level fuel rest, (prettyAt level value).toList.length ≤ fuel →
    value? fuel depth ((prettyAt level value).toList ++ rest) = some (found, rest)

namespace ReadsAs

variable {depth : Nat}

theorem string (depth : Nat) (text : String) : ReadsAs depth (.string text) (.string text) where
  starts level := by
    obtain ⟨chars, hquote, -⟩ := stringText?_quote text []
    exact ⟨'"', chars, by simpa [prettyAt] using hquote, rfl, by decide⟩
  reads level fuel rest hfuel := by
    obtain ⟨chars, hquote, hread⟩ := stringText?_quote text rest
    cases fuel with
    | zero => simp [prettyAt, quote] at hfuel
    | succ fuel =>
        rw [prettyAt, hquote, value?, skipSpace_cons rfl]
        simp [hread]

theorem bool (depth : Nat) (value : Bool) : ReadsAs depth (.bool value) (.bool value) where
  starts level := by
    cases value with
    | true => exact ⟨'t', ['r', 'u', 'e'], by simp [prettyAt], rfl, by decide⟩
    | false => exact ⟨'f', ['a', 'l', 's', 'e'], by simp [prettyAt], rfl, by decide⟩
  reads level fuel rest hfuel := by
    cases fuel with
    | zero => cases value <;> simp [prettyAt] at hfuel
    | succ fuel =>
        cases value <;>
          simp [prettyAt, value?, skipSpace_cons, isSpace, expect?, List.isPrefixOf?]

/-- White space in front of a printed value is skipped. -/
theorem value?_eq {value found : Json} (h : ReadsAs depth value found) {level fuel : Nat}
    {front : List Char} (hfront : ∀ c ∈ front, isSpace c) (rest : List Char)
    (hfuel : (prettyAt level value).toList.length ≤ fuel) :
    value? fuel depth (front ++ ((prettyAt level value).toList ++ rest)) = some (found, rest) := by
  rw [value?_congr (skipSpace_append hfront _), h.reads level fuel rest hfuel]

/-- Printed items are read up to and with the closing bracket, with white space around them. -/
theorem items?_eq (level : Nat) {item value : Json} {items values : List Json}
    (h : ReadsAs depth item value) (hrest : List.Forall₂ (ReadsAs depth) items values)
    {fuel : Nat} {front gap back : List Char} (hfront : ∀ c ∈ front, isSpace c)
    (hgap : ∀ c ∈ gap, isSpace c) (hback : ∀ c ∈ back, isSpace c) (rest : List Char)
    (hfuel : (listed gap ((item :: items).map (prettyAt level))).length < fuel) :
    items? fuel depth
      (front ++ (listed gap ((item :: items).map (prettyAt level)) ++ (back ++ ']' :: rest))) =
        some (value :: values, rest) := by
  induction hrest generalizing item value front fuel with
  | nil =>
      obtain ⟨fuel, rfl⟩ := Nat.exists_eq_succ_of_ne_zero (Nat.ne_zero_of_lt hfuel)
      simp only [List.map_cons, List.map_nil, listed_singleton] at hfuel ⊢
      rw [items?, h.value?_eq hfront _ (by omega)]
      simp only [skipSpace_append hback]
      rfl
  | cons hnext _ ih =>
      obtain ⟨fuel, rfl⟩ := Nat.exists_eq_succ_of_ne_zero (Nat.ne_zero_of_lt hfuel)
      simp only [List.map_cons, listed_cons_cons, List.length_append, List.length_cons,
        List.append_assoc, List.cons_append] at hfuel ih ⊢
      have hcomma : ∀ chars, skipSpace (',' :: chars) = ',' :: chars := fun _ => rfl
      have hlater := ih hnext hgap (by omega : _ < fuel)
      rw [items?, h.value?_eq hfront _ (by omega)]
      simp only [hcomma, hlater]
      rfl

/-- What is read when a member has been, by what stands behind it. -/
def membersFrom (depth fuel : Nat) (member : String × Json) (behind : List Char) :
    Option (List (String × Json) × List Char) :=
  match skipSpace behind with
  | '}' :: left => some ([member], left)
  | ',' :: rest => (members? fuel depth rest).map fun (members, left) => (member :: members, left)
  | _ => none

/-- A printed member is read up to the end of its value. -/
theorem members?_succ {key : String} {value found : Json} (h : ReadsAs depth value found)
    {level fuel : Nat} {front : List Char} (hfront : ∀ c ∈ front, isSpace c) (behind : List Char)
    (hfuel : (prettyMember level (key, value)).toList.length ≤ fuel) :
    members? (fuel + 1) depth (front ++ ((prettyMember level (key, value)).toList ++ behind)) =
      membersFrom depth fuel (key, found) behind := by
  obtain ⟨chars, hquote, hkey⟩ :=
    stringText?_quote key (": ".toList ++ ((prettyAt level value).toList ++ behind))
  have hcolon : skipSpace (": ".toList ++ ((prettyAt level value).toList ++ behind)) =
      ':' :: ([' '] ++ ((prettyAt level value).toList ++ behind)) := rfl
  simp only [prettyMember, String.toList_append, List.length_append, List.append_assoc]
    at hfuel ⊢
  rw [members?, skipSpace_append hfront, hquote, skipSpace_cons rfl]
  have hblank : ∀ c ∈ [' '], isSpace c := List.forall_mem_singleton.mpr rfl
  have hvalue := h.value?_eq hblank behind (by omega : (prettyAt level value).toList.length ≤ fuel)
  simp only [hkey, hcolon, hvalue]
  rfl

/-- Printed members are read up to and with the closing bracket, with white space around them. -/
theorem members?_eq (level : Nat) (key : String) {value found : Json}
    {members others : List (String × Json)} (h : ReadsAs depth value found)
    (hrest : List.Forall₂ (fun member other => member.1 = other.1 ∧ ReadsAs depth member.2 other.2)
      members others) {fuel : Nat} {front gap back : List Char}
    (hfront : ∀ c ∈ front, isSpace c) (hgap : ∀ c ∈ gap, isSpace c)
    (hback : ∀ c ∈ back, isSpace c) (rest : List Char)
    (hfuel : (listed gap (((key, value) :: members).map (prettyMember level))).length < fuel) :
    members? fuel depth
      (front ++ (listed gap (((key, value) :: members).map (prettyMember level)) ++
        (back ++ '}' :: rest))) = some ((key, found) :: others, rest) := by
  induction hrest generalizing key value found front fuel with
  | nil =>
      obtain ⟨fuel, rfl⟩ := Nat.exists_eq_succ_of_ne_zero (Nat.ne_zero_of_lt hfuel)
      simp only [List.map_cons, List.map_nil, listed_singleton] at hfuel ⊢
      rw [h.members?_succ hfront _ (by omega), membersFrom, skipSpace_append hback]
      rfl
  | @cons member other members others hmember _ ih =>
      obtain ⟨fuel, rfl⟩ := Nat.exists_eq_succ_of_ne_zero (Nat.ne_zero_of_lt hfuel)
      obtain ⟨name, next⟩ := member
      obtain ⟨_, later⟩ := other
      obtain ⟨hname, hread⟩ := hmember
      cases hname
      have hnext : ReadsAs depth next later := hread
      simp only [List.map_cons, listed_cons_cons, List.length_append, List.length_cons,
        List.append_assoc, List.cons_append] at hfuel ih ⊢
      have hlater := ih name hnext hgap (by omega : _ < fuel)
      rw [h.members?_succ hfront _ (by omega), membersFrom, skipSpace_cons rfl]
      simp only [hlater]
      rfl

theorem value?_array {fuel : Nat} {chars tail : List Char} {c : Char}
    (h : skipSpace chars = c :: tail) (hclose : c ≠ ']') :
    value? (fuel + 1) (depth + 1) ('[' :: chars) =
      (items? fuel depth (skipSpace chars)).map fun (items, left) => (.array items, left) := by
  rw [value?, skipSpace_cons rfl]
  simp only [h]
  split
  · rename_i heq
    cases heq
    exact absurd rfl hclose
  · rfl

theorem value?_object {fuel : Nat} {chars tail : List Char} {c : Char}
    (h : skipSpace chars = c :: tail) (hclose : c ≠ '}') :
    value? (fuel + 1) (depth + 1) ('{' :: chars) =
      (members? fuel depth (skipSpace chars)).map fun (members, left) =>
        (.object (Dictionary.ofList members), left) := by
  rw [value?, skipSpace_cons rfl]
  simp only [h]
  split
  · rename_i heq
    cases heq
    exact absurd rfl hclose
  · rfl

theorem emptyArray (depth : Nat) : ReadsAs (depth + 1) (.array []) (.array []) where
  starts level := ⟨'[', [']'], by simp [prettyAt, prettyItems, block], rfl, by decide⟩
  reads level fuel rest hfuel := by
    cases fuel with
    | zero => simp [prettyAt, prettyItems, block] at hfuel
    | succ fuel => simp [prettyAt, prettyItems, block, value?, skipSpace_cons, isSpace]

/-- An array reads back when its items do. -/
theorem array {items found : List Json} (h : List.Forall₂ (ReadsAs depth) items found) :
    ReadsAs (depth + 1) (.array items) (.array found) := by
  cases h with
  | nil => exact emptyArray depth
  | @cons item value items values hitem hrest =>
      refine ⟨fun level => ?_, fun level fuel rest hfuel => ?_⟩
      all_goals
        obtain ⟨c, chars, hchars, hshown, hclose⟩ := hitem.starts (level + 1)
        rw [prettyAt, prettyItems_eq, List.map_cons] at *
      · obtain ⟨ahead, _, htext, -⟩ := exists_inside (by decide : "[".toList = ['['])
          (by decide : "]".toList = [']']) hchars hshown level (items.map (prettyAt (level + 1))) []
        exact ⟨'[', ahead, by simpa using htext, rfl, by decide⟩
      · obtain ⟨ahead, tail, htext, hskip, hinside, hlength⟩ :=
          exists_inside (by decide : "[".toList = ['[']) (by decide : "]".toList = [']']) hchars
            hshown level (items.map (prettyAt (level + 1))) rest
        obtain ⟨fuel, rfl⟩ := Nat.exists_eq_succ_of_ne_zero (by omega : fuel ≠ 0)
        rw [htext, value?_array hskip hclose, hskip, hinside]
        have hread := items?_eq (level + 1) hitem hrest (List.forall_mem_nil _)
          (isSpace_of_mem_newline (level + 1)) (isSpace_of_mem_newline level) rest
          (by rw [List.map_cons]; omega : _ < fuel)
        rw [List.map_cons, List.nil_append] at hread
        rw [hread]
        rfl

theorem strings (depth : Nat) (texts : List String) :
    ReadsAs (depth + 1) (.array (texts.map .string)) (.array (texts.map .string)) := by
  refine .array (List.forall₂_same.mpr fun value hvalue => ?_)
  obtain ⟨text, -, rfl⟩ := List.mem_map.mp hvalue
  exact .string depth text

theorem emptyObject (depth : Nat) : ReadsAs (depth + 1) (.object []) (.object []) where
  starts level := ⟨'{', ['}'], by simp [prettyAt, prettyMembers, block], rfl, by decide⟩
  reads level fuel rest hfuel := by
    cases fuel with
    | zero => simp [prettyAt, prettyMembers, block] at hfuel
    | succ fuel => simp [prettyAt, prettyMembers, block, value?, skipSpace_cons, isSpace]

/-- An object reads back, as the dictionary of its members, when their values do. -/
theorem object {members found : List (String × Json)}
    (h : List.Forall₂ (fun member other => member.1 = other.1 ∧ ReadsAs depth member.2 other.2)
      members found) :
    ReadsAs (depth + 1) (.object members) (.object (Dictionary.ofList found)) := by
  cases h with
  | nil => exact emptyObject depth
  | @cons member other members others hmember hrest =>
      obtain ⟨key, value⟩ := member
      obtain ⟨_, found⟩ := other
      obtain ⟨hkey, hread⟩ := hmember
      cases hkey
      have hvalue : ReadsAs depth value found := hread
      refine ⟨fun level => ?_, fun level fuel rest hfuel => ?_⟩
      all_goals
        obtain ⟨chars, hchars, -⟩ := stringText?_quote key
          (": ".toList ++ (prettyAt (level + 1) value).toList)
        have hpart : (prettyMember (level + 1) (key, value)).toList = '"' :: chars := by
          simpa [prettyMember] using hchars
        rw [prettyAt, prettyMembers_eq, List.map_cons] at *
      · obtain ⟨ahead, _, htext, -⟩ := exists_inside (by decide : "\x7b".toList = ['{'])
          (by decide : "\x7d".toList = ['}']) hpart rfl level
          (members.map (prettyMember (level + 1))) []
        exact ⟨'{', ahead, by simpa using htext, rfl, by decide⟩
      · obtain ⟨ahead, tail, htext, hskip, hinside, hlength⟩ :=
          exists_inside (by decide : "\x7b".toList = ['{']) (by decide : "\x7d".toList = ['}'])
            hpart rfl level (members.map (prettyMember (level + 1))) rest
        obtain ⟨fuel, rfl⟩ := Nat.exists_eq_succ_of_ne_zero (by omega : fuel ≠ 0)
        rw [htext, value?_object hskip (by decide), hskip, hinside]
        have hread := members?_eq (level + 1) key hvalue hrest (List.forall_mem_nil _)
          (isSpace_of_mem_newline (level + 1)) (isSpace_of_mem_newline level) rest
          (by rw [List.map_cons]; omega : _ < fuel)
        rw [List.map_cons, List.nil_append] at hread
        rw [hread]
        rfl

/-- A printed value with a line end behind it is read back as a document. -/
theorem parse?_pretty {value found : Json} (h : ReadsAs maxDepth value found) :
    parse? (value.pretty ++ "\n") = some found := by
  have hread := h.reads 0 (2 * (value.pretty ++ "\n").toList.length + 2) ['\n']
    (by simp [pretty]; omega)
  have htext : (value.pretty ++ "\n").toList = (prettyAt 0 value).toList ++ ['\n'] := by
    simp [pretty]
  have hend : (skipSpace ['\n']).isEmpty := rfl
  rw [htext] at hread
  simp only [parse?, htext, hread, hend, ↓reduceIte]

end ReadsAs

end TenantQuery.Json
