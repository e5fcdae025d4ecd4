import Mathlib.Data.List.Infix
import TenantQuery.Proofs.Sql.Values
/-!
Patterns match the value that they are made of, and none of its characters is a wildcard.

A pattern is read unit by unit, the way the database reads it: a percent sign stands for any text,
an underscore for any one character, and a backslash makes the next character stand for itself.
Escaping turns every character of a value into a unit of its own, so the only wildcards of a
pattern are those of its shape.
-/

namespace TenantQuery.Sql

/-- What a pattern asks for at one place. -/
inductive PatternUnit where
  | anyText
  | anyChar
  | exactly (c : Char)
deriving DecidableEq

/-- The units of a pattern; there are none when it ends in the middle of an escape. -/
def patternUnits? : List Char → Option (List PatternUnit)
  | [] => some []
  | ['\\'] => none
  | '\\' :: c :: rest => (patternUnits? rest).map (.exactly c :: ·)
  | '%' :: rest => (patternUnits? rest).map (.anyText :: ·)
  | '_' :: rest => (patternUnits? rest).map (.anyChar :: ·)
  | c :: rest => (patternUnits? rest).map (.exactly c :: ·)

/-- The units match the whole text.  Which characters count as the same is left open, as it is by
a comparison that does not mind the letter case. -/
def Matches (same : Char → Char → Prop) : List PatternUnit → List Char → Prop
  | [], text => text = []
  | .anyText :: rest, text => ∃ tail ∈ text.tails, Matches same rest tail
  | .anyChar :: rest, _ :: text => Matches same rest text
  | .exactly c :: rest, d :: text => same c d ∧ Matches same rest text
  | .anyChar :: _, [] | .exactly _ :: _, [] => False

instance Matches.decidable (same : Char → Char → Prop) [DecidableRel same] :
    (units : List PatternUnit) → (text : List Char) → Decidable (Matches same units text)
  | [], text => inferInstanceAs (Decidable (text = []))
  | .anyText :: rest, text =>
    have := Matches.decidable same rest
    inferInstanceAs (Decidable (∃ tail ∈ text.tails, Matches same rest tail))
  | .anyChar :: rest, _ :: text => Matches.decidable same rest text
  | .exactly c :: rest, d :: text =>
    have := Matches.decidable same rest text
    inferInstanceAs (Decidable (same c d ∧ Matches same rest text))
  | .anyChar :: _, [] | .exactly _ :: _, [] => inferInstanceAs (Decidable False)

example : Matches Eq [.exactly 'a', .anyText, .exactly 'b', .anyChar] "a--bc".toList := by
  decide

/-- The text has a part, at the place that the shape asks for, whose characters are the same as
those of the given one. -/
def LikeShape.Finds (same : Char → Char → Prop) (part text : List Char) : LikeShape → Prop
  | .contains => ∃ before found after, text = before ++ found ++ after ∧
      List.Forall₂ same part found
  | .startsWith => ∃ found after, text = found ++ after ∧ List.Forall₂ same part found
  | .endsWith => ∃ before found, text = before ++ found ∧ List.Forall₂ same part found

def LikeShape.units (part : List Char) : LikeShape → List PatternUnit
  | .contains => .anyText :: (part.map .exactly ++ [.anyText])
  | .startsWith => part.map .exactly ++ [.anyText]
  | .endsWith => .anyText :: part.map .exactly

/-- Every character of an escaped text is a unit of its own, whatever comes behind it. -/
theorem patternUnits?_escapeWildcards_append (part rest : List Char) :
    patternUnits? (escapeWildcards part ++ rest) =
      (patternUnits? rest).map (part.map .exactly ++ ·) := by
  -- The text behind is arbitrary, since the first escape ends before the rest of the part.
  induction part with
  | nil => simp [escapeWildcards]
  | cons c part ih =>
      by_cases hspecial : c = '\\' ∨ c = '%' ∨ c = '_'
      · have hescaped : escapeWildcards (c :: part) = '\\' :: c :: escapeWildcards part := by
          simp [escapeWildcards, or_assoc, hspecial]
        rw [hescaped, List.cons_append, List.cons_append, patternUnits?, ih, Option.map_map]
        rfl
      · have hplain : escapeWildcards (c :: part) = c :: escapeWildcards part := by
          simp [escapeWildcards, or_assoc, hspecial]
        simp only [not_or] at hspecial
        rw [hplain, List.cons_append, patternUnits?, ih, Option.map_map]
        · rfl
        · exact fun h _ => hspecial.1 h
        · exact fun _ _ h _ => hspecial.1 h
        · exact hspecial.2.1
        · exact hspecial.2.2

/-- A pattern has no unfinished escape, and no wildcards but those of its shape. -/
theorem patternUnits?_pattern (shape : LikeShape) (text : String) :
    patternUnits? (shape.pattern text).toList = some (shape.units text.toList) := by
  have hunits := patternUnits?_escapeWildcards_append text.toList
  have hplain : patternUnits? (escapeWildcards text.toList) =
      some (text.toList.map .exactly) := by
    simpa [patternUnits?] using hunits []
  cases shape with
  | contains => simp [LikeShape.pattern, LikeShape.units, patternUnits?, hunits]
  | startsWith => simp [LikeShape.pattern, LikeShape.units, patternUnits?, hunits]
  | endsWith => simp [LikeShape.pattern, LikeShape.units, patternUnits?, hplain]

section Matching

variable {same : Char → Char → Prop} {units : List PatternUnit} {text : List Char}

theorem matches_anyText_cons_iff : Matches same (.anyText :: units) text ↔
    ∃ before tail, text = before ++ tail ∧ Matches same units tail := by
  simp only [Matches, List.mem_tails]
  constructor
  · rintro ⟨tail, ⟨before, hsplit⟩, htail⟩
    exact ⟨before, tail, hsplit.symm, htail⟩
  · rintro ⟨before, tail, hsplit, htail⟩
    exact ⟨tail, ⟨before, hsplit.symm⟩, htail⟩

theorem matches_anyText : Matches same [.anyText] text :=
  matches_anyText_cons_iff.mpr ⟨text, [], (List.append_nil text).symm, rfl⟩

/-- Units that stand for themselves match one character each. -/
theorem matches_exactly_append_iff (part : List Char) :
    Matches same (part.map .exactly ++ units) text ↔
      ∃ found after, text = found ++ after ∧ List.Forall₂ same part found ∧
        Matches same units after := by
  induction part generalizing text with
  | nil => simp
  | cons c part ih =>
      constructor
      · intro h
        cases text with
        | nil => exact absurd h id
        | cons d text =>
            obtain ⟨hsame, hrest⟩ := h
            obtain ⟨found, after, rfl, hfound, hafter⟩ := ih.mp hrest
            exact ⟨d :: found, after, rfl, .cons hsame hfound, hafter⟩
      · rintro ⟨found, after, rfl, hfound, hafter⟩
        cases hfound with
        | cons hsame hrest => exact ⟨hsame, ih.mpr ⟨_, after, rfl, hrest, hafter⟩⟩

theorem matches_exactly_iff (part : List Char) :
    Matches same (part.map .exactly) text ↔ List.Forall₂ same part text := by
  have h : Matches same (part.map .exactly ++ []) text ↔ _ := matches_exactly_append_iff part
  simpa [Matches] using h

/-- The pattern of a text matches where the text is found. -/
theorem matches_units_iff (shape : LikeShape) (part : List Char) :
    Matches same (shape.units part) text ↔ shape.Finds same part text := by
  have hprefix : ∀ rest, Matches same (part.map .exactly ++ [.anyText]) rest ↔
      ∃ found after, rest = found ++ after ∧ List.Forall₂ same part found := by
    intro rest
    simp only [matches_exactly_append_iff, matches_anyText, and_true]
  cases shape with
  | startsWith => exact hprefix text
  | endsWith =>
      simp only [LikeShape.units, LikeShape.Finds, matches_anyText_cons_iff, matches_exactly_iff]
  | contains =>
      simp only [LikeShape.units, LikeShape.Finds, matches_anyText_cons_iff, hprefix]
      constructor
      · rintro ⟨before, _, rfl, found, after, rfl, hfound⟩
        exact ⟨before, found, after, (List.append_assoc _ _ _).symm, hfound⟩
      · rintro ⟨before, found, after, rfl, hfound⟩
        exact ⟨before, _, List.append_assoc _ _ _, found, after, rfl, hfound⟩

end Matching

/-- The literal of a pattern is read as one text whose units match exactly where the value is
found, whichever characters count as the same.  Values that are neither strings nor numbers have
no pattern. -/
theorem like_patterns_literal (value : Json) (shape : LikeShape) :
    (∀ text, (value = .string text ∨ ∃ number, value = .number number ∧ text = number.text) →
      ∃ sql pattern units, likePattern? value shape = some sql ∧
        tokens? sql = some [.literal pattern] ∧ patternUnits? pattern = some units ∧
        ∀ same subject, Matches same units subject ↔ shape.Finds same text.toList subject) ∧
    (value.kind ∉ [.string, .number] → likePattern? value shape = none) := by
  constructor
  · intro text htext
    have hvalue : likePattern? value shape = some (quote (shape.pattern text)) := by
      rcases htext with rfl | ⟨number, rfl, rfl⟩ <;> rfl
    exact ⟨_, _, _, hvalue, tokens?_quote _, patternUnits?_pattern shape text,
      fun same subject => matches_units_iff shape text.toList⟩
  · intro hkind
    cases value <;> simp_all [Json.kind, likePattern?, patternText?]

/-- A value with every character that a pattern gives a meaning, compared without regard to the
letter case. -/
theorem like_patterns_literal_percent :
    ∃ sql pattern units, likePattern? (.string "5%_\\'a") .startsWith = some sql ∧
      tokens? sql = some [.literal pattern] ∧ patternUnits? pattern = some units ∧
      Matches (fun c d => c.toLower = d.toLower) units "5%_\\'A!".toList ∧
      ¬ Matches Eq units "5x_\\'a!".toList := by
  obtain ⟨sql, pattern, units, hsql, htokens, hunits, hmatches⟩ :=
    (like_patterns_literal (.string "5%_\\'a") .startsWith).1 _ (.inl rfl)
  refine ⟨sql, pattern, units, hsql, htokens, hunits, ?_, ?_⟩
  · exact (hmatches _ _).mpr ⟨"5%_\\'A".toList, ['!'], rfl, by simp⟩
  · rw [hmatches]
    rintro ⟨found, after, hsplit, hfound⟩
    rw [List.forall₂_eq_eq_eq] at hfound
    subst hfound
    simp at hsplit

end TenantQuery.Sql
