import TenantQuery.Proofs.Decimal.Numeral
import TenantQuery.Proofs.Sql.Contained
/-!
Numbers in a statement: their tokens start no comment, and none of them is a name.
-/

namespace TenantQuery.Sql

/-- A word that starts with a digit, and so is no name. -/
def StartsWithDigit (chars : List Char) : Prop :=
  ∃ c ∈ chars.head?, c.isDigit

/-- Text without a quote is read to its end. -/
theorem exists_scan {chars : List Char} (h : '\'' ∉ chars) :
    ∃ tokens, scan false chars = some tokens := by
  induction chars with
  | nil => exact ⟨[], rfl⟩
  | cons c rest ih =>
      obtain ⟨tokens, htokens⟩ := ih fun hmem => h (List.mem_cons_of_mem c hmem)
      have hquote : c ≠ '\'' := fun heq => h (heq ▸ List.mem_cons_self)
      rw [scan, htokens]
      · split
        · exact ⟨_, rfl⟩
        · exact ⟨_, rfl⟩
      · exact hquote

theorem mem_textOf {token : Token} {tokens : List Token} (hmem : token ∈ tokens) {c : Char}
    (hc : c ∈ token.chars) : c ∈ textOf tokens :=
  List.mem_flatMap.mpr ⟨token, hmem, hc⟩

/-- The last character of tokens that a word follows is no name character. -/
theorem not_isNameChar_of_word_next {tokens rest : List Token} {chars : List Char}
    (h : WellSpaced (tokens ++ .word chars :: rest)) {c : Char}
    (hlast : (textOf tokens).getLast? = some c) : ¬ Identifier.isNameChar c := by
  rcases List.eq_nil_or_concat tokens with rfl | ⟨front, last, rfl⟩
  · simp at hlast
  · have hvalid : last.Valid := h.valid last (by simp)
    have hapart : last.Apart (.word chars) := by
      have hchain := h.apart
      rw [List.concat_eq_append, List.append_assoc] at hchain
      exact (List.isChain_append_cons_cons.mp hchain).2.1
    rw [List.concat_eq_append, textOf_append, textOf_cons, textOf_nil, List.append_nil] at hlast
    cases last with
    | word other => exact absurd hapart id
    | literal content =>
        simp only [Token.chars, List.getLast?_append, List.getLast?_cons] at hlast
        simp at hlast
        subst hlast
        decide
    | mark d =>
        simp only [Token.chars, List.getLast?_append, List.getLast?_singleton,
          Option.some_or, Option.some.injEq] at hlast
        subst hlast
        exact hvalid.2

section Numeral

variable {tokens : List Token}

theorem mark_of_isNumeral (h : IsNumeral (textOf tokens)) (hspaced : WellSpaced tokens) {c : Char}
    (hmem : .mark c ∈ tokens) : c ∈ ['.', '+', '-'] := by
  have hplain := (hspaced.valid _ hmem).2
  rcases h.mem c (mem_textOf hmem (by simp [Token.chars])) with hdigit | hc
  · exact absurd (by simp [Identifier.isNameChar, Char.isAlphanum, hdigit]) hplain
  · simp only [List.mem_cons, List.not_mem_nil, or_false] at hc ⊢
    rcases hc with rfl | rfl | rfl | rfl
    · exact .inl rfl
    · exact absurd (by decide) hplain
    · exact .inr (.inl rfl)
    · exact .inr (.inr rfl)

theorem commentFree_of_isNumeral (h : IsNumeral (textOf tokens)) (hspaced : WellSpaced tokens) :
    CommentFree tokens := by
  apply List.isChain_iff_forall_rel_of_append_cons_cons.mpr
  rintro first second before after rfl hopens
  unfold Token.OpensComment at hopens
  split at hopens
  · -- Two minuses: the first would have a digit behind it.
    have hsteps := h.steps
    simp only [textOf_append, textOf_cons, Token.chars, List.singleton_append] at hsteps
    exact absurd ((List.isChain_append_cons_cons.mp hsteps).2.1.2 rfl) (by decide)
  · exact absurd (mark_of_isNumeral h hspaced (c := '/') (by simp)) (by decide)
  · exact hopens

/-- Of the characters of a number besides the digits only the exponent mark is a name character,
and the digit before it belongs to the same word. -/
theorem startsWithDigit_of_isNumeral (h : IsNumeral (textOf tokens))
    (hspaced : WellSpaced tokens) {word : List Char} (hmem : .word word ∈ tokens) :
    StartsWithDigit word := by
  obtain ⟨before, after, rfl⟩ := List.append_of_mem hmem
  obtain ⟨hne, hname⟩ := hspaced.valid _ hmem
  cases word with
  | nil => exact absurd rfl hne
  | cons c word =>
      refine ⟨c, rfl, ?_⟩
      by_contra hplain
      have hc : c = 'e' := by
        have hshown := hname c List.mem_cons_self
        have hother := (h.mem c (mem_textOf hmem (by simp [Token.chars]))).resolve_left hplain
        simp only [List.mem_cons, List.not_mem_nil, or_false] at hother
        rcases hother with rfl | rfl | rfl | rfl
        · exact absurd hshown (by decide)
        · rfl
        · exact absurd hshown (by decide)
        · exact absurd hshown (by decide)
      subst hc
      cases hlast : (textOf before).getLast? with
      | none =>
          have hnil : textOf before = [] := List.getLast?_eq_none_iff.mp hlast
          exact absurd (by simp [hnil, Token.chars]) h.start
      | some d =>
          have hborder := not_isNameChar_of_word_next hspaced hlast
          obtain ⟨front, hfront⟩ := List.getLast?_eq_some_iff.mp hlast
          have hsteps := h.steps
          simp only [textOf_append, hfront, textOf_cons, Token.chars, List.append_assoc,
            List.cons_append] at hsteps
          have hdigit := (List.isChain_append_cons_cons.mp hsteps).2.1.1 rfl
          exact absurd (by simp [Identifier.isNameChar, Char.isAlphanum, hdigit]) hborder

end Numeral

/-- The tokens of a number are contained. -/
theorem contained_of_isNumeral {chars : List Char} (h : IsNumeral chars) :
    ∃ tokens, scan false chars = some tokens ∧ literals tokens = [] ∧
      Contained allBrackets (· ∈ ['.', '+', '-']) StartsWithDigit tokens := by
  have hquote : '\'' ∉ chars := fun hmem => absurd (h.mem '\'' hmem) (by decide)
  obtain ⟨tokens, hscan⟩ := exists_scan hquote
  obtain ⟨rfl, hspaced⟩ := scan_eq_some_iff.mp hscan
  refine ⟨tokens, hscan, ?_, hspaced, .of_forall ?_, commentFree_of_isNumeral h hspaced,
    fun c => mark_of_isNumeral h hspaced, fun word => startsWithDigit_of_isNumeral h hspaced⟩
  · apply List.filterMap_eq_nil_iff.mpr
    intro token hmem
    cases token with
    | word word => rfl
    | mark c => rfl
    | literal content => exact absurd (mem_textOf hmem (by simp [Token.chars])) hquote
  · intro token hmem
    cases token with
    | word word => rfl
    | literal content => rfl
    | mark c =>
        have hc := mark_of_isNumeral h hspaced hmem
        simp only [List.mem_cons, List.not_mem_nil, or_false] at hc
        rcases hc with rfl | rfl | rfl <;> decide

end TenantQuery.Sql
