import TenantQuery.Proofs.Identifier
import TenantQuery.Proofs.Sql.Contained
/-!
Trimming text that can be read drops the blank marks at both ends of its tokens.

So what is known of the brackets, comments and marks of a text is known of its trimmed form.
-/

namespace TenantQuery.Sql

theorem valid_mark_of_isBlank {c : Char} (h : Text.isBlank c) : (Token.mark c).Valid := by
  refine ⟨?_, Identifier.not_isNameChar_of_isBlank h⟩
  rintro rfl
  exact absurd h (by decide)

/-- Blank characters in front of a text are marks in front of its tokens. -/
theorem scan_blank_append {blank rest : List Char} (hblank : ∀ c ∈ blank, Text.isBlank c)
    {tokens : List Token} (h : scan false (blank ++ rest) = some tokens) :
    ∃ inner, scan false rest = some inner ∧ tokens = blank.map Token.mark ++ inner := by
  induction blank generalizing tokens with
  | nil => exact ⟨tokens, h, rfl⟩
  | cons c blank ih =>
      obtain ⟨hquote, hname⟩ := valid_mark_of_isBlank (hblank c List.mem_cons_self)
      rw [List.cons_append, scan] at h
      · rw [if_neg hname] at h
        obtain ⟨found, hfound, rfl⟩ := Option.map_eq_some_iff.mp h
        obtain ⟨inner, hinner, rfl⟩ := ih
          (fun d hd => hblank d (List.mem_cons_of_mem c hd)) hfound
        exact ⟨inner, hinner, rfl⟩
      · exact hquote

/-- The last token of a text is a mark when the last character is blank. -/
theorem last_eq_mark {front : List Token} {last : Token} {text : List Char} {c : Char}
    (hc : Text.isBlank c) (hvalid : last.Valid)
    (htext : text ++ [c] = textOf front ++ last.chars) : last = .mark c := by
  have hend := congrArg List.getLast? htext
  rw [List.getLast?_concat] at hend
  cases last with
  | word chars =>
      obtain ⟨hne, hname⟩ := hvalid
      rw [Token.chars, List.getLast?_append_of_ne_nil _ hne] at hend
      have hplain := hname c (List.mem_of_getLast? hend.symm)
      exact absurd hplain (Identifier.not_isNameChar_of_isBlank hc)
  | literal content =>
      have hshape : textOf front ++ (Token.literal content).chars =
          (textOf front ++ '\'' :: doubleQuotes content) ++ ['\''] := by
        simp [Token.chars]
      rw [hshape, List.getLast?_concat] at hend
      cases hend
      exact absurd hc (by decide)
  | mark d => simpa [Token.chars, eq_comm] using hend

/-- Blank characters behind a text are marks behind its tokens. -/
theorem scan_append_blank {text blank : List Char} (hblank : ∀ c ∈ blank, Text.isBlank c)
    {tokens : List Token} (h : scan false (text ++ blank) = some tokens) :
    ∃ inner, scan false text = some inner ∧ tokens = inner ++ blank.map Token.mark := by
  induction blank using List.reverseRecOn generalizing tokens with
  | nil => exact ⟨tokens, by simpa using h, by simp⟩
  | append_singleton blank c ih =>
      obtain ⟨htext, hspaced⟩ := scan_eq_some_iff.mp h
      rcases List.eq_nil_or_concat tokens with rfl | ⟨front, last, rfl⟩
      · simp at htext
      · rw [List.concat_eq_append] at htext hspaced ⊢
        rw [textOf_append, textOf_cons, textOf_nil, List.append_nil, ← List.append_assoc] at htext
        obtain rfl := last_eq_mark (hblank c (by simp)) (hspaced.valid last (by simp)) htext
        have hfront : scan false (text ++ blank) = some front :=
          scan_eq_some_iff.mpr ⟨List.append_cancel_right htext, hspaced.of_append_left⟩
        obtain ⟨inner, hinner, rfl⟩ := ih (fun d hd => hblank d (by simp [hd])) hfront
        exact ⟨inner, hinner, by simp⟩

/-- The tokens of a trimmed text are those of the text without the blank ends. -/
theorem tokens?_trim {text : String} {tokens : List Token} (h : tokens? text = some tokens) :
    ∃ (before : List Char) (inner : List Token) (after : List Char),
      tokens? (Text.trim text) = some inner ∧
      (∀ c ∈ before ++ after, Text.isBlank c) ∧
      tokens = before.map Token.mark ++ inner ++ after.map Token.mark := by
  obtain ⟨before, after, htext, hbefore, hafter⟩ := Text.exists_trimChars text.toList
  rw [tokens?, htext] at h
  obtain ⟨most, hmost, rfl⟩ := scan_append_blank hafter h
  obtain ⟨inner, hinner, rfl⟩ := scan_blank_append hbefore hmost
  refine ⟨before, inner, after, by rw [tokens?, Text.toList_trim, hinner], ?_, rfl⟩
  intro c hc
  rcases List.mem_append.mp hc with hc | hc
  · exact hbefore c hc
  · exact hafter c hc

/-- Only the brackets among the tokens count. -/
theorem Balanced.of_filter {brackets : List (Char × Char)} {tokens : List Token}
    (h : Balanced brackets (tokens.filter (Token.isBracket brackets))) :
    Balanced brackets tokens := by
  generalize hkept : tokens.filter (Token.isBracket brackets) = kept at h
  have hplain : ∀ part : List Token, (∀ token ∈ part, ¬ token.isBracket brackets = true) →
      Balanced brackets part :=
    fun part hpart => .of_forall fun token hmem => by simpa using hpart token hmem
  induction h generalizing tokens with
  | nil => exact hplain tokens (List.filter_eq_nil_iff.mp hkept)
  | plain token htoken =>
      have hmem : token ∈ tokens.filter (Token.isBracket brackets) := by simp [hkept]
      simp [List.mem_filter, htoken] at hmem
  | @pair opening closing hpair inner _ ih =>
      obtain ⟨before, rest, rfl, hbefore, hopening, hrest⟩ := List.filter_eq_cons_iff.mp hkept
      obtain ⟨middle, ending, rfl, hmiddle, hending⟩ := List.filter_eq_append_iff.mp hrest
      obtain ⟨between, after, rfl, hbetween, hclosing, hafter⟩ :=
        List.filter_eq_cons_iff.mp hending
      have hinside : Balanced brackets (middle ++ between) :=
        .append (ih hmiddle) (hplain between hbetween)
      have hbehind := hplain after (List.filter_eq_nil_iff.mp hafter)
      have hjoin : before ++ .mark opening :: (middle ++ (between ++ .mark closing :: after)) =
          before ++ ((.mark opening :: (middle ++ between) ++ [.mark closing]) ++ after) := by
        simp
      rw [hjoin]
      exact .append (hplain before hbefore) (.append (.pair hpair hinside) hbehind)
  | append _ _ ihfirst ihsecond =>
      obtain ⟨first, second, rfl, hfirst, hsecond⟩ := List.filter_eq_append_iff.mp hkept
      exact .append (ihfirst hfirst) (ihsecond hsecond)

theorem Balanced.filter {brackets : List (Char × Char)} {tokens : List Token}
    (h : Balanced brackets tokens) :
    Balanced brackets (tokens.filter (Token.isBracket brackets)) := by
  induction h with
  | nil => exact .nil
  | plain token htoken => simpa [htoken] using Balanced.nil
  | @pair opening closing hpair inner _ ih =>
      have hopening : (Token.mark opening).isBracket brackets = true := by
        simp only [Token.isBracket, List.any_eq_true]
        exact ⟨_, hpair, by simp⟩
      have hclosing : (Token.mark closing).isBracket brackets = true := by
        simp only [Token.isBracket, List.any_eq_true]
        exact ⟨_, hpair, by simp⟩
      simpa [List.filter_cons, hopening, hclosing] using Balanced.pair hpair ih
  | append _ _ ihfirst ihsecond =>
      rw [List.filter_append]
      exact .append ihfirst ihsecond

/-- A blank character is no bracket. -/
theorem not_isBracket_of_isBlank {brackets : List (Char × Char)} (hsub : brackets ⊆ allBrackets)
    {c : Char} (h : Text.isBlank c) : (Token.mark c).isBracket brackets = false := by
  have hshown : ∀ d ∈ ['(', ')', '[', ']'], d ≠ c := by
    rintro d hd rfl
    simp only [List.mem_cons, List.not_mem_nil, or_false] at hd
    rcases hd with rfl | rfl | rfl | rfl <;> exact absurd h (by decide)
  simp only [List.mem_cons, List.not_mem_nil, or_false, forall_eq_or_imp, forall_eq] at hshown
  apply isBracket_eq_false_of_subset hsub
  simp [Token.isBracket, allBrackets, hshown]

/-- What is contained stays so when it is trimmed. -/
theorem Contained.trim {brackets : List (Char × Char)} (hsub : brackets ⊆ allBrackets)
    {Mark : Char → Prop} {Word : List Char → Prop} {text : String} {tokens : List Token}
    (htokens : tokens? text = some tokens) (h : Contained brackets Mark Word tokens) :
    ∃ inner, tokens? (Text.trim text) = some inner ∧ literals inner = literals tokens ∧
      Contained brackets Mark Word inner := by
  obtain ⟨before, inner, after, hinner, hblank, rfl⟩ := tokens?_trim htokens
  have hquiet : ∀ part : List Char, (∀ c ∈ part, Text.isBlank c) →
      (part.map Token.mark).filter (Token.isBracket brackets) = [] := by
    intro part hpart
    apply List.filter_eq_nil_iff.mpr
    intro token hmem
    obtain ⟨c, hc, rfl⟩ := List.mem_map.mp hmem
    simp [not_isBracket_of_isBlank hsub (hpart c hc)]
  have hbalanced := h.balanced.filter
  rw [List.filter_append, List.filter_append, hquiet before fun c hc => hblank c (by simp [hc]),
    hquiet after fun c hc => hblank c (by simp [hc]), List.nil_append, List.append_nil]
    at hbalanced
  have hinside := (List.isChain_append.mp (List.isChain_append.mp h.commentFree).1).2.1
  refine ⟨inner, hinner, by simp [literals_map_mark], ?_⟩
  exact ⟨h.spaced.of_append_left.of_append_right, hbalanced.of_filter, hinside,
    fun c hmem => h.marks c (by simp [hmem]), fun chars hmem => h.words chars (by simp [hmem])⟩

end TenantQuery.Sql
