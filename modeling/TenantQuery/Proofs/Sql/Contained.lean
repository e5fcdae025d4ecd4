import TenantQuery.Proofs.Sql.Clause
/-!
Tokens that can be put between others without changing what either of them mean.

Contained tokens run into no neighbour, close the brackets that they open and start no comment,
and their words and marks are of known kinds.  Statements are put together from contained
tokens, with a mark between any two words.
-/

namespace TenantQuery.Sql

/-- Two marks that together make the rest of a line or text a comment. -/
def Token.OpensComment : Token → Token → Prop
  | .mark '-', .mark '-' => True
  | .mark '/', .mark '*' => True
  | _, _ => False

def CommentFree (tokens : List Token) : Prop :=
  tokens.IsChain fun first second => ¬ first.OpensComment second

/-- Tokens that stay what they are between others. -/
structure Contained (brackets : List (Char × Char)) (Mark : Char → Prop)
    (Word : List Char → Prop) (tokens : List Token) : Prop where
  spaced : WellSpaced tokens
  balanced : Balanced brackets tokens
  commentFree : CommentFree tokens
  marks : ∀ c, .mark c ∈ tokens → Mark c
  words : ∀ chars, .word chars ∈ tokens → Word chars

/-- A mark that no bracket, comment or literal starts or ends with. -/
def IsGlue (c : Char) : Prop :=
  ¬ Identifier.isNameChar c ∧ c ∉ ['\'', '(', ')', '[', ']', '-', '/', '*']

instance (c : Char) : Decidable (IsGlue c) := by
  unfold IsGlue
  infer_instance

variable {brackets : List (Char × Char)} {Mark : Char → Prop} {Word : List Char → Prop}

theorem isBracket_eq_false_of_subset (hsub : brackets ⊆ allBrackets) {token : Token}
    (h : token.isBracket allBrackets = false) : token.isBracket brackets = false := by
  cases token with
  | word chars => rfl
  | literal content => rfl
  | mark c =>
      simp only [Token.isBracket, List.any_eq_false] at h ⊢
      exact fun pair hpair => h pair (hsub hpair)

theorem IsGlue.valid {c : Char} (h : IsGlue c) : (Token.mark c).Valid :=
  ⟨fun hquote => h.2 (by simp [hquote]), h.1⟩

theorem IsGlue.not_bracket {c : Char} (h : IsGlue c) :
    (Token.mark c).isBracket allBrackets = false := by
  obtain ⟨-, hmem⟩ := h
  simp only [List.mem_cons, List.not_mem_nil, or_false, not_or] at hmem
  simp [Token.isBracket, allBrackets, Ne.symm hmem.2.1, Ne.symm hmem.2.2.1,
    Ne.symm hmem.2.2.2.1, Ne.symm hmem.2.2.2.2.1]

theorem IsGlue.not_opensComment {c : Char} (h : IsGlue c) (token : Token) :
    ¬ token.OpensComment (.mark c) ∧ ¬ (Token.mark c).OpensComment token := by
  obtain ⟨-, hmem⟩ := h
  constructor
  · intro hopens
    unfold Token.OpensComment at hopens
    split at hopens <;> simp_all
  · intro hopens
    unfold Token.OpensComment at hopens
    split at hopens <;> simp_all

theorem Token.apart_mark_left (c : Char) (token : Token) : (Token.mark c).Apart token := by
  cases token <;> trivial

theorem Token.apart_mark_right (token : Token) (c : Char) : token.Apart (.mark c) := by
  cases token <;> trivial

namespace Contained

theorem nil : Contained brackets Mark Word [] :=
  ⟨.nil, .nil, by simp [CommentFree], by simp, by simp⟩

theorem mono {Mark' : Char → Prop} {Word' : List Char → Prop} {tokens : List Token}
    (h : Contained brackets Mark Word tokens) (hmark : ∀ c, Mark c → Mark' c)
    (hword : ∀ chars, Word chars → Word' chars) : Contained brackets Mark' Word' tokens :=
  ⟨h.spaced, h.balanced, h.commentFree, fun c hmem => hmark c (h.marks c hmem),
    fun chars hmem => hword chars (h.words chars hmem)⟩

theorem append {first second : List Token} (hfirst : Contained brackets Mark Word first)
    (hsecond : Contained brackets Mark Word second)
    (hborder : ∀ last ∈ first.getLast?, ∀ next ∈ second.head?,
      last.Apart next ∧ ¬ last.OpensComment next) :
    Contained brackets Mark Word (first ++ second) := by
  refine ⟨hfirst.spaced.append hsecond.spaced fun last hlast next hnext =>
      (hborder last hlast next hnext).1,
    .append hfirst.balanced hsecond.balanced,
    List.isChain_append.mpr ⟨hfirst.commentFree, hsecond.commentFree, fun last hlast next hnext =>
      (hborder last hlast next hnext).2⟩, ?_, ?_⟩
  · intro c hmem
    rcases List.mem_append.mp hmem with hmem | hmem
    · exact hfirst.marks c hmem
    · exact hsecond.marks c hmem
  · intro chars hmem
    rcases List.mem_append.mp hmem with hmem | hmem
    · exact hfirst.words chars hmem
    · exact hsecond.words chars hmem

theorem word {chars : List Char} (hne : chars ≠ []) (hname : ∀ c ∈ chars, Identifier.isNameChar c)
    (h : Word chars) : Contained brackets Mark Word [.word chars] := by
  refine ⟨⟨?_, by simp⟩, .plain _ rfl, by simp [CommentFree], by simp, ?_⟩
  · intro token hmem
    rw [List.mem_singleton.mp hmem]
    exact ⟨hne, hname⟩
  · intro other hmem
    cases List.mem_singleton.mp hmem
    exact h

theorem literal (content : List Char) : Contained brackets Mark Word [.literal content] := by
  refine ⟨⟨?_, by simp⟩, .plain _ rfl, by simp [CommentFree], by simp, by simp⟩
  intro token hmem
  rw [List.mem_singleton.mp hmem]
  trivial

theorem mark {c : Char} (hvalid : (Token.mark c).Valid)
    (hbracket : (Token.mark c).isBracket brackets = false) (h : Mark c) :
    Contained brackets Mark Word [.mark c] := by
  refine ⟨⟨?_, by simp⟩, .plain _ hbracket, by simp [CommentFree], ?_, by simp⟩
  · intro token hmem
    rw [List.mem_singleton.mp hmem]
    exact hvalid
  · intro other hmem
    cases List.mem_singleton.mp hmem
    exact h

/-- A neutral mark in front. -/
theorem glue_cons (hsub : brackets ⊆ allBrackets) {c : Char} (hglue : IsGlue c) (hmark : Mark c)
    {tokens : List Token} (h : Contained brackets Mark Word tokens) :
    Contained brackets Mark Word (.mark c :: tokens) := by
  have hsingle : Contained brackets Mark Word [.mark c] :=
    mark hglue.valid (isBracket_eq_false_of_subset hsub hglue.not_bracket) hmark
  apply hsingle.append h
  intro last hlast next _
  cases hlast
  exact ⟨Token.apart_mark_left c next, (hglue.not_opensComment next).2⟩

/-- Two lists of tokens with a neutral mark between them. -/
theorem glue (first : List Token) (hsub : brackets ⊆ allBrackets) {c : Char} (hglue : IsGlue c)
    (hmark : Mark c) {second : List Token} (hfirst : Contained brackets Mark Word first)
    (hsecond : Contained brackets Mark Word second) :
    Contained brackets Mark Word (first ++ .mark c :: second) := by
  apply hfirst.append (glue_cons hsub hglue hmark hsecond)
  intro last _ next hnext
  cases hnext
  exact ⟨Token.apart_mark_right last c, (hglue.not_opensComment last).1⟩

/-- Tokens between a pair of brackets. -/
theorem pair {opening closing : Char} (hpair : (opening, closing) ∈ brackets)
    (hsub : brackets ⊆ allBrackets) (hopening : Mark opening) (hclosing : Mark closing)
    {inner : List Token} (h : Contained brackets Mark Word inner) :
    Contained brackets Mark Word (.mark opening :: inner ++ [.mark closing]) := by
  have hcases : (opening = '(' ∧ closing = ')') ∨ (opening = '[' ∧ closing = ']') := by
    simpa [allBrackets] using hsub hpair
  have hvalid : (Token.mark opening).Valid ∧ (Token.mark closing).Valid := by
    rcases hcases with ⟨rfl, rfl⟩ | ⟨rfl, rfl⟩ <;>
      exact ⟨⟨by decide, by decide⟩, by decide, by decide⟩
  have hquiet : ∀ token : Token, ¬ (Token.mark opening).OpensComment token ∧
      ¬ token.OpensComment (.mark closing) := by
    intro token
    rcases hcases with ⟨rfl, rfl⟩ | ⟨rfl, rfl⟩ <;>
      exact ⟨id, by unfold Token.OpensComment; split <;> simp_all⟩
  refine ⟨⟨?_, ?_⟩, .pair hpair h.balanced, ?_, ?_, ?_⟩
  · intro token hmem
    simp only [List.cons_append, List.mem_cons, List.mem_append, List.not_mem_nil,
      or_false] at hmem
    rcases hmem with rfl | hmem | rfl
    · exact hvalid.1
    · exact h.spaced.valid token hmem
    · exact hvalid.2
  · rw [List.cons_append, List.isChain_cons, List.isChain_append]
    exact ⟨fun next _ => Token.apart_mark_left opening next, h.spaced.apart, by simp,
      fun last _ next hnext => by cases hnext; exact Token.apart_mark_right last closing⟩
  · rw [CommentFree, List.cons_append, List.isChain_cons, List.isChain_append]
    exact ⟨fun next _ => (hquiet next).1, h.commentFree, by simp,
      fun last _ next hnext => by cases hnext; exact (hquiet last).2⟩
  · intro c hmem
    simp only [List.cons_append, List.mem_cons, List.mem_append, List.not_mem_nil, or_false,
      Token.mark.injEq] at hmem
    rcases hmem with rfl | hmem | rfl
    · exact hopening
    · exact h.marks c hmem
    · exact hclosing
  · intro chars hmem
    simp only [List.cons_append, List.mem_cons, List.mem_append, List.not_mem_nil, or_false,
      reduceCtorEq, false_or] at hmem
    exact h.words chars hmem

/-- Parts with something between them that joins any two. -/
theorem intercalate {between : List Token}
    (hjoin : ∀ first second, Contained brackets Mark Word first →
      Contained brackets Mark Word second →
      Contained brackets Mark Word (first ++ (between ++ second)))
    {parts : List (List Token)} (h : ∀ part ∈ parts, Contained brackets Mark Word part) :
    Contained brackets Mark Word (between.intercalate parts) := by
  induction parts with
  | nil => exact nil
  | cons part rest ih =>
      have hpart := h part List.mem_cons_self
      have hrest := ih fun other hmem => h other (List.mem_cons_of_mem part hmem)
      cases rest with
      | nil => simpa using hpart
      | cons next rest =>
          rw [List.intercalate_cons_cons, List.append_assoc]
          exact hjoin part _ hpart hrest

end Contained

end TenantQuery.Sql
