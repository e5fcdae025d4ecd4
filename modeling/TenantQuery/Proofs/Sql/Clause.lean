import TenantQuery.Proofs.Sql.Token
import TenantQuery.Proofs.Text.Blank
/-!
The outline of a statement: its brackets, the key words outside all parentheses, and what stands
between those of one clause.

A key word counts in any letter case, and only where it stands as a word of its own outside
literals and outside parentheses.
-/

namespace TenantQuery.Sql

def parentheses : List (Char × Char) := [('(', ')')]

def allBrackets : List (Char × Char) := [('(', ')'), ('[', ']')]

def Token.isBracket (brackets : List (Char × Char)) : Token → Bool
  | .mark c => brackets.any fun pair => pair.1 == c || pair.2 == c
  | .word _ | .literal _ => false

/-- Every bracket is closed by its partner, and what stands between them is balanced too. -/
inductive Balanced (brackets : List (Char × Char)) : List Token → Prop where
  | nil : Balanced brackets []
  | plain (token : Token) (h : token.isBracket brackets = false) : Balanced brackets [token]
  | pair {opening closing : Char} (h : (opening, closing) ∈ brackets) {inner : List Token}
      (hinner : Balanced brackets inner) :
      Balanced brackets (.mark opening :: inner ++ [.mark closing])
  | append {first second : List Token} (hfirst : Balanced brackets first)
      (hsecond : Balanced brackets second) : Balanced brackets (first ++ second)

/-- How many parentheses are open behind a token. -/
def Token.depthBehind (depth : Nat) : Token → Nat
  | .mark '(' => depth + 1
  | .mark ')' => depth - 1
  | _ => depth

/-- Every token with the number of parentheses around it. -/
def levels (depth : Nat) : List Token → List (Nat × Token)
  | [] => []
  | token :: rest => (depth, token) :: levels (token.depthBehind depth) rest

/-- The word stands here, in any letter case and outside all parentheses. -/
def isOuter (keyword : String) : Nat × Token → Bool
  | (0, .word chars) => chars.map Char.toLower == keyword.toList
  | _ => false

/-- The key words that can follow the WHERE clause. -/
def laterClauses : List String := ["group", "order", "limit"]

/-- The WHERE clause without its key word. -/
def whereClause (tokens : List Token) : List (Nat × Token) :=
  ((levels 0 tokens).dropWhile (!isOuter "where" ·)).tail.takeWhile
    fun place => !laterClauses.any (isOuter · place)

/-- The parts of a clause between its outer ANDs, without the white space around them. -/
def conjuncts (clause : List (Nat × Token)) : List String :=
  (clause.splitOnP (isOuter "and")).map fun part =>
    String.ofList (Text.trimChars (textOf (part.map Prod.snd)))

/-- None of the words stands outside all parentheses. -/
def NoOuter (keywords : List String) (tokens : List Token) : Prop :=
  ∀ place ∈ levels 0 tokens, ∀ keyword ∈ keywords, isOuter keyword place = false

theorem Balanced.cons {brackets : List (Char × Char)} {token : Token} {rest : List Token}
    (htoken : token.isBracket brackets = false) (hrest : Balanced brackets rest) :
    Balanced brackets (token :: rest) :=
  Balanced.append (.plain token htoken) hrest

theorem Balanced.of_forall {brackets : List (Char × Char)} {tokens : List Token}
    (h : ∀ token ∈ tokens, token.isBracket brackets = false) : Balanced brackets tokens := by
  induction tokens with
  | nil => exact .nil
  | cons token rest ih =>
      exact .cons (h token List.mem_cons_self)
        (ih fun other hmem => h other (List.mem_cons_of_mem token hmem))

/-- Where all brackets are balanced, the parentheses among them are. -/
theorem Balanced.parentheses_of_all {tokens : List Token} (h : Balanced allBrackets tokens) :
    Balanced parentheses tokens := by
  induction h with
  | nil => exact .nil
  | plain token htoken =>
      refine .plain token ?_
      cases token with
      | mark c => simp_all [Token.isBracket, allBrackets, parentheses]
      | word chars => rfl
      | literal content => rfl
  | pair hpair _ ih =>
      simp only [allBrackets, List.mem_cons, Prod.mk.injEq, List.not_mem_nil, or_false] at hpair
      rcases hpair with ⟨rfl, rfl⟩ | ⟨rfl, rfl⟩
      · exact .pair (by simp [parentheses]) ih
      · exact .append (.cons (by decide) ih) (.plain (.mark ']') (by decide))
  | append _ _ ihfirst ihsecond => exact .append ihfirst ihsecond

/-- Outside of the tokens nothing of their parentheses is left, and inside none of those around
them is closed. -/
theorem Balanced.levels_append {tokens : List Token} (h : Balanced parentheses tokens) :
    ∀ (depth : Nat) (rest : List Token),
      levels depth (tokens ++ rest) = levels depth tokens ++ levels depth rest ∧
        ∀ place ∈ levels depth tokens, depth ≤ place.1 := by
  induction h with
  | nil => simp [levels]
  | plain token htoken =>
      intro depth rest
      have hdepth : token.depthBehind depth = depth := by
        cases token with
        | word chars => rfl
        | literal content => rfl
        | mark c =>
            unfold Token.depthBehind
            split <;> simp_all [Token.isBracket, parentheses]
      simp [levels, hdepth]
  | @pair opening closing hpair inner _ ih =>
      intro depth rest
      simp only [parentheses, List.mem_singleton, Prod.mk.injEq] at hpair
      obtain ⟨rfl, rfl⟩ := hpair
      have hbehind : (Token.mark '(').depthBehind depth = depth + 1 := rfl
      have hclosing := (ih (depth + 1) [.mark ')']).1
      have hall := (ih (depth + 1) (.mark ')' :: rest)).1
      simp only [List.cons_append, List.append_assoc, List.nil_append, levels, hbehind] at *
      rw [hall, hclosing]
      refine ⟨by simp [Token.depthBehind], ?_⟩
      intro place hmem
      rcases List.mem_cons.mp hmem with rfl | hmem
      · exact Nat.le_refl _
      · rcases List.mem_append.mp hmem with hmem | hmem
        · have hle := (ih (depth + 1) []).2 place hmem
          omega
        · simp only [List.mem_singleton] at hmem
          subst hmem
          exact Nat.le_succ depth
  | append _ _ ihfirst ihsecond =>
      intro depth rest
      rw [List.append_assoc, (ihfirst depth _).1, (ihfirst depth _).1, (ihsecond depth rest).1]
      refine ⟨by simp, ?_⟩
      intro place hmem
      rcases List.mem_append.mp hmem with hmem | hmem
      · exact (ihfirst depth []).2 place hmem
      · exact (ihsecond depth []).2 place hmem

theorem map_snd_levels (depth : Nat) (tokens : List Token) :
    (levels depth tokens).map Prod.snd = tokens := by
  induction tokens generalizing depth with
  | nil => rfl
  | cons token rest ih => simp [levels, ih]

theorem NoOuter.append {keywords : List String} {first second : List Token}
    (hbalanced : Balanced parentheses first) (hfirst : NoOuter keywords first)
    (hsecond : NoOuter keywords second) : NoOuter keywords (first ++ second) := by
  intro place hmem
  rw [(hbalanced.levels_append 0 second).1] at hmem
  rcases List.mem_append.mp hmem with hmem | hmem
  · exact hfirst place hmem
  · exact hsecond place hmem

/-- A word that occurs nowhere does not occur outside of the parentheses. -/
theorem NoOuter.of_words {keywords : List String} {tokens : List Token}
    (h : ∀ chars, .word chars ∈ tokens →
      ∀ keyword ∈ keywords, chars.map Char.toLower ≠ keyword.toList) :
    NoOuter keywords tokens := by
  rintro ⟨depth, token⟩ hmem keyword hkeyword
  have htoken : token ∈ tokens := by
    rw [← map_snd_levels 0 tokens]
    exact List.mem_map_of_mem hmem
  cases token with
  | literal content => simp [isOuter]
  | mark c => simp [isOuter]
  | word chars =>
      cases depth with
      | succ depth => rfl
      | zero => simpa [isOuter] using h chars htoken keyword hkeyword

/-- Nothing stands outside of the parentheses around it. -/
theorem NoOuter.parenthesized {keywords : List String} {inner : List Token}
    (hinner : Balanced parentheses inner) :
    NoOuter keywords (.mark '(' :: inner ++ [.mark ')']) := by
  intro place hmem keyword _
  have hbehind : (Token.mark '(').depthBehind 0 = 1 := rfl
  simp only [List.cons_append, levels, hbehind, (hinner.levels_append 1 [.mark ')']).1] at hmem
  rcases List.mem_cons.mp hmem with rfl | hmem
  · rfl
  · rcases List.mem_append.mp hmem with hmem | hmem
    · have hle := (hinner.levels_append 1 []).2 place hmem
      obtain ⟨depth, token⟩ := place
      obtain ⟨depth, rfl⟩ : ∃ below, depth = below + 1 := ⟨depth - 1, by simp at hle; omega⟩
      rfl
    · simp only [List.mem_singleton] at hmem
      subst hmem
      rfl

theorem NoOuter.mono {keywords fewer : List String} {tokens : List Token}
    (h : NoOuter keywords tokens) (hsub : fewer ⊆ keywords) : NoOuter fewer tokens :=
  fun place hmem keyword hkeyword => h place hmem keyword (hsub hkeyword)

/-- The clause is what stands between the key words. -/
theorem whereClause_eq {before body rest : List Token} {keyword : String} {chars : List Char}
    (hbefore : Balanced parentheses before) (hnone : NoOuter ["where"] before)
    (hbody : Balanced parentheses body) (hinside : NoOuter laterClauses body)
    (hkeyword : keyword ∈ laterClauses) (hchars : chars.map Char.toLower = keyword.toList) :
    whereClause (before ++ .word "WHERE".toList :: (body ++ .word chars :: rest)) =
      levels 0 body := by
  have hwhere : isOuter "where" (0, .word "WHERE".toList) = true := by decide
  have hstop : laterClauses.any (isOuter · (0, .word chars)) = true := by
    refine List.any_eq_true.mpr ⟨keyword, hkeyword, ?_⟩
    simp [isOuter, hchars]
  have hskip : ∀ place ∈ levels 0 before, (!isOuter "where" place) = true := by
    intro place hmem
    simpa using hnone place hmem "where" (by simp)
  have hkeep : ∀ place ∈ levels 0 body, (!laterClauses.any (isOuter · place)) = true := by
    intro place hmem
    simpa using hinside place hmem
  unfold whereClause
  rw [(hbefore.levels_append 0 _).1, List.dropWhile_append_of_pos hskip]
  simp only [levels, Token.depthBehind, hwhere, Bool.not_true, Bool.false_eq_true,
    not_false_eq_true, List.dropWhile_cons_of_neg, List.tail_cons]
  rw [(hbody.levels_append 0 _).1, List.takeWhile_append_of_pos hkeep]
  simp [levels, hstop]

/-- What stands between the parts of a conjunction. -/
def separator : List Token := [.mark ' ', .word "AND".toList, .mark ' ']

/-- A part of a conjunction with the spaces around it. -/
def padded (part : List Token) : List Token := .mark ' ' :: (part ++ [.mark ' '])

theorem Balanced.padded {brackets : List (Char × Char)} {part : List Token}
    (hspace : (Token.mark ' ').isBracket brackets = false) (h : Balanced brackets part) :
    Balanced brackets (padded part) :=
  .cons hspace (.append h (.plain (.mark ' ') hspace))

theorem NoOuter.padded {keywords : List String} {part : List Token}
    (hbalanced : Balanced parentheses part) (h : NoOuter keywords part) :
    NoOuter keywords (padded part) := by
  have hspace : NoOuter keywords [.mark ' '] := NoOuter.of_words (by simp)
  exact .append (.plain (.mark ' ') (by decide)) hspace (.append hbalanced h hspace)

theorem trimChars_textOf_padded (part : List Token) :
    Text.trimChars (textOf (padded part)) = Text.trimChars (textOf part) := by
  have hspace : ∀ c ∈ [' '], Text.isBlank c := List.forall_mem_singleton.mpr rfl
  simpa [Sql.padded, Token.chars] using
    Text.trimChars_padded (textOf part) hspace hspace

/-- Every part of a conjunction is found, in order and as a whole. -/
theorem conjuncts_intercalate {parts : List (List Token)} (hne : parts ≠ [])
    (hparts : ∀ part ∈ parts, Balanced parentheses part ∧ NoOuter ["and"] part) :
    conjuncts (levels 0 (padded (separator.intercalate parts))) =
      parts.map fun part => String.ofList (Text.trimChars (textOf part)) := by
  have hsingle : ∀ part ∈ parts, ∀ place ∈ levels 0 (padded part),
      isOuter "and" place = false := by
    intro part hmem place hplace
    obtain ⟨hbalanced, hnone⟩ := hparts part hmem
    exact hnone.padded hbalanced place hplace "and" (by simp)
  induction parts with
  | nil => exact absurd rfl hne
  | cons part rest ih =>
      have hfirst := hsingle part List.mem_cons_self
      cases rest with
      | nil =>
          rw [List.intercalate_singleton, conjuncts, List.splitOnP_eq_singleton hfirst]
          simp [map_snd_levels, trimChars_textOf_padded]
      | cons next rest =>
          have hand : isOuter "and" (0, .word "AND".toList) = true := by decide
          have hcut : padded (separator.intercalate (part :: next :: rest)) =
              padded part ++ .word "AND".toList ::
                padded (separator.intercalate (next :: rest)) := by
            simp [padded, separator, List.intercalate_cons_cons]
          have hbalanced := ((hparts part List.mem_cons_self).1).padded (by decide)
          have htail := ih (by simp)
            (fun other hmem => hparts other (List.mem_cons_of_mem part hmem))
            (fun other hmem => hsingle other (List.mem_cons_of_mem part hmem))
          rw [hcut, (hbalanced.levels_append 0 _).1]
          simp only [levels, Token.depthBehind, conjuncts] at htail ⊢
          rw [List.splitOnP_append_cons _ _ hand, List.splitOnP_eq_singleton hfirst,
            List.map_append, htail]
          simp [map_snd_levels, trimChars_textOf_padded]

end TenantQuery.Sql
