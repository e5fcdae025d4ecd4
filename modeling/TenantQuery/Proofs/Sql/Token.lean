import Mathlib.Data.List.Chain
import TenantQuery.Identifier
import TenantQuery.Sql.Literal
/-!
Statement text cut into tokens, the way the database reads it.

A text literal opens at a quote and closes at the first quote that is not doubled; a backslash
in it is an ordinary character.  Outside literals a run of name characters is one word, and
every other character stands for itself.  Reading loses nothing, so text and tokens determine
one another: `scan_eq_some_iff`.
-/

namespace TenantQuery.Sql

/-- A piece of statement text.  A literal is given by the text that it stands for. -/
inductive Token where
  | word (chars : List Char)
  | literal (content : List Char)
  | mark (c : Char)
deriving DecidableEq

namespace Token

def chars : Token → List Char
  | .word chars => chars
  | .literal content => '\'' :: (doubleQuotes content ++ ['\''])
  | .mark c => [c]

/-- A word is a run of name characters, and a mark is any other character but a quote. -/
def Valid : Token → Prop
  | .word chars => chars ≠ [] ∧ ∀ c ∈ chars, Identifier.isNameChar c
  | .literal _ => True
  | .mark c => c ≠ '\'' ∧ ¬ Identifier.isNameChar c

/-- Neighbours that do not run together: two words would be one word, and two literals would
be one literal with a quote in it. -/
def Apart : Token → Token → Prop
  | .word _, .word _ => False
  | .literal _, .literal _ => False
  | _, _ => True

def literal? : Token → Option (List Char)
  | .literal content => some content
  | .word _ | .mark _ => none

end Token

def textOf (tokens : List Token) : List Char :=
  tokens.flatMap Token.chars

/-- The contents of the literals, from left to right. -/
def literals (tokens : List Token) : List (List Char) :=
  tokens.filterMap Token.literal?

/-- Tokens that can be told apart again in their text. -/
structure WellSpaced (tokens : List Token) : Prop where
  valid : ∀ token ∈ tokens, token.Valid
  apart : tokens.IsChain Token.Apart

/-- Puts a name character in front of what follows it, as a part of the word there if there is
one. -/
def prependName (c : Char) : List Token → List Token
  | .word chars :: rest => .word (c :: chars) :: rest
  | rest => .word [c] :: rest

/-- Puts a character in front of the content of the literal that was being read. -/
def prependContent (c : Char) : List Token → List Token
  | .literal content :: rest => .literal (c :: content) :: rest
  | rest => rest

/-- The tokens of statement text that starts outside or inside a literal.  There are none when
the text ends inside one. -/
def scan : Bool → List Char → Option (List Token)
  | false, [] => some []
  | true, [] => none
  | true, '\'' :: '\'' :: rest => (scan true rest).map (prependContent '\'')
  | true, '\'' :: rest => (scan false rest).map (.literal [] :: ·)
  | true, c :: rest => (scan true rest).map (prependContent c)
  | false, '\'' :: rest => scan true rest
  | false, c :: rest =>
    if Identifier.isNameChar c then (scan false rest).map (prependName c)
    else (scan false rest).map (.mark c :: ·)

/-- The tokens of a statement; none when it ends inside a literal. -/
def tokens? (text : String) : Option (List Token) :=
  scan false text.toList

@[simp] theorem textOf_nil : textOf [] = [] := rfl

@[simp] theorem textOf_cons (token : Token) (rest : List Token) :
    textOf (token :: rest) = token.chars ++ textOf rest := by
  simp [textOf]

@[simp] theorem textOf_append (first second : List Token) :
    textOf (first ++ second) = textOf first ++ textOf second := by
  simp [textOf]

@[simp] theorem literals_nil : literals [] = [] := rfl

@[simp] theorem literals_append (first second : List Token) :
    literals (first ++ second) = literals first ++ literals second := by
  simp [literals]

@[simp] theorem literals_word_cons (chars : List Char) (rest : List Token) :
    literals (.word chars :: rest) = literals rest := rfl

@[simp] theorem literals_mark_cons (c : Char) (rest : List Token) :
    literals (.mark c :: rest) = literals rest := rfl

theorem literals_map_mark (chars : List Char) : literals (chars.map .mark) = [] := by
  apply List.filterMap_eq_nil_iff.mpr
  intro token hmem
  obtain ⟨c, -, rfl⟩ := List.mem_map.mp hmem
  rfl

@[simp] theorem literals_literal_cons (content : List Char) (rest : List Token) :
    literals (.literal content :: rest) = content :: literals rest := rfl

theorem WellSpaced.nil : WellSpaced [] :=
  ⟨by simp, by simp⟩

theorem wellSpaced_cons_iff {token : Token} {rest : List Token} :
    WellSpaced (token :: rest) ↔
      token.Valid ∧ (∀ next ∈ rest.head?, token.Apart next) ∧ WellSpaced rest := by
  constructor
  · rintro ⟨hvalid, hapart⟩
    rw [List.isChain_cons] at hapart
    exact ⟨hvalid token List.mem_cons_self, hapart.1,
      fun other hmem => hvalid other (List.mem_cons_of_mem token hmem), hapart.2⟩
  · rintro ⟨htoken, hnext, hrest⟩
    refine ⟨?_, List.isChain_cons.mpr ⟨hnext, hrest.apart⟩⟩
    intro other hmem
    rcases List.mem_cons.mp hmem with rfl | hmem
    · exact htoken
    · exact hrest.valid other hmem

theorem WellSpaced.append {first second : List Token} (hfirst : WellSpaced first)
    (hsecond : WellSpaced second)
    (hborder : ∀ last ∈ first.getLast?, ∀ next ∈ second.head?, last.Apart next) :
    WellSpaced (first ++ second) := by
  refine ⟨?_, List.isChain_append.mpr ⟨hfirst.apart, hsecond.apart, hborder⟩⟩
  intro token hmem
  rcases List.mem_append.mp hmem with hmem | hmem
  · exact hfirst.valid token hmem
  · exact hsecond.valid token hmem

theorem WellSpaced.of_append_left {first second : List Token}
    (h : WellSpaced (first ++ second)) : WellSpaced first :=
  ⟨fun token hmem => h.valid token (List.mem_append_left second hmem),
    (List.isChain_append.mp h.apart).1⟩

theorem WellSpaced.of_append_right {first second : List Token}
    (h : WellSpaced (first ++ second)) : WellSpaced second :=
  ⟨fun token hmem => h.valid token (List.mem_append_right first hmem),
    (List.isChain_append.mp h.apart).2.1⟩

/-- Only the text of a literal starts with a quote. -/
theorem head?_textOf_ne_quote {tokens : List Token} (h : WellSpaced tokens)
    (hhead : ∀ content, tokens.head? ≠ some (.literal content)) :
    (textOf tokens).head? ≠ some '\'' := by
  cases tokens with
  | nil => simp
  | cons token rest =>
      have hvalid := h.valid token List.mem_cons_self
      cases token with
      | literal content => exact absurd rfl (hhead content)
      | mark c => simpa [Token.chars] using hvalid.1
      | word chars =>
          obtain ⟨hne, hname⟩ := hvalid
          cases chars with
          | nil => exact absurd rfl hne
          | cons c chars =>
              have hc := hname c List.mem_cons_self
              simp only [textOf_cons, Token.chars, List.cons_append, List.head?_cons]
              rintro heq
              cases heq
              exact absurd hc (by decide)

/-- A word is read up to its end. -/
theorem scan_word {chars rest : List Char} {tokens : List Token} (hne : chars ≠ [])
    (hname : ∀ c ∈ chars, Identifier.isNameChar c)
    (hnext : ∀ other, tokens.head? ≠ some (.word other))
    (hrest : scan false rest = some tokens) :
    scan false (chars ++ rest) = some (.word chars :: tokens) := by
  induction chars with
  | nil => exact absurd rfl hne
  | cons c chars ih =>
      have hc := hname c List.mem_cons_self
      have hquote : c ≠ '\'' := by
        rintro rfl
        exact absurd hc (by decide)
      have hstep : scan false (c :: (chars ++ rest)) =
          (scan false (chars ++ rest)).map (prependName c) := by
        rw [scan]
        · simp [hc]
        · exact hquote
      rw [List.cons_append, hstep]
      cases chars with
      | nil =>
          rw [List.nil_append, hrest]
          cases tokens with
          | nil => rfl
          | cons token tokens =>
              cases token with
              | word other => exact absurd rfl (hnext other)
              | literal content => rfl
              | mark d => rfl
      | cons d chars =>
          rw [ih (by simp) (fun e he => hname e (List.mem_cons_of_mem c he))]
          rfl

/-- A literal is read up to the quote that is not doubled. -/
theorem scan_literal {content rest : List Char} {tokens : List Token}
    (hnext : rest.head? ≠ some '\'') (hrest : scan false rest = some tokens) :
    scan true (doubleQuotes content ++ '\'' :: rest) = some (.literal content :: tokens) := by
  induction content with
  | nil =>
      rw [doubleQuotes, List.nil_append, scan, hrest]
      · rfl
      · rintro tail rfl
        exact hnext rfl
  | cons c content ih =>
      by_cases hquote : c = '\''
      · subst hquote
        simp only [doubleQuotes, ↓reduceIte, List.cons_append]
        rw [scan, ih]
        rfl
      · simp only [doubleQuotes, hquote, ↓reduceIte, List.cons_append]
        rw [scan, ih]
        · rfl
        · intro tail heq
          exact absurd heq hquote
        · exact hquote

/-- Well-spaced tokens are read back from their text. -/
theorem scan_textOf {tokens : List Token} (h : WellSpaced tokens) :
    scan false (textOf tokens) = some tokens := by
  induction tokens with
  | nil => rfl
  | cons token rest ih =>
      obtain ⟨hvalid, hnext, hrest⟩ := wellSpaced_cons_iff.mp h
      have hscan := ih hrest
      cases token with
      | word chars =>
          rw [textOf_cons, Token.chars]
          refine scan_word hvalid.1 hvalid.2 ?_ hscan
          intro other hother
          exact hnext (.word other) hother
      | literal content =>
          rw [textOf_cons, Token.chars, List.cons_append, scan, List.append_assoc]
          refine scan_literal (head?_textOf_ne_quote hrest ?_) hscan
          intro other hother
          exact hnext (.literal other) hother
      | mark c =>
          rw [textOf_cons, Token.chars, List.singleton_append, scan]
          · simp [hvalid.2, hscan]
          · exact hvalid.1

/-- A name character in front of well-spaced tokens. -/
theorem textOf_prependName (c : Char) (tokens : List Token) :
    textOf (prependName c tokens) = c :: textOf tokens := by
  fun_cases prependName c tokens <;> simp [Token.chars]

theorem WellSpaced.prependName {c : Char} (hc : Identifier.isNameChar c) {tokens : List Token}
    (h : WellSpaced tokens) : WellSpaced (prependName c tokens) := by
  fun_cases Sql.prependName c tokens with
  | case1 chars rest =>
      obtain ⟨hvalid, hnext, hrest⟩ := wellSpaced_cons_iff.mp h
      refine wellSpaced_cons_iff.mpr ⟨⟨by simp, ?_⟩, ?_, hrest⟩
      · intro d hd
        rcases List.mem_cons.mp hd with rfl | hd
        · exact hc
        · exact hvalid.2 d hd
      · intro next hmem
        cases next <;> simp_all [Token.Apart]
  | case2 tokens hword =>
      refine wellSpaced_cons_iff.mpr ⟨⟨by simp, by simpa using hc⟩, ?_, h⟩
      intro next hmem
      cases tokens with
      | nil => simp at hmem
      | cons token rest =>
          cases token with
          | word chars => exact absurd rfl (hword chars rest)
          | literal content => cases hmem; trivial
          | mark d => cases hmem; trivial

/-- A character in front of the content of the literal that tokens start with. -/
theorem WellSpaced.prependContent {rest : List Char} {tokens : List Token} (c : Char)
    (h : WellSpaced tokens) (htext : '\'' :: rest = textOf tokens)
    (hhead : ∃ content, tokens.head? = some (.literal content)) :
    WellSpaced (prependContent c tokens) ∧
      textOf (prependContent c tokens) = '\'' :: (doubleQuotes [c] ++ rest) ∧
      ∃ content, (prependContent c tokens).head? = some (.literal content) := by
  obtain ⟨content, hhead⟩ := hhead
  cases tokens with
  | nil => cases hhead
  | cons token tokens =>
      cases hhead
      obtain ⟨-, hnext, hrest⟩ := wellSpaced_cons_iff.mp h
      have hshape : rest = doubleQuotes content ++ '\'' :: textOf tokens := by
        simpa [Token.chars] using htext
      refine ⟨wellSpaced_cons_iff.mpr ⟨trivial, ?_, hrest⟩, ?_, c :: content, rfl⟩
      · intro next hmem
        have hapart := hnext next hmem
        cases next with
        | word chars => trivial
        | mark d => trivial
        | literal other => exact absurd hapart id
      · rw [hshape]
        by_cases hquote : c = '\''
        · simp [Sql.prependContent, Token.chars, doubleQuotes, hquote]
        · simp [Sql.prependContent, Token.chars, doubleQuotes, hquote]

/-- What reading gives has the text that was read, and its tokens can be told apart. -/
theorem scan_sound {inside : Bool} {text : List Char} {tokens : List Token}
    (h : scan inside text = some tokens) :
    WellSpaced tokens ∧ (if inside then '\'' :: text else text) = textOf tokens ∧
      (inside → ∃ content, tokens.head? = some (.literal content)) := by
  fun_induction scan inside text generalizing tokens with
  | case1 =>
      cases h
      exact ⟨.nil, rfl, by simp⟩
  | case2 => contradiction
  | case3 rest ih =>
      obtain ⟨found, hfound, rfl⟩ := Option.map_eq_some_iff.mp h
      obtain ⟨hspaced, htext, hinside⟩ := ih hfound
      obtain ⟨hresult, hchars, hhead⟩ := hspaced.prependContent '\'' htext (hinside rfl)
      exact ⟨hresult, hchars.symm, fun _ => hhead⟩
  | case4 rest hrest ih =>
      obtain ⟨found, hfound, rfl⟩ := Option.map_eq_some_iff.mp h
      obtain ⟨hspaced, htext, -⟩ := ih hfound
      change rest = textOf found at htext
      refine ⟨wellSpaced_cons_iff.mpr ⟨trivial, ?_, hspaced⟩, ?_, fun _ => ⟨[], rfl⟩⟩
      · -- A literal directly behind would have made the closing quote a doubled one.
        intro next hmem
        cases next with
        | word chars => trivial
        | mark c => trivial
        | literal content =>
            cases found with
            | nil => cases hmem
            | cons token found =>
                cases hmem
                exact absurd (by simpa [Token.chars] using htext) (hrest _)
      · simp_all [Token.chars, doubleQuotes]
  | case5 c rest _ hquote ih =>
      obtain ⟨found, hfound, rfl⟩ := Option.map_eq_some_iff.mp h
      obtain ⟨hspaced, htext, hinside⟩ := ih hfound
      obtain ⟨hresult, hchars, hhead⟩ := hspaced.prependContent c htext (hinside rfl)
      rw [doubleQuotes, if_neg hquote, doubleQuotes] at hchars
      exact ⟨hresult, hchars.symm, fun _ => hhead⟩
  | case6 rest ih =>
      obtain ⟨hspaced, htext, -⟩ := ih h
      exact ⟨hspaced, htext, by simp⟩
  | case7 c rest hquote hname ih =>
      obtain ⟨found, hfound, rfl⟩ := Option.map_eq_some_iff.mp h
      obtain ⟨hspaced, htext, -⟩ := ih hfound
      change rest = textOf found at htext
      exact ⟨hspaced.prependName hname, by simp [textOf_prependName, htext], by simp⟩
  | case8 c rest hquote hname ih =>
      obtain ⟨found, hfound, rfl⟩ := Option.map_eq_some_iff.mp h
      obtain ⟨hspaced, htext, -⟩ := ih hfound
      change rest = textOf found at htext
      refine ⟨wellSpaced_cons_iff.mpr ⟨⟨hquote, hname⟩, ?_, hspaced⟩, ?_, by simp⟩
      · intro next _
        cases next <;> trivial
      · simp [Token.chars, htext]

/-- Text and tokens determine one another. -/
theorem scan_eq_some_iff {text : List Char} {tokens : List Token} :
    scan false text = some tokens ↔ text = textOf tokens ∧ WellSpaced tokens := by
  constructor
  · intro h
    obtain ⟨hspaced, htext, -⟩ := scan_sound h
    exact ⟨htext, hspaced⟩
  · rintro ⟨rfl, hspaced⟩
    exact scan_textOf hspaced

theorem tokens?_eq_some_iff {text : String} {tokens : List Token} :
    tokens? text = some tokens ↔ text.toList = textOf tokens ∧ WellSpaced tokens :=
  scan_eq_some_iff

example :
    tokens? "a = 'O''Brien' AND b" =
      some [.word ['a'], .mark ' ', .mark '=', .mark ' ', .literal "O'Brien".toList, .mark ' ',
        .word "AND".toList, .mark ' ', .word ['b']] := by
  decide

end TenantQuery.Sql
