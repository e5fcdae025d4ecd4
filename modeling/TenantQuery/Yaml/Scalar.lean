import TenantQuery.Text.Digits
import TenantQuery.Yaml.Cursor
/-!
The texts of scalars: plain, between quotes, and in blocks.

Lines of plain and quoted scalars are folded: a single line break becomes a space, and of
several breaks the first is dropped.  Each reader starts at the first character of the scalar
and gives its text with the place behind it, or nothing when the scalar is malformed.
-/

namespace TenantQuery.Yaml

inductive ScalarStyle where
  | plain | singleQuoted | doubleQuoted | literal | folded
deriving DecidableEq

/-- White space inside a scalar: either gaps within a line, or line breaks, around which gaps
do not count. -/
structure Space where
  gaps : List Char := []
  breaks : List Char := []
  /-- The line has ended, be it by a break that does not count. -/
  broken : Bool := false

/-- The text that white space inside a scalar stands for. -/
def Space.fold (space : Space) (escaped : Bool) : List Char :=
  if escaped then space.breaks
  else
    match space.breaks with
    | [] => space.gaps
    | ['\n'] => [' ']
    | '\n' :: more => more
    | breaks => breaks

/-- White space inside a scalar.  In a plain scalar a tab must not stand before the column at
which continued lines start. -/
def readSpace? (tabsFrom : Nat) : Nat → Cursor → Space → Option (Space × Cursor)
  | 0, cursor, space => some (space, cursor)
  | fuel + 1, cursor, space =>
    match cursor.head? with
    | none => some (space, cursor)
    | some c =>
      if isGap c then
        if space.broken && c == '\t' && cursor.column < tabsFrom then none
        else
          let gaps := if space.broken then space.gaps else space.gaps ++ [c]
          readSpace? tabsFrom fuel (cursor.skip 1) { space with gaps }
      else if isBreak c then
        let (broke, next) := cursor.readBreak
        readSpace? tabsFrom fuel next
          { gaps := [], breaks := space.breaks ++ broke, broken := true }
      else some (space, cursor)

/-- The characters that structure a flow collection. -/
def isFlowIndicator (c : Char) : Bool :=
  c == ',' || c == '[' || c == ']' || c == '{' || c == '}'

/-- The next word of a plain scalar.  It ends at white space, at a colon before white space, and
in a flow collection at an indicator; there a colon must not stand before an indicator. -/
def plainWord? (inFlow : Bool) : List Char → Option (List Char)
  | [] => some []
  | c :: rest =>
    if isGap c || isBreak c then some []
    else if c == ':' && inFlow && rest.head?.any (fun d => isFlowIndicator d || d == '?') then none
    else if c == ':' && rest.head?.all (fun d => isGap d || isBreak d) then some []
    else if inFlow && isFlowIndicator c then some []
    else (plainWord? inFlow rest).map (c :: ·)

structure ScalarText where
  chars : List Char
  /-- The scalar was followed by a line break that reading went past. -/
  brokeLine : Bool := false

/-- The words of a plain scalar, from the next one on. -/
def plainWords? (inFlow : Bool) (continuedFrom : Nat) :
    Nat → Cursor → List Char → Space → Option (ScalarText × Cursor)
  | 0, cursor, read, space => some (⟨read, space.broken⟩, cursor)
  | fuel + 1, cursor, read, space => do
    if cursor.isAtDocumentMarker || cursor.isAt '#' then return (⟨read, space.broken⟩, cursor)
    let word ← plainWord? inFlow cursor.rest
    let (read, space) :=
      if word.isEmpty then (read, space) else (read ++ space.fold false ++ word, {})
    let cursor := cursor.skip word.length
    if !(cursor.isAtGap || cursor.isAtBreak) then return (⟨read, space.broken⟩, cursor)
    let (space, cursor) ← readSpace? continuedFrom cursor.fuel cursor space
    if !inFlow && cursor.column < continuedFrom then return (⟨read, space.broken⟩, cursor)
    plainWords? inFlow continuedFrom fuel cursor read space

/-- A plain scalar in a block of the given indentation, or in a flow collection. -/
def plainScalar? (inFlow : Bool) (indent : Int) (cursor : Cursor) : Option (ScalarText × Cursor) :=
  plainWords? inFlow (indent + 1).toNat cursor.fuel cursor [] {}

/-- The character that an escape of one letter stands for. -/
def letterEscape? (c : Char) : Option Char :=
  match c with
  | '0' => some '\x00'
  | 'a' => some '\x07'
  | 'b' => some '\x08'
  | 't' | '\t' => some '\t'
  | 'n' => some '\n'
  | 'v' => some '\x0b'
  | 'f' => some '\x0c'
  | 'r' => some '\r'
  | 'e' => some '\x1b'
  | ' ' => some ' '
  | '"' => some '"'
  | '/' => some '/'
  | '\\' => some '\\'
  | 'N' => some '\u0085'
  | '_' => some '\u00a0'
  | 'L' => some '\u2028'
  | 'P' => some '\u2029'
  | _ => none

/-- How many digits the number of a character has behind the letter of its escape. -/
def escapeLength? (c : Char) : Option Nat :=
  match c with
  | 'x' => some 2
  | 'u' => some 4
  | 'U' => some 8
  | _ => none

/-- The character of an escape, and how many characters stand behind the backslash. -/
def escape? (rest : List Char) : Option (Char × Nat) :=
  match rest with
  | [] => none
  | c :: digits =>
    match letterEscape? c with
    | some char => some (char, 1)
    | none => do
      let count ← escapeLength? c
      let digits := digits.take count
      let number ← if digits.length = count then Text.numeral? 16 digits else none
      if number.isValidChar then some (Char.ofNat number, count + 1) else none

inductive WordEnd where
  | blank | quote | escapedBreak
deriving DecidableEq

/-- The next word of a quoted scalar, with the number of characters that it takes.  Single
quotes know no escape but the doubled quote. -/
def quotedWord? (double : Bool) : Nat → List Char → Option (List Char × Nat × WordEnd)
  | 0, _ => none
  | _ + 1, [] => some ([], 0, .blank)
  | fuel + 1, c :: rest =>
    let onwards (char : Char) (count : Nat) (rest : List Char) :=
      (quotedWord? double fuel rest).map fun (chars, length, ended) =>
        (char :: chars, length + count, ended)
    if isGap c || isBreak c then some ([], 0, .blank)
    else if double then
      if c == '"' then some ([], 0, .quote)
      else if c == '\\' then
        if rest.head?.any isBreak then some ([], 1, .escapedBreak)
        else
          match escape? rest with
          | some (char, count) => onwards char (count + 1) (rest.drop count)
          | none => none
      else onwards c 1 rest
    else if c == '\'' then
      match rest with
      | '\'' :: more => onwards '\'' 2 more
      | _ => some ([], 0, .quote)
    else onwards c 1 rest

/-- The words of a quoted scalar up to and with its closing quote. -/
def quotedWords? (double : Bool) : Nat → Cursor → List Char → Option (List Char × Cursor)
  | 0, _, _ => none
  | fuel + 1, cursor, read => do
    if cursor.isAtDocumentMarker || cursor.rest.isEmpty then none
    let (word, length, ended) ← quotedWord? double cursor.fuel cursor.rest
    let cursor := cursor.skip length
    let read := read ++ word
    let escaped := ended = .escapedBreak
    let cursor := if escaped then cursor.skipBreak else cursor
    if cursor.isAt (if double then '"' else '\'') then return (read, cursor.skip 1)
    let (space, cursor) ← readSpace? 0 cursor.fuel cursor { broken := escaped }
    quotedWords? double fuel cursor (read ++ space.fold escaped)

/-- A quoted scalar, of which the opening quote is ahead. -/
def quotedScalar? (double : Bool) (cursor : Cursor) : Option (List Char × Cursor) :=
  quotedWords? double cursor.fuel (cursor.skip 1) []

/-- What becomes of the line breaks at the end of a block scalar. -/
inductive Chomping where
  | strip | clip | keep
deriving DecidableEq

structure BlockHeader where
  chomping : Chomping := .clip
  /-- The indentation relative to the block around, when it is written. -/
  increment : Option Nat := none

def chomping? (cursor : Cursor) : Option (Chomping × Cursor) :=
  if cursor.isAt '+' then some (.keep, cursor.skip 1)
  else if cursor.isAt '-' then some (.strip, cursor.skip 1)
  else none

/-- An indentation from 1 to 9, when a digit is ahead. -/
def increment? (cursor : Cursor) : Option (Option Nat × Cursor) :=
  match cursor.head? with
  | some c =>
    if !c.isDigit then some (none, cursor)
    else if c == '0' then none
    else some (some (c.toNat - '0'.toNat), cursor.skip 1)
  | none => some (none, cursor)

/-- The header of a block scalar, in either order of its two parts, and the start of the first
line. -/
def blockHeader? (cursor : Cursor) : Option (BlockHeader × Cursor) := do
  let (header, cursor) ←
    match chomping? cursor with
    | some (chomping, cursor) => do
      let (increment, cursor) ← increment? cursor
      pure ({ chomping, increment : BlockHeader }, cursor)
    | none => do
      let (increment, cursor) ← increment? cursor
      match increment.bind (fun _ => chomping? cursor) with
      | some (chomping, cursor) => pure ({ chomping, increment : BlockHeader }, cursor)
      | none => pure ({ increment }, cursor)
  let cursor := (cursor.skipWhile isGap).skipComment
  if cursor.isAtLineEnd then return (header, cursor.skipBreak) else none

/-- The empty lines before a line of a block scalar, and the place at which its text starts.
Without a known indentation all spaces are skipped and the widest line is reported. -/
def blockBreaks? (indent : Option Nat) :
    Nat → Cursor → Nat → List Char → Option (Nat × List Char × Cursor)
  | 0, cursor, widest, breaks => some (widest, breaks, cursor)
  | fuel + 1, cursor, widest, breaks =>
    let spaces := (cursor.rest.takeWhile (· == ' ')).length
    let cursor := cursor.skip <|
      match indent with
      | some n => min spaces (n - cursor.column)
      | none => spaces
    let widest := max widest cursor.column
    let indented := indent.any (· ≤ cursor.column)
    if !indented && cursor.isAt '\t' then none
    else if cursor.isAtBreak then
      let (broke, cursor) := cursor.readBreak
      blockBreaks? indent fuel cursor widest (breaks ++ broke)
    else some (widest, breaks, cursor)

/-- What was read of a block scalar up to a line. -/
structure BlockText where
  chars : List Char := []
  /-- The break behind the last line. -/
  lastBreak : List Char := []
  /-- The breaks of the empty lines behind it. -/
  emptyLines : List Char := []
  /-- The last line began with a gap, and is not folded. -/
  lastIndented : Bool := false

def blockLines? (literal : Bool) (indent : Nat) :
    Nat → Cursor → BlockText → Option (BlockText × Cursor)
  | 0, cursor, text => some (text, cursor)
  | fuel + 1, cursor, text =>
    if cursor.column != indent || cursor.rest.isEmpty then some (text, cursor)
    else do
      let indented := cursor.isAtGap
      let joined :=
        if !literal && text.lastBreak == ['\n'] && !text.lastIndented && !indented then
          if text.emptyLines.isEmpty then [' '] else []
        else text.lastBreak
      let (line, cursor) := cursor.span (!isBreak ·)
      let (lastBreak, cursor) := cursor.readBreak
      let (_, emptyLines, cursor) ← blockBreaks? (some indent) cursor.fuel cursor 0 []
      blockLines? literal indent fuel cursor
        { chars := text.chars ++ joined ++ text.emptyLines ++ line
          lastBreak, emptyLines, lastIndented := indented }

/-- A block scalar inside a block of the given indentation; its indicator is ahead. -/
def blockScalar? (literal : Bool) (parent : Int) (cursor : Cursor) :
    Option (List Char × Cursor) := do
  let (header, cursor) ← blockHeader? (cursor.skip 1)
  let written := header.increment.map fun n => (max parent 0).toNat + n
  let (widest, emptyLines, cursor) ← blockBreaks? written cursor.fuel cursor 0 []
  let indent := written.getD (max widest (max (parent + 1) 1).toNat)
  let (text, cursor) ← blockLines? literal indent cursor.fuel cursor { emptyLines }
  let tail :=
    match header.chomping with
    | .strip => []
    | .clip => text.lastBreak
    | .keep => text.lastBreak ++ text.emptyLines
  return (text.chars ++ tail, cursor)

end TenantQuery.Yaml
