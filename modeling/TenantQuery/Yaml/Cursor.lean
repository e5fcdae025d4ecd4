/-!
A place in a YAML text, and the classes of characters that structure it.

The characters ahead are known together with the line and column of the first of them, since
the structure of a block depends on columns.
-/

namespace TenantQuery.Yaml

def isBreak (c : Char) : Bool :=
  c == '\n' || c == '\r' || c == '\u0085' || c == '\u2028' || c == '\u2029'

/-- The characters that separate words of a line. -/
def isGap (c : Char) : Bool :=
  c == ' ' || c == '\t'

/-- The characters of anchors and directive names. -/
def isWordChar (c : Char) : Bool :=
  c.isAlphanum || c == '_' || c == '-'

/-- The characters that a text may hold at all: no control characters but the tab and the line
breaks, and no noncharacters of the basic plane. -/
def isAllowed (c : Char) : Bool :=
  let n := c.toNat
  n == 0x09 || n == 0x0A || n == 0x0D || (0x20 ≤ n && n ≤ 0x7E) || n == 0x85 ||
    (0xA0 ≤ n && n ≤ 0xD7FF) || (0xE000 ≤ n && n ≤ 0xFFFD) || 0x10000 ≤ n

structure Cursor where
  rest : List Char
  /-- How many characters the whole text has. -/
  size : Nat
  /-- How many characters lie behind. -/
  index : Nat := 0
  line : Nat := 0
  column : Nat := 0

namespace Cursor

def head? (cursor : Cursor) : Option Char :=
  cursor.rest.head?

def isAt (cursor : Cursor) (c : Char) : Bool :=
  cursor.head? == some c

/-- The text ends here, or the character ahead at a distance is a gap or a line break. -/
def isBlankAt (cursor : Cursor) (distance : Nat) : Bool :=
  match cursor.rest[distance]? with
  | some c => isGap c || isBreak c
  | none => true

def isAtGap (cursor : Cursor) : Bool :=
  cursor.head?.any isGap

def isAtBreak (cursor : Cursor) : Bool :=
  cursor.head?.any isBreak

/-- The line or the text ends here. -/
def isAtLineEnd (cursor : Cursor) : Bool :=
  cursor.head?.all isBreak

/-- The place so many characters further on the same line. -/
def skip (cursor : Cursor) (count : Nat) : Cursor :=
  { cursor with
    rest := cursor.rest.drop count
    index := cursor.index + count
    column := cursor.column + count }

/-- The characters of a class that are ahead, and the place behind them.  The class holds no
line break. -/
def span (cursor : Cursor) (p : Char → Bool) : List Char × Cursor :=
  let taken := cursor.rest.takeWhile p
  (taken, cursor.skip taken.length)

/-- The place behind all characters of a class that are ahead. -/
def skipWhile (cursor : Cursor) (p : Char → Bool) : Cursor :=
  (cursor.span p).2

/-- The line break that is ahead, as it counts in a scalar, and the start of the next line.  The
two separators of Unicode count as they are, and every other break counts as a line feed. -/
def readBreak (cursor : Cursor) : List Char × Cursor :=
  let next (count : Nat) (rest : List Char) : Cursor :=
    { cursor with rest, index := cursor.index + count, line := cursor.line + 1, column := 0 }
  match cursor.rest with
  | '\r' :: '\n' :: rest => (['\n'], next 2 rest)
  | c :: rest =>
    if !isBreak c then ([], cursor)
    else if c == '\u2028' || c == '\u2029' then ([c], next 1 rest)
    else (['\n'], next 1 rest)
  | [] => ([], cursor)

/-- The start of the next line, when a line break is ahead. -/
def skipBreak (cursor : Cursor) : Cursor :=
  cursor.readBreak.2

def skipComment (cursor : Cursor) : Cursor :=
  if cursor.isAt '#' then cursor.skipWhile (!isBreak ·) else cursor

/-- The place behind a byte order mark at the start of a line.  The mark takes up a column. -/
def skipByteOrderMark (cursor : Cursor) : Cursor :=
  if cursor.column == 0 && cursor.isAt '\uFEFF' then cursor.skip 1 else cursor

/-- A marker of three characters stands alone at the start of the line. -/
def isAtMarker (cursor : Cursor) (marker : Char) : Bool :=
  cursor.column == 0 && cursor.rest.take 3 == [marker, marker, marker] && cursor.isBlankAt 3

/-- A marker that starts or ends a document is ahead. -/
def isAtDocumentMarker (cursor : Cursor) : Bool :=
  cursor.isAtMarker '-' || cursor.isAtMarker '.'

/-- A bound on the number of steps of a reader that reads on with each step. -/
def fuel (cursor : Cursor) : Nat :=
  cursor.size + 1

def ofText (text : String) : Cursor :=
  let rest := text.toList
  { rest, size := rest.length }

end Cursor

end TenantQuery.Yaml
