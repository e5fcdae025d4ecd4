import TenantQuery.Yaml.Scalar
/-!
A YAML text as a list of tokens.

Blocks have no brackets of their own, so tokens that open and close them are put in by the
columns at which their entries stand.  That a scalar is a key is seen only at the colon behind
it; until then the place of every scalar that might be a key is remembered, one for each level
of flow collections, and the token of the key is put in there.
-/

namespace TenantQuery.Yaml

/-- A tag, as bytes: the escapes in it may write bytes that are no text. -/
abbrev Tag := List UInt8

def asciiBytes (chars : List Char) : List UInt8 :=
  chars.map (·.toNat.toUInt8)

inductive Token where
  | versionDirective (major minor : Nat)
  | tagDirective (handle : List Char) (expansion : Tag)
  | documentStart
  | documentEnd
  | blockSequenceStart
  | blockMappingStart
  | blockEnd
  | flowSequenceStart
  | flowSequenceEnd
  | flowMappingStart
  | flowMappingEnd
  | blockEntry
  | flowEntry
  | key
  | value
  | reference (name : List Char)
  | anchor (name : List Char)
  | tag (handle : List Char) (suffix : Tag)
  | scalar (style : ScalarStyle) (chars : List Char)
deriving DecidableEq

/-- The place of a token that might turn out to be a key. -/
structure PossibleKey where
  /-- Nothing but a key can stand there. -/
  required : Bool
  /-- How many tokens precede it. -/
  position : Nat
  start : Cursor

/-- How far a text was read. -/
structure Scanner where
  cursor : Cursor
  tokens : Array Token := #[]
  /-- The column of the innermost block; -1 outside all blocks. -/
  indent : Int := -1
  /-- The columns of the blocks around it. -/
  outer : List Int := []
  /-- A key may start here. -/
  keyAllowed : Bool := true
  /-- The possible key of each flow collection that is open and of the block around them. -/
  possibleKey : Option PossibleKey := none
  outerKeys : List (Option PossibleKey) := []

namespace Scanner

/-- Inside a flow collection, where columns do not matter. -/
def inFlow (scanner : Scanner) : Bool :=
  !scanner.outerKeys.isEmpty

def push (scanner : Scanner) (token : Token) : Scanner :=
  { scanner with tokens := scanner.tokens.push token }

def skip (scanner : Scanner) (count : Nat) : Scanner :=
  { scanner with cursor := scanner.cursor.skip count }

/-- Opens a block at a column that lies to the right of the current one.  The token that opens
it goes before the tokens from `position` on. -/
def openBlock (scanner : Scanner) (column position : Nat) (token : Token) : Scanner :=
  if scanner.inFlow || (column : Int) ≤ scanner.indent then scanner
  else
    { scanner with
      tokens := scanner.tokens.insertIdxIfInBounds position token
      indent := column
      outer := scanner.indent :: scanner.outer }

/-- Closes the blocks to the right of a column. -/
def closeBlocks (scanner : Scanner) (column : Int) : Scanner :=
  if scanner.inFlow then scanner
  else
    let closed := (scanner.indent :: scanner.outer).takeWhile (column < ·)
    match (scanner.indent :: scanner.outer).dropWhile (column < ·) with
    | [] => scanner
    | indent :: outer =>
      { scanner with
        tokens := scanner.tokens ++ closed.map fun _ => Token.blockEnd
        indent, outer }

/-- Gives up the possible key of the current level; one that nothing else could be is missed. -/
def dropKey? (scanner : Scanner) : Option Scanner :=
  if scanner.possibleKey.any (·.required) then none
  else some { scanner with possibleKey := none }

/-- Remembers the place ahead as that of a possible key. -/
def saveKey? (scanner : Scanner) : Option Scanner :=
  if !scanner.keyAllowed then some scanner
  else do
    let scanner ← scanner.dropKey?
    let required := !scanner.inFlow && scanner.indent == (scanner.cursor.column : Int)
    return { scanner with
      possibleKey := some ⟨required, scanner.tokens.size, scanner.cursor⟩ }

/-- A key stands on one line and within 1024 characters of its colon. -/
def isStale (cursor : Cursor) (key : PossibleKey) : Bool :=
  key.start.line < cursor.line || key.start.index + 1024 < cursor.index

/-- Gives up the possible keys whose colon can no longer follow. -/
def dropStaleKeys? (scanner : Scanner) : Option Scanner :=
  let stale := (scanner.possibleKey :: scanner.outerKeys).filterMap
    (·.filter (isStale scanner.cursor))
  if stale.any (·.required) then none
  else
    let fresh := fun key => Option.filter (!isStale scanner.cursor ·) key
    some { scanner with
      possibleKey := fresh scanner.possibleKey
      outerKeys := scanner.outerKeys.map fresh }

/-- Skips white space, comments and line ends before a token.  A tab is no indentation, so where
a key may start in a block it is not skipped. -/
def skipToToken (scanner : Scanner) : Nat → Scanner
  | 0 => scanner
  | fuel + 1 =>
    let tabs := scanner.inFlow || !scanner.keyAllowed
    let cursor := scanner.cursor.skipByteOrderMark
    let cursor := (cursor.skipWhile fun c => c == ' ' || (tabs && c == '\t')).skipComment
    if cursor.isAtBreak then
      skipToToken
        { scanner with
          cursor := cursor.skipBreak
          keyAllowed := scanner.keyAllowed || !scanner.inFlow }
        fuel
    else { scanner with cursor }

/-- Ends all blocks before a marker, a directive or the end of the text. -/
def endBlocks? (scanner : Scanner) : Option Scanner := do
  let scanner ← (scanner.closeBlocks (-1)).dropKey?
  return { scanner with keyAllowed := false }

def versionNumber? (cursor : Cursor) : Option (Nat × Cursor) :=
  let (digits, cursor) := cursor.span Char.isDigit
  if digits.isEmpty || 9 < digits.length then none
  else some (Text.decimalValue digits, cursor)

def versionDirective? (cursor : Cursor) : Option (Token × Cursor) := do
  let (major, cursor) ← versionNumber? (cursor.skipWhile isGap)
  if !cursor.isAt '.' then none
  let (minor, cursor) ← versionNumber? (cursor.skip 1)
  return (.versionDirective major minor, cursor)

/-- The handle at the front of a tag: an exclamation mark, and where a second one closes it the
word between them.  Otherwise the word belongs to the suffix. -/
def tagHandle? (cursor : Cursor) : Option (List Char × Cursor) :=
  if !cursor.isAt '!' then none
  else
    let (word, cursor) := (cursor.skip 1).span isWordChar
    if cursor.isAt '!' then some ('!' :: word ++ ['!'], cursor.skip 1)
    else some ('!' :: word, cursor)

def isTagChar (verbatim : Bool) (c : Char) : Bool :=
  isWordChar c || ";/?:@&=+$.%!~*'()".contains c || (verbatim && ",[]".contains c)

/-- How many bytes follow the first one of a UTF-8 sequence.  A byte that continues a sequence
starts none. -/
def continuationCount? (first : UInt8) : Option Nat :=
  if first < 0x80 then some 0
  else if first < 0xC0 then none
  else if first < 0xE0 then some 1
  else if first < 0xF0 then some 2
  else if first < 0xF8 then some 3
  else none

/-- A byte written as `%` and two hexadecimal digits. -/
def escapedByte? : List Char → Option (UInt8 × List Char)
  | '%' :: a :: b :: rest => (Text.numeral? 16 [a, b]).map fun byte => (byte.toUInt8, rest)
  | _ => none

/-- So many escaped bytes that continue a UTF-8 sequence. -/
def continuation? : Nat → List Char → Option (List UInt8 × List Char)
  | 0, chars => some ([], chars)
  | count + 1, chars => do
    let (byte, rest) ← escapedByte? chars
    if byte < 0x80 || 0xC0 ≤ byte then none
    let (bytes, rest) ← continuation? count rest
    return (byte :: bytes, rest)

/-- The bytes that the characters of a tag write.  Escaped bytes come in the shape of UTF-8
sequences, whether or not these stand for characters. -/
def tagBytes? : Nat → List Char → Option (List UInt8)
  | 0, _ => none
  | _ + 1, [] => some []
  | fuel + 1, c :: rest =>
    if c == '%' then do
      let (first, rest) ← escapedByte? (c :: rest)
      let (others, rest) ← continuation? (← continuationCount? first) rest
      return first :: others ++ (← tagBytes? fuel rest)
    else (tagBytes? fuel rest).map (asciiBytes [c] ++ ·)

/-- The rest of a tag behind what was read of it.  A tag is not written as nothing, and a zero
byte ends it. -/
def tagUri? (verbatim : Bool) (read : List Char) (cursor : Cursor) : Option (Tag × Cursor) := do
  let (chars, cursor) := cursor.span (isTagChar verbatim)
  let bytes ← tagBytes? (chars.length + 1) chars
  if read.isEmpty && chars.isEmpty then none
  else return ((asciiBytes (read.drop 1) ++ bytes).takeWhile (· != 0), cursor)

/-- The handle and the text that it is short for. -/
def tagDirective? (cursor : Cursor) : Option (Token × Cursor) := do
  let (handle, cursor) ← tagHandle? (cursor.skipWhile isGap)
  if !(handle == ['!'] || (2 ≤ handle.length && handle.getLast? == some '!')) then none
  if !cursor.isAtGap then none
  let (expansion, cursor) ← tagUri? true [] (cursor.skipWhile isGap)
  if cursor.isBlankAt 0 then return (.tagDirective handle expansion, cursor) else none

def directive? (scanner : Scanner) : Option Scanner := do
  let scanner ← scanner.endBlocks?
  let (name, cursor) := (scanner.cursor.skip 1).span isWordChar
  if !cursor.isBlankAt 0 then none
  let (token, cursor) ←
    if name == "YAML".toList then versionDirective? cursor
    else if name == "TAG".toList then tagDirective? cursor
    else none
  let cursor := (cursor.skipWhile isGap).skipComment
  if cursor.isAtLineEnd then return { scanner with cursor := cursor.skipBreak }.push token
  else none

def documentMarker? (scanner : Scanner) (token : Token) : Option Scanner := do
  return ((← scanner.endBlocks?).skip 3).push token

def openFlow? (scanner : Scanner) (token : Token) : Option Scanner := do
  let scanner ← scanner.saveKey?
  return ({ scanner with
    possibleKey := none
    outerKeys := scanner.possibleKey :: scanner.outerKeys
    keyAllowed := true }.skip 1).push token

def closeFlow? (scanner : Scanner) (token : Token) : Option Scanner := do
  let scanner ← scanner.dropKey?
  let scanner :=
    match scanner.outerKeys with
    | key :: keys => { scanner with possibleKey := key, outerKeys := keys }
    | [] => scanner
  return ({ scanner with keyAllowed := false }.skip 1).push token

/-- The comma of a flow collection. -/
def flowEntry? (scanner : Scanner) : Option Scanner := do
  return ({ (← scanner.dropKey?) with keyAllowed := true }.skip 1).push .flowEntry

/-- The dash of a block sequence, which may open one. -/
def blockEntry? (scanner : Scanner) : Option Scanner := do
  if !scanner.inFlow && !scanner.keyAllowed then none
  let scanner :=
    scanner.openBlock scanner.cursor.column scanner.tokens.size .blockSequenceStart
  return ({ (← scanner.dropKey?) with keyAllowed := true }.skip 1).push .blockEntry

/-- The question mark of an explicit key, which may open a block mapping. -/
def explicitKey? (scanner : Scanner) : Option Scanner := do
  if !scanner.inFlow && !scanner.keyAllowed then none
  let scanner :=
    scanner.openBlock scanner.cursor.column scanner.tokens.size .blockMappingStart
  return ({ (← scanner.dropKey?) with keyAllowed := !scanner.inFlow }.skip 1).push .key

/-- The colon of a value.  It makes the possible key of the level a key, which may open a block
mapping. -/
def value? (scanner : Scanner) : Option Scanner := do
  match scanner.possibleKey with
  | some key =>
    let scanner := { scanner with
      tokens := scanner.tokens.insertIdxIfInBounds key.position .key
      possibleKey := none
      keyAllowed := false }
    let scanner := scanner.openBlock key.start.column key.position .blockMappingStart
    return (scanner.skip 1).push .value
  | none =>
    if !scanner.inFlow && !scanner.keyAllowed then none
    let scanner :=
      scanner.openBlock scanner.cursor.column scanner.tokens.size .blockMappingStart
    return ({ scanner with keyAllowed := !scanner.inFlow }.skip 1).push .value

def anchorName? (cursor : Cursor) : Option (List Char × Cursor) :=
  let (name, cursor) := (cursor.skip 1).span isWordChar
  let ends := cursor.isBlankAt 0 || cursor.head?.any ("?:,]\x7d%@\x60".contains ·)
  if name.isEmpty || !ends then none else some (name, cursor)

/-- A tag: written out between angle brackets, by a handle, or by a suffix alone. -/
def tag? (scanner : Scanner) : Option (Token × Cursor) := do
  let cursor := scanner.cursor
  let (token, cursor) ←
    if cursor.rest[1]? == some '<' then do
      let (suffix, cursor) ← tagUri? true [] (cursor.skip 2)
      if cursor.isAt '>' then some (Token.tag [] suffix, cursor.skip 1) else none
    else do
      let (handle, afterHandle) ← tagHandle? cursor
      if 2 ≤ handle.length && handle.getLast? == some '!' then
        let (suffix, cursor) ← tagUri? false [] afterHandle
        some (Token.tag handle suffix, cursor)
      else
        let (suffix, cursor) ← tagUri? false handle afterHandle
        some (if suffix.isEmpty then .tag [] (asciiBytes ['!']) else .tag ['!'] suffix, cursor)
  let ends := cursor.isBlankAt 0 || (scanner.inFlow && cursor.isAt ',')
  if ends then return (token, cursor) else none

/-- A token that may be, or may belong to, a key. -/
def keyToken? (scanner : Scanner) (read : Scanner → Option (Token × Cursor)) :
    Option Scanner := do
  let scanner ← scanner.saveKey?
  let (token, cursor) ← read scanner
  return { scanner with cursor, keyAllowed := false }.push token

def blockScalarToken? (scanner : Scanner) (literal : Bool) : Option Scanner := do
  let scanner ← scanner.dropKey?
  let (chars, cursor) ← blockScalar? literal scanner.indent scanner.cursor
  return { scanner with cursor, keyAllowed := true }.push
    (.scalar (if literal then .literal else .folded) chars)

def quotedToken? (scanner : Scanner) (double : Bool) : Option Scanner :=
  scanner.keyToken? fun scanner =>
    (quotedScalar? double scanner.cursor).map fun (chars, cursor) =>
      (.scalar (if double then .doubleQuoted else .singleQuoted) chars, cursor)

/-- A plain scalar.  Behind one that ran over a line end a key may start. -/
def plainToken? (scanner : Scanner) : Option Scanner := do
  let scanner ← scanner.saveKey?
  let (text, cursor) ← plainScalar? scanner.inFlow scanner.indent scanner.cursor
  return { scanner with cursor, keyAllowed := text.brokeLine }.push (.scalar .plain text.chars)

/-- The characters with which no plain scalar starts. -/
def isIndicator (c : Char) : Bool :=
  "-?:,[]\x7b\x7d#&*!|>'\"%@\x60".contains c

def startsPlain (scanner : Scanner) (c : Char) : Bool :=
  let next := scanner.cursor.rest[1]?
  !(isIndicator c || isGap c || isBreak c) ||
    (c == '-' && !next.any isGap) ||
    (!scanner.inFlow && (c == '?' || c == ':') && !scanner.cursor.isBlankAt 1)

/-- The token whose first character is ahead. -/
def token? (scanner : Scanner) (c : Char) : Option Scanner :=
  let cursor := scanner.cursor
  let alone := cursor.isBlankAt 1
  if cursor.column == 0 && c == '%' then scanner.directive?
  else if cursor.isAtMarker '-' then scanner.documentMarker? .documentStart
  else if cursor.isAtMarker '.' then scanner.documentMarker? .documentEnd
  else if c == '[' then scanner.openFlow? .flowSequenceStart
  else if c == '{' then scanner.openFlow? .flowMappingStart
  else if c == ']' then scanner.closeFlow? .flowSequenceEnd
  else if c == '}' then scanner.closeFlow? .flowMappingEnd
  else if c == ',' then scanner.flowEntry?
  else if c == '-' && alone then scanner.blockEntry?
  else if c == '?' && (scanner.inFlow || alone) then scanner.explicitKey?
  else if c == ':' && (scanner.inFlow || alone) then scanner.value?
  else if c == '*' then
    scanner.keyToken? fun scanner =>
      (anchorName? scanner.cursor).map fun (name, cursor) => (.reference name, cursor)
  else if c == '&' then
    scanner.keyToken? fun scanner =>
      (anchorName? scanner.cursor).map fun (name, cursor) => (.anchor name, cursor)
  else if c == '!' then scanner.keyToken? tag?
  else if c == '|' && !scanner.inFlow then scanner.blockScalarToken? true
  else if c == '>' && !scanner.inFlow then scanner.blockScalarToken? false
  else if c == '\'' then scanner.quotedToken? false
  else if c == '"' then scanner.quotedToken? true
  else if scanner.startsPlain c then scanner.plainToken?
  else none

/-- The end of the text, which ends a line as well. -/
def finish? (scanner : Scanner) : Option (List Token) := do
  let scanner ← scanner.endBlocks?
  return scanner.tokens.toList

/-- All tokens from here on.  Every token takes a character, so the length of the text is fuel
enough. -/
def run? : Nat → Scanner → Option (List Token)
  | 0, _ => none
  | fuel + 1, scanner => do
    let scanner ← (scanner.skipToToken scanner.cursor.fuel).dropStaleKeys?
    let scanner := scanner.closeBlocks scanner.cursor.column
    match scanner.cursor.head? with
    | none => scanner.finish?
    | some c => run? fuel (← scanner.token? c)

end Scanner

def tokens? (text : String) : Option (List Token) :=
  let cursor := Cursor.ofText text
  if cursor.rest.all isAllowed then Scanner.run? (cursor.fuel + 1) { cursor } else none

end TenantQuery.Yaml
