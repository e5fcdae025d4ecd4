import TenantQuery.Yaml.Token
/-!
A YAML document as a tree.

The tokens of a text hold at most one document.  An alias stands for the node with its anchor;
it is kept as a leaf, and the nodes with anchors are listed beside the tree.
-/

namespace TenantQuery.Yaml

/-- A node of a document.  Anchors are numbered. -/
inductive Node where
  | scalar (anchor : Option Nat) (tag : Option Tag) (style : ScalarStyle)
      (chars : List Char)
  | sequence (anchor : Option Nat) (items : List Node)
  | mapping (anchor : Option Nat) (entries : List (Node × Node))
  | reference (target : Nat)

namespace Node

def empty : Node :=
  .scalar none none .plain []

end Node

/-- The tokens that are left, and the anchors and tag handles that are known. -/
structure TokenStream where
  tokens : List Token
  anchors : List (List Char × Nat) := []
  handles : List (List Char × Tag) :=
    [(['!'], asciiBytes ['!']), (['!', '!'], asciiBytes "tag:yaml.org,2002:".toList)]

namespace TokenStream

def next (stream : TokenStream) : TokenStream :=
  { stream with tokens := stream.tokens.drop 1 }

def isAt (stream : TokenStream) (token : Token) : Bool :=
  stream.tokens.head? == some token

def isAtAny (stream : TokenStream) (tokens : List Token) : Bool :=
  stream.tokens.head?.any tokens.contains

/-- Numbers an anchor.  The number is how many names of anchors were known before. -/
def addAnchor (stream : TokenStream) (name : List Char) : Nat × TokenStream :=
  let number := stream.anchors.length
  (number, { stream with
    anchors := (name, number) :: stream.anchors.filter (·.1 != name) })

/-- The full tag of a handle and a suffix; a handle must be known. -/
def fullTag? (stream : TokenStream) (handle : List Char) (suffix : Tag) : Option Tag :=
  if handle.isEmpty then some suffix
  else (stream.handles.lookup handle).map (· ++ suffix)

/-- What stands before the content of a node. -/
structure Properties where
  anchor : Option Nat := none
  tag : Option Tag := none

def anchor (stream : TokenStream) : Option Nat × TokenStream :=
  match stream.tokens with
  | .anchor name :: _ =>
    let (number, stream) := stream.next.addAnchor name
    (some number, stream)
  | _ => (none, stream)

def tag? (stream : TokenStream) : Option (Option Tag × TokenStream) :=
  match stream.tokens with
  | .tag handle suffix :: _ =>
    (stream.fullTag? handle suffix).map fun tag => (some tag, stream.next)
  | _ => some (none, stream)

/-- The anchor and the tag of a node, in either order. -/
def properties? (stream : TokenStream) : Option (Properties × TokenStream) := do
  match stream.anchor with
  | (some anchor, stream) =>
    let (tag, stream) ← stream.tag?
    return ({ anchor := some anchor, tag }, stream)
  | (none, stream) =>
    let (tag, stream) ← stream.tag?
    let (anchor, stream) := if tag.isSome then stream.anchor else (none, stream)
    return ({ anchor, tag }, stream)

end TokenStream

open TokenStream

/-- A node without content, which has an anchor or a tag. -/
def absent? (properties : Properties) (stream : TokenStream) : Option (Node × TokenStream) :=
  if properties.anchor.isSome || properties.tag.isSome then
    some (.scalar properties.anchor properties.tag .plain [], stream)
  else none

mutual

/-- A node.  Only in a block may it be a block collection; `indentless` allows a block sequence
at the column of the mapping around it, which opens without a token. -/
def node? (block indentless : Bool) : Nat → TokenStream → Option (Node × TokenStream)
  | 0, _ => none
  | fuel + 1, stream =>
    match stream.tokens with
    | .reference name :: _ =>
      (stream.anchors.lookup name).map fun target => (.reference target, stream.next)
    | _ => do
      let (properties, stream) ← stream.properties?
      let anchor := properties.anchor
      match stream.tokens with
      | .blockEntry :: _ =>
        if indentless then
          let (items, stream) ← indentlessItems? fuel stream
          return (.sequence anchor items, stream)
        else absent? properties stream
      | .scalar style chars :: _ =>
        return (.scalar anchor properties.tag style chars, stream.next)
      | .flowSequenceStart :: _ =>
        let (items, stream) ← flowItems? true fuel stream.next
        return (.sequence anchor items, stream)
      | .flowMappingStart :: _ =>
        let (entries, stream) ← flowEntries? true fuel stream.next
        return (.mapping anchor entries, stream)
      | .blockSequenceStart :: _ =>
        if block then
          let (items, stream) ← blockItems? fuel stream.next
          return (.sequence anchor items, stream)
        else absent? properties stream
      | .blockMappingStart :: _ =>
        if block then
          let (entries, stream) ← blockEntries? fuel stream.next
          return (.mapping anchor entries, stream)
        else absent? properties stream
      | _ => absent? properties stream

/-- A node, unless one of the given tokens shows that nothing is written. -/
def nodeUnless? (ends : List Token) (block indentless : Bool) :
    Nat → TokenStream → Option (Node × TokenStream)
  | 0, _ => none
  | fuel + 1, stream =>
    if stream.isAtAny ends then some (.empty, stream) else node? block indentless fuel stream

/-- The items of a block sequence up to and with its end. -/
def blockItems? : Nat → TokenStream → Option (List Node × TokenStream)
  | 0, _ => none
  | fuel + 1, stream =>
    if stream.isAt .blockEntry then do
      let (item, stream) ← nodeUnless? [.blockEntry, .blockEnd] true false fuel stream.next
      let (items, stream) ← blockItems? fuel stream
      return (item :: items, stream)
    else if stream.isAt .blockEnd then some ([], stream.next)
    else none

/-- The items of a block sequence that has no end of its own. -/
def indentlessItems? : Nat → TokenStream → Option (List Node × TokenStream)
  | 0, _ => none
  | fuel + 1, stream =>
    if stream.isAt .blockEntry then do
      let (item, stream) ←
        nodeUnless? [.blockEntry, .key, .value, .blockEnd] true false fuel stream.next
      let (items, stream) ← indentlessItems? fuel stream
      return (item :: items, stream)
    else some ([], stream)

/-- The entries of a block mapping up to and with its end. -/
def blockEntries? : Nat → TokenStream → Option (List (Node × Node) × TokenStream)
  | 0, _ => none
  | fuel + 1, stream =>
    if stream.isAt .key then do
      let (key, stream) ← nodeUnless? [.key, .value, .blockEnd] true true fuel stream.next
      let (value, stream) ←
        if stream.isAt .value then
          nodeUnless? [.key, .value, .blockEnd] true true fuel stream.next
        else some (.empty, stream)
      let (entries, stream) ← blockEntries? fuel stream
      return ((key, value) :: entries, stream)
    else if stream.isAt .blockEnd then some ([], stream.next)
    else none

/-- The items of a flow sequence up to and with its end.  An item may be a mapping of one
entry, written without brackets. -/
def flowItems? (first : Bool) : Nat → TokenStream → Option (List Node × TokenStream)
  | 0, _ => none
  | fuel + 1, stream =>
    if stream.isAt .flowSequenceEnd then some ([], stream.next)
    else do
      let stream ←
        if first then some stream
        else if stream.isAt .flowEntry then some stream.next
        else none
      if stream.isAt .flowSequenceEnd then return ([], stream.next)
      let (item, stream) ←
        if stream.isAt .key then flowPair? fuel stream.next else node? false false fuel stream
      let (items, stream) ← flowItems? false fuel stream
      return (item :: items, stream)

/-- A mapping of one entry inside a flow sequence.  Where its key is not written, the token in
its place is passed over. -/
def flowPair? : Nat → TokenStream → Option (Node × TokenStream)
  | 0, _ => none
  | fuel + 1, stream => do
    let (key, stream) ←
      if stream.isAtAny [.value, .flowEntry, .flowSequenceEnd] then
        some (Node.empty, stream.next)
      else node? false false fuel stream
    let (value, stream) ←
      if stream.isAt .value then
        nodeUnless? [.flowEntry, .flowSequenceEnd] false false fuel stream.next
      else some (.empty, stream)
    return (.mapping none [(key, value)], stream)

/-- The entries of a flow mapping up to and with its end. -/
def flowEntries? (first : Bool) : Nat → TokenStream → Option (List (Node × Node) × TokenStream)
  | 0, _ => none
  | fuel + 1, stream =>
    if stream.isAt .flowMappingEnd then some ([], stream.next)
    else do
      let stream ←
        if first then some stream
        else if stream.isAt .flowEntry then some stream.next
        else none
      if stream.isAt .flowMappingEnd then return ([], stream.next)
      let (entry, stream) ←
        if stream.isAt .key then do
          let (key, stream) ←
            nodeUnless? [.value, .flowEntry, .flowMappingEnd] false false fuel stream.next
          let (value, stream) ←
            if stream.isAt .value then
              nodeUnless? [.flowEntry, .flowMappingEnd] false false fuel stream.next
            else some (.empty, stream)
          pure ((key, value), stream)
        else do
          let (key, stream) ← node? false false fuel stream
          pure ((key, Node.empty), stream)
      let (entries, stream) ← flowEntries? false fuel stream
      return (entry :: entries, stream)

end

mutual

/-- The nodes with anchors in a node, itself first, the last one written in front. -/
def anchored (found : List (Nat × Node)) : Node → List (Nat × Node)
  | .reference _ => found
  | .scalar anchor tag style chars =>
    note anchor (.scalar anchor tag style chars) found
  | .sequence anchor items =>
    anchoredItems (note anchor (.sequence anchor items) found) items
  | .mapping anchor entries =>
    anchoredEntries (note anchor (.mapping anchor entries) found) entries

/-- The nodes found and one more, when it has an anchor. -/
def note (anchor : Option Nat) (node : Node) (found : List (Nat × Node)) : List (Nat × Node) :=
  match anchor with
  | some number => (number, node) :: found
  | none => found

def anchoredItems (found : List (Nat × Node)) : List Node → List (Nat × Node)
  | [] => found
  | item :: rest => anchoredItems (anchored found item) rest

def anchoredEntries (found : List (Nat × Node)) : List (Node × Node) → List (Nat × Node)
  | [] => found
  | (key, value) :: rest => anchoredEntries (anchored (anchored found key) value) rest

end

mutual

/-- How many steps it takes to write a node: one for a leaf, and an opening and a closing one
for a collection. -/
def steps : Node → Nat
  | .reference _ | .scalar _ _ _ _ => 1
  | .sequence _ items => stepsOfItems items + 2
  | .mapping _ entries => stepsOfEntries entries + 2

def stepsOfItems : List Node → Nat
  | [] => 0
  | item :: rest => steps item + stepsOfItems rest

def stepsOfEntries : List (Node × Node) → Nat
  | [] => 0
  | (key, value) :: rest => steps key + steps value + stepsOfEntries rest

end

/-- A document.  A text without any has the empty node for its root. -/
structure Document where
  root : Node
  /-- The nodes with anchors; of several with one number the first is meant. -/
  anchored : List (Nat × Node)
  /-- How many steps it takes to write the document. -/
  size : Nat

/-- The directives before a document: a version, at most once and of YAML 1.1 or 1.2, and the
handles of tags, each at most once. -/
def directives? (hasVersion : Bool) (handles : List (List Char × Tag)) :
    List Token → Option (List (List Char × Tag) × List Token)
  | .versionDirective major minor :: rest =>
    if hasVersion || major != 1 || (minor != 1 && minor != 2) then none
    else directives? true handles rest
  | .tagDirective handle expansion :: rest =>
    if (handles.lookup handle).isSome then none
    else directives? hasVersion ((handle, expansion) :: handles) rest
  | rest => some (handles, rest)

/-- The only document among the tokens.  Ends of documents may follow it. -/
def Document.ofTokens? (tokens : List Token) : Option Document := do
  let fuel := 4 * tokens.length + 8
  let (root, rest) ←
    match tokens with
    | [] => some (Node.empty, { tokens := [] : TokenStream })
    | .versionDirective _ _ :: _ | .tagDirective _ _ :: _ | .documentStart :: _ => do
      let (handles, rest) ← directives? false [] tokens
      match rest with
      | .documentStart :: rest =>
        let stream : TokenStream := { tokens := rest }
        let stream := { stream with handles := handles ++ stream.handles }
        if rest.isEmpty || stream.isAtAny [.documentStart, .documentEnd] then
          pure (Node.empty, stream)
        else
          match rest with
          | .versionDirective _ _ :: _ | .tagDirective _ _ :: _ => pure (Node.empty, stream)
          | _ => node? true false fuel stream
      | _ => none
    | _ => node? true false fuel { tokens }
  if rest.tokens.all (· == .documentEnd) then
    return { root, anchored := Yaml.anchored [] root, size := max 1 (steps root) }
  else none

def parse? (text : String) : Option Document := do
  Document.ofTokens? (← tokens? text)

end TenantQuery.Yaml
