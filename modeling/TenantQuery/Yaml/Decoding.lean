import TenantQuery.Dictionary
import TenantQuery.Yaml.Node
/-!
Reading typed data out of a YAML document.

What a node is read as depends on the type that is expected: any scalar is a text as it is
written, only plain scalars are numbers, and a collection that is written as nothing is empty.
Tags do not count, except that they can make a null explicit and a literal block a number.
Following aliases is bounded, so that a small document cannot stand for an enormous one.
-/

namespace TenantQuery.Yaml

/-- A reader of a node: it knows the document and how many aliases were followed. -/
abbrev Decoder (α : Type) := Document → Node → StateT Nat Option α

namespace Decoder

/-- The node itself, or the node that an alias stands for. -/
def target : Decoder Node := fun document node =>
  match node with
  | .reference number => do
    modify (· + 1)
    if 100 * document.size < (← get) then failure
    match document.anchored.lookup number with
    | some node => pure node
    | none => failure
  | node => pure node

def isNothing : Node → Bool
  | .scalar _ _ .plain [] => true
  | _ => false

/-- A scalar as text, whatever it looks like. -/
def text : Decoder String := fun document node => do
  match ← target document node with
  | .scalar _ _ _ chars => pure (String.ofList chars)
  | _ => failure

def list {α : Type} (item : Decoder α) : Decoder (List α) := fun document node => do
  match ← target document node with
  | .sequence _ items => items.mapM (item document)
  | node => if isNothing node then pure [] else failure

/-- The entries of a mapping in the order in which they are written. -/
def entries : Decoder (List (Node × Node)) := fun document node => do
  match ← target document node with
  | .mapping _ entries => pure entries
  | node => if isNothing node then pure [] else failure

/-- A dictionary; the last entry under each key counts. -/
def dictionary {α : Type} (value : Decoder α) : Decoder (Dictionary α) :=
  fun document node => do
    let found ← (← entries document node).mapM fun (key, node) => do
      pure (← text document key, ← value document node)
    pure (Dictionary.ofList found)

def nullWords : List (List Char) :=
  ["null", "Null", "NULL", "~"].map String.toList

def nullTag : Tag := asciiBytes "tag:yaml.org,2002:null".toList

def integerTag : Tag := asciiBytes "tag:yaml.org,2002:int".toList

/-- A value that may be null.  Only a plain scalar can be null; under the tag of a null it must
be one, and under another tag it is none. -/
def optional {α : Type} (value : Decoder α) : Decoder (Option α) := fun document node => do
  let node ← target document node
  match node with
  | .scalar _ none .plain chars =>
    if chars.isEmpty || nullWords.contains chars then pure none
    else some <$> value document node
  | .scalar _ (some tag) .plain chars =>
    if tag == nullTag then if nullWords.contains chars then pure none else failure
    else some <$> value document node
  | _ => some <$> value document node

/-- The number that digits of a base write; there is at least one. -/
def digits? (base : Nat) (chars : List Char) : Option Nat :=
  if chars.isEmpty then none else Text.numeral? base chars

/-- The number that a plain scalar writes, in decimal or behind a mark for another base, with
an optional plus sign.  A decimal has no leading zero. -/
def unsigned? (chars : List Char) : Option Nat :=
  let chars := if chars.head? == some '+' then chars.drop 1 else chars
  match chars with
  | '0' :: 'x' :: digits => digits? 16 digits
  | '0' :: 'o' :: digits => digits? 8 digits
  | '0' :: 'b' :: digits => digits? 2 digits
  | '0' :: _ :: _ => none
  | digits => digits? 10 digits

def natBelow (bound : Nat) : Decoder Nat := fun document node => do
  match ← target document node with
  | .scalar _ tag style chars =>
    if style == .plain || (style == .literal && tag == some integerTag) then
      match (unsigned? chars).filter (· < bound) with
      | some n => pure n
      | none => failure
    else failure
  | _ => failure

/-- The fields of a record.  A known field stands at most once; others do not count. -/
def record (known : List String) : Decoder (Dictionary Node) := fun document node => do
  let found ← (← entries document node).mapM fun (key, node) => do
    pure (← text document key, node)
  let found := found.filter (known.contains ·.1)
  if (found.map Prod.fst).eraseDups.length = found.length then pure found else failure

/-- A field of a record, or its default when it is absent. -/
def optionalField {α : Type} (default : α) (name : String) (value : Decoder α)
    (document : Document) (fields : Dictionary Node) : StateT Nat Option α :=
  match fields.get? name with
  | some node => value document node
  | none => pure default

def requiredField {α : Type} (name : String) (value : Decoder α)
    (document : Document) (fields : Dictionary Node) : StateT Nat Option α :=
  match fields.get? name with
  | some node => value document node
  | none => failure

/-- What a reader makes of the root of a document. -/
def decode? {α : Type} (decoder : Decoder α) (document : Document) : Option α :=
  ((decoder document document.root).run 0).map Prod.fst

end Decoder

end TenantQuery.Yaml
