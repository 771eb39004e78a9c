import StableFleet.Yaml.Token

/-!
# Nodes of a configuration text

A text holds one node: a scalar, a list or a mapping. A node can be marked with a
number and referred to elsewhere; of several nodes marked with one number the
last is meant. Where nothing stands, there is a plain scalar without text.
-/

namespace StableFleet.Yaml

/-- A part of a configuration. -/
inductive Node
  | scalar (style : Style) (tag : Option Bytes) (text : String)
  | sequence (items : List Node)
  | mapping (members : List (Node × Node))
  | anchored (number : Nat) (node : Node)
  | reference (number : Nat)
  deriving Repr, Inhabited

namespace Node

/-- The node that stands where nothing is written. -/
def nothing : Node := .scalar .plain none ""

/-- What stands before the contents of a node. -/
structure Properties where
  anchor : Option Nat := none
  tag : Option Bytes := none

/-- The tag of a scalar that is written, if it says anything. -/
def Properties.scalarTag (given : Properties) : Option Bytes :=
  given.tag.filter fun tag => tag ≠ Tag.bare

/-- The properties at the front of some tokens, each at most once. -/
def properties : List Token → Properties × List Token
  | .anchor number :: .tag tag :: rest => (⟨some number, some tag⟩, rest)
  | .tag tag :: .anchor number :: rest => (⟨some number, some tag⟩, rest)
  | .anchor number :: rest => (⟨some number, none⟩, rest)
  | .tag tag :: rest => (⟨none, some tag⟩, rest)
  | rest => ({}, rest)

/-- A node with the number that it is marked with. -/
def marked (given : Properties) (node : Node) : Node :=
  match given.anchor with
  | some number => .anchored number node
  | none => node

/-- Whether a mapping laid out by indentation goes on, so that a key or value
before it is missing. -/
def endsMember : List Token → Bool
  | [] => true
  | token :: _ => token = .key || token = .value || token = .blockEnd

/-- Whether a list laid out by indentation goes on, so that the item before it is
missing. -/
def endsItem : List Token → Bool
  | [] => true
  | token :: _ => token = .item || token = .blockEnd

/-- Whether one of the tokens is next. -/
def isNext (expected : List Token) : List Token → Bool
  | [] => true
  | token :: _ => expected.contains token

mutual

/-- The node at the front of some tokens. A list within a mapping may have its
items at the indentation of the mapping. -/
def read? (inBlock inMapping : Bool) : Nat → List Token → Option (Node × List Token)
  | 0, _ => none
  | _ + 1, .reference number :: rest => some (.reference number, rest)
  | bound + 1, tokens =>
    let (given, tokens) := properties tokens
    let finish := fun parts : Node × List Token => (marked given parts.1, parts.2)
    match tokens with
    | .item :: _ =>
      if inMapping then (readLooseItems? bound tokens).map fun parts =>
        finish (.sequence parts.1, parts.2)
      else missing? given tokens
    | .scalar style text :: rest => some (finish (.scalar style given.scalarTag text, rest))
    | .flowSequence :: rest =>
      (readFlowItems? true bound rest).map fun parts => finish (.sequence parts.1, parts.2)
    | .flowMapping :: rest =>
      (readFlowMembers? true bound rest).map fun parts => finish (.mapping parts.1, parts.2)
    | .blockSequence :: rest =>
      if inBlock then (readItems? bound rest).map fun parts => finish (.sequence parts.1, parts.2)
      else missing? given tokens
    | .blockMapping :: rest =>
      if inBlock then (readMembers? bound rest).map fun parts => finish (.mapping parts.1, parts.2)
      else missing? given tokens
    | _ => missing? given tokens

/-- A node of which only the properties are written. -/
def missing? (given : Properties) (tokens : List Token) : Option (Node × List Token) :=
  if given.anchor.isSome || given.tag.isSome then
    some (marked given (.scalar .plain given.tag ""), tokens)
  else none

/-- A node, or nothing where its place is empty. -/
def readUnless? (empty inBlock inMapping : Bool) (bound : Nat) (tokens : List Token) :
    Option (Node × List Token) :=
  if empty then some (nothing, tokens)
  else match bound with
    | 0 => none
    | bound + 1 => read? inBlock inMapping bound tokens

/-- The items of a list up to its end. -/
def readItems? : Nat → List Token → Option (List Node × List Token)
  | 0, _ => none
  | bound + 1, .item :: rest => do
    let (item, rest) ← readUnless? (endsItem rest) true false bound rest
    let (items, rest) ← readItems? bound rest
    return (item :: items, rest)
  | _ + 1, .blockEnd :: rest => some ([], rest)
  | _ + 1, _ => none

/-- The items of a list that has no indentation of its own. -/
def readLooseItems? : Nat → List Token → Option (List Node × List Token)
  | 0, _ => none
  | bound + 1, .item :: rest => do
    let (item, rest) ← readUnless? (endsItem rest || endsMember rest) true false bound rest
    let (items, rest) ← readLooseItems? bound rest
    return (item :: items, rest)
  | _ + 1, tokens => some ([], tokens)

/-- The members of a mapping up to its end. -/
def readMembers? : Nat → List Token → Option (List (Node × Node) × List Token)
  | 0, _ => none
  | bound + 1, .key :: rest => do
    let (key, rest) ← readUnless? (endsMember rest) true true bound rest
    let (value, rest) ← readValue? true (endsMember rest.tail) bound rest
    let (members, rest) ← readMembers? bound rest
    return ((key, value) :: members, rest)
  | _ + 1, .blockEnd :: rest => some ([], rest)
  | _ + 1, _ => none

/-- The value behind a key, if the mark of a value follows. -/
def readValue? (inBlock empty : Bool) : Nat → List Token → Option (Node × List Token)
  | 0, _ => none
  | bound + 1, .value :: rest => readUnless? empty inBlock inBlock bound rest
  | _ + 1, tokens => some (nothing, tokens)

/-- The items of a list between brackets, of which the first has no comma before
it. An item may be a mapping with one member. -/
def readFlowItems? (first : Bool) : Nat → List Token → Option (List Node × List Token)
  | 0, _ => none
  | _ + 1, .flowSequenceEnd :: rest => some ([], rest)
  | bound + 1, tokens => do
    let tokens ← if first then some tokens else match tokens with
      | .comma :: rest => some rest
      | _ => none
    match tokens with
    | .flowSequenceEnd :: rest => return ([], rest)
    | .key :: rest =>
      let (key, rest) ←
        readUnless? (isNext [.value, .comma, .flowSequenceEnd] rest) false false bound rest
      let (value, rest) ← readValue? false (isNext [.comma, .flowSequenceEnd] rest.tail) bound rest
      let (items, rest) ← readFlowItems? false bound rest
      return (.mapping [(key, value)] :: items, rest)
    | _ =>
      let (item, rest) ← readUnless? false false false bound tokens
      let (items, rest) ← readFlowItems? false bound rest
      return (item :: items, rest)

/-- The members of a mapping between braces, of which the first has no comma
before it. A key may lack a value. -/
def readFlowMembers? (first : Bool) : Nat → List Token → Option (List (Node × Node) × List Token)
  | 0, _ => none
  | _ + 1, .flowMappingEnd :: rest => some ([], rest)
  | bound + 1, tokens => do
    let tokens ← if first then some tokens else match tokens with
      | .comma :: rest => some rest
      | _ => none
    match tokens with
    | .flowMappingEnd :: rest => return ([], rest)
    | .key :: rest =>
      let (key, rest) ←
        readUnless? (isNext [.value, .comma, .flowMappingEnd] rest) false false bound rest
      let (value, rest) ← readValue? false (isNext [.comma, .flowMappingEnd] rest.tail) bound rest
      let (members, rest) ← readFlowMembers? false bound rest
      return ((key, value) :: members, rest)
    | _ =>
      let (key, rest) ← readUnless? false false false bound tokens
      let (members, rest) ← readFlowMembers? false bound rest
      return ((key, nothing) :: members, rest)

end

/-- The tokens behind the mark of a document, which follows any directives. -/
def afterStart? : List Token → Option (List Token)
  | .directive :: rest => afterStart? rest
  | .documentStart :: rest => some rest
  | _ => none

/-- Whether a document without contents ends here. -/
def endsDocument : List Token → Bool
  | [] => true
  | token :: _ => token = .documentStart || token = .documentEnd || token = .directive

/-- The node of the only document of some tokens. A document that is not marked
has contents, unless there are no tokens at all. -/
def ofTokens? (tokens : List Token) : Option Node := do
  let bound := 4 * tokens.length + 4
  let (node, rest) ← match tokens with
    | [] => some (nothing, [])
    | first :: _ =>
      if first = .directive || first = .documentStart then
        (afterStart? tokens).bind fun contents =>
          readUnless? (endsDocument contents) true false bound contents
      else read? true false bound tokens
  if rest.all (· = .documentEnd) then some node else none

mutual

/-- Adds the nodes with numbers in a node to others, the last one in front. -/
def addMarked (known : List (Nat × Node)) : Node → List (Nat × Node)
  | .scalar _ _ _ => known
  | .reference _ => known
  | .anchored number node => addMarked ((number, node) :: known) node
  | .sequence items => addMarkedItems known items
  | .mapping members => addMarkedMembers known members

/-- The same for the items of a list. -/
def addMarkedItems (known : List (Nat × Node)) : List Node → List (Nat × Node)
  | [] => known
  | item :: items => addMarkedItems (addMarked known item) items

/-- The same for the members of a mapping. -/
def addMarkedMembers (known : List (Nat × Node)) : List (Node × Node) → List (Nat × Node)
  | [] => known
  | (key, value) :: members => addMarkedMembers (addMarked (addMarked known key) value) members

end

end Node

/-- The only document of a text: its node, and the nodes in it that can be
referred to, the last one in front. -/
structure Document where
  root : Node
  marked : List (Nat × Node)

namespace Document

/-- The document that a text holds, if the text has any sense. A text of blanks
and comments holds nothing. -/
def ofText? (text : String) : Option Document := do
  let root ← Node.ofTokens? (← Token.ofChars? text.toList)
  return ⟨root, Node.addMarked [] root⟩

/-- What is meant where a node stands in a document. -/
def meant (document : Document) : Node → Node
  | .anchored _ node => node
  | .reference number =>
    ((document.marked.find? fun entry => entry.1 = number).map (·.2)).getD Node.nothing
  | node => node

end Document

end StableFleet.Yaml
