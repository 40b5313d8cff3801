import Sitewright.Yaml.Token

/-!
# Nodes

The nodes of a YAML text: scalars, lists and maps, each of which may have a name and a tag, and
references to named nodes. A node is the tree that the text spells out; what a reference stands for
is found in the tree, since a name may be given to a node further down, and even around the
reference.

A reader of a node takes tokens and answers with the node and the tokens after it, or with nothing
if the text breaks the format. What is left out between two marks is an empty scalar. The recursion
is on a bound that starts above the number of tokens.
-/

namespace Sitewright.Yaml

/-- What is said about a node before it. -/
structure Properties where
  /-- The number of the name that it is given. -/
  anchor : Option Nat
  /-- Its tag. -/
  tag : Option String
  deriving DecidableEq

/-- The properties of a node about which nothing is said. -/
def Properties.bare : Properties := ⟨none, none⟩

/-- A node. -/
inductive Node where
  /-- The node with a number. -/
  | reference (id : Nat)
  /-- A scalar. -/
  | scalar (props : Properties) (s : Scalar)
  /-- A list. -/
  | list (props : Properties) (items : List Node)
  /-- A map. -/
  | map (props : Properties) (entries : List (Node × Node))

namespace Node

instance : Inhabited Node := ⟨scalar .bare .empty⟩

/-- The node that stands for nothing at all. -/
def empty : Node := scalar .bare .empty

/-- The properties of a node. -/
def props : Node → Properties
  | reference _ => .bare
  | scalar props _ => props
  | list props _ => props
  | map props _ => props

/-! ### Named nodes -/

/-- A node under the number of its name, if it has one. -/
def named (props : Properties) (node : Node) : List (Nat × Node) :=
  (props.anchor.map fun id => (id, node)).toList

mutual

/-- The named nodes of a tree with their numbers, in the order of the text. -/
def anchored : Node → List (Nat × Node)
  | reference _ => []
  | scalar props s => named props (scalar props s)
  | list props items => named props (list props items) ++ anchoredItems items
  | map props entries => named props (map props entries) ++ anchoredEntries entries

/-- The named nodes of items. -/
def anchoredItems : List Node → List (Nat × Node)
  | [] => []
  | node :: rest => node.anchored ++ anchoredItems rest

/-- The named nodes of entries. -/
def anchoredEntries : List (Node × Node) → List (Nat × Node)
  | [] => []
  | (key, value) :: rest => key.anchored ++ (value.anchored ++ anchoredEntries rest)

end

mutual

/-- The number of marks of a tree: one for a scalar or a reference, and two around the parts of a
list or a map. -/
def size : Node → Nat
  | reference _ => 1
  | scalar _ _ => 1
  | list _ items => sizeItems items + 2
  | map _ entries => sizeEntries entries + 2

/-- The number of marks of items. -/
def sizeItems : List Node → Nat
  | [] => 0
  | node :: rest => node.size + sizeItems rest

/-- The number of marks of entries. -/
def sizeEntries : List (Node × Node) → Nat
  | [] => 0
  | (key, value) :: rest => key.size + (value.size + sizeEntries rest)

end

end Node

/-! ### Reading nodes -/

/-- Where a node stands. -/
inductive Place where
  /-- Where any block may start. -/
  | block
  /-- Where also the items of a list may start in the column of the keys. -/
  | besideKeys
  /-- Within brackets. -/
  | brackets
  deriving DecidableEq

/-- Reads the name and the tag of a node, in any order. -/
def readProperties (handles : TagHandles) : List Token → Option (Properties × List Token)
  | .anchor id :: .tag t :: rest =>
    (t.resolve? handles).map fun tag => (⟨some id, some tag⟩, rest)
  | .tag t :: .anchor id :: rest =>
    (t.resolve? handles).map fun tag => (⟨some id, some tag⟩, rest)
  | .anchor id :: rest => some (⟨some id, none⟩, rest)
  | .tag t :: rest => (t.resolve? handles).map fun tag => (⟨none, some tag⟩, rest)
  | tokens => some (.bare, tokens)

/-- The properties of a scalar. The mark of a tag alone says nothing about it. -/
def Properties.ofScalar (props : Properties) : Properties :=
  if props.tag = some "!" then { props with tag := none } else props

/-- Whether one of some tokens follows. -/
def isNext (marks : List Token) (tokens : List Token) : Bool := tokens.head?.any marks.contains

/-- The tokens before which the value of a block may be left out. -/
def blockMarks : List Token := [.key, .value, .blockEnd]

mutual

/-- Reads a node. -/
def readNode (handles : TagHandles) : Nat → Place → List Token → Option (Node × List Token)
  | 0, _, _ => none
  | _ + 1, _, .reference id :: rest => some (.reference id, rest)
  | bound + 1, place, tokens => do
    let (props, tokens) ← readProperties handles tokens
    match tokens with
    | .scalar s :: rest => return (.scalar props.ofScalar s, rest)
    | .openList :: rest =>
      let (items, rest) ← readItems handles bound true rest
      return (.list props items, rest)
    | .openMap :: rest =>
      let (entries, rest) ← readEntries handles bound true rest
      return (.map props entries, rest)
    | .blockList :: rest =>
      let (items, rest) ← readBlockItems handles bound rest
      return (.list props items, rest)
    | .blockMap :: rest =>
      let (entries, rest) ← readBlockEntries handles bound rest
      return (.map props entries, rest)
    | tokens =>
      if place = .besideKeys && isNext [.item] tokens then
        let (items, rest) ← readItemsBesideKeys handles bound tokens
        return (.list props items, rest)
      else if props = .bare then none
      else return (.scalar props .empty, tokens)

/-- Reads a node that may be left out before some tokens. -/
def readNodeUnless (handles : TagHandles) :
    Nat → Place → List Token → List Token → Option (Node × List Token)
  | 0, _, _, _ => none
  | bound + 1, place, marks, tokens =>
    if isNext marks tokens then some (.empty, tokens) else readNode handles bound place tokens

/-- Reads the value after a colon, if there is one; it may be left out before some tokens. -/
def readValue (handles : TagHandles) :
    Nat → Place → List Token → List Token → Option (Node × List Token)
  | 0, _, _, _ => none
  | bound + 1, place, marks, tokens =>
    match tokens with
    | .value :: rest => readNodeUnless handles bound place marks rest
    | tokens => some (.empty, tokens)

/-- Reads the items of a block up to its end. -/
def readBlockItems (handles : TagHandles) : Nat → List Token → Option (List Node × List Token)
  | 0, _ => none
  | bound + 1, tokens =>
    match tokens with
    | .blockEnd :: rest => some ([], rest)
    | .item :: rest => do
      let (node, rest) ← readNodeUnless handles bound .block [.item, .blockEnd] rest
      let (items, rest) ← readBlockItems handles bound rest
      return (node :: items, rest)
    | _ => none

/-- Reads the items of a list in the column of the keys around it, as long as there are some. -/
def readItemsBesideKeys (handles : TagHandles) :
    Nat → List Token → Option (List Node × List Token)
  | 0, _ => none
  | bound + 1, tokens =>
    match tokens with
    | .item :: rest => do
      let (node, rest) ← readNodeUnless handles bound .block (.item :: blockMarks) rest
      let (items, rest) ← readItemsBesideKeys handles bound rest
      return (node :: items, rest)
    | tokens => some ([], tokens)

/-- Reads the entries of a block up to its end. -/
def readBlockEntries (handles : TagHandles) :
    Nat → List Token → Option (List (Node × Node) × List Token)
  | 0, _ => none
  | bound + 1, tokens =>
    match tokens with
    | .blockEnd :: rest => some ([], rest)
    | .key :: rest => do
      let (key, rest) ← readNodeUnless handles bound .besideKeys blockMarks rest
      let (value, rest) ← readValue handles bound .besideKeys blockMarks rest
      let (entries, rest) ← readBlockEntries handles bound rest
      return ((key, value) :: entries, rest)
    | _ => none

/-- Reads the items of a list in brackets up to the closing one. Items after the first stand after a
comma, and one that has a key is a map of a single entry. -/
def readItems (handles : TagHandles) :
    Nat → Bool → List Token → Option (List Node × List Token)
  | 0, _, _ => none
  | bound + 1, isFirst, tokens =>
    match isFirst, tokens with
    | _, .closeList :: rest => some ([], rest)
    | false, .comma :: rest => readItems handles bound true rest
    | false, _ => none
    | true, .key :: rest => do
      let (entry, rest) ← readPair handles bound rest
      let (items, rest) ← readItems handles bound false rest
      return (.map .bare [entry] :: items, rest)
    | true, tokens => do
      let (node, rest) ← readNode handles bound .brackets tokens
      let (items, rest) ← readItems handles bound false rest
      return (node :: items, rest)

/-- Reads the only entry of a map without brackets of its own. A key that is left out takes the mark
after it with it. -/
def readPair (handles : TagHandles) : Nat → List Token → Option ((Node × Node) × List Token)
  | 0, _ => none
  | bound + 1, tokens => do
    let (key, rest) ←
      if isNext [.value, .comma, .closeList] tokens then some (Node.empty, tokens.drop 1)
      else readNode handles bound .brackets tokens
    let (value, rest) ← readValue handles bound .brackets [.comma, .closeList] rest
    return ((key, value), rest)

/-- Reads the entries of a map in brackets up to the closing one. Entries after the first stand
after a comma, and a key without a mark has no value. -/
def readEntries (handles : TagHandles) :
    Nat → Bool → List Token → Option (List (Node × Node) × List Token)
  | 0, _, _ => none
  | bound + 1, isFirst, tokens =>
    match isFirst, tokens with
    | _, .closeMap :: rest => some ([], rest)
    | false, .comma :: rest => readEntries handles bound true rest
    | false, _ => none
    | true, .key :: rest => do
      let (key, rest) ←
        readNodeUnless handles bound .brackets [.value, .comma, .closeMap] rest
      let (value, rest) ← readValue handles bound .brackets [.comma, .closeMap] rest
      let (entries, rest) ← readEntries handles bound false rest
      return ((key, value) :: entries, rest)
    | true, tokens => do
      let (key, rest) ← readNode handles bound .brackets tokens
      let (entries, rest) ← readEntries handles bound false rest
      return ((key, .empty) :: entries, rest)

end

/-! ### Reading documents -/

/-- The directives before a document, and the tokens after them. -/
def readDeclarations : Declarations → List Token → Option (Declarations × List Token)
  | declarations, .directive d :: rest =>
    (declarations.add? d).bind fun declarations => readDeclarations declarations rest
  | declarations, tokens => some (declarations, tokens)

/-- Whether a token stands between documents. -/
def isBetweenDocuments : Token → Bool
  | .directive _ => true
  | .documentStart => true
  | .documentEnd => true
  | _ => false

/-- Reads the node of the only document of a text. -/
def readDocument (tokens : List Token) : Option Node := do
  let bound := 3 * tokens.length + 4
  let (node, rest) ←
    if tokens.head?.all fun t => !isBetweenDocuments t then
      readNode .standard bound .block tokens
    else do
      let (declarations, tokens) ← readDeclarations .empty tokens
      match tokens with
      | .documentStart :: rest =>
        if rest.head?.all isBetweenDocuments then some (Node.empty, rest)
        else readNode declarations.allHandles bound .block rest
      | _ => none
  if rest.all (· == .documentEnd) then return node else none

/-- The node of a text that follows the format and holds one document. -/
def Node.ofText? (s : String) : Option Node := (Token.ofText? s).bind readDocument

end Sitewright.Yaml
