import Sitewright.Codec.Outline
import Sitewright.Yaml.Node
import Sitewright.Yaml.Spelling

/-!
# Reading YAML text

The document of a YAML text along an outline. What a plain scalar is depends on what is asked for: a
text for whoever asks for one, a number or nothing for others, and what it spells where any value
will do. Tags are minded only where any value will do, where something may be absent, and in place
of a choice, which a tag of the text itself names.

References are followed where something is read and not where it is passed over. The number of
references that are followed is bounded by the size of the text, and so is the nesting of lists and
maps, so that a text of nodes that refer to one another, or to themselves, is no endless one.
-/

namespace Sitewright.Yaml

/-- Reading that follows a bounded number of references. -/
abbrev Following := StateT Nat Option

/-- The node that a node refers to, if it is a reference. Of several nodes with one number the last
counts. -/
def follow (anchored : List (Nat × Node)) : Node → Following Node
  | .reference id => fun left =>
    match left, anchored.reverse.lookup id with
    | left + 1, some node => some (node, left)
    | _, _ => none
  | node => pure node

/-! ### Scalars -/

/-- Whether a scalar stands for nothing at all. -/
def Scalar.isEmpty (s : Scalar) : Bool := s.style = .plain && s.text.isEmpty

/-- Whether a scalar without a tag stands for the absent value. -/
def Scalar.isAbsent (s : Scalar) : Bool := s.style = .plain && (s.text.isEmpty || isNull s.text)

/-- Whether a node stands for the absent value, where something may be absent. A scalar whose tag
says that it does must do so. -/
def Node.isAbsent? : Node → Option Bool
  | .scalar ⟨_, some tag⟩ s =>
    if s.style = .plain && tag = nullTag then if isNull s.text then some true else none
    else some false
  | .scalar _ s => some s.isAbsent
  | _ => some false

/-- Whether a scalar may be read as what it spells: if it is plain, or if it is a block of lines
with the tag for it. -/
def isSpelling (tag : String) (props : Properties) (s : Scalar) : Bool :=
  s.style = .plain || (s.style = .literal && props.tag = some tag)

/-- A scalar as a choice. A tag of the text itself names the choice, and nothing stands after it. -/
def choiceOfScalar? (props : Properties) (s : Scalar) : Option Document :=
  match props.tag.bind choiceOf? with
  | some name => if s.isAbsent then some (.str name) else none
  | none => some (.str s.text)

/-- A scalar as any value. A tag of the text itself names a choice, which is no value. -/
def valueOfScalar? (props : Properties) (s : Scalar) : Option Document :=
  match props.tag with
  | none => if s.style = .plain then plainValue? s.text else some (.str s.text)
  | some tag =>
    if (choiceOf? tag).isSome then none
    else if tag = truthTag then (truth? s.text).map .bool
    else if tag = integerTag then integerValue? s.text
    else if tag = floatTag then float? s.text
    else if tag = nullTag then if isNull s.text then some .null else none
    else some (.str s.text)

/-- A scalar as what is asked for. -/
def documentOfScalar? (outline : Outline) (props : Properties) (s : Scalar) : Option Document :=
  match outline with
  | .text => some (.str s.text)
  | .truth => if isSpelling truthTag props s then (truth? s.text).map .bool else none
  | .natural =>
    if isSpelling integerTag props s then (natural? s.text).map fun n => .num (.int n) else none
  | .choice => choiceOfScalar? props s
  | .list _ => if s.isEmpty then some (.list [] none) else none
  | .record _ => if s.isEmpty then some (.map [] none) else none
  | .nullable _ => none
  | .value => valueOfScalar? props s

/-! ### Nodes -/

/-- The characters of a key. -/
def keyOf (anchored : List (Nat × Node)) (node : Node) : Following String := do
  match ← follow anchored node with
  | .scalar _ s => return s.text
  | _ => failure

/-- The nodes that are read of a list, each with what is asked for in its place. -/
def itemOutline? (props : Properties) : Outline → Option Outline
  | .list outline => some outline
  | .value => if (props.tag.bind choiceOf?).isSome then none else some .value
  | _ => none

/-- What is asked for under a key of a map: nothing if the map is not asked for, and no outline if
the entry is passed over. -/
def entryOutline? (props : Properties) (outline : Outline) : Option (String → Option Outline) :=
  match outline with
  | .record fields => some fun name => fields.lookup name
  | .value => if (props.tag.bind choiceOf?).isSome then none else some fun _ => some .value
  | _ => none

/-- Reads a node along an outline, with lists and maps up to a depth. -/
def readAlong (anchored : List (Nat × Node)) : Nat → Outline → Node → Following Document
  | depth, outline, node => do
    let node ← follow anchored node
    if outline.isNullable && (← node.isAbsent?) then return .null
    match node, depth with
    | .scalar props s, _ => documentOfScalar? outline.required props s
    | .list props items, depth + 1 =>
      let outline ← itemOutline? props outline.required
      return .list (← items.mapM (readAlong anchored depth outline)) none
    | .map props entries, depth + 1 =>
      let outlineOf ← entryOutline? props outline.required
      let entries ← entries.mapM fun (key, value) => do
        let key ← keyOf anchored key
        match outlineOf key with
        | some outline => return (key, ← readAlong anchored depth outline value)
        | none => return (key, .null)
      return .map entries none
    | _, _ => failure

/-! ### Texts -/

/-- Lists and maps are not nested deeper than this. -/
def nestingLimit : Nat := 128

/-- As many references are followed for each mark of a text. -/
def followLimit : Nat := 100

/-- The document of a node along an outline. -/
def Node.toDocument? (outline : Outline) (node : Node) : Option Document :=
  (readAlong node.anchored nestingLimit outline node |>.run (followLimit * node.size)).map (·.1)

end Sitewright.Yaml

namespace Sitewright

/-- The document of a YAML text along an outline, if it follows the format. -/
def Document.ofYaml? (outline : Outline) (s : String) : Option Document :=
  (Yaml.Node.ofText? s).bind (Yaml.Node.toDocument? outline)

end Sitewright
