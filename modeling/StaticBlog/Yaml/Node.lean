import StaticBlog.Yaml.Token

/-!
# YAML nodes

- `Node` : the tree of a YAML text, with scalars as text
- `Node.parse?` : the tree of a text that holds one document

An alias stands for a copy of the node that it names. A node may be nested 128 deep, copies
included, and the copies made may not outnumber the parts of the text by a hundred to one.
-/

namespace StaticBlog
namespace Yaml

/-- A part of a YAML text. The tag is the full one, if there is any. -/
inductive Node
  | scalar (tag : Option String) (text : String) (style : ScalarStyle)
  | sequence (tag : Option String) (items : List Node)
  | mapping (tag : Option String) (pairs : List (Node × Node))
  deriving Repr, Inhabited

namespace Node

/-! ## Composition -/

/-- A node with the depth of its nesting and the number of aliases that were followed in it. -/
structure Composed where
  node : Node
  height : Nat := 0
  jumps : Nat := 0
  deriving Inhabited

/-- What has been seen of a document. -/
structure ComposeState where
  tokens : List Token
  /-- The anchored nodes, the last one first; a node that is not complete yet is missing. -/
  anchors : List (String × Option Composed) := []
  /-- What the handles of tags stand for. -/
  handles : List (List Char × List Char) :=
    [(['!'], ['!']), (['!', '!'], "tag:yaml.org,2002:".toList)]
  /-- The number of parts seen: scalars, aliases, and both ends of collections. -/
  events : Nat := 0

abbrev Compose := StateT ComposeState Option

namespace Compose

def fail {α : Type} : Compose α := fun _ => none

/-- The next token. -/
def peek : Compose Token := do return (← get).tokens.headD .streamEnd

def advance : Compose Unit := modify fun s => { s with tokens := s.tokens.drop 1 }

/-- Passes the next token if it is the given one. -/
def accept (t : Token) : Compose Bool := do
  if (← peek) = t then
    advance
    return true
  else return false

def count (n : Nat) : Compose Unit := modify fun s => { s with events := s.events + n }

def anchorNode (anchor : Option String) (c : Option Composed) : Compose Unit :=
  match anchor with
  | some name => modify fun s => { s with anchors := (name, c) :: s.anchors }
  | none => pure ()

/-- The full tag that is written with a handle and a suffix. -/
def fullTag (t : TagText) : Compose String := do
  if t.handle.isEmpty then return String.ofList t.suffix
  else match (← get).handles.lookup t.handle with
    | some start => return String.ofList (start ++ t.suffix)
    | none => fail

/-- An anchor and a tag, in either order. -/
def properties : Compose (Option String × Option String) := do
  match ← peek with
  | .anchor name =>
    advance
    match ← peek with
    | .tag t =>
      advance
      return (some name, some (← fullTag t))
    | _ => return (some name, none)
  | .tag t =>
    advance
    let tag ← fullTag t
    match ← peek with
    | .anchor name =>
      advance
      return (some name, some tag)
    | _ => return (none, some tag)
  | _ => return (none, none)

/-- The node of an alias. -/
def aliased (name : String) : Compose Composed := do
  advance
  count 1
  match (← get).anchors.lookup name with
  | some (some c) => return { c with jumps := c.jumps + 1 }
  | _ => fail

/-- A scalar with its properties. -/
def scalarNode (anchor tag : Option String) (text : String) (style : ScalarStyle) :
    Compose Composed := do
  count 1
  let c : Composed := { node := .scalar tag text style }
  anchorNode anchor (some c)
  return c

def emptyNode : Compose Composed := scalarNode none none "" .plain

/-- A collection of the given parts. -/
def collection (anchor : Option String) (node : Node) (parts : List Composed) :
    Compose Composed := do
  let c : Composed :=
    { node
      height := 1 + (parts.map (·.height)).foldl max 0
      jumps := (parts.map (·.jumps)).foldl (· + ·) 0 }
  anchorNode anchor (some c)
  return c

def sequenceOf (anchor tag : Option String) (items : List Composed) : Compose Composed :=
  collection anchor (.sequence tag (items.map (·.node))) items

def mappingOf (anchor tag : Option String) (pairs : List (Composed × Composed)) :
    Compose Composed :=
  collection anchor (.mapping tag (pairs.map fun (k, v) => (k.node, v.node)))
    (pairs.flatMap fun (k, v) => [k, v])

/-- The tag of a scalar. The tag that only says "not plain" is no tag. -/
def scalarTag (tag : Option String) : Option String := if tag = some "!" then none else tag

end Compose

open Compose

/-- Whether a token ends a part of an indented mapping. -/
def endsBlockPart (t : Token) : Bool := t = .key || t = .value || t = .blockEnd

mutual

/-- A node. `inBlock` says whether an indented collection may stand here, and `indentless` whether a
sequence may stand here that is not indented. `fuel` bounds the nesting and the length. -/
def node : (fuel : Nat) → (inBlock indentless : Bool) → Compose Composed
  | 0, _, _ => fail
  | fuel + 1, inBlock, indentless => do
    match ← peek with
    | .alias name => aliased name
    | _ =>
      let (anchor, tag) ← properties
      match ← peek with
      | .blockEntry =>
        if indentless then
          count 2
          anchorNode anchor none
          sequenceOf anchor tag (← indentlessItems fuel)
        else if anchor.isSome || tag.isSome then scalarNode anchor (scalarTag tag) "" .plain
        else fail
      | .scalar text style =>
        advance
        scalarNode anchor (scalarTag tag) (String.ofList text) style
      | .flowSequenceStart =>
        advance
        count 2
        anchorNode anchor none
        sequenceOf anchor tag (← flowItems fuel true)
      | .flowMappingStart =>
        advance
        count 2
        anchorNode anchor none
        mappingOf anchor tag (← flowPairs fuel true)
      | .blockSequenceStart =>
        if inBlock then
          advance
          count 2
          anchorNode anchor none
          sequenceOf anchor tag (← blockItems fuel)
        else if anchor.isSome || tag.isSome then scalarNode anchor (scalarTag tag) "" .plain
        else fail
      | .blockMappingStart =>
        if inBlock then
          advance
          count 2
          anchorNode anchor none
          mappingOf anchor tag (← blockPairs fuel)
        else if anchor.isSome || tag.isSome then scalarNode anchor (scalarTag tag) "" .plain
        else fail
      | _ =>
        if anchor.isSome || tag.isSome then scalarNode anchor (scalarTag tag) "" .plain else fail

/-- The items of an indented sequence, up to its end. -/
def blockItems : (fuel : Nat) → Compose (List Composed)
  | 0 => fail
  | fuel + 1 => do
    if ← accept .blockEntry then
      let t ← peek
      let item ← if t = .blockEntry || t = .blockEnd then emptyNode else node fuel true false
      return item :: (← blockItems fuel)
    else if ← accept .blockEnd then return []
    else fail

/-- The items of a sequence that is not indented below its key. -/
def indentlessItems : (fuel : Nat) → Compose (List Composed)
  | 0 => fail
  | fuel + 1 => do
    if ← accept .blockEntry then
      let t ← peek
      let item ←
        if t = .blockEntry || endsBlockPart t then emptyNode else node fuel true false
      return item :: (← indentlessItems fuel)
    else return []

/-- The pairs of an indented mapping, up to its end. -/
def blockPairs : (fuel : Nat) → Compose (List (Composed × Composed))
  | 0 => fail
  | fuel + 1 => do
    if ← accept .key then
      let k ← if endsBlockPart (← peek) then emptyNode else node fuel true true
      let v ←
        if ← accept .value then
          if endsBlockPart (← peek) then emptyNode else node fuel true true
        else emptyNode
      return (k, v) :: (← blockPairs fuel)
    else if ← accept .blockEnd then return []
    else fail

/-- The items of a sequence in brackets, up to its end. An item may be a single pair. -/
def flowItems : (fuel : Nat) → (first : Bool) → Compose (List Composed)
  | 0, _ => fail
  | fuel + 1, first => do
    if ← accept .flowSequenceEnd then return []
    else
      if !first then
        if !(← accept .flowEntry) then fail
      if ← accept .flowSequenceEnd then return []
      else if ← accept .key then
        count 2
        let pair ← flowPair fuel
        let item ← mappingOf none none [pair]
        return item :: (← flowItems fuel false)
      else
        let item ← node fuel false false
        return item :: (← flowItems fuel false)

/-- A single pair in brackets, behind its mark. When no key follows, the next token is passed over. -/
def flowPair : (fuel : Nat) → Compose (Composed × Composed)
  | 0 => fail
  | fuel + 1 => do
    let t ← peek
    let k ←
      if t = .value || t = .flowEntry || t = .flowSequenceEnd then do
        advance
        emptyNode
      else node fuel false false
    let v ←
      if ← accept .value then do
        let t ← peek
        if t = .flowEntry || t = .flowSequenceEnd then emptyNode else node fuel false false
      else emptyNode
    return (k, v)

/-- The pairs of a mapping in braces, up to its end. -/
def flowPairs : (fuel : Nat) → (first : Bool) → Compose (List (Composed × Composed))
  | 0, _ => fail
  | fuel + 1, first => do
    if ← accept .flowMappingEnd then return []
    else
      if !first then
        if !(← accept .flowEntry) then fail
      if ← accept .flowMappingEnd then return []
      else if ← accept .key then
        let t ← peek
        let k ←
          if t = .value || t = .flowEntry || t = .flowMappingEnd then emptyNode
          else node fuel false false
        let v ←
          if ← accept .value then do
            let t ← peek
            if t = .flowEntry || t = .flowMappingEnd then emptyNode else node fuel false false
          else emptyNode
        return (k, v) :: (← flowPairs fuel false)
      else
        let k ← node fuel false false
        let v ← emptyNode
        return (k, v) :: (← flowPairs fuel false)

end

/-! ## Documents -/

/-- Takes in the directives in front of a document. There may be one version, which must be known,
and one meaning for each handle. -/
def readDirectives : (version : Bool) → (own : List (List Char)) → List Token → Compose Unit
  | version, own, .directive d :: rest => do
    advance
    match d with
    | .version major minor =>
      if version || major ≠ 1 || (minor ≠ 1 && minor ≠ 2) then fail
      readDirectives true own rest
    | .tag handle start =>
      if own.contains handle then fail
      modify fun s => { s with handles := (handle, start) :: s.handles }
      readDirectives version (handle :: own) rest
  | _, _, _ => pure ()

/-- Whether a token stands outside of the content of documents. -/
def isOutside : Token → Bool
  | .directive _ => true
  | .documentStart => true
  | .documentEnd => true
  | .streamEnd => true
  | _ => false

/-- The content of the only document of a text. An empty text has an empty scalar. -/
def document (fuel : Nat) : Compose Composed := do
  match ← peek with
  | .streamEnd => emptyNode
  | .directive _ =>
    readDirectives false [] (← get).tokens
    if ← accept .documentStart then
      if isOutside (← peek) then emptyNode else node fuel true false
    else fail
  | .documentStart =>
    advance
    if isOutside (← peek) then emptyNode else node fuel true false
  | _ => node fuel true false

/-- Whether nothing but ends of documents is left. -/
def isFinished (tokens : List Token) : Bool :=
  tokens.dropWhile (· = .documentEnd) = [.streamEnd]

/-- The deepest nesting of a document. -/
def maxHeight : Nat := 128

/-- The number of aliases that may be followed for each part of a document. -/
def maxJumps : Nat := 100

/-- The tree of a text that holds one document. -/
def parse? (text : String) : Option Node := do
  let tokens ← Token.scan? text.toList
  let (root, s) ← (document (2 * tokens.length + 2)).run { tokens }
  if isFinished s.tokens && root.height ≤ maxHeight && root.jumps ≤ s.events * maxJumps then
    some root.node
  else none

end Node
end Yaml
end StaticBlog
