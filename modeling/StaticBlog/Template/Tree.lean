import StaticBlog.Template.Token

/-!
# Template trees

- `Blocks` : which block tags belong together
- `Blocks.ofTokens` : pairs each end tag with the innermost open block of its kind
- `Node` : a part of a template, with the blocks nested
- `Node.ofTokens` : the parts of a token list
-/

namespace StaticBlog

/-! ## Pairing -/

/-- The paired tags, as positions of an opener and its end tag. -/
abbrev Blocks := List (Nat × Nat)

namespace Blocks

/-- An open block: the position and the tag of its opener. -/
abbrev Opened := Nat × BlockTag

/-- Finds the innermost open block that an end tag closes, and the blocks around it. The blocks
inside it are left out: they can no longer be closed. -/
def close? (tag : BlockTag) : List Opened → Option (Nat × List Opened)
  | [] => none
  | (i, opener) :: outer => if tag.closes opener then some (i, outer) else close? tag outer

/-- Pairs the block tags of a token list that starts at a position, given the blocks that are open
there, the innermost first. -/
def pair : (position : Nat) → (opened : List Opened) → List Token → Blocks
  | _, _, [] => []
  | i, opened, .block tag _ :: rest =>
    if tag.isOpener then pair (i + 1) ((i, tag) :: opened) rest
    else match close? tag opened with
      | some (opener, outer) => (opener, i) :: pair (i + 1) outer rest
      | none => pair (i + 1) opened rest
  | i, opened, _ :: rest => pair (i + 1) opened rest

/-- The pairs of a token list. -/
def ofTokens (tokens : List Token) : Blocks := pair 0 [] tokens

/-- The other tag of the pair that a position belongs to. -/
def partner? (blocks : Blocks) (i : Nat) : Option Nat :=
  blocks.findSome? fun (opener, close) =>
    if opener = i then some close else if close = i then some opener else none

end Blocks

/-! ## Trees -/

/-- A part of a template, with the characters that its tags were read from. -/
inductive Node
  | text (chars : List Char)
  | print (path : List String) (source : List Char)
  | loop (item : String) (list : List String) (opener : List Char) (body : List Node)
    (close : List Char)
  | test (path : List String) (opener : List Char) (body : List Node) (close : List Char)
  deriving Repr, Inhabited

namespace Node

/-- A block whose end tag has not been reached: its opener, and the parts before it, the last one
first. -/
structure Frame where
  tag : BlockTag
  opener : List Char
  before : List Node
  deriving Inhabited

/-- The block that an end tag completes. -/
def Frame.complete (f : Frame) (body : List Node) (close : List Char) : Node :=
  match f.tag with
  | .loop item list => .loop item list f.opener body close
  | .test path => .test path f.opener body close
  | _ => .text f.opener

/-- Builds the parts of a token list that starts at a position. `frames` are the blocks around it,
the innermost first, and `before` the parts before it in the innermost one, the last one first. A
block tag without partner is text. -/
def build (blocks : Blocks) :
    (position : Nat) → (frames : List Frame) → (before : List Node) → List Token → List Node
  | _, _, before, [] => before.reverse
  | i, frames, before, .literal c :: rest =>
    build blocks (i + 1) frames (.text [c] :: before) rest
  | i, frames, before, .print path source :: rest =>
    build blocks (i + 1) frames (.print path source :: before) rest
  | i, frames, before, .block tag source :: rest =>
    match blocks.partner? i, frames with
    | some j, frames =>
      if i < j then build blocks (i + 1) (⟨tag, source, before⟩ :: frames) [] rest
      else match frames with
        | f :: frames =>
          build blocks (i + 1) frames (f.complete before.reverse source :: f.before) rest
        | [] => build blocks (i + 1) [] (.text source :: before) rest
    | none, frames => build blocks (i + 1) frames (.text source :: before) rest

/-- The parts of a token list. -/
def ofTokens (tokens : List Token) : List Node := build (Blocks.ofTokens tokens) 0 [] [] tokens

/-- The parts of a template. -/
def parse (source : String) : List Node := ofTokens (Token.scan source.toList)

/-! ## Source text -/

mutual

/-- The characters that a part was read from. -/
def source : Node → List Char
  | .text s => s
  | .print _ s => s
  | .loop _ _ opener body close => opener ++ sources body ++ close
  | .test _ opener body close => opener ++ sources body ++ close

def sources : List Node → List Char
  | [] => []
  | n :: ns => source n ++ sources ns

end

end Node
end StaticBlog
