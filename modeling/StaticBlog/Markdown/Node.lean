import StaticBlog.Markdown.Place
import StaticBlog.Markdown.LineStart

/-!
# The tree of a document

- `Part` : what holds other nodes
- `Token` : a stretch of text, or a mark whose meaning may still be open
- `Node` : a part of a document with the place where it stands
- `goOn` : the rest of a line that goes on with parts that are open
-/

namespace StaticBlog
namespace Markdown

/-! ## Tokens -/

/-- Whether a run of marks may open or close emphasis. -/
structure Flanks where
  opens : Bool
  closes : Bool
  deriving DecidableEq, Repr

/-- How a line ends inside a paragraph. -/
inductive Break
  | soft
  /-- With blanks that make the break count. -/
  | spaced
  /-- With a backslash that makes the break count. -/
  | escaped
  deriving DecidableEq, Repr

/-- What a stretch of text is. -/
inductive Token
  /-- Characters as they stand in the text. -/
  | text
  /-- Characters that are written in another way. -/
  | literal (s : List Char)
  | code (s : List Char)
  /-- A tag or the like amid running text. -/
  | html (s : List Char)
  /-- A reference to a footnote. -/
  | note (label : List Char)
  /-- The end of a line inside a paragraph. -/
  | lineBreak (manner : Break)
  /-- The check mark of a task. -/
  | task (checked : Bool)
  | rule
  /-- A line in a block of HTML. -/
  | markup
  /-- Marks that may be those of emphasis. -/
  | marks (mark : Char) (count : Nat) (flanks : Flanks)
  /-- Backticks that may begin or end code. A backslash may stand before the first one. -/
  | ticks (count : Nat) (escaped : Bool)
  /-- An angle bracket that may begin a tag. -/
  | angle
  /-- The bracket that may begin a link or an image; inside a link it may no more. -/
  | bracket (image active : Bool)
  /-- The bracket that may end a link. It is fresh unless it has ended the label of another one. -/
  | closing (fresh : Bool)
  deriving DecidableEq, Repr

/-- Whether the meaning of a token depends on the text around it. -/
def Token.isOpen : Token → Bool
  | .marks _ _ _ | .ticks _ _ | .angle | .bracket _ _ | .closing _ => true
  | _ => false

/-! ## Parts -/

/-- What marks around a text do to it. -/
inductive Style
  | emphasis
  | strong
  | struck
  deriving DecidableEq, Repr

/-- What holds other nodes. -/
inductive Part
  | paragraph
  | heading (level : Nat)
  /-- Code; the text behind its fence, if it has one, tells the language. -/
  | code (info : Option (List Char))
  | html
  | quote (alert : Option Alert)
  /-- A list, with its first number if it has numbers. The paragraphs in a tight one are bare. -/
  | list (mark : Char) (start : Option Nat) (tight : Bool)
  /-- An item of a list, with the columns by which its further lines are indented. -/
  | item (indent : Nat)
  | footnote (label : List Char)
  | table (columns : List Alignment)
  | tableHead
  | tableRow
  | tableCell
  | styled (style : Style)
  | link (mail : Bool) (destination title : List Char)
  | image (destination title : List Char)
  deriving DecidableEq, Repr

namespace Part

def isTable : Part → Bool
  | .table _ => true
  | _ => false

/-- The rest of a line that goes on with a part. -/
def next? (part : Part) (c : Cursor) : Option Cursor :=
  let indented (n : Nat) : Option Cursor :=
    let (passed, d) := c.skip n
    if passed = n || d.isAtEnd then some d else none
  match part with
  | .quote _ =>
    let (_, d) := c.skip 3
    match d.place.rest with
    | '>' :: _ => some ((d.advance 1).skip 1).2
    | _ => none
  | .item indent => indented indent
  | .footnote _ => indented 4
  | _ => some c

end Part

/-- How many parts a line goes on with, the outermost being the first of the list, and the rest of
the line. -/
def goOn : List Part → Cursor → Nat × Cursor
  | [], c => (0, c)
  | p :: ps, c =>
    match p.next? c with
    | some d => ((goOn ps d).1 + 1, (goOn ps d).2)
    | none => (0, c)

/-! ## Nodes -/

/-- A part of a document with the place where it stands. -/
inductive Node
  | leaf (span : Span) (token : Token)
  | part (span : Span) (kind : Part) (body : List Node)

namespace Node

def span : Node → Span
  | .leaf span _ => span
  | .part span _ _ => span

def offset (n : Node) : Nat := n.span.place.offset

def stop (n : Node) : Nat := n.span.stop

def withSpan (n : Node) (span : Span) : Node :=
  match n with
  | .leaf _ token => .leaf span token
  | .part _ kind body => .part span kind body

/-- A node that begins no earlier than at an offset. -/
def startingAt (n : Node) (offset : Nat) : Node :=
  n.withSpan ⟨n.span.place.advance (offset - n.offset), n.stop⟩

/-- A node that ends at an offset. -/
def endingAt (n : Node) (offset : Nat) : Node := n.withSpan ⟨n.span.place, offset⟩

/-- Whether the meaning of a node depends on those around it. -/
def isOpen : Node → Bool
  | .leaf _ token => token.isOpen
  | .part _ _ _ => false

/-- The text up to an offset, unless there is none. -/
def textTo (p : Place) (stop : Nat) : List Node :=
  if p.offset < stop then [.leaf ⟨p, stop⟩ .text] else []

end Node

/-- What remains of nodes behind an offset. -/
def nodesBehind (offset : Nat) (ns : List Node) : List Node :=
  match ns.dropWhile fun n => n.stop ≤ offset with
  | n :: ns => n.startingAt offset :: ns
  | [] => []

end Markdown
end StaticBlog
