import StaticBlog.Markdown.Node

/-!
# Events

A document as the sequence of its parts, in which what holds other parts has a beginning and an end.

- `Tag` : what holds other parts
- `Event` : a beginning, an end, or a part without parts
- `Node.events` : the events of a part of a document
-/

namespace StaticBlog
namespace Markdown

/-- What holds other parts. -/
inductive Tag
  | paragraph
  /-- A heading, with an anchor if it has one. -/
  | heading (level : Nat) (anchor : Option String)
  | quote (alert : Option Alert)
  /-- Code; the text behind its fence, if it has one, tells the language. -/
  | code (info : Option (List Char))
  | html
  | list (start : Option Nat)
  | item
  | footnote (label : List Char)
  | table (columns : List Alignment)
  | tableHead
  | tableRow
  | tableCell
  | styled (style : Style)
  | link (mail : Bool) (destination title : List Char)
  | image (destination title : List Char)
  deriving DecidableEq, Repr

/-- A beginning, an end, or a part without parts. -/
inductive Event
  | enter (tag : Tag)
  | leave (tag : Tag)
  | text (s : List Char)
  | code (s : List Char)
  /-- A block of HTML or a part of it. -/
  | html (s : List Char)
  /-- A tag or the like amid running text. -/
  | inlineHtml (s : List Char)
  | softBreak
  | hardBreak
  | rule
  | note (label : List Char)
  | task (checked : Bool)
  deriving DecidableEq, Repr

/-- The events inside a part with its beginning and its end. -/
def within (tag : Tag) (inner : List Event) : List Event := .enter tag :: inner ++ [.leave tag]

/-- A part as it is told. -/
def Part.tag : Part → Tag
  | .paragraph => .paragraph
  | .heading level => .heading level none
  | .code info => .code info
  | .html => .html
  | .quote alert => .quote alert
  | .list _ start _ => .list start
  | .item _ => .item
  | .footnote label => .footnote label
  | .table columns => .table columns
  | .tableHead => .tableHead
  | .tableRow => .tableRow
  | .tableCell => .tableCell
  | .styled style => .styled style
  | .link mail destination title => .link mail destination title
  | .image destination title => .image destination title

/-- The event of a token. What is open is text. -/
def Token.event (span : Span) : Token → Event
  | .literal s => .text s
  | .code s => .code s
  | .html s => .inlineHtml s
  | .note label => .note label
  | .lineBreak .soft => .softBreak
  | .lineBreak _ => .hardBreak
  | .task checked => .task checked
  | .rule => .rule
  | .markup => .html span.text
  | _ => .text span.text

mutual

/-- The events of a part of a document. -/
def Node.events : Node → List Event
  | .leaf span token => [token.event span]
  | .part _ kind body => within kind.tag (Node.allEvents body)

def Node.allEvents : List Node → List Event
  | [] => []
  | n :: ns => Node.events n ++ Node.allEvents ns

end

end Markdown
end StaticBlog
