import StaticBlog.Html.Escape
import StaticBlog.Markdown.Event
import StaticBlog.Text.Digits

/-!
# Events as HTML

- `Writer` : what the events before say about how the next one is written
- `Writer.step` : writes an event
- `toHtml` : writes events
-/

namespace StaticBlog
namespace Markdown

/-! ## Text in HTML -/

/-- A character of a text between tags. -/
def bodyChar (c : Char) : List Char :=
  match c with
  | '&' => "&amp;".toList
  | '<' => "&lt;".toList
  | '>' => "&gt;".toList
  | c => [c]

/-- A character of an attribute. -/
def attributeChar (c : Char) : List Char :=
  match c with
  | '"' => "&quot;".toList
  | '\'' => "&#39;".toList
  | c => bodyChar c

/-- The characters that an address may hold as they are, letters and digits apart. -/
def addressMarks : List Char := "!#$%()*+,-./:;=?@^_~".toList

def upperHexDigit (n : Nat) : Char :=
  if n < 10 then Char.ofNat (0x30 + n) else Char.ofNat (0x41 + n - 10)

/-- A character of an address. -/
def addressChar (c : Char) : List Char :=
  if c.isAlphanum || addressMarks.contains c then [c]
  else if c = '&' then "&amp;".toList
  else if c = '\'' then "&#x27;".toList
  else (String.utf8EncodeChar c).flatMap fun b =>
    ['%', upperHexDigit (b.toNat / 16), upperHexDigit (b.toNat % 16)]

def bodyText (s : List Char) : List Char := s.flatMap bodyChar

def attributeText (s : List Char) : List Char := s.flatMap attributeChar

def addressText (s : List Char) : List Char := s.flatMap addressChar

/-! ## Writing -/

/-- What the events before say about how the next one is written. -/
structure Writer where
  /-- Whether a line ends here. -/
  atLineStart : Bool := true
  /-- The columns of the table, and the number of the next cell in its row. -/
  columns : List Alignment := []
  cell : Nat := 0
  inHead : Bool := false
  /-- The footnotes that have been met, in order. -/
  notes : List (List Char) := []
  /-- Inside an image, the title of the image and the number of parts that have begun in it. -/
  image : Option (List Char × Nat) := none

namespace Writer

/-- The number of a footnote, counted in the order in which they are met. -/
def number (w : Writer) (label : List Char) : Nat × Writer :=
  if w.notes.contains label then (w.notes.idxOf label + 1, w)
  else (w.notes.length + 1, { w with notes := w.notes ++ [label] })

/-- Notes whether what was written ends a line. -/
def wrote (w : Writer) (s : List Char) : Writer :=
  match s.getLast? with
  | some c => { w with atLineStart := c = '\n' }
  | none => w

/-- Writes a text. -/
def put (w : Writer) (s : List Char) : List Char × Writer := (s, w.wrote s)

/-- Writes characters of the document, in the form that they have in HTML. -/
def putChars (w : Writer) (form : List Char → List Char) (s : List Char) : List Char × Writer :=
  (form s, { w with atLineStart := s.getLast? = some '\n' })

/-- Writes a text at the start of a line. -/
def putFresh (w : Writer) (s : List Char) : List Char × Writer :=
  w.put (if w.atLineStart then s else '\n' :: s)

def elementName : Style → List Char
  | .emphasis => "em".toList
  | .strong => "strong".toList
  | .struck => "del".toList

def alignmentText : Alignment → List Char
  | .none => []
  | .left => " style=\"text-align: left\"".toList
  | .center => " style=\"text-align: center\"".toList
  | .right => " style=\"text-align: right\"".toList

def cellName (w : Writer) : List Char := if w.inHead then ['t', 'h'] else ['t', 'd']

def titleText (title : List Char) : List Char :=
  if title.isEmpty then [] else "\" title=\"".toList ++ attributeText title

/-- Writes the beginning of a part. -/
def enter (w : Writer) : Tag → List Char × Writer
  | .paragraph => w.putFresh "<p>".toList
  | .heading level anchor =>
    let anchorText := match anchor with
      | some a => " id=\"".toList ++ attributeText a.toList ++ ['"']
      | none => []
    w.putFresh ("<h".toList ++ Text.digits level ++ anchorText ++ ['>'])
  | .quote alert =>
    let kind := match alert with
      | some a => " class=\"markdown-alert-".toList ++ a.name.toList ++ ['"']
      | none => []
    w.putFresh ("<blockquote".toList ++ kind ++ ['>', '\n'])
  | .code _ => w.putFresh "<pre><code>".toList
  | .html => ([], w)
  | .list none => w.putFresh "<ul>\n".toList
  | .list (some 1) => w.putFresh "<ol>\n".toList
  | .list (some n) => w.putFresh ("<ol start=\"".toList ++ Text.digits n ++ "\">\n".toList)
  | .item => w.putFresh "<li>".toList
  | .footnote label =>
    let (n, w) := w.number label
    w.putFresh ("<div class=\"footnote-definition\" id=\"".toList ++ attributeText label ++
      "\"><sup class=\"footnote-definition-label\">".toList ++ Text.digits n ++ "</sup>".toList)
  | .table columns => { w with columns }.put "<table>".toList
  | .tableHead => { w with inHead := true, cell := 0 }.put "<thead><tr>".toList
  | .tableRow => { w with cell := 0 }.put "<tr>".toList
  | .tableCell =>
    let alignment := (w.columns[w.cell]?).getD .none
    w.put ('<' :: w.cellName ++ alignmentText alignment ++ ['>'])
  | .styled style => w.put ('<' :: elementName style ++ ['>'])
  | .link mail destination title =>
    w.put ("<a href=\"".toList ++ (if mail then "mailto:".toList else []) ++
      addressText destination ++ titleText title ++ "\">".toList)
  | .image destination title =>
    { w with image := some (title, 0) }.put
      ("<img src=\"".toList ++ addressText destination ++ "\" alt=\"".toList)

/-- Writes the end of a part. -/
def leave (w : Writer) : Tag → List Char × Writer
  | .paragraph => w.put "</p>\n".toList
  | .heading level _ => w.put ("</h".toList ++ Text.digits level ++ ['>', '\n'])
  | .quote _ => w.put "</blockquote>\n".toList
  | .code _ => w.put "</code></pre>\n".toList
  | .html => ([], w)
  | .list none => w.put "</ul>\n".toList
  | .list (some _) => w.put "</ol>\n".toList
  | .item => w.put "</li>\n".toList
  | .footnote _ => w.put "</div>\n".toList
  | .table _ => w.put "</tbody></table>\n".toList
  | .tableHead => { w with inHead := false }.put "</tr></thead><tbody>\n".toList
  | .tableRow => w.put "</tr>\n".toList
  | .tableCell =>
    { w with cell := w.cell + 1 }.put ('<' :: '/' :: w.cellName ++ ['>'])
  | .styled style => w.put ('<' :: '/' :: elementName style ++ ['>'])
  | .link _ _ _ => w.put "</a>".toList
  | .image _ _ => ([], w)

/-- Writes an event outside of images. -/
def event (w : Writer) : Event → List Char × Writer
  | .enter tag => w.enter tag
  | .leave tag => w.leave tag
  | .text s => w.putChars bodyText s
  | .code s => w.put ("<code>".toList ++ bodyText s ++ "</code>".toList)
  | .html s => w.put s
  | .inlineHtml s => w.put s
  | .softBreak => w.put ['\n']
  | .hardBreak => w.put "<br />\n".toList
  | .rule => w.putFresh "<hr />\n".toList
  | .note label =>
    let (n, w) := w.number label
    w.put ("<sup class=\"footnote-reference\"><a href=\"#".toList ++ attributeText label ++
      "\">".toList ++ Text.digits n ++ "</a></sup>".toList)
  | .task true => w.put "<input disabled=\"\" type=\"checkbox\" checked=\"\"/>\n".toList
  | .task false => w.put "<input disabled=\"\" type=\"checkbox\"/>\n".toList

/-- Writes an event inside an image, where only text counts. -/
def alternative (w : Writer) (title : List Char) (depth : Nat) : Event → List Char × Writer
  | .enter _ => ([], { w with image := some (title, depth + 1) })
  | .leave _ =>
    match depth with
    | 0 => { w with image := none }.put (titleText title ++ "\" />".toList)
    | depth + 1 => ([], { w with image := some (title, depth) })
  | .text s => w.putChars attributeText s
  | .code s => w.putChars attributeText s
  | .html _ => ([], w)
  | .inlineHtml s => w.putChars attributeText s
  | .softBreak | .hardBreak => w.put [' ']
  | .rule => w.put [' ']
  | .note label =>
    let (n, w) := w.number label
    ('[' :: Text.digits n ++ [']'], w)
  | .task true => w.put "[x]".toList
  | .task false => w.put "[ ]".toList

/-- Writes an event. -/
def step (w : Writer) (e : Event) : List Char × Writer :=
  match w.image with
  | some (title, depth) => w.alternative title depth e
  | none => w.event e

/-- Writes events. -/
def write (w : Writer) : List Event → List Char
  | [] => []
  | e :: es => (w.step e).1 ++ write (w.step e).2 es

end Writer

/-- Events as HTML. -/
def toHtml (events : List Event) : List Char := Writer.write {} events

end Markdown
end StaticBlog
