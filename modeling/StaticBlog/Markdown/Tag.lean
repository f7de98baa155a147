import StaticBlog.Markdown.Place
import StaticBlog.Text.Search

/-!
# HTML in Markdown

- `readElementTag?` : an opening or closing tag
- `readInlineHtml?` : a tag, a comment, an instruction or a declaration
- `blockEnd?` : the text that ends a block of HTML
- `startsElement` : whether a block of HTML starts here that ends at a blank line
-/

namespace StaticBlog
namespace Markdown

/-- What has been read of a text, and what follows it. -/
abbrev Reading := List Char × List Char

/-- Puts characters before those that have been read. -/
def Reading.prepend (s : List Char) (r : Reading) : Reading := (s ++ r.1, r.2)

/-! ## Tags -/

/-- How a tag goes on after a line break: what of the next line belongs to it. A tag that starts a
block stands in one line and has nothing. -/
abbrev Continuation := Option (List Char → List Char)

def isAsciiLetter (c : Char) : Bool := c.isAlpha

def isNameStart (c : Char) : Bool := isAsciiLetter c || c = '_' || c = ':'

def isNamePart (c : Char) : Bool := c.isAlphanum || c = '_' || c = '.' || c = ':' || c = '-'

/-- Whether a character may stand in a value without quotes. -/
def isBareValue (c : Char) : Bool :=
  !(isBreak c || [' ', '\'', '"', '<', '=', '>', '\x60'].contains c)

/-- Reads blanks and line breaks. `fuel` bounds the number of lines. -/
def readBlanks? (k : Continuation) : (fuel : Nat) → List Char → Option Reading
  | 0, s => some ([], s)
  | fuel + 1, s =>
    let blanks := s.takeWhile isSpace
    let rest := s.drop blanks.length
    match breakLength? rest with
    | some (n + 1) => do
      let next ← k
      let r ← readBlanks? k fuel (next (rest.drop (n + 1)))
      some (r.prepend (blanks ++ rest.take (n + 1)))
    | _ => some (blanks, rest)

/-- Reads the rest of a value in quotes, the quote that ends it included. `fuel` bounds its length.
-/
def readQuoted? (k : Continuation) (quote : Char) : (fuel : Nat) → List Char → Option Reading
  | 0, _ => none
  | _, [] => none
  | fuel + 1, c :: s =>
    if c = quote then some ([c], s)
    else match breakLength? (c :: s) with
      | some n => do
        let next ← k
        let r ← readQuoted? k quote fuel (next ((c :: s).drop n))
        some (r.prepend ((c :: s).take n))
      | none => (readQuoted? k quote fuel s).map (Reading.prepend [c])

/-- Reads the value of an attribute. -/
def readAttributeValue? (k : Continuation) : List Char → Option Reading
  | [] => none
  | c :: s =>
    if c = '"' || c = '\'' then
      (readQuoted? k c (s.length + 1) s).map (Reading.prepend [c])
    else if isBareValue c then
      let value := (c :: s).takeWhile isBareValue
      some (value, (c :: s).drop value.length)
    else none

/-- Reads an attribute, with a value or without. -/
def readAttribute? (k : Continuation) (s : List Char) : Option Reading :=
  if s.head?.any isNameStart then do
    let name := s.takeWhile isNamePart
    let rest := s.drop name.length
    let (gap, next) ← readBlanks? k (rest.length + 1) rest
    match next with
    | '=' :: value =>
      let (gap', value) ← readBlanks? k (value.length + 1) value
      let r ← readAttributeValue? k value
      some (r.prepend (name ++ gap ++ '=' :: gap'))
    | _ => some (name, rest)
  else none

/-- Reads the attributes of an opening tag and its end. `fuel` bounds their number. -/
def readAttributes? (k : Continuation) : (fuel : Nat) → List Char → Option Reading
  | 0, _ => none
  | fuel + 1, s => do
    let (gap, next) ← readBlanks? k (s.length + 1) s
    match next with
    | '>' :: rest => some (gap ++ ['>'], rest)
    | '/' :: '>' :: rest => some (gap ++ ['/', '>'], rest)
    | _ =>
      if gap.isEmpty then none
      else
        let (pair, rest) ← readAttribute? k next
        let r ← readAttributes? k fuel rest
        some (r.prepend (gap ++ pair))

/-- Reads a tag of an element after its angle bracket. -/
def readElementTag? (k : Continuation) (s : List Char) : Option Reading :=
  let slash := (s.take 1).takeWhile (· = '/')
  let t := s.drop slash.length
  if t.head?.any isAsciiLetter then do
    let name := t.takeWhile fun c => c.isAlphanum || c = '-'
    let rest := t.drop name.length
    if slash.isEmpty then
      let r ← readAttributes? k (rest.length + 1) rest
      some (r.prepend name)
    else
      match skipSpaces rest with
      | '>' :: after => some (s.take (s.length - after.length), after)
      | _ => none
  else none

/-- What follows the first occurrence of a text. -/
def after? (mark s : List Char) : Option (List Char) := (Text.breakOn? mark s).map (·.2)

/-- What follows a comment, an instruction or a declaration, given what follows its angle bracket. A
section of literal characters ends at its first closing brackets. -/
def afterDeclaration? : List Char → Option (List Char)
  | '!' :: '-' :: '-' :: s =>
    match s with
    | '>' :: rest => some rest
    | '-' :: '>' :: rest => some rest
    | s => after? ['-', '-', '>'] s
  | '!' :: '[' :: s => do
    let s ← Text.stripPrefix? "CDATA[".toList s
    let closing := s.dropWhile (· ≠ ']')
    match closing.dropWhile (· = ']') with
    | '>' :: rest => if closing.isEmpty then none else some rest
    | _ => none
  | '!' :: c :: s => if isAsciiLetter c then after? ['>'] s else none
  | '?' :: s => after? ['?', '>'] s
  | _ => none

/-- Reads a tag, a comment, an instruction or a declaration after its angle bracket. Where a tag
goes on in another line, what stands before the text of that line is left out. -/
def readInlineHtml? (next : List Char → List Char) (s : List Char) : Option Reading :=
  if s.head? = some '!' || s.head? = some '?' then
    (afterDeclaration? s).map fun rest => (s.take (s.length - rest.length), rest)
  else readElementTag? (some next) s

/-! ## Blocks -/

/-- The elements whose text ends only at their closing tag. -/
def rawElements : List (List Char × List Char) :=
  [("pre".toList, "</pre>".toList), ("style".toList, "</style>".toList),
    ("script".toList, "</script>".toList), ("textarea".toList, "</textarea>".toList)]

/-- What follows a name in letters of either case. -/
def stripName? (name s : List Char) : Option (List Char) :=
  if (s.take name.length).map Char.toLower = name then some (s.drop name.length) else none

/-- The text that ends a block of HTML which may hold blank lines, given what follows the angle
bracket that starts it. -/
def blockEnd? (s : List Char) : Option (List Char) :=
  let raw := rawElements.find? fun (name, _) =>
    match stripName? name s with
    | some [] => true
    | some (c :: _) => isSpace c || c = '>'
    | none => false
  match raw with
  | some (_, ending) => some ending
  | none =>
    match s with
    | '!' :: '-' :: '-' :: _ => some ['-', '-', '>']
    | '?' :: _ => some ['?', '>']
    | '!' :: c :: rest =>
      if Text.stripPrefix? "[CDATA[".toList (c :: rest) |>.isSome then some [']', ']', '>']
      else if isAsciiLetter c then some ['>']
      else none
    | _ => none

/-- The elements that start a block. -/
def blockElements : List String :=
  ["address", "article", "aside", "base", "basefont", "blockquote", "body", "caption", "center",
    "col", "colgroup", "dd", "details", "dialog", "dir", "div", "dl", "dt", "fieldset",
    "figcaption", "figure", "footer", "form", "frame", "frameset", "h1", "h2", "h3", "h4", "h5",
    "h6", "head", "header", "hr", "html", "iframe", "legend", "li", "link", "main", "menu",
    "menuitem", "nav", "noframes", "ol", "optgroup", "option", "p", "param", "search", "section",
    "summary", "table", "tbody", "td", "tfoot", "th", "thead", "title", "tr", "track", "ul"]

/-- Whether the tag of a block element follows an angle bracket. -/
def startsBlockElement (s : List Char) : Bool :=
  let s := match s with
    | '/' :: rest => rest
    | s => s
  let name := s.takeWhile Char.isAlphanum
  blockElements.contains (String.ofList (name.map Char.toLower)) &&
    match s.drop name.length with
    | [] => true
    | '/' :: c :: _ => c = '>'
    | c :: _ => c = ' ' || c = '\t' || c = '>'

/-- Whether a block of HTML that ends at a blank line starts after an angle bracket. A paragraph is
not interrupted by any tag, but by that of a block element. -/
def startsElement (s : List Char) : Bool :=
  startsBlockElement s || (readElementTag? none s).any fun r => isBlankLine r.2

end Markdown
end StaticBlog
