import StaticBlog.Text.Blank

/-!
# Places in a text

- `Place` : a place in a text, with what follows it
- `Span` : what stands between two places
- `Place.line`, `Place.nextLine` : the line around a place
- `Cursor` : a place in the blanks at the start of a line
- `Cursor.skip` : passes some columns of blanks
-/

namespace StaticBlog
namespace Markdown

/-! ## Blanks and line breaks -/

/-- A blank that does not end a line. -/
def isSpace (c : Char) : Bool := c = ' ' || c = '\t' || c = '\x0b' || c = '\x0c'

/-- Whether a character ends a line, alone or with another one. -/
def isBreak (c : Char) : Bool := c = '\n' || c = '\r'

/-- Drops blanks within a line. -/
def skipSpaces (s : List Char) : List Char := s.dropWhile isSpace

/-- The number of characters that end a line here. The end of the text ends a line too. -/
def breakLength? : List Char → Option Nat
  | [] => some 0
  | '\r' :: '\n' :: _ => some 2
  | c :: _ => if isBreak c then some 1 else none

/-- Whether a line is blank. -/
def isBlankLine (s : List Char) : Bool := s.all isSpace

/-- A text up to the end of its first line. -/
def lineOf (s : List Char) : List Char := s.takeWhile fun c => !isBreak c

/-- The first line of a text with the line feed that ends it. A carriage return alone does not. -/
def recordOf (s : List Char) : List Char :=
  let line := s.takeWhile (· ≠ '\n')
  line ++ (s.drop line.length).take 1

/-! ## Places -/

/-- A place in a text. -/
structure Place where
  /-- The number of characters before it. -/
  offset : Nat
  /-- The characters after it. -/
  rest : List Char
  deriving DecidableEq, Repr

namespace Place

/-- The start of a text. -/
def start (text : List Char) : Place := ⟨0, text⟩

/-- Passes characters. -/
def advance (p : Place) (n : Nat) : Place := ⟨p.offset + n, p.rest.drop n⟩

/-- Passes the characters of a class. -/
def skipWhile (p : Place) (q : Char → Bool) : Place := p.advance (p.rest.takeWhile q).length

/-- The characters up to an offset. -/
def upTo (p : Place) (stop : Nat) : List Char := p.rest.take (stop - p.offset)

/-- The same place in a text that ends at an offset. -/
def before (p : Place) (stop : Nat) : Place := ⟨p.offset, p.upTo stop⟩

/-- The place where what follows is the given end of the text. -/
def upon (p : Place) (rest : List Char) : Place := ⟨p.offset + (p.rest.length - rest.length), rest⟩

/-- The rest of the line. -/
def line (p : Place) : List Char := lineOf p.rest

/-- The place after the next line feed. -/
def nextLine (p : Place) : Place := p.advance (recordOf p.rest).length

/-- The place after the line break here, if there is one. -/
def afterBreak? (p : Place) : Option Place := (breakLength? p.rest).map p.advance

/-- The place after the line break, if only blanks come before it. -/
def afterBlank? (p : Place) : Option Place := (p.skipWhile isSpace).afterBreak?

end Place

/-- What stands between two places of a text. -/
structure Span where
  place : Place
  /-- The offset where it ends. -/
  stop : Nat
  deriving DecidableEq, Repr

namespace Span

def text (s : Span) : List Char := s.place.upTo s.stop

/-- The place where a span ends. -/
def after (s : Span) : Place := s.place.advance (s.stop - s.place.offset)

end Span

/-! ## Columns

A tab reaches to the next column that is a multiple of four, and it may be passed in part. Columns
are counted from the start of the line, and anew after each tab. -/

/-- A place in the blanks at the start of a line. -/
structure Cursor where
  place : Place
  /-- The offset from which the next tab is counted. -/
  tabStart : Nat := place.offset
  /-- The columns of a tab that are still to be passed. -/
  owed : Nat := 0
  deriving DecidableEq, Repr

namespace Cursor

/-- Passes up to `n` columns of blanks. The number tells how many it were. -/
def skip (c : Cursor) : (n : Nat) → Nat × Cursor
  | 0 => (0, c)
  | n + 1 =>
    match c.owed, c.place.rest with
    | owed + 1, _ => count (skip { c with owed } n)
    | 0, ' ' :: s => count (skip { c with place := ⟨c.place.offset + 1, s⟩ } n)
    | 0, '\t' :: s =>
      let width := 4 - (c.place.offset - c.tabStart) % 4
      let after := c.place.offset + 1
      count (skip ⟨⟨after, s⟩, after, width - 1⟩ n)
    | 0, _ => (0, c)
where
  count (r : Nat × Cursor) : Nat × Cursor := (r.1 + 1, r.2)

/-- Passes all blanks. -/
def skipAll (c : Cursor) : Cursor :=
  { c with place := c.place.skipWhile fun d => d = ' ' || d = '\t', owed := 0 }

/-- Passes characters that are no blanks. -/
def advance (c : Cursor) (n : Nat) : Cursor := { c with place := c.place.advance n }

/-- The rest of the line. -/
def line (c : Cursor) : List Char := c.place.line

def isAtEnd (c : Cursor) : Bool := (breakLength? c.place.rest).isSome

end Cursor
end Markdown
end StaticBlog
