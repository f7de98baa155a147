/-!
# Places in a YAML text

- `Cursor` : the rest of a text with its line and column
- `isBreak`, `isBlank` : the characters that end a line, and those that separate within one
- `Gap` : blanks and line breaks in a row, and what they amount to in a folded scalar
-/

namespace StaticBlog
namespace Yaml

/-- A place in a text. -/
structure Cursor where
  rest : List Char
  index : Nat := 0
  line : Nat := 0
  column : Nat := 0
  deriving DecidableEq, Repr, Inhabited

/-! ## Characters -/

/-- The characters that end a line. -/
def isBreak (c : Char) : Bool :=
  c = '\n' || c = '\r' || c = '\u0085' || c = '\u2028' || c = '\u2029'

def isBlank (c : Char) : Bool := c = ' ' || c = '\t'

/-- Whether a blank, a line break or the end of the text comes next. -/
def endsWord : List Char → Bool
  | [] => true
  | c :: _ => isBlank c || isBreak c

/-- Whether a line break or the end of the text comes next. -/
def endsLine : List Char → Bool
  | [] => true
  | c :: _ => isBreak c

/-- The characters of names of anchors, tag handles and directives. -/
def isWordChar (c : Char) : Bool := c.isAlphanum || c = '_' || c = '-'

/-- Whether a text may hold a character at all. -/
def isAllowed (c : Char) : Bool :=
  let n := c.toNat
  n = 9 || n = 10 || n = 13 || (32 ≤ n && n ≤ 126) || n = 0x85 || (0xA0 ≤ n && n ≤ 0xFFFD)
    || 0x10000 ≤ n

/-- Whether a line consists of three of a mark, as far as its first word goes. -/
def isMarkerLine (mark : Char) : List Char → Bool
  | a :: b :: c :: rest => a = mark && b = mark && c = mark && endsWord rest
  | _ => false

/-- Whether a document starts or ends here. -/
def isDocumentMarker (s : List Char) : Bool := isMarkerLine '-' s || isMarkerLine '.' s

namespace Cursor

/-! ## Moving on -/

/-- Passes so many characters within a line. -/
def skip (cur : Cursor) (n : Nat) : Cursor :=
  { cur with rest := cur.rest.drop n, index := cur.index + n, column := cur.column + n }

/-- Passes a line break. A carriage return and a line feed make one break. -/
def skipBreak (cur : Cursor) : Cursor :=
  match cur.rest with
  | '\r' :: '\n' :: s => { rest := s, index := cur.index + 2, line := cur.line + 1, column := 0 }
  | _ :: s => { rest := s, index := cur.index + 1, line := cur.line + 1, column := 0 }
  | [] => cur

/-- What a line break is in the content of a scalar: separators of lines and paragraphs are kept,
and the other breaks are line feeds. -/
def breakText (cur : Cursor) : List Char :=
  match cur.rest with
  | c :: _ => if c = '\u2028' || c = '\u2029' then [c] else if isBreak c then ['\n'] else []
  | [] => []

/-- Passes the characters of a class, within a line. -/
def skipWhile (p : Char → Bool) (cur : Cursor) : Cursor :=
  cur.skip (cur.rest.takeWhile p).length

/-- The characters of a class that come next. -/
def span (p : Char → Bool) (cur : Cursor) : List Char × Cursor :=
  let s := cur.rest.takeWhile p
  (s, cur.skip s.length)

end Cursor

/-! ## Gaps -/

/-- Blanks before the first line break of a gap, and its line breaks. -/
structure Gap where
  blanks : List Char := []
  breaks : List (List Char) := []
  deriving DecidableEq, Repr, Inhabited

namespace Gap

/-- Whether a gap goes over the end of a line. -/
def isMultiline (g : Gap) : Bool := !g.breaks.isEmpty

/-- The text of a gap in a folded scalar: its blanks within a line, a space for one line break, and
all but the first for more of them. A separator of lines or paragraphs is always kept. -/
def folded (g : Gap) : List Char :=
  match g.breaks with
  | [] => g.blanks
  | b :: rest => if b = ['\n'] then (if rest.isEmpty then [' '] else rest.flatten) else b ++ rest.flatten

/-- Reads a gap. `minColumn` is the column before which no tab may stand on a new line, `newLine`
says whether a line break has been passed, and `fuel` bounds the characters. -/
def read (minColumn : Nat) : (fuel : Nat) → (newLine : Bool) → Cursor → Option (Gap × Cursor)
  | 0, _, cur => some ({}, cur)
  | fuel + 1, newLine, cur =>
    match cur.rest with
    | [] => some ({}, cur)
    | c :: _ =>
      if isBlank c then
        if newLine && cur.column < minColumn && c = '\t' then none
        else do
          let (g, cur) ← read minColumn fuel newLine (cur.skip 1)
          some (if newLine then g else { g with blanks := c :: g.blanks }, cur)
      else if isBreak c then do
        let (g, next) ← read minColumn fuel true cur.skipBreak
        some ({ blanks := [], breaks := cur.breakText :: g.breaks }, next)
      else some ({}, cur)

end Gap
end Yaml
end StaticBlog
