import StaticBlog.Markdown.Entity
import StaticBlog.Markdown.Node

/-!
# The tokens of a line

- `Flanks.of` : whether a run of marks may open or close emphasis
- `Line` : a line of running text, cut into tokens
- `readLine` : reads a line or a cell of a table
-/

namespace StaticBlog
namespace Markdown

/-! ## Marks of emphasis -/

/-- A character that is a blank or beyond the end of a text. -/
def isOutside (c : Option Char) : Bool := c.all Text.isBlank

def isPunctuated (c : Option Char) : Bool := c.any Text.isPunctuation

/-- Whether marks may open emphasis. Those at the start of a line may unless a blank follows, and
those at the end of a cell may not. Underscores and single tildes inside a word do not. -/
def mayOpen (inCell : Bool) (mark : Char) (length : Nat) (before after : Option Char) : Bool :=
  if isOutside after then false
  else if before = none then true
  else if inCell && after = some '|' then false
  else
    isOutside before || isPunctuated before || (mark = '*' && !isPunctuated after) ||
      (mark = '~' && 1 < length) || (mark = '~' && before = some '~' && !isPunctuated after)

/-- Whether marks may close emphasis. Those at the start of a line may not. -/
def mayClose (inCell : Bool) (mark : Char) (length : Nat) (before after : Option Char) : Bool :=
  if isOutside before then false
  else if after = none || (inCell && after = some '|') then true
  else
    isOutside after || isPunctuated after || (mark = '*' && !isPunctuated before) ||
      (mark = '~' && 1 < length && !isPunctuated before) || (mark = '~' && before = some '~')

/-- The flanks of a run of marks between two characters of a line. -/
def Flanks.of (inCell : Bool) (mark : Char) (length : Nat) (before after : Option Char) : Flanks :=
  ⟨mayOpen inCell mark length before after, mayClose inCell mark length before after⟩

/-! ## Lines -/

/-- A line of running text. -/
structure Line where
  nodes : List Node
  /-- What ends the line, unless the text ends there. -/
  ending : Option Node
  /-- The place after it. -/
  next : Place
  /-- The offsets of the pipes that may part columns. -/
  pipes : List Nat

/-- What has been read of a line. -/
structure LineScan where
  /-- The characters that have been passed, the last one first. -/
  past : List Char := []
  /-- The place where the text begins that belongs to no node yet. -/
  begun : Place
  /-- The last node is the first of the list. -/
  nodes : List Node := []
  pipes : List Nat := []

namespace LineScan

/-- Completes the text up to an offset. -/
def cut (l : LineScan) (stop : Nat) : LineScan :=
  { l with nodes := Node.textTo l.begun stop ++ l.nodes }

/-- Completes a node with a token and so many characters. -/
def push (l : LineScan) (p : Place) (n : Nat) (t : Token) : LineScan :=
  let l := l.cut p.offset
  { l with
    past := (p.rest.take n).reverse ++ l.past
    begun := p.advance n
    nodes := .leaf ⟨p, p.offset + n⟩ t :: l.nodes }

/-- Passes characters of a text. -/
def pass (l : LineScan) (p : Place) (n : Nat) : LineScan :=
  { l with past := (p.rest.take n).reverse ++ l.past }

/-- Passes a character that a backslash or two make one of the text. -/
def escape (l : LineScan) (p : Place) (slashes : Nat) : LineScan :=
  { (l.cut p.offset).pass p (slashes + 1) with begun := p.advance slashes }

/-- Completes the line; a backslash before a line break makes it one that counts, and so do blanks,
which do not belong to the text. -/
def finish (l : LineScan) (inCell : Bool) (p : Place) : Line :=
  let blanks := (l.past.takeWhile isSpace).length
  let slashes := (l.past.takeWhile (· = '\\')).length
  let trimmed := l.cut (p.offset - blanks)
  match p.rest, breakLength? p.rest with
  | _ :: _, some n =>
    let next := p.advance n
    if inCell then ⟨trimmed.nodes.reverse, none, p, l.pipes.reverse⟩
    else if slashes % 2 = 1 && !next.rest.isEmpty then
      let slash : Place := ⟨p.offset - 1, '\\' :: p.rest⟩
      let ending := Node.leaf ⟨slash, next.offset⟩ (.lineBreak .escaped)
      ⟨(l.cut slash.offset).nodes.reverse, some ending, next, l.pipes.reverse⟩
    else
      let manner : Break := if 2 ≤ blanks then .spaced else .soft
      let ending := Node.leaf ⟨p, next.offset⟩ (.lineBreak manner)
      ⟨trimmed.nodes.reverse, some ending, next, l.pipes.reverse⟩
  | _, _ => ⟨trimmed.nodes.reverse, none, p, l.pipes.reverse⟩

end LineScan

/-- Reads what is left of a line. `fuel` bounds its length. -/
def readLineFrom (inCell : Bool) : (fuel : Nat) → LineScan → Place → Line
  | 0, l, p => l.finish inCell p
  | fuel + 1, l, p =>
    let token (n : Nat) (t : Token) : Line :=
      readLineFrom inCell fuel (l.push p n t) (p.advance n)
    let plain (n : Nat) : Line := readLineFrom inCell fuel (l.pass p n) (p.advance n)
    let escaped (slashes : Nat) : Line :=
      readLineFrom inCell fuel (l.escape p slashes) (p.advance (slashes + 1))
    match p.rest with
    | [] => l.finish inCell p
    | c :: s =>
      match c with
      | '\\' =>
        match s with
        | '\x60' :: t =>
          let n := 1 + run '\x60' t
          let first := p.advance 1
          let l := { (l.cut p.offset).pass p 1 with begun := first }
          readLineFrom inCell fuel (l.push first n (.ticks n true)) (p.advance (n + 1))
        | '\\' :: '|' :: _ => if inCell then escaped 2 else escaped 1
        | d :: _ => if Text.isAsciiPunctuation d then escaped 1 else plain 1
        | [] => plain 1
      | '\x60' =>
        let n := 1 + run '\x60' s
        token n (.ticks n false)
      | '<' => if s.head? = some '\\' then plain 1 else token 1 .angle
      | '!' => if s.head? = some '[' then token 2 (.bracket true true) else plain 1
      | '[' => token 1 (.bracket false true)
      | ']' => token 1 (.closing true)
      | '&' =>
        let line := lineOf s
        match readEntity? line with
        | some (t, rest) => token (line.length + 1 - rest.length) (.literal t)
        | none => plain 1
      | '|' =>
        if inCell then l.finish inCell p
        else
          readLineFrom inCell fuel { l.pass p 1 with pipes := p.offset :: l.pipes } (p.advance 1)
      | _ =>
        if isBreak c then l.finish inCell p
        else if c = '*' || c = '_' || c = '~' then
          let n := 1 + run c s
          let flanks := Flanks.of inCell c n l.past.head? (s.drop (n - 1)).head?
          if (flanks.opens || flanks.closes) && (c ≠ '~' || n ≤ 2) then token n (.marks c n flanks)
          else plain n
        else plain 1

/-- Reads the rest of a line, or of a cell up to the pipe that ends it. -/
def readLine (inCell : Bool) (p : Place) : Line :=
  readLineFrom inCell (p.line.length + 1) { begun := p } p

end Markdown
end StaticBlog
