import StaticBlog.Markdown.Outline

/-!
# Code and HTML

Blocks whose lines are kept as they are. Their lines end at line feeds only.

- `Outline.readFenced`, `Outline.readIndented` : blocks of code
- `Outline.readHtml` : a block of HTML
-/

namespace StaticBlog
namespace Markdown

/-- A line that is kept, after some blanks. A carriage return before its last character is left
out. -/
def keptLine (blanks : Nat) (p next : Place) (token : Token) : List Node :=
  let lead : List Node :=
    if 0 < blanks then [.leaf ⟨p, p.offset⟩ (.literal (List.replicate blanks ' '))] else []
  let span (q : Place) (stop : Nat) : List Node :=
    if q.offset < stop then [.leaf ⟨q, stop⟩ token] else []
  let length := next.offset - p.offset
  match p.rest.drop (length - 2) with
  | '\r' :: c :: _ =>
    if 2 ≤ length && c.toNat < 128 then
      lead ++ span p (next.offset - 2) ++ span (p.advance (length - 1)) next.offset
    else lead ++ span p next.offset
  | _ => lead ++ span p next.offset

namespace Outline

/-! ## Code -/

/-- Reads the lines of fenced code. `fuel` bounds their number. -/
def fencedLines (o : Outline) (mark : Char) (length indent : Nat) :
    (fuel : Nat) → (lines : List (List Node)) → Place → List (List Node) × Nat × Place
  | 0, lines, p => (lines, p.offset, p)
  | fuel + 1, lines, p =>
    let (all, c) := o.within p
    if !all then (lines, p.offset, p)
    else
      let (_, c) := c.skip indent
      let (further, d) := c.skip (4 - indent)
      let q := d.place
      if further < 4 - indent && (q.rest.isEmpty || closesFence mark length d.line) then
        let ending := q.advance d.line.length
        (lines, ending.offset, ending.afterBreak?.getD ending)
      else
        let next := c.place.nextLine
        fencedLines o mark length indent fuel (keptLine c.owed c.place next .text :: lines) next

/-- Reads fenced code. -/
def readFenced (o : Outline) (p : Place) (indent : Nat) (mark : Char) (length : Nat) :
    Outline × Place :=
  let info := (p.advance length).skipWhile isSpace
  let next := info.nextLine
  let text := Text.dropBack (fun c => isSpace c || isBreak c) (info.upTo next.offset)
  let (lines, stop, after) := o.fencedLines mark length indent (o.size + 1) [] next
  (o.addPart p stop (.code (some (unescape false text))) lines.reverse.flatten, after)

/-- Reads the lines of indented code, and tells for each whether it is blank. `fuel` bounds their
number. -/
def indentedLines (o : Outline) : (fuel : Nat) → (blank : Bool) →
    (lines : List (Bool × List Node)) → (blanks : Nat) → Place → List (Bool × List Node) × Place
  | 0, _, lines, _, p => (lines, p)
  | fuel + 1, blank, lines, blanks, p =>
    let next := p.nextLine
    let lines := (blank, keptLine blanks p next .text) :: lines
    let (all, c) := o.within next
    let (indent, d) := c.skip 4
    if !all || (indent < 4 && !d.isAtEnd) || d.place.rest.isEmpty then (lines, next)
    else indentedLines o fuel (isBlankLine d.line) lines d.owed d.place

/-- Reads indented code. Blank lines at its end do not belong to it. -/
def readIndented (o : Outline) (c : Cursor) : Outline × Place :=
  let (lines, next) := o.indentedLines (o.size + 1) false [] c.owed c.place
  let kept := lines.dropWhile fun l => l.1
  let body := (kept.reverse.map fun l => l.2).flatten
  let stop := (body.getLast?.map Node.stop).getD next.offset
  let blankBefore := (lines.head?.map fun l => l.1).getD false
  ({ o with blankBefore }.addPart c.place stop (.code none) body, next)

/-! ## HTML -/

/-- Reads the lines of HTML up to one with the given ending, or up to a blank one. `fuel` bounds
their number. -/
def htmlLines (o : Outline) (ending : Option (List Char)) :
    (fuel : Nat) → (lines : List (List Node)) → (blanks : Nat) → Place → List (List Node) × Place
  | 0, lines, _, p => (lines, p)
  | fuel + 1, lines, blanks, p =>
    let next := p.nextLine
    let lines := keptLine blanks p next .markup :: lines
    let (all, c) := o.within next
    let last := match ending with
      | some e => Text.occurs e (p.upTo next.offset) || c.place.rest.isEmpty
      | none => c.isAtEnd || isBlankLine c.line
    if !all || last then (lines, next)
    else htmlLines o ending fuel lines c.owed c.place

/-- Reads a block of HTML that begins after some blanks. -/
def readHtml (o : Outline) (p : Place) (blanks : Nat) (ending : Option (List Char)) :
    Outline × Place :=
  let (lines, next) := o.htmlLines ending (o.size + 1) [] blanks p
  (o.addPart p next.offset .html lines.reverse.flatten, next)

end Outline
end Markdown
end StaticBlog
