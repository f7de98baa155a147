import StaticBlog.Markdown.Definition
import StaticBlog.Markdown.Line

/-!
# Open and complete blocks

- `Outline` : the blocks that are open and those that are complete
- `Outline.finishList`, `Outline.continueList` : what a new block means to the lists around it
- `Outline.within` : how a line goes on with the blocks that are open
- `Outline.endsParagraph` : whether a line begins a new block amid a paragraph
-/

namespace StaticBlog
namespace Markdown

/-- An open block and the complete blocks in it, the last one first. -/
structure Frame where
  part : Part
  start : Place
  body : List Node := []

/-- What has been read of a document. -/
structure Outline where
  /-- The open blocks, the innermost first. -/
  frames : List Frame := []
  /-- The complete blocks outside of them, the last one first. -/
  body : List Node := []
  /-- Whether the line before was blank, so that a list may be loose. -/
  blankBefore : Bool := false
  /-- Whether the line before began an item with nothing in it. -/
  emptyItem : Bool := false
  /-- The check mark of a task whose text has not begun. -/
  task : Option Node := none
  /-- The definitions of links, the last one first. -/
  definitions : List Definition := []
  /-- The keys of the labels that footnotes have. -/
  footnotes : List (List Char) := []
  /-- The length of the text. -/
  size : Nat := 0

/-! ## Tight lists -/

/-- Blocks with the contents of paragraphs in place of these. -/
def bareParagraphs : List Node → List Node
  | [] => []
  | .part span .paragraph [] :: ns => .part span .paragraph [] :: bareParagraphs ns
  | .part _ .paragraph body :: ns => body ++ bareParagraphs ns
  | n :: ns => n :: bareParagraphs ns

/-- An item of a tight list. One that begins with a paragraph without text has no content. -/
def tightItem : Node → Node
  | .part span kind body =>
    match body with
    | .part _ .paragraph [] :: _ => .part span kind []
    | _ => .part span kind (bareParagraphs body)
  | n => n

namespace Outline

/-! ## Completing blocks -/

/-- Adds a node to the innermost block. -/
def add (o : Outline) (n : Node) : Outline :=
  match o.frames with
  | [] => { o with body := n :: o.body }
  | f :: fs => { o with frames := { f with body := n :: f.body } :: fs }

/-- Adds a complete block. -/
def addPart (o : Outline) (start : Place) (stop : Nat) (part : Part) (body : List Node) : Outline :=
  o.add (.part ⟨start, stop⟩ part body)

/-- Completes the innermost block, which ends at an offset. -/
def pop (o : Outline) (stop : Nat) : Outline :=
  match o.frames with
  | [] => o
  | f :: fs =>
    let o := { o with frames := fs }
    match f.part with
    | .list _ _ true =>
      { o with emptyItem := false }.addPart f.start stop f.part (f.body.reverse.map tightItem)
    | part => o.addPart f.start stop part f.body.reverse

def push (o : Outline) (start : Place) (part : Part) : Outline :=
  { o with frames := ⟨part, start, []⟩ :: o.frames }

/-- Completes all blocks but the outermost `n`. -/
def popTo (o : Outline) (n stop : Nat) : Outline :=
  (List.range (o.frames.length - n)).foldl (fun o _ => o.pop stop) o

/-! ## Lists -/

def isItem : List Frame → Bool
  | ⟨.item _, _, _⟩ :: _ => true
  | _ => false

/-- Completes an item that has nothing in it but a blank line. -/
def finishEmptyItem (o : Outline) (stop : Nat) : Outline :=
  let o := if o.emptyItem && o.blankBefore && isItem o.frames then o.pop stop else o
  { o with emptyItem := false }

/-- Makes a list loose. -/
def loosen (f : Frame) : Frame :=
  match f.part with
  | .list mark start _ => { f with part := .list mark start false }
  | _ => f

/-- Gets ready for a block that is no item: a list at whose level it stands is complete, and a list
whose item it goes on with after a blank line is loose. -/
def finishList (o : Outline) (stop : Nat) : Outline :=
  let o := o.finishEmptyItem stop
  let o := match o.frames with
    | ⟨.list _ _ _, _, _⟩ :: _ => o.pop stop
    | _ => o
  if o.blankBefore then
    let frames := match o.frames with
      | f :: g :: fs => f :: loosen g :: fs
      | fs => fs
    { o with frames, blankBefore := false }
  else o

/-- Gets ready for an item: it goes on with the list at whose level it stands, if that has marks of
its kind. -/
def continueList (o : Outline) (start : Place) (b : Bullet) : Outline :=
  let o := o.finishEmptyItem start.offset
  let fresh (o : Outline) : Outline :=
    { o.push start (.list b.mark b.number true) with blankBefore := false }
  match o.frames with
  | [] => fresh o
  | f :: fs =>
    match f.part with
    | .list mark _ _ =>
      if mark = b.mark then
        { o with frames := (if o.blankBefore then loosen f else f) :: fs, blankBefore := false }
      else fresh (o.finishList start.offset)
    | _ => fresh (o.finishList start.offset)

/-! ## Lines -/

/-- The open blocks, the outermost being the first of the list. -/
def spine (o : Outline) : List Part := o.frames.reverse.map (·.part)

/-- Whether a line goes on with all open blocks, and the rest of the line. -/
def within (o : Outline) (p : Place) : Bool × Cursor :=
  let (n, c) := goOn o.spine { place := p }
  (n = o.frames.length, c)

/-- The label of a footnote that begins here, and what follows its colon. -/
def footnote? : List Char → Option Reading
  | '[' :: '^' :: s =>
    match readLabel? false (fun _ => none) s with
    | some (label, ':' :: rest) => some (label, rest)
    | _ => none
  | _ => none

/-- Whether a line ends a paragraph or the rows of a table. `all` says whether it goes on with all
open blocks. -/
def interrupts (all inTable : Bool) (p : Place) : Bool :=
  let s := p.line
  s.isEmpty || isRule s || (headingLevel? s).isSome || (openFence? (recordOf p.rest)).isSome ||
    s.head? = some '>' || (bullet? s).any (fun b => !all || inTable || b.interrupts s) ||
    (s.head? = some '<' && ((blockEnd? (s.drop 1)).isSome || startsBlockElement (s.drop 1))) ||
    (footnote? p.rest).isSome

/-- The columns of a table that the line here tells, and the place after the line. -/
def columnsAt? (o : Outline) (p : Place) : Option (List Alignment × Place) := do
  let (all, c) := o.within p
  let (indent, d) := Cursor.skip { place := c.place } 4
  if all && indent < 4 then
    let columns ← columns? d.line
    some (columns, ← (d.place.advance d.line.length).afterBreak?)
  else none

/-- Whether a table begins amid a paragraph: with a pipe, and a line below that tells as many
columns. -/
def beginsTable (o : Outline) (p : Place) : Bool :=
  let s := p.line
  let ending := p.advance s.length
  s.head? = some '|' && !ending.rest.isEmpty &&
    (ending.afterBreak?.bind o.columnsAt?).any fun (columns, _) =>
      columns.length = headColumns (pipes false 0 s) s

/-- Whether a line ends a paragraph. -/
def endsParagraph (o : Outline) (all : Bool) (p : Place) : Bool :=
  interrupts all false p || o.beginsTable p

/-- What of the next line goes on with a definition at the start of a paragraph. -/
def nextOfDefinition (o : Outline) (s : List Char) : Option (List Char) :=
  let (all, c) := o.within (.start s)
  let (indent, d) := c.skip 4
  let s := d.place.rest
  let underline := all && (underlineLevel? (lineOf s)).isSome
  if isBlankLine (lineOf s) || (indent < 4 && (o.endsParagraph all d.place || underline)) then none
  else some s

end Outline
end Markdown
end StaticBlog
