import StaticBlog.Markdown.Paragraph
import StaticBlog.Markdown.Verbatim

/-!
# The blocks of a text

A line first goes on with the blocks that are open, as far as it does; then it begins new ones.

- `Outline.begin` : begins a block that holds no blocks
- `Outline.beginFrom` : begins blocks that hold blocks, and the one inside
- `Outline.ofText` : the outline of a text
-/

namespace StaticBlog
namespace Markdown
namespace Outline

/-- Notes a blank line. An item that has nothing in it takes any block after it. -/
def passBlank (o : Outline) : Outline :=
  match o.frames with
  | [] => o
  | f :: fs =>
    match f.part with
    | .quote _ => o
    | .item indent =>
      let f := { f with part := .item (if o.emptyItem then 0 else indent) }
      { o with frames := f :: fs, blankBefore := true }
    | _ => { o with blankBefore := true }

/-- Begins a block that holds no blocks. -/
def begin (o : Outline) (c : Cursor) : Outline × Place :=
  match c.place.afterBlank? with
  | some next => (o.passBlank, next)
  | none =>
    let (indent, d) := c.skip 4
    let p := d.place
    let s := d.line
    if indent = 4 then (o.finishList c.place.offset).readIndented d
    else
      let o := o.finishList p.offset
      let isTag := s.head? = some '<'
      if isTag && (blockEnd? (s.drop 1)).isSome then
        o.readHtml p (max c.owed indent) (blockEnd? (s.drop 1))
      else if isTag && startsElement (s.drop 1) then o.readHtml p (max c.owed indent) none
      else if isRule s then
        let ending := p.advance s.length
        let next := ending.afterBreak?.getD ending
        (o.add (.leaf ⟨p, next.offset⟩ .rule), next)
      else match headingLevel? s with
        | some level => o.readHeading p level
        | none =>
          match openFence? (recordOf p.rest) with
          | some (mark, length) => o.readFenced p indent mark length
          | none => readText (o.size + 1) o p

/-- The columns by which the further lines of an item are indented, and the rest of its first line.
-/
def itemStart (outer : Nat) (b : Bullet) (c : Cursor) : Nat × Cursor :=
  let (_, c) := (c.advance b.width).skip 1
  let indent := outer + b.width + 1
  if isBlankLine c.line then (indent, c)
  else
    let (inner, d) := c.skip 4
    if inner < 4 then (indent + inner, d) else (indent, c)

/-- The check mark of a task at the start of an item, and what follows it. -/
def taskAt? (c : Cursor) : Option (Node × Cursor) :=
  let (_, d) := c.skip 3
  (task? d.line).map fun checked =>
    let e := d.advance 3
    (.leaf ⟨c.place, e.place.offset⟩ (.task checked), e)

/-- Begins an alert, whose text is the next line even if that is blank or does not go on with it. -/
def beginAlert (o : Outline) (p : Place) : Outline × Place :=
  let next := (p.advance p.line.length).afterBreak?.getD p
  let (all, c) := o.within next
  let (indent, d) := c.skip 4
  if indent < 4 && o.endsParagraph all d.place then (o, next) else o.begin d.skipAll

/-- Begins blocks that hold blocks, and the block inside them. `fuel` bounds their number. -/
def beginFrom : (fuel : Nat) → Outline → Cursor → Outline × Place
  | 0, o, c => o.begin c
  | fuel + 1, o, c =>
    let (outer, d) := c.skip 4
    let p := d.place
    if outer = 4 then o.begin c
    else match footnote? p.rest with
      | some (label, rest) =>
        let o := o.finishList p.offset
        let o := match o.frames with
          | ⟨.footnote _, _, _⟩ :: _ => o.pop p.offset
          | _ => o
        let o := { o with footnotes := labelKey label :: o.footnotes }
        beginFrom fuel (o.push p (.footnote label)) { place := (p.upon rest).skipWhile isSpace }
      | none =>
        match if isRule d.line then none else bullet? d.line with
        | some b =>
          let (indent, e) := itemStart outer b d
          let o := (o.continueList c.place b).push c.place (.item indent)
          match e.place.afterBlank? with
          | some next => ({ o with emptyItem := true }, next)
          | none =>
            match taskAt? e with
            | some (task, e) =>
              match e.place.afterBlank? with
              | some next => ({ o.add task with emptyItem := true }, next)
              | none => beginFrom fuel { o with task := some task } e
            | none => beginFrom fuel o e
        | none =>
          match p.rest with
          | '>' :: _ =>
            let (_, e) := (d.advance 1).skip 1
            let alert := alert? e.line
            let o := (o.finishList p.offset).push p (.quote alert)
            if alert.isSome then o.beginAlert e.place else beginFrom fuel o e
          | _ => o.begin c

/-- Reads blocks. `fuel` bounds their number. -/
def readBlocks : (fuel : Nat) → Outline → Place → Outline
  | 0, o, p => o.popTo 0 p.offset
  | fuel + 1, o, p =>
    if p.rest.isEmpty then o.popTo 0 p.offset
    else
      let (n, c) := goOn o.spine { place := p }
      let (o, next) := beginFrom (p.line.length + 1) (o.popTo n p.offset) c
      readBlocks fuel o next

/-- The outline of a text. -/
def ofText (text : List Char) : Outline :=
  let size := text.length
  readBlocks (size + 1) { size } (.start text)

end Outline
end Markdown
end StaticBlog
