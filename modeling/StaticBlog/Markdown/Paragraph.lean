import StaticBlog.Markdown.Outline

/-!
# Blocks of running text

- `Outline.readHeading` : a heading that number signs begin
- `Outline.readTable` : the rows of a table
- `Outline.readParagraph` : a paragraph, which may turn out to be a heading or a table
- `Outline.readText` : a paragraph with the definitions before it
-/

namespace StaticBlog
namespace Markdown
namespace Outline

/-! ## Headings -/

/-- The number of characters in a heading without the number signs that may end it. -/
def headingLength (s : List Char) : Nat :=
  let text := Text.dropBack (fun c => isBreak c || c = ' ') s
  let before := Text.dropBack (· = '#') text
  let bare := Text.dropBack (· = ' ') before
  if bare.length < before.length || before.isEmpty then bare.length else text.length

/-- Reads a heading that number signs begin. -/
def readHeading (o : Outline) (p : Place) (level : Nat) : Outline × Place :=
  let mark := p.advance level
  match mark.afterBreak? with
  | some next => (o.addPart p next.offset (.heading level) [], next)
  | none =>
    let start := mark.skipWhile isSpace
    let line := readLine false start
    let slash := match line.ending with
      | some (.leaf span (.lineBreak .escaped)) => [Node.leaf span .text]
      | _ => []
    let nodes := line.nodes ++ slash
    let stop := start.offset + headingLength (start.upTo line.next.offset)
    let body := nodes.dropLast ++ (nodes.getLast?.map (·.endingAt stop)).toList
    (o.addPart p line.next.offset (.heading level) body, line.next)

/-! ## Tables -/

/-- Reads the cells of a row. `fuel` bounds their number. -/
def readCells : (fuel : Nat) → Place → List Node × Place
  | 0, p => ([], p)
  | fuel + 1, p =>
    let start := if p.rest.head? = some '|' then p.advance 1 else p
    let text := start.skipWhile isSpace
    match text.afterBreak? with
    | some next => ([], next)
    | none =>
      let line := readLine true text
      let (cells, next) := readCells fuel line.next
      (.part ⟨start, line.next.offset⟩ .tableCell line.nodes :: cells, next)

/-- A row with as many cells as there are columns. -/
def rowOf (part : Part) (columns : Nat) (p : Place) (cells : List Node) (next : Place) : Node :=
  let missing := List.replicate (columns - cells.length) (.part ⟨next, next.offset⟩ .tableCell [])
  .part ⟨p, next.offset⟩ part (cells.take columns ++ missing)

/-- Reads the rows of a table, which ends before a row without cells. `fuel` bounds their number. -/
def readRows (o : Outline) (columns : Nat) : (fuel : Nat) → Place → List Node × Place
  | 0, p => ([], p)
  | fuel + 1, p =>
    let (all, c) := o.within p
    let q := c.skipAll.place
    if !all || interrupts all true q then ([], p)
    else
      let (cells, next) := readCells (q.line.length + 1) q
      if cells.isEmpty then ([], p)
      else
        let (rows, after) := readRows o columns fuel next
        (rowOf .tableRow columns q cells next :: rows, after)

/-- Reads a table, given the place of its head and that of its first row. -/
def readTable (o : Outline) (columns : List Alignment) (head body : Place) : Outline × Place :=
  let (cells, next) := readCells (head.line.length + 1) head
  let first := rowOf .tableHead columns.length head cells next
  let (rows, after) := o.readRows columns.length (o.size + 1) body
  (o.addPart head after.offset (.table columns) (first :: rows), after)

/-- The columns of the table that begins with a line which has been read, and the place of its first
row. -/
def tableOf? (o : Outline) (p : Place) (line : Line) : Option (List Alignment × Place) := do
  let (columns, body) ← match line.ending with
    | some (.leaf _ (.lineBreak .escaped)) => none
    | some (.leaf _ (.lineBreak _)) => o.columnsAt? line.next
    | _ => none
  let pipes := line.pipes.map (· - p.offset)
  if pipes.isEmpty || columns.length ≠ headColumns pipes p.line then none
  else some (columns, body)

/-! ## Paragraphs -/

/-- The lines of a paragraph that goes on, the last node being the first of the list. `fuel` bounds
their number. -/
def paragraphLines (o : Outline) : (fuel : Nat) → (nodes : List Node) → Line →
    Part × List Node × Place
  | 0, nodes, line => (.paragraph, nodes, line.next)
  | fuel + 1, nodes, line =>
    let nodes := line.nodes.reverse ++ nodes
    let (all, c) := o.within line.next
    let (indent, d) := c.skip 4
    let q := d.place
    let complete : List Node := match line.ending with
      | some (.leaf span (.lineBreak .escaped)) =>
        .leaf ⟨span.place, span.place.offset + 1⟩ .text :: nodes
      | _ => nodes
    match if all && indent < 4 then underlineLevel? q.line else none with
    | some level =>
      let below := q.advance q.line.length
      (.heading level, complete, below.afterBreak?.getD below)
    | none =>
      let next := d.skipAll.place
      if (indent < 4 && o.endsParagraph all q) || (breakLength? next.rest).isSome then
        (.paragraph, complete, line.next)
      else paragraphLines o fuel (line.ending.toList ++ nodes) (readLine false next)

/-- Reads a paragraph. It takes the check mark of a task that has no text yet. -/
def readParagraph (o : Outline) (p : Place) : Outline × Place :=
  let line := readLine false p
  let task := o.task.toList
  let o := { o with task := none }
  match o.tableOf? p line with
  | some (columns, body) => o.readTable columns p body
  | none =>
    let (part, nodes, next) := o.paragraphLines (o.size + 1) task line
    (o.addPart p next.offset part nodes.reverse, next)

/-- Reads a paragraph and the definitions before it. `fuel` bounds their number. -/
def readText : (fuel : Nat) → Outline → Place → Outline × Place
  | 0, o, p => o.readParagraph p
  | fuel + 1, o, p =>
    match readDefinition? o.nextOfDefinition p.rest with
    | none => o.readParagraph p
    | some (definition, rest) =>
      let o := { o with definitions := definition :: o.definitions }
      let q := p.upon rest
      let q := q.afterBlank?.getD q
      let (all, c) := o.within q
      let (indent, d) := c.skip 4
      if indent < 4 && o.endsParagraph all d.place then (o, q) else readText fuel o d.skipAll.place

end Outline
end Markdown
end StaticBlog
