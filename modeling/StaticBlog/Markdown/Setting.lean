import StaticBlog.Markdown.Definition
import StaticBlog.Markdown.Node

/-!
# What stands around running text

- `Links` : the definitions and footnotes that a text may refer to
- `Setting` : the blocks around a text
- `Setting.readTarget?` : where a link leads to
- `Setting.readLabelAt?`, `Setting.followup` : labels of links and of footnotes
-/

namespace StaticBlog
namespace Markdown

/-- What a text may refer to. -/
structure Links where
  definitions : List Definition := []
  /-- The keys of the labels of footnotes. -/
  footnotes : List (List Char) := []

/-- The first definition with a label. -/
def Links.find? (l : Links) (label : List Char) : Option Definition :=
  l.definitions.find? fun d => d.label = labelKey label

def Links.hasFootnote (l : Links) (label : List Char) : Bool :=
  l.footnotes.contains (labelKey label)

/-! ## Settings -/

/-- Where a text stands. -/
structure Setting where
  links : Links
  /-- The blocks around it, the outermost being the first of the list. -/
  spine : List Part
  /-- The offset where the innermost one ends. -/
  stop : Nat

namespace Setting

def inTable (t : Setting) : Bool := t.spine.any Part.isTable

/-- The place in a line where its text begins. -/
def lineText (t : Setting) (p : Place) : Place := (goOn t.spine { place := p }).2.place

/-- What of a line belongs to its text. -/
def lineRest (t : Setting) (s : List Char) : List Char := (t.lineText (.start s)).rest

end Setting

/-! ## Targets of links -/

/-- The number of parentheses that a destination may be inside of. -/
def parenthesesLimit : Nat := 32

/-- The place after a line break where the next node begins, if it begins behind the break. -/
def afterBreakIn? (p : Place) (todo : List Node) : Option Place := do
  let n ← (todo.dropWhile fun n => n.stop ≤ p.offset + 1).head?
  if p.offset < n.offset then some (p.advance (n.offset - p.offset)) else none

/-- Reads the rest of a title; `todo` are the nodes behind the bracket before it. `fuel` bounds the
length. -/
def readTitleFrom? (inTable : Bool) (todo : List Node) (opening closing : Char) :
    (fuel : Nat) → Place → Option (List Char × Place)
  | 0, _ => none
  | fuel + 1, p =>
    let go (s : List Char) (q : Place) : Option (List Char × Place) :=
      (readTitleFrom? inTable todo opening closing fuel q).map fun (t, r) => (s ++ t, r)
    match p.rest with
    | [] => none
    | c :: s =>
      let plain (_ : Unit) : Option (List Char × Place) := go [c] (p.advance 1)
      if c = closing then some ([], p.advance 1)
      else if c = opening then none
      else if isBreak c then
        match afterBreakIn? p todo with
        | some q => go ['\n'] q
        | none => plain ()
      else if c = '&' then
        match readEntity? s with
        | some (cs, rest) => go cs (p.upon rest)
        | none => plain ()
      else if c = '\\' then
        match s with
        | '\\' :: '|' :: _ => if inTable then go ['|'] (p.advance 3) else go ['\\'] (p.advance 2)
        | d :: _ => if Text.isAsciiPunctuation d then go [d] (p.advance 2) else plain ()
        | [] => plain ()
      else plain ()

namespace Setting

/-- Passes blanks and at most one line break among them. -/
def skipSeparator (t : Setting) (p : Place) : Place :=
  let p := p.skipWhile isSpace
  ((p.afterBreak?.map t.lineText).getD p).skipWhile isSpace

/-- Reads the title of a link. -/
def readTitle? (t : Setting) (todo : List Node) (p : Place) : Option (List Char × Place) := do
  let opening ← p.rest.head?
  readTitleFrom? t.inTable todo opening (← titleEnd? opening) (p.rest.length + 1) (p.advance 1)

/-- Reads the destination and the title of a link behind its opening parenthesis. -/
def readTarget? (t : Setting) (todo : List Node) (p : Place) :
    Option (List Char × List Char × Nat) := do
  let p := t.skipSeparator p
  let (destination, rest) ← readDestination? t.inTable parenthesesLimit p.rest
  let p := t.skipSeparator (p.upon rest)
  let (title, p) := match t.readTitle? todo p with
    | some (title, p) => (title, t.skipSeparator p)
    | none => ([], p)
  if p.rest.head? = some ')' then some (destination, title, p.offset + 1) else none

end Setting

/-! ## Labels -/

/-- What stands between brackets. -/
inductive Label
  | link (text : List Char)
  | footnote (text : List Char)

/-- What may follow the closing bracket of a reference. -/
inductive Followup
  /-- The label of a definition, which ends at an offset. -/
  | label (text : List Char) (stop : Nat)
  /-- Empty brackets, and what follows them. -/
  | empty (rest : List Node)
  | nothing

namespace Setting

/-- Reads a label with its brackets. A footnote has one that does not go on in another line. -/
def readLabelAt? (t : Setting) : List Char → Option (Label × List Char)
  | '[' :: s =>
    let plain := (readLabel? t.inTable (fun s => some (t.lineRest s)) s).map fun (label, rest) =>
      (Label.link label, rest)
    match s with
    | '^' :: u =>
      match if u.head? = some ']' then none else readLabel? t.inTable (fun _ => none) u with
      | some (label, rest) => some (.footnote label, rest)
      | none => plain
    | _ => plain
  | _ => none

/-- What follows the closing bracket of a reference. -/
def followup (t : Setting) : List Node → Followup
  | [] => .nothing
  | n :: ns =>
    let p := n.span.place.before t.stop
    match p.rest with
    | '[' :: ']' :: _ => .empty (ns.drop 1)
    | s =>
      match t.readLabelAt? s with
      | some (.link label, rest) => .label label (p.upon rest).offset
      | _ => .nothing

end Setting
end Markdown
end StaticBlog
