import StaticBlog.Markdown.Tag
import StaticBlog.Text.Digits

/-!
# Starts of blocks

What the beginning of a line says, its indentation left out.

- `isRule`, `headingLevel?`, `openFence?`, `closesFence`, `underlineLevel?` : lines of one kind
- `columns?` : the line below the head of a table
- `bullet?` : the mark of a list item
- `alert?` : the mark of a quotation that is an alert
-/

namespace StaticBlog
namespace Markdown

/-- How many times a character stands at the start of a text. -/
def run (c : Char) (s : List Char) : Nat := (s.takeWhile (· = c)).length

/-- Whether a line is a rule: three marks of one kind or more, and blanks. -/
def isRule (s : List Char) : Bool :=
  match s with
  | [] => false
  | c :: _ =>
    (c = '*' || c = '-' || c = '_') && s.all (fun d => d = c || d = ' ' || d = '\t') &&
      3 ≤ s.count c

/-- The level of a heading that number signs begin. -/
def headingLevel? (s : List Char) : Option Nat :=
  let n := run '#' s
  if 1 ≤ n && n ≤ 6 && (s.drop n).head?.all isSpace then some n else none

/-- The character and the length of a fence that begins a block of code, given what follows up to a
line feed. -/
def openFence? (s : List Char) : Option (Char × Nat) :=
  match s with
  | [] => none
  | c :: _ =>
    let n := run c s
    if (c = '\x60' || c = '~') && 3 ≤ n && !(c = '\x60' && (s.drop n).contains '\x60') then
      some (c, n)
    else none

/-- Whether a line is a fence that ends a block of code. -/
def closesFence (c : Char) (n : Nat) (s : List Char) : Bool :=
  n ≤ run c s && (s.drop (run c s)).all (· = ' ')

/-- The level of a heading that a line below it makes. -/
def underlineLevel? (s : List Char) : Option Nat :=
  match s with
  | '=' :: _ => if isBlankLine (s.drop (run '=' s)) then some 1 else none
  | '-' :: _ => if isBlankLine (s.drop (run '-' s)) then some 2 else none
  | _ => none

/-! ## Tables -/

/-- Where the text of a column stands. -/
inductive Alignment
  | none
  | left
  | center
  | right
  deriving DecidableEq, Repr

/-- What has been read of the line below the head of a table. -/
structure ColumnScan where
  done : List Alignment := []
  active : Alignment := .none
  /-- Whether nothing of the column has been read. -/
  fresh : Bool := true
  pipe : Bool := false
  /-- Whether the column has a hyphen. -/
  hyphen : Bool := false
  anyHyphen : Bool := false

def ColumnScan.step? (k : ColumnScan) (c : Char) : Option ColumnScan :=
  match c with
  | ' ' => some k
  | ':' =>
    let active := match k.fresh, k.active with
      | true, .none => .left
      | false, .left => .center
      | false, .none => .right
      | _, a => a
    some { k with active, fresh := false }
  | '-' => some { k with fresh := false, hyphen := true, anyHyphen := true }
  | '|' =>
    if k.hyphen then
      some { k with
        done := k.done ++ [k.active]
        active := .none
        fresh := true
        pipe := true
        hyphen := false }
    else none
  | _ => none

/-- The columns that a line below the head of a table has. -/
def columns? (s : List Char) : Option (List Alignment) := do
  let (first, s) := match s with
    | '|' :: s => (true, s)
    | s => (false, s)
  let k ← s.foldlM ColumnScan.step? { pipe := first : ColumnScan }
  if k.pipe && k.anyHyphen then some (if k.fresh then k.done else k.done ++ [k.active]) else none

/-- The places of the pipes in a line that have no backslash before them; `i` counts from its
start. -/
def pipes : (escaped : Bool) → (i : Nat) → List Char → List Nat
  | _, _, [] => []
  | escaped, i, c :: s =>
    if c = '|' && !escaped then i :: pipes false (i + 1) s
    else pipes (c = '\\') (i + 1) s

/-- The number of columns that a line with these pipes has as the head of a table. -/
def headColumns (pipes : List Nat) (s : List Char) : Nat :=
  let inner := if (skipSpaces s).head? = some '|' then pipes.length - 1 else pipes.length
  match pipes.getLast? with
  | some last => if isBlankLine (s.drop (last + 1)) then inner else inner + 1
  | none => inner + 1

/-! ## Lists -/

/-- A mark of a list item. -/
structure Bullet where
  /-- What makes it a mark of one list: a bullet, or what follows a number. -/
  mark : Char
  /-- The number, if there is one. -/
  number : Option Nat
  /-- The number of its characters. -/
  width : Nat
  deriving DecidableEq, Repr

/-- The mark at the start of a text, which a blank or nothing follows. -/
def bullet? (s : List Char) : Option Bullet :=
  let ds := (s.take 9).takeWhile Char.isDigit
  let mark := match s.drop ds.length with
    | [] => none
    | c :: s =>
      if ds.isEmpty && (c = '-' || c = '+' || c = '*') then some (⟨c, none, 1⟩, s)
      else if !ds.isEmpty && (c = '.' || c = ')') then
        some (⟨c, some (Text.valueOf ds), ds.length + 1⟩, s)
      else none
  match mark with
  | some (b, []) => some b
  | some (b, c :: _) => if c = ' ' || c = '\t' then some b else none
  | none => none

/-- Whether a list may begin amid a paragraph with a mark and what follows it. -/
def Bullet.interrupts (b : Bullet) (s : List Char) : Bool :=
  (b.number = none || b.number = some 1) && !isBlankLine (s.drop b.width)

/-! ## Quotations -/

/-- The kinds of alerts. -/
inductive Alert
  | note
  | tip
  | important
  | warning
  | caution
  deriving DecidableEq, Repr

namespace Alert

def name : Alert → String
  | note => "note"
  | tip => "tip"
  | important => "important"
  | warning => "warning"
  | caution => "caution"

def all : List Alert := [note, tip, important, warning, caution]

end Alert

/-- The alert that a line names, if it does nothing else. -/
def alert? (s : List Char) : Option Alert :=
  Alert.all.find? fun a =>
    let mark := '[' :: '!' :: a.name.toList ++ [']']
    (s.take mark.length).map Char.toLower = mark && isBlankLine (s.drop mark.length)

/-- Whether the check mark of a task stands at the start of a text, and if so whether it is set. A
blank follows it. -/
def task? : List Char → Option Bool
  | '[' :: c :: ']' :: d :: _ =>
    if isSpace d then
      if isSpace c then some false else if c = 'x' || c = 'X' then some true else none
    else none
  | _ => none

end Markdown
end StaticBlog
