import StaticBlog.Markdown.Emphasis
import StaticBlog.Markdown.Setting
import StaticBlog.Markdown.Tag

/-!
# Running text

Angle brackets, backticks and brackets get their meaning from left to right; marks of emphasis are
paired after that.

- `readUri?`, `readMail?` : addresses with a scheme, and of mail
- `readAutolink?` : either of them between angle brackets
- `Setting.readAngle?`, `Setting.readCode?`, `Setting.closeBracket` : what a token completes
- `Setting.resolve` : nodes in which no token is open
- `Node.resolved` : a part of a document in which no token is open
-/

namespace StaticBlog
namespace Markdown

/-! ## Addresses between angle brackets -/

def isSchemePart (c : Char) : Bool := c.isAlphanum || c = '.' || c = '-' || c = '+'

/-- Reads an address with a scheme, and the angle bracket after it. -/
def readUri? (s : List Char) : Option Reading :=
  let scheme := s.takeWhile isSchemePart
  match s.head?, s.drop scheme.length with
  | some first, ':' :: rest =>
    if first.isAlpha && 2 ≤ scheme.length && scheme.length ≤ 32 then
      let path := rest.takeWhile fun c => 0x20 < c.toNat && c ≠ '<' && c ≠ '>'
      match rest.drop path.length with
      | '>' :: after => some (scheme ++ ':' :: path, after)
      | _ => none
    else none
  | _, _ => none

def isMailboxPart (c : Char) : Bool :=
  c.isAlphanum || ".!#$%&'*+/=?^_\x60\x7b|\x7d~-".toList.contains c

/-- Whether a text is one part of the name of a host. -/
def isHostPart (s : List Char) : Bool :=
  !s.isEmpty && s.length ≤ 63 && s.all (fun c => c.isAlphanum || c = '-') && s.head? ≠ some '-' &&
    s.getLast? ≠ some '-'

/-- Reads an address of mail, and the angle bracket after it. -/
def readMail? (s : List Char) : Option Reading :=
  let mailbox := s.takeWhile isMailboxPart
  match s.drop mailbox.length with
  | '@' :: rest =>
    let host := rest.takeWhile fun c => c.isAlphanum || c = '-' || c = '.'
    match rest.drop host.length with
    | '>' :: after =>
      if !mailbox.isEmpty && (Text.splitWhere (· = '.') host).all isHostPart then
        some (mailbox ++ '@' :: host, after)
      else none
    | _ => none
  | _ => none

/-- Reads an address between angle brackets, given what follows the first one; it is told whether it
is one of mail. -/
def readAutolink? (s : List Char) : Option (Bool × Reading) :=
  match readUri? s with
  | some r => some (false, r)
  | none => (readMail? s).map (true, ·)

/-! ## Tags and code -/

/-- The next run of so many backticks, and what follows it. -/
def splitTicks? (count : Nat) : List Node → Option (Span × List Node)
  | [] => none
  | .leaf span (.ticks n _) :: ns => if n = count then some (span, ns) else splitTicks? count ns
  | _ :: ns => splitTicks? count ns

/-- Code without a blank at both ends, unless there are only blanks. -/
def bareCode (s : List Char) : List Char :=
  if s.head? = some ' ' && s.getLast? = some ' ' && !s.all (· = ' ') then (s.drop 1).dropLast else s

namespace Setting

/-- What an angle bracket begins: an address or a tag. -/
def readAngle? (t : Setting) (span : Span) (todo : List Node) : Option (Node × List Node) := do
  let p := (← todo.head?).span.place.before t.stop
  match readAutolink? p.rest with
  | some (mail, uri, rest) =>
    let stop := (p.upon rest).offset
    let body := Node.leaf ⟨span.after, stop - 1⟩ .text
    some (.part ⟨span.place, stop⟩ (.link mail uri []) [body], nodesBehind stop todo)
  | none =>
    let (html, rest) ← readInlineHtml? t.lineRest p.rest
    let stop := (p.upon rest).offset
    some (.leaf ⟨span.place, stop⟩ (.html ('<' :: html)), nodesBehind stop todo)

/-- The text of code between two offsets. Line breaks are blanks, and in a table a backslash before
a pipe is left out. `fuel` bounds the length. -/
def codeText (t : Setting) (stop : Nat) : (fuel : Nat) → Place → List Char
  | 0, _ => []
  | fuel + 1, p =>
    if stop ≤ p.offset then []
    else match p.rest with
      | [] => []
      | c :: s =>
        if isBreak c then ' ' :: codeText t stop fuel (t.lineText (p.advance 1))
        else if c = '\\' && t.inTable && s.head? = some '|' then
          '|' :: codeText t stop fuel (p.advance 2)
        else c :: codeText t stop fuel (p.advance 1)

/-- What a run of backticks begins, and what follows. A backslash before the run makes its first
backtick one of the text. -/
def readCode? (t : Setting) (span : Span) (count : Nat) (escaped : Bool) (todo : List Node) :
    Option (List Node × List Node) :=
  let wanted := if escaped then count - 1 else count
  if wanted = 0 then none
  else (splitTicks? wanted todo).map fun (closer, rest) =>
    let p := span.after
    let stop := closer.place.offset
    let code := bareCode (t.codeText stop (stop - p.offset) p)
    let first := if escaped then 1 else 0
    (Node.textTo span.place (span.place.offset + first) ++
      [.leaf ⟨span.place.advance first, closer.stop⟩ (.code code)], rest)

end Setting

/-! ## Brackets -/

/-- The nodes behind the last bracket that is open, whether it begins an image, whether it may begin
a link, where it stands, and the nodes before it. -/
def splitBracket : List Node → Option (List Node × Bool × Bool × Span × List Node)
  | [] => none
  | .leaf span (.bracket image active) :: ns => some ([], image, active, span, ns)
  | n :: ns => (splitBracket ns).map fun (inner, r) => (n :: inner, r)

/-- Keeps brackets from beginning a link, because a link holds no link. -/
def deactivate (ns : List Node) : List Node :=
  ns.map fun
    | .leaf span (.bracket false _) => .leaf span (.bracket false false)
    | n => n

/-- Makes brackets plain text. -/
def dropBrackets (ns : List Node) : List Node :=
  ns.map fun
    | .leaf span (.bracket _ _) => .leaf span .text
    | n => n

/-- Nodes that are the text of a link. -/
def linkBody (inner : List Node) : List Node :=
  let ns := inner.reverse
  if ns.any Node.isOpen then resolveMarks ns else ns

/-- The nodes with the bracket at an offset not fresh any more, and those behind it. -/
def exhaust? (offset : Nat) (ns : List Node) : Option (List Node × List Node) :=
  match ns.span fun n => n.stop ≤ offset with
  | (above, n :: below) => some (above ++ .leaf n.span (.closing false) :: below, below)
  | (_, []) => none

/-- What a closing bracket completes, together with the bracket that opens and the nodes between. -/
inductive Completion
  /-- A link or an image that ends at an offset, and what follows it. -/
  | link (destination title : List Char) (stop : Nat) (rest : List Node)
  | note (label : List Char)
  /-- Nothing; what follows may have been tried. -/
  | nothing (rest : List Node)

namespace Setting

/-- What a closing bracket completes. The label of a footnote counts only where there is one. -/
def completion (t : Setting) (opening closing : Span) (fresh : Bool) (todo : List Node) :
    Completion :=
  let p := closing.after.before t.stop
  let target := if p.rest.head? = some '(' then t.readTarget? todo (p.advance 1) else none
  let own (rest : List Node) : Completion :=
    if !fresh then .nothing todo
    else
      let start := opening.place.advance (opening.stop - opening.place.offset - 1)
      match t.readLabelAt? (start.upTo closing.stop) with
      | some (.footnote label, []) =>
        if t.links.hasFootnote label then .note label else .nothing todo
      | some (.link label, []) =>
        match t.links.find? label with
        | some d => .link d.destination d.title closing.stop rest
        | none => .nothing todo
      | _ => .nothing todo
  match target with
  | some (destination, title, stop) => .link destination title stop (nodesBehind stop todo)
  | none =>
    match t.followup todo with
    | .label label stop =>
      match exhaust? (stop - 1) todo with
      | none => .nothing todo
      | some (tried, below) =>
        match t.links.find? label with
        | some d => .link d.destination d.title stop below
        | none => .nothing tried
    | .empty rest => own rest
    | .nothing => own todo

/-- The nodes up to a closing bracket, the last one first, and those that follow. -/
def closeBracket (t : Setting) (closing : Span) (fresh : Bool) (done todo : List Node) :
    List Node × List Node :=
  match splitBracket done with
  | none => (.leaf closing .text :: done, todo)
  | some (inner, image, active, opening, below) =>
    let failed := .leaf closing .text :: inner ++ .leaf opening .text :: below
    if !active then (failed, todo)
    else match t.completion opening closing fresh todo with
      | .link destination title stop rest =>
        let span : Span := ⟨opening.place, stop⟩
        if image then (.part span (.image destination title) (linkBody inner) :: below, rest)
        else (.part span (.link false destination title) (linkBody inner) :: deactivate below, rest)
      | .note label =>
        let mark := if image then [Node.leaf opening (.literal ['!'])] else []
        (.leaf ⟨opening.place, closing.stop⟩ (.note label) :: mark ++ dropBrackets below, todo)
      | .nothing rest => (failed, rest)

/-! ## Reading -/

/-- The nodes that have been read, the last one first, in front of those that follow. `fuel` bounds
the number of the latter. -/
def read (t : Setting) : (fuel : Nat) → (done todo : List Node) → List Node
  | 0, done, todo => todo.reverse ++ done
  | _, done, [] => done
  | fuel + 1, done, .part span kind body :: todo => read t fuel (.part span kind body :: done) todo
  | fuel + 1, done, .leaf span token :: todo =>
    let plain (_ : Unit) : List Node := read t fuel (.leaf span .text :: done) todo
    match token with
    | .angle =>
      match t.readAngle? span todo with
      | some (n, rest) => read t fuel (n :: done) rest
      | none => plain ()
    | .ticks count escaped =>
      match t.readCode? span count escaped todo with
      | some (ns, rest) => read t fuel (ns.reverse ++ done) rest
      | none => plain ()
    | .closing fresh =>
      let (done, rest) := t.closeBracket span fresh done todo
      read t fuel done rest
    | token => read t fuel (.leaf span token :: done) todo

/-- Nodes in which no token is open. -/
def resolve (t : Setting) (ns : List Node) : List Node :=
  if ns.any Node.isOpen then resolveMarks (dropBrackets (t.read ns.length [] ns).reverse) else ns

end Setting

mutual

/-- A part of a document in which no token is open. `around` are the parts around it. -/
def Node.resolved (l : Links) (around : List Part) : Node → Node
  | .leaf span token => .leaf span token
  | .part span kind body =>
    let spine := around ++ [kind]
    .part span kind ((Setting.mk l spine span.stop).resolve (Node.allResolved l spine body))

def Node.allResolved (l : Links) (around : List Part) : List Node → List Node
  | [] => []
  | n :: ns => Node.resolved l around n :: Node.allResolved l around ns

end

end Markdown
end StaticBlog
