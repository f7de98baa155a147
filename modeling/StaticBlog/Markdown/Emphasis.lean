import StaticBlog.Markdown.Node

/-!
# Emphasis

Runs of marks are paired, those that close with the last ones before them that open.

- `agree` : which runs may go together
- `pairMarks` : pairs a run with those before it
- `resolveMarks` : nodes in which all runs are paired or plain text
-/

namespace StaticBlog
namespace Markdown

/-- A run of marks, or what is left of it. -/
structure MarkRun where
  span : Span
  mark : Char
  /-- The number of marks in the text. -/
  length : Nat
  flanks : Flanks
  deriving DecidableEq, Repr

/-- Marks that may open emphasis. -/
structure Opener where
  run : MarkRun
  /-- The number of marks that are left. -/
  count : Nat
  /-- The number of openers before it. -/
  index : Nat
  deriving DecidableEq, Repr

/-- A node in front of marks that are being paired. -/
inductive Slot
  | node (n : Node)
  | opener (o : Opener)

/-- Marks that are plain text. -/
def MarkRun.plain (r : MarkRun) (count : Nat) : Node :=
  .leaf r.span (.literal (List.replicate count r.mark))

def Slot.toNode : Slot → Node
  | .node n => n
  | .opener o => o.run.plain o.count

/-- What has been paired. -/
structure Pairing where
  /-- The last slot is the first of the list. -/
  slots : List Slot := []
  /-- The number of openers among the slots. -/
  openers : Nat := 0
  /-- The number of openers, counted from the first, that tildes do not go with any more. -/
  settled : Nat := 0

/-- Whether marks that close may go with marks that open. When marks on either side could do both,
their number may not be a multiple of three, unless each number is. -/
def agree (closer opener : MarkRun) : Bool :=
  opener.mark = closer.mark && (closer.mark ≠ '~' || opener.length = closer.length) &&
    ((!(closer.flanks.opens && closer.flanks.closes) &&
        !(opener.flanks.opens && opener.flanks.closes)) ||
      (closer.length + opener.length) % 3 ≠ 0 || closer.length % 3 = 0)

/-- The slots before the first opener that passes a test, that opener, and the slots after it. -/
def splitSlots (p : MarkRun → Bool) : List Slot → Option (List Slot × Opener × List Slot)
  | [] => none
  | .opener o :: ss =>
    if p o.run then some ([], o, ss)
    else (splitSlots p ss).map fun (above, found) => (.opener o :: above, found)
  | .node n :: ss => (splitSlots p ss).map fun (above, found) => (.node n :: above, found)

/-- The opener that goes with marks that close, with the slots before it and after it. -/
def Pairing.find? (g : Pairing) (r : MarkRun) : Option (List Slot × Opener × List Slot) :=
  (splitSlots (agree r) g.slots).filter fun found =>
    r.mark ≠ '~' || g.settled ≤ found.2.1.index

/-- A text inside so many pairs of marks. -/
def wrap (span : Span) (mark : Char) (body : List Node) : (count : Nat) → List Node
  | 0 => body
  | 1 => [.part span (.styled (if mark = '~' then .struck else .emphasis)) body]
  | count + 2 =>
    if mark = '~' then [.part span (.styled .struck) body]
    else wrap span mark [.part span (.styled .strong) body] count

/-- Adds what is left of a run of marks. -/
def Pairing.addRun (g : Pairing) (r : MarkRun) (count : Nat) : Pairing :=
  if count = 0 then g
  else if r.flanks.opens then
    { g with slots := .opener ⟨r, count, g.openers⟩ :: g.slots, openers := g.openers + 1 }
  else { g with slots := .node (r.plain count) :: g.slots }

/-- Puts emphasis in place of the slots behind an opener. -/
def Pairing.enclose (g : Pairing) (r : MarkRun) (used : Nat) (above : List Slot) (o : Opener)
    (below : List Slot) : Pairing :=
  let body := wrap ⟨o.run.span.place, r.span.stop⟩ r.mark (above.reverse.map Slot.toNode) used
  let kept := if used < o.count then 1 else 0
  let rest := if used < o.count then .opener { o with count := o.count - used } :: below else below
  { slots := (body.map Slot.node).reverse ++ rest
    openers := o.index + kept
    settled := min g.settled o.index }

/-- Pairs marks with those that stand before them. `fuel` bounds the number of pairs. -/
def pairMarks (r : MarkRun) : (fuel count : Nat) → Pairing → Pairing
  | 0, _, g => g
  | fuel + 1, count, g =>
    if count = 0 || !r.flanks.closes then g.addRun r count
    else match g.find? r with
      | some (above, o, below) =>
        let used := min count o.count
        pairMarks r fuel (count - used) (g.enclose r used above o below)
      | none =>
        Pairing.addRun (if r.mark = '~' then { g with settled := g.openers } else g) r count

/-- Adds a node to the slots. -/
def addNode (g : Pairing) (n : Node) : Pairing :=
  match n with
  | .leaf span (.marks mark count flanks) =>
    pairMarks ⟨span, mark, count, flanks⟩ (count + 1) count g
  | n => { g with slots := .node n :: g.slots }

/-- A backslash at the end of nodes ends no line. -/
def plainLastBreak (ns : List Node) : List Node :=
  match ns.getLast? with
  | some (.leaf span (.lineBreak .escaped)) => ns.dropLast ++ [.leaf span (.literal ['\\'])]
  | _ => ns

/-- Nodes in which all runs of marks are paired or plain text. -/
def resolveMarks (ns : List Node) : List Node :=
  (((plainLastBreak ns).foldl addNode {}).slots.map Slot.toNode).reverse

end Markdown
end StaticBlog
