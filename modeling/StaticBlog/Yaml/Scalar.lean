import StaticBlog.Text.Digits
import StaticBlog.Yaml.Cursor

/-!
# Scalars in YAML text

How the content of a scalar is read off the text, for each of its styles.

- `readQuoted?` : a scalar in quotes, single or double
- `readPlain?` : a scalar without quotes
- `readBlock?` : an indented block, kept as it is or folded
-/

namespace StaticBlog
namespace Yaml

/-- How a scalar is written. -/
inductive ScalarStyle
  | plain
  | quoted
  | literal
  | folded
  deriving DecidableEq, Repr, Inhabited

/-! ## Quoted scalars -/

/-- What a character behind a backslash stands for. -/
inductive Escape
  | char (c : Char)
  /-- So many hexadecimal digits follow. -/
  | code (digits : Nat)
  deriving DecidableEq, Repr

def escapeOf? : Char → Option Escape
  | '0' => some (.char '\x00')
  | 'a' => some (.char '\x07')
  | 'b' => some (.char '\x08')
  | 't' => some (.char '\t')
  | '\t' => some (.char '\t')
  | 'n' => some (.char '\n')
  | 'v' => some (.char '\x0b')
  | 'f' => some (.char '\x0c')
  | 'r' => some (.char '\r')
  | 'e' => some (.char '\x1b')
  | ' ' => some (.char ' ')
  | '"' => some (.char '"')
  | '/' => some (.char '/')
  | '\\' => some (.char '\\')
  | 'N' => some (.char '\u0085')
  | '_' => some (.char '\u00a0')
  | 'L' => some (.char '\u2028')
  | 'P' => some (.char '\u2029')
  | 'x' => some (.code 2)
  | 'u' => some (.code 4)
  | 'U' => some (.code 8)
  | _ => none

/-- Reads an escape, with the cursor behind the backslash. -/
def readEscape? (cur : Cursor) : Option (Char × Cursor) :=
  match cur.rest with
  | [] => none
  | e :: s =>
    match escapeOf? e with
    | none => none
    | some (.char c) => some (c, cur.skip 1)
    | some (.code n) => do
      let ds := s.take n
      if ds.length < n then none
      let c ← Text.charOf? (← Text.hexNumber? ds)
      some (c, cur.skip (n + 1))

/-- Reads a quoted scalar up to and with its closing quote. `single` tells the two quotes apart, and
`fuel` bounds the characters. -/
def readQuotedTail? (single : Bool) : (fuel : Nat) → Cursor → Option (List Char × Cursor)
  | 0, _ => none
  | fuel + 1, cur =>
    if cur.column = 0 && isDocumentMarker cur.rest then none
    else match cur.rest with
      | [] => none
      | c :: s =>
        if single && c = '\'' then
          if s.head? = some '\'' then do
            let (t, cur) ← readQuotedTail? single fuel (cur.skip 2)
            some ('\'' :: t, cur)
          else some ([], cur.skip 1)
        else if !single && c = '"' then some ([], cur.skip 1)
        else if isBlank c || isBreak c then do
          let (g, cur) ← Gap.read 0 (s.length + 1) false cur
          let (t, cur) ← readQuotedTail? single fuel cur
          some (g.folded ++ t, cur)
        else if !single && c = '\\' then
          if !s.isEmpty && endsLine s then do
            let (g, cur) ← Gap.read 0 (s.length + 1) true (cur.skip 1).skipBreak
            let (t, cur) ← readQuotedTail? single fuel cur
            some (g.breaks.flatten ++ t, cur)
          else do
            let (d, cur) ← readEscape? (cur.skip 1)
            let (t, cur) ← readQuotedTail? single fuel cur
            some (d :: t, cur)
        else do
          let (t, cur) ← readQuotedTail? single fuel (cur.skip 1)
          some (c :: t, cur)

/-- Reads a quoted scalar, with the cursor at its opening quote. -/
def readQuoted? (single : Bool) (cur : Cursor) : Option (List Char × Cursor) :=
  readQuotedTail? single (cur.rest.length + 1) (cur.skip 1)

/-! ## Plain scalars -/

/-- The characters that end a plain scalar inside brackets or braces. -/
def isFlowEnd (c : Char) : Bool := c = ',' || c = '[' || c = ']' || c = '\x7b' || c = '\x7d'

/-- Whether a plain scalar ends before the text that follows. -/
def endsPlain (inFlow : Bool) : List Char → Bool
  | [] => true
  | c :: s => endsWord (c :: s) || (c = ':' && endsWord s) || (inFlow && isFlowEnd c)

/-- Whether a colon stands where brackets or braces do not allow one. -/
def isStrayColon (inFlow : Bool) : List Char → Bool
  | ':' :: c :: _ => inFlow && (isFlowEnd c || c = '?')
  | _ => false

/-- Reads the characters of a plain scalar up to the next gap. -/
def readPlainRun? (inFlow : Bool) : (fuel : Nat) → Cursor → Option (List Char × Cursor)
  | 0, cur => some ([], cur)
  | fuel + 1, cur =>
    if isStrayColon inFlow cur.rest then none
    else if endsPlain inFlow cur.rest then some ([], cur)
    else match cur.rest with
      | [] => some ([], cur)
      | c :: _ => do
        let (t, cur) ← readPlainRun? inFlow fuel (cur.skip 1)
        some (c :: t, cur)

/-- Reads a plain scalar from a place where characters of it may stand. `before` is the gap in front
of that place. The result tells whether the scalar is followed by a line break. -/
def readPlainFrom? (inFlow : Bool) (minColumn : Nat) :
    (fuel : Nat) → (before : Gap) → Cursor → Option (List Char × Bool × Cursor)
  | 0, before, cur => some ([], before.isMultiline, cur)
  | fuel + 1, before, cur =>
    if (cur.column = 0 && isDocumentMarker cur.rest) || cur.rest.head? = some '#' then
      some ([], before.isMultiline, cur)
    else do
      let (run, next) ← readPlainRun? inFlow (cur.rest.length + 1) cur
      let text := if run.isEmpty then [] else before.folded ++ run
      let pending := if run.isEmpty then before else {}
      match next.rest with
      | c :: _ =>
        if isBlank c || isBreak c then
          let (g, after) ← Gap.read minColumn (next.rest.length + 1) pending.isMultiline next
          if !inFlow && after.column < minColumn then some (text, g.isMultiline, after)
          else do
            let (t, multiline, cur) ← readPlainFrom? inFlow minColumn fuel g after
            some (text ++ t, multiline, cur)
        else some (text, pending.isMultiline, next)
      | [] => some (text, pending.isMultiline, next)

/-- Reads a plain scalar. `indent` is the indentation of the collection around it. -/
def readPlain? (inFlow : Bool) (indent : Int) (cur : Cursor) : Option (List Char × Bool × Cursor) :=
  readPlainFrom? inFlow (indent + 1).toNat (cur.rest.length + 1) {} cur

/-! ## Block scalars -/

/-- What becomes of the line breaks at the end of a block. -/
inductive Chomping
  | strip
  | clip
  | keep
  deriving DecidableEq, Repr, Inhabited

/-- The header of a block: chomping and the indentation that it states. -/
structure BlockHeader where
  chomping : Chomping := .clip
  increment : Option Nat := none
  deriving DecidableEq, Repr, Inhabited

def chompingOf? (c : Char) : Option Chomping :=
  if c = '+' then some .keep else if c = '-' then some .strip else none

/-- Reads the header of a block. -/
def readBlockHeader? (cur : Cursor) : Option (BlockHeader × Cursor) :=
  match cur.rest with
  | a :: s =>
    match chompingOf? a with
    | some chomping =>
      match s with
      | b :: _ =>
        if b.isDigit then
          if b = '0' then none
          else some (⟨chomping, some (b.toNat - 0x30)⟩, cur.skip 2)
        else some (⟨chomping, none⟩, cur.skip 1)
      | [] => some (⟨chomping, none⟩, cur.skip 1)
    | none =>
      if a.isDigit then
        if a = '0' then none
        else match s.head?.bind chompingOf? with
          | some chomping => some (⟨chomping, some (a.toNat - 0x30)⟩, cur.skip 2)
          | none => some (⟨.clip, some (a.toNat - 0x30)⟩, cur.skip 1)
      else some ({}, cur)
  | [] => some ({}, cur)

/-- Passes the rest of a line that may hold blanks and a comment. -/
def skipLineEnd? (cur : Cursor) : Option Cursor :=
  let cur := cur.skipWhile isBlank
  let cur := if cur.rest.head? = some '#' then cur.skipWhile (!isBreak ·) else cur
  if endsLine cur.rest then some cur.skipBreak else none

/-- Passes the indentation and empty lines of a block. `indent` is its indentation if that is known,
and `deepest` the deepest column reached so far. The result holds the line breaks passed. -/
def skipBlockBreaks? (indent : Option Nat) :
    (fuel : Nat) → (deepest : Nat) → Cursor → Option (List (List Char) × Nat × Cursor)
  | 0, deepest, cur => some ([], deepest, cur)
  | fuel + 1, deepest, cur =>
    let spaces := (cur.rest.takeWhile (· = ' ')).length
    let cur := cur.skip (match indent with
      | some n => min spaces (n - cur.column)
      | none => spaces)
    let deepest := max deepest cur.column
    let isShallow := match indent with
      | some n => cur.column < n
      | none => true
    if isShallow && cur.rest.head? = some '\t' then none
    else if !cur.rest.isEmpty && endsLine cur.rest then do
      let (breaks, deepest, next) ← skipBlockBreaks? indent fuel deepest cur.skipBreak
      some (cur.breakText :: breaks, deepest, next)
    else some ([], deepest, cur)

/-- Reads the lines of a block. `lead` is the break of the line before, `breaks` those of the empty
lines since then, and `leadBlank` says whether that line began with a blank. The result holds what
is left of the breaks at the end. -/
def readBlockLines? (literal : Bool) (indent : Nat) :
    (fuel : Nat) → (lead : List Char) → (breaks : List (List Char)) → (leadBlank : Bool) → Cursor →
      Option (List Char × List Char × List (List Char) × Cursor)
  | 0, lead, breaks, _, cur => some ([], lead, breaks, cur)
  | fuel + 1, lead, breaks, leadBlank, cur =>
    if cur.column ≠ indent || cur.rest.isEmpty then some ([], lead, breaks, cur)
    else do
      let blank := (cur.rest.head?.map isBlank).getD false
      let joint :=
        if !literal && lead = ['\n'] && !leadBlank && !blank then
          (if breaks.isEmpty then [' '] else []) ++ breaks.flatten
        else lead ++ breaks.flatten
      let (line, cur) := cur.span (!isBreak ·)
      let lead := cur.breakText
      let (breaks, _, cur) ←
        skipBlockBreaks? (some indent) (cur.rest.length + 1) 0 cur.skipBreak
      let (t, lead, breaks, cur) ← readBlockLines? literal indent fuel lead breaks blank cur
      some (joint ++ line ++ t, lead, breaks, cur)

/-- Reads a block, with the cursor behind its mark. `outer` is the indentation of the collection
around it. -/
def readBlock? (literal : Bool) (outer : Int) (cur : Cursor) : Option (List Char × Cursor) := do
  let (header, cur) ← readBlockHeader? cur
  let cur ← skipLineEnd? cur
  let stated := header.increment.map fun n => (max outer 0).toNat + n
  let (breaks, deepest, cur) ← skipBlockBreaks? stated (cur.rest.length + 1) 0 cur
  let indent := stated.getD (max (max deepest (outer + 1).toNat) 1)
  let (text, lead, breaks, cur) ←
    readBlockLines? literal indent (cur.rest.length + 1) [] breaks false cur
  some (match header.chomping with
    | .strip => (text, cur)
    | .clip => (text ++ lead, cur)
    | .keep => (text ++ lead ++ breaks.flatten, cur))

end Yaml
end StaticBlog
