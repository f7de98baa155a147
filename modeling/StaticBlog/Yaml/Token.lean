import StaticBlog.Yaml.Scalar
import StaticBlog.Yaml.Tag

/-!
# YAML tokens

- `Token` : what a YAML text consists of, the ends of indented collections included
- `Token.scan?` : the tokens of a text

A key is recognised when the colon behind it is reached; until then the place where a key may have
started is remembered, once for each level of brackets.
-/

namespace StaticBlog
namespace Yaml

/-- A token of a YAML text. -/
inductive Token
  | directive (directive : Directive)
  | documentStart
  | documentEnd
  | blockSequenceStart
  | blockMappingStart
  | blockEnd
  | flowSequenceStart
  | flowSequenceEnd
  | flowMappingStart
  | flowMappingEnd
  | blockEntry
  | flowEntry
  | key
  | value
  | alias (name : String)
  | anchor (name : String)
  | tag (tag : TagText)
  | scalar (text : List Char) (style : ScalarStyle)
  | streamEnd
  deriving DecidableEq, Repr, Inhabited

/-- A place where a key may have started. -/
structure KeyStart where
  /-- Whether there must be a key, because a mapping goes on here. -/
  required : Bool
  /-- The number of tokens before it. -/
  number : Nat
  index : Nat
  line : Nat
  column : Nat
  deriving DecidableEq, Repr, Inhabited

/-- The state of the scanner. -/
structure ScanState where
  cursor : Cursor
  /-- The tokens so far, in order. -/
  tokens : List Token := []
  /-- The column of the innermost indented collection. -/
  indent : Int := -1
  /-- The columns of those around it. -/
  outer : List Int := []
  /-- Whether a key may start here. -/
  keyAllowed : Bool := true
  /-- The possible key of the innermost level of brackets. -/
  keyStart : Option KeyStart := none
  /-- Those of the levels around it. -/
  outerKeys : List (Option KeyStart) := []
  deriving Inhabited

namespace ScanState

/-- Whether brackets or braces are open. -/
def inFlow (s : ScanState) : Bool := !s.outerKeys.isEmpty

def push (s : ScanState) (t : Token) : ScanState := { s with tokens := s.tokens ++ [t] }

/-- Puts a token in front of those from a number on. -/
def insertAt (s : ScanState) (n : Nat) (t : Token) : ScanState :=
  { s with tokens := s.tokens.take n ++ t :: s.tokens.drop n }

def moveTo (s : ScanState) (cur : Cursor) : ScanState := { s with cursor := cur }

/-! ## Keys -/

/-- The longest distance between the start of a key and its colon. -/
def maxKeyLength : Nat := 1024

/-- Gives up a possible key that has become too long or whose line has ended. It is an error if
there must be a key. -/
def dropStale (cur : Cursor) (k : Option KeyStart) : Option (Option KeyStart) :=
  match k with
  | none => some none
  | some k =>
    if k.line < cur.line || k.index + maxKeyLength < cur.index then
      if k.required then none else some none
    else some (some k)

def dropStaleKeys (s : ScanState) : Option ScanState := do
  let k ← dropStale s.cursor s.keyStart
  let ks ← s.outerKeys.mapM (dropStale s.cursor)
  some { s with keyStart := k, outerKeys := ks }

/-- Gives up the possible key of the innermost level. -/
def removeKey (s : ScanState) : Option ScanState :=
  match s.keyStart with
  | some k => if k.required then none else some { s with keyStart := none }
  | none => some s

/-- Notes that a key may start here. -/
def saveKey (s : ScanState) : Option ScanState :=
  if s.keyAllowed then do
    let s ← s.removeKey
    some { s with
      keyStart := some
        { required := !s.inFlow && s.indent = s.cursor.column, number := s.tokens.length,
          index := s.cursor.index, line := s.cursor.line, column := s.cursor.column } }
  else some s

/-! ## Indentation -/

/-- Opens an indented collection at a column, if that is deeper than the innermost one. Its token
goes in front of those from a number on. -/
def roll (s : ScanState) (column : Nat) (number : Nat) (t : Token) : ScanState :=
  if s.inFlow || (column : Int) ≤ s.indent then s
  else { s.insertAt number t with indent := column, outer := s.indent :: s.outer }

/-- Closes the indented collections deeper than a column. -/
def unrollFrom (column : Int) : List Int → Int → List Token → List Token × Int × List Int
  | [], indent, ts => (ts, indent, [])
  | o :: outer, indent, ts =>
    if column < indent then unrollFrom column outer o (ts ++ [.blockEnd]) else (ts, indent, o :: outer)

def unroll (s : ScanState) (column : Int) : ScanState :=
  if s.inFlow then s
  else
    let (ts, indent, outer) := unrollFrom column s.outer s.indent s.tokens
    { s with tokens := ts, indent, outer }

/-! ## Blanks -/

/-- Passes blanks, comments and line breaks. Outside of brackets a line break allows a key, and a
tab may not stand where a key may start. -/
def skipBlanks : (fuel : Nat) → ScanState → ScanState
  | 0, s => s
  | fuel + 1, s =>
    let cur := s.cursor
    let cur := if cur.column = 0 && cur.rest.head? = some '\ufeff' then cur.skip 1 else cur
    let cur := cur.skipWhile fun c => c = ' ' || (c = '\t' && (s.inFlow || !s.keyAllowed))
    let cur := if cur.rest.head? = some '#' then cur.skipWhile (!isBreak ·) else cur
    if !cur.rest.isEmpty && endsLine cur.rest then
      skipBlanks fuel { s with cursor := cur.skipBreak, keyAllowed := s.keyAllowed || !s.inFlow }
    else s.moveTo cur

/-! ## Single tokens -/

/-- A token of one character that no key may start in front of. -/
def mark (s : ScanState) (keyAllowed : Bool) (t : Token) : Option ScanState := do
  let s ← s.removeKey
  some { (s.moveTo (s.cursor.skip 1)).push t with keyAllowed }

def openFlow (s : ScanState) (t : Token) : Option ScanState := do
  let s ← s.saveKey
  some { (s.moveTo (s.cursor.skip 1)).push t with
    keyAllowed := true, keyStart := none, outerKeys := s.keyStart :: s.outerKeys }

def closeFlow (s : ScanState) (t : Token) : Option ScanState := do
  let s ← s.removeKey
  let s := match s.outerKeys with
    | k :: ks => { s with keyStart := k, outerKeys := ks }
    | [] => s
  some { (s.moveTo (s.cursor.skip 1)).push t with keyAllowed := false }

def blockEntry (s : ScanState) : Option ScanState :=
  if s.inFlow then s.mark true .blockEntry
  else if s.keyAllowed then
    (s.roll s.cursor.column s.tokens.length .blockSequenceStart).mark true .blockEntry
  else none

def explicitKey (s : ScanState) : Option ScanState :=
  if s.inFlow then s.mark false .key
  else if s.keyAllowed then
    (s.roll s.cursor.column s.tokens.length .blockMappingStart).mark true .key
  else none

def value (s : ScanState) : Option ScanState :=
  match s.keyStart with
  | some k =>
    let s := (s.insertAt k.number .key).roll k.column k.number .blockMappingStart
    some { (s.moveTo (s.cursor.skip 1)).push .value with keyStart := none, keyAllowed := false }
  | none =>
    if s.inFlow then
      some { (s.moveTo (s.cursor.skip 1)).push .value with keyAllowed := false }
    else if s.keyAllowed then
      let s := s.roll s.cursor.column s.tokens.length .blockMappingStart
      some { (s.moveTo (s.cursor.skip 1)).push .value with keyAllowed := true }
    else none

def documentMarker (s : ScanState) (t : Token) : Option ScanState := do
  let s ← (s.unroll (-1)).removeKey
  some { (s.moveTo (s.cursor.skip 3)).push t with keyAllowed := false }

def directive (s : ScanState) : Option ScanState := do
  let s ← (s.unroll (-1)).removeKey
  let (d, cur) ← readDirective? (s.cursor.skip 1)
  some { (s.moveTo cur).push (.directive d) with keyAllowed := false }

/-- A token that a key may start with, and that a key may not start right behind. -/
def keyToken (s : ScanState) (read : Cursor → Option (Token × Cursor)) : Option ScanState := do
  let s ← s.saveKey
  let (t, cur) ← read s.cursor
  some { (s.moveTo cur).push t with keyAllowed := false }

def plainScalar (s : ScanState) : Option ScanState := do
  let s ← s.saveKey
  let (t, multiline, cur) ← readPlain? s.inFlow s.indent s.cursor
  some { (s.moveTo cur).push (.scalar t .plain) with keyAllowed := multiline }

def blockScalar (s : ScanState) (literal : Bool) : Option ScanState := do
  let s ← s.removeKey
  let (t, cur) ← readBlock? literal s.indent (s.cursor.skip 1)
  let style := if literal then ScalarStyle.literal else .folded
  some { (s.moveTo cur).push (.scalar t style) with keyAllowed := true }

def endStream (s : ScanState) : Option ScanState := do
  let s ← (s.unroll (-1)).removeKey
  some { s.push .streamEnd with keyAllowed := false }

/-! ## Choosing the token -/

/-- The characters that no plain scalar starts with, whatever follows. -/
def isIndicator (c : Char) : Bool := "-?:,[]\x7b\x7d#&*!|>'\"%@`".toList.contains c

/-- Whether a plain scalar starts here. -/
def startsPlain (inFlow : Bool) : List Char → Bool
  | [] => false
  | c :: s =>
    !(endsWord [c] || isIndicator c) || (c = '-' && !((s.head?.map isBlank).getD false))
      || (!inFlow && (c = '?' || c = ':') && !endsWord s)

/-- Reads the next token, with the cursor at its first character. -/
def token (s : ScanState) (c : Char) (rest : List Char) : Option ScanState :=
  if s.cursor.column = 0 && c = '%' then s.directive
  else if s.cursor.column = 0 && isMarkerLine '-' (c :: rest) then s.documentMarker .documentStart
  else if s.cursor.column = 0 && isMarkerLine '.' (c :: rest) then s.documentMarker .documentEnd
  else if c = '[' then s.openFlow .flowSequenceStart
  else if c = '\x7b' then s.openFlow .flowMappingStart
  else if c = ']' then s.closeFlow .flowSequenceEnd
  else if c = '\x7d' then s.closeFlow .flowMappingEnd
  else if c = ',' then s.mark true .flowEntry
  else if c = '-' && endsWord rest then s.blockEntry
  else if c = '?' && (s.inFlow || endsWord rest) then s.explicitKey
  else if c = ':' && (s.inFlow || endsWord rest) then s.value
  else if c = '*' then
    s.keyToken fun cur => (readAnchorName? (cur.skip 1)).map fun (n, cur) => (.alias n, cur)
  else if c = '&' then
    s.keyToken fun cur => (readAnchorName? (cur.skip 1)).map fun (n, cur) => (.anchor n, cur)
  else if c = '!' then
    s.keyToken fun cur => (readTag? s.inFlow cur).map fun (t, cur) => (.tag t, cur)
  else if c = '|' && !s.inFlow then s.blockScalar true
  else if c = '>' && !s.inFlow then s.blockScalar false
  else if c = '\'' then
    s.keyToken fun cur => (readQuoted? true cur).map fun (t, cur) => (.scalar t .quoted, cur)
  else if c = '"' then
    s.keyToken fun cur => (readQuoted? false cur).map fun (t, cur) => (.scalar t .quoted, cur)
  else if startsPlain s.inFlow (c :: rest) then s.plainScalar
  else none

/-- Reads tokens up to the end of the text. `fuel` bounds their number. -/
def scan : (fuel : Nat) → ScanState → Option (List Token)
  | 0, _ => none
  | fuel + 1, s => do
    let s := s.skipBlanks (s.cursor.rest.length + 1)
    let s ← s.dropStaleKeys
    let s := s.unroll s.cursor.column
    match s.cursor.rest with
    | [] => (ScanState.endStream s).map (·.tokens)
    | c :: rest => do
      let s ← s.token c rest
      scan fuel s

end ScanState

/-- The tokens of a text, if it is made of tokens. A byte-order mark in front does not count. -/
def Token.scan? (text : List Char) : Option (List Token) :=
  let text := match text with
    | '\ufeff' :: s => s
    | s => s
  if text.all isAllowed then ScanState.scan (text.length + 1) { cursor := { rest := text } }
  else none

end Yaml
end StaticBlog
