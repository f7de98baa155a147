import StaticBlog.Markdown.Entity
import StaticBlog.Text.LetterCase

/-!
# Definitions of links

- `readLabel?` : a label, which may go on in other lines
- `readDestination?` : the address that a link leads to
- `Definition` : a link that other places of a document refer to
- `readDefinition?` : a definition at the start of a paragraph
-/

namespace StaticBlog
namespace Markdown

/-! ## Labels -/

/-- The number of characters that a label has at most. -/
def labelLimit : Nat := 999

/-- Passes the blanks between two words of a label, among which there is at most one line break.
`next` gives what of the next line may belong to the label. -/
def skipLabelGap? (next : List Char → Option (List Char)) (s : List Char) : Option (List Char) :=
  let s := skipSpaces s
  match breakLength? s with
  | some (n + 1) => do
    let s := skipSpaces (← next (s.drop (n + 1)))
    match breakLength? s with
    | some (_ + 1) => none
    | _ => some s
  | _ => some s

/-- Reads the rest of a label as it is written, its closing bracket included. Blanks in a row are
one blank. `fuel` bounds the length. -/
def readLabelTail? (inTable : Bool) (next : List Char → Option (List Char)) :
    (fuel : Nat) → List Char → Option Reading
  | 0, _ => none
  | _, [] => none
  | fuel + 1, c :: s =>
    let go (t : List Char) (rest : List Char) : Option Reading :=
      (readLabelTail? inTable next fuel rest).map (Reading.prepend t)
    if c = '[' then none
    else if c = ']' then some ([], s)
    else if isSpace c || isBreak c then (skipLabelGap? next (c :: s)).bind (go [' '])
    else if c = '\\' then
      match s with
      | [] => none
      | d :: t =>
        if inTable && d = '|' then go [d] t
        else if inTable && d = '\\' && t.head? = some '|' then go ['\\', '|'] (t.drop 1)
        else go [c, d] t
    else go [c] s

/-- Reads a label after its opening bracket. There must be more in it than blanks. -/
def readLabel? (inTable : Bool) (next : List Char → Option (List Char)) (s : List Char) :
    Option Reading := do
  let (raw, rest) ← readLabelTail? inTable next (s.length + 1) s
  let label := Text.dropBoth (· = ' ') raw
  if label.isEmpty || labelLimit < s.length - rest.length - 1 then none else some (label, rest)

/-- What is compared when two labels are: letters of either case are the same. -/
def labelKey (label : List Char) : List Char := Text.fold label

/-! ## Destinations -/

/-- Reads the rest of a destination between angle brackets. -/
def readPointed? : List Char → Option Reading
  | [] => none
  | '>' :: s => some ([], s)
  | '\\' :: c :: s =>
    if Text.isAsciiPunctuation c then (readPointed? s).map (Reading.prepend ['\\', c])
    else if isBreak c then none
    else (readPointed? s).map (Reading.prepend ['\\', c])
  | c :: s => if isBreak c || c = '<' then none else (readPointed? s).map (Reading.prepend [c])

/-- Reads a destination without angle brackets, in which parentheses are in pairs. `opened` counts
the pairs that are not complete, and there are at most `most` and one more. -/
def readBare? (most : Nat) : (opened : Nat) → List Char → Option Reading
  | opened, [] => if opened = 0 then some ([], []) else none
  | opened, '\\' :: c :: s =>
    if Text.isAsciiPunctuation c then (readBare? most opened s).map (Reading.prepend ['\\', c])
    else (readBare? most opened (c :: s)).map (Reading.prepend ['\\'])
  | opened, c :: s =>
    if c.toNat ≤ 0x20 then if opened = 0 then some ([], c :: s) else none
    else if c = '(' then
      if most < opened then none else (readBare? most (opened + 1) s).map (Reading.prepend [c])
    else if c = ')' then
      match opened with
      | 0 => some ([], c :: s)
      | opened + 1 => (readBare? most opened s).map (Reading.prepend [c])
    else (readBare? most opened s).map (Reading.prepend [c])

/-- Reads the destination of a link. -/
def readDestination? (inTable : Bool) (most : Nat) (s : List Char) : Option Reading :=
  let raw := match s with
    | '<' :: s => readPointed? s
    | s => readBare? most 0 s
  raw.map fun (t, rest) => (unescape inTable t, rest)

/-- The character that ends a title which the given one begins. -/
def titleEnd? (c : Char) : Option Char :=
  if c = '"' || c = '\'' then some c else if c = '(' then some ')' else none

/-! ## Titles -/

/-- Reads the rest of the title of a definition as it is written, except that lines lose the blanks
before them. `fuel` bounds the length. -/
def readTitleTail? (next : List Char → Option (List Char)) (opening closing : Char) :
    (fuel : Nat) → List Char → Option Reading
  | 0, _ => none
  | _, [] => none
  | fuel + 1, c :: s =>
    let go (t : List Char) (rest : List Char) : Option Reading :=
      (readTitleTail? next opening closing fuel rest).map (Reading.prepend t)
    if c = closing then some ([], s)
    else if c = opening then none
    else match breakLength? (c :: s) with
      | some n => do
        let rest ← next ((c :: s).drop n)
        go ['\n'] (rest.dropWhile fun d => d = ' ' || d = '\t')
      | none =>
        match s with
        | d :: t => if c = '\\' && Text.isAsciiPunctuation d then go [c, d] t else go [c] s
        | [] => none

/-- Reads the title of a definition. -/
def readTitle? (next : List Char → Option (List Char)) : List Char → Option Reading
  | [] => none
  | c :: s => do
    let (t, rest) ← readTitleTail? next c (← titleEnd? c) (s.length + 1) s
    some (unescape false t, rest)

/-! ## Definitions -/

/-- A link that other places refer to by its label. -/
structure Definition where
  label : List Char
  destination : List Char
  title : List Char
  deriving DecidableEq, Repr

/-- Passes blanks and at most one line break among them; it is told whether there was one. -/
def skipGap? (next : List Char → Option (List Char)) (s : List Char) : Option (Bool × List Char) :=
  let s := skipSpaces s
  match breakLength? s with
  | some (n + 1) => do
    let s := skipSpaces (← next (s.drop (n + 1)))
    match breakLength? s with
    | some (_ + 1) => none
    | _ => some (true, s)
  | _ => some (false, s)

/-- Whether only blanks come before the end of the line. -/
def endsLine (s : List Char) : Bool := (breakLength? (skipSpaces s)).isSome

/-- The title after the destination of a definition, and what follows it. What is no title in a line
of its own does not belong to the definition. -/
def readDefinitionEnd? (next : List Char → Option (List Char)) (s : List Char) : Option Reading :=
  match skipGap? next s with
  | none => some ([], s)
  | some (broken, rest) =>
    let untitled : Option Reading := if broken || rest.isEmpty then some ([], s) else none
    if rest.length = s.length then untitled
    else match readTitle? next rest with
      | some (title, after) => if endsLine after then some (title, after) else untitled
      | none => untitled

/-- Reads a definition at the start of a paragraph. -/
def readDefinition? (next : List Char → Option (List Char)) :
    List Char → Option (Definition × List Char)
  | '[' :: s => do
    let (label, rest) ← readLabel? false next s
    match rest with
    | ':' :: rest =>
      let (_, start) ← skipGap? next rest
      let (destination, rest) ← readDestination? false 1 start
      if rest.length = start.length then none
      else
        let (title, rest) ← readDefinitionEnd? next rest
        some (⟨labelKey label, destination, title⟩, rest)
    | _ => none
  | _ => none

end Markdown
end StaticBlog
