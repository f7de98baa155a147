import StaticBlog.Json.Number
import StaticBlog.Text.Digits

/-!
# Reading JSON

- `Json.readString?` : the string at the start of a text
- `Json.readValue?` : the value at the start of a text
- `Json.parse?` : a whole text as one value

Arrays and objects may be nested less than 128 deep.
-/

namespace StaticBlog
namespace Json

/-- Drops blanks. -/
def skipBlanks (s : List Char) : List Char :=
  s.dropWhile fun c => c = ' ' || c = '\n' || c = '\t' || c = '\r'

/-! ## Strings -/

/-- The value of four hexadecimal digits. -/
def readHex4? : List Char → Option (Nat × List Char)
  | a :: b :: c :: d :: s => (Text.hexNumber? [a, b, c, d]).map (·, s)
  | _ => none

/-- Reads the character that the digits of an escape give. A character beyond the sixteen-bit range
is given by two escapes in a row, and half of such a pair gives none. -/
def readEscaped? (s : List Char) : Option (Char × List Char) := do
  let (n, s) ← readHex4? s
  if 0xD800 ≤ n && n < 0xDC00 then
    match s with
    | '\\' :: 'u' :: s => do
      let (m, s) ← readHex4? s
      if 0xDC00 ≤ m && m < 0xE000 then
        some (Char.ofNat (0x10000 + (n - 0xD800) * 0x400 + (m - 0xDC00)), s)
      else none
    | _ => none
  else if 0xDC00 ≤ n && n < 0xE000 then none
  else some (Char.ofNat n, s)

/-- The character that a short escape stands for. -/
def shortEscape? : Char → Option Char
  | '"' => some '"'
  | '\\' => some '\\'
  | '/' => some '/'
  | 'b' => some '\x08'
  | 'f' => some '\x0c'
  | 'n' => some '\n'
  | 'r' => some '\r'
  | 't' => some '\t'
  | _ => none

/-- Reads the rest of a string, its closing quote included. `fuel` bounds its length. -/
def readStringTail? : (fuel : Nat) → List Char → Option (List Char × List Char)
  | 0, _ => none
  | _, [] => none
  | fuel + 1, c :: s =>
    if c = '"' then some ([], s)
    else if c = '\\' then
      match s with
      | 'u' :: s => do
        let (d, s) ← readEscaped? s
        let (ds, s) ← readStringTail? fuel s
        some (d :: ds, s)
      | e :: s => do
        let d ← shortEscape? e
        let (ds, s) ← readStringTail? fuel s
        some (d :: ds, s)
      | [] => none
    else if c.toNat < 32 then none
    else do
      let (ds, s) ← readStringTail? fuel s
      some (c :: ds, s)

/-- Reads a string. -/
def readString? : List Char → Option (String × List Char)
  | '"' :: s => (readStringTail? (s.length + 1) s).map fun (ds, s) => (String.ofList ds, s)
  | _ => none

/-! ## Values -/

mutual

/-- Reads a value; `depth` bounds the nesting, and `fuel` the number of steps. -/
def readValueWith? : (fuel depth : Nat) → List Char → Option (Json × List Char)
  | 0, _, _ => none
  | fuel + 1, depth, s =>
    match skipBlanks s with
    | 'n' :: 'u' :: 'l' :: 'l' :: s => some (.null, s)
    | 't' :: 'r' :: 'u' :: 'e' :: s => some (.bool true, s)
    | 'f' :: 'a' :: 'l' :: 's' :: 'e' :: s => some (.bool false, s)
    | '"' :: s => (readString? ('"' :: s)).map fun (t, s) => (.string t, s)
    | '[' :: s =>
      if depth ≤ 1 then none
      else match skipBlanks s with
        | ']' :: s => some (.array [], s)
        | s => (readItems? fuel (depth - 1) s).map fun (vs, s) => (.array vs, s)
    | '\x7b' :: s =>
      if depth ≤ 1 then none
      else match skipBlanks s with
        | '\x7d' :: s => some (.object [], s)
        | s => (readMembers? fuel (depth - 1) s).map fun (ms, s) => (.object ms, s)
    | s => (readNumber? s).map fun (n, s) => (.number n, s)

/-- Reads the items of an array up to its closing bracket. -/
def readItems? : (fuel depth : Nat) → List Char → Option (List Json × List Char)
  | 0, _, _ => none
  | fuel + 1, depth, s => do
    let (v, s) ← readValueWith? fuel depth s
    match skipBlanks s with
    | ',' :: s => do
      let (vs, s) ← readItems? fuel depth s
      some (v :: vs, s)
    | ']' :: s => some ([v], s)
    | _ => none

/-- Reads the members of an object up to its closing brace. -/
def readMembers? : (fuel depth : Nat) → List Char → Option (List (String × Json) × List Char)
  | 0, _, _ => none
  | fuel + 1, depth, s => do
    let (k, s) ← readString? (skipBlanks s)
    match skipBlanks s with
    | ':' :: s => do
      let (v, s) ← readValueWith? fuel depth s
      match skipBlanks s with
      | ',' :: s => do
        let (ms, s) ← readMembers? fuel depth s
        some ((k, v) :: ms, s)
      | '\x7d' :: s => some ([(k, v)], s)
      | _ => none
    | _ => none

end

/-- Reads a value at the start of a text. -/
def readValue? (s : List Char) : Option (Json × List Char) := readValueWith? (2 * s.length + 2) 128 s

/-- A whole text as one value. The members of an object are as written, repeated ones included. -/
def parse? (text : String) : Option Json := do
  let (v, rest) ← readValue? text.toList
  if (skipBlanks rest).isEmpty then some v else none

mutual

/-- Merges repeated members of objects: the last value counts, in the place of the first. -/
def merged : Json → Json
  | .array items => .array (mergedItems items)
  | .object members => .object (Dict.ofEntries (mergedMembers members))
  | v => v

def mergedItems : List Json → List Json
  | [] => []
  | v :: vs => merged v :: mergedItems vs

def mergedMembers : List (String × Json) → List (String × Json)
  | [] => []
  | (k, v) :: ms => (k, merged v) :: mergedMembers ms

end

end Json
end StaticBlog
