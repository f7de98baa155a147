import StaticBlog.Text.Lines
import StaticBlog.Toml.Moment
import StaticBlog.Toml.Number
import StaticBlog.Toml.Value

/-!
# TOML texts

- `readKey?` : a dotted key
- `readValue?` : a value
- `Toml.parse?` : the entries of a text
-/

namespace StaticBlog
namespace Toml

/-- The number of keys in a dotted key, and the depth of nested values, stay below this. -/
def nestingLimit : Nat := 80

/-! ## Keys -/

def isKeyChar (c : Char) : Bool := c.isAlphanum || c = '_' || c = '-'

/-- Reads a key without dots. -/
def readSimpleKey? (s : List Char) : Option (String × List Char) :=
  match s with
  | [] => none
  | c :: _ =>
    if c = '"' || c = '\'' then (readLine? s).map fun (k, s) => (String.ofList k, s)
    else
      let k := s.takeWhile isKeyChar
      if k.isEmpty then none else some (String.ofList k, s.drop k.length)

def readKeys? : (fuel : Nat) → List Char → Option (List String × List Char)
  | 0, _ => none
  | fuel + 1, s => do
    let (k, s) ← readSimpleKey? (skipSpaces s)
    match skipSpaces s with
    | '.' :: s => (readKeys? fuel s).map fun (ks, s) => (k :: ks, s)
    | s => some ([k], s)

/-- Reads a dotted key, with the blanks around it: all its parts but the last one, and that one. -/
def readKey? (s : List Char) : Option ((List String × String) × List Char) := do
  let (ks, s) ← readKeys? s.length s
  if nestingLimit ≤ ks.length then none
  else some ((ks.dropLast, ← ks.getLast?), s)

/-! ## Values -/

/-- Drops a comment. -/
def skipComment (s : List Char) : List Char :=
  match s with
  | '#' :: rest => rest.dropWhile isPlain
  | s => s

/-- Drops blanks, line breaks and comments. -/
def skipGaps : (fuel : Nat) → List Char → List Char
  | 0, s => s
  | fuel + 1, s =>
    match skipSpaces s with
    | '#' :: rest =>
      match afterBreak? (rest.dropWhile isPlain) with
      | some rest => skipGaps fuel rest
      | none => '#' :: rest
    | s =>
      match afterBreak? s with
      | some rest => skipGaps fuel rest
      | none => s

/-- Reads a date, a time or a number. -/
def readFigure? (s : List Char) : Option (Toml × List Char) :=
  match readMoment? s with
  | some (text, s) => some (.moment (String.ofList text), s)
  | none =>
    match readFloat? s with
    | some (x, s) => some (.float x, s)
    | none => (readInteger? s).map fun (n, s) => (.integer n, s)

mutual

/-- Reads a value; `depth` bounds the nesting, and `fuel` the number of steps. -/
def readValueWith? : (fuel depth : Nat) → List Char → Option (Toml × List Char)
  | 0, _, _ => none
  | fuel + 1, depth, s =>
    match s with
    | 't' :: 'r' :: 'u' :: 'e' :: s => some (.boolean true, s)
    | 'f' :: 'a' :: 'l' :: 's' :: 'e' :: s => some (.boolean false, s)
    | '[' :: s =>
      if depth ≤ 1 then none
      else (readItems? fuel (depth - 1) s).map fun (vs, s) => (.array vs, s)
    | '\x7b' :: s =>
      if depth ≤ 1 then none
      else match skipSpaces s with
        | '\x7d' :: s => some (.table [], s)
        | s => (readEntries? fuel (depth - 1) [] s).map fun (es, s) =>
          (.table (Item.entriesToToml es), s)
    | c :: _ =>
      if c = '"' || c = '\'' then
        (readText? s).map fun (t, s) => (.string (String.ofList t), s)
      else readFigure? s
    | [] => none

/-- Reads the items of an array up to its closing bracket. -/
def readItems? : (fuel depth : Nat) → List Char → Option (List Toml × List Char)
  | 0, _, _ => none
  | fuel + 1, depth, s =>
    match skipGaps s.length s with
    | ']' :: s => some ([], s)
    | s => do
      let (v, s) ← readValueWith? fuel depth s
      match skipGaps s.length s with
      | ',' :: s => do
        let (vs, s) ← readItems? fuel depth s
        some (v :: vs, s)
      | ']' :: s => some ([v], s)
      | _ => none

/-- Reads the entries of a table on one line up to its closing brace. -/
def readEntries? : (fuel depth : Nat) → Item.Entries → List Char → Option (Item.Entries × List Char)
  | 0, _, _, _ => none
  | fuel + 1, depth, es, s => do
    let ((path, key), s) ← readKey? s
    match s with
    | '=' :: s => do
      let (v, s) ← readValueWith? fuel depth (skipSpaces s)
      let es ← Item.put? es path key v
      match skipSpaces s with
      | ',' :: s => readEntries? fuel depth es s
      | '\x7d' :: s => some (es, s)
      | _ => none
    | _ => none

end

/-- Reads a value. -/
def readValue? (s : List Char) : Option (Toml × List Char) :=
  readValueWith? (2 * s.length + 2) nestingLimit s

/-! ## Lines -/

/-- A table that is being filled. -/
structure OpenTable where
  /-- The key in the header of the table; there is none for the first entries. -/
  header : Option (List String × String) := none
  isArray : Bool := false
  entries : Item.Entries := []

/-- The finished tables, and the one that is being filled. -/
structure Reading where
  root : Item.Entries := []
  current : OpenTable := {}

namespace Reading

/-- The table under a key of its own: it comes last among the entries. -/
def close (key : String) (filled es : Item.Entries) : Item.Entries :=
  es.filter (fun (k, _) => k ≠ key) ++ [(key, .table false false filled)]

/-- One more table for the array under a key. -/
def closeArray? (key : String) (filled es : Item.Entries) : Option Item.Entries :=
  match es.get? key with
  | none => some (es.insert key (.tables [filled]))
  | some (.tables all) => some (es.insert key (.tables (filled :: all)))
  | some _ => none

/-- All entries, the table that is being filled among them. -/
def finish? (r : Reading) : Option Item.Entries :=
  match r.current.header with
  | none => some r.current.entries
  | some (path, key) =>
    Item.descend? false
      (fun _ es =>
        if r.current.isArray then closeArray? key r.current.entries es
        else some (close key r.current.entries es))
      path false r.root

/-- What a new table begins with: the entries that longer keys in headers have given it. A table has
one header only. -/
def initial? (isArray : Bool) (key : String) (es : Item.Entries) : Option Item.Entries :=
  match es.get? key, isArray with
  | none, _ => some []
  | some (.tables _), true => some []
  | some (.table true false inner), false => some inner
  | some _, _ => none

/-- Begins the table with a header. -/
def start? (isArray : Bool) (path : List String) (key : String) (r : Reading) : Option Reading := do
  let root ← r.finish?
  let entries ← initial? isArray key (← Item.entriesAt? path root)
  return ⟨root, ⟨some (path, key), isArray, entries⟩⟩

/-- Puts a value into the table that is being filled. -/
def put? (path : List String) (key : String) (v : Toml) (r : Reading) : Option Reading := do
  let entries ← Item.put? r.current.entries path key v
  return { r with current := { r.current with entries := entries } }

/-- Reads the header of a table, a header of an array, or an entry. -/
def readStatement? (r : Reading) : List Char → Option (Reading × List Char)
  | '[' :: '[' :: s => do
    let ((path, key), s) ← readKey? s
    match s with
    | ']' :: ']' :: s => return (← r.start? true path key, s)
    | _ => none
  | '[' :: s => do
    let ((path, key), s) ← readKey? s
    match s with
    | ']' :: s => return (← r.start? false path key, s)
    | _ => none
  | s => do
    let ((path, key), s) ← readKey? s
    match s with
    | '=' :: s =>
      let (v, s) ← readValue? (skipSpaces s)
      return (← r.put? path key v, s)
    | _ => none

/-- Reads a line: nothing, a comment, or a statement with a comment or without. -/
def readLine? (r : Reading) (s : List Char) : Option (Reading × List Char) :=
  match skipSpaces s with
  | [] => some (r, [])
  | c :: s =>
    if c = '#' || Text.isLineBreak c then some (r, c :: s) else r.readStatement? (c :: s)

/-- Reads all lines. `fuel` bounds their number. -/
def readLines? : (fuel : Nat) → Reading → List Char → Option Reading
  | 0, _, _ => none
  | fuel + 1, r, s => do
    let (r, s) ← r.readLine? s
    match skipComment (skipSpaces s) with
    | [] => some r
    | s => readLines? fuel r (← afterBreak? s)

end Reading

/-- The entries of a text. -/
def parse? (text : String) : Option Toml := do
  let s := Text.dropByteOrderMark text.toList
  let r ← Reading.readLines? (s.length + 1) {} s
  return .table (Item.entriesToToml (← r.finish?))

end Toml
end StaticBlog
