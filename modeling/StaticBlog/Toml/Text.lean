import StaticBlog.Text.Digits
import StaticBlog.Text.Search

/-!
# Strings of TOML

- `readText?` : a string of any of the four kinds
- `readLine?` : a string of one line, as it may stand for a key
-/

namespace StaticBlog
namespace Toml

/-- A character that may stand in a comment and, quotes and backslashes apart, in a string. -/
def isPlain (c : Char) : Bool := c = '\t' || (0x20 ≤ c.toNat && c.toNat ≠ 0x7f)

/-- A blank within a line. -/
def isSpace (c : Char) : Bool := c = ' ' || c = '\t'

def skipSpaces (s : List Char) : List Char := s.dropWhile isSpace

/-- What follows a line break, if there is one. -/
def afterBreak? : List Char → Option (List Char)
  | '\n' :: s => some s
  | '\r' :: '\n' :: s => some s
  | _ => none

/-- Drops blanks and line breaks. -/
def skipLines : (fuel : Nat) → List Char → List Char
  | 0, s => s
  | fuel + 1, s =>
    match afterBreak? (skipSpaces s) with
    | some rest => skipLines fuel rest
    | none => skipSpaces s

/-! ## Escapes -/

/-- Reads a character that is given by so many hexadecimal digits. -/
def readCode? (count : Nat) (s : List Char) : Option (Char × List Char) := do
  let ds := s.take count
  let c ← Text.charOf? (← Text.hexNumber? ds)
  if ds.length = count then some (c, s.drop count) else none

/-- Reads what follows a backslash. -/
def readEscape? : List Char → Option (Char × List Char)
  | 'b' :: s => some ('\x08', s)
  | 't' :: s => some ('\t', s)
  | 'n' :: s => some ('\n', s)
  | 'f' :: s => some ('\x0c', s)
  | 'r' :: s => some ('\r', s)
  | '"' :: s => some ('"', s)
  | '\\' :: s => some ('\\', s)
  | 'u' :: s => readCode? 4 s
  | 'U' :: s => readCode? 8 s
  | _ => none

/-! ## Strings of one line -/

/-- Reads the rest of a string between single quotes. Nothing is escaped in it. -/
def readLiteralTail? : List Char → Option (List Char × List Char)
  | [] => none
  | c :: s =>
    if c = '\'' then some ([], s)
    else if isPlain c then (readLiteralTail? s).map fun (t, s) => (c :: t, s)
    else none

/-- Reads the rest of a string between double quotes. -/
def readBasicTail? : (fuel : Nat) → List Char → Option (List Char × List Char)
  | 0, _ => none
  | _, [] => none
  | fuel + 1, c :: s =>
    if c = '"' then some ([], s)
    else if c = '\\' then do
      let (d, s) ← readEscape? s
      let (t, s) ← readBasicTail? fuel s
      some (d :: t, s)
    else if isPlain c then (readBasicTail? fuel s).map fun (t, s) => (c :: t, s)
    else none

/-- Reads a string of one line. -/
def readLine? : List Char → Option (List Char × List Char)
  | '\'' :: s => readLiteralTail? s
  | '"' :: s => readBasicTail? s.length s
  | _ => none

/-! ## Strings of many lines -/

/-- The string that a run of quotes ends, if it does: three of them end it, and up to two more
before them belong to it. Inner result: the quotes that belong to the string, and whether it ends. -/
def closing? (quote : Char) (run : Nat) : Option (List Char × Bool) :=
  if run < 3 then some (List.replicate run quote, false)
  else if run ≤ 5 then some (List.replicate (run - 3) quote, true)
  else none

/-- Reads the rest of a string of many lines. A line break is read as a line feed. Between double
quotes a backslash before a line break hides the break and the blanks after it. -/
def readBlockTail? (quote : Char) : (fuel : Nat) → List Char → Option (List Char × List Char)
  | 0, _ => none
  | _, [] => none
  | fuel + 1, c :: s =>
    if c = quote then do
      let run := ((c :: s).takeWhile (· = quote)).length
      let (quotes, ends) ← closing? quote run
      let rest := (c :: s).drop run
      if ends then some (quotes, rest)
      else (readBlockTail? quote fuel rest).map fun (t, s) => (quotes ++ t, s)
    else if c = '\\' && quote = '"' then
      match afterBreak? (skipSpaces s) with
      | some rest => readBlockTail? quote fuel (skipLines rest.length rest)
      | none => do
        let (d, s) ← readEscape? s
        let (t, s) ← readBlockTail? quote fuel s
        some (d :: t, s)
    else match afterBreak? (c :: s) with
      | some rest => (readBlockTail? quote fuel rest).map fun (t, s) => ('\n' :: t, s)
      | none =>
        if isPlain c then (readBlockTail? quote fuel s).map fun (t, s) => (c :: t, s) else none

/-- Reads a string of many lines after its opening quotes. A line break right after them does not
count. -/
def readBlock? (quote : Char) (s : List Char) : Option (List Char × List Char) :=
  let s := (afterBreak? s).getD s
  readBlockTail? quote (s.length + 1) s

/-- Reads a string. -/
def readText? : List Char → Option (List Char × List Char)
  | '"' :: '"' :: '"' :: s => readBlock? '"' s
  | '\'' :: '\'' :: '\'' :: s => readBlock? '\'' s
  | s => readLine? s

end Toml
end StaticBlog
