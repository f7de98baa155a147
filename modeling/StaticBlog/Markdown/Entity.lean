import StaticBlog.Markdown.Names
import StaticBlog.Markdown.Tag
import StaticBlog.Text.Classes
import StaticBlog.Text.Digits

/-!
# Characters that are written in other ways

- `readEntity?` : a character that is written by its name or number
- `unescape` : a text in which characters may be written so, or after a backslash
-/

namespace StaticBlog
namespace Markdown

/-- The character with a number. What has none is shown by a character of its own. -/
def numbered (n : Nat) : Char := if n = 0 then '\uFFFD' else (Text.charOf? n).getD '\uFFFD'

/-- Reads the digits and the semicolon of a character that is written by its number. -/
def readNumbered? (isDigit : Char → Bool) (most : Nat) (s : List Char) : Option Reading :=
  let ds := (s.take most).takeWhile isDigit
  match s.drop ds.length with
  | ';' :: rest =>
    if ds.isEmpty then none
    else
      let n := if most = 6 then (Text.hexNumber? ds).getD 0 else Text.valueOf ds
      some ([numbered n], rest)
  | _ => none

/-- Reads a character that is written by its name or number, given what follows the ampersand. -/
def readEntity? : List Char → Option Reading
  | '#' :: 'x' :: s => readNumbered? Text.isHexDigit 6 s
  | '#' :: 'X' :: s => readNumbered? Text.isHexDigit 6 s
  | '#' :: s => readNumbered? Char.isDigit 7 s
  | s =>
    let name := s.takeWhile Char.isAlphanum
    match s.drop name.length with
    | ';' :: rest => (namedCharacter? name).map (·, rest)
    | _ => none

/-- A text in which characters are written by names, by numbers or after a backslash. In a table a
pipe may have two backslashes before it. `fuel` bounds the length. -/
def unescapeFrom (inTable : Bool) : (fuel : Nat) → List Char → List Char
  | 0, s => s
  | _, [] => []
  | fuel + 1, c :: s =>
    let plain (_ : Unit) : List Char := c :: unescapeFrom inTable fuel s
    if c = '\r' then unescapeFrom inTable fuel s
    else if c = '\\' then
      match s with
      | '\\' :: '|' :: t => (if inTable then ['|'] else ['\\', '|']) ++ unescapeFrom inTable fuel t
      | d :: t => if Text.isAsciiPunctuation d then d :: unescapeFrom inTable fuel t else plain ()
      | [] => plain ()
    else if c = '&' then
      match readEntity? s with
      | some (cs, rest) => cs ++ unescapeFrom inTable fuel rest
      | none => plain ()
    else plain ()

def unescape (inTable : Bool) (s : List Char) : List Char := unescapeFrom inTable s.length s

end Markdown
end StaticBlog
