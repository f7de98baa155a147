import StaticBlog.Decimal.Binary64
import StaticBlog.Text.Search
import StaticBlog.Toml.Text

/-!
# Numbers of TOML

- `readInteger?` : an integer in decimal, hexadecimal, octal or binary
- `readFloat?` : a number with a fraction or an exponent, an infinity, or no number
-/

namespace StaticBlog
namespace Toml

/-- Reads digits, between which single underscores may stand. Both results leave them out. -/
def readDigits? (isDigit : Char → Bool) : (after : Bool) → List Char → Option (List Char × List Char)
  | after, [] => if after then none else some ([], [])
  | after, c :: s =>
    if isDigit c then (readDigits? isDigit false s).map fun (ds, s) => (c :: ds, s)
    else if after then none
    else if c = '_' then readDigits? isDigit true s
    else some ([], c :: s)

/-- Reads one digit or more. -/
def readRun? (isDigit : Char → Bool) (s : List Char) : Option (List Char × List Char) :=
  readDigits? isDigit true s

/-- Reads a sign: whether it is a minus. -/
def readSign : List Char → Bool × List Char
  | '-' :: s => (true, s)
  | '+' :: s => (false, s)
  | s => (false, s)

/-- Reads the digits of a decimal integer, which has no zeros in front. -/
def readWhole? : List Char → Option (List Char × List Char)
  | '0' :: s => some (['0'], s)
  | s => readRun? Char.isDigit s

def valueIn (base : Nat) (ds : List Char) : Nat :=
  ds.foldl (fun n c => base * n + (Text.hexValue? c).getD 0) 0

/-- An integer that fits into 64 bits. -/
def inRange? (n : Int) : Option Int := if -Nat.pow 2 63 ≤ n ∧ n < Nat.pow 2 63 then some n else none

/-- Reads the digits of an integer to a base that its beginning names. -/
def readBased? (base : Nat) (s : List Char) : Option (Int × List Char) := do
  let (ds, s) ← readRun? (fun c => (Text.hexValue? c).any (· < base)) s
  return (← inRange? (valueIn base ds), s)

/-- Reads an integer. -/
def readInteger? : List Char → Option (Int × List Char)
  | '0' :: 'x' :: s => readBased? 16 s
  | '0' :: 'o' :: s => readBased? 8 s
  | '0' :: 'b' :: s => readBased? 2 s
  | s => do
    let (negative, s) := readSign s
    let (ds, s) ← readWhole? s
    let n : Int := valueIn 10 ds
    return (← inRange? (if negative then -n else n), s)

/-- Reads an exponent, if there is a mark of one. -/
def readExponent? : List Char → Option (Int × List Char)
  | [] => some (0, [])
  | c :: s =>
    if c = 'e' || c = 'E' then do
      let (negative, s) := readSign s
      let (ds, s) ← readRun? Char.isDigit s
      let n : Int := valueIn 10 ds
      some (if negative then -n else n, s)
    else some (0, c :: s)

/-- Reads a decimal with a point or an exponent. -/
def readDecimal? (negative : Bool) (s : List Char) : Option (Binary64 × List Char) := do
  let (whole, s) ← readWhole? s
  let (fraction, rest) ← match s with
    | '.' :: s => readRun? Char.isDigit s
    | s => some ([], s)
  let (exponent, after) ← readExponent? rest
  if after.length = s.length then none
  else
    let x := Binary64.ofDecimal negative (valueIn 10 (whole ++ fraction))
      (exponent - fraction.length)
    if x = .infinite false then none else some (x, after)

/-- Reads a number that is no integer. A number too large is none, one too small is infinite. -/
def readFloat? (s : List Char) : Option (Binary64 × List Char) :=
  let (negative, s) := readSign s
  match s with
  | 'i' :: 'n' :: 'f' :: s => some (.infinite negative, s)
  | 'n' :: 'a' :: 'n' :: s => some (.nan, s)
  | s => readDecimal? negative s

end Toml
end StaticBlog
