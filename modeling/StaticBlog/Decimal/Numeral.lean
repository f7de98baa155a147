import StaticBlog.Decimal.Binary64
import StaticBlog.Text.Digits

/-!
# Numerals

The numbers of the data formats: integers of up to 64 bits, and binary floating-point numbers. A
binary number is written with the fewest decimal digits that read back as the same number, and among
those with the digits nearest to it.

- `Decimal` : a coefficient and a power of ten
- `Binary64.shortest` : the decimal that a number is written as
- `positional` : a number without exponent
- `scientific` : a number with a point or an exponent, so that it never looks like an integer
- `Numeral` : a number as it was written, with or without a fraction
- `Numeral.text` : a numeral in the notation of the data formats
-/

namespace StaticBlog

/-- The value `coefficient · 10 ^ exponent`. -/
structure Decimal where
  coefficient : Nat
  exponent : Int
  deriving DecidableEq, Repr, Inhabited

namespace Binary64

/-! ## Digits -/

/-- The exponent of the power of ten that begins the decimal digits of a ratio; `guess` is at most
that and at most `steps` below it. -/
def decimalOrder (num den : Nat) : (steps : Nat) → (guess : Int) → Int
  | 0, g => g
  | steps + 1, g =>
    let next := g + 1
    let reached :=
      if 0 ≤ next then den * Nat.pow 10 next.toNat ≤ num
      else den ≤ num * Nat.pow 10 (-next).toNat
    if reached then decimalOrder num den steps next else g

/-- The two neighbours of a ratio among the multiples of `10 ^ e`, the nearer one first; of two
equally near ones the even one. -/
def neighbours (num den : Nat) (e : Int) : Nat × Nat :=
  let (n, d) :=
    if 0 ≤ e then (num, den * Nat.pow 10 e.toNat) else (num * Nat.pow 10 (-e).toNat, den)
  let q := n / d
  let r := n % d
  if 2 * r < d ∨ (2 * r = d ∧ q % 2 = 0) then (q, q + 1) else (q + 1, q)

/-- Tries the decimal grids from `e` down until one has a decimal that reads back. -/
def searchGrids (x : Binary64) (num den : Nat) : (grids : Nat) → (e : Int) → Decimal
  | 0, e => ⟨(neighbours num den e).1, e⟩
  | grids + 1, e =>
    let (near, far) := neighbours num den e
    if ofDecimal false near e = x then ⟨near, e⟩
    else if ofDecimal false far e = x then ⟨far, e⟩
    else searchGrids x num den grids (e - 1)

/-- Moves trailing zeros of the coefficient into the exponent, at most `steps` of them. -/
def Decimal.strip : (steps : Nat) → Decimal → Decimal
  | 0, d => d
  | steps + 1, d =>
    if d.coefficient % 10 = 0 ∧ d.coefficient ≠ 0 then
      Decimal.strip steps ⟨d.coefficient / 10, d.exponent + 1⟩
    else d

/-- The shortest decimal that reads back as a positive number. -/
def shortest (mantissa : Nat) (exponent : Int) : Decimal :=
  let (num, den) := ratioOf mantissa exponent
  let guess : Int := (binaryOrder num den) * 3 / 10 - 2
  let order := decimalOrder num den 20 guess
  Decimal.strip 20 (searchGrids (finite false mantissa exponent) num den 17 order)

/-! ## Notation -/

/-- A decimal without exponent. -/
def positionalDigits (d : Decimal) : List Char :=
  let ds := Text.digits d.coefficient
  if 0 ≤ d.exponent then ds ++ List.replicate d.exponent.toNat '0'
  else
    let places := (-d.exponent).toNat
    if places < ds.length then
      ds.take (ds.length - places) ++ '.' :: ds.drop (ds.length - places)
    else '0' :: '.' :: List.replicate (places - ds.length) '0' ++ ds

def signChars (negative : Bool) : List Char := if negative then ['-'] else []

/-- A number without exponent, and without point if it has no fraction. -/
def positional : Binary64 → List Char
  | nan => "NaN".toList
  | infinite s => signChars s ++ "inf".toList
  | finite s 0 _ => signChars s ++ ['0']
  | finite s m e => signChars s ++ positionalDigits (shortest m e)

/-- A decimal with one digit before the point and a power of ten. -/
def exponentialDigits (d : Decimal) : List Char :=
  let ds := Text.digits d.coefficient
  let power := d.exponent + (ds.length : Int) - 1
  let head := match ds with
    | c :: [] => [c]
    | c :: rest => c :: '.' :: rest
    | [] => []
  head ++ 'e' :: Text.signed power

/-- A number with a point or an exponent. The point is written out for values from 0.00001 up to
below ten to the sixteenth. -/
def scientific : Binary64 → List Char
  | nan => ".nan".toList
  | infinite s => signChars s ++ ".inf".toList
  | finite s 0 _ => signChars s ++ "0.0".toList
  | finite s m e =>
    let d := shortest m e
    let point := d.exponent + (Text.digits d.coefficient).length
    signChars s ++
      (if 0 ≤ d.exponent && point ≤ 16 then positionalDigits d ++ ".0".toList
      else if -5 < point && point ≤ 16 then positionalDigits d
      else exponentialDigits d)

end Binary64

/-! ## Numerals -/

/-- A number of a data format. -/
inductive Numeral
  | int (value : Int)
  | float (value : Binary64)
  deriving DecidableEq, Repr, Inhabited

namespace Numeral

/-- Whether an integer fits into 64 bits, with a sign if it is negative. -/
def isWord (n : Int) : Bool := -Nat.pow 2 63 ≤ n && n < Nat.pow 2 64

def toBinary64 : Numeral → Binary64
  | int n => Binary64.ofInt n
  | float x => x

/-- An integer in decimal, and another number with a point or an exponent. -/
def text : Numeral → List Char
  | int n => Text.signed n
  | float x => x.scientific

end Numeral

end StaticBlog
