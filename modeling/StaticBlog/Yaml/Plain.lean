import StaticBlog.Decimal.Numeral
import StaticBlog.Text.Search

/-!
# The meaning of plain scalars

A scalar without quotes may be nothing, a truth value or a number; any other one is text.

- `isNullWord`, `bool?` : the words for nothing and for truth values
- `integer?` : an integer in base 10, 16, 8 or 2
- `float?` : a number with a fraction or an exponent
-/

namespace StaticBlog
namespace Yaml

def isNullWord (s : String) : Bool := s = "null" || s = "Null" || s = "NULL" || s = "~"

def bool? (s : String) : Option Bool :=
  if s = "true" || s = "True" || s = "TRUE" then some true
  else if s = "false" || s = "False" || s = "FALSE" then some false
  else none

/-! ## Integers -/

/-- The value of a digit in a base of up to 16. -/
def digitIn? (base : Nat) (c : Char) : Option Nat :=
  let v? :=
    if c.isDigit then some (c.toNat - 0x30)
    else if 'a' ≤ c && c ≤ 'f' then some (c.toNat - 0x61 + 10)
    else if 'A' ≤ c && c ≤ 'F' then some (c.toNat - 0x41 + 10)
    else none
  v?.bind fun v => if v < base then some v else none

/-- The value of one or more digits in a base. -/
def numberIn? (base : Nat) (ds : List Char) : Option Nat :=
  if ds.isEmpty then none
  else ds.foldlM (fun n c => (digitIn? base c).map fun d => n * base + d) 0

/-- Whether digits begin with a zero that makes them text. -/
def isZeroPadded (s : List Char) : Bool :=
  let ds := match s with
    | c :: ds => if c = '-' || c = '+' then ds else s
    | [] => []
  1 < ds.length && ds.head? = some '0' && ds.all Char.isDigit

/-- A natural number in one of the bases. -/
def natural? (s : List Char) : Option Nat :=
  match s with
  | '0' :: 'x' :: ds => numberIn? 16 ds
  | '0' :: 'o' :: ds => numberIn? 8 ds
  | '0' :: 'b' :: ds => numberIn? 2 ds
  | ds => if isZeroPadded ds then none else numberIn? 10 ds

/-- An integer, of any size. -/
def integer? (s : List Char) : Option Int :=
  match s with
  | '-' :: ds => (natural? ds).map fun n => -(n : Int)
  | '+' :: ds => (natural? ds).map fun n => (n : Int)
  | ds => (natural? ds).map fun n => (n : Int)

/-- Whether an integer fits into 128 bits, with a sign if it is negative. -/
def isWide (n : Int) : Bool := -Nat.pow 2 127 ≤ n && n < Nat.pow 2 128

/-! ## Floating-point numbers -/

/-- The power of ten at the end of a decimal, which is zero if nothing is left there. -/
def exponent? : List Char → Option Int
  | [] => some 0
  | c :: s =>
    if c = 'e' || c = 'E' then
      match s with
      | '-' :: ds => (numberIn? 10 ds).map fun n => -(n : Int)
      | '+' :: ds => (numberIn? 10 ds).map fun n => (n : Int)
      | ds => (numberIn? 10 ds).map fun n => (n : Int)
    else none

/-- A decimal without sign: digits around a point and a power of ten. There must be a digit on one
side of the point, and one in an exponent. -/
def decimal? (s : List Char) : Option Decimal := do
  let whole := s.takeWhile Char.isDigit
  let s := s.drop whole.length
  let (fraction, s) := match s with
    | '.' :: s => (s.takeWhile Char.isDigit, s.dropWhile Char.isDigit)
    | s => ([], s)
  if whole.isEmpty && fraction.isEmpty then none
  let exponent ← exponent? s
  some ⟨Text.valueOf (whole ++ fraction), exponent - fraction.length⟩

/-- A floating-point number. Decimals out of range are none. -/
def float? (s : List Char) : Option Binary64 :=
  let text := String.ofList s
  if [".inf", ".Inf", ".INF", "+.inf", "+.Inf", "+.INF"].contains text then
    some (.infinite false)
  else if ["-.inf", "-.Inf", "-.INF"].contains text then some (.infinite true)
  else if [".nan", ".NaN", ".NAN"].contains text then some .nan
  else do
    let (negative, ds) := match s with
      | '-' :: ds => (true, ds)
      | '+' :: ds => (false, ds)
      | ds => (false, ds)
    let d ← decimal? ds
    let x := Binary64.ofDecimal negative d.coefficient d.exponent
    if x.isFinite then some x else none

/-- What a plain scalar means. -/
inductive PlainMeaning
  | null
  | bool (value : Bool)
  | number (value : Numeral)
  | text
  /-- An integer too large for a number and too small for text. -/
  | tooWide
  deriving DecidableEq, Repr

/-- The meaning of an integer, if it has one. -/
def integerMeaning? (s : List Char) : Option PlainMeaning :=
  (integer? s).bind fun n =>
    if Numeral.isWord n then some (.number (.int n)) else if isWide n then some .tooWide else none

/-- The meaning of a plain scalar. -/
def plainMeaning (s : String) : PlainMeaning :=
  let cs := s.toList
  if cs.isEmpty || isNullWord s then .null
  else match bool? s with
    | some b => .bool b
    | none =>
      match integerMeaning? cs with
      | some m => m
      | none =>
        if isZeroPadded cs then .text
        else match float? cs with
          | some x => .number (.float x)
          | none => .text

end Yaml
end StaticBlog
