import StaticBlog.Json.Basic

/-!
# Numbers in JSON text

An integer that fits into 64 bits is kept as it is. Any other number becomes the floating-point
number that its first digits and a power of ten give: as many digits are used as fit into 64 bits,
and the power is multiplied or divided by in one step, so the result is not always the nearest
number.

- `Json.readNumber?` : the number at the start of a text
-/

namespace StaticBlog
namespace Json

/-- A number as the sum of its digits goes on: the digits so far, and the power of ten that they
are short of. -/
structure Digits where
  value : Nat
  power : Int
  deriving DecidableEq, Repr

/-- The largest value that digits are collected into. -/
def maxDigits : Nat := Nat.pow 2 64 - 1

/-- Adds digits before the point. Once the value is full each further digit raises the power. -/
def Digits.addWhole : Digits → List Char → Digits
  | d, [] => d
  | d, c :: s =>
    let v := d.value * 10 + Text.digitValue c
    if d.power = 0 && v ≤ maxDigits then addWhole ⟨v, 0⟩ s
    else addWhole ⟨d.value, d.power + 1⟩ s

/-- Adds digits behind the point. Once the value is full the remaining digits are dropped. -/
def Digits.addFraction : Digits → List Char → Digits
  | d, [] => d
  | d, c :: s =>
    let v := d.value * 10 + Text.digitValue c
    if v ≤ maxDigits then addFraction ⟨v, d.power - 1⟩ s else d

/-- Ten to the `n`-th, rounded. -/
def tenTo (n : Nat) : Binary64 := Binary64.ofDecimal false 1 n

/-- Multiplies or divides by a power of ten. Results that are too large do not count; powers below
the range are divided away in steps, of which `steps` are enough to reach zero. -/
def applyPower (x : Binary64) : (steps : Nat) → (power : Int) → Option Binary64
  | 0, _ => some (Binary64.zero false)
  | steps + 1, power =>
    if power.natAbs ≤ 308 then
      if 0 ≤ power then
        let y := x.mul (tenTo power.toNat)
        if y.isFinite then some y else none
      else some (x.div (tenTo (-power).toNat))
    else if x = Binary64.zero false then some x
    else if 0 ≤ power then none
    else applyPower (x.div (tenTo 308)) steps (power + 308)

/-- The floating-point number of digits and a power of ten. -/
def Digits.toBinary64? (negative : Bool) (d : Digits) : Option Binary64 :=
  (applyPower (Binary64.ofInt d.value) 4 d.power).map fun x => if negative then x.neg else x

/-- Reads an exponent: its mark, a sign and digits. -/
def readExponent? : List Char → Option (Int × List Char)
  | c :: s =>
    if c = 'e' || c = 'E' then do
      let (negative, s) := match s with
        | '-' :: s => (true, s)
        | '+' :: s => (false, s)
        | s => (false, s)
      let (n, s) ← Text.leading 1 s.length s
      some (if negative then -(n : Int) else n, s)
    else some (0, c :: s)
  | [] => some (0, [])

/-- The digits that a text begins with, and the rest. -/
def spanDigits (s : List Char) : List Char × List Char := (s.takeWhile Char.isDigit, s.dropWhile Char.isDigit)

/-- Reads a number without its sign. Zeros in front are not allowed, and there must be a digit on
both sides of a point. -/
def readUnsigned? (negative : Bool) (s : List Char) : Option (Numeral × List Char) := do
  let (whole, s) := spanDigits s
  if whole.isEmpty || (whole.length > 1 && whole.head? = some '0') then none
  let d := Digits.addWhole ⟨0, 0⟩ whole
  let (fraction, hasPoint, rest) := match s with
    | '.' :: s => ((spanDigits s).1, true, (spanDigits s).2)
    | s => ([], false, s)
  if hasPoint && fraction.isEmpty then none
  let hasExponent := match rest with
    | c :: _ => c = 'e' || c = 'E'
    | [] => false
  let (exponent, rest) ← readExponent? rest
  if hasPoint || hasExponent || d.power ≠ 0 || (negative && (d.value = 0 || d.value > Nat.pow 2 63)) then
    let d := d.addFraction fraction
    let x ← Digits.toBinary64? negative ⟨d.value, d.power + exponent⟩
    some (.float x, rest)
  else some (.int (if negative then -(d.value : Int) else d.value), rest)

/-- Reads a number. -/
def readNumber? : List Char → Option (Numeral × List Char)
  | '-' :: s => readUnsigned? true s
  | s => readUnsigned? false s

end Json
end StaticBlog
