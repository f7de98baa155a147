/-!
# Binary floating-point numbers

Numbers with a fraction are held with 53 significant bits, as a mantissa and a power of two. All
results are exact values rounded to the nearest such number, a tie going to the even mantissa.

- `Binary64` : the numbers, with infinities and a value that is no number
- `roundRatio` : the number nearest to a ratio
- `ofInt`, `ofDecimal` : the number nearest to an integer or a decimal
- `mul`, `div` : products and quotients
- `isWhole`, `floorNat` : whether a number has a fraction, and what remains without it
-/

namespace StaticBlog

/-- A number `± mantissa · 2 ^ exponent`, an infinity, or no number. -/
inductive Binary64
  | nan
  | infinite (negative : Bool)
  | finite (negative : Bool) (mantissa : Nat) (exponent : Int)
  deriving DecidableEq, Repr, Inhabited

namespace Binary64

/-- The least exponent. -/
def minExponent : Int := -1074

/-- The least exponent of a number that is too large. -/
def maxExponent : Int := 972

def zero (negative : Bool) : Binary64 := finite negative 0 minExponent

/-! ## Rounding -/

/-- A quotient rounded to the nearest integer, a half to the even one. -/
def roundDiv (num den : Nat) : Nat :=
  let q := num / den
  let r := num % den
  if 2 * r < den then q
  else if den < 2 * r then q + 1
  else if q % 2 = 0 then q else q + 1

/-- The ratio `num / den` as a ratio in units of `2 ^ e`. -/
def scale (num den : Nat) (e : Int) : Nat × Nat :=
  if 0 ≤ e then (num, den * Nat.pow 2 e.toNat) else (num * Nat.pow 2 (-e).toNat, den)

/-- The exponent of the power of two that begins the binary digits of a ratio. -/
def binaryOrder (num den : Nat) : Int :=
  let e : Int := (Nat.log2 num : Int) - Nat.log2 den
  let (n, d) := scale num den e
  if n < d then e - 1 else e

/-- The number nearest to `± num / den`. -/
def roundRatio (negative : Bool) (num den : Nat) : Binary64 :=
  if num = 0 then zero negative
  else
    let e := max (binaryOrder num den - 52) minExponent
    let (n, d) := scale num den e
    let m := roundDiv n d
    let (m, e) := if m = Nat.pow 2 53 then (Nat.pow 2 52, e + 1) else (m, e)
    if maxExponent ≤ e then infinite negative else finite negative m e

/-- The integer nearest to an integer among the numbers. -/
def ofInt (n : Int) : Binary64 := roundRatio (n < 0) n.natAbs 1

/-- The number nearest to `± coefficient · 10 ^ exponent`. -/
def ofDecimal (negative : Bool) (coefficient : Nat) (exponent : Int) : Binary64 :=
  if coefficient = 0 then zero negative
  else
    let order := exponent + (Nat.log2 coefficient : Int) * 3 / 10
    if 400 < order then infinite negative
    else if order < -400 then zero negative
    else if 0 ≤ exponent then roundRatio negative (coefficient * Nat.pow 10 exponent.toNat) 1
    else roundRatio negative coefficient (Nat.pow 10 (-exponent).toNat)

/-! ## Arithmetic -/

/-- The value of `mantissa · 2 ^ exponent` as a ratio. -/
def ratioOf (mantissa : Nat) (exponent : Int) : Nat × Nat :=
  if 0 ≤ exponent then (mantissa * Nat.pow 2 exponent.toNat, 1)
  else (mantissa, Nat.pow 2 (-exponent).toNat)

def mul : Binary64 → Binary64 → Binary64
  | finite s m e, finite s' m' e' =>
    let (n, d) := ratioOf (m * m') (e + e')
    roundRatio (s != s') n d
  | infinite s, finite s' m _ => if m = 0 then nan else infinite (s != s')
  | finite s m _, infinite s' => if m = 0 then nan else infinite (s != s')
  | infinite s, infinite s' => infinite (s != s')
  | _, _ => nan

def div : Binary64 → Binary64 → Binary64
  | finite s m e, finite s' m' e' =>
    if m' = 0 then (if m = 0 then nan else infinite (s != s'))
    else
      let (n, d) := ratioOf m (e - e')
      roundRatio (s != s') n (d * m')
  | infinite s, finite s' _ _ => infinite (s != s')
  | finite s _ _, infinite s' => zero (s != s')
  | _, _ => nan

def neg : Binary64 → Binary64
  | nan => nan
  | infinite s => infinite (!s)
  | finite s m e => finite (!s) m e

/-! ## Inspection -/

def isFinite : Binary64 → Bool
  | finite _ _ _ => true
  | _ => false

/-- Whether a mantissa and exponent make an integer. -/
def isWholeOf (mantissa : Nat) (exponent : Int) : Bool :=
  0 ≤ exponent || mantissa % Nat.pow 2 (-exponent).toNat == 0

/-- The integer part of a mantissa and exponent. -/
def floorNat (mantissa : Nat) (exponent : Int) : Nat :=
  if 0 ≤ exponent then mantissa * Nat.pow 2 exponent.toNat
  else mantissa / Nat.pow 2 (-exponent).toNat

end Binary64
end StaticBlog
