/-!
# Digits

Natural numbers in decimal, with as many digits as they need or with a fixed number of them, and
numbers that are written with hexadecimal digits.

- `digits` : the digits a number needs
- `fixed` : its last so many digits
- `signed` : an integer, with a minus sign if it has one
- `leading` : the run of digits that a text begins with, and its value
- `hexValue?`, `hexNumber?` : the value of a hexadecimal digit, and of such digits
- `charOf?` : the character with a number
-/

namespace StaticBlog
namespace Text

/-- The digit of a value below ten. -/
def digitChar (n : Nat) : Char := Char.ofNat (0x30 + n % 10)

/-- The value of a digit. -/
def digitValue (c : Char) : Nat := c.toNat - 0x30

/-- A number in decimal. -/
def digits (n : Nat) : List Char := Nat.toDigits 10 n

/-- The last `width` digits of a number, with zeros in front where it has fewer. -/
def fixed : (width n : Nat) → List Char
  | 0, _ => []
  | w + 1, n => fixed w (n / 10) ++ [digitChar n]

/-- A number with at least `width` digits. -/
def atLeast (width n : Nat) : List Char :=
  if n < Nat.pow 10 width then fixed width n else digits n

/-- An integer in decimal. -/
def signed (n : Int) : List Char :=
  if n < 0 then '-' :: digits n.natAbs else digits n.natAbs

/-- The value that a list of digits spells. -/
def valueOf (ds : List Char) : Nat := ds.foldl (fun n c => 10 * n + digitValue c) 0

/-- Reads between `low` and `high` digits at the start of a text, as many as there are. -/
def leading (low high : Nat) (s : List Char) : Option (Nat × List Char) :=
  let ds := (s.take high).takeWhile Char.isDigit
  if ds.length < low then none else some (valueOf ds, s.drop ds.length)

@[simp] theorem length_fixed (w n : Nat) : (fixed w n).length = w := by
  induction w generalizing n with
  | zero => rfl
  | succ w ih => simp [fixed, ih]

/-! ## Hexadecimal digits -/

/-- The value of a hexadecimal digit. -/
def hexValue? (c : Char) : Option Nat :=
  if c.isDigit then some (c.toNat - 0x30)
  else if 'a' ≤ c && c ≤ 'f' then some (c.toNat - 0x61 + 10)
  else if 'A' ≤ c && c ≤ 'F' then some (c.toNat - 0x41 + 10)
  else none

def isHexDigit (c : Char) : Bool := (hexValue? c).isSome

/-- The value of hexadecimal digits. -/
def hexNumber? (ds : List Char) : Option Nat :=
  ds.foldlM (fun n c => (hexValue? c).map fun d => n * 16 + d) 0

/-- The character with a number, if there is one. -/
def charOf? (n : Nat) : Option Char :=
  if (0xD800 ≤ n && n ≤ 0xDFFF) || 0x10FFFF < n then none else some (Char.ofNat n)

end Text
end StaticBlog
