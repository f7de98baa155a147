/-!
# Percent-encoding

A byte that may not stand in a path segment of a URL is written as `%` and two hexadecimal digits.

- `encode` : the bytes of a text, the unreserved ones as themselves
- `decodeBytes` : reads the escapes of a byte sequence; an incomplete one stands for itself
- `decode?` : the text the decoded bytes spell, if they are UTF-8
-/

namespace StaticBlog
namespace Percent

/-- The characters that need no escape in a path segment. -/
def isUnreserved (c : Char) : Bool :=
  c.isAlphanum || c = '-' || c = '_' || c = '.' || c = '~'

/-- The digit of a value below sixteen. -/
def hexDigit (n : Nat) : Char :=
  if n < 10 then Char.ofNat (0x30 + n) else Char.ofNat (0x41 + n - 10)

/-- The value of a hexadecimal digit. -/
def hexValue? (b : UInt8) : Option UInt8 :=
  if 0x30 ≤ b && b ≤ 0x39 then some (b - 0x30)
  else if 0x41 ≤ b && b ≤ 0x46 then some (b - 0x41 + 10)
  else if 0x61 ≤ b && b ≤ 0x66 then some (b - 0x61 + 10)
  else none

def encodeByte (b : UInt8) : List Char :=
  ['%', hexDigit (b.toNat / 16), hexDigit (b.toNat % 16)]

def encodeChar (c : Char) : List Char :=
  if isUnreserved c then [c] else (String.utf8EncodeChar c).flatMap encodeByte

/-- A text as one path segment of a URL. -/
def encode (s : List Char) : List Char := s.flatMap encodeChar

/-- Replaces each complete escape by its byte. -/
def decodeBytes : List UInt8 → List UInt8
  | 0x25 :: h :: l :: rest =>
    match hexValue? h, hexValue? l with
    | some a, some b => (a * 16 + b) :: decodeBytes rest
    | _, _ => 0x25 :: decodeBytes (h :: l :: rest)
  | b :: rest => b :: decodeBytes rest
  | [] => []

/-- The text spelled by the decoded bytes; there is none when they are not UTF-8. -/
def decode? (s : String) : Option String :=
  String.fromUTF8? ⟨(decodeBytes s.toUTF8.toList).toArray⟩

end Percent
end StaticBlog
