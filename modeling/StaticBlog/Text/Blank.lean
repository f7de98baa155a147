/-!
# Blank characters

The characters that count as white space in prose, and the operations that cut at them.

- `isBlank` : the white-space property, over all of Unicode
- `trimStart`, `trimEnd`, `trim` : text without its leading or trailing blanks
- `words` : the maximal runs of other characters
-/

namespace StaticBlog
namespace Text

/-- A character is blank when it has the Unicode property `White_Space`. -/
def isBlank (c : Char) : Bool :=
  let n := c.toNat
  (9 ≤ n && n ≤ 13) || n == 0x20 || n == 0x85 || n == 0xA0 || n == 0x1680
    || (0x2000 ≤ n && n ≤ 0x200A) || n == 0x2028 || n == 0x2029 || n == 0x202F
    || n == 0x205F || n == 0x3000

/-! ## Trimming -/

/-- The text after its leading characters of a class. -/
def dropFront (p : Char → Bool) (s : List Char) : List Char :=
  s.dropWhile p

/-- The text before its trailing characters of a class. -/
def dropBack (p : Char → Bool) (s : List Char) : List Char :=
  (s.reverse.dropWhile p).reverse

/-- The text between its leading and trailing characters of a class. -/
def dropBoth (p : Char → Bool) (s : List Char) : List Char :=
  dropBack p (dropFront p s)

def trimStart (s : List Char) : List Char := dropFront isBlank s

def trimEnd (s : List Char) : List Char := dropBack isBlank s

def trim (s : List Char) : List Char := dropBoth isBlank s

/-! ## Words -/

/-- Cuts at every character of a class. There is always one more piece than there are cuts. -/
def splitWhere (p : Char → Bool) : List Char → List (List Char)
  | [] => [[]]
  | c :: s =>
    if p c then [] :: splitWhere p s
    else match splitWhere p s with
      | [] => [[c]]
      | w :: ws => (c :: w) :: ws

/-- The words of a text: what stands between its blanks, empty pieces left out. -/
def words (s : List Char) : List (List Char) :=
  (splitWhere isBlank s).filter (!·.isEmpty)

theorem splitWhere_ne_nil (p : Char → Bool) (s : List Char) : splitWhere p s ≠ [] := by
  cases s with
  | nil => simp [splitWhere]
  | cons c s =>
    unfold splitWhere
    split
    · simp
    · split <;> simp

theorem isBlank_of_isWhitespace {c : Char} (h : c.isWhitespace = true) : isBlank c = true := by
  simp only [Char.isWhitespace, Bool.or_eq_true, decide_eq_true_eq] at h
  rcases h with ((h | h) | h) | h <;> subst h <;> decide

end Text
end StaticBlog
