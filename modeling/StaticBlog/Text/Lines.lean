import StaticBlog.Text.Blank

/-!
# Lines

A line ends with a line feed, which belongs to the line. A last line may lack it.

- `linesKept` : the lines with their endings, so that they concatenate to the text
- `lines` : the lines without them, a carriage return before the feed counting as part of it
- `dropByteOrderMark` : a text without the mark that tells how it is encoded
-/

namespace StaticBlog
namespace Text

/-- The lines of a text, each with its line feed. -/
def linesKept : List Char → List (List Char)
  | [] => []
  | c :: s =>
    if c = '\n' then [c] :: linesKept s
    else match linesKept s with
      | [] => [[c]]
      | l :: ls => (c :: l) :: ls

/-- A line without its line feed, and without the carriage return before that. -/
def withoutEnding (line : List Char) : List Char :=
  match line.reverse with
  | '\n' :: '\r' :: r => r.reverse
  | '\n' :: r => r.reverse
  | _ => line

/-- The lines of a text without their endings. -/
def lines (s : List Char) : List (List Char) :=
  (linesKept s).map withoutEnding

/-- Whether a character ends a line wholly or in part. -/
def isLineBreak (c : Char) : Bool := c = '\n' || c = '\r'

/-- A line without any trailing line feeds and carriage returns. -/
def contentOf (line : List Char) : List Char := dropBack isLineBreak line

/-- A text without the byte order mark at its front, if there is one. -/
def dropByteOrderMark : List Char → List Char
  | '\uFEFF' :: s => s
  | s => s

theorem flatten_linesKept (s : List Char) : (linesKept s).flatten = s := by
  induction s with
  | nil => rfl
  | cons c s ih =>
    unfold linesKept
    split
    · simp [ih]
    · split
      · rename_i h
        rw [h] at ih
        simpa using ih
      · rename_i l ls h
        rw [h] at ih
        simpa using ih

end Text
end StaticBlog
