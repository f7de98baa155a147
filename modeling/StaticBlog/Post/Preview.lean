import StaticBlog.Html.Escape
import StaticBlog.Text.Blank

/-!
# Previews

What a listing tells about a post from its source text.

- `autoExcerpt` : the beginning of a post as plain text
- `readingTime` : the minutes that reading a post takes
- `distinctLabels` : the labels of a post, each once
-/

namespace StaticBlog

/-! ## Excerpts -/

/-- The length of the heading mark at the start of a line: one to six number signs and the blanks
after them. It is zero if there is no mark. -/
def headingMarkLength (s : List Char) : Nat :=
  let signs := (s.takeWhile (· = '#')).length
  let blanks := ((s.drop signs).takeWhile Text.isBlank).length
  if 1 ≤ signs && signs ≤ 6 && 1 ≤ blanks then signs + blanks else 0

/-- Drops the heading marks of a text. `skip` counts the characters left of the mark being dropped,
and `lineStart` says whether a line starts here. -/
def dropHeadingMarks : (skip : Nat) → (lineStart : Bool) → List Char → List Char
  | _, _, [] => []
  | skip + 1, _, c :: s => dropHeadingMarks skip (c = '\n') s
  | 0, lineStart, c :: s =>
    if lineStart && 0 < headingMarkLength (c :: s) then
      dropHeadingMarks (headingMarkLength (c :: s) - 1) (c = '\n') s
    else c :: dropHeadingMarks 0 (c = '\n') s

/-- A text without heading marks, emphasis marks and backticks, on one line. -/
def plainText (markdown : List Char) : List Char :=
  Text.trim (((dropHeadingMarks 0 true markdown).filter fun c => c ≠ '*' && c ≠ '`' && c ≠ '\r').map
    fun c => if c = '\n' then ' ' else c)

/-- The first `limit` characters, followed by dots if there are more. -/
def shorten (limit : Nat) (s : List Char) : List Char :=
  if limit < s.length then s.take limit ++ "...".toList else s

def autoExcerptChars (markdown : List Char) (limit : Nat) : List Char :=
  Html.escapeChars (shorten limit (plainText markdown))

/-- The beginning of a post as plain text, ready for a page. -/
def autoExcerpt (markdown : String) (limit : Nat) : String :=
  String.ofList (autoExcerptChars markdown.toList limit)

/-! ## Reading time -/

/-- The words that are read in a minute. -/
def wordsPerMinute : Nat := 200

/-- The minutes for so many words, rounded up, and at least one. -/
def minutesFor (words : Nat) : Nat := max 1 ((words + wordsPerMinute - 1) / wordsPerMinute)

def readingTime (markdown : String) : Nat := minutesFor (Text.words markdown.toList).length

/-! ## Labels -/

/-- Labels without the blanks around them, without empty ones, each where it first occurs. -/
def distinctLabels (labels : List String) : List String :=
  (labels.map fun l => String.ofList (Text.trim l.toList)).foldl
    (fun seen l => if l = "" ∨ l ∈ seen then seen else seen ++ [l]) []

end StaticBlog
