import StaticBlog.Text.Lines
import StaticBlog.Text.Search

/-!
# Repair of emphasis marks

Small mistakes with asterisks are mended before a text is read as Markdown. Each line is mended on
its own, and fenced code is left alone.

- `LineKind` : how a line stands to the fences of a text
- `escapeStars` : writes escaped asterisks as entities
- `closeEmphasis` : closes a strong emphasis that a line leaves open
- `repair` : a text with every line outside of fences mended
-/

namespace StaticBlog
namespace Repair

/-! ## Fences -/

/-- The two marks of fenced code. -/
inductive Fence
  | backticks
  | tildes
  deriving DecidableEq, Repr

def Fence.mark : Fence → List Char
  | .backticks => ['`', '`', '`']
  | .tildes => ['~', '~', '~']

/-- The fence that a line begins with, blanks aside. -/
def fenceOf? (line : List Char) : Option Fence :=
  [Fence.backticks, Fence.tildes].find? fun f => f.mark.isPrefixOf (Text.trimStart line)

/-- How a line stands to the fences of a text. -/
inductive LineKind
  | ordinary
  | opener
  | fenced
  | closer
  deriving DecidableEq, Repr

/-- The kind of a line, given the fence that is open before it, and the fence open after it. -/
def classify (fence : Option Fence) (line : List Char) : LineKind × Option Fence :=
  match fence with
  | some f => if f.mark.isPrefixOf (Text.trimStart line) then (.closer, none) else (.fenced, some f)
  | none =>
    match fenceOf? line with
    | some f => (.opener, some f)
    | none => (.ordinary, none)

/-! ## Escaped asterisks -/

def starEntity : List Char := "&#42;".toList

/-- Writes escaped asterisks as entities, so that they never pair up as emphasis. Of two asterisks
behind a backslash both count as escaped. -/
def escapeStars (line : List Char) : List Char :=
  Text.replace ['\\', '*'] starEntity
    (Text.replace ['\\', '*', '*'] (starEntity ++ starEntity) line)

/-! ## Open emphasis -/

def strongMark : List Char := ['*', '*']

def isWidePunctuation (c : Char) : Bool := "，。！？；：、".toList.contains c

def isSentencePunctuation (c : Char) : Bool := ".,!?;:".toList.contains c

/-- Whether a sentence or a part of one ends at a character, given the text after it. -/
def isSentenceBreak (c : Char) (after : List Char) : Bool :=
  isWidePunctuation c ||
    (isSentencePunctuation c && match after with
      | [] => true
      | d :: _ => Text.isBlank d)

/-- Where a text that follows an open mark meets its end. -/
inductive Stop
  /-- An asterisk comes first. -/
  | star
  /-- A sentence break comes first, after the given text. -/
  | sentence (before : List Char) (after : List Char)
  /-- Neither comes. -/
  | none
  deriving DecidableEq, Repr

/-- Looks for the first asterisk or sentence break. -/
def findStop : List Char → Stop
  | [] => .none
  | c :: s =>
    if c = '*' then .star
    else if isSentenceBreak c s then .sentence [] (c :: s)
    else match findStop s with
      | .sentence before after => .sentence (c :: before) after
      | stop => stop

/-- Closes a strong emphasis that a line without its ending leaves open: before the next sentence
break, or at the end. Nothing is done if the marks pair up, or if no text would be emphasised. -/
def closeContent (content : List Char) : List Char :=
  if Text.occurrences strongMark content % 2 = 0 then content
  else match Text.breakOnLast? strongMark content with
    | none => content
    | some (before, rest) =>
      if (Text.trim rest).isEmpty then content
      else match findStop rest with
        | .star => content
        | .sentence [] _ => content
        | .sentence text after => before ++ strongMark ++ text ++ strongMark ++ after
        | .none =>
          let text := Text.trimEnd rest
          before ++ strongMark ++ text ++ strongMark ++ rest.drop text.length

/-- Closes a strong emphasis that a line leaves open. -/
def closeEmphasis (line : List Char) : List Char :=
  let content := Text.contentOf line
  closeContent content ++ line.drop content.length

/-! ## Whole texts -/

/-- Mends one line outside of fences. -/
def repairLine (line : List Char) : List Char := closeEmphasis (escapeStars line)

/-- Mends lines, given the fence that is open before them. -/
def repairLines : Option Fence → List (List Char) → List (List Char)
  | _, [] => []
  | fence, line :: rest =>
    match classify fence line with
    | (.ordinary, fence) => repairLine line :: repairLines fence rest
    | (_, fence) => line :: repairLines fence rest

/-- Mends the lines of a text outside of fences. -/
def repairChars (markdown : List Char) : List Char :=
  (repairLines none (Text.linesKept markdown)).flatten

def repair (markdown : String) : String := String.ofList (repairChars markdown.toList)

end Repair
end StaticBlog
