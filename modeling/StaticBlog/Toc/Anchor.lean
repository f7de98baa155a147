import StaticBlog.Text.Blank
import StaticBlog.Text.Digits
import StaticBlog.Text.LetterCase

/-!
# Anchors of headings

A heading is found by an anchor made from its text. Two headings of a page never share one.

- `headingAnchor` : the anchor that a text suggests
- `TocEntry` : a heading with its anchor
- `TocBuilder.push` : gives the next heading of a page its anchor
-/

namespace StaticBlog

/-! ## Anchors from text -/

/-- The unified ideographs of the basic block. -/
def isIdeograph (c : Char) : Bool := 0x4E00 ≤ c.toNat && c.toNat ≤ 0x9FFF

/-- The characters that an anchor keeps. -/
def isAnchorChar (c : Char) : Bool :=
  ('a' ≤ c && c ≤ 'z') || ('0' ≤ c && c ≤ '9') || c = '_' || isIdeograph c

/-- Blanks and dashes separate the parts of an anchor. -/
def isAnchorBreak (c : Char) : Bool := Text.isBlank c || c = '-'

/-- Writes one dash for each run of separators. `inRun` says whether the character before was one. -/
def dashRuns : (inRun : Bool) → List Char → List Char
  | _, [] => []
  | inRun, c :: s =>
    if isAnchorBreak c then (if inRun then dashRuns true s else '-' :: dashRuns true s)
    else c :: dashRuns false s

/-- The anchor that a text suggests: the kept characters of its lower case, with a dash between
the parts. -/
def headingAnchorChars (text : List Char) : List Char :=
  let kept := (Text.lower text).filter fun c => isAnchorChar c || isAnchorBreak c
  Text.dropBoth (· = '-') (dashRuns false (Text.trim kept))

def headingAnchor (text : String) : String := String.ofList (headingAnchorChars text.toList)

/-! ## Anchors of a page -/

/-- A heading of a page. -/
structure TocEntry where
  level : Nat
  text : String
  id : String
  deriving DecidableEq, Repr, Inhabited

/-- The headings of a page so far, in order. -/
structure TocBuilder where
  entries : List TocEntry := []
  deriving DecidableEq, Repr, Inhabited

namespace TocBuilder

/-- The anchors given so far. -/
def ids (b : TocBuilder) : List String := b.entries.map (·.id)

/-- A name with a number behind a dash. -/
def numbered (base : String) (n : Nat) : String := String.ofList (base.toList ++ '-' :: Text.digits n)

/-- The first of the names `base-n`, `base-(n+1)`, … that is not used. With as many `tries` as there
are used names one of them is free. -/
def firstFree (used : List String) (base : String) : (tries n : Nat) → String
  | 0, n => numbered base n
  | tries + 1, n =>
    if numbered base n ∈ used then firstFree used base tries (n + 1) else numbered base n

/-- The anchor for the next heading: the one its text suggests, or the number of the heading when
that is empty or taken. -/
def nextId (b : TocBuilder) (text : String) : String :=
  let id := headingAnchor text
  if id ≠ "" ∧ id ∉ b.ids then id
  else
    let base := numbered "heading" (b.entries.length + 1)
    if base ∈ b.ids then firstFree b.ids base b.ids.length 1 else base

/-- Records the next heading of the page. -/
def push (b : TocBuilder) (level : Nat) (text : String) : TocBuilder :=
  let text := String.ofList (Text.trim text.toList)
  ⟨b.entries ++ [⟨level, text, b.nextId text⟩]⟩

/-- The anchor given to the last heading. -/
def lastId (b : TocBuilder) : String := (b.entries.getLast?.map (·.id)).getD ""

/-- The table of contents of the page; there is none for a page without headings. -/
def finish (b : TocBuilder) : Option (List TocEntry) :=
  if b.entries.isEmpty then none else some b.entries

end TocBuilder
end StaticBlog
