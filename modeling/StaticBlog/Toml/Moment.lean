import StaticBlog.Date.Civil
import StaticBlog.Text.Blank
import StaticBlog.Text.Digits
import StaticBlog.Toml.Text

/-!
# Dates and times of TOML

- `readMoment?` : a date, a time, or a date with a time and perhaps a zone, in the form in which
  it is written out
-/

namespace StaticBlog
namespace Toml

/-- Reads so many digits as a number with given bounds. -/
def readBetween? (count low high : Nat) (s : List Char) : Option (Nat × List Char) := do
  let (n, s) ← Text.leading count count s
  if low ≤ n ∧ n ≤ high then some (n, s) else none

def readMark? (c : Char) : List Char → Option (List Char)
  | d :: s => if c = d then some s else none
  | [] => none

/-- Reads a date. -/
def readDate? (s : List Char) : Option (List Char × List Char) := do
  let (year, s) ← Text.leading 4 4 s
  let s ← readMark? '-' s
  let (month, s) ← readBetween? 2 1 12 s
  let s ← readMark? '-' s
  let (day, s) ← readBetween? 2 1 (daysInMonth year month) s
  some (Text.fixed 4 year ++ '-' :: Text.fixed 2 month ++ '-' :: Text.fixed 2 day, s)

/-- The digits of a fraction of a second, as many as count: at most nine, and no zeros at the end. -/
def fractionChars (ds : List Char) : List Char :=
  match Text.dropBack (· = '0') (ds.take 9) with
  | [] => []
  | ds => '.' :: ds

/-- Reads a time of day. -/
def readTime? (s : List Char) : Option (List Char × List Char) := do
  let (hour, s) ← readBetween? 2 0 23 s
  let s ← readMark? ':' s
  let (minute, s) ← readBetween? 2 0 59 s
  let s ← readMark? ':' s
  let (second, s) ← readBetween? 2 0 60 s
  let face := Text.fixed 2 hour ++ ':' :: Text.fixed 2 minute ++ ':' :: Text.fixed 2 second
  match s with
  | '.' :: s =>
    let ds := s.takeWhile Char.isDigit
    if ds.isEmpty then none else some (face ++ fractionChars ds, s.drop ds.length)
  | s => some (face, s)

/-- Reads a zone. There may be none. -/
def readZone? : List Char → Option (List Char × List Char)
  | [] => some ([], [])
  | c :: s =>
    if c = 'Z' || c = 'z' then some (['Z'], s)
    else if c = '+' || c = '-' then do
      let (hour, s) ← readBetween? 2 0 23 s
      let s ← readMark? ':' s
      let (minute, s) ← readBetween? 2 0 59 s
      let sign := if c = '-' && (hour, minute) ≠ (0, 0) then '-' else '+'
      some (sign :: Text.fixed 2 hour ++ ':' :: Text.fixed 2 minute, s)
    else some ([], c :: s)

/-- Whether a character may divide a date from a time. -/
def isDivider (c : Char) : Bool := c = 'T' || c = 't' || c = ' '

/-- Reads a date, a time, or both. -/
def readMoment? (s : List Char) : Option (List Char × List Char) :=
  match readDate? s with
  | none => readTime? s
  | some (date, rest) =>
    let alone := some (date, rest)
    match rest with
    | [] => alone
    | c :: after =>
      if isDivider c then
        match after with
        | d :: _ =>
          if d.isDigit then do
            let (time, s) ← readTime? after
            let (zone, s) ← readZone? s
            some (date ++ 'T' :: time ++ zone, s)
          else alone
        | [] => alone
      else alone

end Toml
end StaticBlog
