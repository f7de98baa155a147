import StaticBlog.Date.Moment
import StaticBlog.Text.Blank
import StaticBlog.Text.Digits

/-!
# Reading dates

A date is read in the exchange format, or in one of eight plainer ones, of which the first that
fits the whole text counts. What a plain format does not give is zero, and its zone is universal
time.

- `readDay?`, `readClock?`, `readZone?` : the parts of the exchange format
- `readExchange?` : the exchange format
- `Pattern` : a plain format as a list of items
- `readPattern?` : a text read by a pattern
- `Moment.parse?` : a text read in any of the formats
-/

namespace StaticBlog

/-- Reads one given character. -/
def readChar? (c : Char) : List Char → Option (List Char)
  | d :: s => if d = c then some s else none
  | [] => none

/-- Reads the digits of a part of a second, in billionths. Digits after the ninth are dropped. -/
def readSubsecond? (s : List Char) : Option (Nat × List Char) := do
  let ds := (s.take 9).takeWhile Char.isDigit
  if ds.isEmpty then none
  else
    let rest := (s.drop ds.length).dropWhile Char.isDigit
    some (Text.valueOf ds * Nat.pow 10 (9 - ds.length), rest)

/-- Reads a point and a part of a second behind it, or nothing. -/
def readFraction? : List Char → Option (Nat × List Char)
  | '.' :: s => readSubsecond? s
  | s => some (0, s)

/-! ## The exchange format -/

/-- Reads hours and minutes as seconds, less than a day. -/
def readOffset? (s : List Char) : Option (Nat × List Char) := do
  let (hours, s) ← Text.leading 2 2 s
  let s ← readChar? ':' s
  let (minutes, s) ← Text.leading 2 2 s
  if hours < 24 && minutes < 60 then some (hours * 3600 + minutes * 60, s) else none

/-- Reads a zone, in seconds: `Z`, or a sign, hours and minutes. A minus sign counts as a hyphen. -/
def readZone? : List Char → Option (Int × List Char)
  | [] => none
  | c :: s =>
    if c = 'Z' || c = 'z' then some (0, s)
    else if c = '+' then (readOffset? s).map fun (n, s) => ((n : Int), s)
    else if c = '-' || c = '\u2212' then (readOffset? s).map fun (n, s) => (-(n : Int), s)
    else none

/-- Reads what stands between a date and a time. -/
def readSeparator? : List Char → Option (List Char)
  | [] => none
  | c :: s => if c = 'T' || c = 't' || c = ' ' then some s else none

/-- Reads a day, the year first. -/
def readDay? (s : List Char) : Option (Date × List Char) := do
  let (year, s) ← Text.leading 4 4 s
  let s ← readChar? '-' s
  let (month, s) ← Text.leading 2 2 s
  let s ← readChar? '-' s
  let (day, s) ← Text.leading 2 2 s
  let date ← Date.ofParts? year month day
  some (date, s)

/-- Reads a time of day, with or without a part of a second. -/
def readClock? (s : List Char) : Option (TimeOfDay × List Char) := do
  let (hour, s) ← Text.leading 2 2 s
  let s ← readChar? ':' s
  let (minute, s) ← Text.leading 2 2 s
  let s ← readChar? ':' s
  let (second, s) ← Text.leading 2 2 s
  let (nanos, s) ← readFraction? s
  let time ← TimeOfDay.ofParts? hour minute second nanos
  some (time, s)

/-- Reads a moment in the exchange format. -/
def readExchange? (s : List Char) : Option Moment := do
  let (date, s) ← readDay? s
  let s ← readSeparator? s
  let (time, s) ← readClock? s
  let (offset, s) ← readZone? s
  if s.isEmpty then some (Moment.shift ⟨date, time⟩ (-offset)) else none

/-! ## Plain formats -/

/-- The parts that a plain format reads. -/
structure DateParts where
  year : Int := 0
  month : Nat := 0
  day : Nat := 0
  hour : Nat := 0
  minute : Nat := 0
  second : Nat := 0
  nanos : Nat := 0
  deriving DecidableEq, Repr

/-- An item of a plain format. Numbers may have blanks before them and need not be padded. -/
inductive PatternItem
  | year | month | day | hour | minute | second
  /-- A point and digits, or nothing. -/
  | subsecond
  | literal (char : Char)
  /-- Any number of blanks. -/
  | blanks
  deriving DecidableEq, Repr

abbrev Pattern := List PatternItem

/-- A year of up to four digits, or of any number of digits behind a sign. -/
def readYear? (s : List Char) : Option (Int × List Char) :=
  match Text.trimStart s with
  | '-' :: s => (Text.leading 1 s.length s).map fun (n, s) => (-(n : Int), s)
  | '+' :: s => (Text.leading 1 s.length s).map fun (n, s) => ((n : Int), s)
  | s => (Text.leading 1 4 s).map fun (n, s) => ((n : Int), s)

/-- A number of one or two digits. -/
def readTwo? (s : List Char) : Option (Nat × List Char) := Text.leading 1 2 (Text.trimStart s)

/-- Reads one item of a plain format. -/
def PatternItem.read? (parts : DateParts) (s : List Char) :
    PatternItem → Option (DateParts × List Char)
  | .year => (readYear? s).map fun (n, s) => ({ parts with year := n }, s)
  | .month => (readTwo? s).map fun (n, s) => ({ parts with month := n }, s)
  | .day => (readTwo? s).map fun (n, s) => ({ parts with day := n }, s)
  | .hour => (readTwo? s).map fun (n, s) => ({ parts with hour := n }, s)
  | .minute => (readTwo? s).map fun (n, s) => ({ parts with minute := n }, s)
  | .second => (readTwo? s).map fun (n, s) => ({ parts with second := n }, s)
  | .subsecond => (readFraction? s).map fun (n, s) => ({ parts with nanos := n }, s)
  | .literal c => (readChar? c s).map fun s => (parts, s)
  | .blanks => some (parts, Text.trimStart s)

/-- Reads the items of a plain format in turn. -/
def readItems? : Pattern → DateParts → List Char → Option (DateParts × List Char)
  | [], parts, s => some (parts, s)
  | item :: items, parts, s => do
    let (parts, s) ← item.read? parts s
    readItems? items parts s

/-- The years for which there are dates. -/
def isYear (year : Int) : Bool := -262143 ≤ year && year ≤ 262142

/-- The moment that the parts give, if there is such a day and time. -/
def DateParts.moment? (parts : DateParts) : Option Moment := do
  if isYear parts.year then
    let date ← Date.ofParts? parts.year parts.month parts.day
    let time ← TimeOfDay.ofParts? parts.hour parts.minute parts.second parts.nanos
    some ⟨date, time⟩
  else none

/-- Reads a whole text by a plain format. -/
def readPattern? (pattern : Pattern) (s : List Char) : Option Moment := do
  let (parts, rest) ← readItems? pattern {} s
  if rest.isEmpty then parts.moment? else none

/-- A date with the given character between its parts. -/
def datePattern (sep : Char) : Pattern := [.year, .literal sep, .month, .literal sep, .day]

/-- Hours and minutes. -/
def timePattern : Pattern := [.hour, .literal ':', .minute]

/-- Hours, minutes and seconds. -/
def fullTimePattern : Pattern := timePattern ++ [.literal ':', .second]

/-- The plain formats in the order in which they are tried. -/
def plainPatterns : List Pattern :=
  [datePattern '-' ++ .blanks :: fullTimePattern,
    datePattern '/' ++ .blanks :: fullTimePattern,
    datePattern '-' ++ .blanks :: timePattern,
    datePattern '/' ++ .blanks :: timePattern,
    datePattern '-' ++ .literal 'T' :: fullTimePattern,
    datePattern '-' ++ .literal 'T' :: fullTimePattern ++ [.subsecond],
    datePattern '-',
    datePattern '/']

/-- Reads a date, with or without a time, in any of the formats. Blanks around it do not count. -/
def parseMomentChars? (s : List Char) : Option Moment :=
  let s := Text.trim s
  match readExchange? s with
  | some m => some m
  | none => plainPatterns.findSome? fun pattern => readPattern? pattern s

def Moment.parse? (text : String) : Option Moment := parseMomentChars? text.toList

end StaticBlog
