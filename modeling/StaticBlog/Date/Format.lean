import StaticBlog.Date.Moment
import StaticBlog.Text.Digits
import StaticBlog.Text.Search

/-!
# Date formats

How a moment is written: in the exchange format, and in a format that a site chooses.

- `Moment.exchange` : year to second with a `T` between date and time, and a zone
- `Field` : the parts that a chosen format can name
- `cutFields` : a format cut into fields and other characters
- `directives` : a format in the language of directives
- `Moment.write?` : a moment written by directives
- `Moment.format` : a moment in a chosen format
-/

namespace StaticBlog

/-! ## Years and exchange format -/

/-- A year has four digits; outside 0 to 9999 it has a sign and at least four. -/
def yearChars (year : Int) : List Char :=
  if 0 ≤ year ∧ year ≤ 9999 then Text.fixed 4 year.natAbs
  else (if year < 0 then '-' else '+') :: Text.atLeast 4 year.natAbs

/-- The part of a second: nothing if there is none, else thousandths, millionths or billionths, as
few as are exact. -/
def subsecondChars (nanos : Nat) : List Char :=
  if nanos = 0 then []
  else if nanos % 1000000 = 0 then '.' :: Text.fixed 3 (nanos / 1000000)
  else if nanos % 1000 = 0 then '.' :: Text.fixed 6 (nanos / 1000)
  else '.' :: Text.fixed 9 nanos

/-- A moment in the exchange format, with `zone` written behind it. -/
def Moment.exchange (m : Moment) (zone : List Char) : List Char :=
  yearChars m.date.year ++ '-' :: Text.fixed 2 m.date.month ++ '-' :: Text.fixed 2 m.date.day
    ++ 'T' :: Text.fixed 2 m.time.hour ++ ':' :: Text.fixed 2 m.time.minute
    ++ ':' :: Text.fixed 2 m.time.second ++ subsecondChars m.time.subsecond ++ zone

/-! ## Chosen formats -/

/-- A part of a moment that a format can name. -/
inductive Field
  | year | yearOfCentury | month | monthPadded | monthShort | monthName
  | day | dayPadded | dayOfYear | weekdayShort | weekdayName
  | hour | hourOfHalf | minute | second | millisecond | zone
  deriving DecidableEq, Repr

namespace Field

/-- The tokens that name fields. A token comes before every token that it begins with. -/
def tokens : List (List Char × Field) :=
  [("YYYY".toList, .year), ("MMMM".toList, .monthName), ("dddd".toList, .weekdayName),
    ("DDDD".toList, .dayOfYear), ("MMM".toList, .monthShort), ("ddd".toList, .weekdayShort),
    ("SSS".toList, .millisecond), ("YY".toList, .yearOfCentury), ("MM".toList, .monthPadded),
    ("DD".toList, .dayPadded), ("HH".toList, .hour), ("hh".toList, .hourOfHalf),
    ("mm".toList, .minute), ("ss".toList, .second), ("ZZ".toList, .zone), ("D".toList, .day),
    ("M".toList, .month)]

/-- The longest token at the start of a format. -/
def atStart? (format : List Char) : Option (List Char × Field) :=
  tokens.find? fun (token, _) => token.isPrefixOf format

/-- A zone as sign, hours and minutes, rounded to the nearest minute. -/
def zoneChars (offset : Int) : List Char :=
  let minutes := (offset.natAbs + 30) / 60
  (if offset < 0 then '-' else '+') :: Text.fixed 2 (minutes / 60) ++ Text.fixed 2 (minutes % 60)

/-- The hour on a clock face of twelve hours. -/
def faceHour (hour : Nat) : Nat := if hour % 12 = 0 then 12 else hour % 12

/-- A field of the clock reading `m` in a zone. -/
def render (offset : Int) (m : Moment) : Field → List Char
  | .year => yearChars m.date.year
  | .yearOfCentury => Text.fixed 2 (m.date.year % 100).toNat
  | .month => Text.digits m.date.month
  | .monthPadded => Text.fixed 2 m.date.month
  | .monthShort => (Date.monthName m.date.month).toList.take 3
  | .monthName => (Date.monthName m.date.month).toList
  | .day => Text.digits m.date.day
  | .dayPadded => Text.fixed 2 m.date.day
  | .dayOfYear => Text.fixed 3 m.date.dayOfYear
  | .weekdayShort => (Date.weekdayName m.date.weekday).toList.take 3
  | .weekdayName => (Date.weekdayName m.date.weekday).toList
  | .hour => Text.fixed 2 m.time.hour
  | .hourOfHalf => Text.fixed 2 (faceHour m.time.hour)
  | .minute => Text.fixed 2 m.time.minute
  | .second => Text.fixed 2 m.time.second
  | .millisecond => Text.fixed 3 (m.time.subsecond / 1000000)
  | .zone => zoneChars offset

end Field

/-- A piece of a format: a field, or a character that stands for itself. -/
inductive FormatPiece
  | field (field : Field)
  | literal (char : Char)
  deriving DecidableEq, Repr

/-- Cuts a format into the longest tokens from left to right. `skip` counts the characters left of
the token being passed over. -/
def cutFieldsFrom : Nat → List Char → List FormatPiece
  | _, [] => []
  | skip + 1, _ :: s => cutFieldsFrom skip s
  | 0, c :: s =>
    match Field.atStart? (c :: s) with
    | some (token, field) => .field field :: cutFieldsFrom (token.length - 1) s
    | none => .literal c :: cutFieldsFrom 0 s

/-- The pieces of a format. -/
def cutFields (format : List Char) : List FormatPiece := cutFieldsFrom 0 format

def FormatPiece.render (offset : Int) (m : Moment) : FormatPiece → List Char
  | .field f => f.render offset m
  | .literal c => [c]

/-! ## Directives

A format is written in the language of directives before a moment is written by it: a percent sign
begins a directive there, and every other character stands for itself. -/

/-- The directive for a field. -/
def Field.directive : Field → List Char
  | .year => "%Y".toList
  | .yearOfCentury => "%y".toList
  | .month => "%-m".toList
  | .monthPadded => "%m".toList
  | .monthShort => "%b".toList
  | .monthName => "%B".toList
  | .day => "%-d".toList
  | .dayPadded => "%d".toList
  | .dayOfYear => "%j".toList
  | .weekdayShort => "%a".toList
  | .weekdayName => "%A".toList
  | .hour => "%H".toList
  | .hourOfHalf => "%I".toList
  | .minute => "%M".toList
  | .second => "%S".toList
  | .millisecond => "%3f".toList
  | .zone => "%z".toList

/-- A piece of a format in the language of directives. A percent sign is doubled. -/
def FormatPiece.directive : FormatPiece → List Char
  | .field f => f.directive
  | .literal c => if c = '%' then ['%', '%'] else [c]

/-- A format in the language of directives. -/
def directives (format : List Char) : List Char :=
  (cutFields format).flatMap FormatPiece.directive

/-- The field that a letter behind a percent sign names. -/
def Field.ofLetter? : Char → Option Field
  | 'Y' => some .year
  | 'y' => some .yearOfCentury
  | 'm' => some .monthPadded
  | 'b' => some .monthShort
  | 'B' => some .monthName
  | 'd' => some .dayPadded
  | 'j' => some .dayOfYear
  | 'a' => some .weekdayShort
  | 'A' => some .weekdayName
  | 'H' => some .hour
  | 'I' => some .hourOfHalf
  | 'M' => some .minute
  | 'S' => some .second
  | 'z' => some .zone
  | _ => none

/-- The number that a letter names when it is to have no zeros in front. -/
def Field.ofBareLetter? : Char → Option Field
  | 'm' => some .month
  | 'd' => some .day
  | _ => none

/-- The pieces that directives stand for. There are none if a percent sign begins nothing that is
known here. -/
def readDirectives? : List Char → Option (List FormatPiece)
  | [] => some []
  | '%' :: '%' :: s => (readDirectives? s).map (.literal '%' :: ·)
  | '%' :: '3' :: 'f' :: s => (readDirectives? s).map (.field .millisecond :: ·)
  | '%' :: '-' :: c :: s =>
    (Field.ofBareLetter? c).bind fun f => (readDirectives? s).map (.field f :: ·)
  | '%' :: c :: s => (Field.ofLetter? c).bind fun f => (readDirectives? s).map (.field f :: ·)
  | ['%'] => none
  | c :: s => (readDirectives? s).map (.literal c :: ·)

/-- What is written for a piece is read as that piece, whatever follows it. -/
theorem readDirectives?_append (p : FormatPiece) (s : List Char) :
    readDirectives? (p.directive ++ s) = (readDirectives? s).map (p :: ·) := by
  cases p with
  | field f => cases f <;> rfl
  | literal c =>
    rw [FormatPiece.directive]
    split
    · next hc =>
      rw [hc]
      rfl
    · next hc => simp [readDirectives?, hc]

theorem readDirectives?_flatMap (ps : List FormatPiece) :
    readDirectives? (ps.flatMap FormatPiece.directive) = some ps := by
  induction ps with
  | nil => rfl
  | cons p ps ih => rw [List.flatMap_cons, readDirectives?_append, ih, Option.map_some]

/-- A moment written by directives, read off a clock that is `offset` seconds ahead. -/
def Moment.write? (m : Moment) (offset : Int) (ds : List Char) : Option (List Char) :=
  (readDirectives? ds).map fun ps => ps.flatMap (FormatPiece.render offset (m.shift offset))

theorem Moment.write?_directives (m : Moment) (offset : Int) (format : List Char) :
    m.write? offset (directives format) =
      some ((cutFields format).flatMap (FormatPiece.render offset (m.shift offset))) := by
  rw [write?, directives, readDirectives?_flatMap, Option.map_some]

theorem Moment.isSome_write?_directives (m : Moment) (offset : Int) (format : List Char) :
    (m.write? offset (directives format)).isSome = true := by
  rw [write?_directives]
  rfl

/-- A moment in a chosen format, read off a clock that is `offset` seconds ahead. Every format has
directives that are known. -/
def Moment.formatAt (m : Moment) (offset : Int) (format : String) : String :=
  String.ofList ((m.write? offset (directives format.toList)).get
    (m.isSome_write?_directives offset format.toList))

theorem Moment.formatAt_eq (m : Moment) (offset : Int) (format : String) :
    m.formatAt offset format =
      String.ofList
        ((cutFields format.toList).flatMap (FormatPiece.render offset (m.shift offset))) := by
  simp only [formatAt, write?_directives, Option.get_some]

/-- A moment in a chosen format, in universal time. -/
def Moment.format (m : Moment) (format : String) : String := m.formatAt 0 format

end StaticBlog
