import StaticBlog.Date.Civil

/-!
# Moments

A moment is a day and a time of day in universal time. A leap second lies in the second before it,
as a part of a second that is one or more.

- `TimeOfDay`, `Moment` : the types
- `Moment.shift` : the same moment on the clock of another zone
- `Moment.rank` : the place of a moment in time, by which moments are compared
- `Moment.ofUnix` : the moment a number of seconds after 1970 began
-/

namespace StaticBlog

/-- A time of day: seconds since midnight, and billionths of a second since then. -/
structure TimeOfDay where
  seconds : Nat
  nanos : Nat
  seconds_lt : seconds < 86400 := by decide
  nanos_lt : nanos < 2000000000 := by decide
  deriving DecidableEq, Repr

namespace TimeOfDay

def midnight : TimeOfDay := ⟨0, 0, by decide, by decide⟩

instance : Inhabited TimeOfDay := ⟨midnight⟩

def hour (t : TimeOfDay) : Nat := t.seconds / 3600

def minute (t : TimeOfDay) : Nat := t.seconds / 60 % 60

/-- The second that a clock shows, 60 within a leap second. -/
def second (t : TimeOfDay) : Nat := t.seconds % 60 + t.nanos / 1000000000

/-- The part of the second that a clock shows, in billionths. -/
def subsecond (t : TimeOfDay) : Nat := t.nanos % 1000000000

/-- The time with these parts. Second 60 is the leap second after second 59. -/
def ofParts? (hour minute second nanos : Nat) : Option TimeOfDay :=
  if h : hour < 24 ∧ minute < 60 ∧ second ≤ 60 ∧ nanos < 1000000000 then
    if hs : second = 60 then
      some ⟨hour * 3600 + minute * 60 + 59, nanos + 1000000000, by omega, by omega⟩
    else some ⟨hour * 3600 + minute * 60 + second, nanos, by omega, by omega⟩
  else none

end TimeOfDay

/-- A moment in universal time. -/
structure Moment where
  date : Date
  time : TimeOfDay
  deriving DecidableEq, Repr, Inhabited

namespace Moment

def year (m : Moment) : Int := m.date.year

def month (m : Moment) : Nat := m.date.month

def day (m : Moment) : Nat := m.date.day

/-- The day `n` days later, or earlier if `n` is negative. Only neighbours are ever needed: an
offset is less than a day. -/
def turnDay (d : Date) (carry : Int) : Date :=
  if carry < 0 then d.previous else if 0 < carry then d.next else d

/-- What a clock shows that is `offset` seconds ahead; meant for offsets of less than a day. -/
def shift (m : Moment) (offset : Int) : Moment :=
  let s : Int := m.time.seconds + offset
  { date := turnDay m.date (s.fdiv 86400)
    time :=
      { seconds := (s % 86400).toNat
        nanos := m.time.nanos
        seconds_lt := by omega
        nanos_lt := m.time.nanos_lt } }

/-- A number that grows with time: the parts of the moment as digits of one mixed-radix number. -/
def rank (m : Moment) : Int :=
  (((m.date.year * 13 + m.date.month) * 32 + m.date.day) * 86400 + m.time.seconds) * 2000000000
    + m.time.nanos

/-- The moment `secs` seconds after 1970 began, and `nanos` billionths of a second more. -/
def ofUnix (secs : Int) (nanos : Nat) : Moment :=
  { date := Date.ofDayNumber (secs.fdiv 86400)
    time :=
      { seconds := (secs % 86400).toNat
        nanos := nanos % 2000000000
        seconds_lt := by omega
        nanos_lt := Nat.mod_lt _ (by decide) } }

end Moment
end StaticBlog
