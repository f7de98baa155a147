/-!
# Civil dates

Days of the proleptic Gregorian calendar, with a year zero and negative years before it.

- `Date` : a year, a month and a day that exist
- `Date.next`, `Date.previous` : the neighbouring days
- `Date.dayNumber`, `Date.ofDayNumber` : days counted from 1970-01-01
- `Date.weekday`, `Date.dayOfYear` : the place of a day in its week and year
-/

namespace StaticBlog

/-! ## The calendar -/

/-- Whether a year has a 29 February. -/
def isLeapYear (year : Int) : Bool :=
  year % 4 == 0 && (year % 100 != 0 || year % 400 == 0)

/-- The length of a month, counted from 1. -/
def daysInMonth (year : Int) (month : Nat) : Nat :=
  if month = 2 then (if isLeapYear year then 29 else 28)
  else if month = 4 || month = 6 || month = 9 || month = 11 then 30
  else 31

/-- A day of the calendar. -/
structure Date where
  year : Int
  month : Nat
  day : Nat
  month_pos : 1 ≤ month := by decide
  month_le : month ≤ 12 := by decide
  day_pos : 1 ≤ day := by decide
  day_le : day ≤ daysInMonth year month := by decide
  deriving DecidableEq, Repr

namespace Date

/-- 1 January 1970, from which days are counted. -/
def epoch : Date := ⟨1970, 1, 1, by decide, by decide, by decide, by decide⟩

instance : Inhabited Date := ⟨epoch⟩

/-- The day with these parts, if the calendar has it. -/
def ofParts? (year : Int) (month day : Nat) : Option Date :=
  if h : 1 ≤ month ∧ month ≤ 12 ∧ 1 ≤ day ∧ day ≤ daysInMonth year month then
    some ⟨year, month, day, h.1, h.2.1, h.2.2.1, h.2.2.2⟩
  else none

theorem ofParts?_self (d : Date) : ofParts? d.year d.month d.day = some d := by
  simp [ofParts?, d.month_pos, d.month_le, d.day_pos, d.day_le]

theorem daysInMonth_ge (year : Int) (month : Nat) : 28 ≤ daysInMonth year month := by
  unfold daysInMonth
  split
  · split <;> decide
  · split <;> decide

theorem daysInMonth_le (year : Int) (month : Nat) : daysInMonth year month ≤ 31 := by
  unfold daysInMonth
  split
  · split <;> decide
  · split <;> decide

theorem day_le_31 (d : Date) : d.day ≤ 31 :=
  Nat.le_trans d.day_le (daysInMonth_le d.year d.month)

/-! ## Neighbouring days -/

/-- The day after. -/
def next (d : Date) : Date :=
  if h : d.day + 1 ≤ daysInMonth d.year d.month then
    { d with day := d.day + 1, day_pos := by omega, day_le := h }
  else if hm : d.month + 1 ≤ 12 then
    { year := d.year, month := d.month + 1, day := 1,
      month_pos := by omega, month_le := hm,
      day_le := Nat.le_trans (by decide) (daysInMonth_ge _ _) }
  else
    { year := d.year + 1, month := 1, day := 1,
      day_le := Nat.le_trans (by decide) (daysInMonth_ge _ _) }

/-- The day before. -/
def previous (d : Date) : Date :=
  if h : 2 ≤ d.day then
    { d with day := d.day - 1, day_pos := by omega,
             day_le := Nat.le_trans (Nat.sub_le _ _) d.day_le }
  else if hm : 2 ≤ d.month then
    { year := d.year, month := d.month - 1, day := daysInMonth d.year (d.month - 1),
      month_pos := by omega, month_le := Nat.le_trans (Nat.sub_le _ _) d.month_le,
      day_pos := Nat.le_trans (by decide) (daysInMonth_ge _ _), day_le := Nat.le_refl _ }
  else
    { year := d.year - 1, month := 12, day := 31, day_le := by simp [daysInMonth] }

/-! ## Day numbers -/

/-- The days in the months before a month, counted from March, in a year that starts in March. -/
def daysBeforeMonth (monthFromMarch : Nat) : Nat := (153 * monthFromMarch + 2) / 5

/-- The number of days from 1970-01-01. Years are taken to start in March, so that the leap day is
their last one, and are counted in cycles of 400. -/
def dayNumber (d : Date) : Int :=
  let year := if d.month ≤ 2 then d.year - 1 else d.year
  let cycle := year.fdiv 400
  let yearOfCycle := year - cycle * 400
  let monthFromMarch := (d.month + 9) % 12
  let dayOfYear := daysBeforeMonth monthFromMarch + d.day - 1
  let dayOfCycle := yearOfCycle * 365 + yearOfCycle / 4 - yearOfCycle / 100 + dayOfYear
  cycle * 146097 + dayOfCycle - 719468

/-- The day with a given number. -/
def ofDayNumber (n : Int) : Date :=
  let n := n + 719468
  let cycle := n.fdiv 146097
  let dayOfCycle := (n - cycle * 146097).toNat
  let yearOfCycle :=
    (dayOfCycle - dayOfCycle / 1460 + dayOfCycle / 36524 - dayOfCycle / 146096) / 365
  let dayOfYear := dayOfCycle - (365 * yearOfCycle + yearOfCycle / 4 - yearOfCycle / 100)
  let monthFromMarch := (5 * dayOfYear + 2) / 153
  let day := dayOfYear - daysBeforeMonth monthFromMarch + 1
  let month := if monthFromMarch < 10 then monthFromMarch + 3 else monthFromMarch - 9
  let year := cycle * 400 + yearOfCycle + (if month ≤ 2 then 1 else 0)
  (ofParts? year month day).getD epoch

/-! ## Weeks and years -/

/-- Days since the last Monday. -/
def weekday (d : Date) : Nat := ((d.dayNumber + 3) % 7).toNat

/-- The place of a day in its year, counted from 1. -/
def dayOfYear (d : Date) : Nat :=
  ((List.range (d.month - 1)).map fun m => daysInMonth d.year (m + 1)).foldl (· + ·) d.day

def monthName (month : Nat) : String :=
  ["January", "February", "March", "April", "May", "June", "July", "August", "September",
    "October", "November", "December"].getD (month - 1) ""

def weekdayName (weekday : Nat) : String :=
  ["Monday", "Tuesday", "Wednesday", "Thursday", "Friday", "Saturday", "Sunday"].getD weekday ""

end Date
end StaticBlog
