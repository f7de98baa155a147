import StaticBlog.Date.Parse

/-!
# Clocks

- `Moment.shift_shift_neg` : a clock that is set forward and back shows what it showed
- `TimeOfDay.IsClockTime` : leap seconds end a minute
- `TimeOfDay.ofParts?_eq_some_iff` : a time of day is put together from what a clock shows
-/

namespace StaticBlog

namespace Date

/-! ## Neighbouring days -/

theorem eq_of_parts {d e : Date} (hyear : d.year = e.year) (hmonth : d.month = e.month)
    (hday : d.day = e.day) : d = e := by
  cases d
  cases e
  simp_all

/-- A day is put together from its parts, and from nothing else. -/
theorem ofParts?_eq_some_iff {year : Int} {month day : Nat} {d : Date} :
    ofParts? year month day = some d ↔ d.year = year ∧ d.month = month ∧ d.day = day := by
  constructor
  · intro h
    unfold ofParts? at h
    split at h
    · cases h
      exact ⟨rfl, rfl, rfl⟩
    · cases h
  · rintro ⟨rfl, rfl, rfl⟩
    exact ofParts?_self d

theorem previous_next (d : Date) : d.next.previous = d := by
  have hpos := d.day_pos
  have hle := d.day_le
  unfold next
  split
  · next hday =>
    rw [previous, dif_pos (show 2 ≤ d.day + 1 by omega)]
    exact eq_of_parts rfl rfl (Nat.add_sub_cancel d.day 1)
  · next hday =>
    split
    · next hmonth =>
      -- The day was the last one of its month.
      have hlast : daysInMonth d.year d.month = d.day := by omega
      have hfirst : 2 ≤ d.month + 1 := Nat.succ_le_succ d.month_pos
      rw [previous, dif_neg (show ¬2 ≤ 1 by decide), dif_pos hfirst]
      exact eq_of_parts rfl (Nat.add_sub_cancel d.month 1) hlast
    · next hmonth =>
      -- The day was the last one of its year.
      have hle12 := d.month_le
      have hdecember : d.month = 12 := by omega
      have hlast : d.day = 31 := by
        rw [hdecember, show daysInMonth d.year 12 = 31 from rfl] at hday hle
        omega
      rw [previous, dif_neg (show ¬2 ≤ 1 by decide), dif_neg (show ¬2 ≤ 1 by decide)]
      exact eq_of_parts (Int.add_sub_cancel d.year 1) hdecember.symm hlast.symm

theorem next_previous (d : Date) : d.previous.next = d := by
  have hle := d.day_le
  unfold previous
  split
  · next hday =>
    -- Within a month.
    have hroom : d.day - 1 + 1 ≤ daysInMonth d.year d.month := by omega
    rw [next, dif_pos hroom]
    exact eq_of_parts rfl rfl (show d.day - 1 + 1 = d.day by omega)
  · next hday =>
    have hpos := d.day_pos
    have hfirst : d.day = 1 := by omega
    split
    · next hmonth =>
      -- Behind the last day of the month before.
      have hle12 := d.month_le
      have hroom : d.month - 1 + 1 ≤ 12 := by omega
      rw [next, dif_neg (Nat.not_succ_le_self _), dif_pos hroom]
      exact eq_of_parts rfl (show d.month - 1 + 1 = d.month by omega) hfirst.symm
    · next hmonth =>
      -- January stands behind the December of the year before.
      have hpos12 := d.month_pos
      have hjanuary : d.month = 1 := by omega
      have hroom : ¬31 + 1 ≤ daysInMonth (d.year - 1) 12 := by
        rw [show daysInMonth (d.year - 1) 12 = 31 from rfl]
        decide
      rw [next, dif_neg hroom, dif_neg (show ¬12 + 1 ≤ 12 by decide)]
      exact eq_of_parts (Int.sub_add_cancel d.year 1) hjanuary.symm hfirst.symm

end Date

namespace Moment

/-! ## Setting a clock -/

theorem shift_zero (m : Moment) : m.shift 0 = m := by
  obtain ⟨date, seconds, nanos, hseconds, hnanos⟩ := m
  have hcarry : (seconds : Int).fdiv 86400 = 0 := by
    rw [Int.fdiv_eq_ediv_of_nonneg _ (by decide)]
    omega
  have htime : ((seconds : Int) % 86400).toNat = seconds := by omega
  simp only [shift, Int.add_zero, hcarry, htime]
  rfl

theorem turnDay_turnDay_neg (d : Date) (carry : Int) : turnDay (turnDay d carry) (-carry) = d := by
  rcases Int.lt_trichotomy carry 0 with hneg | rfl | hpos
  · have hback : 0 < -carry := Int.neg_pos_of_neg hneg
    rw [turnDay, turnDay, if_pos hneg, if_neg (Int.not_lt.2 (Int.le_of_lt hback)), if_pos hback]
    exact d.next_previous
  · rfl
  · have hback : -carry < 0 := Int.neg_neg_of_pos hpos
    rw [turnDay, turnDay, if_neg (Int.not_lt.2 (Int.le_of_lt hpos)), if_pos hpos, if_pos hback]
    exact d.previous_next

/-- A clock that is set forward and back shows what it showed. -/
theorem shift_shift_neg (m : Moment) (offset : Int) : (m.shift offset).shift (-offset) = m := by
  obtain ⟨date, seconds, nanos, hseconds, hnanos⟩ := m
  -- As many midnights are passed on the way back as there were on the way.
  have hcarry : (((((seconds : Int) + offset) % 86400).toNat : Int) + -offset).fdiv 86400 =
      -((seconds : Int) + offset).fdiv 86400 := by
    rw [Int.fdiv_eq_ediv_of_nonneg _ (by decide), Int.fdiv_eq_ediv_of_nonneg _ (by decide)]
    omega
  have htime : (((((seconds : Int) + offset) % 86400).toNat + -offset) % 86400).toNat = seconds := by
    omega
  simp only [shift, hcarry, turnDay_turnDay_neg, htime]

end Moment

namespace TimeOfDay

/-! ## What a clock shows -/

theorem hour_lt (t : TimeOfDay) : t.hour < 24 :=
  Nat.div_lt_of_lt_mul t.seconds_lt

theorem minute_lt (t : TimeOfDay) : t.minute < 60 := Nat.mod_lt _ (by decide)

theorem second_le (t : TimeOfDay) : t.second ≤ 60 := by
  have hnanos := t.nanos_lt
  unfold second
  omega

theorem isSome_ofParts?_iff {hour minute second nanos : Nat} :
    (ofParts? hour minute second nanos).isSome = true ↔
      hour < 24 ∧ minute < 60 ∧ second ≤ 60 ∧ nanos < 1000000000 := by
  unfold ofParts?
  split
  · next h =>
    split <;> simp [h]
  · next h => simpa using h

/-! ## Leap seconds -/

/-- If the time lies in a leap second, then that second ends a minute. -/
def IsClockTime (t : TimeOfDay) : Prop := 1000000000 ≤ t.nanos → t.seconds % 60 = 59

instance (t : TimeOfDay) : Decidable t.IsClockTime :=
  inferInstanceAs (Decidable (1000000000 ≤ t.nanos → t.seconds % 60 = 59))

/-- A time of day is put together from what a clock shows, and from nothing else. -/
theorem ofParts?_eq_some_iff {hour minute second nanos : Nat} {t : TimeOfDay} :
    ofParts? hour minute second nanos = some t ↔
      t.IsClockTime ∧ t.hour = hour ∧ t.minute = minute ∧ t.second = second ∧
        t.subsecond = nanos := by
  obtain ⟨seconds, part, hseconds, hpart⟩ := t
  simp only [IsClockTime, TimeOfDay.hour, TimeOfDay.minute, TimeOfDay.second, subsecond, ofParts?]
  split
  · split
    · simp only [Option.some.injEq, TimeOfDay.mk.injEq]
      omega
    · simp only [Option.some.injEq, TimeOfDay.mk.injEq]
      omega
  · simp only [reduceCtorEq, false_iff]
    omega

theorem isClockTime_ofUnix {secs : Int} {nanos : Nat} (h : nanos < 1000000000) :
    (Moment.ofUnix secs nanos).time.IsClockTime := by
  have hnanos : nanos % 2000000000 = nanos := Nat.mod_eq_of_lt (by omega)
  simp only [IsClockTime, Moment.ofUnix, hnanos]
  omega

theorem isClockTime_shift_iff {m : Moment} {offset : Int} (h : 60 ∣ offset) :
    (m.shift offset).time.IsClockTime ↔ m.time.IsClockTime := by
  simp only [IsClockTime, Moment.shift]
  omega

end TimeOfDay
end StaticBlog
