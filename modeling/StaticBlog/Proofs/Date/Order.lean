import StaticBlog.Date.Moment

/-!
# Moments in order

Moments are compared by a number, the digits of which are their parts.

- `Moment.IsBefore` : whether a moment is earlier than another one, told by their parts
- `Moment.rank_lt_iff` : the numbers of moments are in their order
- `Moment.year_le_of_not_isBefore`, `Moment.month_le_of_not_isBefore` : years do not fall as time goes
  on, nor do the months of a year
-/

namespace StaticBlog

/-! ## Digits -/

section

variable {base x y r s : Int} (hr : 0 ≤ r ∧ r < base) (hs : 0 ≤ s ∧ s < base)
include hr hs

/-- The last digit of a number counts for less than all that is in front of it. -/
theorem mul_add_lt_of_lt (h : x < y) : x * base + r < y * base + s := by
  have hbase : 0 ≤ base := by omega
  -- A digit does not reach the next multiple of the base.
  have hnext : (x + 1) * base ≤ y * base := Int.mul_le_mul_of_nonneg_right h hbase
  rw [Int.add_mul, Int.one_mul] at hnext
  omega

theorem mul_add_lt_iff : x * base + r < y * base + s ↔ x < y ∨ x = y ∧ r < s := by
  constructor
  · intro h
    obtain hlt | rfl | hgt := Int.lt_trichotomy x y
    · exact .inl hlt
    · exact .inr ⟨rfl, by omega⟩
    · exact absurd h (Int.lt_asymm (mul_add_lt_of_lt hs hr hgt))
  · rintro (hlt | ⟨rfl, hdigit⟩)
    · exact mul_add_lt_of_lt hr hs hlt
    · omega

theorem mul_add_eq_iff : x * base + r = y * base + s ↔ x = y ∧ r = s := by
  constructor
  · intro h
    obtain hlt | rfl | hgt := Int.lt_trichotomy x y
    · exact absurd h (Int.ne_of_lt (mul_add_lt_of_lt hr hs hlt))
    · exact ⟨rfl, by omega⟩
    · exact absurd h (Int.ne_of_gt (mul_add_lt_of_lt hs hr hgt))
  · rintro ⟨rfl, rfl⟩
    rfl

end

namespace Moment

variable {a b : Moment}

/-! ## Earlier and later -/

/-- Whether a moment is earlier than another one: the first of their parts that differ tells. -/
def IsBefore (a b : Moment) : Prop :=
  a.year < b.year ∨ a.year = b.year ∧
    (a.month < b.month ∨ a.month = b.month ∧
      (a.day < b.day ∨ a.day = b.day ∧
        (a.time.seconds < b.time.seconds ∨ a.time.seconds = b.time.seconds ∧
          a.time.nanos < b.time.nanos)))

/-- The parts of a moment behind the year are digits of the number that it is compared by. -/
theorem digit_bounds (m : Moment) :
    (0 ≤ (m.date.month : Int) ∧ (m.date.month : Int) < 13) ∧
      (0 ≤ (m.date.day : Int) ∧ (m.date.day : Int) < 32) ∧
        (0 ≤ (m.time.seconds : Int) ∧ (m.time.seconds : Int) < 86400) ∧
          (0 ≤ (m.time.nanos : Int) ∧ (m.time.nanos : Int) < 2000000000) := by
  have hmonth := m.date.month_le
  have hday := m.date.day_le_31
  have hseconds := m.time.seconds_lt
  have hnanos := m.time.nanos_lt
  omega

/-- The numbers of moments are in the order of the moments. -/
theorem rank_lt_iff : a.rank < b.rank ↔ a.IsBefore b := by
  obtain ⟨hmonth, hday, hseconds, hnanos⟩ := a.digit_bounds
  obtain ⟨hmonth', hday', hseconds', hnanos'⟩ := b.digit_bounds
  unfold rank IsBefore year month day
  -- From the last digit on, each one counts only where all in front of it are the same.
  rw [mul_add_lt_iff hnanos hnanos', mul_add_lt_iff hseconds hseconds', mul_add_eq_iff hseconds hseconds',
    mul_add_lt_iff hday hday', mul_add_eq_iff hday hday', mul_add_lt_iff hmonth hmonth',
    mul_add_eq_iff hmonth hmonth']
  omega

instance (a b : Moment) : Decidable (a.IsBefore b) := decidable_of_iff _ rank_lt_iff

/-! ## Years and months -/

theorem year_le_of_not_isBefore (h : ¬ a.IsBefore b) : b.year ≤ a.year := by
  unfold IsBefore at h
  omega

theorem month_le_of_not_isBefore (h : ¬ a.IsBefore b) (hyear : a.year = b.year) : b.month ≤ a.month := by
  unfold IsBefore at h
  omega

end Moment
end StaticBlog
