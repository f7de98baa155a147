import Mathlib.Data.Nat.Log
import Mathlib.Tactic.Ring
import StaticBlog.Decimal.Binary64

/-!
# Natural numbers rounded to 53 bits

- `roundDiv_bounds`, `roundDiv_mono` : quotients rounded to the nearest integer
- `nearest` : the natural number that a natural number is rounded to
- `nearest_mono`, `nearest_nearest` : rounding keeps the order, and what has been rounded
- `close_of_nearest_eq`, `nearest_eq_of_close` : how far a number is from the rounded one
- `finite_of_roundRatio_one` : the mantissa and the exponent of a rounded number
- `roundRatio_one_eq_iff` : two numbers become the same binary number if they are rounded alike
-/

namespace StaticBlog
namespace Binary64

/-! ## Rounded quotients -/

section RoundedQuotients

variable {a b d m n : Nat}

/-- A rounded quotient is off by at most a half. -/
theorem roundDiv_bounds (n : Nat) (hd : 0 < d) :
    2 * n ≤ 2 * (roundDiv n d * d) + d ∧ 2 * (roundDiv n d * d) ≤ 2 * n + d := by
  have hn := Nat.div_add_mod' n d
  have hr := Nat.mod_lt n hd
  have hsucc : (n / d + 1) * d = n / d * d + d := Nat.succ_mul _ _
  unfold roundDiv
  simp only
  split
  · omega
  · split
    · rw [hsucc]
      omega
    · split
      · omega
      · rw [hsucc]
        omega

/-- An integer that is off by less is the rounded quotient. -/
theorem roundDiv_eq_of_close (hlow : 2 * (m * d) < 2 * n + d) (hhigh : 2 * n < 2 * (m * d) + d) :
    roundDiv n d = m := by
  have hd : 0 < d := by omega
  obtain ⟨hle, hge⟩ := roundDiv_bounds n hd
  rcases Nat.lt_trichotomy (roundDiv n d) m with hlt | heq | hgt
  · have hstep : (roundDiv n d + 1) * d ≤ m * d := Nat.mul_le_mul_right d hlt
    rw [Nat.succ_mul] at hstep
    omega
  · exact heq
  · have hstep : (m + 1) * d ≤ roundDiv n d * d := Nat.mul_le_mul_right d hgt
    rw [Nat.succ_mul] at hstep
    omega

theorem roundDiv_mul (m : Nat) (hd : 0 < d) : roundDiv (m * d) d = m :=
  roundDiv_eq_of_close (by omega) (by omega)

theorem roundDiv_mul_of_dvd (hd : 0 < d) (h : d ∣ n) : roundDiv n d * d = n := by
  obtain ⟨c, rfl⟩ := h
  rw [Nat.mul_comm d c, roundDiv_mul c hd]

theorem roundDiv_mono (hd : 0 < d) (h : a ≤ b) : roundDiv a d ≤ roundDiv b d := by
  by_contra hlt
  have hstep : (roundDiv b d + 1) * d ≤ roundDiv a d * d := Nat.mul_le_mul_right d (by omega)
  rw [Nat.succ_mul] at hstep
  have ha := (roundDiv_bounds a hd).2
  have hb := (roundDiv_bounds b hd).1
  have heq : a = b := by omega
  rw [heq] at hlt
  exact hlt (Nat.le_refl _)

end RoundedQuotients

/-! ## Rounded natural numbers -/

section RoundedNumbers

variable {j k n v : Nat}

/-- The distance between the numbers with 53 bits that are as large as a natural number. -/
def unitOf (n : Nat) : Nat := 2 ^ (Nat.log2 n - 52)

/-- The natural number with 53 significant bits that a natural number is rounded to. -/
def nearest (n : Nat) : Nat := roundDiv n (unitOf n) * unitOf n

theorem unitOf_pos (n : Nat) : 0 < unitOf n := Nat.two_pow_pos _

theorem unitOf_dvd_nearest (n : Nat) : unitOf n ∣ nearest n := Nat.dvd_mul_left _ _

theorem nearest_eq_self_of_dvd (h : unitOf n ∣ n) : nearest n = n :=
  roundDiv_mul_of_dvd (unitOf_pos n) h

theorem unitOf_dvd_of_nearest_eq (h : nearest n = n) : unitOf n ∣ n := by
  have hdvd := unitOf_dvd_nearest n
  rwa [h] at hdvd

theorem unitOf_of_lt (h : n < 2 ^ 53) : unitOf n = 1 := by
  rcases Nat.eq_zero_or_pos n with rfl | hpos
  · rfl
  · have hlog : Nat.log2 n < 53 := (Nat.log2_lt hpos.ne').2 h
    rw [unitOf, Nat.sub_eq_zero_of_le (Nat.le_of_lt_succ hlog), Nat.pow_zero]

/-- Up to 53 bits nothing is rounded. -/
theorem nearest_of_le (h : n ≤ 2 ^ 53) : nearest n = n := by
  apply nearest_eq_self_of_dvd
  rcases Nat.eq_or_lt_of_le h with rfl | hlt
  · rw [unitOf, Nat.log2_two_pow]
    exact Nat.pow_dvd_pow 2 (by decide)
  · rw [unitOf_of_lt hlt]
    exact Nat.one_dvd n

/-- A rounded number has the length of the number in bits, or is the next power of two. -/
theorem nearest_bounds (hn : n ≠ 0) :
    2 ^ Nat.log2 n ≤ nearest n ∧ nearest n ≤ 2 ^ (Nat.log2 n + 1) := by
  have hround : ∀ k, Nat.log2 n ≤ k → roundDiv (2 ^ k) (unitOf n) * unitOf n = 2 ^ k :=
    fun k hk => roundDiv_mul_of_dvd (unitOf_pos n) (Nat.pow_dvd_pow 2 (by omega))
  constructor
  · rw [← hround _ (Nat.le_refl _)]
    exact Nat.mul_le_mul_right _ (roundDiv_mono (unitOf_pos n) (Nat.log2_self_le hn))
  · rw [← hround _ (Nat.le_succ _)]
    exact Nat.mul_le_mul_right _ (roundDiv_mono (unitOf_pos n) Nat.lt_log2_self.le)

theorem nearest_ne_zero (hn : n ≠ 0) : nearest n ≠ 0 :=
  ((Nat.two_pow_pos _).trans_le (nearest_bounds hn).1).ne'

theorem nearest_mono (h : j ≤ k) : nearest j ≤ nearest k := by
  rcases Nat.eq_zero_or_pos j with rfl | hj
  · rw [nearest_of_le (Nat.zero_le _)]
    exact Nat.zero_le _
  · have hlog : Nat.log2 j ≤ Nat.log2 k :=
      (Nat.le_log2 (by omega)).2 ((Nat.log2_self_le hj.ne').trans h)
    rcases Nat.eq_or_lt_of_le hlog with heq | hlt
    · have hunit : unitOf j = unitOf k := by rw [unitOf, unitOf, heq]
      rw [nearest, nearest, hunit]
      exact Nat.mul_le_mul_right _ (roundDiv_mono (unitOf_pos k) h)
    · -- There is a power of two between the rounded numbers.
      calc nearest j ≤ 2 ^ (Nat.log2 j + 1) := (nearest_bounds hj.ne').2
        _ ≤ 2 ^ Nat.log2 k := Nat.pow_le_pow_right (by decide) hlt
        _ ≤ nearest k := (nearest_bounds (by omega)).1

/-- What lies between numbers that are rounded alike is rounded like them. -/
theorem nearest_between {i : Nat} (hij : i ≤ j) (hjk : j ≤ k) (hi : nearest i = v)
    (hk : nearest k = v) : nearest j = v :=
  Nat.le_antisymm (hk ▸ nearest_mono hjk) (hi ▸ nearest_mono hij)

theorem nearest_nearest (n : Nat) : nearest (nearest n) = nearest n := by
  rcases Nat.eq_zero_or_pos n with rfl | hn
  · rfl
  · obtain ⟨hlow, hhigh⟩ := nearest_bounds hn.ne'
    apply nearest_eq_self_of_dvd
    rcases Nat.eq_or_lt_of_le hhigh with heq | hlt
    · rw [unitOf, heq, Nat.log2_two_pow]
      exact Nat.pow_dvd_pow 2 (by omega)
    · have hlog : Nat.log2 (nearest n) = Nat.log2 n :=
        (Nat.log2_eq_iff (nearest_ne_zero hn.ne')).2 ⟨hlow, hlt⟩
      rw [unitOf, hlog]
      exact unitOf_dvd_nearest n

/-- A number is off its rounded one by at most half the distance there. -/
theorem close_of_nearest_eq (h : nearest j = v) :
    2 * j ≤ 2 * v + unitOf v ∧ 2 * v ≤ 2 * j + unitOf v := by
  have hunit : unitOf j ≤ unitOf v := by
    rcases Nat.eq_zero_or_pos j with rfl | hj
    · rw [← h]
      exact Nat.le_refl _
    · have hlog : Nat.log2 j ≤ Nat.log2 (nearest j) :=
        (Nat.le_log2 (nearest_ne_zero hj.ne')).2 (nearest_bounds hj.ne').1
      rw [← h]
      exact Nat.pow_le_pow_right (by decide) (by omega)
  have hbounds := roundDiv_bounds j (unitOf_pos j)
  rw [← nearest, h] at hbounds
  omega

theorem nearest_of_log2_eq {b m : Nat} (hlog : Nat.log2 j = b)
    (hlow : 2 * (m * 2 ^ (b - 52)) < 2 * j + 2 ^ (b - 52))
    (hhigh : 2 * j < 2 * (m * 2 ^ (b - 52)) + 2 ^ (b - 52)) : nearest j = m * 2 ^ (b - 52) := by
  have hunit : unitOf j = 2 ^ (b - 52) := by rw [unitOf, hlog]
  rw [nearest, hunit, roundDiv_eq_of_close hlow hhigh]

/-- A number that is off a rounded one by half of so little that sixteen decimal digits more fit in
front is rounded to it. -/
theorem nearest_eq_of_close {g : Nat} (hv : nearest v = v) (hlarge : 2 ^ 53 ≤ v)
    (hg : g * 10 ^ 16 ≤ v) (hlow : 2 * v ≤ 2 * j + g) (hhigh : 2 * j ≤ 2 * v + g) :
    nearest j = v := by
  have hne : v ≠ 0 := by omega
  obtain ⟨c, hc⟩ : ∃ c, Nat.log2 v = c + 53 :=
    Nat.exists_eq_add_of_le' ((Nat.le_log2 hne).2 hlarge)
  obtain ⟨hfloor, hceiling⟩ := (Nat.log2_eq_iff hne).1 hc
  have hdvd := unitOf_dvd_of_nearest_eq hv
  rw [unitOf, hc] at hdvd
  -- In units of `w` the powers of two around the number are `2 ^ 53` and `2 ^ 54`.
  obtain ⟨w, hw⟩ : ∃ w, w = 2 ^ c := ⟨_, rfl⟩
  have hpow : ∀ i, 2 ^ (c + i) = 2 ^ i * w := fun i => by rw [hw, Nat.pow_add, Nat.mul_comm]
  have hunit : 2 ^ (c + 53 - 52) = 2 * w := hpow 1
  have hhalf : 2 ^ (c + 52 - 52) = w := by rw [Nat.add_sub_cancel, hw]
  rw [hunit] at hdvd
  rw [hpow 53] at hfloor
  rw [show c + 53 + 1 = c + 54 from rfl, hpow 54] at hceiling
  obtain ⟨m, hm⟩ := hdvd
  rw [Nat.mul_comm] at hm
  have hupper : v + 2 * w ≤ 2 ^ 54 * w := by
    have hlt : m * (2 * w) < 2 ^ 53 * (2 * w) := by omega
    have hstep := Nat.mul_le_mul_right (2 * w) (Nat.lt_of_mul_lt_mul_right hlt)
    rw [Nat.succ_mul] at hstep
    omega
  by_cases hj : 2 ^ 53 * w ≤ j
  · have hlog : Nat.log2 j = c + 53 :=
      (Nat.log2_eq_iff (by omega)).2
        ⟨by rw [hpow]; omega, by rw [show c + 53 + 1 = c + 54 from rfl, hpow]; omega⟩
    have hnear := nearest_of_log2_eq (m := m) hlog (by rw [hunit, ← hm]; omega)
      (by rw [hunit, ← hm]; omega)
    rw [hnear, hunit, hm]
  · -- Below a power of two the numbers lie twice as dense.
    have hv : v = 2 ^ 53 * w := by
      have hle : m * (2 * w) < (2 ^ 52 + 1) * (2 * w) := by omega
      have hm52 : m ≤ 2 ^ 52 := Nat.le_of_lt_succ (Nat.lt_of_mul_lt_mul_right hle)
      have hstep := Nat.mul_le_mul_right (2 * w) hm52
      omega
    have hlog : Nat.log2 j = c + 52 :=
      (Nat.log2_eq_iff (by omega)).2
        ⟨by rw [hpow]; omega, by rw [show c + 52 + 1 = c + 53 from rfl, hpow]; omega⟩
    have hnear := nearest_of_log2_eq (m := 2 ^ 53) hlog (by rw [hhalf]; omega)
      (by rw [hhalf]; omega)
    rw [hnear, hhalf, hv]

end RoundedNumbers

/-! ## Binary numbers -/

section BinaryNumbers

variable {j k n v : Nat}

/-- The binary number whose value is a natural number with 53 significant bits. -/
def exactly (negative : Bool) (v : Nat) : Binary64 :=
  let e := (Nat.log2 v : Int) - 52
  if maxExponent ≤ e then infinite negative
  else finite negative (v * 2 ^ 52 / 2 ^ Nat.log2 v) e

theorem two_pow_log2 (hlarge : 52 ≤ Nat.log2 n) : 2 ^ Nat.log2 n = unitOf n * 2 ^ 52 := by
  rw [unitOf, ← Nat.pow_add, Nat.sub_add_cancel hlarge]

theorem mantissa_of_large (hv : unitOf v ∣ v) (hlarge : 52 ≤ Nat.log2 v) :
    v * 2 ^ 52 / 2 ^ Nat.log2 v * unitOf v = v := by
  rw [two_pow_log2 hlarge, Nat.mul_div_mul_right _ _ (by decide), Nat.div_mul_cancel hv]

theorem mantissa_of_small (hsmall : Nat.log2 v ≤ 52) :
    v * 2 ^ 52 / 2 ^ Nat.log2 v = v * 2 ^ (52 - Nat.log2 v) := by
  have hpow : 2 ^ 52 = 2 ^ (52 - Nat.log2 v) * 2 ^ Nat.log2 v := by
    rw [← Nat.pow_add, Nat.sub_add_cancel hsmall]
  rw [hpow, ← Nat.mul_assoc, Nat.mul_div_cancel _ (Nat.two_pow_pos _)]

/-- The binary order of a natural number does not depend on the ratio that it is written as. -/
theorem binaryOrder_mul {i : Nat} (hn : n ≠ 0) :
    binaryOrder (n * 2 ^ i) (2 ^ i) = Nat.log2 n := by
  have hlog : Nat.log2 (n * 2 ^ i) = Nat.log2 n + i := by
    apply (Nat.log2_eq_iff (Nat.mul_ne_zero hn (Nat.two_pow_pos i).ne')).2
    have hlow := Nat.mul_le_mul_right (2 ^ i) (Nat.log2_self_le hn)
    have hhigh := Nat.mul_lt_mul_of_pos_right (Nat.lt_log2_self (n := n)) (Nat.two_pow_pos i)
    rw [← Nat.pow_add] at hlow hhigh
    exact ⟨hlow, by rwa [Nat.add_right_comm]⟩
  have hle : ¬ n * 2 ^ i < 2 ^ i * 2 ^ Nat.log2 n := by
    rw [Nat.mul_comm, Nat.mul_lt_mul_left (Nat.two_pow_pos i), Nat.not_lt]
    exact Nat.log2_self_le hn
  have hexp : (Nat.log2 n + i : Nat) - (i : Int) = Nat.log2 n := by omega
  simp only [binaryOrder, hlog, Nat.log2_two_pow, hexp, scale]
  simpa using hle

/-- The mantissa that a natural number is rounded to, which may have one bit too many. -/
theorem roundDiv_scale (n : Nat) :
    let (num, den) := scale n 1 ((Nat.log2 n : Int) - 52)
    roundDiv num den = nearest n * 2 ^ 52 / 2 ^ Nat.log2 n := by
  rcases Nat.lt_or_ge (Nat.log2 n) 52 with hsmall | hlarge
  · have hexp : -((Nat.log2 n : Int) - 52) = (52 - Nat.log2 n : Nat) := by omega
    have hneg : ¬ 0 ≤ (Nat.log2 n : Int) - 52 := by omega
    have hself : nearest n = n := by
      apply nearest_eq_self_of_dvd
      rw [unitOf, Nat.sub_eq_zero_of_le hsmall.le]
      exact Nat.one_dvd n
    rw [hself, mantissa_of_small hsmall.le]
    simp only [scale, if_neg hneg, hexp, Int.toNat_natCast, Nat.pow_eq]
    simpa using roundDiv_mul (n * 2 ^ (52 - Nat.log2 n)) Nat.one_pos
  · obtain ⟨i, hi⟩ := Nat.exists_eq_add_of_le' hlarge
    have hexp : ((i + 52 : Nat) : Int) - 52 = i := by omega
    rw [two_pow_log2 hlarge, Nat.mul_div_mul_right _ _ (by decide), nearest,
      Nat.mul_div_cancel _ (unitOf_pos n), unitOf, hi, hexp]
    simp [scale]

/-- A natural number becomes the binary number of what it is rounded to. -/
theorem roundRatio_one (s : Bool) (hn : n ≠ 0) : roundRatio s n 1 = exactly s (nearest n) := by
  have horder : binaryOrder n 1 = Nat.log2 n := by simpa using binaryOrder_mul (i := 0) hn
  have hmax : max ((Nat.log2 n : Int) - 52) minExponent = (Nat.log2 n : Int) - 52 :=
    max_eq_left (by simp only [minExponent]; omega)
  have hscale := roundDiv_scale n
  obtain ⟨hlow, hhigh⟩ := nearest_bounds hn
  simp only [roundRatio, if_neg hn, horder, hmax, hscale]
  rcases Nat.eq_or_lt_of_le hhigh with hcarry | hlt
  · -- Rounded up to the next power of two, the mantissa has 54 bits and is halved.
    have hlog : Nat.log2 (nearest n) = Nat.log2 n + 1 := by rw [hcarry, Nat.log2_two_pow]
    have hmantissa : nearest n * 2 ^ 52 / 2 ^ Nat.log2 n = 2 ^ 53 := by
      rw [hcarry, Nat.pow_succ, Nat.mul_assoc, Nat.mul_div_cancel_left _ (Nat.two_pow_pos _),
        ← Nat.pow_succ']
    have hshort : nearest n * 2 ^ 52 / 2 ^ (Nat.log2 n + 1) = 2 ^ 52 := by
      rw [hcarry, Nat.mul_div_cancel_left _ (Nat.two_pow_pos _)]
    have hexp : (Nat.log2 n : Int) - 52 + 1 = ((Nat.log2 n + 1 : Nat) : Int) - 52 := by omega
    rw [exactly, hlog, hshort, hmantissa, ← hexp]
    simp
  · have hlog : Nat.log2 (nearest n) = Nat.log2 n :=
      (Nat.log2_eq_iff (nearest_ne_zero hn)).2 ⟨hlow, hlt⟩
    have hmantissa : nearest n * 2 ^ 52 / 2 ^ Nat.log2 n ≠ 2 ^ 53 := by
      apply Nat.ne_of_lt
      rw [Nat.div_lt_iff_lt_mul (Nat.two_pow_pos _)]
      rw [Nat.pow_succ] at hlt
      omega
    rw [exactly, hlog]
    simp only [Nat.pow_eq, if_neg hmantissa]

/-- A number and the one it is rounded to become the same binary number. -/
theorem roundRatio_nearest (s : Bool) (n : Nat) :
    roundRatio s (nearest n) 1 = roundRatio s n 1 := by
  rcases Nat.eq_zero_or_pos n with rfl | hn
  · rfl
  · rw [roundRatio_one s hn.ne', roundRatio_one s (nearest_ne_zero hn.ne'), nearest_nearest]

/-! ## The value -/

/-- The integer that a number is, without its fraction. -/
def whole : Binary64 → Int
  | finite s m e => if s then -(floorNat m e : Int) else floorNat m e
  | _ => 0

/-- What a mantissa and an exponent say of the natural number they are made from. -/
theorem exactly_parts (hv : unitOf v ∣ v) :
    let m := v * 2 ^ 52 / 2 ^ Nat.log2 v
    let e := (Nat.log2 v : Int) - 52
    isWholeOf m e = true ∧ floorNat m e = v ∧ ∃ i, ratioOf m e = (v * 2 ^ i, 2 ^ i) := by
  rcases Nat.lt_or_ge (Nat.log2 v) 52 with hsmall | hlarge
  · have hexp : -((Nat.log2 v : Int) - 52) = (52 - Nat.log2 v : Nat) := by omega
    have hneg : ¬ 0 ≤ (Nat.log2 v : Int) - 52 := by omega
    have hpos := Nat.two_pow_pos (52 - Nat.log2 v)
    rw [mantissa_of_small hsmall.le]
    simp only [isWholeOf, floorNat, ratioOf, if_neg hneg, hexp, Int.toNat_natCast, Nat.pow_eq]
    exact ⟨by simp, Nat.mul_div_cancel _ hpos, _, rfl⟩
  · obtain ⟨i, hi⟩ := Nat.exists_eq_add_of_le' hlarge
    have hexp : (Nat.log2 v : Int) - 52 = i := by omega
    have hvalue := mantissa_of_large hv hlarge
    rw [show unitOf v = 2 ^ i by rw [unitOf, hi, Nat.add_sub_cancel]] at hvalue
    simp only [isWholeOf, floorNat, ratioOf, hexp, Int.natCast_nonneg, if_true, Int.toNat_natCast,
      Nat.pow_eq, hvalue]
    exact ⟨by simp, trivial, 0, by simp⟩

/-- A number below `2 ^ 200` has a mantissa and an exponent. -/
theorem exists_roundRatio_one (s : Bool) (hn : n ≠ 0) (hsmall : n < 2 ^ 200) :
    ∃ m e, roundRatio s n 1 = finite s m e := by
  have hlog : Nat.log2 (nearest n) < 202 := by
    have hlog := (Nat.log2_lt hn).2 hsmall
    refine (Nat.log2_lt (nearest_ne_zero hn)).2 ((nearest_bounds hn).2.trans_lt ?_)
    exact Nat.pow_lt_pow_right (by decide) (by omega)
  have hfinite : ¬ maxExponent ≤ (Nat.log2 (nearest n) : Int) - 52 := by
    simp only [maxExponent]
    omega
  rw [roundRatio_one s hn, exactly]
  simp only [if_neg hfinite]
  exact ⟨_, _, rfl⟩

theorem roundRatio_one_sign {s : Bool} {m : Nat} {e : Int} (t : Bool) (hn : n ≠ 0)
    (h : roundRatio s n 1 = finite s m e) : roundRatio t n 1 = finite t m e := by
  rw [roundRatio_one _ hn, exactly] at h ⊢
  split at h
  · cases h
  · next hfinite =>
    cases h
    exact if_neg hfinite

theorem finite_of_roundRatio_one {s t : Bool} {m : Nat} {e : Int} (hn : n ≠ 0)
    (h : roundRatio s n 1 = finite t m e) :
    t = s ∧ m ≠ 0 ∧ isWholeOf m e = true ∧ floorNat m e = nearest n ∧
      ∃ i, ratioOf m e = (nearest n * 2 ^ i, 2 ^ i) := by
  have hparts := exactly_parts (unitOf_dvd_of_nearest_eq (nearest_nearest n))
  rw [roundRatio_one s hn, exactly] at h
  simp only at h hparts
  split at h
  · cases h
  · cases h
    obtain ⟨hwhole, hvalue, hratio⟩ := hparts
    refine ⟨rfl, fun hzero => nearest_ne_zero hn ?_, hwhole, hvalue, hratio⟩
    rw [← hvalue, hzero]
    simp [floorNat]

theorem roundRatio_one_eq_iff {s t u : Bool} {m : Nat} {e : Int} (hn : n ≠ 0) (hj : j ≠ 0)
    (h : roundRatio s n 1 = finite u m e) :
    roundRatio t j 1 = roundRatio s n 1 ↔ t = s ∧ nearest j = nearest n := by
  constructor
  · intro heq
    obtain ⟨hs, -, -, hvalue, -⟩ := finite_of_roundRatio_one hn h
    obtain ⟨ht, -, -, hvalue', -⟩ := finite_of_roundRatio_one hj (heq.trans h)
    exact ⟨ht.symm.trans hs, hvalue'.symm.trans hvalue⟩
  · rintro ⟨rfl, heq⟩
    rw [← roundRatio_nearest t j, heq, roundRatio_nearest]

end BinaryNumbers

end Binary64
end StaticBlog
