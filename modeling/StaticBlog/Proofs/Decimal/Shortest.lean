import Mathlib.Data.Nat.Log
import Mathlib.Tactic.Ring
import StaticBlog.Decimal.Numeral
import StaticBlog.Proofs.Decimal.Rounding

/-!
# The shortest decimal of a rounded number

A large number is written by the decimal with the fewest digits that is rounded to it. The decimals
are tried on grids of powers of ten, from the coarsest down, and on each only the two neighbours of
the number. Two facts make this enough: the numbers that are rounded to one lie next to each other,
and a number that is halfway between its neighbours is not what both are rounded to.

- `neighbours_spec`, `neighbour_hit`, `not_both_hit` : the neighbours of a number on a grid
- `le_log_succ_of_hit`, `le_of_hits` : what is left on the grids where the search begins
- `Found`, `searchGrids_found` : what the search finds
- `exists_neighbour_hit` : seventeen digits are enough
- `IsWritten` : what a rounded number is written as, told without the search
- `positionalDigits_shortest` : the digits of a large number spell what it is written as
-/

namespace StaticBlog
namespace Binary64

section Grids

variable {a b c d i j k t v : Nat}

/-! ## Neighbours on a decimal grid -/

/-- The neighbours of a natural number do not depend on the ratio that it is written as. -/
theorem neighbours_mul (hd : 0 < d) (v k : Nat) : neighbours (v * d) d k = neighbours v 1 k := by
  have hdiv : v * d / (d * 10 ^ k) = v / 10 ^ k := by
    rw [Nat.mul_comm v, Nat.mul_div_mul_left _ _ hd]
  have hmod : v * d % (d * 10 ^ k) = d * (v % 10 ^ k) := by
    rw [Nat.mul_comm v, Nat.mul_mod_mul_left]
  have hlt : 2 * (d * (v % 10 ^ k)) < d * 10 ^ k ↔ 2 * (v % 10 ^ k) < 10 ^ k := by
    rw [Nat.mul_left_comm, Nat.mul_lt_mul_left hd]
  have heq : 2 * (d * (v % 10 ^ k)) = d * 10 ^ k ↔ 2 * (v % 10 ^ k) = 10 ^ k := by
    rw [Nat.mul_left_comm, Nat.mul_right_inj hd.ne']
  simp only [neighbours, Int.natCast_nonneg, if_true, Int.toNat_natCast, Nat.pow_eq, hdiv, hmod,
    hlt, heq, Nat.one_mul]

/-- The neighbours lie on both sides of a number, the first at most half a step away. -/
theorem neighbours_spec (h : neighbours v 1 k = (a, b)) :
    (a = v / 10 ^ k ∧ b = a + 1 ∧ 2 * v ≤ 2 * (a * 10 ^ k) + 10 ^ k) ∨
      (b = v / 10 ^ k ∧ a = b + 1 ∧ 2 * (a * 10 ^ k) ≤ 2 * v + 10 ^ k) := by
  have hdiv := Nat.div_add_mod' v (10 ^ k)
  simp only [neighbours, Int.natCast_nonneg, if_true, Int.toNat_natCast, Nat.pow_eq,
    Nat.one_mul] at h
  split at h
  · cases h
    exact .inl ⟨rfl, rfl, by omega⟩
  · cases h
    refine .inr ⟨rfl, rfl, ?_⟩
    rw [Nat.succ_mul (v / _)]
    omega

theorem between_neighbours (v k : Nat) :
    v / 10 ^ k * 10 ^ k ≤ v ∧ v < v / 10 ^ k * 10 ^ k + 10 ^ k :=
  ⟨Nat.div_mul_le_self _ _, Nat.lt_div_mul_add (Nat.pow_pos (by decide))⟩

/-- If any multiple of a power of ten is rounded to a number, a neighbour of the number is. -/
theorem neighbour_hit (hv : nearest v = v) (h : neighbours v 1 k = (a, b))
    (hc : nearest (c * 10 ^ k) = v) : nearest (a * 10 ^ k) = v ∨ nearest (b * 10 ^ k) = v := by
  obtain ⟨hle, hlt⟩ := between_neighbours v k
  have hhit : nearest (v / 10 ^ k * 10 ^ k) = v ∨ nearest ((v / 10 ^ k + 1) * 10 ^ k) = v := by
    rcases Nat.lt_or_ge (v / 10 ^ k) c with hbelow | habove
    · right
      refine nearest_between ?_ (Nat.mul_le_mul_right _ hbelow) hv hc
      rw [Nat.succ_mul]
      exact hlt.le
    · left
      exact nearest_between (Nat.mul_le_mul_right _ habove) hle hc hv
  rcases neighbours_spec h with ⟨rfl, rfl, -⟩ | ⟨rfl, rfl, -⟩
  · exact hhit
  · exact hhit.symm

/-- If a number is halfway between its neighbours, not both are rounded to it: the distance between
binary numbers would be a multiple of `2 ^ k` there, which the half of `10 ^ k` is not. -/
theorem not_both_hit (hv : nearest v = v) (htie : 2 * v = 2 * (v / 10 ^ k * 10 ^ k) + 10 ^ k)
    (hlow : nearest (v / 10 ^ k * 10 ^ k) = v) : nearest ((v / 10 ^ k + 1) * 10 ^ k) ≠ v := by
  intro hhigh
  have hdiv := Nat.div_add_mod' v (10 ^ k)
  have hbelow := (close_of_nearest_eq hlow).2
  have habove := (close_of_nearest_eq hhigh).1
  rw [Nat.succ_mul] at habove
  -- Both ends of the step are within half a unit of the number.
  have hunit : 10 ^ k ≤ unitOf v := by omega
  have htwo : 2 ^ k ∣ unitOf v := by
    apply Nat.pow_dvd_pow 2
    apply (Nat.pow_le_pow_iff_right (a := 2) (by decide)).1
    exact (Nat.pow_le_pow_left (by decide) k).trans hunit
  have hten : 10 ^ k = 2 ^ k * 5 ^ k := Nat.mul_pow 2 5 k
  obtain ⟨x, hx⟩ : 2 ^ k ∣ v % 10 ^ k :=
    (Nat.dvd_mod_iff (Dvd.intro _ hten.symm)).2 (htwo.trans (unitOf_dvd_of_nearest_eq hv))
  have hhalf : 2 * (v % 10 ^ k) = 10 ^ k := by omega
  rw [hx, hten, Nat.mul_left_comm] at hhalf
  -- Without the factor `2 ^ k` an even number is a power of five.
  have heven : 2 * x = 5 ^ k := Nat.eq_of_mul_eq_mul_left (Nat.two_pow_pos k) hhalf
  have hodd : 5 ^ k % 2 = 1 := by rw [Nat.pow_mod]; simp
  omega

/-! ## The coarsest grids -/

theorem unitOf_lt_ten_pow_log (hlarge : 10 ≤ v) : unitOf v < 10 ^ Nat.log 10 v := by
  have hne : v ≠ 0 := by omega
  have hfloor := Nat.pow_log_le_self 10 hne
  have hceiling : v < 10 ^ (Nat.log 10 v + 1) := Nat.lt_pow_succ_log_self (by decide) v
  rw [Nat.pow_succ] at hceiling
  rcases Nat.lt_or_ge (Nat.log2 v) 52 with hshort | hlong
  · rw [unitOf, Nat.sub_eq_zero_of_le hshort.le]
    omega
  · have hbits := Nat.log2_self_le hne
    rw [two_pow_log2 hlong] at hbits
    omega

/-- A number that is rounded to another one ends in at most as many zeros as the next power of ten
has. -/
theorem le_log_succ_of_hit (hlarge : 10 ≤ v) (hj : nearest j = v) (hne : j ≠ 0)
    (ht : 10 ^ t ∣ j) : t ≤ Nat.log 10 v + 1 := by
  have hclose := (close_of_nearest_eq hj).1
  have hunit := unitOf_lt_ten_pow_log hlarge
  have hceiling : v < 10 ^ (Nat.log 10 v + 1) := Nat.lt_pow_succ_log_self (by decide) v
  have hle := Nat.le_of_dvd (Nat.pos_of_ne_zero hne) ht
  apply Nat.le_of_lt_succ
  apply (Nat.pow_lt_pow_iff_right (a := 10) (by decide)).1
  rw [Nat.succ_eq_add_one, Nat.pow_succ]
  rw [Nat.pow_succ] at hceiling ⊢
  omega

/-- On the coarsest grid no two numbers are rounded to the same one. -/
theorem le_of_hits (hlarge : 10 ≤ v) (hc : nearest (c * 10 ^ Nat.log 10 v) = v)
    (hi : nearest (i * 10 ^ Nat.log 10 v) = v) : c ≤ i := by
  have hcloseC := (close_of_nearest_eq hc).1
  have hcloseI := (close_of_nearest_eq hi).2
  have hunit := unitOf_lt_ten_pow_log hlarge
  apply Nat.le_of_lt_succ
  apply Nat.lt_of_mul_lt_mul_right (a := 10 ^ Nat.log 10 v)
  rw [Nat.succ_mul]
  omega

/-! ## The search -/

/-- What a search from the grid `10 ^ top` down finds: a neighbour of the number that is rounded to
it, the nearer one if there is a choice, on the first grid that has one. -/
structure Found (v top c k : Nat) : Prop where
  le_top : k ≤ top
  hit : nearest (c * 10 ^ k) = v
  choice : c = (neighbours v 1 k).1 ∨
    c = (neighbours v 1 k).2 ∧ nearest ((neighbours v 1 k).1 * 10 ^ k) ≠ v
  above : ∀ i, k < i → i ≤ top → ∀ a, nearest (a * 10 ^ i) ≠ v

namespace Found

variable {top : Nat}

/-- Other multiples that are rounded to the number are farther from it. -/
theorem closer (hf : Found v top c k) (hv : nearest v = v) (hi : nearest (i * 10 ^ k) = v)
    (hne : i ≠ c) :
    ((c * 10 ^ k : Nat) - v : Int).natAbs < ((i * 10 ^ k : Nat) - v : Int).natAbs := by
  obtain ⟨hle, hlt⟩ := between_neighbours v k
  have hchoice := hf.choice
  have hhit := hf.hit
  -- A multiple on the other side makes the neighbour there one that is rounded to the number.
  have hlow : i ≤ v / 10 ^ k → nearest (v / 10 ^ k * 10 ^ k) = v := fun h =>
    nearest_between (Nat.mul_le_mul_right _ h) hle hi hv
  have hhigh : v / 10 ^ k < i → nearest ((v / 10 ^ k + 1) * 10 ^ k) = v := fun h =>
    nearest_between (by rw [Nat.succ_mul]; exact hlt.le) (Nat.mul_le_mul_right _ h) hv hi
  rcases hnb : neighbours v 1 k with ⟨a, b⟩
  rw [hnb] at hchoice
  obtain ⟨q, hq⟩ : ∃ q, v / 10 ^ k = q := ⟨_, rfl⟩
  have htie := not_both_hit (k := k) hv
  have hspec := neighbours_spec hnb
  rw [hq] at hle hlt hlow hhigh htie hspec
  -- A tie would make both neighbours be rounded to the number, so the distances are not equal.
  have hside : c = q ∧ (q < i → 2 * v < 2 * (q * 10 ^ k) + 10 ^ k) ∨
      c = q + 1 ∧ (i ≤ q → 2 * (q * 10 ^ k) + 10 ^ k < 2 * v) := by
    rcases hspec with ⟨rfl, rfl, hnear⟩ | ⟨rfl, rfl, hnear⟩ <;>
      rcases hchoice with rfl | ⟨rfl, hmiss⟩
    · exact .inl ⟨rfl, fun h => Nat.lt_of_le_of_ne hnear fun heq => htie heq hhit (hhigh h)⟩
    · exact .inr ⟨rfl, fun h => absurd (hlow h) hmiss⟩
    · refine .inr ⟨rfl, fun h => Nat.lt_of_le_of_ne ?_ fun heq => htie heq.symm (hlow h) hhit⟩
      rw [Nat.succ_mul b] at hnear
      omega
    · exact .inl ⟨rfl, fun h => absurd (hhigh h) hmiss⟩
  rcases hside with ⟨rfl, hnear⟩ | ⟨rfl, hnear⟩
  · rcases Nat.lt_or_gt_of_ne hne with hbelow | habove
    · have hstep := Nat.mul_le_mul_right (10 ^ k) hbelow
      rw [Nat.succ_mul] at hstep
      omega
    · have hstep := Nat.mul_le_mul_right (10 ^ k) habove
      rw [Nat.succ_mul] at hstep
      have := hnear habove
      omega
  · rcases Nat.lt_or_gt_of_ne hne with hbelow | habove
    · have hstep := Nat.mul_le_mul_right (10 ^ k) (Nat.le_of_lt_succ hbelow)
      have := hnear (Nat.le_of_lt_succ hbelow)
      rw [Nat.succ_mul]
      omega
    · have hstep := Nat.mul_le_mul_right (10 ^ k) habove
      rw [Nat.succ_mul, Nat.succ_mul] at hstep
      rw [Nat.succ_mul]
      omega

/-- No number that is rounded to the same one ends in more zeros. -/
theorem zeros (hf : Found v (Nat.log 10 v) c k) (hv : nearest v = v) (hlarge : 10 ≤ v)
    (hj : nearest j = v) (ht : 10 ^ t ∣ j) : 10 ^ t ∣ c * 10 ^ k := by
  by_cases hle : t ≤ k
  · exact (Nat.pow_dvd_pow 10 hle).trans (Nat.dvd_mul_left _ _)
  have hne : j ≠ 0 := by
    rintro rfl
    have hzero : v = 0 := hj.symm
    omega
  have htop := le_log_succ_of_hit hlarge hj hne ht
  rcases Nat.eq_or_lt_of_le htop with rfl | hlt
  · -- Only the next power of ten ends in so many zeros, and then the number found is that one.
    have hceiling : v < 10 ^ (Nat.log 10 v + 1) := Nat.lt_pow_succ_log_self (by decide) v
    have hten : nearest (10 * 10 ^ Nat.log 10 v) = v := by
      rw [← Nat.pow_succ']
      exact nearest_between hceiling.le (Nat.le_of_dvd (Nat.pos_of_ne_zero hne) ht) hv hj
    have hk : k = Nat.log 10 v := by
      by_contra hk
      exact hf.above _ (Nat.lt_of_le_of_ne hf.le_top hk) (Nat.le_refl _) 10 hten
    have hhit := hf.hit
    rw [hk] at hhit ⊢
    rw [Nat.pow_succ', Nat.le_antisymm (le_of_hits hlarge hhit hten) (le_of_hits hlarge hten hhit)]
  · obtain ⟨x, rfl⟩ := ht
    rw [Nat.mul_comm] at hj
    exact absurd hj (hf.above t (by omega) (Nat.le_of_lt_succ hlt) x)

end Found

/-- A search that reaches a grid whose nearer neighbour is rounded to the number finds one. -/
theorem searchGrids_found {m : Nat} {e : Int} {grids top : Nat} (hd : 0 < d)
    (hread : ∀ c k : Nat, ofDecimal false c k = finite false m e ↔ nearest (c * 10 ^ k) = v)
    (hv : nearest v = v)
    (hsome : ∃ i ≤ top, top < i + grids ∧ nearest ((neighbours v 1 i).1 * 10 ^ i) = v) :
    ∃ c k : Nat, searchGrids (finite false m e) (v * d) d grids top = ⟨c, k⟩ ∧
      Found v top c k := by
  -- The induction is on the grids that are left; none of those above has such a number.
  induction grids generalizing top with
  | zero =>
    obtain ⟨i, hle, hlt, -⟩ := hsome
    omega
  | succ grids ih =>
    rw [searchGrids, neighbours_mul hd]
    rcases hnb : neighbours v 1 top with ⟨a, b⟩
    simp only [hread]
    by_cases ha : nearest (a * 10 ^ top) = v
    · rw [if_pos ha]
      exact ⟨a, top, rfl, le_refl _, ha, .inl (by rw [hnb]), fun i hlt hle => by omega⟩
    rw [if_neg ha]
    by_cases hb : nearest (b * 10 ^ top) = v
    · rw [if_pos hb]
      exact ⟨b, top, rfl, le_refl _, hb, .inr (by rw [hnb]; exact ⟨rfl, ha⟩),
        fun i hlt hle => by omega⟩
    rw [if_neg hb]
    -- The neighbours speak for the whole grid.
    have hmiss : ∀ c, nearest (c * 10 ^ top) ≠ v := fun c hc =>
      (neighbour_hit hv hnb hc).elim ha hb
    obtain ⟨i, hle, hlt, hi⟩ := hsome
    have hne : i ≠ top := fun heq => hmiss _ (heq ▸ hi)
    have hpred : (top : Int) - 1 = (top - 1 : Nat) := by omega
    obtain ⟨c, k, hsearch, hf⟩ := @ih (top - 1) ⟨i, by omega, by omega, hi⟩
    have hk := hf.le_top
    rw [hpred]
    refine ⟨c, k, hsearch, by omega, hf.hit, hf.choice, fun j hlt hle => ?_⟩
    rcases Nat.eq_or_lt_of_le hle with rfl | hbelow
    · exact hmiss
    · exact hf.above j hlt (by omega)

/-! ## Reading back -/

theorem ten_pow_le_two_pow (b : Nat) : 10 ^ (b * 3 / 10) ≤ 2 ^ b := by
  have hstart : ∀ r < 10, 10 ^ (r * 3 / 10) ≤ 2 ^ r := by decide
  have hdiv := Nat.div_add_mod b 10
  calc 10 ^ (b * 3 / 10) = 10 ^ (3 * (b / 10) + b % 10 * 3 / 10) := by congr 1; omega
    _ = (10 ^ 3) ^ (b / 10) * 10 ^ (b % 10 * 3 / 10) := by rw [Nat.pow_add, Nat.pow_mul]
    _ ≤ (2 ^ 10) ^ (b / 10) * 2 ^ (b % 10) :=
      Nat.mul_le_mul (Nat.pow_le_pow_left (by decide) _) (hstart _ (Nat.mod_lt b (by decide)))
    _ = 2 ^ b := by rw [← Nat.pow_mul, ← Nat.pow_add, hdiv]

theorem unitOf_le (hv : v ≠ 0) : unitOf v ≤ v :=
  (Nat.pow_le_pow_right (by decide) (Nat.sub_le _ _)).trans (Nat.log2_self_le hv)

/-- A decimal without fraction is read as the number that it is rounded to. -/
theorem ofDecimal_eq_iff {m : Nat} {e : Int} (hx : roundRatio false v 1 = finite false m e)
    (hv : nearest v = v) (hne : v ≠ 0) (hsmall : v < 10 ^ 20) (c k : Nat) :
    ofDecimal false c k = finite false m e ↔ nearest (c * 10 ^ k) = v := by
  obtain ⟨-, hm, -, -, -⟩ := finite_of_roundRatio_one hne hx
  rcases Nat.eq_zero_or_pos c with rfl | hc
  · rw [Nat.zero_mul]
    refine ⟨fun h => ?_, fun h => absurd h.symm hne⟩
    cases h
    exact absurd rfl hm
  have horder : ¬ (k : Int) + (Nat.log2 c : Int) * 3 / 10 < -400 := by omega
  simp only [ofDecimal, if_neg hc.ne', if_neg horder, Int.natCast_nonneg, if_true,
    Int.toNat_natCast, Nat.pow_eq]
  have hpos : c * 10 ^ k ≠ 0 := Nat.mul_ne_zero hc.ne' (Nat.pow_pos (by decide)).ne'
  split
  · next hhuge =>
    -- A decimal that is too large to be computed is far from the number.
    refine ⟨fun h => (by cases h), fun h => ?_⟩
    have hclose := (close_of_nearest_eq h).1
    have hunit := unitOf_le hne
    have hlarge : 10 ^ 21 ≤ c * 10 ^ k :=
      calc 10 ^ 21 ≤ 10 ^ (Nat.log2 c * 3 / 10 + k) :=
            Nat.pow_le_pow_right (by decide) (by omega)
        _ ≤ 2 ^ Nat.log2 c * 10 ^ k := by
            rw [Nat.pow_add]
            exact Nat.mul_le_mul_right _ (ten_pow_le_two_pow _)
        _ ≤ c * 10 ^ k := Nat.mul_le_mul_right _ (Nat.log2_self_le hc.ne')
    omega
  · rw [← hx, roundRatio_one_eq_iff hne hpos hx, hv]
    exact ⟨And.right, fun h => ⟨rfl, h⟩⟩

/-! ## Where the search begins -/

theorem decimalOrder_eq {steps g : Nat} (hd : 0 < d) (hv : v ≠ 0) (hlow : g ≤ Nat.log 10 v)
    (hhigh : Nat.log 10 v ≤ g + steps) : decimalOrder (v * d) d steps g = Nat.log 10 v := by
  induction steps generalizing g with
  | zero =>
    rw [decimalOrder]
    omega
  | succ steps ih =>
    have hnext : (g : Int) + 1 = (g + 1 : Nat) := rfl
    have hreached : d * 10 ^ (g + 1) ≤ v * d ↔ g + 1 ≤ Nat.log 10 v := by
      rw [Nat.mul_comm v, Nat.mul_le_mul_left_iff hd, Nat.le_log_iff_pow_le (by decide) hv]
    simp only [decimalOrder, hnext, Int.natCast_nonneg, if_true, Int.toNat_natCast, Nat.pow_eq,
      hreached]
    split
    · next hle => exact ih hle (by omega)
    · next hgt => omega

/-- Seventeen digits are enough. -/
theorem exists_neighbour_hit (hv : nearest v = v) (hne : v ≠ 0) :
    ∃ i ≤ Nat.log 10 v, Nat.log 10 v < i + 17 ∧
      nearest ((neighbours v 1 i).1 * 10 ^ i) = v := by
  rcases Nat.lt_or_ge (Nat.log 10 v) 17 with hshort | hlong
  · -- A number is its own neighbour among all integers.
    refine ⟨0, Nat.zero_le _, by omega, ?_⟩
    rcases hnb : neighbours v 1 0 with ⟨a, b⟩
    rcases neighbours_spec hnb with ⟨ha, -, -⟩ | ⟨hb, ha, hle⟩
    · simpa [ha] using hv
    · simp [ha, hb] at hle
      omega
  · -- On the grid of the seventeenth digit the nearer neighbour is close enough.
    obtain ⟨i, hi⟩ := Nat.exists_eq_add_of_le' (show 16 ≤ Nat.log 10 v by omega)
    refine ⟨i, by omega, by omega, ?_⟩
    have hfloor : 10 ^ (i + 16) ≤ v := hi ▸ Nat.pow_log_le_self 10 hne
    have hlarge : 2 ^ 53 ≤ v :=
      calc 2 ^ 53 ≤ 10 ^ 17 := by decide
        _ ≤ 10 ^ (i + 16) := Nat.pow_le_pow_right (by decide) (by omega)
        _ ≤ v := hfloor
    rw [Nat.pow_add] at hfloor
    obtain ⟨hle, hlt⟩ := between_neighbours v i
    rcases hnb : neighbours v 1 i with ⟨a, b⟩
    have hnear : 2 * v ≤ 2 * (a * 10 ^ i) + 10 ^ i ∧ 2 * (a * 10 ^ i) ≤ 2 * v + 10 ^ i := by
      rcases neighbours_spec hnb with ⟨rfl, -, hnear⟩ | ⟨rfl, rfl, hnear⟩
      · exact ⟨hnear, by omega⟩
      · refine ⟨?_, hnear⟩
        rw [Nat.succ_mul (v / 10 ^ i)]
        omega
    exact nearest_eq_of_close hv hlarge hfloor hnear.1 hnear.2

/-! ## The number that is found -/

/-- What a rounded number is written as: of the numbers that are rounded to it the one that ends in
the most zeros, and of those that end in as many the nearest. -/
structure IsWritten (v k : Nat) : Prop where
  hit : nearest k = v
  zeros : ∀ j, nearest j = v → ∀ t, 10 ^ t ∣ j → 10 ^ t ∣ k
  closer : ∀ j, nearest j = v → j ≠ k → (∀ t, 10 ^ t ∣ k → 10 ^ t ∣ j) →
    (k - v : Int).natAbs < (j - v : Int).natAbs

theorem Found.isWritten (hf : Found v (Nat.log 10 v) c k) (hv : nearest v = v) (hlarge : 10 ≤ v) :
    IsWritten v (c * 10 ^ k) where
  hit := hf.hit
  zeros j hj t ht := hf.zeros hv hlarge hj ht
  closer j hj hne hdvd := by
    obtain ⟨i, hi⟩ := hdvd k (Nat.dvd_mul_left _ _)
    rw [Nat.mul_comm] at hi
    subst hi
    exact hf.closer hv hj fun h => hne (h ▸ rfl)

/-- Up to 53 bits a number is written as it is. -/
theorem isWritten_of_le (h : v ≤ 2 ^ 53) : IsWritten v v := by
  have hself := nearest_of_le h
  -- The next number is rounded to the first with 54 bits as well; it does not end in a zero.
  have hor : ∀ j, nearest j = v → j = v ∨ (v = 2 ^ 53 ∧ j = 2 ^ 53 + 1) := by
    intro j hj
    obtain ⟨hhigh, hlow⟩ := close_of_nearest_eq hj
    rcases Nat.eq_or_lt_of_le h with rfl | hlt
    · have hunit : unitOf (2 ^ 53) = 2 := rfl
      have hbelow : j ≠ 2 ^ 53 - 1 := by
        rintro rfl
        rw [nearest_of_le (Nat.sub_le _ _)] at hj
        omega
      omega
    · rw [unitOf_of_lt hlt] at hhigh hlow
      omega
  refine ⟨hself, fun j hj t ht => ?_, fun j hj hne _ => ?_⟩
  · rcases hor j hj with rfl | ⟨rfl, rfl⟩
    · exact ht
    · rcases Nat.eq_zero_or_pos t with rfl | hpos
      · exact Nat.one_dvd _
      · have hten : 10 ∣ 2 ^ 53 + 1 := (Dvd.intro_left _ (Nat.pow_pred_mul hpos)).trans ht
        omega
  · rcases hor j hj with rfl | ⟨rfl, rfl⟩
    · exact absurd rfl hne
    · omega

/-- The shortest decimal of a rounded number. -/
theorem shortest_eq {m : Nat} {e : Int} (hx : roundRatio false v 1 = finite false m e)
    (hv : nearest v = v) (hlarge : 10 ^ 3 ≤ v) (hsmall : v < 10 ^ 20) :
    ∃ c k : Nat, shortest m e = Decimal.strip 20 ⟨c, k⟩ ∧ Found v (Nat.log 10 v) c k := by
  have hne : v ≠ 0 := by omega
  obtain ⟨-, -, -, -, i, hratio⟩ := finite_of_roundRatio_one hne hx
  rw [hv] at hratio
  have hlog : 9 ≤ Nat.log2 v := (Nat.le_log2 hne).2 (by omega)
  obtain ⟨g, hg⟩ : ∃ g, g + 2 = Nat.log2 v * 3 / 10 := ⟨Nat.log2 v * 3 / 10 - 2, by omega⟩
  have hguess : (Nat.log2 v : Int) * 3 / 10 - 2 = (g : Nat) := by omega
  have hlow : g ≤ Nat.log 10 v := by
    have hbits : 10 ^ (g + 2) ≤ v :=
      hg ▸ (ten_pow_le_two_pow _).trans (Nat.log2_self_le hne)
    exact (Nat.le_add_right g 2).trans (Nat.le_log_of_pow_le (by decide) hbits)
  have hhigh : Nat.log 10 v < 20 := Nat.log_lt_of_lt_pow hne hsmall
  obtain ⟨c, k, hsearch, hf⟩ := searchGrids_found (Nat.two_pow_pos i)
    (ofDecimal_eq_iff hx hv hne hsmall) hv (exists_neighbour_hit hv hne)
  refine ⟨c, k, ?_, hf⟩
  have horder : decimalOrder (v * 2 ^ i) (2 ^ i) 20 g = Nat.log 10 v :=
    decimalOrder_eq (Nat.two_pow_pos i) hne hlow (by omega)
  simp only [shortest, hratio, binaryOrder_mul hne, hguess, horder, hsearch]

theorem strip_eq (steps c k : Nat) :
    ∃ c' k' : Nat, Decimal.strip steps ⟨c, k⟩ = ⟨c', k'⟩ ∧ c' * 10 ^ k' = c * 10 ^ k := by
  induction steps generalizing c k with
  | zero => exact ⟨c, k, rfl, rfl⟩
  | succ steps ih =>
    simp only [Decimal.strip]
    split
    · next hzero =>
      obtain ⟨c', k', hstrip, hvalue⟩ := ih (c / 10) (k + 1)
      refine ⟨c', k', hstrip, ?_⟩
      rw [hvalue, Nat.pow_succ', ← Nat.mul_assoc,
        Nat.div_mul_cancel (Nat.dvd_of_mod_eq_zero hzero.1)]
    · exact ⟨c, k, rfl, rfl⟩

theorem digits_mul_ten_pow (hc : c ≠ 0) (k : Nat) :
    Text.digits c ++ List.replicate k '0' = Text.digits (c * 10 ^ k) := by
  induction k with
  | zero => simp
  | succ k ih =>
    have hpos : 0 < c * 10 ^ k := Nat.mul_pos (by omega) (Nat.pow_pos (by decide))
    rw [List.replicate_succ', ← List.append_assoc, ih, Nat.pow_succ', Nat.mul_left_comm]
    exact Nat.toDigits_append_toDigits (b := 10) (d := 0) (by decide) hpos (by decide)

/-- A rounded number without exponent is written as a natural number. -/
theorem positionalDigits_shortest {m : Nat} {e : Int}
    (hx : roundRatio false v 1 = finite false m e) (hv : nearest v = v) (hlarge : 10 ^ 3 ≤ v)
    (hsmall : v < 10 ^ 20) :
    ∃ k, positionalDigits (shortest m e) = Text.digits k ∧ IsWritten v k := by
  obtain ⟨c, k, hshortest, hf⟩ := shortest_eq hx hv hlarge hsmall
  obtain ⟨c', k', hstrip, hvalue⟩ := strip_eq 20 c k
  refine ⟨c * 10 ^ k, ?_, hf.isWritten hv (by omega)⟩
  -- Zeros behind a coefficient are digits only if it is not zero itself.
  have hc : c' ≠ 0 := by
    rintro rfl
    have hzero := hf.hit
    rw [← hvalue, Nat.zero_mul] at hzero
    have : v = 0 := hzero.symm
    omega
  rw [hshortest, hstrip]
  simp only [positionalDigits, Int.natCast_nonneg, if_true, Int.toNat_natCast,
    digits_mul_ten_pow hc, hvalue]

end Grids

end Binary64
end StaticBlog
