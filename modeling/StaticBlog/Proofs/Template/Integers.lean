import Mathlib.Tactic.Ring
import StaticBlog.Proofs.Decimal.Shortest
import StaticBlog.Proofs.Text.Digits
import StaticBlog.Template.Value
import StaticBlog.Yaml.Value

/-!
# Printed integers

A template holds every number as a binary number of 53 bits, so several large integers are one
number there, and one of them is what is printed.

- `IsPlainest` : the integer that is printed for all integers with its binary number
- `IsPlainest.unique` : there is at most one
- `numberText_ofInt` : an integer as it is printed
- `integers_printed_plainest` : which integer is printed, and which ones as they are written
-/

namespace StaticBlog
namespace Binary64

/-! ## Integers with one binary number -/

section Integers

variable {j k n : Int}

/-- An integer that is written as it is: no integer that becomes the same binary number ends in more
zeros, and none that ends in as many is nearer to that number. -/
structure IsPlainest (k : Int) : Prop where
  zeros : ∀ j, ofInt j = ofInt k → ∀ t : Nat, 10 ^ t ∣ j → 10 ^ t ∣ k
  closer : ∀ j, ofInt j = ofInt k → j ≠ k → (∀ t : Nat, 10 ^ t ∣ k → 10 ^ t ∣ j) →
    (k - whole (ofInt k)).natAbs < (j - whole (ofInt k)).natAbs

/-- No two integers with the same binary number are both written as they are. -/
theorem IsPlainest.unique (hj : IsPlainest j) (hk : IsPlainest k) (h : ofInt j = ofInt k) :
    j = k := by
  by_contra hne
  have hjk := hj.closer k h.symm (Ne.symm hne) (hk.zeros j h)
  have hkj := hk.closer j h hne (hj.zeros k h.symm)
  rw [h] at hjk
  omega

theorem ofInt_ne_zero (hn : n ≠ 0) : ofInt n ≠ ofInt 0 := by
  intro h
  have hzero : ofInt n = finite false 0 minExponent := h
  exact (finite_of_roundRatio_one (Int.natAbs_ne_zero.2 hn) hzero).2.1 rfl

theorem isPlainest_zero : IsPlainest 0 where
  zeros _ _ _ _ := Int.dvd_zero _
  closer _ hj hne _ := absurd hj (ofInt_ne_zero hne)

theorem ten_pow_dvd (t : Nat) (j : Int) : (10 : Int) ^ t ∣ j ↔ 10 ^ t ∣ j.natAbs := by
  rw [← Int.natCast_dvd]
  push_cast
  rfl

theorem exists_ofInt (hn : n ≠ 0) (hsmall : n.natAbs < 2 ^ 200) :
    ∃ m e, ofInt n = finite (n < 0) m e :=
  exists_roundRatio_one _ (Int.natAbs_ne_zero.2 hn) hsmall

theorem ofInt_eq_iff (hj : j ≠ 0) (hk : k ≠ 0) (hsmall : k.natAbs < 2 ^ 200) :
    ofInt j = ofInt k ↔ (j < 0 ↔ k < 0) ∧ nearest j.natAbs = nearest k.natAbs := by
  obtain ⟨m, e, hfinite⟩ := exists_ofInt hk hsmall
  rw [ofInt, ofInt, roundRatio_one_eq_iff (Int.natAbs_ne_zero.2 hk) (Int.natAbs_ne_zero.2 hj)
    hfinite, decide_eq_decide]

theorem whole_ofInt (hn : n ≠ 0) (hsmall : n.natAbs < 2 ^ 200) :
    whole (ofInt n) = if n < 0 then -(nearest n.natAbs : Int) else nearest n.natAbs := by
  obtain ⟨m, e, hfinite⟩ := exists_ofInt hn hsmall
  obtain ⟨-, -, -, hvalue, -⟩ := finite_of_roundRatio_one (Int.natAbs_ne_zero.2 hn) hfinite
  simp only [hfinite, whole, hvalue, decide_eq_true_eq]

/-- What is written of a natural number is written of the integers of its size. -/
theorem IsWritten.isPlainest {v : Nat} (hw : IsWritten v k.natAbs) (hk : k ≠ 0)
    (hsmall : k.natAbs < 2 ^ 200) : IsPlainest k := by
  have hsame : ∀ i, ofInt i = ofInt k → (i < 0 ↔ k < 0) ∧ nearest i.natAbs = v := by
    intro i h
    have hi : i ≠ 0 := by
      rintro rfl
      exact ofInt_ne_zero hk h.symm
    rwa [ofInt_eq_iff hi hk hsmall, hw.hit] at h
  constructor
  · intro _ h t ht
    rw [ten_pow_dvd] at ht ⊢
    exact hw.zeros _ (hsame _ h).2 t ht
  · intro j h hne hzeros
    obtain ⟨hsign, hj⟩ := hsame j h
    simp only [ten_pow_dvd] at hzeros
    have hcloser := hw.closer _ hj (by omega) hzeros
    rw [whole_ofInt hk hsmall, hw.hit]
    split <;> omega

theorem isPlainest_of_le (h : n.natAbs ≤ 2 ^ 53) : IsPlainest n := by
  by_cases hn : n = 0
  · rw [hn]
    exact isPlainest_zero
  · exact (isWritten_of_le h).isPlainest hn (h.trans_lt (by decide))

/-! ## What is printed -/

theorem signed_of_nat {k : Nat} (s : Bool) (hk : k ≠ 0) :
    Text.signed (if s then -(k : Int) else k) = signChars s ++ Text.digits k := by
  cases s
  · have hnonneg : ¬ (k : Int) < 0 := by omega
    simp [Text.signed, signChars, hnonneg]
  · have hpos : 0 < k := Nat.pos_of_ne_zero hk
    simp [Text.signed, signChars, hpos]

/-- Integers that are written alike are the same. -/
theorem signed_injective (h : Text.signed j = Text.signed k) : j = k := by
  have hminus : ∀ i : Nat, ∀ ds, Text.digits i ≠ '-' :: ds := fun i ds hds => by
    have hdigit := Text.isDigit_of_mem_digits (n := i) (c := '-') (by rw [hds]; simp)
    exact absurd hdigit (by decide)
  unfold Text.signed at h
  split at h <;> split at h
  · have habs := Text.digits_injective (List.cons.inj h).2
    omega
  · exact absurd h.symm (hminus _ _)
  · exact absurd h (hminus _ _)
  · have habs := Text.digits_injective h
    omega

/-- A rounded integer is printed as the natural number that it is written as, behind its sign. -/
theorem exists_numberText (hn : n ≠ 0) (hsmall : n.natAbs ≤ 2 ^ 64) :
    ∃ k, Value.numberText (ofInt n) = signChars (n < 0) ++ Text.digits k ∧
      IsWritten (nearest n.natAbs) k := by
  have hne : n.natAbs ≠ 0 := Int.natAbs_ne_zero.2 hn
  obtain ⟨m, e, hfinite⟩ := exists_ofInt hn (hsmall.trans_lt (by decide))
  obtain ⟨-, hm, hwhole, hvalue, -⟩ := finite_of_roundRatio_one hne hfinite
  have hbound : nearest n.natAbs ≤ 2 ^ 64 := nearest_mono hsmall
  rw [hfinite]
  simp only [Value.numberText, hwhole, hvalue, Bool.true_and, decide_eq_true_eq]
  split
  · next hlt =>
    -- So small a number has at most 53 bits.
    have hlimit : nearest n.natAbs < 10 ^ 15 := hlt
    refine ⟨nearest n.natAbs, ?_, isWritten_of_le (by omega)⟩
    rw [← signed_of_nat _ (nearest_ne_zero hne)]
    simp only [decide_eq_true_eq]
  · next hge =>
    have hlimit : ¬ nearest n.natAbs < 10 ^ 15 := hge
    have hx : roundRatio false (nearest n.natAbs) 1 = finite false m e := by
      rw [roundRatio_nearest]
      exact roundRatio_one_sign false hne hfinite
    obtain ⟨k, hdigits, hk⟩ :=
      positionalDigits_shortest hx (nearest_nearest _) (by omega) (by omega)
    refine ⟨k, ?_, hk⟩
    cases m with
    | zero => exact absurd rfl hm
    | succ m => exact congrArg _ hdigits

/-- An integer is printed as the integer that is written as it is and becomes the same binary
number. -/
theorem numberText_ofInt (hsmall : n.natAbs ≤ 2 ^ 64) :
    ∃ k, Value.numberText (ofInt n) = Text.signed k ∧ ofInt k = ofInt n ∧ IsPlainest k := by
  by_cases hn : n = 0
  · subst hn
    exact ⟨0, by decide +kernel, rfl, isPlainest_zero⟩
  obtain ⟨k, hprinted, hk⟩ := exists_numberText hn hsmall
  have hbound : nearest n.natAbs ≤ 2 ^ 64 := nearest_mono hsmall
  have hvalue : nearest n.natAbs ≠ 0 := nearest_ne_zero (Int.natAbs_ne_zero.2 hn)
  have hpos : k ≠ 0 := by
    rintro rfl
    exact hvalue hk.hit.symm
  have hlimit : k < 2 ^ 66 := by
    have hclose := (close_of_nearest_eq hk.hit).1
    have hunit := unitOf_le hvalue
    omega
  -- The digits that are printed, with the sign of the integer.
  obtain ⟨i, hi⟩ : ∃ i, i = if n < 0 then -(k : Int) else k := ⟨_, rfl⟩
  have habs : i.natAbs = k := by rw [hi]; split <;> omega
  have hne : i ≠ 0 := by omega
  have hsign : i < 0 ↔ n < 0 := by rw [hi]; split <;> omega
  refine ⟨i, ?_, ?_, ?_⟩
  · rw [hprinted, ← signed_of_nat _ hpos, hi]
    simp only [decide_eq_true_eq]
  · rw [ofInt_eq_iff hne hn (hsmall.trans_lt (by decide)), habs]
    exact ⟨hsign, hk.hit⟩
  · rw [← habs] at hk hlimit
    exact hk.isPlainest hne (hlimit.trans (by decide))

end Integers

end Binary64

open Binary64

/-- A field as a template prints it. -/
def printedField (field : Yaml) : Except Yaml.KeyFault String :=
  field.toJson.map fun json => (Value.ofJson json).text

/-- An integer field is printed as an integer with the same binary number, of these the one that
ends in the most zeros and among those the nearest. So it is printed as it is written exactly if it
is that integer itself, as all integers of up to 53 bits are. -/
theorem integers_printed_plainest (n : Int) (hn : Numeral.isWord n = true) :
    (∃ k, printedField (.number (.int n)) = .ok (String.ofList (Text.signed k)) ∧
      ofInt k = ofInt n ∧ IsPlainest k) ∧
    (printedField (.number (.int n)) = .ok (String.ofList (Text.signed n)) ↔ IsPlainest n) ∧
    (n.natAbs ≤ 2 ^ 53 → IsPlainest n) := by
  have hword : -2 ^ 63 ≤ n ∧ n < 2 ^ 64 := by
    simpa [Numeral.isWord] using hn
  obtain ⟨k, hprinted, hsame, hk⟩ := numberText_ofInt (n := n) (by omega)
  have hfield : printedField (.number (.int n)) = .ok (String.ofList (Text.signed k)) :=
    congrArg (fun cs => Except.ok (String.ofList cs)) hprinted
  refine ⟨⟨k, hfield, hsame, hk⟩, ⟨fun h => ?_, fun h => ?_⟩, isPlainest_of_le⟩
  · rw [hfield] at h
    have hkn : k = n := signed_injective (String.ofList_injective (Except.ok.inj h))
    exact hkn ▸ hk
  · rw [hfield, hk.unique h hsame]

theorem largest_integer_printed :
    Numeral.isWord 18446744073709551615 = true ∧
      printedField (.number (.int 18446744073709551615)) = .ok "18446744073709552000" ∧
      ¬ IsPlainest 18446744073709551615 := by
  have hword : Numeral.isWord 18446744073709551615 = true := by decide
  have hprinted : printedField (.number (.int 18446744073709551615)) =
      .ok "18446744073709552000" := by decide +kernel
  refine ⟨hword, hprinted, fun hplainest => ?_⟩
  have hwritten := (integers_printed_plainest _ hword).2.1.2 hplainest
  rw [hprinted] at hwritten
  exact absurd hwritten (by decide +kernel)

/-- Not every integer is printed as it is written. -/
theorem printed_with_other_digits :
    ¬ ∀ n, Numeral.isWord n = true →
      printedField (.number (.int n)) = .ok (String.ofList (Text.signed n)) := by
  intro h
  exact absurd (h 9007199254740993 (by decide)) (by decide +kernel)

end StaticBlog
