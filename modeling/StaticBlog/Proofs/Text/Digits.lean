import Mathlib.Data.List.TakeWhile
import StaticBlog.Text.Blank
import StaticBlog.Text.Digits

/-!
# Digits read back

A number that has been written in decimal is read as that number.

- `valueOf_fixed`, `valueOf_digits` : the values of written numbers
- `leading_append` : digits at the start of a text
- `IsNumeral` : digits that spell a number, and how they are read
-/

namespace StaticBlog
namespace Text

variable {c : Char} {ds rest : List Char} {n w low high : Nat}

/-! ## Digits and their values -/

theorem digitChar_spec (n : Nat) :
    (digitChar n).isDigit = true ∧ digitValue (digitChar n) = n % 10 := by
  have hdigit : ∀ d < 10, (Char.ofNat (0x30 + d)).isDigit = true ∧
      digitValue (Char.ofNat (0x30 + d)) = d := by decide
  exact hdigit (n % 10) (Nat.mod_lt n (by decide))

theorem isDigit_of_mem_fixed (h : c ∈ fixed w n) : c.isDigit = true := by
  induction w generalizing n with
  | zero => cases h
  | succ w ih =>
    rcases List.mem_append.1 h with h | h
    · exact ih h
    · rw [List.mem_singleton.1 h]
      exact (digitChar_spec n).1

theorem fixed_ne_nil (hw : w ≠ 0) : fixed w n ≠ [] := by
  intro h
  have hlength := length_fixed w n
  rw [h] at hlength
  exact hw hlength.symm

theorem isDigit_of_mem_digits (h : c ∈ digits n) : c.isDigit = true :=
  Nat.isDigit_of_mem_toDigits (b := 10) (by decide) (by decide) h

theorem isDigit_of_mem_atLeast (h : c ∈ atLeast w n) : c.isDigit = true := by
  unfold atLeast at h
  split at h
  · exact isDigit_of_mem_fixed h
  · exact isDigit_of_mem_digits h

theorem valueOf_append_singleton (ds : List Char) (c : Char) :
    valueOf (ds ++ [c]) = 10 * valueOf ds + digitValue c := by
  simp [valueOf]

theorem valueOf_fixed (w n : Nat) : valueOf (fixed w n) = n % Nat.pow 10 w := by
  induction w generalizing n with
  | zero => exact (Nat.mod_one n).symm
  | succ w ih =>
    have hpow : Nat.pow 10 (w + 1) = 10 * Nat.pow 10 w := Nat.pow_succ'
    rw [fixed, valueOf_append_singleton, ih, (digitChar_spec n).2, hpow, Nat.mod_mul]
    omega

theorem valueOf_digits (n : Nat) : valueOf (digits n) = n :=
  calc valueOf (digits n) = Nat.ofDigitChars 10 (digits n) 0 := rfl
    _ = n := Nat.ofDigitChars_ten_toDigits

theorem digits_injective {m n : Nat} (h : digits m = digits n) : m = n := by
  calc m = valueOf (digits m) := (valueOf_digits m).symm
    _ = valueOf (digits n) := congrArg valueOf h
    _ = n := valueOf_digits n

theorem valueOf_atLeast (w n : Nat) : valueOf (atLeast w n) = n := by
  unfold atLeast
  split
  · next h => exact (valueOf_fixed w n).trans (Nat.mod_eq_of_lt h)
  · exact valueOf_digits n

theorem atLeast_ne_nil (hw : w ≠ 0) : atLeast w n ≠ [] := by
  unfold atLeast
  split
  · exact fixed_ne_nil hw
  · exact Nat.toDigits_ne_nil

/-! ## Reading digits -/

theorem isBlank_of_isDigit (h : c.isDigit = true) : isBlank c = false := by
  have hrange : 0x30 ≤ c.toNat ∧ c.toNat ≤ 0x39 := by
    simpa [Char.isDigit, UInt32.le_iff_toNat_le] using h
  simp [isBlank]
  omega

/-- The digits that a text begins with are read as far as they go, if they are not too many. -/
theorem leading_append (hds : ∀ c ∈ ds, c.isDigit = true) (hlow : low ≤ ds.length)
    (hhigh : ds.length ≤ high) (hrest : ds.length = high ∨ rest.head?.any Char.isDigit = false) :
    leading low high (ds ++ rest) = some (valueOf ds, rest) := by
  have hspan : ((ds ++ rest).take high).takeWhile Char.isDigit = ds := by
    rw [List.take_append, List.take_of_length_le hhigh,
      List.takeWhile_append_of_pos hds]
    rcases hrest with rfl | hrest
    · simp
    · cases rest with
      | nil => simp
      | cons c rest =>
        have hc : c.isDigit = false := hrest
        cases h : high - ds.length <;> simp [hc]
  rw [leading, hspan]
  simp [Nat.not_lt.2 hlow]

/-- Digits that spell a number, at least `low` and at most `high` of them. -/
structure IsNumeral (low high n : Nat) (ds : List Char) : Prop where
  isDigit : ∀ c ∈ ds, c.isDigit = true
  low_le : low ≤ ds.length
  le_high : ds.length ≤ high
  value : valueOf ds = n

instance (low high n : Nat) (ds : List Char) : Decidable (IsNumeral low high n ds) :=
  decidable_of_iff
    (ds.all Char.isDigit = true ∧ low ≤ ds.length ∧ ds.length ≤ high ∧ valueOf ds = n)
    ⟨fun h => ⟨List.all_eq_true.1 h.1, h.2.1, h.2.2.1, h.2.2.2⟩,
      fun h => ⟨List.all_eq_true.2 h.isDigit, h.low_le, h.le_high, h.value⟩⟩

theorem isNumeral_fixed (hlow : low ≤ w) (hhigh : w ≤ high) (hn : n < Nat.pow 10 w) :
    IsNumeral low high n (fixed w n) where
  isDigit _ hc := isDigit_of_mem_fixed hc
  low_le := by rwa [length_fixed]
  le_high := by rwa [length_fixed]
  value := (valueOf_fixed w n).trans (Nat.mod_eq_of_lt hn)

theorem IsNumeral.ne_nil (h : IsNumeral low high n ds) (hlow : 0 < low) : ds ≠ [] :=
  List.length_pos_iff.1 (Nat.lt_of_lt_of_le hlow h.low_le)

theorem IsNumeral.leading_append (h : IsNumeral low high n ds)
    (hrest : ds.length = high ∨ rest.head?.any Char.isDigit = false) :
    leading low high (ds ++ rest) = some (n, rest) := by
  rw [Text.leading_append h.isDigit h.low_le h.le_high hrest, h.value]

/-- What has been read is a numeral in front of the rest. -/
theorem exists_isNumeral_of_leading {s : List Char} (h : leading low high s = some (n, rest)) :
    ∃ ds, IsNumeral low high n ds ∧ s = ds ++ rest := by
  have hfront : (s.take high).takeWhile Char.isDigit <+: s :=
    (List.takeWhile_prefix _).trans (List.take_prefix high s)
  simp only [leading] at h
  split at h
  · cases h
  · next hlow =>
    cases h
    refine ⟨(s.take high).takeWhile Char.isDigit, ⟨fun c hc => ?_, Nat.not_lt.1 hlow, ?_, rfl⟩, ?_⟩
    · exact List.mem_takeWhile_imp hc
    · exact (List.takeWhile_prefix _).length_le.trans (List.length_take_le high s)
    · exact (List.prefix_iff_eq_append.1 hfront).symm

/-- Where the number of digits is fixed, what follows does not matter. -/
theorem leading_fixed_iff {s : List Char} :
    leading w w s = some (n, rest) ↔ ∃ ds, IsNumeral w w n ds ∧ s = ds ++ rest := by
  constructor
  · exact exists_isNumeral_of_leading
  · rintro ⟨ds, hds, rfl⟩
    exact hds.leading_append (Or.inl (Nat.le_antisymm hds.le_high hds.low_le))

end Text
end StaticBlog
