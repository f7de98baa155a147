import StaticBlog.Proofs.Text.Percent

/-!
# The order of texts by their bytes

Texts are compared by their characters here, file systems list names by their bytes. These are the same
order, as the bytes of a later character come later.

- `Text.BytesBefore` : whether the bytes of a text come before those of another one
- `Text.lex_utf8EncodeChar` : the bytes of a later character come later, whatever follows them
- `Text.bytesBefore_of_lt` : a text that comes before another one by its characters does so by its bytes
-/

namespace StaticBlog
namespace Text

open Percent

variable {c c' : Char} {m n : Nat} {x y : List UInt8}

/-- Whether the bytes of a text come before those of another one. -/
def BytesBefore (s t : List Char) : Prop := List.Lex (· < ·) (bytes s) (bytes t)

/-! ## Digits -/

/-- Bytes are compared at the front, and behind it if they are the same there. -/
theorem lex_byte (hn : n < 256) (h : m < n ∨ m = n ∧ List.Lex (· < ·) x y) :
    List.Lex (· < ·) (UInt8.ofNat m :: x) (UInt8.ofNat n :: y) := by
  obtain hlt | ⟨rfl, hrest⟩ := h
  · apply List.Lex.rel
    rw [UInt8.lt_iff_toNat_lt, UInt8.toNat_ofNat', UInt8.toNat_ofNat']
    omega
  · exact List.Lex.cons hrest

/-- Numbers that are the same in front of their last digit of six bits are compared there. -/
theorem lex_lastDigit (hsame : m / 64 = n / 64) (h : m < n) :
    List.Lex (· < ·) (UInt8.ofNat (m % 64 + 128) :: x) (UInt8.ofNat (n % 64 + 128) :: y) :=
  lex_byte (by omega) (.inl (by omega))

/-- Numbers that are the same in front of another digit are compared there, or behind it. -/
theorem lex_digit (place : Nat) (hsame : m / place / 64 = n / place / 64) (h : m < n)
    (hrest : m / place = n / place → List.Lex (· < ·) x y) :
    List.Lex (· < ·) (UInt8.ofNat (m / place % 64 + 128) :: x)
      (UInt8.ofNat (n / place % 64 + 128) :: y) := by
  have hle : m / place ≤ n / place := Nat.div_le_div_right (Nat.le_of_lt h)
  apply lex_byte (by omega)
  obtain hlt | heq := Nat.lt_or_eq_of_le hle
  · exact .inl (by omega)
  · exact .inr ⟨by rw [heq], hrest heq⟩

/-! ## Characters -/

/-- The bytes of a later character come later, whatever follows them. -/
theorem lex_utf8EncodeChar (h : c < c') (x y : List UInt8) :
    List.Lex (· < ·) (String.utf8EncodeChar c ++ x) (String.utf8EncodeChar c' ++ y) := by
  have hlt : c.val.toNat < c'.val.toNat := UInt32.lt_iff_toNat_lt.1 h
  have hmax : c'.val.toNat < 0x110000 := by
    have hvalid := c'.valid
    simp only [UInt32.isValidChar, Nat.isValidChar] at hvalid
    omega
  unfold String.utf8EncodeChar
  generalize c.val.toNat = m at *
  generalize c'.val.toNat = n at *
  dsimp only
  -- A character with more bytes has a greater first byte. With as many bytes, the later one has a greater
  -- first byte as well, or it is the digits behind it that differ.
  split
  -- One byte.
  · split
    · exact lex_byte (by omega) (.inl hlt)
    · split
      · exact lex_byte (by omega) (.inl (by omega))
      · split <;> exact lex_byte (by omega) (.inl (by omega))
  · rw [if_neg (show ¬ n ≤ 127 by omega)]
    split
    -- Two bytes.
    · split
      · apply lex_byte (by omega)
        by_cases hfirst : m / 64 < n / 64
        · exact .inl (by omega)
        · exact .inr ⟨by omega, lex_lastDigit (by omega) hlt⟩
      · split <;> exact lex_byte (by omega) (.inl (by omega))
    · rw [if_neg (show ¬ n ≤ 2047 by omega)]
      split
      -- Three bytes.
      · split
        · apply lex_byte (by omega)
          by_cases hfirst : m / 4096 < n / 4096
          · exact .inl (by omega)
          · refine .inr ⟨by omega, ?_⟩
            exact lex_digit 64 (by omega) hlt fun hdigit => lex_lastDigit hdigit hlt
        · exact lex_byte (by omega) (.inl (by omega))
      -- Four bytes.
      · rw [if_neg (show ¬ n ≤ 65535 by omega)]
        apply lex_byte (by omega)
        by_cases hfirst : m / 262144 < n / 262144
        · exact .inl (by omega)
        · refine .inr ⟨by omega, ?_⟩
          refine lex_digit 4096 (by omega) hlt fun hdigit => ?_
          exact lex_digit 64 (by omega) hlt fun hdigit => lex_lastDigit hdigit hlt

/-! ## Texts -/

theorem lex_append_self (front : List UInt8) (h : List.Lex (· < ·) x y) :
    List.Lex (· < ·) (front ++ x) (front ++ y) := by
  induction front with
  | nil => exact h
  | cons b front ih => exact List.Lex.cons ih

/-- A text that comes before another one by its characters does so by its bytes. -/
theorem bytesBefore_of_lt {s t : List Char} (h : List.Lex (· < ·) s t) : BytesBefore s t := by
  unfold BytesBefore
  induction h with
  | @nil c t =>
    -- Every character has a byte.
    have hne : String.utf8EncodeChar c ≠ [] := by
      rcases utf8EncodeChar_cases c with ⟨-, hone⟩ | ⟨-, hne, -⟩
      · simp [hone]
      · exact hne
    obtain ⟨b, bs, hbytes⟩ := List.exists_cons_of_ne_nil hne
    rw [bytes_cons, hbytes]
    exact List.Lex.nil
  | @rel c s c' t hc =>
    rw [bytes_cons, bytes_cons]
    exact lex_utf8EncodeChar hc _ _
  | @cons c s t _ ih =>
    rw [bytes_cons, bytes_cons]
    exact lex_append_self _ ih

end Text
end StaticBlog
