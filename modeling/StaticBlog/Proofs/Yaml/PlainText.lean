import Mathlib.Data.List.TakeWhile
import StaticBlog.Yaml.Plain

/-!
# Plain scalars that are text

Nothing, truth values and numbers have no space in them, so a plain scalar of several words is text.
-/

namespace StaticBlog
namespace Yaml

variable {s t ds : List Char}

theorem digitIn?_space (base : Nat) : digitIn? base ' ' = none := by
  have hdigit : ' '.isDigit = false := by decide
  simp [digitIn?, hdigit]

/-- Reading digits ends at a blank. -/
theorem foldlM_digitIn?_of_mem_space (base : Nat) (h : ' ' ∈ ds) (n : Nat) :
    ds.foldlM (fun n c => (digitIn? base c).map fun d => n * base + d) n = none := by
  induction ds generalizing n with
  | nil => cases h
  | cons c ds ih =>
    rw [List.foldlM_cons]
    rcases List.mem_cons.1 h with rfl | h
    · rw [digitIn?_space]
      rfl
    · cases digitIn? base c with
      | none => rfl
      | some d => exact ih h _

theorem numberIn?_of_mem_space (base : Nat) (h : ' ' ∈ ds) : numberIn? base ds = none := by
  rw [numberIn?]
  split
  · rfl
  · exact foldlM_digitIn?_of_mem_space base h 0

theorem natural?_of_mem_space (h : ' ' ∈ s) : natural? s = none := by
  unfold natural?
  split
  · exact numberIn?_of_mem_space 16 (by simpa using h)
  · exact numberIn?_of_mem_space 8 (by simpa using h)
  · exact numberIn?_of_mem_space 2 (by simpa using h)
  · split
    · rfl
    · exact numberIn?_of_mem_space 10 h

theorem integer?_of_mem_space (h : ' ' ∈ s) : integer? s = none := by
  unfold integer?
  split
  · rw [natural?_of_mem_space (by simpa using h)]
    rfl
  · rw [natural?_of_mem_space (by simpa using h)]
    rfl
  · rw [natural?_of_mem_space h]
    rfl

theorem mem_dropWhile_isDigit (h : ' ' ∈ s) : ' ' ∈ s.dropWhile Char.isDigit := by
  rw [← List.takeWhile_append_dropWhile (p := Char.isDigit) (l := s), List.mem_append] at h
  rcases h with h | h
  · exact absurd (List.mem_takeWhile_imp h) (by decide)
  · exact h

theorem drop_takeWhile_isDigit (s : List Char) :
    s.drop (s.takeWhile Char.isDigit).length = s.dropWhile Char.isDigit := by
  have hcut : s.takeWhile Char.isDigit ++ s.drop (s.takeWhile Char.isDigit).length = s :=
    List.prefix_iff_eq_append.1 (List.takeWhile_prefix Char.isDigit)
  exact List.append_cancel_left (hcut.trans List.takeWhile_append_dropWhile.symm)

theorem exponent?_of_mem_space (h : ' ' ∈ s) : exponent? s = none := by
  unfold exponent?
  split
  · cases h
  · next c s =>
    split
    · next hc =>
      have hmem : ' ' ∈ s := by
        rcases List.mem_cons.1 h with rfl | hmem
        · cases hc
        · exact hmem
      split
      · rw [numberIn?_of_mem_space 10 (by simpa using hmem)]
        rfl
      · rw [numberIn?_of_mem_space 10 (by simpa using hmem)]
        rfl
      · rw [numberIn?_of_mem_space 10 hmem]
        rfl
    · rfl

/-- A space can stand neither among the digits nor in the exponent of a decimal. -/
theorem decimal?_of_mem_space (h : ' ' ∈ s) : decimal? s = none := by
  have hrest := mem_dropWhile_isDigit h
  unfold decimal?
  simp only [drop_takeWhile_isDigit]
  split
  · next t heq =>
    rw [heq] at hrest
    have hafter : ' ' ∈ t.dropWhile Char.isDigit := mem_dropWhile_isDigit (by simpa using hrest)
    simp [exponent?_of_mem_space hafter]
  · simp [exponent?_of_mem_space hrest]

theorem ofList_ne_of_mem_space (h : ' ' ∈ s) {word : String} (hword : ' ' ∉ word.toList) :
    String.ofList s ≠ word := by
  rintro rfl
  exact hword (by simpa using h)

theorem float?_of_mem_space (h : ' ' ∈ s) : float? s = none := by
  have hword : ∀ w : String, ' ' ∉ w.toList → String.ofList s ≠ w :=
    fun w => ofList_ne_of_mem_space h
  unfold float?
  simp only [List.contains_eq_mem, List.mem_cons, List.not_mem_nil]
  split
  · next hinf => simp [hword] at hinf
  split
  · next hinf => simp [hword] at hinf
  split
  · next hnan => simp [hword] at hnan
  split
  · rw [decimal?_of_mem_space (by simpa using h)]
    rfl
  · rw [decimal?_of_mem_space (by simpa using h)]
    rfl
  · rw [decimal?_of_mem_space h]
    rfl

theorem isNullWord_of_mem_space (h : ' ' ∈ s) : isNullWord (String.ofList s) = false := by
  simp [isNullWord, ofList_ne_of_mem_space h]

/-- A plain scalar with a space in it is text. -/
theorem plainMeaning_of_mem_space (h : ' ' ∈ s) : plainMeaning (String.ofList s) = .text := by
  have hbool : bool? (String.ofList s) = none := by
    simp [bool?, ofList_ne_of_mem_space h]
  have hempty : s.isEmpty = false := by
    cases s with
    | nil => cases h
    | cons c s => rfl
  simp [plainMeaning, isNullWord_of_mem_space h, hbool, hempty, integerMeaning?,
    integer?_of_mem_space h, float?_of_mem_space h]

end Yaml
end StaticBlog
