import Mathlib.Logic.Relation
import StaticBlog.Post.Slug

/-!
# Slugs without dates

- `IsDateFront` : a date with a dash behind it
- `LosesDate` : one round of taking dates off a text
- `deriveSlugChars_of_losesDate`, `deriveSlugChars_of_not_losesDate` : what a round does to the slug
- `exists_dates` : rounds take off dates and nothing else
- `slug_is_stem_without_dates` : the slug of a file name
-/

namespace StaticBlog

variable {s rest : List Char}

/-! ## One round -/

/-- So many decimal digits of any script. -/
def AreDigits (n : Nat) (ds : List Char) : Prop :=
  ds.length = n ∧ ∀ c ∈ ds, Text.isDecimalDigit c = true

/-- A year of four digits, a month and a day of two, and a dash behind each. -/
def IsDateFront (front : List Char) : Prop :=
  ∃ year month day, AreDigits 4 year ∧ AreDigits 2 month ∧ AreDigits 2 day ∧
    front = year ++ '-' :: (month ++ '-' :: (day ++ ['-']))

/-- A date comes off the front of a text. Something must follow it, all on one line. -/
def LosesDate (s rest : List Char) : Prop :=
  ∃ front, IsDateFront front ∧ s = front ++ rest ∧ rest ≠ [] ∧ '\n' ∉ rest

theorem isDateFront_iff {front : List Char} :
    IsDateFront front ↔ ∃ y₁ y₂ y₃ y₄ s₁ m₁ m₂ s₂ d₁ d₂ s₃,
      front = [y₁, y₂, y₃, y₄, s₁, m₁, m₂, s₂, d₁, d₂, s₃] ∧
        isDateDash y₁ y₂ y₃ y₄ s₁ m₁ m₂ s₂ d₁ d₂ s₃ = true := by
  constructor
  · rintro ⟨year, month, day, ⟨hyear, hy⟩, ⟨hmonth, hm⟩, ⟨hday, hd⟩, rfl⟩
    match year, hyear, month, hmonth, day, hday with
    | [y₁, y₂, y₃, y₄], _, [m₁, m₂], _, [d₁, d₂], _ =>
      refine ⟨y₁, y₂, y₃, y₄, '-', m₁, m₂, '-', d₁, d₂, '-', rfl, ?_⟩
      simp only [List.mem_cons, List.not_mem_nil, or_false, forall_eq_or_imp, forall_eq] at hy hm hd
      simp [isDateDash, hy, hm, hd]
  · rintro ⟨y₁, y₂, y₃, y₄, s₁, m₁, m₂, s₂, d₁, d₂, s₃, rfl, hdate⟩
    simp only [isDateDash, List.all_cons, List.all_nil, Bool.and_true, Bool.and_eq_true,
      decide_eq_true_eq] at hdate
    obtain ⟨⟨hy₁, hy₂, hy₃, hy₄, hm₁, hm₂, hd₁, hd₂⟩, rfl, rfl, rfl⟩ := hdate
    exact ⟨[y₁, y₂, y₃, y₄], [m₁, m₂], [d₁, d₂], ⟨rfl, by simp [hy₁, hy₂, hy₃, hy₄]⟩,
      ⟨rfl, by simp [hm₁, hm₂]⟩, ⟨rfl, by simp [hd₁, hd₂]⟩, rfl⟩

theorem isSlugRest_iff : isSlugRest rest = true ↔ rest ≠ [] ∧ '\n' ∉ rest := by
  simp only [isSlugRest, Bool.and_eq_true, Bool.not_eq_true', List.isEmpty_eq_false_iff,
    List.all_eq_true, decide_eq_true_eq]
  exact and_congr_right fun _ => ⟨fun h hmem => h _ hmem rfl, fun h c hc heq => h (heq ▸ hc)⟩

/-- A round takes eleven characters, so there are not endlessly many rounds. -/
theorem LosesDate.length_eq (h : LosesDate s rest) : s.length = rest.length + 11 := by
  obtain ⟨front, hfront, rfl, -, -⟩ := h
  obtain ⟨_, _, _, _, _, _, _, _, _, _, _, rfl, -⟩ := isDateFront_iff.1 hfront
  rfl

theorem acc_losesDate (s : List Char) : Acc (fun rest s => LosesDate s rest) s := by
  have hshorter : Subrelation (fun rest s => LosesDate s rest)
      (InvImage (· < ·) (List.length (α := Char))) := by
    intro rest s h
    have hlength := h.length_eq
    exact (by omega : rest.length < s.length)
  exact hshorter.accessible ((measure List.length).wf.apply s)

/-- After a round it goes on with what is left. -/
theorem deriveSlugChars_of_losesDate (h : LosesDate s rest) :
    deriveSlugChars s = deriveSlugChars rest := by
  obtain ⟨front, hfront, rfl, hrest⟩ := h
  obtain ⟨y₁, y₂, y₃, y₄, s₁, m₁, m₂, s₂, d₁, d₂, s₃, rfl, hdate⟩ := isDateFront_iff.1 hfront
  have hround : (isDateDash y₁ y₂ y₃ y₄ s₁ m₁ m₂ s₂ d₁ d₂ s₃ && isSlugRest rest) = true :=
    Bool.and_eq_true_iff.2 ⟨hdate, isSlugRest_iff.2 hrest⟩
  calc deriveSlugChars ([y₁, y₂, y₃, y₄, s₁, m₁, m₂, s₂, d₁, d₂, s₃] ++ rest)
      = if isDateDash y₁ y₂ y₃ y₄ s₁ m₁ m₂ s₂ d₁ d₂ s₃ && isSlugRest rest then
          deriveSlugChars rest
        else y₁ :: y₂ :: y₃ :: y₄ :: s₁ :: m₁ :: m₂ :: s₂ :: d₁ :: d₂ :: s₃ :: rest := by
        simp only [List.cons_append, List.nil_append, deriveSlugChars]
    _ = deriveSlugChars rest := if_pos hround

/-- It ends when no date comes off. -/
theorem deriveSlugChars_of_not_losesDate (h : ∀ rest, ¬ LosesDate s rest) :
    deriveSlugChars s = s := by
  fun_cases deriveSlugChars s with
  | case1 y₁ y₂ y₃ y₄ s₁ m₁ m₂ s₂ d₁ d₂ s₃ rest hround =>
    obtain ⟨hdate, hrest⟩ := Bool.and_eq_true_iff.1 hround
    have hfront : IsDateFront [y₁, y₂, y₃, y₄, s₁, m₁, m₂, s₂, d₁, d₂, s₃] :=
      isDateFront_iff.2 ⟨_, _, _, _, _, _, _, _, _, _, _, rfl, hdate⟩
    exact absurd ⟨_, hfront, rfl, isSlugRest_iff.1 hrest⟩ (h rest)
  | case2 => rfl
  | case3 => rfl

/-! ## All rounds -/

/-- The rounds lead from a stem to its slug, and there is no further one. -/
theorem losesDates_deriveSlugChars (s : List Char) :
    Relation.ReflTransGen LosesDate s (deriveSlugChars s) ∧
      ∀ rest, ¬ LosesDate (deriveSlugChars s) rest := by
  induction acc_losesDate s with
  | intro s _ ih =>
    by_cases h : ∃ rest, LosesDate s rest
    · obtain ⟨rest, hrest⟩ := h
      obtain ⟨hlater, hend⟩ := ih rest hrest
      rw [deriveSlugChars_of_losesDate hrest]
      exact ⟨.head hrest hlater, hend⟩
    · have hnone : ∀ rest, ¬ LosesDate s rest := not_exists.1 h
      rw [deriveSlugChars_of_not_losesDate hnone]
      exact ⟨.refl, hnone⟩

/-- What the rounds take off are dates, and they never take everything. -/
theorem exists_dates (h : Relation.ReflTransGen LosesDate s rest) :
    (∃ dates : List (List Char), (∀ d ∈ dates, IsDateFront d) ∧ s = dates.flatten ++ rest) ∧
      (rest = [] → s = []) := by
  induction h using Relation.ReflTransGen.head_induction_on with
  | refl => exact ⟨⟨[], by simp, rfl⟩, id⟩
  | head hround _ ih =>
    obtain ⟨front, hfront, rfl, hne, -⟩ := hround
    obtain ⟨⟨dates, hdates, rfl⟩, hempty⟩ := ih
    refine ⟨⟨front :: dates, ?_, ?_⟩, fun hnil => absurd (hempty hnil) hne⟩
    · rintro d (_ | ⟨_, hd⟩)
      · exact hfront
      · exact hdates d hd
    · rw [List.flatten_cons, List.append_assoc]

/-- Taking dates off a file name comes to an end. The name is the dates that came off, one after the
other, and then its slug. No date comes off the slug, which is empty only if the name is, and which
is its own slug. -/
theorem slug_is_stem_without_dates (stem : String) :
    Acc (fun rest s => LosesDate s rest) stem.toList ∧
      Relation.ReflTransGen LosesDate stem.toList (deriveSlug stem).toList ∧
      (∃ dates : List (List Char), (∀ d ∈ dates, IsDateFront d) ∧
        stem.toList = dates.flatten ++ (deriveSlug stem).toList) ∧
      (∀ rest, ¬ LosesDate (deriveSlug stem).toList rest) ∧
      (deriveSlug stem = "" ↔ stem = "") ∧
      deriveSlug (deriveSlug stem) = deriveSlug stem := by
  have hslug : (deriveSlug stem).toList = deriveSlugChars stem.toList := String.toList_ofList
  obtain ⟨hrounds, hend⟩ := losesDates_deriveSlugChars stem.toList
  obtain ⟨hdates, hempty⟩ := exists_dates hrounds
  rw [hslug]
  refine ⟨acc_losesDate _, hrounds, hdates, hend, ?_, ?_⟩
  · constructor
    · intro h
      have hnil : deriveSlugChars stem.toList = [] := by rw [← hslug, h]; rfl
      exact String.toList_eq_nil_iff.1 (hempty hnil)
    · rintro rfl
      rfl
  · rw [deriveSlug, hslug, deriveSlugChars_of_not_losesDate hend]
    rfl

/-- Both dates come off, and the digits may be of any script. -/
example : deriveSlug "2024-03-05-٢٠٢٣-٠١-٠١-nested" = "nested" := by decide

end StaticBlog
