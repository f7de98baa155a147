import Mathlib.Data.List.TakeWhile
import StaticBlog.Text.Blank
import StaticBlog.Text.Search

/-!
# Pieces of a text

- `Text.splitWhere_append` : a text is cut at a character of the class, whatever stands before it
- `Text.splitWhere_eq_singleton` : a text without such a character is one piece
- `Text.mem_and_eq_false_of_mem_splitWhere` : what the pieces hold
- `Text.mem_of_mem_splitWhere` : nothing is lost but the characters of the class
- `Text.joinWith_splitWhere`, `Text.splitWhere_joinWith` : cutting and joining undo each other
- `Text.dropBoth_eq_self_iff` : the texts with nothing to drop at either end
- `Text.exists_dropBoth_append`, `Text.dropBoth_append_of_forall` : what stands around the rest
- `Text.blankCodes` : the blank characters, one by one
-/

namespace StaticBlog
namespace Text

variable {p : Char → Bool}

/-! ## Blank characters -/

/-- The code points of the blank characters. -/
def blankCodes : List Nat :=
  [9, 10, 11, 12, 13, 0x20, 0x85, 0xA0, 0x1680, 0x2000, 0x2001, 0x2002, 0x2003, 0x2004, 0x2005,
    0x2006, 0x2007, 0x2008, 0x2009, 0x200A, 0x2028, 0x2029, 0x202F, 0x205F, 0x3000]

theorem toNat_mem_blankCodes {c : Char} : isBlank c = true → c.toNat ∈ blankCodes := by
  intro h
  simp only [isBlank, Bool.or_eq_true, Bool.and_eq_true, decide_eq_true_eq, beq_iff_eq] at h
  simp only [blankCodes, List.mem_cons, List.not_mem_nil, or_false]
  omega

/-! ## Cutting -/

/-- A text is cut at a character of the class, whatever stands before it. -/
theorem splitWhere_append (s : List Char) {b : Char} (t : List Char) (hb : p b = true) :
    splitWhere p (s ++ b :: t) = splitWhere p s ++ splitWhere p t := by
  induction s with
  | nil => simp [splitWhere, hb]
  | cons c s ih =>
    cases hc : p c with
    | true => simp [splitWhere, hc, ih]
    | false =>
      cases hsplit : splitWhere p s with
      | nil => exact absurd hsplit (splitWhere_ne_nil p s)
      | cons w ws =>
        rw [hsplit] at ih
        simp [splitWhere, hc, hsplit, ih]

/-- A text without a character of the class is one piece. -/
theorem splitWhere_eq_singleton {w : List Char} (hw : ∀ c ∈ w, p c = false) :
    splitWhere p w = [w] := by
  induction w with
  | nil => rfl
  | cons c w ih =>
    have hc : p c = false := hw c List.mem_cons_self
    have hrest := ih fun c' hc' => hw c' (List.mem_cons_of_mem c hc')
    simp [splitWhere, hc, hrest]

/-- A piece holds characters of the text, and none of the class. -/
theorem mem_and_eq_false_of_mem_splitWhere {s w : List Char} {c : Char} (hw : w ∈ splitWhere p s)
    (hc : c ∈ w) : c ∈ s ∧ p c = false := by
  induction s generalizing w with
  | nil =>
    have hnil : w = [] := by simpa [splitWhere] using hw
    simp [hnil] at hc
  | cons a s ih =>
    -- What holds of a piece of the rest holds of the same piece of the whole text.
    have hrest : ∀ {v}, v ∈ splitWhere p s → c ∈ v → c ∈ a :: s ∧ p c = false :=
      fun hv hcv => (ih hv hcv).imp_left (List.mem_cons_of_mem a)
    cases ha : p a with
    | true =>
      have hcases : w = [] ∨ w ∈ splitWhere p s := by simpa [splitWhere, ha] using hw
      rcases hcases with rfl | hw
      · simp at hc
      · exact hrest hw hc
    | false =>
      cases hsplit : splitWhere p s with
      | nil => exact absurd hsplit (splitWhere_ne_nil p s)
      | cons v vs =>
        have hcases : w = a :: v ∨ w ∈ vs := by simpa [splitWhere, ha, hsplit] using hw
        rw [hsplit] at hrest
        rcases hcases with rfl | hw
        · rcases List.mem_cons.1 hc with rfl | hc
          · exact ⟨List.mem_cons_self, ha⟩
          · exact hrest List.mem_cons_self hc
        · exact hrest (List.mem_cons_of_mem v hw) hc

theorem not_mem_of_mem_splitWhere {s w : List Char} {b : Char} (hb : p b = true)
    (hw : w ∈ splitWhere p s) : b ∉ w := fun hmem => by
  have hnot := (mem_and_eq_false_of_mem_splitWhere hw hmem).2
  rw [hb] at hnot
  cases hnot

/-- Nothing is lost but the characters of the class. -/
theorem mem_of_mem_splitWhere (p : Char → Bool) {s : List Char} {c : Char} (hc : c ∈ s) :
    p c = true ∨ ∃ w ∈ splitWhere p s, c ∈ w := by
  induction s with
  | nil => simp at hc
  | cons a s ih =>
    cases ha : p a with
    | true =>
      rcases List.mem_cons.1 hc with rfl | hcs
      · exact Or.inl ha
      · rcases ih hcs with hp | ⟨w, hw, hcw⟩
        · exact Or.inl hp
        · exact Or.inr ⟨w, by simp [splitWhere, ha, hw], hcw⟩
    | false =>
      cases hsplit : splitWhere p s with
      | nil => exact absurd hsplit (splitWhere_ne_nil p s)
      | cons w ws =>
        rcases List.mem_cons.1 hc with rfl | hcs
        · exact Or.inr ⟨c :: w, by simp [splitWhere, ha, hsplit], by simp⟩
        · rcases ih hcs with hp | ⟨v, hv, hcv⟩
          · exact Or.inl hp
          · rw [hsplit] at hv
            rcases List.mem_cons.1 hv with rfl | hv
            · exact Or.inr ⟨a :: v, by simp [splitWhere, ha, hsplit], by simp [hcv]⟩
            · exact Or.inr ⟨v, by simp [splitWhere, ha, hsplit, hv], hcv⟩

/-! ## Joining -/

theorem joinWith_cons (sep w : List Char) (ws : List (List Char)) :
    joinWith sep (w :: ws) = w ++ ws.flatMap (sep ++ ·) := by
  induction ws generalizing w with
  | nil => simp [joinWith]
  | cons v ws ih => rw [joinWith, ih, List.flatMap_cons, List.append_assoc, List.append_assoc]

/-- What stands between the separators, with separators between, is the text again. -/
theorem joinWith_splitWhere {p : Char → Bool} {b : Char} (hp : ∀ c, p c = true ↔ c = b)
    (s : List Char) : joinWith [b] (splitWhere p s) = s := by
  induction s with
  | nil => rfl
  | cons c s ih =>
    rw [splitWhere]
    cases hsplit : splitWhere p s with
    | nil => exact absurd hsplit (splitWhere_ne_nil p s)
    | cons w ws =>
      rw [hsplit] at ih
      by_cases hc : p c = true
      · have hcb : c = b := (hp c).1 hc
        rw [if_pos hc, joinWith, ih, hcb]
        rfl
      · rw [if_neg hc]
        cases ws with
        | nil =>
          have hw : w = s := ih
          simp [joinWith, hw]
        | cons v vs =>
          have hjoin : w ++ [b] ++ joinWith [b] (v :: vs) = s := ih
          change c :: (w ++ [b] ++ joinWith [b] (v :: vs)) = c :: s
          rw [hjoin]

/-- Pieces without separators, with separators between, are found again. -/
theorem splitWhere_joinWith {p : Char → Bool} {b : Char} (hb : p b = true)
    {ws : List (List Char)} (hws : ∀ w ∈ ws, ∀ c ∈ w, p c = false) (hne : ws ≠ []) :
    splitWhere p (joinWith [b] ws) = ws := by
  induction ws with
  | nil => exact absurd rfl hne
  | cons w ws ih =>
    have hw : splitWhere p w = [w] := splitWhere_eq_singleton (hws w List.mem_cons_self)
    cases ws with
    | nil => exact hw
    | cons v vs =>
      have hrest := ih (fun u hu => hws u (List.mem_cons_of_mem w hu)) (by simp)
      have hjoin : joinWith [b] (w :: v :: vs) = w ++ b :: joinWith [b] (v :: vs) := by
        simp [joinWith]
      rw [hjoin, splitWhere_append w _ hb, hw, hrest]
      rfl

/-- Without some of its pieces a text has some of its characters. -/
theorem joinWith_sublist {sep : List Char} {vs ws : List (List Char)} (h : vs.Sublist ws) :
    (joinWith sep vs).Sublist (joinWith sep ws) := by
  have hcons : ∀ w us, (joinWith sep us).Sublist (joinWith sep (w :: us)) := by
    intro w us
    cases us with
    | nil => exact List.nil_sublist _
    | cons u us => exact List.sublist_append_right _ _
  induction h with
  | slnil => exact List.Sublist.refl _
  | cons w _ ih => exact ih.trans (hcons w _)
  | @cons_cons vs ws w hsub ih =>
    cases vs with
    | nil =>
      cases ws with
      | nil => exact List.Sublist.refl _
      | cons v ws =>
        simp only [joinWith, List.append_assoc]
        exact List.sublist_append_left _ _
    | cons v vs =>
      cases ws with
      | nil => cases hsub
      | cons u us =>
        simp only [joinWith]
        exact (List.Sublist.refl _).append ih

/-! ## Trimming -/

theorem dropFront_eq_self_iff {s : List Char} :
    dropFront p s = s ↔ ∀ c, s.head? = some c → p c = false := by
  cases s with
  | nil => simp [dropFront]
  | cons c s =>
    cases hc : p c with
    | false => simp [dropFront, hc]
    | true =>
      -- What is dropped is missing afterwards.
      have hshorter := (List.dropWhile_sublist (l := s) p).length_le
      have hne : s.dropWhile p ≠ c :: s := by
        intro heq
        rw [heq, List.length_cons] at hshorter
        exact absurd hshorter (Nat.not_succ_le_self _)
      simp [dropFront, hc, hne]

theorem eq_false_of_head?_dropFront {s : List Char} {c : Char}
    (h : (dropFront p s).head? = some c) : p c = false := by
  have hhead := List.head?_dropWhile_not p s
  rw [dropFront] at h
  rw [h] at hhead
  exact hhead

/-- What is left behind the front is the end of the text. -/
theorem dropBack_prefix_self (s : List Char) : dropBack p s <+: s := by
  have hsuffix := List.reverse_prefix.2 (List.dropWhile_suffix (l := s.reverse) p)
  rw [List.reverse_reverse] at hsuffix
  exact hsuffix

theorem dropBack_eq_self_iff {s : List Char} :
    dropBack p s = s ↔ ∀ c, s.getLast? = some c → p c = false := by
  have hreverse : dropBack p s = s ↔ dropFront p s.reverse = s.reverse := by
    rw [dropBack, dropFront, List.reverse_eq_iff]
  rw [hreverse, dropFront_eq_self_iff, List.head?_reverse]

theorem eq_false_of_getLast?_dropBack {s : List Char} {c : Char}
    (h : (dropBack p s).getLast? = some c) : p c = false := by
  rw [dropBack, List.getLast?_reverse] at h
  exact eq_false_of_head?_dropFront h

theorem dropBack_eq_nil_iff {s : List Char} : dropBack p s = [] ↔ ∀ c ∈ s, p c = true := by
  simp [dropBack, List.dropWhile_eq_nil_iff]

/-- What is dropped stands in the part that something is left of. -/
theorem dropBack_append (s : List Char) {t : List Char} (ht : dropBack p t ≠ []) :
    dropBack p (s ++ t) = s ++ dropBack p t := by
  have hne : ¬(t.reverse.dropWhile p).isEmpty = true := by
    simpa [dropBack] using ht
  rw [dropBack, List.reverse_append, List.dropWhile_append, if_neg hne, List.reverse_append,
    List.reverse_reverse, dropBack]

theorem dropBack_append_of_forall (s : List Char) {t : List Char} (ht : ∀ c ∈ t, p c = true) :
    dropBack p (s ++ t) = dropBack p s := by
  have hall : ∀ c ∈ t.reverse, p c = true := fun c hc => ht c (List.mem_reverse.1 hc)
  rw [dropBack, List.reverse_append, List.dropWhile_append_of_pos hall, dropBack]

/-- What is dropped are characters of the class. -/
theorem exists_dropBack_append (p : Char → Bool) (s : List Char) :
    ∃ t, s = dropBack p s ++ t ∧ ∀ c ∈ t, p c = true := by
  refine ⟨(s.reverse.takeWhile p).reverse, ?_, fun c hc => ?_⟩
  · rw [dropBack, ← List.reverse_append, List.takeWhile_append_dropWhile, List.reverse_reverse]
  · exact List.mem_takeWhile_imp (List.mem_reverse.1 hc)

/-- What is dropped at both ends are characters of the class. -/
theorem exists_dropBoth_append (p : Char → Bool) (s : List Char) :
    ∃ before after, s = before ++ (dropBoth p s ++ after) ∧
      (∀ c ∈ before, p c = true) ∧ ∀ c ∈ after, p c = true := by
  obtain ⟨after, hback, hafter⟩ := exists_dropBack_append p (dropFront p s)
  have hfront : s = s.takeWhile p ++ dropFront p s := List.takeWhile_append_dropWhile.symm
  exact ⟨s.takeWhile p, after, hfront.trans (congrArg (s.takeWhile p ++ ·) hback),
    fun c hc => List.mem_takeWhile_imp hc, hafter⟩

/-- What characters of the class stand around a text does not matter. -/
theorem dropBoth_append_of_forall {before after : List Char} (hbefore : ∀ c ∈ before, p c = true)
    (hafter : ∀ c ∈ after, p c = true) (s : List Char) :
    dropBoth p (before ++ (s ++ after)) = dropBoth p s := by
  rw [dropBoth, dropFront, List.dropWhile_append_of_pos hbefore, List.dropWhile_append]
  split
  · next hnil =>
    have hs : dropFront p s = [] := List.isEmpty_iff.1 hnil
    have hdropped : after.dropWhile p = [] := List.dropWhile_eq_nil_iff.2 hafter
    rw [dropBoth, hs, hdropped]
  · exact dropBack_append_of_forall (dropFront p s) hafter

theorem mem_of_mem_dropBoth {s : List Char} {c : Char} (h : c ∈ dropBoth p s) : c ∈ s :=
  (List.dropWhile_sublist p).mem ((dropBack_prefix_self _).mem h)

theorem trim_eq_nil_iff {s : List Char} : trim s = [] ↔ ∀ c ∈ s, isBlank c = true := by
  rw [trim, dropBoth, dropBack_eq_nil_iff, dropFront]
  constructor
  · intro h
    have hnil : s.dropWhile isBlank = [] := by
      by_contra hne
      have hhead := List.head_dropWhile_not isBlank hne
      rw [h _ (List.head_mem hne)] at hhead
      cases hhead
    exact List.dropWhile_eq_nil_iff.1 hnil
  · exact fun h c hc => h c ((List.dropWhile_sublist isBlank).subset hc)

/-- The texts with nothing to drop at either end. -/
theorem dropBoth_eq_self_iff {s : List Char} :
    dropBoth p s = s ↔
      (∀ c, s.head? = some c → p c = false) ∧ ∀ c, s.getLast? = some c → p c = false := by
  constructor
  · intro h
    have hlength : (dropBack p (dropFront p s)).length ≤ (dropFront p s).length :=
      (dropBack_prefix_self _).length_le
    have hfront : dropFront p s = s := by
      apply (List.dropWhile_sublist p).eq_of_length_le
      calc s.length = (dropBack p (dropFront p s)).length := congrArg List.length h.symm
        _ ≤ (dropFront p s).length := hlength
    rw [dropBoth, hfront, dropBack_eq_self_iff] at h
    exact ⟨dropFront_eq_self_iff.1 hfront, h⟩
  · rintro ⟨hhead, hlast⟩
    rw [dropBoth, dropFront_eq_self_iff.2 hhead, dropBack_eq_self_iff.2 hlast]

/-- A text that begins and ends with other characters keeps them all. -/
theorem dropBoth_eq_self_of_ends {front back s : List Char} (hfront : front <+: s) (hback : back <:+ s)
    (hfront_ne : front ≠ []) (hback_ne : back ≠ []) (hfront_out : ∀ c ∈ front, p c = false)
    (hback_out : ∀ c ∈ back, p c = false) : dropBoth p s = s := by
  obtain ⟨t, rfl⟩ := hfront
  obtain ⟨u, hu⟩ := hback
  rw [dropBoth_eq_self_iff]
  constructor
  · intro c hc
    rw [List.head?_append, List.head?_eq_some_head hfront_ne, Option.some_or] at hc
    exact hfront_out c (Option.some.inj hc ▸ List.head_mem hfront_ne)
  · intro c hc
    rw [← hu, List.getLast?_append, List.getLast?_eq_some_getLast hback_ne, Option.some_or] at hc
    exact hback_out c (Option.some.inj hc ▸ List.getLast_mem hback_ne)

/-- Nothing is left to drop. -/
theorem dropBoth_dropBoth (s : List Char) : dropBoth p (dropBoth p s) = dropBoth p s := by
  rw [dropBoth_eq_self_iff]
  constructor
  · intro c hc
    rcases dropBack_prefix_self (p := p) (dropFront p s) with ⟨rest, hrest⟩
    apply eq_false_of_head?_dropFront (s := s)
    rw [← hrest]
    cases hboth : dropBoth p s with
    | nil =>
      rw [hboth] at hc
      cases hc
    | cons d t =>
      rw [hboth] at hc
      rw [dropBoth] at hboth
      rw [hboth]
      exact hc
  · intro c hc
    exact eq_false_of_getLast?_dropBack hc

end Text
end StaticBlog
