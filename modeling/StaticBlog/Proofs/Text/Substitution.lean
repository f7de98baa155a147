import Mathlib.Data.List.Find
import StaticBlog.Proofs.Text.Search

/-!
# Substitution in one pass

- `Text.substitute` : the patterns of a table exchanged for their values, in one pass over a text
- `Text.IsMarked.substitute_append`, `Text.substitute_of_not_infix` : what stays as it is
- `Text.IsMarked.substitute_append_pattern` : what comes in the place of a pattern
- `Text.substitute_replaceFrom` : one pattern replaced first, and the others then
- `Text.substitute_singleton` : a table of one pattern
-/

namespace StaticBlog
namespace Text

variable {a : Char} {p r s w : List Char} {table : List (List Char × List Char)}

/-! ## The pass -/

/-- The first pattern of a table that a text begins with, and its value. -/
def patternAt? (table : List (List Char × List Char)) (s : List Char) :
    Option (List Char × List Char) :=
  table.find? fun q => q.1.isPrefixOf s

theorem patternAt?_cons (q : List Char × List Char) (table : List (List Char × List Char))
    (s : List Char) :
    patternAt? (q :: table) s = if q.1.isPrefixOf s then some q else patternAt? table s := by
  rw [patternAt?, List.find?_cons]
  cases q.1.isPrefixOf s <;> rfl

/-- Exchanges patterns from left to right. `skip` counts the characters left of the pattern being
passed over; a value is not looked at again. -/
def substituteFrom (table : List (List Char × List Char)) : Nat → List Char → List Char
  | _, [] => []
  | skip + 1, _ :: s => substituteFrom table skip s
  | 0, c :: s =>
    match patternAt? table (c :: s) with
    | some (p, r) => r ++ substituteFrom table (p.length - 1) s
    | none => c :: substituteFrom table 0 s

/-- The text with the patterns of a table exchanged for their values, all in one pass. -/
def substitute (table : List (List Char × List Char)) (s : List Char) : List Char :=
  substituteFrom table 0 s

theorem substituteFrom_length_append (table : List (List Char × List Char)) (u s : List Char) :
    substituteFrom table u.length (u ++ s) = substitute table s := by
  induction u with
  | nil => rfl
  | cons c u ih => exact ih

/-- The value comes in the place of the pattern that is found, and the pass goes on behind it. -/
theorem substitute_of_patternAt? {u : List Char} (h : patternAt? table (a :: (w ++ u)) = some (a :: w, r)) :
    substitute table (a :: (w ++ u)) = r ++ substitute table u := by
  rw [substitute, substituteFrom, h]
  exact congrArg (r ++ ·) (substituteFrom_length_append table w u)

theorem substitute_cons_of_none {c : Char} (h : patternAt? table (c :: s) = none) :
    substitute table (c :: s) = c :: substitute table s := by
  rw [substitute, substituteFrom, h, substitute]

/-- Without any of the patterns a text stays as it is. -/
theorem substitute_of_not_infix (h : ∀ q ∈ table, ¬q.1 <:+: s) : substitute table s = s := by
  induction s with
  | nil => rfl
  | cons c s ih =>
    have hnone : patternAt? table (c :: s) = none := by
      refine List.find?_eq_none.2 fun q hq hfit => h q hq ?_
      exact (List.isPrefixOf_iff_prefix.1 hfit).isInfix
    have hrest := ih fun q hq hinfix => h q hq (List.infix_cons hinfix)
    rw [substitute_cons_of_none hnone, hrest]

/-! ## Marked patterns -/

/-- Every pattern of the table begins with the mark, and has it nowhere else. -/
def IsMarked (a : Char) (table : List (List Char × List Char)) : Prop :=
  ∀ q ∈ table, ∃ w, q.1 = a :: w ∧ a ∉ w

theorem IsMarked.tail {q : List Char × List Char} (h : IsMarked a (q :: table)) :
    IsMarked a table :=
  fun x hx => h x (List.mem_cons_of_mem q hx)

theorem IsMarked.patternAt?_of_ne {c : Char} (h : IsMarked a table) (hc : c ≠ a) :
    patternAt? table (c :: s) = none := by
  refine List.find?_eq_none.2 fun q hq hfit => ?_
  obtain ⟨w, hw, -⟩ := h q hq
  rw [hw, List.isPrefixOf_cons_cons, Bool.and_eq_true, beq_iff_eq] at hfit
  exact hc hfit.1.symm

/-- Nothing is exchanged in a front without the mark. -/
theorem IsMarked.substitute_append (h : IsMarked a table) (hr : a ∉ r) (s : List Char) :
    substitute table (r ++ s) = r ++ substitute table s := by
  induction r with
  | nil => rfl
  | cons c r ih =>
    have hc : c ≠ a := fun heq => hr (heq ▸ List.mem_cons_self)
    have hrest := ih fun hmem => hr (List.mem_cons_of_mem c hmem)
    rw [List.cons_append, substitute_cons_of_none (h.patternAt?_of_ne hc), hrest, List.cons_append]

/-- No pattern reaches across a mark, so what stands in front of one is a text of its own. -/
theorem IsMarked.substitute_append_cons (h : IsMarked a table) (s t : List Char) :
    substitute table (s ++ a :: t) = substitute table s ++ substitute table (a :: t) := by
  -- The pass goes on behind a whole pattern, so the induction is on the length of what is left.
  induction hlength : s.length using Nat.strongRecOn generalizing s with
  | ind n ih =>
    subst hlength
    cases s with
    | nil => rfl
    | cons c s =>
      have hsame : patternAt? table (c :: (s ++ a :: t)) = patternAt? table (c :: s) := by
        refine List.find?_congr fun q hq => ?_
        obtain ⟨w, hw, haw⟩ := h q hq
        have hmark : ∀ d ∈ (a :: t).head?, d ∉ w := by
          rintro d hd
          exact Option.some.inj hd ▸ haw
        rw [hw, List.isPrefixOf_cons_cons, List.isPrefixOf_cons_cons, isPrefixOf_append hmark]
      rw [List.cons_append]
      cases hfound : patternAt? table (c :: s) with
      | none =>
        rw [substitute_cons_of_none (hsame.trans hfound), substitute_cons_of_none hfound,
          ih _ (Nat.lt_succ_self _) s rfl, List.cons_append]
      | some q =>
        obtain ⟨q, value⟩ := q
        obtain ⟨w, rfl, -⟩ := h _ (List.mem_of_find?_eq_some hfound)
        have hfit : (a :: w).isPrefixOf (c :: s) = true := (List.find?_eq_some_iff_append.1 hfound).1
        obtain ⟨u, hu⟩ := List.isPrefixOf_iff_prefix.1 hfit
        obtain ⟨rfl, rfl⟩ := List.cons.inj hu
        have hshorter : u.length < (a :: (w ++ u)).length := by
          rw [List.length_cons, List.length_append]
          omega
        rw [List.append_eq, List.append_assoc] at hsame
        rw [List.append_eq] at hfound ⊢
        rw [List.append_assoc, substitute_of_patternAt? (hsame.trans hfound),
          substitute_of_patternAt? hfound, ih _ hshorter u rfl, List.append_assoc]

/-- The value of a pattern comes in the place of each of its occurrences. -/
theorem IsMarked.substitute_append_pattern {q : List Char × List Char} (h : IsMarked a table)
    (hq : q ∈ table) (hfirst : ∀ u, patternAt? table (q.1 ++ u) = some q) (s t : List Char) :
    substitute table (s ++ (q.1 ++ t)) = substitute table s ++ (q.2 ++ substitute table t) := by
  obtain ⟨q, value⟩ := q
  obtain ⟨w, rfl, -⟩ := h _ hq
  rw [List.cons_append, h.substitute_append_cons, substitute_of_patternAt? (hfirst t)]

/-! ## One pattern before the others -/

/-- Replacing changes nothing of what a text begins with, as far as it can be told by a pattern that
has neither the mark nor the first character of the value. -/
theorem isPrefixOf_replaceFrom {v : List Char} (ha : a ∉ v) (hr : r ≠ [])
    (hhead : ∀ c ∈ r.head?, c ∉ v) (s : List Char) :
    v.isPrefixOf (replaceFrom (a :: w) r 0 s) = v.isPrefixOf s := by
  rcases replaceFrom_cases (p := a :: w) (r := r) s with heq | ⟨front, u, u', hs, hreplaced⟩
  · rw [heq]
  · have hmark : ∀ c ∈ ((a :: w) ++ u).head?, c ∉ v := by
      intro c hc
      obtain rfl : a = c := Option.some.inj hc
      exact ha
    have hvalue : ∀ c ∈ (r ++ u').head?, c ∉ v := by
      rw [List.head?_append_of_ne_nil r hr]
      exact hhead
    rw [hreplaced, hs, isPrefixOf_append hmark, isPrefixOf_append hvalue]

/-- The other patterns are found where they were. -/
theorem patternAt?_replaceFrom {c : Char} (hmarked : IsMarked a table) (hr : r ≠ [])
    (hhead : ∀ q ∈ table, ∀ d ∈ r.head?, d ∉ q.1) (s : List Char) :
    patternAt? table (c :: replaceFrom (a :: w) r 0 s) = patternAt? table (c :: s) := by
  have hsame : ∀ q ∈ table,
      q.1.isPrefixOf (c :: replaceFrom (a :: w) r 0 s) = q.1.isPrefixOf (c :: s) := by
    intro q hq
    obtain ⟨v, hv, hav⟩ := hmarked q hq
    have hvalue : ∀ d ∈ r.head?, d ∉ v := fun d hd hmem =>
      hhead q hq d hd (hv ▸ List.mem_cons_of_mem a hmem)
    rw [hv, List.isPrefixOf_cons_cons, List.isPrefixOf_cons_cons,
      isPrefixOf_replaceFrom hav hr hvalue]
  exact List.find?_congr hsame

/-- A pattern replaced first and the others then is one pass with all of them: a value that lacks the
mark, and begins with a character of none of the other patterns, can neither make one of them up nor
be part of one. -/
theorem substitute_replaceFrom (hmarked : IsMarked a table) (hr : r ≠ []) (har : a ∉ r)
    (hhead : ∀ q ∈ table, ∀ c ∈ r.head?, c ∉ q.1) (s : List Char) :
    substitute table (replaceFrom (a :: w) r 0 s) = substitute ((a :: w, r) :: table) s := by
  -- The pass goes on behind a whole pattern, so the induction is on the length of what is left.
  induction hlength : s.length using Nat.strongRecOn generalizing s with
  | ind n ih =>
    subst hlength
    cases s with
    | nil => rfl
    | cons c s =>
      by_cases hfirst : (a :: w).isPrefixOf (c :: s) = true
      · obtain ⟨u, hu⟩ := List.isPrefixOf_iff_prefix.1 hfirst
        have hfound : patternAt? ((a :: w, r) :: table) (a :: (w ++ u)) = some (a :: w, r) := by
          rw [← List.cons_append, hu, patternAt?_cons, if_pos hfirst]
        have hshorter : u.length < (c :: s).length := by
          rw [← hu, List.length_append, List.length_cons]
          omega
        rw [← hu, replaceFrom_pattern_append (List.cons_ne_nil a w), hmarked.substitute_append har,
          List.cons_append, substitute_of_patternAt? hfound, ih _ hshorter u rfl]
      · have hreplaced : replaceFrom (a :: w) r 0 (c :: s) = c :: replaceFrom (a :: w) r 0 s := by
          rw [replaceFrom, if_neg hfirst]
        have hsame := patternAt?_replaceFrom (c := c) (w := w) hmarked hr hhead s
        have hother : patternAt? ((a :: w, r) :: table) (c :: s) = patternAt? table (c :: s) := by
          rw [patternAt?_cons, if_neg hfirst]
        rw [hreplaced]
        cases hfound : patternAt? table (c :: s) with
        | none =>
          rw [hfound] at hsame hother
          rw [substitute_cons_of_none hsame, substitute_cons_of_none hother,
            ih _ (Nat.lt_succ_self _) s rfl]
        | some q =>
          obtain ⟨q, value⟩ := q
          obtain ⟨v, rfl, hav⟩ := hmarked _ (List.mem_of_find?_eq_some hfound)
          have hfit : (a :: v).isPrefixOf (c :: s) = true := (List.find?_eq_some_iff_append.1 hfound).1
          obtain ⟨u, hu⟩ := List.isPrefixOf_iff_prefix.1 hfit
          obtain ⟨rfl, rfl⟩ := List.cons.inj hu
          have hskipped := replaceFrom_append_of_not_mem (p := w) (r := r) hav u
          have hshorter : u.length < (a :: (v ++ u)).length := by
            rw [List.length_cons, List.length_append]
            omega
          rw [hfound] at hsame hother
          rw [List.append_eq, hskipped] at hsame
          rw [List.append_eq] at hother ⊢
          rw [hskipped, substitute_of_patternAt? hsame, substitute_of_patternAt? hother,
            ih _ hshorter u rfl]

theorem substituteFrom_singleton (p r : List Char) (skip : Nat) (s : List Char) :
    substituteFrom [(p, r)] skip s = replaceFrom p r skip s := by
  induction s generalizing skip with
  | nil => cases skip <;> rfl
  | cons c s ih =>
    cases skip with
    | succ skip => exact ih skip
    | zero =>
      rw [substituteFrom, replaceFrom, patternAt?_cons]
      by_cases hfit : p.isPrefixOf (c :: s) = true
      · rw [if_pos hfit, if_pos hfit]
        exact congrArg (r ++ ·) (ih (p.length - 1))
      · rw [if_neg hfit, if_neg hfit]
        exact congrArg (c :: ·) (ih 0)

/-- A table of one pattern. -/
theorem substitute_singleton (p r s : List Char) :
    substitute [(p, r)] s = replaceFrom p r 0 s := substituteFrom_singleton p r 0 s

end Text
end StaticBlog
