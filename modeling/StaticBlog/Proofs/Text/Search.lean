import Mathlib.Data.List.Infix
import StaticBlog.Text.Search

/-!
# Searched text

- `Text.isPrefixOf_append` : a pattern is not found across a character that is none of its own
- `Text.replaceFrom_append`, `Text.replaceFrom_cases` : what replacing does to the parts of a text
- `Text.occurrences_append` : the occurrences in the parts of a text
- `Text.breakOn?_eq_some_iff` : the text around the first occurrence of a pattern
- `Text.breakOnLast?_eq_some_iff` : the text around the last occurrence of a pattern
-/

namespace StaticBlog
namespace Text

variable {p r s : List Char}

/-! ## Patterns at a boundary -/

/-- A pattern is not found across the end of a text if what follows has no character of it. -/
theorem isPrefixOf_append {e : List Char} (he : ∀ c ∈ e.head?, c ∉ p) :
    p.isPrefixOf (s ++ e) = p.isPrefixOf s := by
  induction s generalizing p with
  | nil =>
    cases p with
    | nil => rfl
    | cons a p =>
      cases e with
      | nil => rfl
      | cons c e =>
        have hne : a ≠ c := fun heq => he c rfl (heq ▸ List.mem_cons_self)
        simp [List.isPrefixOf, hne]
  | cons c s ih =>
    cases p with
    | nil => rfl
    | cons a p =>
      have htail : ∀ d ∈ e.head?, d ∉ p := fun d hd hmem => he d hd (List.mem_cons_of_mem a hmem)
      rw [List.cons_append, List.isPrefixOf_cons_cons, List.isPrefixOf_cons_cons, ih htail]

/-! ## Replaced text -/

/-- Nothing is replaced in a front without the first character of the pattern. -/
theorem replaceFrom_append_of_not_mem {a : Char} {w : List Char} (h : a ∉ w) (s : List Char) :
    replaceFrom (a :: p) r 0 (w ++ s) = w ++ replaceFrom (a :: p) r 0 s := by
  induction w with
  | nil => rfl
  | cons c w ih =>
    rcases not_or.1 (fun hmem => h (List.mem_cons.2 hmem)) with ⟨hc, hw⟩
    have hprefix : ¬(a :: p).isPrefixOf (c :: (w ++ s)) = true := by simp [List.isPrefixOf, hc]
    rw [List.cons_append, replaceFrom, if_neg hprefix, ih hw, List.cons_append]

theorem replaceFrom_of_not_mem {a : Char} (h : a ∉ s) : replaceFrom (a :: p) r 0 s = s := by
  have happend := replaceFrom_append_of_not_mem (p := p) (r := r) h []
  rw [List.append_nil] at happend
  exact happend.trans (List.append_nil s)

theorem replaceFrom_skip (u s : List Char) :
    replaceFrom p r u.length (u ++ s) = replaceFrom p r 0 s := by
  induction u with
  | nil => rfl
  | cons c u ih => exact ih

/-- An occurrence at the front is replaced. -/
theorem replaceFrom_pattern_append (hp : p ≠ []) (s : List Char) :
    replaceFrom p r 0 (p ++ s) = r ++ replaceFrom p r 0 s := by
  cases p with
  | nil => exact absurd rfl hp
  | cons a u =>
    have hprefix : (a :: u).isPrefixOf (a :: (u ++ s)) = true :=
      List.isPrefixOf_iff_prefix.2 (List.prefix_append (a :: u) s)
    rw [List.cons_append, replaceFrom, if_pos hprefix, List.length_cons, Nat.add_sub_cancel,
      replaceFrom_skip]

/-- The first character stays, or that of the replacement comes in its place. -/
theorem head?_replaceFrom (hr : r ≠ []) :
    (replaceFrom p r 0 s).head? = s.head? ∨ (replaceFrom p r 0 s).head? = r.head? := by
  cases s with
  | nil => exact Or.inl rfl
  | cons c s =>
    rw [replaceFrom]
    split
    · exact Or.inr (List.head?_append_of_ne_nil r hr)
    · exact Or.inl rfl

/-- Replacing stays in a text if what follows has no character of the pattern. -/
theorem replaceFrom_append {a : Char} {e : List Char} (he : ∀ c ∈ e, c ∉ a :: p) {skip : Nat}
    (hskip : skip ≤ s.length) :
    replaceFrom (a :: p) r skip (s ++ e) = replaceFrom (a :: p) r skip s ++ e := by
  induction s generalizing skip with
  | nil =>
    cases Nat.le_zero.1 hskip
    exact replaceFrom_of_not_mem fun hmem => he a hmem List.mem_cons_self
  | cons c s ih =>
    cases skip with
    | succ skip => exact ih (Nat.le_of_succ_le_succ hskip)
    | zero =>
      -- No occurrence goes on behind the text.
      have hhead : ∀ d ∈ e.head?, d ∉ a :: p := fun d hd => he d (List.mem_of_mem_head? hd)
      have hfound := isPrefixOf_append (p := a :: p) (s := c :: s) hhead
      rw [List.cons_append] at hfound ⊢
      rw [replaceFrom, replaceFrom, hfound]
      split
      · next h =>
        have hle := (List.isPrefixOf_iff_prefix.1 h).length_le
        rw [ih (Nat.sub_le_of_le_add hle), List.append_assoc]
      · rw [ih (Nat.zero_le _)]
        rfl

/-- What stands in a text after replacing stood in it before, or comes from the replacement. -/
theorem mem_replaceFrom {c : Char} {skip : Nat} (h : c ∈ replaceFrom p r skip s) :
    c ∈ s ∨ c ∈ r := by
  induction s generalizing skip with
  | nil => cases skip <;> cases h
  | cons d s ih =>
    cases skip with
    | succ skip => exact (ih h).imp_left (List.mem_cons_of_mem d)
    | zero =>
      rw [replaceFrom] at h
      split at h
      · rcases List.mem_append.1 h with h | h
        · exact Or.inr h
        · exact (ih h).imp_left (List.mem_cons_of_mem d)
      · rcases List.mem_cons.1 h with rfl | h
        · exact Or.inl List.mem_cons_self
        · exact (ih h).imp_left (List.mem_cons_of_mem d)

/-- The last character stays, or one of the replacement comes in its place. -/
theorem getLast?_replaceFrom (hr : r ≠ []) {c : Char} {skip : Nat}
    (h : (replaceFrom p r skip s).getLast? = some c) : c ∈ r ∨ s.getLast? = some c := by
  induction s generalizing skip with
  | nil => cases skip <;> cases h
  | cons d s ih =>
    have hlater : ∀ {skip}, (replaceFrom p r skip s).getLast? = some c →
        c ∈ r ∨ (d :: s).getLast? = some c := by
      intro skip hlast
      refine (ih hlast).imp_right fun hs => ?_
      rw [List.getLast?_cons, hs]
      rfl
    cases skip with
    | succ skip => exact hlater h
    | zero =>
      rw [replaceFrom] at h
      split at h
      · rw [List.getLast?_append] at h
        cases hrest : (replaceFrom p r (p.length - 1) s).getLast? with
        | some e => exact hlater (hrest.trans (by rwa [hrest, Option.some_or] at h))
        | none =>
          rw [hrest, Option.none_or] at h
          exact Or.inl (List.mem_of_mem_getLast? h)
      · cases hrest : (replaceFrom p r 0 s).getLast? with
        | some e => exact hlater (hrest.trans (by rwa [List.getLast?_cons, hrest] at h))
        -- Where nothing is left of the rest, there was no rest.
        | none =>
          have hempty := List.getLast?_eq_none_iff.1 hrest
          have hs : s.head? = none := by
            have hhead := head?_replaceFrom (p := p) (s := s) hr
            rw [hempty, List.head?_nil] at hhead
            refine (hhead.resolve_right fun hnone => ?_).symm
            exact hr (List.head?_eq_none_iff.1 hnone.symm)
          rw [List.head?_eq_none_iff.1 hs]
          rw [hempty] at h
          exact Or.inr h

/-- A text is as it was, or the first occurrence of the pattern has been replaced. -/
theorem replaceFrom_cases (s : List Char) : replaceFrom p r 0 s = s ∨
    ∃ w u v, s = w ++ (p ++ u) ∧ replaceFrom p r 0 s = w ++ (r ++ v) := by
  induction s with
  | nil => exact Or.inl rfl
  | cons c s ih =>
    rw [replaceFrom]
    split
    · next h =>
      rcases List.isPrefixOf_iff_prefix.1 h with ⟨u, hu⟩
      exact Or.inr ⟨[], u, _, hu.symm, rfl⟩
    · rcases ih with ih | ⟨w, u, v, hs, hr⟩
      · exact Or.inl (congrArg (c :: ·) ih)
      · exact Or.inr ⟨c :: w, u, v, congrArg (c :: ·) hs, congrArg (c :: ·) hr⟩

/-- A text without the pattern stays as it is. -/
theorem replaceFrom_of_not_infix (h : ¬p <:+: s) : replaceFrom p r 0 s = s := by
  rcases replaceFrom_cases (p := p) (r := r) s with hs | ⟨w, u, v, hs, -⟩
  · exact hs
  · exact absurd ⟨w, u, by rw [hs, List.append_assoc]⟩ h

/-! ## Occurrences -/

theorem occurrencesFrom_append {e : List Char} (he : ∀ c ∈ e.head?, c ∉ p) {skip : Nat}
    (hskip : skip ≤ s.length) :
    occurrencesFrom p skip (s ++ e) = occurrencesFrom p skip s + occurrencesFrom p 0 e := by
  induction s generalizing skip with
  | nil =>
    cases Nat.le_zero.1 hskip
    rw [List.nil_append, occurrencesFrom, Nat.zero_add]
  | cons c s ih =>
    cases skip with
    | succ skip => exact ih (Nat.le_of_succ_le_succ hskip)
    | zero =>
      have hfound := isPrefixOf_append (p := p) (s := c :: s) he
      rw [List.cons_append] at hfound ⊢
      rw [occurrencesFrom, occurrencesFrom, hfound]
      split
      · next h =>
        have hle := (List.isPrefixOf_iff_prefix.1 h).length_le
        rw [ih (Nat.sub_le_of_le_add hle), Nat.add_right_comm]
      · exact ih (Nat.zero_le _)

/-- No occurrence reaches across a character that the pattern does not hold. -/
theorem occurrences_append {e : List Char} (s : List Char) (he : ∀ c ∈ e.head?, c ∉ p) :
    occurrences p (s ++ e) = occurrences p s + occurrences p e := by
  unfold occurrences
  split
  · rfl
  · exact occurrencesFrom_append he (Nat.zero_le _)

theorem occurrences_cons_of_not_mem {c : Char} (hc : c ∉ p) (s : List Char) :
    occurrences p (c :: s) = occurrences p s := by
  unfold occurrences
  split
  · rfl
  · next hp =>
    have hprefix : ¬p.isPrefixOf (c :: s) = true := by
      intro h
      cases p with
      | nil => exact hp rfl
      | cons a p =>
        rw [List.isPrefixOf_cons_cons, Bool.and_eq_true, beq_iff_eq] at h
        exact hc (h.1 ▸ List.mem_cons_self)
    rw [occurrencesFrom, if_neg hprefix]

theorem occurrences_of_forall_not_mem {t : List Char} (ht : ∀ c ∈ t, c ∉ p) :
    occurrences p t = 0 := by
  induction t with
  | nil => simp [occurrences, occurrencesFrom]
  | cons c t ih =>
    rw [occurrences_cons_of_not_mem (ht c List.mem_cons_self)]
    exact ih fun d hd => ht d (List.mem_cons_of_mem c hd)

theorem occurrencesFrom_skip (u s : List Char) :
    occurrencesFrom p u.length (u ++ s) = occurrencesFrom p 0 s := by
  induction u with
  | nil => rfl
  | cons c u ih => exact ih

/-- An occurrence at the front counts, whatever follows it. -/
theorem occurrences_pattern_append (hp : p ≠ []) (s : List Char) :
    occurrences p (p ++ s) = occurrences p s + 1 := by
  have hempty : ¬p.isEmpty = true := by simpa using hp
  rw [occurrences, occurrences, if_neg hempty, if_neg hempty]
  cases p with
  | nil => exact absurd rfl hp
  | cons a u =>
    have hprefix : (a :: u).isPrefixOf (a :: (u ++ s)) = true :=
      List.isPrefixOf_iff_prefix.2 (List.prefix_append (a :: u) s)
    rw [List.cons_append, occurrencesFrom, if_pos hprefix, List.length_cons, Nat.add_sub_cancel,
      occurrencesFrom_skip]

/-! ## The first occurrence -/

section

variable {before after : List Char}

theorem stripPrefix?_eq_some_iff {rest : List Char} :
    stripPrefix? p s = some rest ↔ s = p ++ rest := by
  refine ⟨eq_append_of_stripPrefix?, ?_⟩
  rintro rfl
  exact stripPrefix?_append p rest

theorem stripPrefix?_eq_none_iff : stripPrefix? p s = none ↔ ¬ p <+: s := by
  constructor
  · rintro h ⟨rest, rfl⟩
    rw [stripPrefix?_append] at h
    cases h
  · intro h
    cases hs : stripPrefix? p s with
    | none => rfl
    | some rest => exact absurd ⟨rest, (eq_append_of_stripPrefix? hs).symm⟩ h

theorem breakOn?_cons_eq_some_iff {c : Char} :
    breakOn? p (c :: s) = some (before, after) ↔
      (before = [] ∧ c :: s = p ++ after) ∨
        (¬ p <+: c :: s ∧ ∃ b, before = c :: b ∧ breakOn? p s = some (b, after)) := by
  rw [breakOn?]
  cases hp : stripPrefix? p (c :: s) with
  | some rest =>
    have hrest := stripPrefix?_eq_some_iff.1 hp
    simp [hrest, eq_comm]
  | none =>
    have hpre := stripPrefix?_eq_none_iff.1 hp
    have hne : c :: s ≠ p ++ after := fun h => hpre ⟨after, h.symm⟩
    simp only [hne, and_false, hpre, not_false_eq_true, true_and, false_or,
      Option.map_eq_some_iff, Prod.exists, Prod.mk.injEq]
    constructor
    · rintro ⟨b, _, hb, rfl, rfl⟩
      exact ⟨b, rfl, hb⟩
    · rintro ⟨b, rfl, hb⟩
      exact ⟨b, after, hb, rfl, rfl⟩

theorem breakOn?_eq_none_iff : breakOn? p s = none ↔ ¬ p <:+: s := by
  induction s with
  | nil => cases p <;> simp [breakOn?]
  | cons c s ih =>
    rw [breakOn?, List.infix_cons_iff, not_or, ← ih, ← stripPrefix?_eq_none_iff]
    cases stripPrefix? p (c :: s) <;> simp

/-- The text around the first occurrence of a pattern: no other one has less text in front of it. -/
theorem breakOn?_eq_some_iff : breakOn? p s = some (before, after) ↔
    s = before ++ (p ++ after) ∧ ∀ b a, s = b ++ (p ++ a) → before.length ≤ b.length := by
  induction s generalizing before with
  | nil => cases p <;> cases before <;> simp [breakOn?]
  | cons c s ih =>
    rw [breakOn?_cons_eq_some_iff]
    constructor
    · rintro (⟨rfl, hs⟩ | ⟨hnot, b, rfl, hb⟩)
      · exact ⟨hs, fun _ _ _ => Nat.zero_le _⟩
      · obtain ⟨rfl, hfirst⟩ := ih.1 hb
        refine ⟨rfl, fun d a hd => ?_⟩
        cases d with
        | nil => exact absurd ⟨a, hd.symm⟩ hnot
        | cons e d => exact Nat.succ_le_succ (hfirst d a (List.cons.inj hd).2)
    · rintro ⟨hs, hfirst⟩
      cases before with
      | nil => exact Or.inl ⟨rfl, hs⟩
      | cons b before =>
        obtain ⟨rfl, rfl⟩ := List.cons.inj hs
        refine Or.inr ⟨?_, before, rfl, ih.2 ⟨rfl, fun d a hd => ?_⟩⟩
        · rintro ⟨a, ha⟩
          exact absurd (hfirst [] a ha.symm) (Nat.not_succ_le_zero _)
        · exact Nat.le_of_succ_le_succ (hfirst (c :: d) a (congrArg (c :: ·) hd))

theorem eq_append_of_breakOn? (h : breakOn? p s = some (before, after)) :
    s = before ++ p ++ after := by
  rw [List.append_assoc]
  exact (breakOn?_eq_some_iff.1 h).1

theorem infix_of_breakOn? (h : breakOn? p s = some (before, after)) : p <:+: s :=
  ⟨before, after, (eq_append_of_breakOn? h).symm⟩

/-- What follows a text cannot make its first occurrence of a pattern come earlier. -/
theorem breakOn?_append (t : List Char) (h : breakOn? p s = some (before, after)) :
    breakOn? p (s ++ t) = some (before, after ++ t) := by
  rw [breakOn?_eq_some_iff] at h ⊢
  rcases h with ⟨rfl, hfirst⟩
  refine ⟨by simp, fun b a hb => Nat.le_of_not_lt fun hlt => ?_⟩
  -- An earlier one would end in the text, where none is.
  have hshort : (b ++ p).length ≤ (before ++ (p ++ after)).length := by
    simp only [List.length_append]
    omega
  have hprefix : b ++ p <+: before ++ (p ++ after) :=
    List.prefix_of_prefix_length_le ⟨a, by rw [List.append_assoc, hb]⟩
      (List.prefix_append _ t) hshort
  rcases hprefix with ⟨rest, hrest⟩
  exact Nat.not_le_of_lt hlt (hfirst b rest (by rw [← hrest, List.append_assoc]))

/-- A pattern of two characters is first met behind a text that lacks the first of them. -/
theorem breakOn?_of_not_mem {a b : Char} {s : List Char} (t : List Char) (h : a ∉ s) :
    breakOn? [a, b] (s ++ a :: b :: t) = some (s, t) := by
  induction s with
  | nil => simp [breakOn?, stripPrefix?]
  | cons c s ih =>
    have hc : a ≠ c := by
      intro hac
      exact h (by simp [hac])
    have hs : a ∉ s := fun hs => h (List.mem_cons_of_mem c hs)
    simp [breakOn?, stripPrefix?, hc, ih hs]

end

/-! ## The last occurrence -/

theorem breakOnLast?_eq_none_iff : breakOnLast? p s = none ↔ ¬p <:+: s := by
  induction s with
  | nil => simp [breakOnLast?]
  | cons c s ih =>
    rw [breakOnLast?, List.infix_cons_iff, not_or, ← ih, ← stripPrefix?_eq_none_iff]
    cases breakOnLast? p s with
    | none => simp
    | some found => simp

/-- The text around the last occurrence of a pattern: it occurs no more behind its first
character. -/
theorem breakOnLast?_eq_some_iff (hp : p ≠ []) {before rest : List Char} :
    breakOnLast? p s = some (before, rest) ↔
      s = before ++ (p ++ rest) ∧ ¬p <:+: (p ++ rest).tail := by
  induction s generalizing before with
  | nil => simp [breakOnLast?, hp]
  | cons c s ih =>
    rw [breakOnLast?]
    constructor
    · intro h
      split at h
      · next hfound =>
        cases h
        rcases ih.1 hfound with ⟨rfl, hlast⟩
        exact ⟨rfl, hlast⟩
      · next hnone =>
        rcases Option.map_eq_some_iff.1 h with ⟨u, hu, heq⟩
        cases heq
        have hs := eq_append_of_stripPrefix? hu
        refine ⟨hs, ?_⟩
        rw [← hs, List.tail_cons]
        exact breakOnLast?_eq_none_iff.1 hnone
    · rintro ⟨hs, hlast⟩
      cases before with
      | nil =>
        rw [List.nil_append] at hs
        rw [← hs, List.tail_cons] at hlast
        rw [breakOnLast?_eq_none_iff.2 hlast, hs, stripPrefix?_append]
        rfl
      | cons b before =>
        cases hs
        rw [ih.2 ⟨rfl, hlast⟩]

/-- What follows a text and has no character of the pattern stays behind its last occurrence. -/
theorem stripPrefix?_append_of_forall {e : List Char} (he : ∀ c ∈ e, c ∉ p) :
    stripPrefix? p (s ++ e) = (stripPrefix? p s).map (· ++ e) := by
  induction p generalizing s with
  | nil => rfl
  | cons a p ih =>
    cases s with
    | nil =>
      cases e with
      | nil => rfl
      | cons c e =>
        have hne : a ≠ c := fun heq => he c List.mem_cons_self (heq ▸ List.mem_cons_self)
        simp [stripPrefix?, hne]
    | cons c s =>
      have hrest := ih (s := s) fun d hd hmem => he d hd (List.mem_cons_of_mem a hmem)
      rw [List.cons_append, stripPrefix?, stripPrefix?, hrest]
      split <;> rfl

theorem breakOnLast?_append_of_forall (hp : p ≠ []) {e : List Char} (he : ∀ c ∈ e, c ∉ p) :
    breakOnLast? p (s ++ e) =
      (breakOnLast? p s).map fun (before, rest) => (before, rest ++ e) := by
  induction s with
  | nil =>
    have hnone : breakOnLast? p e = none := by
      refine breakOnLast?_eq_none_iff.2 fun hfound => ?_
      cases p with
      | nil => exact hp rfl
      | cons a p => exact he a (hfound.subset List.mem_cons_self) List.mem_cons_self
    rw [List.nil_append, hnone, breakOnLast?]
    cases p with
    | nil => exact absurd rfl hp
    | cons a p => rfl
  | cons c s ih =>
    have hstrip := stripPrefix?_append_of_forall (s := c :: s) he
    rw [List.cons_append] at hstrip
    rw [List.cons_append, breakOnLast?, breakOnLast?, ih, hstrip]
    cases breakOnLast? p s with
    | some found => rfl
    | none => cases stripPrefix? p (c :: s) <;> rfl

/-- The last one of a character is where it does not occur any more behind it. -/
theorem breakOnLast?_append {c : Char} {after : List Char} (before : List Char) (h : c ∉ after) :
    breakOnLast? [c] (before ++ c :: after) = some (before, after) := by
  refine (breakOnLast?_eq_some_iff (List.cons_ne_nil c [])).2 ⟨rfl, fun hfound => ?_⟩
  exact h (hfound.subset List.mem_cons_self)

end Text
end StaticBlog
