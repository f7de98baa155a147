import StaticBlog.Proofs.Text.Pieces
import StaticBlog.Text.Lines

/-!
# Lines of a text made of lines

- `Text.linesKept_append_feed` : a text without line feeds is the first line of what it begins, if a
  line feed follows it
- `Text.linesKept_of_not_mem` : alone it is the only line
- `Text.withoutEnding_append_feed` : what is dropped with the line feed of a line
- `Text.feed_notMem_of_mem_lines` : no line holds a line feed once its ending is dropped
- `Text.endingOf` : the line breaks that end a line
-/

namespace StaticBlog
namespace Text

variable {s : List Char}

theorem linesKept_cons_of_ne {c : Char} (hc : c ≠ '\n') (s : List Char) :
    linesKept (c :: s) = (c :: (linesKept s).headD []) :: (linesKept s).tail := by
  rw [linesKept, if_neg hc]
  cases linesKept s <;> rfl

theorem linesKept_of_not_mem (hne : s ≠ []) (hs : '\n' ∉ s) : linesKept s = [s] := by
  induction s with
  | nil => exact absurd rfl hne
  | cons c s ih =>
    rcases not_or.1 (fun h => hs (List.mem_cons.2 h)) with ⟨hc, hs⟩
    rw [linesKept_cons_of_ne (Ne.symm hc)]
    cases s with
    | nil => rfl
    | cons d s =>
      rw [ih (List.cons_ne_nil d s) hs]
      rfl

theorem linesKept_append_feed (hs : '\n' ∉ s) (t : List Char) :
    linesKept (s ++ '\n' :: t) = (s ++ ['\n']) :: linesKept t := by
  induction s with
  | nil => rfl
  | cons c s ih =>
    rcases not_or.1 (fun h => hs (List.mem_cons.2 h)) with ⟨hc, hs⟩
    rw [List.cons_append, linesKept_cons_of_ne (Ne.symm hc), ih hs]
    rfl

/-- A line that is kept has no line feed but the one that may end it. -/
theorem exists_body_of_mem_linesKept {l : List Char} (h : l ∈ linesKept s) :
    ∃ body, '\n' ∉ body ∧ (l = body ∨ l = body ++ ['\n']) := by
  induction s generalizing l with
  | nil => cases h
  | cons c s ih =>
    by_cases hc : c = '\n'
    · rw [linesKept, if_pos hc] at h
      rcases List.mem_cons.1 h with rfl | h
      · exact ⟨[], List.not_mem_nil, .inr (by rw [hc]; rfl)⟩
      · exact ih h
    · rw [linesKept_cons_of_ne hc] at h
      rcases List.mem_cons.1 h with rfl | h
      · cases hkept : linesKept s with
        | nil => exact ⟨[c], by simpa using Ne.symm hc, .inl rfl⟩
        | cons l ls =>
          obtain ⟨body, hbody, hl⟩ := ih (hkept ▸ List.mem_cons_self)
          refine ⟨c :: body, by simpa [Ne.symm hc] using hbody, ?_⟩
          rcases hl with rfl | rfl
          · exact .inl rfl
          · exact .inr rfl
      · exact ih (List.mem_of_mem_tail h)

/-! ## Endings -/

theorem withoutEnding_prefix_self (line : List Char) : withoutEnding line <+: line := by
  unfold withoutEnding
  split
  · next r h =>
    rw [List.reverse_eq_iff] at h
    exact ⟨['\r', '\n'], by simp [h]⟩
  · next r _ h =>
    rw [List.reverse_eq_iff] at h
    exact ⟨['\n'], by simp [h]⟩
  · exact List.prefix_rfl

theorem withoutEnding_of_not_mem (hs : '\n' ∉ s) : withoutEnding s = s := by
  unfold withoutEnding
  split
  · next h => exact absurd (List.mem_reverse.1 (h ▸ List.mem_cons_self)) hs
  · next h => exact absurd (List.mem_reverse.1 (h ▸ List.mem_cons_self)) hs
  · rfl

/-- A carriage return in front of a line feed is dropped with it. -/
theorem withoutEnding_append_feed (s : List Char) :
    withoutEnding (s ++ ['\n']) = if s.getLast? = some '\r' then s.dropLast else s := by
  rcases List.eq_nil_or_concat s with rfl | ⟨w, c, rfl⟩
  · rfl
  · by_cases hc : c = '\r' <;> simp [withoutEnding, hc]

theorem withoutEnding_append_returnFeed (s : List Char) :
    withoutEnding (s ++ ['\r', '\n']) = s := by
  simp [withoutEnding]

theorem feed_notMem_of_mem_lines {l : List Char} (h : l ∈ lines s) : '\n' ∉ l := by
  obtain ⟨kept, hkept, rfl⟩ := List.mem_map.1 h
  obtain ⟨body, hbody, rfl | rfl⟩ := exists_body_of_mem_linesKept hkept
  · rwa [withoutEnding_of_not_mem hbody]
  · rw [withoutEnding_append_feed]
    split
    · exact fun hmem => hbody (List.dropLast_subset body hmem)
    · exact hbody

/-- The line feeds and carriage returns that end a line. -/
def endingOf (line : List Char) : List Char := line.drop (contentOf line).length

theorem endingOf_append {content ending : List Char}
    (hcontent : ∀ c, content.getLast? = some c → isLineBreak c = false)
    (hending : ∀ c ∈ ending, isLineBreak c = true) : endingOf (content ++ ending) = ending := by
  have hcut : contentOf (content ++ ending) = content := by
    rw [contentOf, dropBack_append_of_forall content hending]
    exact dropBack_eq_self_iff.2 hcontent
  rw [endingOf, hcut, List.drop_left]

end Text
end StaticBlog
