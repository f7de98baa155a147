import StaticBlog.Markdown.Repair
import StaticBlog.Proofs.Text.Pieces
import StaticBlog.Proofs.Text.Search

/-!
# Where an open emphasis is closed

- `RunsOn` : a text in which neither an asterisk nor a sentence break comes
- `ClosingPoint` : the place in a line where its last mark is closed
- `closeContent_cases`, `ClosingPoint.closeContent_eq` : a line stays as it is, or its last mark is
  closed; the latter if the marks are odd in number and there is a place for it
- `ClosingPoint.occurrences_closed` : closing a mark makes one more of them
- `closeEmphasis_only_balances` : what closing does to a line with its ending
-/

namespace StaticBlog

namespace Repair

variable {s text after : List Char}

/-! ## The first stop -/

/-- Neither an asterisk nor a sentence break comes in a text that something follows. -/
def RunsOn (text after : List Char) : Prop :=
  ∀ front c back, text = front ++ c :: back → c ≠ '*' ∧ isSentenceBreak c (back ++ after) = false

theorem runsOn_nil (after : List Char) : RunsOn [] after := fun front c back h => by simp at h

theorem runsOn_cons {c : Char} : RunsOn (c :: s) after ↔
    (c ≠ '*' ∧ isSentenceBreak c (s ++ after) = false) ∧ RunsOn s after := by
  constructor
  · intro h
    refine ⟨h [] c s rfl, fun front d back hs => h (c :: front) d back ?_⟩
    rw [hs, List.cons_append]
  · rintro ⟨hc, hs⟩ front d back heq
    cases front with
    | nil =>
      cases heq
      exact hc
    | cons e front =>
      cases heq
      exact hs front d back rfl

theorem RunsOn.not_mem (h : RunsOn text after) : '*' ∉ text := by
  intro hmem
  rcases List.append_of_mem hmem with ⟨front, back, rfl⟩
  exact (h front '*' back rfl).1 rfl

theorem isSentenceBreak_star (s : List Char) : isSentenceBreak '*' s = false := by
  have hwide : isWidePunctuation '*' = false := by decide
  have hmark : isSentencePunctuation '*' = false := by decide
  simp only [isSentenceBreak, hwide, hmark, Bool.false_and, Bool.or_self]

section

variable {c : Char} (hstar : c ≠ '*') (hbreak : isSentenceBreak c s = false)
include hstar hbreak

theorem findStop_cons_eq_none_iff : findStop (c :: s) = .none ↔ findStop s = .none := by
  rw [findStop, if_neg hstar, hbreak, if_neg Bool.false_ne_true]
  cases findStop s <;> simp

theorem findStop_cons_eq_sentence_iff : findStop (c :: s) = .sentence text after ↔
    ∃ more, text = c :: more ∧ findStop s = .sentence more after := by
  rw [findStop, if_neg hstar, hbreak, if_neg Bool.false_ne_true]
  cases findStop s with
  | star => simp
  | none => simp
  | sentence more rest => simp [eq_comm]

end

/-- A text that runs on is empty, or it has gone on with the first character. -/
theorem RunsOn.cons_cases {c : Char} (h : RunsOn text after) (hs : c :: s = text ++ after) :
    (text = [] ∧ after = c :: s) ∨ ∃ more, text = c :: more ∧ s = more ++ after ∧
      (c ≠ '*' ∧ isSentenceBreak c s = false) ∧ RunsOn more after := by
  cases text with
  | nil => exact Or.inl ⟨rfl, hs.symm⟩
  | cons d more =>
    rcases List.cons.inj hs with ⟨rfl, rfl⟩
    rcases runsOn_cons.1 h with ⟨hc, hmore⟩
    exact Or.inr ⟨more, rfl, rfl, hc, hmore⟩

theorem findStop_eq_sentence_iff : findStop s = .sentence text after ↔
    s = text ++ after ∧ RunsOn text after ∧
      ∃ c rest, after = c :: rest ∧ isSentenceBreak c rest = true := by
  induction s generalizing text with
  | nil =>
    constructor
    · intro h
      cases h
    · rintro ⟨hs, -, c, rest, rfl, -⟩
      simp at hs
  | cons c s ih =>
    by_cases hstar : c = '*'
    · subst hstar
      rw [findStop, if_pos rfl]
      constructor
      · intro h
        cases h
      -- An asterisk neither goes on with the text nor breaks the sentence.
      · rintro ⟨hs, hrun, d, rest, rfl, hbreak⟩
        rcases hrun.cons_cases hs with ⟨-, hafter⟩ | ⟨-, -, -, ⟨hne, -⟩, -⟩
        · cases hafter
          rw [isSentenceBreak_star] at hbreak
          cases hbreak
        · exact absurd rfl hne
    · cases hbreak : isSentenceBreak c s with
      | true =>
        rw [findStop, if_neg hstar, if_pos hbreak]
        constructor
        · intro h
          cases h
          exact ⟨rfl, runsOn_nil _, c, s, rfl, hbreak⟩
        · rintro ⟨hs, hrun, -⟩
          rcases hrun.cons_cases hs with ⟨rfl, rfl⟩ | ⟨-, -, -, ⟨-, hnone⟩, -⟩
          · rfl
          · rw [hnone] at hbreak
            cases hbreak
      | false =>
        rw [findStop_cons_eq_sentence_iff hstar hbreak]
        constructor
        · rintro ⟨more, rfl, hmore⟩
          rcases ih.1 hmore with ⟨rfl, hrun, hafter⟩
          exact ⟨rfl, runsOn_cons.2 ⟨⟨hstar, hbreak⟩, hrun⟩, hafter⟩
        · rintro ⟨hs, hrun, d, rest, rfl, hd⟩
          rcases hrun.cons_cases hs with ⟨-, hafter⟩ | ⟨more, rfl, hmore, -, hrun⟩
          · cases hafter
            rw [hbreak] at hd
            cases hd
          · exact ⟨more, rfl, ih.2 ⟨hmore, hrun, d, rest, rfl, hd⟩⟩

theorem findStop_eq_none_iff : findStop s = .none ↔ RunsOn s [] := by
  induction s with
  | nil => exact ⟨fun _ => runsOn_nil [], fun _ => rfl⟩
  | cons c s ih =>
    rw [runsOn_cons, List.append_nil]
    by_cases hstar : c = '*'
    · simp [findStop, hstar]
    · cases hbreak : isSentenceBreak c s with
      | true => simp [findStop, hstar, hbreak]
      | false => simp [findStop_cons_eq_none_iff hstar hbreak, hstar, ih]

/-! ## The closing mark -/

theorem isBlank_eq_false_of_isSentenceBreak {c : Char} (h : isSentenceBreak c s = true) :
    Text.isBlank c = false := by
  have hmark : isWidePunctuation c = true ∨ isSentencePunctuation c = true := by
    simp only [isSentenceBreak, Bool.or_eq_true, Bool.and_eq_true] at h
    exact h.imp_right And.left
  rcases hmark with hwide | hmark
  · simp [isWidePunctuation] at hwide
    rcases hwide with rfl | rfl | rfl | rfl | rfl | rfl | rfl <;> decide
  · simp [isSentencePunctuation] at hmark
    rcases hmark with rfl | rfl | rfl | rfl | rfl | rfl <;> decide

/-- The place in a line without its ending where its last mark is closed: behind some text, in front
of the first sentence break, or at the end of the trimmed line if none comes. -/
structure ClosingPoint (content before text after : List Char) : Prop where
  split : content = before ++ (strongMark ++ (text ++ after))
  last : ¬strongMark <:+: '*' :: (text ++ after)
  text_ne : text ≠ []
  runsOn : RunsOn text after
  stop : (∃ c rest, after = c :: rest ∧ isSentenceBreak c rest = true) ∨
    (RunsOn (text ++ after) [] ∧ Text.trimEnd content = before ++ (strongMark ++ text))

variable {content before : List Char}

theorem strongMark_ne_nil : strongMark ≠ [] := List.cons_ne_nil _ _

theorem runsOn_append {t : List Char} :
    RunsOn (s ++ t) after ↔ RunsOn s (t ++ after) ∧ RunsOn t after := by
  induction s with
  | nil => exact ⟨fun h => ⟨runsOn_nil _, h⟩, And.right⟩
  | cons c s ih =>
    rw [List.cons_append, runsOn_cons, runsOn_cons, ih, List.append_assoc]
    exact and_assoc.symm

/-- Where nothing stops the text behind the last mark, the mark is closed at the end of the trimmed
line. -/
theorem closingPoint_of_runsOn {rest : List Char}
    (split : content = before ++ (strongMark ++ rest)) (last : ¬strongMark <:+: '*' :: rest)
    (htext : Text.trim rest ≠ []) (hrun : RunsOn rest []) :
    ClosingPoint content before (Text.trimEnd rest) (rest.drop (Text.trimEnd rest).length) := by
  have hrest : Text.trimEnd rest ++ rest.drop (Text.trimEnd rest).length = rest :=
    List.prefix_iff_eq_append.1 (Text.dropBack_prefix_self rest)
  have hne : Text.trimEnd rest ≠ [] := fun hnil =>
    htext (Text.trim_eq_nil_iff.2 (Text.dropBack_eq_nil_iff.1 hnil))
  have hfront : RunsOn (Text.trimEnd rest) (rest.drop (Text.trimEnd rest).length) := by
    rw [← hrest, runsOn_append, List.append_nil] at hrun
    exact hrun.1
  have htrim : Text.trimEnd content = before ++ (strongMark ++ Text.trimEnd rest) := by
    rw [split, ← List.append_assoc, Text.trimEnd, Text.dropBack_append _ hne, List.append_assoc]
    rfl
  refine ⟨by rw [hrest]; exact split, by rw [hrest]; exact last, hne, hfront, Or.inr ⟨?_, htrim⟩⟩
  rw [hrest]
  exact hrun

/-- A line stays as it is, or its last mark is closed. -/
theorem closeContent_cases (content : List Char) : closeContent content = content ∨
    Text.occurrences strongMark content % 2 = 1 ∧ ∃ before text after,
      ClosingPoint content before text after ∧
        closeContent content = before ++ (strongMark ++ (text ++ (strongMark ++ after))) := by
  unfold closeContent
  split
  · exact Or.inl rfl
  · next heven =>
    have hodd : Text.occurrences strongMark content % 2 = 1 := Nat.mod_two_ne_zero.1 heven
    split
    · exact Or.inl rfl
    · next before rest hbreak =>
      rcases (Text.breakOnLast?_eq_some_iff strongMark_ne_nil).1 hbreak with ⟨split, last⟩
      split
      · exact Or.inl rfl
      · next htext =>
        split
        · exact Or.inl rfl
        · exact Or.inl rfl
        · next text after hne hstop =>
          -- The mark is closed where a sentence ends behind it.
          rcases findStop_eq_sentence_iff.1 hstop with ⟨rfl, hrun, hstop⟩
          exact Or.inr ⟨hodd, before, text, after, ⟨split, last, hne, hrun, Or.inl hstop⟩, by simp⟩
        · next hstop =>
          -- The text runs on to the end of the line, blanks aside.
          have hpoint := closingPoint_of_runsOn split last (fun h => htext (by rw [h]; rfl))
            (findStop_eq_none_iff.1 hstop)
          exact Or.inr ⟨hodd, before, _, _, hpoint, by simp⟩

/-- A text that ends where the line is trimmed is the trimmed rest of the line. -/
theorem ClosingPoint.trimEnd_eq (h : ClosingPoint content before text after)
    (htrim : Text.trimEnd content = before ++ (strongMark ++ text)) :
    Text.trimEnd (text ++ after) = text := by
  have hlast : ∃ c ∈ text, Text.isBlank c = false := by
    refine ⟨text.getLast h.text_ne, List.getLast_mem h.text_ne, ?_⟩
    refine Text.eq_false_of_getLast?_dropBack (s := content) ?_
    rw [show Text.dropBack Text.isBlank content = _ from htrim, ← List.append_assoc,
      List.getLast?_append_of_ne_nil _ h.text_ne, List.getLast?_eq_getLast_of_ne_nil h.text_ne]
  have hne : Text.trimEnd (text ++ after) ≠ [] := by
    intro hnil
    rcases hlast with ⟨c, hc, hblank⟩
    rw [Text.dropBack_eq_nil_iff.1 hnil c (List.mem_append_left after hc)] at hblank
    cases hblank
  rw [h.split, ← List.append_assoc, Text.trimEnd, Text.dropBack_append _ hne,
    List.append_assoc] at htrim
  exact List.append_cancel_left (List.append_cancel_left htrim)

theorem ClosingPoint.trim_ne_nil (h : ClosingPoint content before text after) :
    Text.trim (text ++ after) ≠ [] := by
  intro hnil
  have hblank := Text.trim_eq_nil_iff.1 hnil
  rcases h.stop with ⟨c, rest, rfl, hc⟩ | ⟨-, htrim⟩
  · have hmark := isBlank_eq_false_of_isSentenceBreak hc
    rw [hblank c (List.mem_append_right text List.mem_cons_self)] at hmark
    cases hmark
  · have hempty : Text.trimEnd (text ++ after) = [] := Text.dropBack_eq_nil_iff.2 hblank
    exact h.text_ne ((h.trimEnd_eq htrim).symm.trans hempty)

/-- A closing point at the end of the trimmed line has only blanks behind it. -/
theorem ClosingPoint.blank_of_trimEnd_eq (h : ClosingPoint content before text after)
    (htrim : Text.trimEnd content = before ++ (strongMark ++ text)) :
    ∀ c ∈ after, Text.isBlank c = true := by
  rcases Text.exists_dropBack_append Text.isBlank content with ⟨blanks, hcontent, hblanks⟩
  rw [show Text.dropBack Text.isBlank content = _ from htrim, h.split] at hcontent
  have hafter : after = blanks := by simpa using hcontent
  exact hafter ▸ hblanks

theorem ClosingPoint.head?_ne (h : ClosingPoint content before text after) :
    after.head? ≠ some '*' := by
  intro hhead
  rcases h.stop with ⟨c, rest, rfl, hc⟩ | ⟨hrun, -⟩
  · cases hhead
    rw [isSentenceBreak_star] at hc
    cases hc
  · exact hrun.not_mem (List.mem_append_right text (List.mem_of_mem_head? hhead))

/-- In a line with an odd number of marks the last one is closed if there is a place for it. -/
theorem ClosingPoint.closeContent_eq (h : ClosingPoint content before text after)
    (hodd : Text.occurrences strongMark content % 2 = 1) :
    closeContent content = before ++ (strongMark ++ (text ++ (strongMark ++ after))) := by
  have heven : ¬Text.occurrences strongMark content % 2 = 0 := by omega
  have hbreak : Text.breakOnLast? strongMark content = some (before, text ++ after) :=
    (Text.breakOnLast?_eq_some_iff strongMark_ne_nil).2 ⟨h.split, h.last⟩
  have htext : ¬(Text.trim (text ++ after)).isEmpty = true := by
    rw [List.isEmpty_iff]
    exact h.trim_ne_nil
  unfold closeContent
  rw [if_neg heven, hbreak]
  simp only
  rcases h.stop with ⟨c, rest, rfl, hc⟩ | ⟨hrun, htrim⟩
  · have hstop := findStop_eq_sentence_iff.2 ⟨rfl, h.runsOn, c, rest, rfl, hc⟩
    rw [if_neg htext, hstop]
    cases text with
    | nil => exact absurd rfl h.text_ne
    | cons d text => simp
  · have hstop := findStop_eq_none_iff.2 hrun
    rw [if_neg htext, hstop]
    simp [h.trimEnd_eq htrim]

/-! ## Balance -/

/-- Closing a mark makes one more of them. -/
theorem ClosingPoint.occurrences_closed (h : ClosingPoint content before text after) :
    Text.occurrences strongMark (before ++ (strongMark ++ (text ++ (strongMark ++ after)))) =
      Text.occurrences strongMark content + 1 := by
  have htext := List.dropLast_append_getLast h.text_ne
  generalize text.dropLast = front, text.getLast h.text_ne = c at htext
  -- The character in front of the closing mark belongs to no mark.
  have hc : c ∉ strongMark := by
    intro hmem
    have hstar : c = '*' := by simpa [strongMark] using hmem
    exact h.runsOn.not_mem (by rw [← htext, hstar]; simp)
  have hcut : ∀ tail, Text.occurrences strongMark (before ++ (strongMark ++ (text ++ tail))) =
      Text.occurrences strongMark (before ++ (strongMark ++ front)) +
        Text.occurrences strongMark tail := by
    intro tail
    have hsplit : before ++ (strongMark ++ (text ++ tail)) =
        (before ++ (strongMark ++ front)) ++ c :: tail := by
      rw [← htext]
      simp
    rw [hsplit, Text.occurrences_append _ fun d hd => by cases hd; exact hc,
      Text.occurrences_cons_of_not_mem hc]
  calc Text.occurrences strongMark (before ++ (strongMark ++ (text ++ (strongMark ++ after))))
      = Text.occurrences strongMark (before ++ (strongMark ++ front)) +
          (Text.occurrences strongMark after + 1) := by
        rw [hcut, Text.occurrences_pattern_append strongMark_ne_nil]
    _ = Text.occurrences strongMark content + 1 := by rw [h.split, hcut, Nat.add_assoc]

theorem closeContent_of_even (h : Text.occurrences strongMark content % 2 = 0) :
    closeContent content = content := by
  rw [closeContent, if_pos h]

theorem even_of_closeContent_ne (h : closeContent content ≠ content) :
    Text.occurrences strongMark (closeContent content) % 2 = 0 := by
  rcases closeContent_cases content with heq | ⟨hodd, before, text, after, hpoint, heq⟩
  · exact absurd heq h
  · rw [heq, hpoint.occurrences_closed]
    omega

theorem closeContent_closeContent (content : List Char) :
    closeContent (closeContent content) = closeContent content := by
  by_cases h : closeContent content = content
  · rw [h, h]
  · exact closeContent_of_even (even_of_closeContent_ne h)

/-! ## Lines with their endings -/

section

variable {e : List Char}

theorem isBlank_of_isLineBreak {c : Char} (h : Text.isLineBreak c = true) :
    Text.isBlank c = true := by
  simp only [Text.isLineBreak, Bool.or_eq_true, decide_eq_true_eq] at h
  rcases h with rfl | rfl <;> rfl

theorem not_mem_strongMark (he : ∀ c ∈ e, Text.isLineBreak c = true) : ∀ c ∈ e, c ∉ strongMark := by
  intro c hc hmem
  have hstar : c = '*' := by simpa [strongMark] using hmem
  have hbreak := he c hc
  rw [hstar] at hbreak
  cases hbreak

theorem occurrences_append_breaks (he : ∀ c ∈ e, Text.isLineBreak c = true) (s : List Char) :
    Text.occurrences strongMark (s ++ e) = Text.occurrences strongMark s := by
  have hmark := not_mem_strongMark he
  rw [Text.occurrences_append s fun c hc => hmark c (List.mem_of_mem_head? hc),
    Text.occurrences_of_forall_not_mem hmark, Nat.add_zero]

theorem isSentenceBreak_append (he : ∀ c ∈ e, Text.isLineBreak c = true) (c : Char)
    (s : List Char) : isSentenceBreak c (s ++ e) = isSentenceBreak c s := by
  cases s with
  | cons d s => rfl
  | nil =>
    cases e with
    | nil => rfl
    | cons d e =>
      have hblank := isBlank_of_isLineBreak (he d List.mem_cons_self)
      simp only [isSentenceBreak, List.nil_append, hblank]

def Stop.followedBy (e : List Char) : Stop → Stop
  | .sentence before after => .sentence before (after ++ e)
  | stop => stop

theorem findStop_append (he : ∀ c ∈ e, Text.isLineBreak c = true) (s : List Char) :
    findStop (s ++ e) = (findStop s).followedBy e := by
  induction s with
  | nil =>
    -- A line break is no stop.
    have hrun : RunsOn e [] := by
      rintro front c back rfl
      have hbreak := he c (List.mem_append_right front List.mem_cons_self)
      refine ⟨fun hstar => ?_, Bool.eq_false_iff.2 fun hstop => ?_⟩
      · rw [hstar] at hbreak
        cases hbreak
      · have hmark := isBlank_eq_false_of_isSentenceBreak hstop
        rw [isBlank_of_isLineBreak hbreak] at hmark
        cases hmark
    exact findStop_eq_none_iff.2 hrun
  | cons c s ih =>
    rw [List.cons_append, findStop, findStop, isSentenceBreak_append he, ih]
    split
    · rfl
    · split
      · rfl
      · cases findStop s <;> rfl

/-- Line breaks behind a line do not matter to its closing. -/
theorem closeContent_append (he : ∀ c ∈ e, Text.isLineBreak c = true) (s : List Char) :
    closeContent (s ++ e) = closeContent s ++ e := by
  have hblank : ∀ c ∈ e, Text.isBlank c = true := fun c hc => isBlank_of_isLineBreak (he c hc)
  rw [closeContent, closeContent, occurrences_append_breaks he,
    Text.breakOnLast?_append_of_forall strongMark_ne_nil (not_mem_strongMark he)]
  split
  · rfl
  · cases Text.breakOnLast? strongMark s with
    | none => rfl
    | some found =>
      rcases found with ⟨before, rest⟩
      -- Line breaks are blank: they are trimmed, and no sentence ends at them.
      have htext : (Text.trim (rest ++ e)).isEmpty = (Text.trim rest).isEmpty := by
        rw [Bool.eq_iff_iff, List.isEmpty_iff, List.isEmpty_iff, Text.trim_eq_nil_iff,
          Text.trim_eq_nil_iff, List.forall_mem_append]
        exact and_iff_left hblank
      have hend : Text.trimEnd (rest ++ e) = Text.trimEnd rest :=
        Text.dropBack_append_of_forall rest hblank
      have hle : (Text.trimEnd rest).length ≤ rest.length :=
        (Text.dropBack_prefix_self rest).length_le
      simp only [Option.map_some, htext, findStop_append he, hend]
      split
      · rfl
      · cases findStop rest with
        | star => rfl
        | none => simp [Stop.followedBy, List.drop_append_of_le_length hle]
        | sentence text after => cases text <;> simp [Stop.followedBy]

/-- A line is its content and line breaks. -/
theorem exists_ending (line : List Char) : ∃ ending, line = Text.contentOf line ++ ending ∧
    ∀ c ∈ ending, Text.isLineBreak c = true := Text.exists_dropBack_append Text.isLineBreak line

theorem closeEmphasis_eq (line : List Char) : closeEmphasis line = closeContent line := by
  rcases exists_ending line with ⟨ending, hline, hbreaks⟩
  have happend := closeContent_append hbreaks (Text.contentOf line)
  rw [closeEmphasis]
  generalize Text.contentOf line = content at hline happend
  rw [hline, List.drop_left, happend]

end

/-- A line whose last mark is closed, with the same ending. -/
def IsClosed (line closed : List Char) : Prop :=
  ∃ before text after ending, line = Text.contentOf line ++ ending ∧
    ClosingPoint (Text.contentOf line) before text after ∧
      closed = before ++ (strongMark ++ (text ++ (strongMark ++ after))) ++ ending

theorem isClosed_or_eq (line : List Char) :
    closeEmphasis line = line ∨ IsClosed line (closeEmphasis line) := by
  rcases exists_ending line with ⟨ending, hline, hbreaks⟩
  have hout := closeContent_append hbreaks (Text.contentOf line)
  rw [← hline, ← closeEmphasis_eq] at hout
  rcases closeContent_cases (Text.contentOf line) with heq | ⟨-, before, text, after, hpoint, heq⟩
  · exact Or.inl (by rw [hout, heq, ← hline])
  · exact Or.inr ⟨before, text, after, ending, hline, hpoint, by rw [hout, heq]⟩

/-- In a line with an odd number of marks the last one is closed if there is a place for it. -/
theorem IsClosed.closeEmphasis_eq {line closed : List Char} (h : IsClosed line closed)
    (hodd : Text.occurrences strongMark line % 2 = 1) : closeEmphasis line = closed := by
  rcases h with ⟨before, text, after, ending, hline, hpoint, rfl⟩
  rcases exists_ending line with ⟨tail, hline', hbreaks⟩
  have htail : tail = ending := List.append_cancel_left (hline'.symm.trans hline)
  subst htail
  rw [hline, occurrences_append_breaks hbreaks] at hodd
  rw [hline, Repair.closeEmphasis_eq, closeContent_append hbreaks, hpoint.closeContent_eq hodd]

/-- Repair of emphasis only balances. A line stays as it is, or its last mark is closed; the latter
if its marks are odd in number and there is a place to close the last one. Then their number is
even, and nothing is left to close. -/
theorem closeEmphasis_only_balances (line : List Char) :
    let out := closeEmphasis line
    (out = line ∨ IsClosed line out) ∧
      (Text.occurrences strongMark line % 2 = 1 → ∀ closed, IsClosed line closed → out = closed) ∧
      (out ≠ line → Text.occurrences strongMark out % 2 = 0) ∧
      (Text.occurrences strongMark line % 2 = 0 → out = line) ∧
      closeEmphasis out = out := by
  intro out
  have hout : out = closeContent line := closeEmphasis_eq line
  refine ⟨isClosed_or_eq line, fun hodd closed hclosed => hclosed.closeEmphasis_eq hodd, ?_, ?_, ?_⟩
  · rw [hout]
    exact even_of_closeContent_ne
  · rw [hout]
    exact closeContent_of_even
  · rw [closeEmphasis_eq, hout, closeContent_closeContent]

/-- An emphasis is closed in front of a wide comma, and the line keeps its ending. -/
theorem bold_closed_before_comma :
    let line := "**Bold，continued\n".toList
    let closed := "**Bold**，continued\n".toList
    Text.occurrences strongMark line % 2 = 1 ∧ IsClosed line closed ∧ closeEmphasis line = closed ∧
      Text.occurrences strongMark closed = 2 ∧ closeEmphasis closed = closed := by
  intro line closed
  have hodd : Text.occurrences strongMark line % 2 = 1 := by decide +kernel
  have hstop : findStop "Bold，continued".toList = .sentence "Bold".toList "，continued".toList := by
    decide +kernel
  have hrun := (findStop_eq_sentence_iff.1 hstop).2.1
  have hpoint : ClosingPoint (Text.contentOf line) [] "Bold".toList "，continued".toList :=
    ⟨by decide +kernel, by decide +kernel, by decide +kernel, hrun,
      Or.inl ⟨'，', "continued".toList, by decide +kernel, by decide +kernel⟩⟩
  have hclosed : IsClosed line closed :=
    ⟨[], _, _, ['\n'], by decide +kernel, hpoint, by decide +kernel⟩
  rcases closeEmphasis_only_balances line with ⟨-, hout, -, -, hagain⟩
  rw [hout hodd closed hclosed] at hagain
  exact ⟨hodd, hclosed, hout hodd closed hclosed, by decide +kernel, hagain⟩

end Repair
end StaticBlog
