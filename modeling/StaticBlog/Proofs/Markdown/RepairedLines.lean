import StaticBlog.Proofs.Markdown.FencedRepair
import StaticBlog.Proofs.Text.Lines

/-!
# Lines of a repaired text

- `lineKinds` : how the lines of a text stand to its fences
- `AreKept.linesKept_flatten` : lines with their endings are the lines of the text they make
- `linesKept_repairChars` : the lines of a repaired text are the repaired lines of the text
- `getElem?_linesKept_repairChars` : the line that an ordinary line of a text becomes
- `endingOf_repairLine` : a line keeps its ending when it is mended
- `lineKinds_repairLines` : the lines of a repaired text stand to its fences as before
- `getElem?_repairLines_congr` : earlier lines matter to a line only through their kinds
- `repair_works_line_by_line` : what repair does to the lines of a text
-/

namespace StaticBlog

namespace Markdown

/-! ## Lines that make a text -/

/-- Lines with their endings are the lines of the text they make. -/
theorem AreKept.linesKept_flatten {rs : List (List Char)} (h : AreKept rs) :
    Text.linesKept rs.flatten = rs := by
  induction h with
  | nil => rfl
  | last text unbroken => simpa using Text.linesKept_of_not_mem text unbroken
  | cons unbroken _ ih =>
    rw [List.flatten_cons, List.append_assoc, List.singleton_append,
      Text.linesKept_append_feed unbroken, ih]

end Markdown

namespace Repair

open Markdown (AreKept repaired repairLines_cons)

variable {line : List Char} {rs : List (List Char)}

/-! ## Lines that have been mended -/

theorem repairLine_eq_mend (line : List Char) : repairLine line = mend line := by
  rw [repairLine, closeEmphasis_eq, mend]

theorem not_mem_repairLine (h : '\n' ∉ line) : '\n' ∉ repairLine line := by
  rw [repairLine_eq_mend]
  intro hmem
  rcases mem_closeContent hmem with hmem | hstar
  · rcases mem_escapeStars hmem with hmem | hentity
    · exact h hmem
    · rw [starEntity_eq] at hentity
      simp at hentity
  · cases hstar

theorem repairLine_ne_nil (h : line ≠ []) : repairLine line ≠ [] := by
  rw [repairLine_eq_mend]
  rcases mended_of_mend line with heq | hmended
  · rw [heq]
    exact h
  · rcases hmended.exists_mem with ⟨-, c, hc, -⟩
    exact List.ne_nil_of_mem hc

theorem areKept_repairLines (h : AreKept rs) (fence : Option Fence) :
    AreKept (repairLines fence rs) := by
  induction h generalizing fence with
  | nil => exact .nil
  | last text unbroken =>
    rw [repairLines_cons, repaired]
    split
    · exact .last (repairLine_ne_nil text) (not_mem_repairLine unbroken)
    · exact .last text unbroken
  | cons unbroken _ ih =>
    rw [repairLines_cons, repaired]
    split
    · rw [repairLine_append (by simp [Text.isLineBreak])]
      exact .cons (not_mem_repairLine unbroken) (ih _)
    · exact .cons unbroken (ih _)

/-- The lines of a repaired text are the repaired lines of the text. -/
theorem linesKept_repairChars (markdown : List Char) :
    Text.linesKept (repairChars markdown) = repairLines none (Text.linesKept markdown) :=
  (areKept_repairLines (Markdown.areKept_linesKept markdown) none).linesKept_flatten

/-! ## Ordinary lines -/

/-- How lines stand to the fences of a text, given the fence that is open before them. -/
def lineKinds : Option Fence → List (List Char) → List LineKind
  | _, [] => []
  | fence, r :: rs => (classify fence r).1 :: lineKinds (classify fence r).2 rs

/-- What becomes of a line, told by the fence that is open before it. -/
theorem exists_getElem?_repairLines (fence : Option Fence) {i : Nat} (hline : rs[i]? = some line) :
    ∃ before, (lineKinds fence rs)[i]? = some (classify before line).1 ∧
      (repairLines fence rs)[i]? = some (repaired before line) := by
  induction rs generalizing fence i with
  | nil => cases hline
  | cons r rs ih =>
    rw [repairLines_cons, lineKinds]
    cases i with
    | zero =>
      rw [List.getElem?_cons_zero, Option.some_inj] at hline
      subst hline
      exact ⟨fence, rfl, rfl⟩
    | succ i => exact ih (classify fence r).2 hline

theorem getElem?_repairLines {fence : Option Fence} {i : Nat}
    (hline : rs[i]? = some line) (hkind : (lineKinds fence rs)[i]? = some .ordinary) :
    (repairLines fence rs)[i]? = some (repairLine line) := by
  rcases exists_getElem?_repairLines fence hline with ⟨before, hclass, hout⟩
  rw [hkind, Option.some_inj] at hclass
  rw [hout, repaired, if_pos hclass.symm]

/-- A line of a text that is outside of fences is mended, and stays in its place. -/
theorem getElem?_linesKept_repairChars {markdown : List Char} {i : Nat}
    (hline : (Text.linesKept markdown)[i]? = some line)
    (hkind : (lineKinds none (Text.linesKept markdown))[i]? = some .ordinary) :
    (Text.linesKept (repairChars markdown))[i]? = some (repairLine line) := by
  rw [linesKept_repairChars]
  exact getElem?_repairLines hline hkind

/-! ## Fences -/

/-- A mended line is no fence, as the line was none. -/
theorem fenceOf?_repairLine (h : fenceOf? line = none) : fenceOf? (repairLine line) = none := by
  rw [repairLine_eq_mend]
  rcases mended_of_mend line with heq | hmended
  · rw [heq]
    exact h
  · exact hmended.fenceOf? h

theorem classify_of_fenceOf?_eq_none (h : fenceOf? line = none) :
    classify none line = (.ordinary, none) := by
  rw [classify, h]

theorem classify_some_ne_ordinary (f : Fence) (line : List Char) :
    (classify (some f) line).1 ≠ .ordinary := by
  rw [classify]
  split <;> exact LineKind.noConfusion

/-- Repair does not change how a line stands to the fences. -/
theorem classify_repaired (fence : Option Fence) (line : List Char) :
    classify fence (repaired fence line) = classify fence line := by
  unfold repaired
  split
  · next hordinary =>
    have hnone := Markdown.fenceOf?_of_ordinary hordinary
    cases fence with
    | none =>
      rw [classify_of_fenceOf?_eq_none hnone,
        classify_of_fenceOf?_eq_none (fenceOf?_repairLine hnone)]
    -- Between fences no line is ordinary.
    | some f => exact absurd hordinary (classify_some_ne_ordinary f line)
  · rfl

/-- The lines of a repaired text stand to its fences as before. -/
theorem lineKinds_repairLines (fence : Option Fence) (rs : List (List Char)) :
    lineKinds fence (repairLines fence rs) = lineKinds fence rs := by
  induction rs generalizing fence with
  | nil => rfl
  | cons r rs ih => rw [repairLines_cons, lineKinds, lineKinds, classify_repaired, ih]

theorem length_repairLines (fence : Option Fence) (rs : List (List Char)) :
    (repairLines fence rs).length = rs.length := by
  induction rs generalizing fence with
  | nil => rfl
  | cons r rs ih => rw [repairLines_cons, List.length_cons, List.length_cons, ih]

theorem getElem?_repairLines_of_ne {fence : Option Fence} {i : Nat}
    (hline : rs[i]? = some line) (hkind : (lineKinds fence rs)[i]? ≠ some .ordinary) :
    (repairLines fence rs)[i]? = some line := by
  rcases exists_getElem?_repairLines fence hline with ⟨before, hclass, hout⟩
  rw [hclass, ne_eq, Option.some_inj] at hkind
  rw [hout, repaired, if_neg hkind]

/-! ## Earlier lines -/

/-- Behind a line a fence is open exactly if the line is one that opens it, or stands inside. -/
theorem isSome_classify_iff (fence : Option Fence) (line : List Char) :
    (classify fence line).2.isSome = true ↔
      (classify fence line).1 = .opener ∨ (classify fence line).1 = .fenced := by
  unfold classify
  split <;> split <;> simp

/-- The mark of an open fence does not matter to what becomes of a line, only that there is one. -/
theorem repaired_congr {fence fence' : Option Fence} (h : fence.isSome = fence'.isSome)
    (line : List Char) : repaired fence line = repaired fence' line := by
  have hinside : ∀ f, repaired (some f) line = line :=
    fun f => if_neg (classify_some_ne_ordinary f line)
  cases fence with
  | none =>
    cases fence' with
    | none => rfl
    | some f => cases h
  | some f =>
    cases fence' with
    | none => cases h
    | some f' => rw [hinside, hinside]

/-- Earlier lines matter to what becomes of a line only through their kinds. -/
theorem getElem?_repairLines_congr {fence fence' : Option Fence} {rs' : List (List Char)} {i : Nat}
    (h : fence.isSome = fence'.isSome) (hline : rs[i]? = some line) (hline' : rs'[i]? = some line)
    (hkinds : (lineKinds fence' rs').take i = (lineKinds fence rs).take i) :
    (repairLines fence' rs')[i]? = (repairLines fence rs)[i]? := by
  induction i generalizing fence fence' rs rs' with
  | zero =>
    cases rs with
    | nil => cases hline
    | cons r rs =>
      cases rs' with
      | nil => cases hline'
      | cons r' rs' =>
        have hr : r = r' := by simpa [← hline'] using hline
        rw [repairLines_cons, repairLines_cons, List.getElem?_cons_zero, List.getElem?_cons_zero,
          hr, repaired_congr h]
  | succ i ih =>
    cases rs with
    | nil => cases hline
    | cons r rs =>
      cases rs' with
      | nil => cases hline'
      | cons r' rs' =>
        rw [lineKinds, lineKinds, List.take_succ_cons, List.take_succ_cons,
          List.cons.injEq] at hkinds
        -- Lines of one kind open or close a fence alike.
        have hnext : (classify fence r).2.isSome = (classify fence' r').2.isSome := by
          rw [Bool.eq_iff_iff, isSome_classify_iff, isSome_classify_iff, hkinds.1]
        rw [repairLines_cons, repairLines_cons]
        exact ih hnext hline hline' hkinds.2

/-! ## Lines that stay as they are -/

theorem escapeStars_of_not_infix (h : ¬['\\', '*'] <:+: line) : escapeStars line = line := by
  have hboth : ¬['\\', '*', '*'] <:+: line := fun hinfix =>
    h (List.IsInfix.trans ⟨[], ['*'], rfl⟩ hinfix)
  rw [escapeStars, show Text.replace ['\\', '*', '*'] (starEntity ++ starEntity) line = line from
    Text.replaceFrom_of_not_infix hboth]
  exact Text.replaceFrom_of_not_infix h

/-- A line without escaped asterisks whose marks pair up stays as it is. -/
theorem repairLine_eq_self (hescape : ¬['\\', '*'] <:+: line)
    (heven : Text.occurrences strongMark line % 2 = 0) : repairLine line = line := by
  rw [repairLine_eq_mend, mend, escapeStars_of_not_infix hescape, closeContent_of_even heven]

theorem getElem?_repairLines_eq_self {fence : Option Fence} {i : Nat} (hline : rs[i]? = some line)
    (hescape : ¬['\\', '*'] <:+: line) (heven : Text.occurrences strongMark line % 2 = 0) :
    (repairLines fence rs)[i]? = some line := by
  rcases exists_getElem?_repairLines fence hline with ⟨before, -, hout⟩
  rw [hout, repaired, repairLine_eq_self hescape heven, ite_self]

/-! ## Endings -/

theorem getLast?_escapeStars {s : List Char} {c : Char} (h : (escapeStars s).getLast? = some c) :
    c ∈ starEntity ∨ s.getLast? = some c := by
  have hne : starEntity ≠ [] := by decide
  rcases Text.getLast?_replaceFrom hne h with hentity | hlast
  · exact Or.inl hentity
  · have hboth : starEntity ++ starEntity ≠ [] := by decide
    exact (Text.getLast?_replaceFrom hboth hlast).imp_left fun hmem => by simpa using hmem

theorem getLast?_closeContent {s : List Char} {c : Char} (h : (closeContent s).getLast? = some c) :
    c = '*' ∨ s.getLast? = some c := by
  rcases closeContent_cases s with hs | ⟨-, before, text, after, hpoint, hclosed⟩
  · exact Or.inr (hs ▸ h)
  · rw [hclosed] at h
    cases after with
    | nil =>
      have hend : before ++ (strongMark ++ (text ++ (strongMark ++ []))) =
          (before ++ (strongMark ++ (text ++ ['*']))) ++ ['*'] := by simp [strongMark]
      rw [hend, List.getLast?_concat] at h
      exact Or.inl (Option.some.inj h).symm
    | cons d after =>
      rw [hpoint.split]
      exact Or.inr (by simpa using h)

/-- Mending a line puts no line break at its end. -/
theorem getLast?_repairLine {c : Char} (h : (repairLine line).getLast? = some c)
    (hbreak : Text.isLineBreak c = true) : line.getLast? = some c := by
  rw [repairLine_eq_mend, mend] at h
  rcases getLast?_closeContent h with rfl | h
  · cases hbreak
  · rcases getLast?_escapeStars h with hentity | h
    · rw [starEntity_eq] at hentity
      have hnone : ∀ d ∈ ['&', '#', '4', '2', ';'], Text.isLineBreak d = false := by
        simp [Text.isLineBreak]
      rw [hnone c hentity] at hbreak
      cases hbreak
    · exact h

theorem endingOf_repairLine (line : List Char) :
    Text.endingOf (repairLine line) = Text.endingOf line := by
  rcases exists_ending line with ⟨ending, hline, hending⟩
  have hcontent : ∀ c, (Text.contentOf line).getLast? = some c → Text.isLineBreak c = false :=
    fun c hc => Text.eq_false_of_getLast?_dropBack hc
  have hmended : ∀ c, (repairLine (Text.contentOf line)).getLast? = some c →
      Text.isLineBreak c = false := by
    intro c hc
    rw [Bool.eq_false_iff]
    intro hbreak
    have hlast := hcontent c (getLast?_repairLine hc hbreak)
    rw [hbreak] at hlast
    cases hlast
  generalize Text.contentOf line = content at hline hcontent hmended
  rw [hline, repairLine_append hending, Text.endingOf_append hmended hending,
    Text.endingOf_append hcontent hending]

theorem endingOf_repaired (fence : Option Fence) (line : List Char) :
    Text.endingOf (repaired fence line) = Text.endingOf line := by
  unfold repaired
  split
  · exact endingOf_repairLine line
  · rfl

theorem map_endingOf_repairLines (fence : Option Fence) (rs : List (List Char)) :
    (repairLines fence rs).map Text.endingOf = rs.map Text.endingOf := by
  induction rs generalizing fence with
  | nil => rfl
  | cons r rs ih => rw [repairLines_cons, List.map_cons, List.map_cons, endingOf_repaired, ih]

/-! ## Whole texts -/

/-- The lines of a text, and what they become. -/
def linesOf (markdown : String) : List (List Char) := Text.linesKept markdown.toList

theorem linesOf_repair (markdown : String) :
    linesOf (repair markdown) = repairLines none (linesOf markdown) := by
  rw [linesOf, repair, String.toList_ofList, linesKept_repairChars, linesOf]

/-- Repair works line by line. As many lines come out as go in, with the same endings, and they
stand to the fences in the same way. Lines of fences and between them stay as they are, and so do
lines without escaped asterisks whose marks pair up. What becomes of a line depends on the line
alone and on the kinds of the lines before it. -/
theorem repair_works_line_by_line (markdown : String) :
    let lines := linesOf markdown
    let mended := linesOf (repair markdown)
    mended.length = lines.length ∧
      mended.map Text.endingOf = lines.map Text.endingOf ∧
      lineKinds none mended = lineKinds none lines ∧
      (∀ (i : Nat) line, lines[i]? = some line →
        (lineKinds none lines)[i]? ≠ some LineKind.ordinary → mended[i]? = some line) ∧
      (∀ (i : Nat) line, lines[i]? = some line → ¬['\\', '*'] <:+: line →
        Text.occurrences strongMark line % 2 = 0 → mended[i]? = some line) ∧
      ∀ other (i : Nat) line, lines[i]? = some line → (linesOf other)[i]? = some line →
        (lineKinds none (linesOf other)).take i = (lineKinds none lines).take i →
          ∃ out, mended[i]? = some out ∧ (linesOf (repair other))[i]? = some out := by
  intro lines mended
  have hmended : mended = repairLines none lines := linesOf_repair markdown
  clear_value mended lines
  have hlength : mended.length = lines.length := by rw [hmended, length_repairLines]
  refine ⟨hlength, ?_, ?_, fun i line hline hkind => ?_, fun i line hline hescape heven => ?_,
    fun other i line hline hother hkinds => ?_⟩
  · rw [hmended, map_endingOf_repairLines]
  · rw [hmended, lineKinds_repairLines]
  · rw [hmended]
    exact getElem?_repairLines_of_ne hline hkind
  · rw [hmended]
    exact getElem?_repairLines_eq_self hline hescape heven
  · have hlt : i < mended.length := hlength ▸ (List.getElem?_eq_some_iff.1 hline).1
    refine ⟨_, List.getElem?_eq_getElem hlt, ?_⟩
    rw [← List.getElem?_eq_getElem hlt, linesOf_repair, hmended]
    exact getElem?_repairLines_congr rfl hline hother hkinds

/-- A line behind a fence of backticks is mended as it is behind one of tildes. -/
theorem line_mended_behind_either_fence :
    let markdown := "a\r\n**b\r\n```\n\\*\n```\n\\*c"
    let other := "x\n\n~~~\n**\n~~~\n\\*c"
    let mended := linesOf (repair markdown)
    (lineKinds none (linesOf markdown))[3]? ≠ some LineKind.ordinary ∧
      mended[3]? = some "\\*\n".toList ∧ mended[0]? = some "a\r\n".toList ∧
      (lineKinds none (linesOf other)).take 5 = (lineKinds none (linesOf markdown)).take 5 ∧
      ∃ out, mended[5]? = some out ∧ (linesOf (repair other))[5]? = some out := by
  intro markdown other mended
  obtain ⟨-, -, -, hfenced, hpaired, hagree⟩ := repair_works_line_by_line markdown
  have hkind : (lineKinds none (linesOf markdown))[3]? ≠ some LineKind.ordinary := by
    decide +kernel
  have hkinds : (lineKinds none (linesOf other)).take 5 =
      (lineKinds none (linesOf markdown)).take 5 := by decide +kernel
  exact ⟨hkind, hfenced 3 _ (by decide +kernel) hkind,
    hpaired 0 _ (by decide +kernel) (by decide +kernel) (by decide +kernel), hkinds,
    hagree other 5 "\\*c".toList (by decide +kernel) (by decide +kernel) hkinds⟩

end Repair
end StaticBlog
