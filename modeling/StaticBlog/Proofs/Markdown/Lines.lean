import Mathlib.Data.List.TakeWhile
import StaticBlog.Markdown.Line

/-!
# Places in lines

- `InLine` : a place in a line, with what is left of the line and what follows it
- `InLine.nextLine`, `InLine.afterLine` : what comes after the line
- `readLineFrom_cases` : reading a line ends, or goes on with a step in the line
- `isCut_readLine`, `InLine.readLine_reaches` : a line is cut into leaves, up to the next line
- `Cursor.skip_shift` : blanks at the start of a line are passed in the same way wherever it stands
-/

namespace StaticBlog
namespace Markdown

/-- What ends a line in front of more. Only the last line may lack an ending. -/
inductive IsEnding : (ending more : List Char) → Prop
  | feed (more : List Char) : IsEnding ['\n'] more
  | returnFeed (more : List Char) : IsEnding ['\r', '\n'] more
  | last : IsEnding [] []

/-- A place in a line: the rest of the line, what ends it, and what follows. -/
structure InLine (p : Place) (body ending more : List Char) : Prop where
  rest : p.rest = body ++ (ending ++ more)
  unbroken : ∀ c ∈ body, isBreak c = false
  ends : IsEnding ending more

variable {p : Place} {body ending more : List Char}

/-! ## Endings -/

namespace IsEnding

theorem breakLength? (h : IsEnding ending more) :
    breakLength? (ending ++ more) = some ending.length := by
  cases h <;> rfl

theorem takeWhile (h : IsEnding ending more) {q : Char → Bool}
    (hq : ∀ c, isBreak c = true → q c = false) : (ending ++ more).takeWhile q = [] := by
  cases h with
  | feed => simp [hq '\n' rfl]
  | returnFeed => simp [hq '\r' rfl]
  | last => rfl

end IsEnding

theorem isBreak_eq_false_of_isSpace {c : Char} (h : isSpace c = true) : isBreak c = false := by
  simp only [isSpace, Bool.or_eq_true, decide_eq_true_eq] at h
  rcases h with ((h | h) | h) | h <;> subst h <;> decide

theorem isSpace_eq_false_of_isBreak {c : Char} (h : isBreak c = true) : isSpace c = false := by
  cases hs : isSpace c with
  | false => rfl
  | true =>
    rw [isBreak_eq_false_of_isSpace hs] at h
    cases h

theorem breakLength?_eq_none {c : Char} {s : List Char} (h : isBreak c = false) :
    breakLength? (c :: s) = none := by
  unfold breakLength?
  split
  · next heq => simp at heq
  · next heq =>
    cases heq
    simp [isBreak] at h
  · next heq =>
    cases heq
    simp [h]

namespace InLine

/-! ## The line -/

theorem takeWhile (h : InLine p body ending more) {q : Char → Bool}
    (hq : ∀ c, isBreak c = true → q c = false) : p.rest.takeWhile q = body.takeWhile q := by
  have hends := h.ends.takeWhile hq
  rw [h.rest, List.takeWhile_append]
  split
  · next hall =>
    rw [hends, List.append_nil]
    exact ((List.takeWhile_prefix q).eq_of_length hall).symm
  · rfl

/-- The line around a place is what is left of it. -/
theorem line (h : InLine p body ending more) : p.line = body := by
  have hbreak : ∀ c, isBreak c = true → (!isBreak c) = false := fun c hc => by simp [hc]
  rw [Place.line, lineOf, h.takeWhile hbreak]
  refine List.takeWhile_eq_self_iff.2 fun c hc => ?_
  simp [h.unbroken c hc]

theorem recordOf (h : InLine p body ending more) : recordOf p.rest = body ++ ending := by
  have hfeed : ∀ c ∈ body, decide (c ≠ '\n') = true := by
    intro c hc
    have hne : c ≠ '\n' := fun heq => by simpa [heq, isBreak] using h.unbroken c hc
    simp [hne]
  have htake : ∀ tail : List Char, (body ++ tail).takeWhile (fun c => decide (c ≠ '\n')) =
      body ++ tail.takeWhile fun c => decide (c ≠ '\n') :=
    fun tail => List.takeWhile_append_of_pos hfeed
  unfold Markdown.recordOf
  rw [h.rest]
  simp only [htake]
  cases h.ends <;> simp

/-- Passing a part of the line stays in it. -/
theorem advance (h : InLine p body ending more) {front back : List Char}
    (hbody : body = front ++ back) : InLine (p.advance front.length) back ending more := by
  subst hbody
  refine ⟨?_, fun c hc => h.unbroken c (List.mem_append_right front hc), h.ends⟩
  rw [Place.advance, h.rest, List.append_assoc]
  exact List.drop_left

theorem skipWhile (h : InLine p body ending more) {q : Char → Bool}
    (hq : ∀ c, isBreak c = true → q c = false) :
    InLine (p.skipWhile q) (body.dropWhile q) ending more := by
  rw [Place.skipWhile, h.takeWhile hq]
  exact h.advance List.takeWhile_append_dropWhile.symm

/-! ## What follows the line -/

/-- The place after the line, as a line feed ends it. -/
theorem nextLine (h : InLine p body ending more) :
    p.nextLine = ⟨p.offset + (body ++ ending).length, more⟩ := by
  rw [Place.nextLine, h.recordOf, Place.advance, h.rest, ← List.append_assoc, List.drop_left]

theorem upTo_nextLine (h : InLine p body ending more) :
    p.upTo p.nextLine.offset = body ++ ending := by
  rw [h.nextLine, Place.upTo, Nat.add_sub_cancel_left, h.rest, ← List.append_assoc, List.take_left]

/-- The place after the line, as a line break ends it. -/
theorem afterLine (h : InLine p body ending more) :
    (p.advance p.line.length).afterBreak? =
      some ⟨p.offset + body.length + ending.length, more⟩ := by
  have hrest : (p.advance body.length).rest = ending ++ more := by
    rw [Place.advance, h.rest]
    exact List.drop_left
  rw [h.line, Place.afterBreak?, hrest, h.ends.breakLength?, Option.map_some, Place.advance, hrest,
    List.drop_left]
  rfl

theorem breakLength?_isSome_iff (h : InLine p body ending more) :
    (breakLength? p.rest).isSome = true ↔ body = [] := by
  rw [h.rest]
  cases hbody : body with
  | nil =>
    rw [List.nil_append, h.ends.breakLength?]
    simp
  | cons c body =>
    have hc : isBreak c = false := h.unbroken c (by simp [hbody])
    rw [List.cons_append, breakLength?_eq_none hc]
    simp

/-- Only blanks come before the end of the line if there is a place after them. -/
theorem afterBlank? (h : InLine p body ending more) :
    (body.dropWhile isSpace = [] → ∃ q, p.afterBlank? = some q ∧ q.rest = more) ∧
      (body.dropWhile isSpace ≠ [] → p.afterBlank? = none) := by
  have hskip := h.skipWhile fun c => isSpace_eq_false_of_isBreak
  rw [Place.afterBlank?, Place.afterBreak?]
  constructor
  · intro hblank
    rw [hblank] at hskip
    rw [hskip.rest, List.nil_append, h.ends.breakLength?]
    refine ⟨_, rfl, ?_⟩
    rw [Place.advance, hskip.rest, List.nil_append]
    exact List.drop_left
  · intro htext
    have hnone := mt hskip.breakLength?_isSome_iff.1 htext
    rw [Option.not_isSome_iff_eq_none.1 hnone, Option.map_none]

/-- A character that is no line break belongs to the line. -/
theorem eq_cons (h : InLine p body ending more) {d : Char} {tail : List Char}
    (hd : isBreak d = false) (hrest : p.rest = d :: tail) :
    ∃ rest, body = d :: rest ∧ tail = rest ++ (ending ++ more) := by
  have hp := h.rest
  cases body with
  | nil =>
    rw [hrest, List.nil_append] at hp
    have hends := h.ends.breakLength?
    rw [← hp, breakLength?_eq_none hd] at hends
    cases hends
  | cons c rest =>
    rw [hrest] at hp
    cases hp
    exact ⟨rest, rfl, rfl⟩

end InLine

/-! ## Running text -/

/-- What is read of a line but for its marks: a stretch of text or a token. -/
def Node.IsLeaf : Node → Prop
  | .leaf _ _ => True
  | .part _ _ _ => False

/-- Whether all nodes belong to a class. -/
def All (Q : Node → Prop) (ns : List Node) : Prop := ∀ n ∈ ns, Q n

namespace All

variable {Q : Node → Prop} {ns ms : List Node}

theorem nil : All Q [] := fun _ h => absurd h List.not_mem_nil

theorem cons {n : Node} (hn : Q n) (hns : All Q ns) : All Q (n :: ns) :=
  List.forall_mem_cons.2 ⟨hn, hns⟩

theorem append (hns : All Q ns) (hms : All Q ms) : All Q (ns ++ ms) :=
  List.forall_mem_append.2 ⟨hns, hms⟩

theorem reverse (h : All Q ns) : All Q ns.reverse :=
  fun n hn => h n (List.mem_reverse.1 hn)

theorem sublist (h : All Q ns) (hsub : ms.Sublist ns) : All Q ms :=
  fun n hn => h n (hsub.subset hn)

theorem flatten {nss : List (List Node)} (h : ∀ ns ∈ nss, All Q ns) : All Q nss.flatten := by
  intro n hn
  obtain ⟨ns, hns, hn⟩ := List.mem_flatten.1 hn
  exact h ns hns n hn

end All

theorem isLeaf_textTo (p : Place) (stop : Nat) : ∀ n ∈ Node.textTo p stop, n.IsLeaf := by
  intro n hn
  unfold Node.textTo at hn
  split at hn
  · rw [List.mem_singleton.1 hn]
    trivial
  · cases hn

/-- A line or a cell that is cut into leaves. -/
structure Line.IsCut (line : Line) : Prop where
  nodes : All Node.IsLeaf line.nodes
  ending : ∀ n, line.ending = some n → n.IsLeaf

/-- Where the reading of a line ends: at the next line, or at the end of a cell in this one. -/
def Line.EndsAt (line : Line) (inCell : Bool) (body ending more : List Char) : Prop :=
  match inCell with
  | false => line.next.rest = more
  | true => ∃ front back, body = front ++ back ∧ InLine line.next back ending more ∧
      ∀ c ∈ back.head?, c = '|'

/-- What has been read of a line or of a cell in it, with nothing but leaves. -/
structure Line.Reaches (line : Line) (inCell : Bool) (body ending more : List Char) : Prop where
  next : line.EndsAt inCell body ending more
  nodes : ∀ n ∈ line.nodes, n.IsLeaf
  ending : ∀ n, line.ending = some n → n.IsLeaf

/-- Where reading ends further on in a line is where it ends in the line. -/
theorem Line.EndsAt.append {line : Line} {inCell : Bool} {back : List Char}
    (h : line.EndsAt inCell back ending more) (front : List Char) :
    line.EndsAt inCell (front ++ back) ending more := by
  cases inCell with
  | false => exact h
  | true =>
    rcases h with ⟨passed, rest, rfl, hrest⟩
    exact ⟨front ++ passed, rest, (List.append_assoc _ _ _).symm, hrest⟩

/-! ### The end of a line -/

namespace LineScan

def Leaves (l : LineScan) : Prop := ∀ n ∈ l.nodes, n.IsLeaf

theorem Leaves.cut {l : LineScan} (h : l.Leaves) (stop : Nat) : (l.cut stop).Leaves := by
  intro n hn
  rcases List.mem_append.1 hn with hn | hn
  · exact isLeaf_textTo _ _ n hn
  · exact h n hn

theorem Leaves.isCut_finish {l : LineScan} (h : l.Leaves) (inCell : Bool) (p : Place) :
    (l.finish inCell p).IsCut := by
  have hcut : ∀ stop, All Node.IsLeaf (l.cut stop).nodes.reverse :=
    fun stop n hn => h.cut stop n (List.mem_reverse.1 hn)
  have hending : ∀ span manner n, some (Node.leaf span (.lineBreak manner)) = some n →
      n.IsLeaf := by
    intro span manner n heq
    cases heq
    trivial
  unfold LineScan.finish
  dsimp only
  split
  · split
    · exact ⟨hcut _, fun n hn => by cases hn⟩
    · split
      · exact ⟨hcut _, hending _ _⟩
      · exact ⟨hcut _, hending _ _⟩
  · exact ⟨hcut _, fun n hn => by cases hn⟩

/-- A line that has been read up to its ending is completed behind it. -/
theorem endsAt_finish_line (l : LineScan) (h : InLine p [] ending more) :
    (l.finish false p).EndsAt false [] ending more := by
  have hlength := h.ends.breakLength?
  have hrest : p.rest = ending ++ more := h.rest
  have hnext : (p.advance ending.length).rest = more := by
    rw [Place.advance, hrest]
    exact List.drop_left
  unfold LineScan.finish
  split
  · next c s n heq hbreak =>
    rw [hrest, hlength] at hbreak
    cases hbreak
    simp only [Bool.false_eq_true, if_false]
    split
    · exact hnext
    · exact hnext
  · next hnone =>
    show p.rest = more
    cases hp : p.rest with
    | nil =>
      rw [hrest] at hp
      exact (List.append_eq_nil_iff.1 hp).2.symm
    | cons c s => exact absurd (hrest ▸ hlength) (hnone c s _ hp)

/-- A cell is completed in front of its end. -/
theorem next_finish_cell (l : LineScan) (p : Place) : (l.finish true p).next = p := by
  unfold LineScan.finish
  split
  · rfl
  · rfl

theorem endsAt_finish (l : LineScan) {inCell : Bool} (h : InLine p body ending more)
    (hend : ∀ c ∈ body.head?, inCell = true ∧ c = '|') :
    (l.finish inCell p).EndsAt inCell body ending more := by
  cases inCell with
  | true =>
    refine ⟨[], body, rfl, ?_, fun c hc => (hend c hc).2⟩
    rw [l.next_finish_cell]
    exact h
  | false =>
    cases body with
    | nil => exact l.endsAt_finish_line h
    | cons c body => exact absurd (hend c rfl).1 Bool.false_ne_true

end LineScan

/-! ### One step in a line -/

/-- What is read of a line at once: so many characters, and what has been read of the line behind
them. -/
inductive LineStep (l : LineScan) (p : Place) : (n : Nat) → LineScan → Prop
  | plain (n : Nat) : LineStep l p n (l.pass p n)
  | token (n : Nat) (t : Token) : LineStep l p n (l.push p n t)
  | escaped (slashes : Nat) : LineStep l p (slashes + 1) (l.escape p slashes)
  /-- Backticks behind a backslash. -/
  | ticks (n : Nat) (t : Token) :
      LineStep l p (n + 1)
        (LineScan.push { (l.cut p.offset).pass p 1 with begun := p.advance 1 } (p.advance 1) n t)
  /-- A pipe that may part columns. -/
  | pipe : LineStep l p 1 { l.pass p 1 with pipes := p.offset :: l.pipes }

theorem LineStep.leaves {l l' : LineScan} {n : Nat} (h : LineStep l p n l') (hl : l.Leaves) :
    l'.Leaves := by
  have hpush : ∀ {l : LineScan}, l.Leaves → ∀ p n t, (l.push p n t).Leaves :=
    fun hl p _ _ => List.forall_mem_cons.2 ⟨trivial, hl.cut p.offset⟩
  cases h with
  | plain n => exact hl
  | token n t => exact hpush hl p n t
  | escaped slashes => exact hl.cut p.offset
  | ticks n t =>
    refine hpush ?_ _ n t
    exact hl.cut p.offset
  | pipe => exact hl

theorem isBreak_eq_false_of_isAsciiPunctuation {c : Char} (h : Text.isAsciiPunctuation c = true) :
    isBreak c = false := by
  cases hc : isBreak c with
  | false => rfl
  | true =>
    simp only [isBreak, Bool.or_eq_true, decide_eq_true_eq] at hc
    rcases hc with rfl | rfl <;> exact absurd h (by decide)

/-- What follows a character that is written by its name or number is shorter. -/
theorem length_lt_of_readEntity? {s t rest : List Char} (h : readEntity? s = some (t, rest)) :
    rest.length < s.length := by
  -- Every entity ends in a semicolon, and the rest stands behind it.
  have hdrop : ∀ (u : List Char) (n : Nat), u.drop n = ';' :: rest → rest.length < u.length := by
    intro u n hu
    have hlength := congrArg List.length hu
    rw [List.length_drop, List.length_cons] at hlength
    omega
  have hnumbered : ∀ (q : Char → Bool) (most : Nat) (u : List Char),
      readNumbered? q most u = some (t, rest) → rest.length < u.length := by
    intro q most u hu
    simp only [readNumbered?] at hu
    split at hu
    · next heq =>
      split at hu
      · cases hu
      · cases hu
        exact hdrop u _ heq
    · cases hu
  unfold readEntity? at h
  split at h
  · exact Nat.lt_succ_of_lt (Nat.lt_succ_of_lt (hnumbered _ _ _ h))
  · exact Nat.lt_succ_of_lt (Nat.lt_succ_of_lt (hnumbered _ _ _ h))
  · exact Nat.lt_succ_of_lt (hnumbered _ _ _ h)
  · simp only at h
    split at h
    · next heq =>
      rcases Option.map_eq_some_iff.1 h with ⟨u, -, hu⟩
      cases hu
      exact hdrop _ _ heq
    · cases h

theorem lineOf_cons {c : Char} (hc : isBreak c = false) (s : List Char) :
    lineOf (c :: s) = c :: lineOf s := List.takeWhile_cons_of_pos (by simp [hc])

/-- A run of characters that are no line breaks ends in the line. -/
theorem run_le {c : Char} (hc : isBreak c = false) (s : List Char) : run c s ≤ (lineOf s).length := by
  induction s with
  | nil => exact Nat.le_refl 0
  | cons d s ih =>
    by_cases hd : d = c
    · subst hd
      rw [lineOf_cons hc, run, List.takeWhile_cons_of_pos (by simp)]
      exact Nat.succ_le_succ ih
    · rw [run, List.takeWhile_cons_of_neg (by simpa using hd)]
      exact Nat.zero_le _

/-- Reading stops at the end of the line or of the cell, or it goes on with a step in the line. -/
theorem readLineFrom_cases (inCell : Bool) (fuel : Nat) (l : LineScan) (p : Place) :
    (readLineFrom inCell (fuel + 1) l p = l.finish inCell p ∧
        ∀ c ∈ p.line.head?, inCell = true ∧ c = '|') ∨
      ∃ n l', LineStep l p n l' ∧ 1 ≤ n ∧ n ≤ p.line.length ∧
        readLineFrom inCell (fuel + 1) l p = readLineFrom inCell fuel l' (p.advance n) := by
  generalize hout : readLineFrom inCell (fuel + 1) l p = out
  rw [readLineFrom] at hout
  dsimp only at hout
  split at hout
  · next hrest =>
    rw [Place.line, hrest]
    exact .inl ⟨hout.symm, fun c hc => by cases hc⟩
  · next c s hrest =>
    have hline : isBreak c = false → p.line = c :: lineOf s := fun hc => by
      rw [Place.line, hrest, lineOf_cons hc]
    -- The character may be all that is read.
    have hone : isBreak c = false → 1 ≤ p.line.length := fun hc => by
      rw [hline hc]
      exact Nat.succ_le_succ (Nat.zero_le _)
    have hrun : isBreak c = false → ∀ d, isBreak d = false → 1 + run d s ≤ p.line.length := by
      intro hc d hd
      rw [hline hc, List.length_cons, Nat.add_comm]
      exact Nat.succ_le_succ (run_le hd s)
    split at hout
    · split at hout
      · next t =>
        refine .inr ⟨_, _, .ticks _ _, Nat.le_add_left 1 _, ?_, hout.symm⟩
        rw [hline rfl, lineOf_cons rfl, List.length_cons, List.length_cons, Nat.add_comm 1]
        exact Nat.succ_le_succ (Nat.succ_le_succ (run_le rfl t))
      · split at hout
        · refine .inr ⟨_, _, .escaped 2, by decide, ?_, hout.symm⟩
          rw [hline rfl, lineOf_cons rfl, lineOf_cons rfl]
          exact Nat.le_add_left 3 _
        · refine .inr ⟨_, _, .escaped 1, by decide, ?_, hout.symm⟩
          rw [hline rfl, lineOf_cons rfl]
          exact Nat.le_add_left 2 _
      · split at hout
        · next hd =>
          refine .inr ⟨_, _, .escaped 1, by decide, ?_, hout.symm⟩
          rw [hline rfl, lineOf_cons (isBreak_eq_false_of_isAsciiPunctuation hd)]
          exact Nat.le_add_left 2 _
        · exact .inr ⟨_, _, .plain 1, Nat.le_refl 1, hone rfl, hout.symm⟩
      · exact .inr ⟨_, _, .plain 1, Nat.le_refl 1, hone rfl, hout.symm⟩
    · exact .inr ⟨_, _, .token _ _, Nat.le_add_right 1 _, hrun rfl _ rfl, hout.symm⟩
    · split at hout
      · exact .inr ⟨_, _, .plain 1, Nat.le_refl 1, hone rfl, hout.symm⟩
      · exact .inr ⟨_, _, .token 1 _, Nat.le_refl 1, hone rfl, hout.symm⟩
    · split at hout
      · next hhead =>
        obtain ⟨t, rfl⟩ := List.head?_eq_some_iff.1 hhead
        refine .inr ⟨_, _, .token 2 _, by decide, ?_, hout.symm⟩
        rw [hline rfl, lineOf_cons rfl]
        exact Nat.le_add_left 2 _
      · exact .inr ⟨_, _, .plain 1, Nat.le_refl 1, hone rfl, hout.symm⟩
    · exact .inr ⟨_, _, .token 1 _, Nat.le_refl 1, hone rfl, hout.symm⟩
    · exact .inr ⟨_, _, .token 1 _, Nat.le_refl 1, hone rfl, hout.symm⟩
    · split at hout
      · next t rest hentity =>
        have hshorter := length_lt_of_readEntity? hentity
        refine .inr ⟨_, _, .token _ _, by omega, ?_, hout.symm⟩
        rw [hline rfl, List.length_cons]
        omega
      · exact .inr ⟨_, _, .plain 1, Nat.le_refl 1, hone rfl, hout.symm⟩
    · split at hout
      · next hcell =>
        refine .inl ⟨hout.symm, fun c hc => ⟨hcell, ?_⟩⟩
        rw [hline rfl] at hc
        cases hc
        rfl
      · exact .inr ⟨_, _, .pipe, Nat.le_refl 1, hone rfl, hout.symm⟩
    · split at hout
      · next hbreak =>
        refine .inl ⟨hout.symm, fun d hd => ?_⟩
        rw [Place.line, hrest, lineOf, List.takeWhile_cons_of_neg (by simp [hbreak])] at hd
        cases hd
      · next hbreak =>
        rw [Bool.not_eq_true] at hbreak
        split at hout
        · split at hout
          · exact .inr ⟨_, _, .token _ _, Nat.le_add_right 1 _, hrun hbreak _ hbreak, hout.symm⟩
          · exact .inr ⟨_, _, .plain _, Nat.le_add_right 1 _, hrun hbreak _ hbreak, hout.symm⟩
        · exact .inr ⟨_, _, .plain 1, Nat.le_refl 1, hone hbreak, hout.symm⟩

/-! ### A whole line -/

theorem LineScan.Leaves.isCut_readLineFrom {l : LineScan} (h : l.Leaves) (inCell : Bool)
    (fuel : Nat) (p : Place) : (readLineFrom inCell fuel l p).IsCut := by
  induction fuel generalizing l p with
  | zero => exact h.isCut_finish inCell p
  | succ fuel ih =>
    rcases readLineFrom_cases inCell fuel l p with ⟨hout, -⟩ | ⟨n, l', hstep, -, -, hout⟩
    · rw [hout]
      exact h.isCut_finish inCell p
    · rw [hout]
      exact ih (hstep.leaves h) _

theorem isCut_readLine (inCell : Bool) (p : Place) : (readLine inCell p).IsCut :=
  LineScan.Leaves.isCut_readLineFrom (fun _ h => absurd h List.not_mem_nil) inCell _ p

/-- Each step leaves less of the line, so that its end is reached. -/
theorem InLine.endsAt_readLineFrom {inCell : Bool} {fuel : Nat} {l : LineScan}
    (h : InLine p body ending more) (hfuel : body.length < fuel) :
    (readLineFrom inCell fuel l p).EndsAt inCell body ending more := by
  -- The fuel exceeds what is left of the line, and each step takes some of both.
  induction fuel generalizing l p body with
  | zero => exact absurd hfuel (Nat.not_lt_zero _)
  | succ fuel ih =>
    rcases readLineFrom_cases inCell fuel l p with ⟨hout, hend⟩ | ⟨n, l', -, hpos, hle, hout⟩
    · rw [h.line] at hend
      rw [hout]
      exact l.endsAt_finish h hend
    · rw [h.line] at hle
      have hlength : (body.take n).length = n := List.length_take_of_le hle
      have hrest := h.advance (List.take_append_drop n body).symm
      rw [hlength] at hrest
      have hsmaller : (body.drop n).length < fuel := by
        rw [List.length_drop]
        omega
      have hends := (ih (l := l') hrest hsmaller).append (body.take n)
      rw [List.take_append_drop] at hends
      rw [hout]
      exact hends

/-- Reading the rest of a line reaches the next line, or the end of a cell. -/
theorem InLine.readLine_reaches (inCell : Bool) (h : InLine p body ending more) :
    (readLine inCell p).Reaches inCell body ending more := by
  have hcut := isCut_readLine inCell p
  refine ⟨h.endsAt_readLineFrom ?_, hcut.nodes, hcut.ending⟩
  rw [h.line]
  exact Nat.lt_succ_self _

/-! ## Blanks at the start of a line -/

namespace Cursor

/-- A cursor with so many characters before it, and with more behind it. -/
def shift (c : Cursor) (k : Nat) (t : List Char) : Cursor :=
  ⟨⟨c.place.offset + k, c.place.rest ++ t⟩, c.tabStart + k, c.owed⟩

/-- Whether a text begins with a blank that can be passed. -/
def Stops (s : List Char) : Prop := ∀ c, s.head? = some c → c ≠ ' ' ∧ c ≠ '\t'

section

variable {place : Place} {offset tabStart owed n : Nat} {s t : List Char}

theorem skip_owed :
    (⟨place, tabStart, owed + 1⟩ : Cursor).skip (n + 1) =
      ((skip ⟨place, tabStart, owed⟩ n).1 + 1, (skip ⟨place, tabStart, owed⟩ n).2) := rfl

theorem skip_space :
    (⟨⟨offset, ' ' :: s⟩, tabStart, 0⟩ : Cursor).skip (n + 1) =
      ((skip ⟨⟨offset + 1, s⟩, tabStart, 0⟩ n).1 + 1, (skip ⟨⟨offset + 1, s⟩, tabStart, 0⟩ n).2) :=
  rfl

theorem skip_tab :
    (⟨⟨offset, '\t' :: s⟩, tabStart, 0⟩ : Cursor).skip (n + 1) =
      ((skip ⟨⟨offset + 1, s⟩, offset + 1, 4 - (offset - tabStart) % 4 - 1⟩ n).1 + 1,
        (skip ⟨⟨offset + 1, s⟩, offset + 1, 4 - (offset - tabStart) % 4 - 1⟩ n).2) := rfl

theorem skip_stop (hs : Stops s) :
    (⟨⟨offset, s⟩, tabStart, 0⟩ : Cursor).skip (n + 1) = (0, ⟨⟨offset, s⟩, tabStart, 0⟩) := by
  unfold skip
  split
  · next heq => cases heq
  · next heq => exact absurd rfl (hs ' ' (congrArg List.head? heq)).1
  · next heq => exact absurd rfl (hs '\t' (congrArg List.head? heq)).2
  · rfl

end

/-- Blanks are passed one column after the other. -/
theorem skip_induction {motive : Cursor → Nat → Prop} (zero : ∀ c, motive c 0)
    (owed : ∀ place tabStart owed n, motive ⟨place, tabStart, owed⟩ n →
      motive ⟨place, tabStart, owed + 1⟩ (n + 1))
    (space : ∀ offset s tabStart n, motive ⟨⟨offset + 1, s⟩, tabStart, 0⟩ n →
      motive ⟨⟨offset, ' ' :: s⟩, tabStart, 0⟩ (n + 1))
    (tab : ∀ offset s tabStart n,
      motive ⟨⟨offset + 1, s⟩, offset + 1, 4 - (offset - tabStart) % 4 - 1⟩ n →
        motive ⟨⟨offset, '\t' :: s⟩, tabStart, 0⟩ (n + 1))
    (stop : ∀ offset s tabStart n, Stops s → motive ⟨⟨offset, s⟩, tabStart, 0⟩ (n + 1))
    (c : Cursor) (n : Nat) : motive c n := by
  induction n generalizing c with
  | zero => exact zero c
  | succ n ih =>
    rcases c with ⟨⟨offset, s⟩, tabStart, left⟩
    cases left with
    | succ left => exact owed _ tabStart left n (ih _)
    | zero =>
      cases s with
      | nil => exact stop offset [] tabStart n fun c hc => by cases hc
      | cons c s =>
        by_cases hspace : c = ' '
        · subst hspace
          exact space offset s tabStart n (ih _)
        · by_cases htab : c = '\t'
          · subst htab
            exact tab offset s tabStart n (ih _)
          · refine stop offset (c :: s) tabStart n fun d hd => ?_
            cases hd
            exact ⟨hspace, htab⟩

/-- Blanks are passed in the same way wherever they stand, and nothing behind them is passed. -/
theorem skip_shift {t : List Char} (ht : Stops t) (k : Nat) (c : Cursor) (n : Nat) :
    (c.shift k t).skip n = ((c.skip n).1, (c.skip n).2.shift k t) := by
  induction c, n using skip_induction with
  | zero c => rfl
  | owed place tabStart owed n ih =>
    simp only [shift] at ih ⊢
    rw [skip_owed, skip_owed, ih]
  | space offset s tabStart n ih =>
    simp only [shift] at ih ⊢
    rw [skip_space, List.cons_append, skip_space]
    have hplace : offset + 1 + k = offset + k + 1 := by omega
    rw [hplace] at ih
    rw [ih]
  | tab offset s tabStart n ih =>
    simp only [shift] at ih ⊢
    rw [skip_tab, List.cons_append, skip_tab, Nat.add_sub_add_right]
    have hplace : offset + 1 + k = offset + k + 1 := by omega
    rw [hplace] at ih
    rw [ih]
  | stop offset s tabStart n hs =>
    have hst : Stops (s ++ t) := by
      cases s with
      | nil => exact ht
      | cons c s => exact hs
    simp only [shift]
    rw [skip_stop hs, skip_stop hst]

/-- What has been passed are blanks. -/
theorem skip_rest (c : Cursor) (n : Nat) :
    ∃ front, c.place.rest = front ++ (c.skip n).2.place.rest ∧
      (c.skip n).2.place.offset = c.place.offset + front.length ∧
        ∀ d ∈ front, d = ' ' ∨ d = '\t' := by
  induction c, n using skip_induction with
  | zero c => exact ⟨[], rfl, rfl, fun d hd => absurd hd List.not_mem_nil⟩
  | owed place tabStart owed n ih => exact ih
  | space offset s tabStart n ih =>
    rcases ih with ⟨front, hrest, hoffset, hblank⟩
    refine ⟨' ' :: front, congrArg (' ' :: ·) hrest, ?_, ?_⟩
    · rw [skip_space, hoffset, List.length_cons]
      exact Nat.succ_add_eq_add_succ offset front.length
    · exact List.forall_mem_cons.2 ⟨Or.inl rfl, hblank⟩
  | tab offset s tabStart n ih =>
    rcases ih with ⟨front, hrest, hoffset, hblank⟩
    refine ⟨'\t' :: front, congrArg ('\t' :: ·) hrest, ?_, ?_⟩
    · rw [skip_tab, hoffset, List.length_cons]
      exact Nat.succ_add_eq_add_succ offset front.length
    · exact List.forall_mem_cons.2 ⟨Or.inr rfl, hblank⟩
  | stop offset s tabStart n hs =>
    rw [skip_stop hs]
    exact ⟨[], rfl, rfl, fun d hd => absurd hd List.not_mem_nil⟩

/-- No more columns are passed than asked for; if fewer are, no blank is left. -/
theorem skip_le (c : Cursor) (n : Nat) :
    (c.skip n).1 ≤ n ∧
      ((c.skip n).1 < n → (c.skip n).2.owed = 0 ∧ Stops (c.skip n).2.place.rest) := by
  induction c, n using skip_induction with
  | zero c => exact ⟨Nat.le_refl 0, fun h => absurd h (Nat.lt_irrefl 0)⟩
  | owed place tabStart owed n ih | space offset s tabStart n ih | tab offset s tabStart n ih =>
    exact ⟨Nat.succ_le_succ ih.1, fun h => ih.2 (Nat.lt_of_succ_lt_succ h)⟩
  | stop offset s tabStart n hs =>
    rw [skip_stop hs]
    exact ⟨Nat.zero_le _, fun _ => ⟨rfl, hs⟩⟩

end Cursor

/-! ## The start of a line -/

/-- The blanks at the start of a line can be passed. -/
def atStart (s : List Char) : Cursor := { place := .start s }

namespace InLine

/-- What ends a line is no blank. -/
theorem stops (h : InLine p body ending more) : Cursor.Stops (ending ++ more) := by
  intro c hc
  cases h.ends with
  | feed | returnFeed =>
    cases hc
    decide
  | last => cases hc

/-- A cursor in a line, moved to where the line stands. -/
theorem shift (h : InLine p body ending more) {c : Cursor} {front : List Char} (k : Nat)
    (hbody : body = front ++ c.place.rest) :
    InLine (c.shift k (ending ++ more)).place c.place.rest ending more := by
  refine ⟨rfl, fun d hd => h.unbroken d ?_, h.ends⟩
  rw [hbody]
  exact List.mem_append_right front hd

/-- Blanks at a place in a line are passed as at its start. -/
theorem skip (h : InLine p body ending more) (n : Nat) :
    Cursor.skip { place := p } n =
      (((atStart body).skip n).1, ((atStart body).skip n).2.shift p.offset (ending ++ more)) := by
  have hp : ({ place := p } : Cursor) = (atStart body).shift p.offset (ending ++ more) := by
    rcases p with ⟨offset, rest⟩
    have hrest : rest = body ++ (ending ++ more) := h.rest
    rw [hrest]
    simp [Cursor.shift, atStart, Place.start]
  rw [hp, Cursor.skip_shift h.stops]

end InLine
end Markdown
end StaticBlog
