import StaticBlog.Proofs.Markdown.Flat
import StaticBlog.Proofs.Markdown.OutlineShape

/-!
# Blocks of plain lines

A block that a plain line begins holds no fenced code. It ends with a whole line, and before the
next fence.

- `Outline.Passes` : blocks without fenced code that end before the next fence
- `Outline.readIndented_passes`, `Outline.readHeading_passes`, `Outline.readTable_passes`,
  `Outline.readParagraph_passes` : each kind of block is of this kind
- `Outline.Begins` : the block that the text of a line begins
- `Outline.begin_passes` : the block of any plain line is of this kind, too
-/

namespace StaticBlog
namespace Markdown

/-! ## Indented code -/

namespace Outline

variable {o : Outline} {p : Place} {body ending : List Char} {rs : List (List Char)} {fuel : Nat}

/-- Indented code ends with a whole line, and before the next fence. -/
theorem indentedLines_passes (ho : o.Flat) (blank : Bool) (lines : List (Bool × List Node))
    (blanks : Nat) (h : InLine p body ending rs.flatten) (hrs : AreRecords rs)
    (hfuel : rs.length < fuel) :
    ∃ rest, Passed rs rest ∧
      (o.indentedLines fuel blank lines blanks p).2.rest = rest.flatten := by
  induction fuel generalizing rs p body ending blank lines blanks with
  | zero => exact absurd hfuel (Nat.not_lt_zero _)
  | succ fuel ih =>
    have hnext : p.nextLine.rest = rs.flatten := by rw [h.nextLine]
    unfold indentedLines
    simp only [within_flat ho, Bool.not_true, Bool.false_or]
    split
    · exact ⟨rs, .refl rs, hnext⟩
    · next hgoes =>
      simp only [Bool.or_eq_true, Bool.and_eq_true, decide_eq_true_eq, Bool.not_eq_true',
        List.isEmpty_iff, not_or, not_and] at hgoes
      cases hrs with
      | nil =>
        rcases Cursor.skip_rest { place := p.nextLine } 4 with ⟨front, hfront, -, -⟩
        rw [hnext] at hfront
        exact absurd (List.append_eq_nil_iff.1 hfront.symm).2 hgoes.2
      | @cons below _ _ unbroken ends text hrest =>
        have hline := inLine_of_flatten unbroken ends hnext
        -- A line of code is deep or blank, and a fence is neither.
        have hdeep : ((atStart below).skip 4).1 = 4 ∨
            ((atStart below).skip 4).2.place.rest = [] := by
          have hle := (Cursor.skip_le { place := p.nextLine } 4).1
          rw [← hline.skip_fst]
          by_cases hshallow : (Cursor.skip { place := p.nextLine } 4).1 < 4
          · exact Or.inr ((hline.isAtEnd_iff 4).1 (by simpa using hgoes.1 hshallow))
          · exact Or.inl (by omega)
        have hsmall := Nat.lt_of_succ_lt_succ hfuel
        rcases ih _ _ _ (hline.afterSkip 4) hrest hsmall with ⟨rest, hpassed, hreach⟩
        refine ⟨rest, .step ?_ hpassed, hreach⟩
        rw [lineOf_append unbroken ends]
        exact fenceLine?_eq_none hdeep

/-- What has been read from the start of a line: blocks without fenced code, which end before the
next fence. `rs` are the lines behind that line. -/
def Passes (o : Outline) (rs : List (List Char)) (r : Outline × Place) : Prop :=
  ∃ ns rest, All Node.Unfenced ns ∧ o.Gains ns r.1 ∧ Passed rs rest ∧ r.2.rest = rest.flatten

theorem Passes.part {o' : Outline} (ho : o.Gains [] o') {stop : Nat} {kind : Part}
    {ns : List Node} {q : Place} {rest : List (List Char)} (hkind : kind.isFenced = false)
    (hns : All Node.Unfenced ns) (hpassed : Passed rs rest) (hq : q.rest = rest.flatten) :
    o.Passes rs (o'.addPart p stop kind ns, q) := by
  have hnode : (Node.part ⟨p, stop⟩ kind ns).Unfenced := .part hkind hns
  exact ⟨_, rest, All.cons hnode .nil, ho.trans (gains_add ho.flat _), hpassed, hq⟩

/-- What is read after blocks and lines have been passed. -/
theorem Passes.after {o' : Outline} {r : Outline × Place} {rest : List (List Char)}
    (h : o'.Passes rest r) (hgain : o.Gains [] o') (hpassed : Passed rs rest) : o.Passes rs r := by
  rcases h with ⟨ns, left, hns, hmore, hleft, hreach⟩
  exact ⟨ns, left, hns, hgain.trans hmore, hpassed.trans hleft, hreach⟩

theorem readIndented_passes (ho : o.Flat) {c : Cursor} (h : InLine c.place body ending rs.flatten)
    (hrs : AreRecords rs) (hsize : rs.length ≤ o.size) : o.Passes rs (o.readIndented c) := by
  have hlines := all_isText_indentedLines o (o.size + 1) false
    (fun l hl => absurd hl List.not_mem_nil) c.owed c.place
  rcases indentedLines_passes ho false [] c.owed h hrs (Nat.lt_succ_of_le hsize)
    with ⟨rest, hpassed, hreach⟩
  have hgain : ∀ blankBefore, o.Gains [] { o with blankBefore } :=
    fun _ => ⟨⟨ho.frames, ho.task⟩, rfl, rfl⟩
  exact .part (hgain _) rfl (fun n hn => (all_isText_keptLines hlines n hn).isLeaf.unfenced)
    hpassed hreach

/-! ## Headings and rules -/

theorem readHeading_passes (ho : o.Flat) (h : InLine p body ending rs.flatten) {level : Nat}
    (hlevel : headingLevel? body = some level) : o.Passes rs (o.readHeading p level) := by
  have hle : level ≤ body.length := by
    simp only [headingLevel?] at hlevel
    split at hlevel
    · cases hlevel
      exact (List.takeWhile_sublist _).length_le
    · cases hlevel
  have hmark := h.advance (List.take_append_drop level body).symm
  rw [List.length_take_of_le hle] at hmark
  unfold readHeading
  simp only
  split
  · next next hbreak =>
    have hnext := hmark.afterBreak? hbreak
    exact .part (.none ho) rfl .nil (.refl rs) hnext
  · have hstart := hmark.skipWhile fun c => isSpace_eq_false_of_isBreak
    have hreaches := hstart.readLine_reaches false
    refine .part (.none ho) rfl (fun n hn => Node.IsLeaf.unfenced ?_) (.refl rs) hreaches.next
    refine all_isLeaf_endingAt (.append hreaches.nodes fun m hm => ?_) _ n hn
    split at hm
    · rw [List.mem_singleton.1 hm]
      trivial
    · cases hm

theorem rule_passes (ho : o.Flat) (h : InLine p body ending rs.flatten) :
    o.Passes rs (let next := (p.advance body.length).afterBreak?.getD (p.advance body.length)
      (o.add (.leaf ⟨p, next.offset⟩ .rule), next)) := by
  rw [← h.line, h.afterLine]
  exact ⟨_, rs, All.cons (.leaf _ _) .nil, gains_add ho _, .refl rs, rfl⟩

/-! ## Paragraphs -/

theorem isBlank_eq_false_of_isBreak {c : Char} (h : isBreak c = true) :
    (decide (c = ' ') || decide (c = '\t')) = false := by
  have hspace := isSpace_eq_false_of_isBreak h
  simp only [isSpace, Bool.or_eq_false_iff] at hspace ⊢
  exact hspace.1.1

/-- What underlines a heading is no fence. -/
theorem fenceLine?_of_underline
    (h : (underlineLevel? ((atStart body).skip 4).2.place.rest).isSome = true) :
    fenceLine? body = none := by
  unfold fenceLine?
  simp only
  revert h
  generalize ((atStart body).skip 4).2.place.rest = s
  intro h
  split
  · rfl
  · unfold underlineLevel? at h
    split at h
    · rfl
    · rfl
    · cases h

theorem fenceLine?_eq_none_of_shallow (h : ((atStart body).skip 4).1 < 4 →
    openFence? ((atStart body).skip 4).2.place.rest = none) : fenceLine? body = none := by
  unfold fenceLine?
  simp only
  split
  · rfl
  · next hshallow =>
    have hle := (Cursor.skip_le (atStart body) 4).1
    rw [h (by omega)]
    rfl

/-- A line with which a paragraph or a table goes on is no fence. -/
theorem openFence?_eq_none_of_interrupts {more : List Char} {all inTable : Bool}
    (h : InLine p body ending more) (hends : interrupts all inTable p = false) :
    openFence? body = none := by
  have hrecord : openFence? (recordOf p.rest) = openFence? body := by
    rw [h.recordOf, openFence?_append h.ends]
  cases hfence : openFence? body with
  | none => rfl
  | some fence =>
    rw [hfence] at hrecord
    simp [interrupts, hrecord] at hends

/-- A line with which a paragraph goes on is no fence. -/
theorem fenceLine?_eq_none_of_endsParagraph {q : Place} {more : List Char}
    (h : InLine q body ending more)
    (hgoes : (Cursor.skip { place := q } 4).1 < 4 →
      ¬o.endsParagraph true (Cursor.skip { place := q } 4).2.place = true) :
    fenceLine? body = none := by
  refine fenceLine?_eq_none_of_shallow fun hshallow => ?_
  have hends := hgoes (by rw [h.skip_fst]; exact hshallow)
  rw [endsParagraph, Bool.or_eq_true, not_or, Bool.not_eq_true] at hends
  exact openFence?_eq_none_of_interrupts (h.afterSkip 4) hends.1

/-- A paragraph ends with a whole line, and before the next fence. -/
theorem paragraphLines_passes (ho : o.Flat) (fuel : Nat) (nodes : List Node) {line : Line}
    {body ending : List Char} (hline : line.Reaches false body ending rs.flatten)
    (hrs : AreRecords rs) :
    ∃ rest, Passed rs rest ∧ (o.paragraphLines fuel nodes line).2.2.rest = rest.flatten := by
  induction fuel generalizing rs nodes line body ending with
  | zero => exact ⟨rs, .refl rs, hline.next⟩
  | succ fuel ih =>
    unfold paragraphLines
    simp only [within_flat ho, Bool.true_and]
    split
    · -- A line under the text makes it a heading, and is passed with it.
      next level hunder =>
      rcases hrs.inLine hline.next with ⟨rfl, hnext⟩ | ⟨body, ending, rest, rfl, hnext, hbody, -⟩
      · have hempty : (Cursor.skip { place := line.next } 4).2.place.line = [] :=
          (hnext.afterSkip 4).line
        rw [hempty] at hunder
        split at hunder <;> cases hunder
      · refine ⟨rest, .step ?_ (.refl rest), ?_⟩
        · rw [hbody]
          refine fenceLine?_of_underline ?_
          split at hunder
          · rw [(hnext.afterSkip 4).line] at hunder
            rw [hunder]
            rfl
          · cases hunder
        · rw [(hnext.afterSkip 4).afterLine]
          rfl
    · split
      · exact ⟨rs, .refl rs, hline.next⟩
      · next hgoes =>
        simp only [Bool.or_eq_true, Bool.and_eq_true, decide_eq_true_eq, not_or, not_and] at hgoes
        rcases hrs.inLine hline.next
          with ⟨rfl, hnext⟩ | ⟨body, ending, rest, rfl, hnext, hbody, hrest⟩
        · have hend := (hnext.afterSkip 4).skipWhile fun c => isBlank_eq_false_of_isBreak
          exact absurd (hend.breakLength?_isSome_iff.2 rfl) hgoes.2
        · have htext := (hnext.afterSkip 4).skipWhile fun c => isBlank_eq_false_of_isBreak
          -- A fence would have ended the paragraph.
          rcases ih _ (htext.readLine_reaches false) hrest with ⟨left, hpassed, hreach⟩
          refine ⟨left, .step ?_ hpassed, hreach⟩
          rw [hbody]
          exact fenceLine?_eq_none_of_endsParagraph hnext hgoes.1

/-! ## Tables -/

/-- A cell begins behind the pipe before it. -/
theorem inLine_cellStart {more : List Char} (h : InLine p body ending more) :
    InLine (if p.rest.head? = some '|' then p.advance 1 else p)
      (if body.head? = some '|' then body.tail else body) ending more := by
  cases body with
  | nil =>
    have hhead : ¬p.rest.head? = some '|' := by
      rw [h.rest]
      cases h.ends <;> simp
    rw [if_neg hhead]
    exact h
  | cons c body =>
    have hhead : p.rest.head? = some c := by
      rw [h.rest]
      rfl
    rw [hhead, List.head?_cons, List.tail_cons]
    split
    · exact h.advance (show c :: body = [c] ++ body from rfl)
    · exact h

/-- The cells of a row stand in one line. `fuel` bounds the characters left of it. -/
theorem readCells_reaches {more : List Char} (h : InLine p body ending more)
    (hfuel : body.length < fuel) :
    All Node.Unfenced (readCells fuel p).1 ∧ (readCells fuel p).2.rest = more := by
  induction fuel generalizing p body with
  | zero => exact absurd hfuel (Nat.not_lt_zero _)
  | succ fuel ih =>
    have htext := (inLine_cellStart h).skipWhile fun c => isSpace_eq_false_of_isBreak
    unfold readCells
    simp only
    split
    · next next hbreak => exact ⟨.nil, htext.afterBreak? hbreak⟩
    · next hnone =>
      have hreaches := htext.readLine_reaches true
      rcases hreaches.next with ⟨cell, back, hcell, hback, hpipe⟩
      -- A pipe has been passed, or the cell holds what comes before the next one.
      have hsmaller : back.length < body.length := by
        have hsuffix := List.IsSuffix.trans ⟨cell, hcell.symm⟩ (List.dropWhile_suffix _)
        by_cases hstart : body.head? = some '|'
        · rw [if_pos hstart] at hsuffix
          rcases List.head?_eq_some_iff.1 hstart with ⟨tail, rfl⟩
          exact Nat.lt_succ_of_le hsuffix.length_le
        · rw [if_neg hstart] at hsuffix htext
          refine Nat.lt_of_le_of_ne hsuffix.length_le fun hlength => ?_
          cases body with
          | nil =>
            have hend := htext.breakLength?_isSome_iff.2 rfl
            rw [Place.afterBreak?, Option.map_eq_none_iff] at hnone
            rw [hnone] at hend
            cases hend
          | cons c tail =>
            rw [hsuffix.eq_of_length hlength] at hpipe
            exact hstart (congrArg some (hpipe c rfl))
      rcases ih hback (by omega) with ⟨hcells, hreach⟩
      have hnode : ∀ n ∈ (readLine true _).nodes, n.Unfenced :=
        fun n hn => (hreaches.nodes n hn).unfenced
      exact ⟨.cons (.part rfl hnode) hcells, hreach⟩

theorem rowOf_unfenced {kind : Part} {columns : Nat} {q : Place} {cells : List Node}
    (hkind : kind.isFenced = false) (h : All Node.Unfenced cells) (next : Place) :
    (rowOf kind columns q cells next).Unfenced := by
  refine .part hkind (All.append (h.sublist (List.take_sublist _ _)) fun n hn => ?_)
  rw [List.eq_of_mem_replicate hn]
  exact .part rfl All.nil

/-- A line whose text behind the blanks is no fence is none. -/
theorem fenceLine?_eq_none_of_openFence?
    (h : openFence? (body.dropWhile fun d => d = ' ' || d = '\t') = none) :
    fenceLine? body = none := by
  refine fenceLine?_eq_none_of_shallow fun hshallow => ?_
  rcases Cursor.skip_rest (atStart body) 4 with ⟨front, hfront, -, hblank⟩
  have hstops := ((Cursor.skip_le (atStart body) 4).2 hshallow).2
  have hbody : body = front ++ ((atStart body).skip 4).2.place.rest := hfront
  generalize ((atStart body).skip 4).2.place.rest = s at hstops hbody
  have hdrop : body.dropWhile (fun d => d = ' ' || d = '\t') = s := by
    rw [hbody, List.dropWhile_append_of_pos fun d hd => by simpa using hblank d hd]
    cases s with
    | nil => rfl
    | cons c s =>
      rcases hstops c rfl with ⟨hspace, htab⟩
      simp [hspace, htab]
  rwa [hdrop] at h

/-- The rows of a table end with a whole line, and before the next fence. -/
theorem readRows_passes (ho : o.Flat) (columns fuel : Nat) (hp : p.rest = rs.flatten)
    (hrs : AreRecords rs) :
    All Node.Unfenced (o.readRows columns fuel p).1 ∧
      ∃ rest, Passed rs rest ∧ (o.readRows columns fuel p).2.rest = rest.flatten := by
  induction fuel generalizing p rs with
  | zero => exact ⟨.nil, rs, .refl rs, hp⟩
  | succ fuel ih =>
    have hstay : All Node.Unfenced ([] : List Node) ∧ ∃ rest, Passed rs rest ∧ p.rest = rest.flatten :=
      ⟨.nil, rs, .refl rs, hp⟩
    unfold readRows
    simp only [within_flat ho, Bool.not_true, Bool.false_or]
    split
    · exact hstay
    · next hgoes =>
      split
      · exact hstay
      · rcases hrs.inLine hp with ⟨rfl, hline⟩ | ⟨body, ending, rest, rfl, hline, hbody, hrest⟩
        · have hend := hline.skipWhile fun c => isBlank_eq_false_of_isBreak
          simp [interrupts, Cursor.skipAll, hend.line] at hgoes
        · have htext := hline.skipWhile fun c => isBlank_eq_false_of_isBreak
          -- A fence would have interrupted the table.
          have hfence := openFence?_eq_none_of_interrupts htext (Bool.eq_false_iff.2 hgoes)
          rcases readCells_reaches htext (Nat.lt_succ_self _) with ⟨hcells, hreach⟩
          rw [← htext.line] at hcells hreach
          rcases ih hreach hrest with ⟨hrows, left, hpassed, hleft⟩
          refine ⟨.cons (rowOf_unfenced rfl hcells _) hrows, left, .step ?_ hpassed, hleft⟩
          rw [hbody]
          exact fenceLine?_eq_none_of_openFence? hfence

theorem readTable_passes (ho : o.Flat) {columns : List Alignment} {head below : Place}
    {more : List Char} (h : InLine head body ending more) (hrs : AreRecords rs)
    (hbelow : below.rest = rs.flatten) : o.Passes rs (o.readTable columns head below) := by
  rcases readCells_reaches h (Nat.lt_succ_self _) with ⟨hcells, -⟩
  rcases readRows_passes ho columns.length (o.size + 1) hbelow hrs
    with ⟨hrows, rest, hpassed, hreach⟩
  unfold readTable
  rw [h.line]
  exact .part (.none ho) rfl (.cons (rowOf_unfenced rfl hcells _) hrows) hpassed hreach

theorem columnsAt?_of_tableOf? {line : Line} {columns : List Alignment} {below : Place}
    (h : o.tableOf? p line = some (columns, below)) :
    o.columnsAt? line.next = some (columns, below) := by
  unfold tableOf? at h
  split at h
  · cases h
  · rcases Option.bind_eq_some_iff.1 h with ⟨⟨told, q⟩, htold, hcolumns⟩
    simp only at hcolumns
    split at hcolumns
    · cases hcolumns
    · exact htold.trans hcolumns
  · cases h

/-- The marks of a fence tell no columns. -/
theorem fenceLine?_eq_none_of_columns?
    (h : (columns? ((atStart body).skip 4).2.place.rest).isSome = true) :
    fenceLine? body = none := by
  unfold fenceLine?
  simp only
  generalize ((atStart body).skip 4).2.place.rest = s at h
  cases hfence : openFence? s with
  | none => simp
  | some fence =>
    rcases fence with ⟨mark, length⟩
    rcases openFence?_eq_some hfence with ⟨rest, rfl, hmark, -⟩
    rcases hmark with rfl | rfl <;> cases h

/-- The columns of a table stand in a line of their own, which is no fence. -/
theorem tableOf?_passes (ho : o.Flat) {line : Line} {columns : List Alignment} {below : Place}
    (hnext : line.next.rest = rs.flatten) (hrs : AreRecords rs)
    (h : o.tableOf? p line = some (columns, below)) :
    ∃ rest, Passed rs rest ∧ below.rest = rest.flatten ∧ AreRecords rest := by
  have hcolumns := columnsAt?_of_tableOf? h
  simp only [columnsAt?, within_flat ho, Bool.true_and] at hcolumns
  split at hcolumns
  · rcases Option.bind_eq_some_iff.1 hcolumns with ⟨told, htold, hrow⟩
    rcases Option.bind_eq_some_iff.1 hrow with ⟨q, hq, heq⟩
    cases heq
    rcases hrs.inLine hnext with ⟨rfl, hline⟩ | ⟨body, ending, rest, rfl, hline, hbody, hrest⟩
    · rw [hline.skip_line] at htold
      cases htold
    · rw [hline.skip_line] at htold
      refine ⟨rest, .step ?_ (.refl rest), ?_, hrest⟩
      · rw [hbody]
        exact fenceLine?_eq_none_of_columns? (by rw [htold]; rfl)
      · unfold Cursor.line at hq
        rw [(hline.afterSkip 4).afterLine] at hq
        cases hq
        rfl
  · cases hcolumns

theorem readParagraph_passes (ho : o.Flat) (h : InLine p body ending rs.flatten)
    (hrs : AreRecords rs) : o.Passes rs (o.readParagraph p) := by
  have hreaches := h.readLine_reaches false
  have hgain : o.Gains [] { o with task := none } := ⟨⟨ho.frames, rfl⟩, rfl, rfl⟩
  unfold readParagraph
  simp only [ho.task, Option.toList_none]
  split
  · next columns body htable =>
    rcases tableOf?_passes hgain.flat hreaches.next hrs htable with ⟨rest, hpassed, hbody, hrest⟩
    exact (readTable_passes hgain.flat h hrest hbody).after hgain hpassed
  · have hrunning := isRunning_paragraphLines { o with task := none } (o.size + 1) .nil
      (isCut_readLine false p)
    rcases paragraphLines_passes hgain.flat (o.size + 1) [] hreaches hrs
      with ⟨rest, hpassed, hreach⟩
    exact .part hgain hrunning.isFenced_eq_false
      (fun n hn => (hrunning.nodes n (List.mem_reverse.1 hn)).unfenced) hpassed hreach

/-- A paragraph that begins with no bracket begins with no definition. -/
theorem readText_passes (ho : o.Flat) (h : InLine p body ending rs.flatten) (hrs : AreRecords rs)
    (hbracket : p.rest.head? ≠ some '[') :
    o.Passes rs (readText (fuel + 1) o p) := by
  have hnone : readDefinition? o.nextOfDefinition p.rest = none := by
    unfold readDefinition?
    split
    · next heq => exact absurd (by rw [heq]; rfl) hbracket
    · rfl
  rw [readText, hnone]
  exact readParagraph_passes ho h hrs

/-! ## The block of a plain line -/

/-- What a plain line says, if its blanks do not make it code. -/
structure PlainStart (s : List Char) : Prop where
  head : ∀ c ∈ s.head?, c ≠ '>' ∧ c ≠ '<' ∧ c ≠ '['
  bullet : isRule s = true ∨ bullet? s = none

theorem plainStart_of_isPlain (h : isPlain body = true) (hshallow : ((atStart body).skip 4).1 < 4) :
    PlainStart ((atStart body).skip 4).2.place.rest := by
  have hne : ((atStart body).skip 4).1 ≠ 4 := Nat.ne_of_lt hshallow
  simp only [isPlain, hne, decide_false, Bool.false_or, Bool.and_eq_true, Bool.not_eq_true',
    Bool.or_eq_true, Option.isNone_iff_eq_none] at h
  refine ⟨fun c hc => ?_, h.2⟩
  have hhead := h.1
  rw [Option.mem_def.1 hc] at hhead
  simpa [not_or, and_assoc] using hhead

/-- The block that the text of a line begins behind its blanks, if they do not make it code and it
begins with no tag. -/
inductive Begins (o : Outline) (q : Place) (indent : Nat) (s : List Char) : Outline × Place → Prop
  | rule (h : isRule s = true) :
      Begins o q indent s (let next := (q.advance s.length).afterBreak?.getD (q.advance s.length)
        (o.add (.leaf ⟨q, next.offset⟩ .rule), next))
  | heading {level : Nat} (h : headingLevel? s = some level) :
      Begins o q indent s (o.readHeading q level)
  | fenced {mark : Char} {length : Nat} (h : openFence? s = some (mark, length)) :
      Begins o q indent s (o.readFenced q indent mark length)
  | text (h : openFence? s = none) : Begins o q indent s (readText (o.size + 1) o q)

theorem begins_begin (o : Outline) {more : List Char} (h : InLine p body ending more)
    (htext : body.dropWhile isSpace ≠ []) (hshallow : ((atStart body).skip 4).1 < 4)
    (htag : ((atStart body).skip 4).2.place.rest.head? ≠ some '<') :
    Begins (o.finishList (Cursor.skip { place := p } 4).2.place.offset)
      (Cursor.skip { place := p } 4).2.place ((atStart body).skip 4).1
        ((atStart body).skip 4).2.place.rest (o.begin { place := p }) := by
  have hrest := h.skip_line 4
  have hrecord : openFence? (recordOf (Cursor.skip { place := p } 4).2.place.rest) =
      openFence? ((atStart body).skip 4).2.place.rest := by
    rw [(h.afterSkip 4).recordOf, openFence?_append h.ends]
  unfold Outline.begin
  simp only [h.afterBlank?.2 htext, h.skip_fst, Nat.ne_of_lt hshallow, if_false, hrest, htag,
    decide_false, Bool.false_and, Bool.false_eq_true, hrecord]
  split
  · next hrule => exact .rule hrule
  · split
    · next hlevel => exact .heading hlevel
    · split
      · next hopen => exact .fenced hopen
      · next hopen => exact .text hopen

/-- The block that a plain line begins holds no fenced code and ends before the next fence. -/
theorem begin_passes (ho : o.Flat) (h : InLine p body ending rs.flatten) (hrs : AreRecords rs)
    (hsize : rs.length ≤ o.size) (hplain : isPlain body = true)
    (hfence : fenceLine? body = none) : o.Passes rs (o.begin { place := p }) := by
  have hfinish : ∀ stop, o.Gains [] (o.finishList stop) := gains_finishList ho
  have hline := h.afterSkip 4
  by_cases htext : body.dropWhile isSpace = []
  · -- Where no block is open, blank lines are passed.
    rcases h.afterBlank?.1 htext with ⟨next, hnext, hreach⟩
    have hpass : o.passBlank = o := by
      unfold passBlank
      rw [ho.frames]
    unfold Outline.begin
    simp only [hnext, hpass]
    exact ⟨[], rs, .nil, .none ho, .refl rs, hreach⟩
  -- A line that is indented by four columns is code.
  by_cases hdeep : ((atStart body).skip 4).1 = 4
  · unfold Outline.begin
    simp only [h.afterBlank?.2 htext, h.skip_fst, hdeep, if_true]
    refine (readIndented_passes (hfinish _).flat hline hrs ?_).after (hfinish _) (.refl rs)
    rwa [(hfinish _).size]
  · have hshallow := Nat.lt_of_le_of_ne (Cursor.skip_le (atStart body) 4).1 hdeep
    have hstart := plainStart_of_isPlain hplain hshallow
    have hfenced : openFence? ((atStart body).skip 4).2.place.rest = none := by
      simpa [fenceLine?, hdeep] using hfence
    have hbracket : (Cursor.skip { place := p } 4).2.place.rest.head? ≠ some '[' := by
      intro hc
      rcases List.head?_eq_some_iff.1 hc with ⟨tail, htail⟩
      rcases hline.eq_cons (by decide) htail with ⟨t, ht, -⟩
      exact (hstart.head '[' (by rw [ht]; rfl)).2.2 rfl
    have hbegins := begins_begin o h htext hshallow fun hc => (hstart.head '<' hc).2.1 rfl
    have hready := hfinish (Cursor.skip { place := p } 4).2.place.offset
    refine Passes.after ?_ hready (.refl rs)
    generalize o.begin { place := p } = r at hbegins ⊢
    cases hbegins with
    | rule _ => exact rule_passes hready.flat hline
    | heading hlevel => exact readHeading_passes hready.flat hline hlevel
    | fenced hopen => cases hfenced.symm.trans hopen
    | text _ => exact readText_passes hready.flat hline hrs hbracket

/-- A line that begins no block which holds blocks. -/
theorem beginFrom_eq_begin (o : Outline) (fuel : Nat) {more : List Char}
    (h : InLine p body ending more)
    (hhead : ((atStart body).skip 4).1 < 4 →
      (∀ c ∈ ((atStart body).skip 4).2.place.rest.head?, c ≠ '>' ∧ c ≠ '[') ∧
        (isRule ((atStart body).skip 4).2.place.rest = true ∨
          bullet? ((atStart body).skip 4).2.place.rest = none)) :
    beginFrom (fuel + 1) o { place := p } = o.begin { place := p } := by
  have hline := h.afterSkip 4
  have hle := (Cursor.skip_le (atStart body) 4).1
  have hrest := h.skip_line 4
  unfold beginFrom
  simp only
  split
  · rfl
  · next hshallow =>
    rw [h.skip_fst] at hshallow
    rcases hhead (by omega) with ⟨hfirst, hbullet⟩
    have hne : ∀ c tail, (Cursor.skip { place := p } 4).2.place.rest = c :: tail →
        isBreak c = false → c ≠ '>' ∧ c ≠ '[' := by
      intro c tail htail hc
      rcases hline.eq_cons hc htail with ⟨t, ht, -⟩
      exact hfirst c (by rw [ht]; rfl)
    -- Neither a footnote nor an item nor a quotation begins here.
    have hfootnote : footnote? (Cursor.skip { place := p } 4).2.place.rest = none := by
      unfold footnote?
      split
      · next heq => exact absurd rfl (hne '[' _ heq (by decide)).2
      · rfl
    have hnone : (if isRule (Cursor.skip { place := p } 4).2.line then none
        else bullet? (Cursor.skip { place := p } 4).2.line) = none := by
      rw [hrest]
      split
      · rfl
      · next hrule => exact hbullet.resolve_left hrule
    simp only [hfootnote, hnone]
    split
    · next heq => exact absurd rfl (hne '>' _ heq (by decide)).1
    · rfl

end Outline

end Markdown
end StaticBlog
