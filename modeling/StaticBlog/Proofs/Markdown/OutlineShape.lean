import StaticBlog.Markdown.Page
import StaticBlog.Proofs.Markdown.Shape

/-!
# The shape of an outline

The outline of a text has the shape of a document from the first line to the last one.

- `Outline.WellShaped` : outlines whose blocks have that shape
- `Outline.WellShaped.begin`, `Outline.WellShaped.beginFrom` : a line that begins blocks keeps it
- `wellShaped_blocks` : every text has a document of that shape
-/

namespace StaticBlog
namespace Markdown

/-! ## Outlines -/

/-- An open block that holds other blocks, all of that shape. -/
structure Frame.WellShaped (f : Frame) : Prop where
  part : f.part.isFree = true
  body : All Node.WellShaped f.body

/-- An outline of that shape. -/
structure Outline.WellShaped (o : Outline) : Prop where
  frames : ∀ f ∈ o.frames, f.WellShaped
  body : All Node.WellShaped o.body
  task : ∀ n, o.task = some n → n.IsLeaf

namespace Outline

variable {o : Outline}

namespace WellShaped

/-- Only the blocks and the check mark of a task matter. -/
theorem congr {o' : Outline} (h : o.WellShaped) (hframes : o'.frames = o.frames)
    (hbody : o'.body = o.body) (htask : o'.task = o.task) : o'.WellShaped := by
  refine ⟨?_, ?_, ?_⟩
  · rw [hframes]
    exact h.frames
  · rw [hbody]
    exact h.body
  · rw [htask]
    exact h.task

theorem withFrames (h : o.WellShaped) {fs : List Frame} (hfs : ∀ f ∈ fs, f.WellShaped) :
    { o with frames := fs }.WellShaped :=
  ⟨hfs, h.body, h.task⟩

theorem withFootnotes (h : o.WellShaped) (keys : List (List Char)) :
    { o with footnotes := keys }.WellShaped :=
  h.congr rfl rfl rfl

theorem withTask (h : o.WellShaped) {task : Node} (htask : task.IsLeaf) :
    { o with task := some task }.WellShaped :=
  ⟨h.frames, h.body, fun _ hn => Option.some.inj hn ▸ htask⟩

theorem add (h : o.WellShaped) {n : Node} (hn : n.WellShaped) : (o.add n).WellShaped := by
  unfold Outline.add
  split
  · exact ⟨h.frames, .cons hn h.body, h.task⟩
  · next f fs heq =>
    have hframes := h.frames
    rw [heq] at hframes
    rcases List.forall_mem_cons.1 hframes with ⟨hf, hfs⟩
    exact h.withFrames (List.forall_mem_cons.2 ⟨⟨hf.part, .cons hn hf.body⟩, hfs⟩)

theorem push (h : o.WellShaped) (start : Place) {part : Part} (hpart : part.isFree = true) :
    (o.push start part).WellShaped :=
  h.withFrames (List.forall_mem_cons.2 ⟨⟨hpart, .nil⟩, h.frames⟩)

/-- A complete block is a part of the one around it. -/
theorem pop (h : o.WellShaped) (stop : Nat) : (o.pop stop).WellShaped := by
  unfold Outline.pop
  split
  · exact h
  · next f fs heq =>
    have hframes := h.frames
    rw [heq] at hframes
    rcases List.forall_mem_cons.1 hframes with ⟨hf, hfs⟩
    have houter : { o with frames := fs }.WellShaped := h.withFrames hfs
    dsimp only
    -- Only a tight list is changed when it is complete: its paragraphs become bare.
    split
    · have hitems : All Node.WellShaped (f.body.reverse.map tightItem) := by
        intro n hn
        obtain ⟨item, hitem, rfl⟩ := List.mem_map.1 hn
        exact wellShaped_tightItem (hf.body item (List.mem_reverse.1 hitem))
      have hready : Outline.WellShaped { o with frames := fs, emptyItem := false } :=
        houter.congr rfl rfl rfl
      exact hready.add (.free hf.part hitems)
    · exact houter.add (.free hf.part hf.body.reverse)

theorem popTo (h : o.WellShaped) (n stop : Nat) : (o.popTo n stop).WellShaped := by
  unfold Outline.popTo
  induction List.range (o.frames.length - n) generalizing o with
  | nil => exact h
  | cons _ _ ih => exact ih (h.pop stop)

theorem finishEmptyItem (h : o.WellShaped) (stop : Nat) : (o.finishEmptyItem stop).WellShaped := by
  unfold Outline.finishEmptyItem
  dsimp only
  split
  · exact (h.pop stop).congr rfl rfl rfl
  · exact h.congr rfl rfl rfl

end WellShaped

theorem wellShaped_loosen {f : Frame} (h : f.WellShaped) : (loosen f).WellShaped := by
  unfold loosen
  split
  · exact ⟨rfl, h.body⟩
  · exact h

namespace WellShaped

theorem finishList (h : o.WellShaped) (stop : Nat) : (o.finishList stop).WellShaped := by
  unfold Outline.finishList
  extract_lets emptied finished frames
  have hemptied : emptied.WellShaped := h.finishEmptyItem stop
  have hfinished : finished.WellShaped := by
    unfold finished
    split
    · exact hemptied.pop stop
    · exact hemptied
  -- Behind a blank line the list around the innermost block becomes loose.
  have hframes : ∀ f ∈ frames, f.WellShaped := by
    unfold frames
    split
    · next f g fs heq =>
      have hall := hfinished.frames
      rw [heq] at hall
      rcases List.forall_mem_cons.1 hall with ⟨hf, hall⟩
      rcases List.forall_mem_cons.1 hall with ⟨hg, hfs⟩
      exact List.forall_mem_cons.2 ⟨hf, List.forall_mem_cons.2 ⟨wellShaped_loosen hg, hfs⟩⟩
    · exact hfinished.frames
  split
  · exact ⟨hframes, hfinished.body, hfinished.task⟩
  · exact hfinished

theorem continueList (h : o.WellShaped) (start : Place) (b : Bullet) :
    (o.continueList start b).WellShaped := by
  unfold Outline.continueList
  extract_lets emptied fresh
  have hemptied : emptied.WellShaped := h.finishEmptyItem start.offset
  -- An item goes on with the innermost list or begins a list of its own.
  have hfresh : ∀ o : Outline, o.WellShaped → (fresh o).WellShaped :=
    fun o ho => (ho.push start rfl).congr rfl rfl rfl
  split
  · exact hfresh _ hemptied
  · next f fs heq =>
    have hall := hemptied.frames
    rw [heq] at hall
    rcases List.forall_mem_cons.1 hall with ⟨hf, hfs⟩
    split
    · split
      · refine ⟨List.forall_mem_cons.2 ⟨?_, hfs⟩, hemptied.body, hemptied.task⟩
        split
        · exact wellShaped_loosen hf
        · exact hf
      · exact hfresh _ (hemptied.finishList _)
    · exact hfresh _ (hemptied.finishList _)

theorem passBlank (h : o.WellShaped) : o.passBlank.WellShaped := by
  unfold Outline.passBlank
  split
  · exact h
  · next f fs heq =>
    have hall := h.frames
    rw [heq] at hall
    rcases List.forall_mem_cons.1 hall with ⟨hf, hfs⟩
    split
    · exact h
    · exact ⟨List.forall_mem_cons.2 ⟨⟨rfl, hf.body⟩, hfs⟩, h.body, h.task⟩
    · exact h.congr rfl rfl rfl

end WellShaped

/-! ## Running text -/

/-- Leaves make a part of any kind but code well-shaped. -/
theorem wellShaped_of_isLeaf {kind : Part} {body : List Node} (hkind : ∀ info, kind ≠ .code info)
    (h : All Node.IsLeaf body) (span : Span) : (Node.part span kind body).WellShaped := by
  cases kind with
  | code info => exact absurd rfl (hkind info)
  | heading level => exact .heading fun n hn => isClosed_inline.isLeaf (h n hn)
  | _ => exact .free rfl fun n hn => isClosed_wellShaped.isLeaf (h n hn)

namespace WellShaped

theorem readHeading (h : o.WellShaped) (p : Place) (level : Nat) :
    (o.readHeading p level).1.WellShaped := by
  unfold Outline.readHeading
  extract_lets mark start line slash nodes stop body
  split
  · exact h.add (.heading fun n hn => absurd hn List.not_mem_nil)
  · have hnodes : All Node.IsLeaf nodes := by
      refine .append (isCut_readLine false start).nodes ?_
      unfold slash
      split
      · exact .cons trivial .nil
      · exact .nil
    have hbody := all_isLeaf_endingAt hnodes stop
    exact h.add (.heading fun n hn => isClosed_inline.isLeaf (hbody n hn))

end WellShaped

theorem all_wellShaped_readCells (fuel : Nat) (p : Place) :
    All Node.WellShaped (readCells fuel p).1 := by
  induction fuel generalizing p with
  | zero => exact .nil
  | succ fuel ih =>
    unfold readCells
    extract_lets start text line
    split
    · exact .nil
    · have hcell : (Node.part ⟨start, line.next.offset⟩ .tableCell line.nodes).WellShaped :=
        .free rfl fun n hn => isClosed_wellShaped.isLeaf ((isCut_readLine true text).nodes n hn)
      exact .cons hcell (ih line.next)

theorem wellShaped_rowOf {part : Part} (hpart : part.isFree = true) {cells : List Node}
    (h : All Node.WellShaped cells) (columns : Nat) (p next : Place) :
    (rowOf part columns p cells next).WellShaped := by
  refine .free hpart (All.append (h.sublist (List.take_sublist _ _)) fun n hn => ?_)
  rw [List.eq_of_mem_replicate hn]
  exact .free rfl All.nil

theorem all_wellShaped_readRows (o : Outline) (columns fuel : Nat) (p : Place) :
    All Node.WellShaped (o.readRows columns fuel p).1 := by
  induction fuel generalizing p with
  | zero => exact .nil
  | succ fuel ih =>
    unfold readRows
    dsimp only
    split
    · exact .nil
    · split
      · exact .nil
      · exact .cons (wellShaped_rowOf rfl (all_wellShaped_readCells _ _) _ _ _) (ih _)

/-- A paragraph as it is read: leaves, which belong to no code. -/
structure IsRunning (r : Part × List Node × Place) : Prop where
  part : ∀ info, r.1 ≠ .code info
  nodes : All Node.IsLeaf r.2.1

theorem IsRunning.isFenced_eq_false {r : Part × List Node × Place} (h : IsRunning r) :
    r.1.isFenced = false := by
  cases hpart : r.1 with
  | code info => exact absurd hpart (h.part info)
  | _ => rfl

theorem isRunning_paragraphLines (o : Outline) (fuel : Nat) {nodes : List Node} {line : Line}
    (hnodes : All Node.IsLeaf nodes) (hline : line.IsCut) :
    IsRunning (o.paragraphLines fuel nodes line) := by
  induction fuel generalizing nodes line with
  | zero => exact ⟨nofun, hnodes⟩
  | succ fuel ih =>
    unfold paragraphLines
    extract_lets read complete
    have hread : All Node.IsLeaf read := hline.nodes.reverse.append hnodes
    have hcomplete : All Node.IsLeaf complete := by
      unfold complete
      split
      · exact .cons trivial hread
      · exact hread
    have hending : All Node.IsLeaf line.ending.toList :=
      fun n hn => hline.ending n (Option.mem_toList.1 hn)
    dsimp only
    split
    · exact ⟨nofun, hcomplete⟩
    · split
      · exact ⟨nofun, hcomplete⟩
      · exact ih (hending.append hread) (isCut_readLine false _)

namespace WellShaped

theorem readTable (h : o.WellShaped) (columns : List Alignment) (head body : Place) :
    (o.readTable columns head body).1.WellShaped := by
  have hcells := all_wellShaped_readCells (head.line.length + 1) head
  have hrows := all_wellShaped_readRows o columns.length (o.size + 1) body
  exact h.add (.free rfl (All.cons (wellShaped_rowOf rfl hcells _ _ _) hrows))

theorem readParagraph (h : o.WellShaped) (p : Place) : (o.readParagraph p).1.WellShaped := by
  unfold Outline.readParagraph
  extract_lets line task started
  have hstarted : started.WellShaped := ⟨h.frames, h.body, fun n hn => by cases hn⟩
  have htask : All Node.IsLeaf task := fun n hn => h.task n (Option.mem_toList.1 hn)
  have hrunning := isRunning_paragraphLines started (started.size + 1) htask
    (isCut_readLine false p)
  split
  · exact hstarted.readTable _ _ _
  · exact hstarted.add (wellShaped_of_isLeaf hrunning.part hrunning.nodes.reverse _)

theorem readText (h : o.WellShaped) (fuel : Nat) (p : Place) :
    (readText fuel o p).1.WellShaped := by
  induction fuel generalizing o p with
  | zero => exact h.readParagraph p
  | succ fuel ih =>
    unfold Outline.readText
    split
    · exact h.readParagraph p
    · next definition rest heq =>
      have hdefined : { o with definitions := definition :: o.definitions }.WellShaped :=
        h.congr rfl rfl rfl
      dsimp only
      split
      · exact hdefined
      · exact ih hdefined _

end WellShaped

/-! ## Code and HTML -/

theorem all_isText_fencedLines (o : Outline) (mark : Char) (length indent fuel : Nat)
    {lines : List (List Node)} (h : ∀ l ∈ lines, All Node.IsText l) (p : Place) :
    ∀ l ∈ (o.fencedLines mark length indent fuel lines p).1, All Node.IsText l := by
  induction fuel generalizing lines p with
  | zero => exact h
  | succ fuel ih =>
    unfold fencedLines
    dsimp only
    split
    · exact h
    · split
      · exact h
      · exact ih (List.forall_mem_cons.2 ⟨all_isText_keptLine _ _ _, h⟩) _

theorem all_isText_indentedLines (o : Outline) (fuel : Nat) (blank : Bool)
    {lines : List (Bool × List Node)} (h : ∀ l ∈ lines, All Node.IsText l.2) (blanks : Nat)
    (p : Place) : ∀ l ∈ (o.indentedLines fuel blank lines blanks p).1, All Node.IsText l.2 := by
  induction fuel generalizing blank lines blanks p with
  | zero => exact h
  | succ fuel ih =>
    have hlines : ∀ l ∈ (blank, keptLine blanks p p.nextLine .text) :: lines,
        All Node.IsText l.2 := List.forall_mem_cons.2 ⟨all_isText_keptLine _ _ _, h⟩
    unfold indentedLines
    dsimp only
    split
    · exact hlines
    · exact ih _ hlines _ _

/-- Blank lines at the end of indented code do not belong to it. -/
theorem all_isText_keptLines {lines : List (Bool × List Node)}
    (h : ∀ l ∈ lines, All Node.IsText l.2) :
    All Node.IsText (((lines.dropWhile fun l => l.1).reverse.map fun l => l.2).flatten) := by
  refine All.flatten fun ns hns => ?_
  obtain ⟨l, hl, rfl⟩ := List.mem_map.1 hns
  exact h l ((List.dropWhile_sublist _).subset (List.mem_reverse.1 hl))

theorem all_isLeaf_htmlLines (o : Outline) (ending : Option (List Char)) (fuel : Nat)
    {lines : List (List Node)} (h : ∀ l ∈ lines, All Node.IsLeaf l) (blanks : Nat) (p : Place) :
    ∀ l ∈ (o.htmlLines ending fuel lines blanks p).1, All Node.IsLeaf l := by
  induction fuel generalizing lines blanks p with
  | zero => exact h
  | succ fuel ih =>
    have hlines : ∀ l ∈ keptLine blanks p p.nextLine .markup :: lines, All Node.IsLeaf l :=
      List.forall_mem_cons.2
        ⟨all_keptLine (fun _ => trivial) (fun _ _ => trivial) blanks p p.nextLine, h⟩
    unfold htmlLines
    extract_lets next read
    generalize o.within next = line
    obtain ⟨all, c⟩ := line
    dsimp only
    split_ifs
    · exact hlines
    · exact ih hlines _ _

namespace WellShaped

theorem readFenced (h : o.WellShaped) (p : Place) (indent : Nat) (mark : Char) (length : Nat) :
    (o.readFenced p indent mark length).1.WellShaped := by
  unfold Outline.readFenced
  extract_lets info next text
  have hlines := all_isText_fencedLines o mark length indent (o.size + 1)
    (fun l hl => absurd hl List.not_mem_nil) next
  exact h.add (.code (All.flatten fun l hl => hlines l (List.mem_reverse.1 hl)))

theorem readIndented (h : o.WellShaped) (c : Cursor) : (o.readIndented c).1.WellShaped := by
  have hlines := all_isText_indentedLines o (o.size + 1) false
    (fun l hl => absurd hl List.not_mem_nil) c.owed c.place
  unfold Outline.readIndented
  generalize o.indentedLines (o.size + 1) false [] c.owed c.place = read at hlines
  obtain ⟨lines, next⟩ := read
  have hbody := all_isText_keptLines hlines
  have hready : ∀ blankBefore, { o with blankBefore := blankBefore }.WellShaped :=
    fun _ => h.congr rfl rfl rfl
  exact (hready _).add (.code hbody)

theorem readHtml (h : o.WellShaped) (p : Place) (blanks : Nat) (ending : Option (List Char)) :
    (o.readHtml p blanks ending).1.WellShaped := by
  have hlines := all_isLeaf_htmlLines o ending (o.size + 1)
    (fun l hl => absurd hl List.not_mem_nil) blanks p
  have hbody := All.flatten fun l hl => hlines l (List.mem_reverse.1 hl)
  exact h.add (.free rfl fun n hn => isClosed_wellShaped.isLeaf (hbody n hn))

/-! ## Blocks -/

theorem begin (h : o.WellShaped) (c : Cursor) : (o.begin c).1.WellShaped := by
  unfold Outline.begin
  split
  · exact h.passBlank
  · dsimp only
    split
    · exact (h.finishList _).readIndented _
    · have hready := h.finishList (c.skip 4).2.place.offset
      split
      · exact hready.readHtml _ _ _
      · split
        · exact hready.readHtml _ _ _
        · split
          · exact hready.add (.leaf _ _)
          · split
            · exact hready.readHeading _ _
            · split
              · exact hready.readFenced _ _ _ _
              · exact hready.readText _ _

theorem beginAlert (h : o.WellShaped) (p : Place) : (o.beginAlert p).1.WellShaped := by
  unfold Outline.beginAlert
  dsimp only
  split
  · exact h
  · exact h.begin _

theorem beginFrom (h : o.WellShaped) (fuel : Nat) (c : Cursor) :
    (beginFrom fuel o c).1.WellShaped := by
  induction fuel generalizing o c with
  | zero => exact h.begin c
  | succ fuel ih =>
    -- A line begins a footnote, an item, a quote or a block that holds no blocks. Each of the first
    -- three is pushed, and the rest of the line begins blocks inside it.
    unfold Outline.beginFrom
    generalize c.skip 4 = skipped
    obtain ⟨outer, d⟩ := skipped
    dsimp only
    split
    · exact h.begin c
    · split
      · next label rest heq =>
        have hready := h.finishList d.place.offset
        have hnote : (Part.footnote label).isFree = true := rfl
        split
        · exact ih (((hready.pop d.place.offset).withFootnotes _).push _ hnote) _
        · exact ih ((hready.withFootnotes _).push _ hnote) _
      · split
        · next b hb =>
          have hpart : (Part.item (itemStart outer b d).1).isFree = true := rfl
          have hitem := (h.continueList c.place b).push c.place hpart
          split
          · exact hitem.congr rfl rfl rfl
          · split
            · next task e htask =>
              obtain ⟨checked, -, heq⟩ := Option.map_eq_some_iff.1 htask
              have hleaf : task.IsLeaf := by
                cases heq
                trivial
              split
              · exact (hitem.add (isClosed_wellShaped.isLeaf hleaf)).congr rfl rfl rfl
              · exact ih (hitem.withTask hleaf) _
            · exact ih hitem _
        · split
          · have hpart : (Part.quote (alert? ((d.advance 1).skip 1).2.line)).isFree = true := rfl
            have hquote := (h.finishList d.place.offset).push d.place hpart
            split
            · exact hquote.beginAlert _
            · exact ih hquote _
          · exact h.begin c

theorem readBlocks (h : o.WellShaped) (fuel : Nat) (p : Place) :
    (readBlocks fuel o p).WellShaped := by
  induction fuel generalizing o p with
  | zero => exact h.popTo 0 p.offset
  | succ fuel ih =>
    unfold Outline.readBlocks
    split
    · exact h.popTo 0 p.offset
    · have hline := (h.popTo (goOn o.spine { place := p }).1 p.offset).beginFrom
        (p.line.length + 1) (goOn o.spine { place := p }).2
      exact ih hline _

end WellShaped

theorem wellShaped_ofText (text : List Char) : (ofText text).WellShaped :=
  WellShaped.readBlocks ⟨fun _ h => absurd h List.not_mem_nil, .nil, fun _ h => by cases h⟩ _ _

end Outline

/-- In the document of any text code holds only text, and headings hold only running text. -/
theorem wellShaped_blocks (text : List Char) : All Node.WellShaped (blocks text) := by
  intro n hn
  rw [blocks, allResolved_eq_map] at hn
  obtain ⟨m, hm, rfl⟩ := List.mem_map.1 hn
  exact ((Outline.wellShaped_ofText text).body m (List.mem_reverse.1 hm)).resolved _

end Markdown
end StaticBlog
