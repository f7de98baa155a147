import StaticBlog.Markdown.Page
import StaticBlog.Proofs.Markdown.PlainBlocks

/-!
# Fenced code

The code between fences, told from the lines of a text alone, is that which the reader of documents
finds in it.

- `fencedBlocks` : the fenced code in a document
- `FenceLine.closes`, `FenceLine.codeLine` : what a line means to the fence that is open
- `fencedCode` : the fenced code in lines
- `isFlat` : lines outside of fences are plain
- `Outline.ReadsBlock` : what one block of a flat text is read to
- `fencedBlocks_events` : the fenced code in a flat text
-/

namespace StaticBlog
namespace Markdown

/-! ## Events -/

/-- The fenced code in a text, with its languages. -/
def fencedBlocks : List Event → List (Option String × String)
  | [] => []
  | .enter (.code (some info)) :: es =>
    (languageOf (some info), String.ofList (codeOf es)) :: fencedBlocks es
  | _ :: es => fencedBlocks es

theorem fencedBlocks_token (t : Token) (span : Span) (es : List Event) :
    fencedBlocks (t.event span :: es) = fencedBlocks es := by
  cases t with
  | lineBreak manner => cases manner <;> rfl
  | _ => rfl

theorem fencedBlocks_enter {kind : Part} (h : kind.isFenced = false) (es : List Event) :
    fencedBlocks (.enter kind.tag :: es) = fencedBlocks es := by
  cases kind with
  | code info =>
    cases info with
    | none => rfl
    | some info => cases h
  | _ => rfl

/-- Nodes tell of no fenced code if each of them tells of none. -/
theorem fencedBlocks_allEvents {ns : List Node}
    (h : ∀ n ∈ ns, ∀ es, fencedBlocks (n.events ++ es) = fencedBlocks es) (es : List Event) :
    fencedBlocks (Node.allEvents ns ++ es) = fencedBlocks es := by
  induction ns with
  | nil => rfl
  | cons n ns ih =>
    rcases List.forall_mem_cons.1 h with ⟨hn, hns⟩
    rw [Node.allEvents, List.append_assoc, hn, ih hns]

/-- Nodes without fenced code tell of none. -/
theorem Node.Unfenced.fencedBlocks {n : Node} (h : n.Unfenced) (es : List Event) :
    fencedBlocks (n.events ++ es) = Markdown.fencedBlocks es := by
  induction h generalizing es with
  | leaf span token =>
    rw [Node.events]
    exact fencedBlocks_token token span es
  | @part span kind body hkind hbody ih =>
    rw [Node.events, within, List.cons_append, List.cons_append, fencedBlocks_enter hkind,
      List.append_assoc, fencedBlocks_allEvents ih]
    rfl

/-- Nodes that tell a text and nothing else. -/
structure IsCode (ns : List Node) (s : List Char) : Prop where
  leaves : ∀ n ∈ ns, n.IsLeaf
  settled : ns.any Node.isOpen = false
  text : ∀ es, codeOf (Node.allEvents ns ++ es) = s ++ codeOf es

theorem allEvents_append (ns ms : List Node) :
    Node.allEvents (ns ++ ms) = Node.allEvents ns ++ Node.allEvents ms := by
  induction ns with
  | nil => rfl
  | cons n ns ih => rw [List.cons_append, Node.allEvents, ih, Node.allEvents, List.append_assoc]

theorem allResolved_append (l : Links) (around : List Part) (ns ms : List Node) :
    Node.allResolved l around (ns ++ ms) =
      Node.allResolved l around ns ++ Node.allResolved l around ms := by
  simp only [allResolved_eq_map, List.map_append]

namespace IsCode

variable {ns ms : List Node} {s t : List Char}

theorem nil : IsCode [] [] := ⟨List.forall_mem_nil _, rfl, fun _ => rfl⟩

theorem append (h : IsCode ns s) (h' : IsCode ms t) : IsCode (ns ++ ms) (s ++ t) := by
  refine ⟨List.forall_mem_append.2 ⟨h.leaves, h'.leaves⟩, ?_, fun es => ?_⟩
  · rw [List.any_append, h.settled, h'.settled]
    rfl
  · rw [allEvents_append, List.append_assoc, h.text, h'.text, List.append_assoc]

/-- What a node tells of a stretch of text. -/
theorem span (p : Place) (stop : Nat) :
    IsCode (if p.offset < stop then [.leaf ⟨p, stop⟩ .text] else []) (p.upTo stop) := by
  split
  · exact ⟨List.forall_mem_singleton.2 trivial, rfl, fun _ => rfl⟩
  · next hle =>
    have hnone : stop - p.offset = 0 := by omega
    rw [Place.upTo, hnone]
    exact nil

theorem blanks (p : Place) (n : Nat) :
    IsCode (if 0 < n then [.leaf ⟨p, p.offset⟩ (.literal (List.replicate n ' '))] else [])
      (List.replicate n ' ') := by
  split
  · exact ⟨List.forall_mem_singleton.2 trivial, rfl, fun _ => rfl⟩
  · next hle =>
    have hnone : n = 0 := by omega
    rw [hnone]
    exact nil

/-- Nothing in code changes when running text is read. -/
theorem allResolved (h : IsCode ns s) (l : Links) (around : List Part) :
    Node.allResolved l around ns = ns := by
  have hleaves := h.leaves
  clear h
  induction ns with
  | nil => rfl
  | cons n ns ih =>
    rcases List.forall_mem_cons.1 hleaves with ⟨hn, hns⟩
    rw [Node.allResolved, ih hns]
    cases n with
    | leaf span token => rw [Node.resolved]
    | part => exact absurd hn id

/-- What a part with fenced code in it tells. -/
theorem fencedBlocks (h : IsCode ns s) (l : Links) (span : Span) (info : List Char)
    (es : List Event) :
    fencedBlocks (((Node.part span (.code (some info)) ns).resolved l []).events ++ es) =
      (languageOf (some info), String.ofList s) :: Markdown.fencedBlocks es := by
  have hinner := fencedBlocks_allEvents fun n hn => (h.leaves n hn).unfenced.fencedBlocks
  have hcode : codeOf (Node.allEvents ns ++ ([.leave (.code (some info))] ++ es)) = s := by
    rw [h.text]
    exact List.append_nil s
  rw [Node.resolved, h.allResolved, Setting.resolve, h.settled]
  simp only [Bool.false_eq_true, if_false]
  rw [Node.events, within, List.cons_append, List.cons_append, List.append_assoc]
  simp only [Part.tag, Markdown.fencedBlocks, hcode, hinner]
  rfl

end IsCode

/-! ## The lines of fenced code -/

/-- A line without a carriage return is kept in one piece. -/
theorem isCode_keptLine_of_notMem {p : Place} {body ending more : List Char}
    (h : InLine p body ending more) (blanks : Nat) (hending : '\r' ∉ ending) :
    IsCode (keptLine blanks p p.nextLine .text) (List.replicate blanks ' ' ++ (body ++ ending)) := by
  have hwhole : p.rest = (body ++ ending) ++ more := by rw [h.rest, List.append_assoc]
  have hlength : p.nextLine.offset = p.offset + (body ++ ending).length := by rw [h.nextLine]
  have hreturn : '\r' ∉ body ++ ending := by
    intro hmem
    rcases List.mem_append.1 hmem with hmem | hmem
    · cases h.unbroken _ hmem
    · exact hending hmem
  -- The last two characters of the line do not begin with one either.
  have hdrop : ∀ t, p.rest.drop ((body ++ ending).length - 2) ≠ '\r' :: t := by
    intro t heq
    rw [hwhole, List.drop_append_of_le_length (Nat.sub_le _ 2)] at heq
    cases hlast : (body ++ ending).drop ((body ++ ending).length - 2) with
    | nil =>
      have hle := List.drop_eq_nil_iff.1 hlast
      have hempty : body ++ ending = [] := List.eq_nil_of_length_eq_zero (by omega)
      have hnone := (List.append_eq_nil_iff.1 hempty).2
      rw [hlast, List.nil_append] at heq
      cases h.ends with
      | last => cases heq
      | feed | returnFeed => cases hnone
    | cons c rest =>
      rw [hlast] at heq
      cases heq
      exact hreturn (List.mem_of_mem_drop (hlast ▸ List.mem_cons_self))
  rw [← h.upTo_nextLine]
  unfold keptLine
  simp only [hlength, Nat.add_sub_cancel_left]
  split
  · next heq => exact absurd heq (hdrop _)
  · exact (IsCode.blanks p blanks).append (.span p _)

/-- A carriage return in front of a line feed is left out. -/
theorem isCode_keptLine_returnFeed {p : Place} {body more : List Char}
    (h : InLine p body ['\r', '\n'] more) (blanks : Nat) :
    IsCode (keptLine blanks p p.nextLine .text) (List.replicate blanks ' ' ++ body ++ ['\n']) := by
  have hlength : p.nextLine.offset = p.offset + (body.length + 2) := by
    rw [h.nextLine, List.length_append]
    rfl
  have hdrop : p.rest.drop body.length = '\r' :: '\n' :: more := by
    rw [h.rest]
    exact List.drop_left
  have hbody : p.upTo (p.offset + body.length) = body := by
    rw [Place.upTo, Nat.add_sub_cancel_left, h.rest, List.take_left]
  have hfeed : (p.advance (body.length + 1)).upTo (p.offset + (body.length + 2)) = ['\n'] := by
    have hone : p.offset + (body.length + 2) - (p.offset + (body.length + 1)) = 1 := by omega
    have hrest : p.rest.drop (body.length + 1) = '\n' :: more := by
      rw [← List.drop_drop, hdrop]
      rfl
    rw [Place.upTo, Place.advance, hone, hrest]
    rfl
  -- The line is shown in two parts, and the carriage return between them is not.
  have hcode := ((IsCode.blanks p blanks).append (.span p (p.offset + body.length))).append
    (.span (p.advance (body.length + 1)) (p.offset + (body.length + 2)))
  rw [hbody, hfeed] at hcode
  unfold keptLine
  simp only [hlength, Nat.add_sub_cancel_left, Nat.add_sub_cancel, hdrop]
  exact hcode

/-- Code keeps a line with its line feed, and without a carriage return before that. -/
theorem isCode_keptLine {p : Place} {body ending more : List Char} (h : InLine p body ending more)
    (blanks : Nat) :
    IsCode (keptLine blanks p p.nextLine .text)
      (List.replicate blanks ' ' ++ body ++ ending.filter (· ≠ '\r')) := by
  cases hends : h.ends with
  | feed =>
    rw [List.append_assoc]
    exact isCode_keptLine_of_notMem h blanks (by decide)
  | last =>
    rw [List.append_assoc]
    exact isCode_keptLine_of_notMem h blanks List.not_mem_nil
  | returnFeed => exact isCode_keptLine_returnFeed h blanks

namespace FenceLine

/-- What of a line stands behind the blanks that the fence has as well. -/
def start (f : FenceLine) (body : List Char) : Cursor := ((atStart body).skip f.indent).2

/-- Whether a line ends the code behind a fence. Blanks at the end of a text do so, too. -/
def closes (f : FenceLine) (r : List Char) : Bool :=
  let (n, c) := (f.start (lineOf r)).skip (4 - f.indent)
  let s := c.place.rest
  n < 4 - f.indent && ((s.isEmpty && lineOf r = r) || closesFence f.mark f.length s)

/-- A line as a part of the code behind a fence. -/
def codeLine (f : FenceLine) (r : List Char) : List Char :=
  let c := f.start (lineOf r)
  List.replicate c.owed ' ' ++ c.place.rest ++ (r.drop (lineOf r).length).filter (· ≠ '\r')

theorem codeLine_append (f : FenceLine) {body ending more : List Char}
    (unbroken : ∀ c ∈ body, isBreak c = false) (ends : IsEnding ending more) :
    f.codeLine (body ++ ending) = List.replicate (f.start body).owed ' ' ++
      (f.start body).place.rest ++ ending.filter (· ≠ '\r') := by
  unfold codeLine
  simp only [lineOf_append unbroken ends, List.drop_left]

section

variable {p : Place} {body ending more : List Char}

/-- In a line the blanks that the fence has are passed as in the line alone. -/
theorem skip_indent (f : FenceLine) (h : InLine p body ending more) :
    (Cursor.skip { place := p } f.indent).2 = (f.start body).shift p.offset (ending ++ more) := by
  rw [h.skip]
  rfl

/-- Behind all blanks that may stand in front of a fence a place is still in its line. -/
theorem inLine_behind (f : FenceLine) (h : InLine p body ending more) :
    InLine (((f.start body).skip (4 - f.indent)).2.shift p.offset (ending ++ more)).place
      ((f.start body).skip (4 - f.indent)).2.place.rest ending more := by
  rcases Cursor.skip_rest (f.start body) (4 - f.indent) with ⟨front, hfront, -, -⟩
  rcases Cursor.skip_rest (atStart body) f.indent with ⟨blanks, hblanks, -, -⟩
  have hbody : body = (blanks ++ front) ++
      ((f.start body).skip (4 - f.indent)).2.place.rest := by
    rw [List.append_assoc, ← hfront]
    exact hblanks
  exact h.shift p.offset hbody

/-- Whether a line ends the code is told by what stands behind its blanks, be it in a text. -/
theorem closes_append (f : FenceLine) (h : InLine p body ending more) :
    (decide (((f.start body).skip (4 - f.indent)).1 < 4 - f.indent) &&
        ((((f.start body).skip (4 - f.indent)).2.place.rest ++ (ending ++ more)).isEmpty ||
          closesFence f.mark f.length ((f.start body).skip (4 - f.indent)).2.place.rest)) =
      f.closes (body ++ ending) := by
  have hend : (((f.start body).skip (4 - f.indent)).2.place.rest ++ (ending ++ more)).isEmpty =
      (((f.start body).skip (4 - f.indent)).2.place.rest.isEmpty &&
        decide (body = body ++ ending)) := by
    cases h.ends <;> simp
  unfold closes
  simp only [lineOf_append h.unbroken h.ends, hend]

/-- The end of a text ends the code. -/
theorem closes_nil {f : FenceLine} (hindent : f.indent < 4) : f.closes [] = true := by
  have hskip : ∀ n, Cursor.skip (atStart []) n = (0, atStart []) := fun n => by cases n <;> rfl
  have hpos : 0 < 4 - f.indent := Nat.sub_pos_of_lt hindent
  have hempty : lineOf [] = [] := rfl
  unfold closes start
  simp only [hempty, hskip, hpos, decide_true, Bool.true_and]
  rfl

end

end FenceLine

/-- The fenced code in lines with its languages, given the fence that is open before them and the
code behind it. -/
def fencedCode : Option (FenceLine × List Char) → List (List Char) → List (Option String × String)
  | none, [] => []
  | some (f, code), [] => [(f.language, String.ofList code)]
  | none, r :: rs => fencedCode ((fenceLine? (lineOf r)).map fun f => (f, [])) rs
  | some (f, code), r :: rs =>
    if f.closes r then (f.language, String.ofList code) :: fencedCode none rs
    else fencedCode (some (f, code ++ f.codeLine r)) rs

/-- Whether the lines of a text outside of fences are plain, given the fence that is open before
them. A carriage return stands only before a line feed. -/
def isFlat : Option FenceLine → List (List Char) → Bool
  | _, [] => true
  | none, r :: rs =>
    lineOf r = Text.withoutEnding r && ((fenceLine? (lineOf r)).isSome || isPlain (lineOf r)) &&
      isFlat (fenceLine? (lineOf r)) rs
  | some f, r :: rs =>
    lineOf r = Text.withoutEnding r && isFlat (if f.closes r then none else some f) rs

/-- Fenced code with its text, and the lines behind it. `code` has been read before. -/
inductive FenceLine.Encloses (f : FenceLine) :
    (code : List Char) → (rs : List (List Char)) → (text : List Char) → (rest : List (List Char)) →
      Prop
  | last (code : List Char) : Encloses f code [] code []
  | closed (code : List Char) {r : List Char} (rs : List (List Char)) (h : f.closes r = true) :
      Encloses f code (r :: rs) code rs
  | line {code text r : List Char} {rs rest : List (List Char)} (h : f.closes r = false)
      (hrest : Encloses f (code ++ f.codeLine r) rs text rest) : Encloses f code (r :: rs) text rest

namespace FenceLine.Encloses

variable {f : FenceLine} {code text : List Char} {rs rest : List (List Char)}

theorem fencedCode (h : f.Encloses code rs text rest) :
    fencedCode (some (f, code)) rs =
      (f.language, String.ofList text) :: Markdown.fencedCode none rest := by
  induction h with
  | last code => rfl
  | closed code rs h => rw [Markdown.fencedCode, if_pos h]
  | line h _ ih => rw [Markdown.fencedCode, h, if_neg Bool.false_ne_true, ih]

theorem records (h : f.Encloses code rs text rest) (hrs : AreRecords rs) : AreRecords rest := by
  induction h with
  | last => exact hrs
  | closed => cases hrs with | cons _ _ _ hrest => exact hrest
  | line _ _ ih => cases hrs with | cons _ _ _ hrest => exact ih hrest

theorem isFlat (h : f.Encloses code rs text rest) (hflat : isFlat (some f) rs = true) :
    isFlat none rest = true := by
  induction h with
  | last => rfl
  | closed code rs h =>
    rw [Markdown.isFlat, h, if_pos rfl, Bool.and_eq_true] at hflat
    exact hflat.2
  | line h _ ih =>
    rw [Markdown.isFlat, h, if_neg Bool.false_ne_true, Bool.and_eq_true] at hflat
    exact ih hflat.2

theorem length_le (h : f.Encloses code rs text rest) : rest.length ≤ rs.length := by
  induction h with
  | last => exact Nat.le_refl 0
  | closed => exact Nat.le_succ _
  | line _ _ ih => exact Nat.le_succ_of_le ih

end FenceLine.Encloses

namespace Passed

variable {rs rest : List (List Char)}

theorem fencedCode (h : Passed rs rest) : fencedCode none rs = Markdown.fencedCode none rest := by
  induction h with
  | refl => rfl
  | step hr _ ih => rw [Markdown.fencedCode, hr, Option.map_none, ih]

theorem records (h : Passed rs rest) (hrs : AreRecords rs) : AreRecords rest := by
  induction h with
  | refl => exact hrs
  | step _ _ ih => cases hrs with | cons _ _ _ hrest => exact ih hrest

theorem isFlat (h : Passed rs rest) (hflat : isFlat none rs = true) : isFlat none rest = true := by
  induction h with
  | refl => exact hflat
  | step hr _ ih =>
    rw [Markdown.isFlat, hr, Bool.and_eq_true] at hflat
    exact ih hflat.2

theorem length_le (h : Passed rs rest) : rest.length ≤ rs.length := by
  induction h with
  | refl => exact Nat.le_refl _
  | step _ _ ih => exact Nat.le_succ_of_le ih

end Passed

/-! ## Reading fenced code -/

namespace Outline

variable {o : Outline} {p : Place} {body ending : List Char} {rs : List (List Char)} {fuel : Nat}

/-- One line behind a fence ends the code, or it is kept behind the blanks of the fence. -/
theorem fencedLines_line (ho : o.Flat) (f : FenceLine) (fuel : Nat) (lines : List (List Node))
    (h : InLine p body ending more) :
    (f.closes (body ++ ending) = true →
      (o.fencedLines f.mark f.length f.indent (fuel + 1) lines p).1 = lines ∧
        (o.fencedLines f.mark f.length f.indent (fuel + 1) lines p).2.2.rest = more) ∧
    (f.closes (body ++ ending) = false →
      ∃ q, InLine q (f.start body).place.rest ending more ∧
        o.fencedLines f.mark f.length f.indent (fuel + 1) lines p =
          o.fencedLines f.mark f.length f.indent fuel
            (keptLine (f.start body).owed q q.nextLine .text :: lines) q.nextLine) := by
  have hstart := h.afterSkip f.indent
  have hbehind := f.inLine_behind h
  have hskip := Cursor.skip_shift h.stops p.offset (f.start body) (4 - f.indent)
  have hbelow := hbehind.line
  have hrest := hbehind.rest
  have hcloses := f.closes_append h
  rw [f.skip_indent h] at hstart
  generalize hread : o.fencedLines f.mark f.length f.indent (fuel + 1) lines p = read
  -- The line is passed in the same way as when it stands alone.
  rw [fencedLines] at hread
  simp only [within_flat ho, Bool.not_true, Bool.false_eq_true, if_false, f.skip_indent h, hskip,
    Cursor.line, hbelow, hrest, hcloses] at hread
  refine ⟨fun hclosed => ?_, fun hopen => ⟨_, hstart, ?_⟩⟩
  · have hafter := hbehind.afterLine
    rw [hbelow] at hafter
    rw [hclosed, if_pos rfl, hafter] at hread
    rw [← hread]
    exact ⟨rfl, rfl⟩
  · rw [hopen, if_neg Bool.false_ne_true] at hread
    exact hread.symm

/-- The lines of fenced code are those up to the line that ends it. -/
theorem fencedLines_reads (ho : o.Flat) {f : FenceLine} (hindent : f.indent < 4)
    {lines : List (List Node)} {code : List Char} (hlines : IsCode lines.reverse.flatten code)
    (hrs : AreRecords rs) (hp : p.rest = rs.flatten) (hfuel : rs.length < fuel) :
    ∃ text rest, f.Encloses code rs text rest ∧
      IsCode (o.fencedLines f.mark f.length f.indent fuel lines p).1.reverse.flatten text ∧
        (o.fencedLines f.mark f.length f.indent fuel lines p).2.2.rest = rest.flatten := by
  -- The nodes that have been gathered show the code up to here (`hlines`), line after line.
  induction fuel generalizing rs p lines code with
  | zero => exact absurd hfuel (Nat.not_lt_zero _)
  | succ fuel ih =>
    rcases hrs.inLine hp with ⟨rfl, hline⟩ | ⟨body, ending, rest, rfl, hline, -, hrest⟩
    · rcases (fencedLines_line ho f fuel lines hline).1 (FenceLine.closes_nil hindent)
        with ⟨hkept, hend⟩
      exact ⟨code, [], .last code, hkept.symm ▸ hlines, hend⟩
    · rcases fencedLines_line ho f fuel lines hline with ⟨hclosed, hopen⟩
      cases hcloses : f.closes (body ++ ending) with
      | true =>
        rcases hclosed hcloses with ⟨hkept, hend⟩
        exact ⟨code, rest, .closed code rest hcloses, hkept.symm ▸ hlines, hend⟩
      | false =>
        rcases hopen hcloses with ⟨q, hq, heq⟩
        have hcode := f.codeLine_append hline.unbroken hline.ends
        have hmore := hlines.append (hcode ▸ isCode_keptLine hq (f.start body).owed)
        rw [← List.flatten_concat, ← List.reverse_cons] at hmore
        have hnext := congrArg Place.rest hq.nextLine
        rcases ih hmore hrest hnext (Nat.lt_of_succ_lt_succ hfuel)
          with ⟨text, left, hencloses, htext, hreach⟩
        rw [heq]
        exact ⟨text, left, .line hcloses hencloses, htext, hreach⟩

/-- A fence begins fenced code and nothing else. -/
theorem begin_eq_readFenced {more : List Char} (o : Outline) (h : InLine p body ending more)
    {f : FenceLine} (hfence : fenceLine? body = some f) :
    o.begin { place := p } =
      (o.finishList (Cursor.skip { place := p } 4).2.place.offset).readFenced
        (Cursor.skip { place := p } 4).2.place f.indent f.mark f.length := by
  rcases opens_of_fenceLine? hfence with ⟨hindent, hopens⟩
  rcases hopens.eq_run with ⟨tail, htail, hmark, -⟩
  have htext : body.dropWhile isSpace ≠ [] := by
    intro hall
    rcases Cursor.skip_rest (atStart body) 4 with ⟨front, hfront, -, -⟩
    have hbody : body = front ++ f.mark :: tail := htail ▸ hfront
    have hmem : f.mark ∈ body := hbody ▸ List.mem_append_right front List.mem_cons_self
    have hspace := List.dropWhile_eq_nil_iff.1 hall f.mark hmem
    rcases hmark with hmark | hmark <;> rw [hmark] at hspace <;> cases hspace
  -- The mark tells a fence from a tag, a rule and a heading.
  have htag : ((atStart body).skip 4).2.place.rest.head? ≠ some '<' := by
    rw [htail]
    rcases hmark with hmark | hmark <;> simp [hmark]
  have hrule : isRule ((atStart body).skip 4).2.place.rest = false := by
    rw [htail]
    rcases hmark with hmark | hmark <;> rw [hmark] <;> rfl
  have hheading : headingLevel? ((atStart body).skip 4).2.place.rest = none := by
    rw [htail]
    rcases hmark with hmark | hmark <;> rw [hmark] <;> rfl
  have hbegins := begins_begin o h htext (hindent ▸ hopens.shallow) htag
  rw [← hindent] at hbegins
  generalize o.begin { place := p } = r at hbegins ⊢
  cases hbegins with
  | rule h => cases hrule.symm.trans h
  | heading h => cases hheading.symm.trans h
  | fenced h =>
    cases hopens.opens.symm.trans h
    rfl
  | text h => cases hopens.opens.symm.trans h

/-- Fenced code is told with the language that stands behind its fence. -/
theorem readFenced_reads (ho : o.Flat) {s : List Char} (h : InLine p s ending rs.flatten)
    (hrs : AreRecords rs) (hsize : rs.length ≤ o.size) {f : FenceLine} (hopens : f.Opens s) :
    ∃ n text rest, f.Encloses [] rs text rest ∧
      o.Gains [n] (o.readFenced p f.indent f.mark f.length).1 ∧
        (o.readFenced p f.indent f.mark f.length).2.rest = rest.flatten ∧
          ∀ l es, fencedBlocks ((n.resolved l []).events ++ es) =
            (f.language, String.ofList text) :: fencedBlocks es := by
  rcases hopens.eq_run with ⟨-, -, -, hrun, -⟩
  have hlength : (s.take f.length).length = f.length := by
    refine List.length_take_of_le ?_
    rw [hrun]
    exact (List.takeWhile_sublist _).length_le
  have hmarks := h.advance (List.take_append_drop f.length s).symm
  rw [hlength] at hmarks
  have hinfo := hmarks.skipWhile fun c => isSpace_eq_false_of_isBreak
  have hnext := congrArg Place.rest hinfo.nextLine
  have hnone : IsCode ([] : List (List Node)).reverse.flatten [] := .nil
  rcases fencedLines_reads ho hopens.shallow hnone hrs hnext (Nat.lt_succ_of_le hsize)
    with ⟨text, rest, hencloses, hcode, hreach⟩
  unfold readFenced
  simp only [hinfo.upTo_nextLine, dropBack_ending hinfo.ends]
  refine ⟨_, text, rest, hencloses, gains_add ho _, hreach, fun l es => ?_⟩
  rw [hopens.language]
  exact hcode.fencedBlocks l _ _ es

/-- The block of fenced code that a fence begins. -/
theorem begin_fence (ho : o.Flat) (h : InLine p body ending rs.flatten) (hrs : AreRecords rs)
    (hsize : rs.length ≤ o.size) {f : FenceLine} (hfence : fenceLine? body = some f) :
    ∃ n text rest, f.Encloses [] rs text rest ∧ o.Gains [n] (o.begin { place := p }).1 ∧
      (o.begin { place := p }).2.rest = rest.flatten ∧
        ∀ l es, fencedBlocks ((n.resolved l []).events ++ es) =
          (f.language, String.ofList text) :: fencedBlocks es := by
  have hgain := gains_finishList ho (Cursor.skip { place := p } 4).2.place.offset
  rcases readFenced_reads hgain.flat (h.afterSkip 4) hrs (hgain.size.symm ▸ hsize)
    (opens_of_fenceLine? hfence).2 with ⟨n, text, rest, hencloses, hmore, hreach, htells⟩
  rw [begin_eq_readFenced o h hfence]
  exact ⟨n, text, rest, hencloses, hgain.trans hmore, hreach, htells⟩

/-! ## Flat texts -/

/-- What nodes tell of fenced code, once running text has been read. -/
def Tells (ns : List Node) (code : List (Option String × String)) : Prop :=
  ∀ l es, fencedBlocks (Node.allEvents (Node.allResolved l [] ns) ++ es) = code ++ fencedBlocks es

theorem Tells.append {ns ms : List Node} {code more : List (Option String × String)}
    (h : Tells ns code) (h' : Tells ms more) : Tells (ns ++ ms) (code ++ more) := by
  intro l es
  rw [allResolved_append, allEvents_append, List.append_assoc, h, h', List.append_assoc]

theorem tells_of_allUnfenced {ns : List Node} (h : All Node.Unfenced ns) : Tells ns [] := by
  intro l es
  rw [allResolved_eq_map]
  refine fencedBlocks_allEvents (fun m hm => ?_) es
  rcases List.mem_map.1 hm with ⟨n, hn, rfl⟩
  exact (Node.resolved_unfenced (h n hn) []).fencedBlocks

/-- What the block at the start of some lines has been read to: nodes that tell of the fenced code
in its lines, and the lines behind it. -/
structure ReadsBlock (o : Outline) (rs : List (List Char)) (r : Outline × Place) (ns : List Node)
    (code : List (Option String × String)) (rest : List (List Char)) : Prop where
  gains : o.Gains ns r.1
  reach : r.2.rest = rest.flatten
  records : AreRecords rest
  isFlat : isFlat none rest = true
  shorter : rest.length < rs.length
  tells : Tells ns code
  fencedCode : fencedCode none rs = code ++ Markdown.fencedCode none rest

/-- A plain line that is no fence begins a block without fenced code. -/
theorem begin_reads_plain (ho : o.Flat) (h : InLine p body ending rs.flatten)
    (hbody : lineOf (body ++ ending) = body) (hrs : AreRecords rs) (hsize : rs.length ≤ o.size)
    (hplain : isPlain body = true) (hfence : fenceLine? body = none)
    (hflat : Markdown.isFlat none rs = true) :
    ∃ ns code rest, ReadsBlock o ((body ++ ending) :: rs)
      (beginFrom (p.line.length + 1) o { place := p }) ns code rest := by
  have hstart := beginFrom_eq_begin o p.line.length h fun hshallow =>
    have hs := plainStart_of_isPlain hplain hshallow
    ⟨fun c hc => ⟨(hs.head c hc).1, (hs.head c hc).2.2⟩, hs.bullet⟩
  rcases begin_passes ho h hrs hsize hplain hfence with ⟨ns, rest, hns, hgain, hpassed, hreach⟩
  have hcode : Markdown.fencedCode none ((body ++ ending) :: rs) =
      [] ++ Markdown.fencedCode none rest := by
    rw [Markdown.fencedCode, hbody, hfence, Option.map_none, hpassed.fencedCode]
    rfl
  rw [hstart]
  exact ⟨ns, [], rest, hgain, hreach, hpassed.records hrs, hpassed.isFlat hflat,
    Nat.lt_succ_of_le hpassed.length_le, tells_of_allUnfenced hns, hcode⟩

/-- A fence begins a block that tells of its code. -/
theorem begin_reads_fence (ho : o.Flat) (h : InLine p body ending rs.flatten)
    (hbody : lineOf (body ++ ending) = body) (hrs : AreRecords rs) (hsize : rs.length ≤ o.size)
    {f : FenceLine} (hfence : fenceLine? body = some f)
    (hflat : Markdown.isFlat (some f) rs = true) :
    ∃ ns code rest, ReadsBlock o ((body ++ ending) :: rs)
      (beginFrom (p.line.length + 1) o { place := p }) ns code rest := by
  have hstart := beginFrom_eq_begin o p.line.length h fun _ => by
    rcases (opens_of_fenceLine? hfence).2.eq_run with ⟨tail, htail, hmark, -⟩
    rw [htail]
    rcases hmark with hmark | hmark <;> rw [hmark] <;> exact ⟨by simp, Or.inr rfl⟩
  rcases begin_fence ho h hrs hsize hfence with ⟨n, text, rest, hencloses, hgain, hreach, htells⟩
  have htold : Tells [n] [(f.language, String.ofList text)] := by
    intro l es
    rw [Node.allResolved, Node.allResolved, Node.allEvents, Node.allEvents, List.append_nil]
    exact htells l es
  have hcode : Markdown.fencedCode none ((body ++ ending) :: rs) =
      [(f.language, String.ofList text)] ++ Markdown.fencedCode none rest := by
    rw [Markdown.fencedCode, hbody, hfence, Option.map_some, hencloses.fencedCode]
    rfl
  rw [hstart]
  exact ⟨[n], _, rest, hgain, hreach, hencloses.records hrs, hencloses.isFlat hflat,
    Nat.lt_succ_of_le hencloses.length_le, htold, hcode⟩

/-- Each line of a flat text begins a block that tells of the fenced code in its lines. -/
theorem begin_reads (ho : o.Flat) (h : InLine p body ending rs.flatten)
    (hbody : lineOf (body ++ ending) = body) (hrs : AreRecords rs) (hsize : rs.length ≤ o.size)
    (hflat : Markdown.isFlat none ((body ++ ending) :: rs) = true) :
    ∃ ns code rest, ReadsBlock o ((body ++ ending) :: rs)
      (beginFrom (p.line.length + 1) o { place := p }) ns code rest := by
  rw [Markdown.isFlat, hbody, Bool.and_eq_true, Bool.and_eq_true] at hflat
  rcases hflat with ⟨⟨-, hstart⟩, hflat⟩
  cases hfence : fenceLine? body with
  | none =>
    rw [hfence] at hstart hflat
    exact begin_reads_plain ho h hbody hrs hsize hstart hfence hflat
  | some f =>
    rw [hfence] at hflat
    exact begin_reads_fence ho h hbody hrs hsize hfence hflat

/-- The blocks of a flat text hold the fenced code in its lines. -/
theorem readBlocks_tells (ho : o.Flat) (hrs : AreRecords rs) (hflat : isFlat none rs = true)
    (hsize : rs.length ≤ o.size) (hp : p.rest = rs.flatten) (hfuel : rs.length < fuel) :
    ∃ ns, (readBlocks fuel o p).body = ns.reverse ++ o.body ∧ Tells ns (fencedCode none rs) := by
  induction fuel generalizing rs o p with
  | zero => exact absurd hfuel (Nat.not_lt_zero _)
  | succ fuel ih =>
    have hgo : goOn o.spine { place := p } = (0, { place := p }) := by
      rw [spine, ho.frames]
      rfl
    unfold readBlocks
    simp only [hgo, popTo_flat ho]
    rcases hrs.inLine hp with ⟨rfl, -⟩ | ⟨body, ending, rs, rfl, hline, hbody, hrest⟩
    · have hempty : p.rest.isEmpty = true := by rw [hp]; rfl
      rw [if_pos hempty]
      exact ⟨[], rfl, fun _ _ => rfl⟩
    · have hempty : ¬p.rest.isEmpty = true := by
        intro hnone
        cases hrs.eq_nil (hp.symm.trans (List.isEmpty_iff.1 hnone))
      rw [if_neg hempty]
      rcases begin_reads ho hline hbody hrest (Nat.le_of_succ_le hsize) hflat
        with ⟨ns, code, rest, hread⟩
      -- What is left has fewer lines and is read in the same way.
      have hleft := hread.shorter.le
      rcases ih hread.gains.flat hread.records hread.isFlat
        (hread.gains.size.symm ▸ hleft.trans hsize) hread.reach
        (Nat.lt_of_lt_of_le hread.shorter (Nat.le_of_lt_succ hfuel)) with ⟨ms, hms, hmore⟩
      refine ⟨ns ++ ms, ?_, hread.fencedCode ▸ hread.tells.append hmore⟩
      rw [hms, hread.gains.body, List.reverse_append, List.append_assoc]

end Outline

/-- The fenced code in a flat text is told by its lines. -/
theorem fencedBlocks_events {rs : List (List Char)} (hrs : AreRecords rs)
    (hflat : isFlat none rs = true) : fencedBlocks (events rs.flatten) = fencedCode none rs := by
  have hlength := hrs.length_le
  have hfuel : rs.length < rs.flatten.length + 1 := Nat.lt_succ_of_le hlength
  rcases Outline.readBlocks_tells (o := { size := rs.flatten.length }) (p := .start rs.flatten)
    ⟨rfl, rfl⟩ hrs hflat hlength rfl hfuel with ⟨ns, hbody, htells⟩
  have hnodes : (Outline.ofText rs.flatten).body.reverse = ns := by
    rw [Outline.ofText, hbody, List.append_nil, List.reverse_reverse]
  have hall := htells ⟨(Outline.ofText rs.flatten).definitions.reverse,
    (Outline.ofText rs.flatten).footnotes⟩ []
  rw [List.append_nil] at hall
  rw [events, blocks]
  simp only [hnodes]
  rw [hall]
  exact List.append_nil _

end Markdown
end StaticBlog
