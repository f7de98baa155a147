import StaticBlog.Markdown.Page
import StaticBlog.Proofs.Toc.Anchors

/-!
# The headings of a page and their table

- `Nested` : the streams of events in which every part ends where it has to
- `showCode` : a stream with each block of code as the HTML that shows it
- `Nested.alternates` : the headings of such a stream do not overlap
- `headings` : the headings of a stream that belong in the table, with their texts
- `anchored` : a stream as it stands on the page
- `prepare_eq` : preparing a stream anchors its headings
- `heading_table_matches_page` : the table of a page has its headings, and little else is changed
-/

namespace StaticBlog
namespace Markdown

/-! ## Events -/

def Tag.isHeading : Tag → Bool
  | .heading _ _ => true
  | _ => false

namespace Event

/-- Whether a part neither begins nor ends here. -/
def isLeaf : Event → Bool
  | .enter _ | .leave _ => false
  | _ => true

def endsHeading : Event → Bool
  | .leave tag => tag.isHeading
  | _ => false

/-- The level and the anchor of a heading that belongs in the table. -/
def listed? : Event → Option (Nat × Option String)
  | .enter (.heading level anchor) =>
    if level = 2 || level = 3 then some (level, anchor) else none
  | _ => none

/-- What an event adds to the text of the heading it stands in. -/
def textInHeading : Event → List Char
  | .text s | .code s => s
  | .softBreak | .hardBreak => [' ']
  | _ => []

/-- An event as it stands on a page, where every line break counts. -/
def hardened : Event → Event
  | .softBreak => .hardBreak
  | e => e

/-- A heading of the table without its anchor; any other event as it is. -/
def bare (e : Event) : Event :=
  match e.listed? with
  | some (level, _) => .enter (.heading level none)
  | none => e

theorem bare_of_listed? {e : Event} (h : e.listed? = none) : e.bare = e := by
  rw [bare, h]

/-- Whether an event neither begins nor ends a heading and begins no code. -/
def isPlain : Event → Bool
  | .enter (.code _) => false
  | .enter tag | .leave tag => !tag.isHeading
  | _ => true

theorem eq_enter_of_listed? {e : Event} {level : Nat} {anchor : Option String}
    (h : e.listed? = some (level, anchor)) :
    e = .enter (.heading level anchor) ∧ (level = 2 || level = 3) = true := by
  unfold listed? at h
  split at h
  · split at h
    · next hlevel =>
      cases h
      exact ⟨rfl, hlevel⟩
    · cases h
  · cases h

theorem listed?_heading {level : Nat} (h : (level = 2 || level = 3) = true)
    (anchor : Option String) :
    (enter (.heading level anchor)).listed? = some (level, anchor) := by
  rw [listed?, if_pos h]

theorem listed?_hardened {e : Event} (h : e.listed? = none) : e.hardened.listed? = none := by
  cases e with
  | enter tag => exact h
  | _ => rfl

/-- A heading that does not belong in the table is changed by nothing. -/
theorem eq_enter_of_bare {e : Event} {tag : Tag} (htag : (enter tag).listed? = none)
    (h : e.hardened.bare = enter tag) : e = enter tag := by
  cases hlisted : e.listed? with
  | some heading =>
    rcases heading with ⟨level, anchor⟩
    obtain ⟨rfl, hlevel⟩ := eq_enter_of_listed? hlisted
    have hbare : (enter (.heading level anchor)).bare = enter (.heading level none) := by
      rw [bare, hlisted]
    rw [← h, hardened, hbare, listed?_heading hlevel] at htag
    · cases htag
    · simp
  | none =>
    rw [bare_of_listed? (listed?_hardened hlisted)] at h
    cases e <;> first | exact h | cases h

theorem listed?_of_isPlain {e : Event} (h : e.isPlain = true) : e.listed? = none := by
  cases e with
  | enter tag =>
    cases tag with
    | heading level anchor => cases h
    | _ => rfl
  | _ => rfl

theorem endsHeading_of_isPlain {e : Event} (h : e.isPlain = true) : e.endsHeading = false := by
  cases e with
  | leave tag => simpa [isPlain, endsHeading] using h
  | _ => rfl

end Event

/-! ## Streams -/

/-- Streams in which every part ends where it has to, inside the parts that are open, the innermost
one first. No heading begins inside another one. -/
inductive Nested : (inside : List Tag) → List Event → Prop
  | done : Nested [] []
  | enter {tag : Tag} {inside : List Tag} {es : List Event}
      (hheading : tag.isHeading = true → ∀ t ∈ inside, t.isHeading = false)
      (rest : Nested (tag :: inside) es) : Nested inside (.enter tag :: es)
  | leave {tag : Tag} {inside : List Tag} {es : List Event} (rest : Nested inside es) :
      Nested (tag :: inside) (.leave tag :: es)
  | leaf {e : Event} {inside : List Tag} {es : List Event} (hleaf : e.isLeaf = true)
      (rest : Nested inside es) : Nested inside (e :: es)

/-- A stream with each block of code as the HTML that shows it. In a block, of which the language
and the text so far are given, only text counts. -/
def showCode (r : Renderer) : (block : Option (Option String × List Char)) → List Event →
    List Event
  | _, [] => []
  | none, e :: es =>
    match e with
    | .enter (.code info) => showCode r (some (languageOf info, [])) es
    | e => e :: showCode r none es
  | some (language, code), e :: es =>
    match e with
    | .text s => showCode r (some (language, code ++ s)) es
    | .leave (.code _) => .html (r.codeHtml language code) :: showCode r none es
    | _ => showCode r (some (language, code)) es

/-- The text up to the end of a heading. -/
def headingText (es : List Event) : List Char :=
  (es.takeWhile (!·.endsHeading)).flatMap Event.textInHeading

/-- The headings of a stream that belong in the table, with their levels and texts. -/
def headings : List Event → List (Nat × List Char)
  | [] => []
  | e :: es =>
    match e.listed? with
    | some (level, _) => (level, headingText es) :: headings es
    | none => headings es

/-- A stream as it stands on the page, each heading of the table with the anchor it gets there. -/
def anchored (b : TocBuilder) : List Event → List Event
  | [] => []
  | e :: es =>
    match e.listed? with
    | some (level, _) =>
      let b := b.push level (String.ofList (headingText es))
      .enter (.heading level (some b.lastId)) :: anchored b es
    | none => e.hardened :: anchored b es

/-- Streams of which the headings do not overlap, and without code. A heading of the table may be
open. -/
inductive Alternates : (isOpen : Bool) → List Event → Prop
  | done : Alternates false []
  | begins {level : Nat} {anchor : Option String} {es : List Event}
      (rest : Alternates (level = 2 || level = 3) es) :
      Alternates false (.enter (.heading level anchor) :: es)
  | ends {level : Nat} {anchor : Option String} {isOpen : Bool} {es : List Event}
      (rest : Alternates false es) : Alternates isOpen (.leave (.heading level anchor) :: es)
  | plain {e : Event} {isOpen : Bool} {es : List Event} (hplain : e.isPlain = true)
      (rest : Alternates isOpen es) : Alternates isOpen (e :: es)

/-! ## Code -/

section Code

theorem showCode_cons_of_ne {r : Renderer} {e : Event} {es : List Event}
    (he : ∀ info, e ≠ .enter (.code info)) :
    showCode r none (e :: es) = e :: showCode r none es := by
  cases e with
  | enter tag =>
    cases tag with
    | code info => exact absurd rfl (he info)
    | _ => rfl
  | _ => rfl

variable {r : Renderer} {inside : List Tag} {es : List Event}

/-- Showing code begins no part. -/
theorem mem_of_enter_mem_showCode {tag : Tag} {block : Option (Option String × List Char)}
    (h : .enter tag ∈ showCode r block es) : .enter tag ∈ es := by
  fun_induction showCode r block es
  case case1 => cases h
  case case2 ih | case4 ih | case6 ih => exact List.mem_cons_of_mem _ (ih h)
  case case3 ih =>
    rcases List.mem_cons.1 h with rfl | h
    · exact List.mem_cons_self
    · exact List.mem_cons_of_mem _ (ih h)
  case case5 ih =>
    rcases List.mem_cons.1 h with h | h
    · cases h
    · exact List.mem_cons_of_mem _ (ih h)

/-- Whether a heading may be open around a place: one of the open parts is a heading, and not one in
the block of code that is open. -/
def HeadingAround (inside : List Tag) (inCode : Bool) : Prop :=
  if inCode then ∃ inner info outer, inside = inner ++ .code info :: outer ∧
    ∃ t ∈ outer, t.isHeading = true
  else ∃ t ∈ inside, t.isHeading = true

theorem HeadingAround.enter (tag : Tag) {inCode : Bool} (h : HeadingAround inside inCode) :
    HeadingAround (tag :: inside) inCode := by
  cases inCode with
  | true =>
    obtain ⟨inner, info, outer, rfl, hheading⟩ := h
    exact ⟨tag :: inner, info, outer, rfl, hheading⟩
  | false =>
    obtain ⟨t, ht, hheading⟩ := h
    exact ⟨t, List.mem_cons_of_mem tag ht, hheading⟩

theorem HeadingAround.enterCode {info : Option (List Char)} (h : HeadingAround inside false) :
    HeadingAround (.code info :: inside) true :=
  ⟨[], info, inside, rfl, h⟩

theorem HeadingAround.leave {tag : Tag} (htag : tag.isHeading = false)
    (h : HeadingAround (tag :: inside) false) : HeadingAround inside false := by
  obtain ⟨t, ht, hheading⟩ := h
  rcases List.mem_cons.1 ht with rfl | ht
  · rw [htag] at hheading
    cases hheading
  · exact ⟨t, ht, hheading⟩

theorem HeadingAround.leaveCode {info : Option (List Char)}
    (h : HeadingAround (.code info :: inside) true) : HeadingAround inside false := by
  obtain ⟨inner, _, outer, heq, t, ht, hheading⟩ := h
  refine ⟨t, ?_, hheading⟩
  cases inner with
  | nil =>
    cases heq
    exact ht
  | cons _ inner =>
    cases heq
    simp [ht]

theorem HeadingAround.leaveInner {tag : Tag} (htag : ∀ info, tag ≠ .code info)
    (h : HeadingAround (tag :: inside) true) : HeadingAround inside true := by
  obtain ⟨inner, info, outer, heq, hheading⟩ := h
  cases inner with
  | nil =>
    cases heq
    exact absurd rfl (htag info)
  | cons _ inner =>
    cases heq
    exact ⟨inner, info, outer, rfl, hheading⟩

/-- With its code shown, a stream of nested parts has headings that do not overlap. -/
theorem Nested.alternates (h : Nested inside es) {block : Option (Option String × List Char)}
    {isOpen : Bool} (hopen : isOpen = true → HeadingAround inside block.isSome) :
    Alternates isOpen (showCode r block es) := by
  induction h generalizing block isOpen with
  | done =>
    cases isOpen with
    | false =>
      cases block <;> exact .done
    | true =>
      -- Nothing is open around the end of a stream.
      have haround := hopen rfl
      cases block <;> simp [HeadingAround] at haround
  | @enter tag inside es hheading rest ih =>
    cases block with
    | some block => exact ih fun h => (hopen h).enter tag
    | none =>
      cases tag with
      | code info => exact ih fun h => (hopen h).enterCode
      | heading level anchor =>
        have hclosed : isOpen = false := by
          cases isOpen with
          | false => rfl
          | true =>
            obtain ⟨t, ht, h⟩ := hopen rfl
            simp [hheading rfl t ht] at h
        subst hclosed
        exact .begins (ih fun _ => ⟨_, List.mem_cons_self, rfl⟩)
      | _ => exact .plain rfl (ih fun h => (hopen h).enter _)
  | @leave tag inside es rest ih =>
    cases block with
    | some block =>
      cases tag with
      | code info => exact .plain rfl (ih fun h => (hopen h).leaveCode)
      | _ => exact ih fun h => (hopen h).leaveInner (by simp)
    | none =>
      cases tag with
      | heading level anchor => exact .ends (ih fun h => by cases h)
      | _ => exact .plain rfl (ih fun h => (hopen h).leave rfl)
  | @leaf e inside es hleaf rest ih =>
    cases block with
    | some block =>
      cases e with
      | enter tag => cases hleaf
      | leave tag => cases hleaf
      | _ => exact ih hopen
    | none =>
      cases e with
      | enter tag => cases hleaf
      | leave tag => cases hleaf
      | _ => exact .plain rfl (ih hopen)

namespace Preparation

variable {p : Preparation} {e : Event}

theorem code_emit (p : Preparation) (e : Event) : (p.emit e).code = p.code := by
  unfold emit
  split <;> rfl

theorem code_closeHeading (p : Preparation) (tag : Tag) : (p.closeHeading tag).code = p.code := by
  unfold closeHeading
  split
  · rfl
  · exact code_emit p _

theorem note_nil (p : Preparation) : p.note [] = p := by
  rcases p with ⟨ready, toc, heading, code⟩
  cases heading <;> simp [note]

theorem eq_of_code_eq_none {p : Preparation} (h : p.code = none) : { p with code := none } = p := by
  rw [← h]

/-- What an ordinary event does: a heading that is open notes its text. -/
theorem stepOutside_of_isPlain (he : e.isPlain = true) (p : Preparation) :
    p.stepOutside e = (p.note e.textInHeading).emit e.hardened := by
  cases e with
  | enter tag =>
    cases tag with
    | code info => cases he
    | heading level anchor => cases he
    | _ => exact congrArg (emit · _) (note_nil p).symm
  | leave tag =>
    cases tag with
    | heading level anchor => cases he
    | _ => exact congrArg (emit · _) (note_nil p).symm
  | text s => rfl
  | code s => rfl
  | softBreak => rfl
  | hardBreak => rfl
  | _ => exact congrArg (emit · _) (note_nil p).symm

theorem code_stepOutside (he : ∀ info, e ≠ .enter (.code info)) (p : Preparation) :
    (p.stepOutside e).code = p.code := by
  by_cases hplain : e.isPlain = true
  · rw [stepOutside_of_isPlain hplain, code_emit]
    rfl
  · cases e with
    | enter tag =>
      cases tag with
      | code info => exact absurd rfl (he info)
      | heading level anchor =>
        simp only [stepOutside]
        split
        · rfl
        · exact code_emit _ _
      | _ => exact absurd rfl hplain
    | leave tag =>
      cases tag with
      | heading level anchor => exact code_closeHeading _ _
      | _ => exact absurd rfl hplain
    | _ => exact absurd rfl hplain

end Preparation

/-- Code is shown in the same way before a stream is prepared as on the way. -/
theorem foldl_step_showCode (es : List Event) (p : Preparation) :
    { es.foldl (Preparation.step r) p with code := none } =
      (showCode r (p.code.map fun c => (c.1, c.2.reverse.flatten)) es).foldl
        Preparation.stepOutside { p with code := none } := by
  -- Within code both gather texts, and elsewhere both take the same step.
  induction es generalizing p with
  | nil => cases p.code <;> rfl
  | cons e es ih =>
    rw [List.foldl_cons, ih]
    rcases p with ⟨ready, toc, heading, code⟩
    cases code with
    | some block =>
      rcases block with ⟨language, lines⟩
      cases e with
      | text s =>
        have hlines : (s :: lines).reverse.flatten = lines.reverse.flatten ++ s := by simp
        exact congrArg (fun code => (showCode r (some (language, code)) es).foldl
          Preparation.stepOutside ⟨ready, toc, heading, none⟩) hlines
      | leave tag =>
        cases tag with
        | code info => cases heading <;> rfl
        | _ => rfl
      | _ => rfl
    | none =>
      have hstep : Preparation.step r ⟨ready, toc, heading, none⟩ e =
          Preparation.stepOutside ⟨ready, toc, heading, none⟩ e := rfl
      rw [hstep]
      by_cases he : ∃ info, e = .enter (.code info)
      · obtain ⟨info, rfl⟩ := he
        rfl
      · have hcode : (Preparation.stepOutside ⟨ready, toc, heading, none⟩ e).code = none :=
          Preparation.code_stepOutside (fun info h => he ⟨info, h⟩) _
        rw [hcode, Preparation.eq_of_code_eq_none hcode, Option.map_none,
          showCode_cons_of_ne fun info h => he ⟨info, h⟩, List.foldl_cons]

end Code

/-! ## Anchors -/

namespace Preparation

variable {es : List Event} {p : Preparation} {e : Event} {isOpen : Bool}

/-- The table of a page when the heading that is open ends where the next one does. -/
def closingToc (p : Preparation) (es : List Event) : TocBuilder :=
  match p.heading with
  | some h => p.toc.push h.level (String.ofList (h.text ++ headingText es))
  | none => p.toc

/-- What stands on a page so far when the heading that is open ends where the next one does. -/
def closingFront (p : Preparation) (es : List Event) : List Event :=
  match p.heading with
  | some h => (begun h (some (p.closingToc es).lastId) ++ p.ready).reverse
  | none => p.ready.reverse

theorem headingText_cons (he : e.isPlain = true) (es : List Event) :
    headingText (e :: es) = e.textInHeading ++ headingText es := by
  simp [headingText, Event.endsHeading_of_isPlain he]

theorem closingToc_emit (p : Preparation) (e : Event) :
    (p.emit e).closingToc es = p.closingToc es := by
  unfold emit closingToc
  cases p.heading <;> simp

theorem closingFront_emit (p : Preparation) (e : Event) :
    (p.emit e).closingFront es = p.closingFront es ++ [e] := by
  rw [closingFront, closingToc_emit]
  unfold emit closingFront
  cases p.heading <;> simp [begun]

theorem closingToc_note (he : e.isPlain = true) (p : Preparation) :
    (p.note e.textInHeading).closingToc es = p.closingToc (e :: es) := by
  unfold note closingToc
  cases p.heading <;> simp [headingText_cons he]

theorem closingFront_note (he : e.isPlain = true) (p : Preparation) :
    (p.note e.textInHeading).closingFront es = p.closingFront (e :: es) := by
  rw [closingFront, closingToc_note he]
  unfold note closingFront
  cases p.heading <;> simp [begun]

/-- Preparing a stream completes the heading that is open, and anchors the headings that follow. -/
theorem finish_foldl_stepOutside (h : Alternates isOpen es) (hopen : isOpen = p.heading.isSome) :
    (es.foldl stepOutside p).toc = (p.closingToc es).pushAll (headings es) ∧
      (es.foldl stepOutside p).finish = p.closingFront es ++ anchored (p.closingToc es) es := by
  -- By the stream: outside of headings one begins, and within a heading it ends.
  induction h generalizing p with
  | done =>
    have hheading : p.heading = none := by simpa using hopen.symm
    simp [closingToc, closingFront, finish, hheading, headings, TocBuilder.pushAll, anchored]
  | @begins level anchor es rest ih =>
    obtain ⟨ready, toc, heading, code⟩ := p
    obtain rfl : heading = none := by simpa using hopen.symm
    cases hlisted : level = 2 || level = 3 with
    | true =>
      have hrest := ih (p := ⟨ready, toc, some { level }, code⟩) hlisted
      simpa [stepOutside, hlisted, closingToc, closingFront, begun, headings, anchored,
        Event.listed?, TocBuilder.pushAll] using hrest
    | false =>
      have hrest := ih (p := ⟨.enter (.heading level anchor) :: ready, toc, none, code⟩) hlisted
      simpa [stepOutside, emit, hlisted, closingToc, closingFront, headings, anchored,
        Event.listed?, Event.hardened] using hrest
  | @ends level anchor isOpen es rest ih =>
    obtain ⟨ready, toc, heading, code⟩ := p
    cases heading with
    | some h =>
      have hrest := ih (p := closeHeading ⟨ready, toc, some h, code⟩ (.heading level anchor)) rfl
      simpa [stepOutside, closeHeading, closingToc, closingFront, headings, anchored,
        Event.listed?, Event.hardened, headingText, Event.endsHeading, Tag.isHeading] using hrest
    | none =>
      have hrest := ih (p := ⟨.leave (.heading level anchor) :: ready, toc, none, code⟩) rfl
      simpa [stepOutside, closeHeading, emit, closingToc, closingFront, headings, anchored,
        Event.listed?, Event.hardened] using hrest
  | @plain e isOpen es hplain rest ih =>
    have hnone : e.listed? = none := Event.listed?_of_isPlain hplain
    have hopen' : isOpen = ((p.note e.textInHeading).emit e.hardened).heading.isSome := by
      rw [hopen]
      unfold emit note
      cases p.heading <;> rfl
    have hrest := ih hopen'
    rw [closingToc_emit, closingFront_emit, closingToc_note hplain,
      closingFront_note hplain] at hrest
    rw [List.foldl_cons, stepOutside_of_isPlain hplain]
    simpa [headings, anchored, hnone] using hrest

end Preparation

/-- The headings of the table get the anchors of its entries. -/
theorem listed_anchored (b : TocBuilder) (es : List Event) :
    (b.pushAll (headings es)).entries.map (fun e => (e.level, some e.id)) =
      b.entries.map (fun e => (e.level, some e.id)) ++ (anchored b es).filterMap Event.listed? := by
  induction es generalizing b with
  | nil => simp [headings, anchored, TocBuilder.pushAll]
  | cons e es ih =>
    cases hlisted : e.listed? with
    | none => simp [headings, anchored, hlisted, Event.listed?_hardened hlisted, ih]
    | some heading =>
      rcases heading with ⟨level, anchor⟩
      obtain ⟨-, hlevel⟩ := Event.eq_enter_of_listed? hlisted
      have hrest := ih (b.push level (String.ofList (headingText es)))
      rw [TocBuilder.entries_push] at hrest
      simp only [headings, anchored, hlisted, TocBuilder.pushAll_cons, hrest, List.map_append,
        List.map_cons, List.map_nil, List.filterMap_cons, Event.listed?_heading hlevel,
        List.append_assoc, List.singleton_append]

/-- Nothing but the anchors and the manner of line breaks is changed. -/
theorem bare_anchored (b : TocBuilder) (es : List Event) :
    (anchored b es).map Event.bare = es.map fun e => e.hardened.bare := by
  induction es generalizing b with
  | nil => rfl
  | cons e es ih =>
    cases hlisted : e.listed? with
    | none => simp [anchored, hlisted, ih]
    | some heading =>
      rcases heading with ⟨level, anchor⟩
      obtain ⟨rfl, hlevel⟩ := Event.eq_enter_of_listed? hlisted
      simp [anchored, hlisted, ih, Event.bare, Event.hardened, Event.listed?_heading hlevel]

/-! ## The page -/

/-- Where the highlighter does nothing else, a stream is prepared event by event. -/
theorem prepare_eq_foldl (r : Renderer) (es : List Event) :
    prepare r es = es.foldl (Preparation.step r) {} :=
  List.foldlM_pure (m := Id)

/-- Preparing a stream of nested parts shows its code and anchors its headings. -/
theorem prepare_eq {es : List Event} (h : Nested [] es) (r : Renderer) :
    (prepare r es).toc = TocBuilder.pushAll {} (headings (showCode r none es)) ∧
      (prepare r es).finish = anchored {} (showCode r none es) := by
  have hcode := foldl_step_showCode (r := r) es {}
  have halternates : Alternates false (showCode r none es) := h.alternates fun h => by cases h
  obtain ⟨htoc, hfinish⟩ := Preparation.finish_foldl_stepOutside (p := {}) halternates rfl
  rw [prepare_eq_foldl]
  exact ⟨(congrArg Preparation.toc hcode).trans htoc,
    (congrArg Preparation.finish hcode).trans hfinish⟩

/-- The headings of the second and third level on a page are the entries of its table: they have the
levels and the anchors of the entries, whose texts are those of the headings. Headings of other
levels get neither, and nothing else outside of code is changed but line breaks, which all count on
the page. -/
theorem heading_table_matches_page {es : List Event} (h : Nested [] es) (r : Renderer) :
    (prepare r es).finish.filterMap Event.listed? =
        (prepare r es).toc.entries.map (fun e => (e.level, some e.id)) ∧
      (prepare r es).toc.entries.map (fun e => (e.level, e.text)) =
        (headings (showCode r none es)).map (fun h => (h.1, String.ofList (Text.trim h.2))) ∧
      (prepare r es).toc.finish =
        (if headings (showCode r none es) = [] then none else some (prepare r es).toc.entries) ∧
      (∀ level anchor, .enter (.heading level anchor) ∈ (prepare r es).finish →
        level ≠ 2 → level ≠ 3 → .enter (.heading level anchor) ∈ es) ∧
      (prepare r es).finish.map Event.bare = (showCode r none es).map fun e => e.hardened.bare := by
  obtain ⟨htoc, hfinish⟩ := prepare_eq h r
  have hlisted := listed_anchored {} (showCode r none es)
  have htexts := TocBuilder.entries_pushAll {} (headings (showCode r none es))
  have hbare := bare_anchored {} (showCode r none es)
  rw [← htoc] at htexts
  rw [← htoc, ← hfinish] at hlisted
  rw [← hfinish] at hbare
  refine ⟨hlisted.symm, htexts, ?_, ?_, hbare⟩
  · have hempty : (prepare r es).toc.entries = [] ↔ headings (showCode r none es) = [] := by
      rw [← List.map_eq_nil_iff, htexts]
      simp
    simp only [TocBuilder.finish, List.isEmpty_iff, hempty]
  · intro level anchor hmem htwo hthree
    have hbeside : (Event.enter (.heading level anchor)).listed? = none := by
      simp [Event.listed?, htwo, hthree]
    have hkept : Event.bare _ ∈ (prepare r es).finish.map Event.bare := List.mem_map_of_mem hmem
    rw [hbare, Event.bare_of_listed? hbeside] at hkept
    obtain ⟨e, he, heq⟩ := List.mem_map.1 hkept
    rw [Event.eq_enter_of_bare hbeside heq] at he
    exact mem_of_enter_mem_showCode he

/-- A heading over two lines, one of the first level, a block of code, and a heading that shares its
anchor with the first one. -/
theorem second_heading_numbered :
    let es : List Event := [
      .enter (.heading 2 none), .text "a".toList, .softBreak, .code "b".toList,
      .leave (.heading 2 none),
      .enter (.heading 1 none), .text "c".toList, .leave (.heading 1 none),
      .enter (.code none), .text "d".toList, .leave (.code none),
      .enter (.heading 3 none), .enter (.styled .emphasis), .text " A b ".toList,
      .leave (.styled .emphasis), .leave (.heading 3 none)]
    Nested [] es ∧
      (prepare ⟨fun _ _ => none, false⟩ es).finish.filterMap Event.listed? =
        [(2, some "a-b"), (3, some "heading-2")] := by
  intro es
  have hes : Nested [] es := by
    refine .enter (fun _ t ht => by cases ht) (.leaf rfl (.leaf rfl (.leaf rfl (.leave ?_))))
    refine .enter (fun _ t ht => by cases ht) (.leaf rfl (.leave ?_))
    refine .enter (fun h => by cases h) (.leaf rfl (.leave ?_))
    exact .enter (fun _ t ht => by cases ht) (.enter (fun h => by cases h)
      (.leaf rfl (.leave (.leave .done))))
  refine ⟨hes, (heading_table_matches_page hes _).1.trans ?_⟩
  decide

end Markdown
end StaticBlog
