import StaticBlog.Proofs.Markdown.Streams

/-!
# Highlighting

The highlighter is asked once for each block of code, and its answers appear in the places of the
blocks and nowhere else.

- `fill` : a stream with HTML in its gaps
- `foldlM_stepM` : preparing a stream shows each of its blocks of code and nothing else
- `alternates_fill`, `headings_fill`, `anchored_fill` : what stands in the gaps changes no heading
- `languageOf_eq_some_iff` : the language of a block is the first word behind its fence
- `highlighting_is_isolated` : the page of a text depends on the answers in the gaps only
-/

namespace StaticBlog
namespace Markdown

/-! ## Gaps -/

/-- A stream with HTML in its gaps, as far as there is any. -/
def fill : List (Option Event) → List (List Char) → List Event
  | [], _ => []
  | some e :: gs, hs => e :: fill gs hs
  | none :: gs, h :: hs => .html h :: fill gs hs
  | none :: gs, [] => fill gs []

theorem Gapped.count_none {es : List Event} {bs : List CodeBlock} {gs : List (Option Event)}
    (h : Gapped es bs gs) : gs.count none = bs.length := by
  induction h with
  | done => rfl
  | block b rest ih => rw [List.count_cons_self, ih, List.length_cons]
  | event he rest ih => rw [List.count_cons_of_ne (by simp), ih]

/-! ## Asking -/

section Asking

variable {m : Type → Type} [Monad m] [LawfulMonad m]

/-- Where each block is asked for, the answers may be turned into HTML afterwards. -/
theorem mapM_map_eq_zipWith {α β γ : Type} (f : α → β → γ) (ask : α → m β) (as : List α) :
    (as.mapM fun a => f a <$> ask a) = List.zipWith f as <$> as.mapM ask := by
  induction as with
  | nil => simp
  | cons a as ih => simp [ih]

variable {codeHtml : Option String → List Char → m (List Char)} {p : Preparation}

theorem foldlM_stepM_texts (language : Option String) (texts lines : List (List Char))
    (hcode : p.code = some (language, lines)) :
    (texts.map Event.text).foldlM (Preparation.stepM codeHtml) p =
      pure { p with code := some (language, texts.reverse ++ lines) } := by
  induction texts generalizing p lines with
  | nil =>
    obtain ⟨ready, toc, heading, code⟩ := p
    subst hcode
    rfl
  | cons s texts ih =>
    obtain ⟨ready, toc, heading, code⟩ := p
    subst hcode
    rw [List.map_cons, List.foldlM_cons, Preparation.stepM, pure_bind, ih (s :: lines) rfl,
      List.reverse_cons, List.append_assoc, List.singleton_append]

/-- A block of code is shown once, as a whole. -/
theorem foldlM_stepM_block (b : CodeBlock) (hcode : p.code = none) :
    b.events.foldlM (Preparation.stepM codeHtml) p =
      (fun html => p.stepOutside (.html html)) <$> codeHtml b.language b.texts.flatten := by
  obtain ⟨ready, toc, heading, code⟩ := p
  subst hcode
  have hlines : (b.texts.reverse ++ []).reverse.flatten = b.texts.flatten := by simp
  calc b.events.foldlM (Preparation.stepM codeHtml) ⟨ready, toc, heading, none⟩
      = (b.texts.map Event.text ++ [Event.leave (.code b.info)]).foldlM (Preparation.stepM codeHtml)
          ⟨ready, toc, heading, some (b.language, [])⟩ := by
        rw [CodeBlock.events, within, List.cons_append, List.foldlM_cons]
        exact pure_bind _ _
    _ = Preparation.stepM codeHtml
          ⟨ready, toc, heading, some (b.language, b.texts.reverse ++ [])⟩
          (.leave (.code b.info)) := by
        rw [List.foldlM_append, foldlM_stepM_texts b.language b.texts [] rfl, pure_bind,
          List.foldlM_cons]
        exact bind_pure _
    _ = (fun html => Preparation.stepOutside ⟨ready, toc, heading, none⟩ (.html html)) <$>
          codeHtml b.language b.texts.flatten := by
        rw [map_eq_pure_bind, ← hlines]
        rfl

/-- Preparing a stream shows each of its blocks of code once, in their order. The rest is done to
the stream that has the results in its gaps. -/
theorem foldlM_stepM {es : List Event} {bs : List CodeBlock} {gs : List (Option Event)}
    (h : Gapped es bs gs) (hcode : p.code = none) :
    es.foldlM (Preparation.stepM codeHtml) p =
      (fun htmls => (fill gs htmls).foldl Preparation.stepOutside p) <$>
        bs.mapM fun b => codeHtml b.language b.texts.flatten := by
  -- No code is open at the beginning of a block or of an event outside, nor behind it.
  induction h generalizing p with
  | done => simp [fill]
  | block b rest ih =>
    have hnext : ∀ html, (p.stepOutside (.html html)).code = none :=
      fun html => (Preparation.code_emit p (.html html)).trans hcode
    rw [List.foldlM_append, foldlM_stepM_block b hcode, List.mapM_cons, bind_map_left, map_bind]
    refine bind_congr fun html => ?_
    rw [ih (hnext html), bind_pure_comp, Functor.map_map]
    rfl
  | @event e he es bs gs rest ih =>
    have henter : ∀ info, e ≠ .enter (.code info) := by
      rintro info rfl
      cases he
    have hstep : Preparation.stepM codeHtml p e = pure (p.stepOutside e) := by
      rw [Preparation.stepM, hcode]
    rw [List.foldlM_cons, hstep, pure_bind,
      ih ((Preparation.code_stepOutside henter p).trans hcode)]
    rfl

end Asking

/-! ## Headings around gaps -/

section Headings

variable {gs : List (Option Event)}

theorem headingText_fill (gs : List (Option Event)) (hs : List (List Char)) :
    headingText (fill gs hs) = headingText gs.reduceOption := by
  fun_induction fill gs hs with
  | case1 => rfl
  | case2 e gs hs ih =>
    rw [List.reduceOption_cons_of_some]
    unfold headingText at ih ⊢
    cases he : e.endsHeading <;> simp [he, ih]
  | case3 gs h hs ih =>
    rw [List.reduceOption_cons_of_none]
    exact ih
  | case4 gs ih =>
    rw [List.reduceOption_cons_of_none]
    exact ih

theorem headings_fill (gs : List (Option Event)) (hs : List (List Char)) :
    headings (fill gs hs) = headings gs.reduceOption := by
  fun_induction fill gs hs with
  | case1 => rfl
  | case2 e gs hs ih =>
    rw [List.reduceOption_cons_of_some, headings, headings, ih, headingText_fill]
  | case3 gs h hs ih =>
    rw [List.reduceOption_cons_of_none]
    exact ih
  | case4 gs ih =>
    rw [List.reduceOption_cons_of_none]
    exact ih

/-- Whether headings overlap behind an event depends on what follows it. -/
theorem Alternates.cons_mono {es fs : List Event}
    (h : ∀ isOpen, Alternates isOpen es → Alternates isOpen fs) {isOpen : Bool} {e : Event}
    (halternates : Alternates isOpen (e :: es)) : Alternates isOpen (e :: fs) := by
  cases halternates with
  | begins rest => exact .begins (h _ rest)
  | ends rest => exact .ends (h _ rest)
  | plain hplain rest => exact .plain hplain (h _ rest)

theorem alternates_fill_iff {isOpen : Bool} (hs : List (List Char)) :
    Alternates isOpen (fill gs hs) ↔ Alternates isOpen gs.reduceOption := by
  -- The HTML in a gap is no bound of a heading, and so it may be put in or left out.
  fun_induction fill gs hs generalizing isOpen with
  | case1 => exact Iff.rfl
  | case2 e gs hs ih =>
    rw [List.reduceOption_cons_of_some]
    exact ⟨.cons_mono fun _ => ih.1, .cons_mono fun _ => ih.2⟩
  | case3 gs h hs ih =>
    rw [List.reduceOption_cons_of_none, ← ih]
    constructor
    · intro halternates
      cases halternates with
      | plain _ rest => exact rest
    · exact .plain rfl
  | case4 gs ih =>
    rw [List.reduceOption_cons_of_none]
    exact ih

/-- A stream with gaps as it stands on the page, each heading of the table with the anchor it gets
there. -/
def anchoredGaps (b : TocBuilder) : List (Option Event) → List (Option Event)
  | [] => []
  | none :: gs => none :: anchoredGaps b gs
  | some e :: gs =>
    match e.listed? with
    | some (level, _) =>
      let b := b.push level (String.ofList (headingText gs.reduceOption))
      some (.enter (.heading level (some b.lastId))) :: anchoredGaps b gs
    | none => some e.hardened :: anchoredGaps b gs

/-- What stands in the gaps changes no anchor. -/
theorem anchored_fill (b : TocBuilder) (gs : List (Option Event)) (hs : List (List Char)) :
    anchored b (fill gs hs) = fill (anchoredGaps b gs) hs := by
  fun_induction anchoredGaps b gs generalizing hs with
  | case1 => rfl
  | case2 b gs ih =>
    cases hs with
    | nil => exact ih []
    | cons h hs => exact congrArg (Event.html h :: ·) (ih hs)
  | case3 b e gs level anchor hlisted b' ih =>
    simp only [fill, anchored, hlisted, headingText_fill]
    exact congrArg (_ :: ·) (ih hs)
  | case4 b e gs hlisted ih =>
    rw [fill, anchored, hlisted]
    exact congrArg (e.hardened :: ·) (ih hs)

theorem bare_anchoredGaps (b : TocBuilder) (gs : List (Option Event)) :
    (anchoredGaps b gs).map (Option.map Event.bare) =
      gs.map (Option.map fun e => e.hardened.bare) := by
  fun_induction anchoredGaps b gs with
  | case1 => rfl
  | case2 b gs ih => rw [List.map_cons, ih]; rfl
  | case3 b e gs level anchor hlisted b' ih =>
    obtain ⟨rfl, hlevel⟩ := Event.eq_enter_of_listed? hlisted
    simp [ih, Event.bare, Event.hardened, Event.listed?_heading hlevel]
  | case4 b e gs hlisted ih => simp [ih]

end Headings

/-! ## The page -/

theorem showCode_texts (r : Renderer) (info : Option (List Char)) (language : Option String)
    (texts : List (List Char)) (code : List Char) (es : List Event) :
    showCode r (some (language, code)) (texts.map Event.text ++ .leave (.code info) :: es) =
      .html (r.codeHtml language (code ++ texts.flatten)) :: showCode r none es := by
  induction texts generalizing code with
  | nil => simp [showCode]
  | cons s texts ih =>
    rw [List.map_cons, List.cons_append, showCode, ih, List.flatten_cons, List.append_assoc]

/-- A stream with its code shown has what shows it in its gaps. -/
theorem showCode_eq_fill {es : List Event} {bs : List CodeBlock} {gs : List (Option Event)}
    (h : Gapped es bs gs) (r : Renderer) :
    showCode r none es = fill gs (bs.map fun b => r.codeHtml b.language b.texts.flatten) := by
  induction h with
  | done => rfl
  | block b rest ih =>
    rw [CodeBlock.events, within_append, showCode, showCode_texts, ih]
    rfl
  | event he rest ih =>
    rw [showCode_cons_of_ne, ih, fill]
    rintro info rfl
    cases he

theorem code_of_texts (info : Option (List Char)) (texts : List (List Char)) (es : List Event) :
    codeOf (texts.map Event.text ++ .leave (.code info) :: es) = texts.flatten ∧
      codeBlocks (texts.map Event.text ++ .leave (.code info) :: es) = codeBlocks es := by
  induction texts with
  | nil => exact ⟨rfl, rfl⟩
  | cons s texts ih => exact ⟨congrArg (s ++ ·) ih.1, ih.2⟩

/-- The blocks that are taken out are all the code in a stream. -/
theorem Gapped.codeBlocks_eq {es : List Event} {bs : List CodeBlock} {gs : List (Option Event)}
    (h : Gapped es bs gs) : codeBlocks es = bs.map fun b => (b.language, b.code) := by
  induction h with
  | done => rfl
  | @block b es bs gs rest ih =>
    obtain ⟨htext, hlater⟩ := code_of_texts b.info b.texts es
    rw [CodeBlock.events, within_append, codeBlocks, htext, hlater, ih]
    rfl
  | @event e he es bs gs rest ih =>
    rw [← ih, codeBlocks]
    rintro info rfl
    cases he

/-- The headings of a text do not overlap, whatever stands in the gaps. -/
theorem Gapped.alternates {es : List Event} {bs : List CodeBlock} {gs : List (Option Event)}
    (h : Gapped es bs gs) (hnested : Nested [] es) (htmls : List (List Char)) :
    Alternates false (fill gs htmls) := by
  -- Any highlighter will do here, since what it answers stands in the gaps.
  have hshown : Alternates false (showCode ⟨fun _ _ => none, false⟩ none es) :=
    hnested.alternates fun h => by cases h
  rw [showCode_eq_fill h, alternates_fill_iff] at hshown
  exact (alternates_fill_iff htmls).2 hshown

/-- What shows a block of code when the highlighter has answered. -/
def CodeBlock.html (b : CodeBlock) (lineNumbers : Bool) (answer : Option HighlightedCode) :
    List Char :=
  (answer.getD (.plain b.code b.language)).block lineNumbers

theorem prepareM_eq {m : Type → Type} [Monad m] [LawfulMonad m]
    (highlight : String → Option String → m (Option HighlightedCode)) (lineNumbers : Bool)
    {es : List Event} {bs : List CodeBlock} {gs : List (Option Event)} (h : Gapped es bs gs) :
    prepareM (codeHtmlM highlight lineNumbers) es =
      (fun answers => (fill gs (List.zipWith (CodeBlock.html · lineNumbers) bs answers)).foldl
          Preparation.stepOutside {}) <$>
        bs.mapM fun b => highlight b.code b.language := by
  have hask : ∀ b : CodeBlock, codeHtmlM highlight lineNumbers b.language b.texts.flatten =
      b.html lineNumbers <$> highlight b.code b.language :=
    fun b => (map_eq_pure_bind _ _).symm
  rw [prepareM, foldlM_stepM h rfl]
  simp only [hask]
  rw [mapM_map_eq_zipWith, Functor.map_map]

theorem count_none_map (f : Event → Event) (gs : List (Option Event)) :
    (gs.map (Option.map f)).count none = gs.count none := by
  induction gs with
  | nil => rfl
  | cons g gs ih => cases g <;> simp [ih]

/-- Whatever stands in the gaps, the table is the same, and so is the rest of the page. -/
theorem foldl_stepOutside_fill {es : List Event} {bs : List CodeBlock} {gs : List (Option Event)}
    (h : Gapped es bs gs) (hnested : Nested [] es) (htmls : List (List Char)) :
    ((fill gs htmls).foldl Preparation.stepOutside {}).finish =
        fill (anchoredGaps {} gs) htmls ∧
      ((fill gs htmls).foldl Preparation.stepOutside {}).toc =
        TocBuilder.pushAll {} (headings gs.reduceOption) := by
  obtain ⟨htoc, hfinish⟩ :=
    Preparation.finish_foldl_stepOutside (p := {}) (h.alternates hnested htmls) rfl
  refine ⟨hfinish.trans ?_, htoc.trans ?_⟩
  · exact anchored_fill {} gs htmls
  · rw [headings_fill]
    rfl

/-! ## Languages -/

/-- Whether a character ends a word behind a fence. -/
def endsWord (c : Char) : Bool := Text.isBlank c || c = ','

/-- Whether a word stands at the beginning of a text and ends at a blank, a comma or the end. -/
structure IsFirstWord (w s : List Char) : Prop where
  ne_nil : w ≠ []
  whole : ∀ c ∈ w, endsWord c = false
  ends : ∃ rest, s = w ++ rest ∧ ∀ c ∈ rest.head?, endsWord c = true

theorem languageOf_eq (info : Option (List Char)) :
    languageOf info = if (info.getD []).takeWhile (!endsWord ·) = [] then none
      else some (String.ofList ((info.getD []).takeWhile (!endsWord ·))) := by
  unfold languageOf endsWord
  split
  · next hnil => rw [hnil, if_pos rfl]
  · next hne => rw [if_neg hne]

/-- The language of a block is the first word behind its fence. -/
theorem languageOf_eq_some_iff {info : Option (List Char)} {w : String} :
    languageOf info = some w ↔ ∃ s, info = some s ∧ IsFirstWord w.toList s := by
  rw [languageOf_eq]
  constructor
  · intro h
    split at h
    · cases h
    · next hne =>
      cases h
      rw [String.toList_ofList]
      cases info with
      | none => exact absurd rfl hne
      | some s =>
        refine ⟨s, rfl, hne, fun c hc => ?_, s.dropWhile (!endsWord ·), ?_, fun c hc => ?_⟩
        · simpa using List.mem_takeWhile_imp hc
        · exact List.takeWhile_append_dropWhile.symm
        · have hhead := List.head?_dropWhile_not (!endsWord ·) s
          rw [hc] at hhead
          simpa using hhead
  · rintro ⟨s, rfl, hne, hwhole, rest, rfl, hends⟩
    have hrest : rest.takeWhile (!endsWord ·) = [] := by
      cases rest with
      | nil => rfl
      | cons c rest => simp [hends c rfl]
    have htake : (w.toList ++ rest).takeWhile (!endsWord ·) = w.toList := by
      rw [List.takeWhile_append_of_pos fun c hc => by simp [hwhole c hc], hrest, List.append_nil]
    rw [Option.getD_some, htake, if_neg hne, String.ofList_toList]

/-! ## Every text -/

/-- Highlighting is isolated: the highlighter is asked once for each block of code in a text, in the
order of the blocks, with the text of the block and the first word behind its fence. Its answers
stand in the places of the blocks, one for each, and nothing else of the page or of the table of its
headings depends on them. -/
theorem highlighting_is_isolated (markdown : List Char) :
    ∃ (blocks : List CodeBlock) (gaps page : List (Option Event))
      (table : Option (List TocEntry)),
      Gapped (events (Repair.repairChars markdown)) blocks gaps ∧
        (∀ b ∈ blocks, ∀ w, b.language = some w ↔
          ∃ info, b.info = some info ∧ IsFirstWord w.toList info) ∧
        page.count none = blocks.length ∧
        page.map (Option.map Event.bare) = gaps.map (Option.map fun e => e.hardened.bare) ∧
        ∀ (m : Type → Type) [Monad m] [LawfulMonad m]
          (highlight : String → Option String → m (Option HighlightedCode)) (lineNumbers : Bool),
          let asked := blocks.mapM fun b => highlight b.code b.language
          let stream := fun answers =>
            fill page (List.zipWith (CodeBlock.html · lineNumbers) blocks answers)
          (fun p => (p.finish, p.toc.finish)) <$>
                prepareM (codeHtmlM highlight lineNumbers) (events (Repair.repairChars markdown)) =
              (fun answers => (stream answers, table)) <$> asked ∧
            renderM highlight lineNumbers markdown =
              (fun answers => ⟨String.ofList (toHtml (stream answers)), table⟩) <$> asked := by
  obtain ⟨blocks, gaps, hgapped⟩ := exists_gapped_events (Repair.repairChars markdown)
  have hnested := nested_events (Repair.repairChars markdown)
  have hbare := bare_anchoredGaps {} gaps
  have hcount : (anchoredGaps {} gaps).count none = blocks.length := by
    rw [← count_none_map Event.bare, hbare, count_none_map, hgapped.count_none]
  refine ⟨blocks, gaps, anchoredGaps {} gaps,
    (TocBuilder.pushAll {} (headings gaps.reduceOption)).finish, hgapped,
    fun b _ w => languageOf_eq_some_iff, hcount, hbare, ?_⟩
  intro m _ _ highlight lineNumbers asked stream
  have hfill := foldl_stepOutside_fill hgapped hnested
  have hpage := prepareM_eq highlight lineNumbers hgapped
  constructor
  · rw [hpage, Functor.map_map]
    refine congrArg (· <$> asked) (funext fun answers => ?_)
    rw [(hfill _).1, (hfill _).2]
  · rw [renderM, bind_pure_comp, hpage, Functor.map_map]
    refine congrArg (· <$> asked) (funext fun answers => ?_)
    rw [(hfill _).1, (hfill _).2]

/-- Behind a heading fenced code with two words behind the fence, and indented code: whatever the
highlighter does, it is asked for these two. -/
theorem fenced_and_indented_code_asked :
    ∃ page : List (Option HighlightedCode) → Rendered,
      ∀ (m : Type → Type) [Monad m] [LawfulMonad m]
        (highlight : String → Option String → m (Option HighlightedCode)),
        renderM highlight false "## a\n~~~ rust,x\nb\n~~~\n\n    c\n".toList =
          page <$> [(some "rust", "b\n"), (none, "c\n")].mapM fun b => highlight b.2 b.1 := by
  obtain ⟨blocks, gaps, page, table, hgapped, -, -, -, hrender⟩ :=
    highlighting_is_isolated "## a\n~~~ rust,x\nb\n~~~\n\n    c\n".toList
  have hblocks : blocks.map (fun b => (b.language, b.code)) =
      [(some "rust", "b\n"), (none, "c\n")] := by
    rw [← hgapped.codeBlocks_eq]
    decide +kernel
  refine ⟨_, fun m _ _ highlight => (hrender m highlight false).2.trans (congrArg _ ?_)⟩
  rw [← hblocks, List.mapM_map]
  rfl

end Markdown
end StaticBlog
