import StaticBlog.Post.Parse
import StaticBlog.Proofs.Html.Markup
import StaticBlog.Proofs.Post.Sections
import StaticBlog.Proofs.Post.Shown

/-!
# Excerpts

What a listing shows of a post: the text in front of a mark, or else the beginning as plain text.

- `Html.WholeEntities` : text in which no entity is cut
- `filter_isProse_plainText` : plain text keeps all characters of prose
- `excerpts_are_clean_prefixes` : beginnings of posts as plain text
- `Post.mark_honoured_iff` : which posts with a mark show the text in front of it
-/

namespace StaticBlog

/-! ## Whole entities -/

namespace Html

/-- The entities that escaped text is written with. -/
def entities : List (List Char) := ('&' :: markupChars).filterMap entity?

/-- A text each of whose ampersands begins an entity. -/
def WholeEntities (s : List Char) : Prop :=
  ∀ before rest, s = before ++ '&' :: rest → ∃ e ∈ entities, e <+: '&' :: rest

theorem mem_entities_iff {e : List Char} : e ∈ entities ↔ ∃ c, entity? c = some e := by
  refine ⟨fun h => ?_, fun ⟨c, hc⟩ => List.mem_filterMap.2 ⟨c, ?_, hc⟩⟩
  · obtain ⟨c, -, hc⟩ := List.mem_filterMap.1 h
    exact ⟨c, hc⟩
  · by_contra hmem
    rw [entity?_eq_none hmem] at hc
    cases hc

/-- An ampersand stands in an entity only at its beginning. -/
theorem exists_cons_of_mem_entities {e : List Char} (h : e ∈ entities) :
    ∃ t, e = '&' :: t ∧ '&' ∉ t := by
  have hall : (entities.all fun e => e.head? = some '&' && !e.tail.contains '&') = true := rfl
  obtain ⟨hhead, htail⟩ := Bool.and_eq_true_iff.1 (List.all_eq_true.1 hall e h)
  obtain ⟨t, rfl⟩ := List.head?_eq_some_iff.1 (of_decide_eq_true hhead)
  exact ⟨t, rfl, by simpa using htail⟩

theorem WholeEntities.cons {c : Char} {s : List Char} (hc : c ≠ '&') (h : WholeEntities s) :
    WholeEntities (c :: s) := by
  intro before rest hs
  cases before with
  | nil => exact absurd (List.cons.inj hs).1 hc
  | cons b before => exact h before rest (List.cons.inj hs).2

theorem WholeEntities.entity {e s : List Char} (he : e ∈ entities) (h : WholeEntities s) :
    WholeEntities (e ++ s) := by
  intro before rest hs
  obtain ⟨t, rfl, ht⟩ := exists_cons_of_mem_entities he
  cases before with
  | nil => exact ⟨_, he, ⟨s, hs⟩⟩
  | cons b before =>
    -- Behind the first character of the entity an ampersand stands in the rest of the text.
    have hs : t ++ s = before ++ '&' :: rest := (List.cons.inj hs).2
    obtain ⟨u, hbefore, hrest⟩ | ⟨u, hfront, hrest⟩ := List.append_eq_append_iff.1 hs
    · exact h u rest hrest
    · cases u with
      | nil => exact h [] rest hrest.symm
      | cons d u =>
        obtain ⟨rfl, -⟩ := List.cons.inj hrest
        exact absurd (hfront ▸ List.mem_append_right before List.mem_cons_self) ht

/-- Escaping writes whole entities. -/
theorem wholeEntities_escapeChars (s : List Char) : WholeEntities (escapeChars s) := by
  induction s with
  | nil => exact fun before rest hs => absurd hs.symm (by simp)
  | cons c s ih =>
    rw [escapeChars_cons, escapeChar]
    cases hentity : entity? c with
    | some e => exact .entity (mem_entities_iff.2 ⟨c, hentity⟩) ih
    | none =>
      have hc : c ≠ '&' := by
        rintro rfl
        cases hentity
      exact .cons hc ih

end Html

/-! ## Plain text -/

/-- The characters that marks of headings and emphasis, code and breaks are not made of. -/
def isProse (c : Char) : Bool := c ≠ '#' && c ≠ '*' && c ≠ '`' && !Text.isBlank c

/-- A heading mark is made of number signs and blanks. -/
theorem isProse_of_mem_take_headingMarkLength {s : List Char} {c : Char}
    (h : c ∈ s.take (headingMarkLength s)) : isProse c = false := by
  unfold headingMarkLength at h
  simp only at h
  split at h
  · rw [List.take_add, List.mem_append, ← List.prefix_iff_eq_take.1 (List.takeWhile_prefix _),
      ← List.prefix_iff_eq_take.1 (List.takeWhile_prefix _)] at h
    obtain h | h := h
    · have hc : c = '#' := by simpa using List.mem_takeWhile_imp h
      rw [hc]
      rfl
    · have hc : Text.isBlank c = true := List.mem_takeWhile_imp h
      simp [isProse, hc]
  · cases h

theorem filter_isProse_of_forall {s : List Char} (h : ∀ c ∈ s, isProse c = false) :
    s.filter isProse = [] :=
  List.filter_eq_nil_iff.2 fun c hc => by simp [h c hc]

/-- Dropping heading marks keeps the characters of prose behind what is skipped. -/
theorem filter_isProse_dropHeadingMarks (skip : Nat) (lineStart : Bool) (s : List Char) :
    (dropHeadingMarks skip lineStart s).filter isProse = (s.drop skip).filter isProse := by
  fun_induction dropHeadingMarks skip lineStart s with
  | case1 => simp
  | case2 lineStart skip c s ih => exact ih
  | case3 lineStart c s hmark ih =>
    -- The mark and what follows it make up the text.
    obtain ⟨n, hn⟩ : ∃ n, headingMarkLength (c :: s) = n + 1 :=
      Nat.exists_eq_add_one.2 (by simpa using (Bool.and_eq_true_iff.1 hmark).2)
    have hnone : ((c :: s).take (headingMarkLength (c :: s))).filter isProse = [] :=
      filter_isProse_of_forall fun d hd => isProse_of_mem_take_headingMarkLength hd
    calc (dropHeadingMarks (headingMarkLength (c :: s) - 1) (c = '\n') s).filter isProse
        = (s.drop n).filter isProse := by rw [ih, hn, Nat.add_sub_cancel]
      _ = ((c :: s).take (headingMarkLength (c :: s))).filter isProse ++
            ((c :: s).drop (headingMarkLength (c :: s))).filter isProse := by
          rw [hnone, hn, List.drop_succ_cons, List.nil_append]
      _ = ((c :: s).drop 0).filter isProse := by
          rw [← List.filter_append, List.take_append_drop, List.drop_zero]
  | case4 lineStart c s hmark ih =>
    rw [List.drop_zero, List.filter_cons, List.filter_cons, ih, List.drop_zero]

theorem filter_isProse_trim (s : List Char) : (Text.trim s).filter isProse = s.filter isProse := by
  obtain ⟨before, after, hs, hbefore, hafter⟩ := Text.exists_dropBoth_append Text.isBlank s
  have hblank : ∀ t : List Char, (∀ c ∈ t, Text.isBlank c = true) → t.filter isProse = [] :=
    fun t ht => filter_isProse_of_forall fun c hc => by simp [isProse, ht c hc]
  conv_rhs => rw [hs]
  rw [List.filter_append, List.filter_append, hblank before hbefore, hblank after hafter,
    List.nil_append, List.append_nil, Text.trim]

theorem filter_isProse_map_feed (s : List Char) :
    (s.map fun c => if c = '\n' then ' ' else c).filter isProse = s.filter isProse := by
  induction s with
  | nil => rfl
  | cons c s ih =>
    rw [List.map_cons, List.filter_cons, List.filter_cons, ih]
    by_cases hc : c = '\n'
    · subst hc
      rfl
    · rw [if_neg hc]

/-- Plain text keeps all characters of prose in their order. -/
theorem filter_isProse_plainText (markdown : List Char) :
    (plainText markdown).filter isProse = markdown.filter isProse := by
  have hkept : ∀ c, (isProse c && (c ≠ '*' && c ≠ '`' && c ≠ '\r')) = isProse c := by
    intro c
    by_cases hc : c = '\r'
    · subst hc
      rfl
    · simp [isProse, hc]
      grind
  rw [plainText, filter_isProse_trim, filter_isProse_map_feed, List.filter_filter,
    List.filter_congr fun c _ => hkept c]
  exact filter_isProse_dropHeadingMarks 0 true markdown

theorem ne_of_mem_plainText {markdown : List Char} {c : Char} (h : c ∈ plainText markdown) :
    c ≠ '*' ∧ c ≠ '`' ∧ c ≠ '\r' ∧ c ≠ '\n' := by
  obtain ⟨d, hd, rfl⟩ := List.mem_map.1 (Text.mem_of_mem_dropBoth h)
  have hkept : (d ≠ '*' ∧ d ≠ '`') ∧ d ≠ '\r' := by simpa using (List.mem_filter.1 hd).2
  split
  · decide
  · next hfeed => exact ⟨hkept.1.1, hkept.1.2, hkept.2, hfeed⟩

/-- The beginning of a post as plain text, told by undoing its escapes: the plain text if that is no
longer than the limit, and else so many characters of it with dots behind them. No entity in it is
cut, and it can neither begin nor end a tag or an attribute. A lower limit keeps a prefix of what a
higher one keeps. The plain text has no blanks around it, no marks of emphasis and code, and no line
breaks, and it has all characters of prose. -/
theorem excerpts_are_clean_prefixes (markdown : String) :
    let text := plainText markdown.toList
    (∀ limit,
      Html.unescapeChars (autoExcerpt markdown limit).toList =
          (if text.length ≤ limit then text else text.take limit ++ "...".toList) ∧
        Html.WholeEntities (autoExcerpt markdown limit).toList ∧
        ∀ c ∈ (autoExcerpt markdown limit).toList, c ∉ Html.markupChars) ∧
      (∀ j k, j ≤ k → text.take j <+: text.take k) ∧
      ((∀ c, text.head? = some c → Text.isBlank c = false) ∧
        ∀ c, text.getLast? = some c → Text.isBlank c = false) ∧
      (∀ c ∈ text, c ≠ '*' ∧ c ≠ '`' ∧ c ≠ '\r' ∧ c ≠ '\n') ∧
      text.filter isProse = markdown.toList.filter isProse := by
  intro text
  refine ⟨fun limit => ?_, fun j k h => List.take_prefix_take_left h,
    Text.dropBoth_eq_self_iff.1 (Text.dropBoth_dropBoth _), fun c hc => ne_of_mem_plainText hc,
    filter_isProse_plainText markdown.toList⟩
  have hchars : (autoExcerpt markdown limit).toList = Html.escapeChars (shorten limit text) :=
    String.toList_ofList
  rw [hchars]
  refine ⟨?_, Html.wholeEntities_escapeChars _,
    fun c hc => Html.notMem_markupChars_of_mem_escapeChars hc⟩
  rw [Html.unescapeChars_escapeChars, shorten]
  by_cases hlimit : text.length ≤ limit
  · rw [if_pos hlimit, if_neg (Nat.not_lt.2 hlimit)]
  · rw [if_neg hlimit, if_pos (Nat.lt_of_not_le hlimit)]

example : autoExcerpt "## Tom\n*&* Jerry" 5 = "Tom &amp;..." := by decide +kernel

/-! ## Posts with a mark -/

/-- The mark that ends an excerpt has characters. -/
theorem FrontMatter.separator_ne_nil (f : FrontMatter) : f.separator.toList ≠ [] := by
  have hdefault : defaultSeparator.toList ≠ [] := by decide
  unfold separator
  split
  · next s _ =>
    split
    · exact hdefault
    · next hblank =>
      intro hs
      rw [hs] at hblank
      exact hblank rfl
  · exact hdefault

theorem autoExcerpt_eq_empty_iff {body : List Char} {limit : Nat} :
    autoExcerpt (String.ofList body) limit = "" ↔ plainText body = [] := by
  -- Escaping can be undone, so that it leaves nothing of nothing only.
  have hescape : ∀ s : List Char, Html.escapeChars s = [] ↔ s = [] := by
    intro s
    constructor
    · intro h
      rw [← Html.unescapeChars_escapeChars s, h]
      rfl
    · rintro rfl
      rfl
  rw [← String.toList_eq_nil_iff, autoExcerpt, String.toList_ofList, String.toList_ofList,
    autoExcerptChars, hescape, shorten]
  split
  · next hlimit =>
    have hne : plainText body ≠ [] := by
      intro hnil
      rw [hnil] at hlimit
      exact Nat.not_lt_zero _ hlimit
    simp [hne]
  · rfl

namespace Post

/-- What a listing shows of a post with a mark is told by what stands in front of the first mark. -/
theorem excerptOf_of_mark (m : PostMaker) {d : Document} {lead rest : List Char}
    (hexcerpt : d.excerpt = Document.excerptBefore d.frontMatter.separator.toList d.body)
    (hbreak : Text.breakOn? d.frontMatter.separator.toList d.body = some (lead, rest)) :
    excerptOf m d =
      if Text.trim lead = [] then
        autoExcerpt (String.ofList d.body) m.config.posts.excerptLength
      else (m.renderer.render (Text.trim lead)).html := by
  have hbefore : d.excerpt = if Text.trim lead = [] then none else some (Text.trim lead) := by
    rw [hexcerpt, Document.excerptBefore, hbreak, Option.map_some, Option.filter_some]
    by_cases hlead : Text.trim lead = [] <;> simp [hlead]
  rw [excerptOf, hbefore]
  by_cases hlead : Text.trim lead = []
  · rw [if_pos hlead, if_pos hlead]
  · rw [if_neg hlead, if_neg hlead]

theorem excerpt_of_parse? {text : String} {d : Document} (h : Document.parse? text = some d) :
    d.excerpt = Document.excerptBefore d.frontMatter.separator.toList d.body := by
  rw [Document.parse?, Option.bind_eq_bind, Option.bind_eq_some_iff] at h
  obtain ⟨⟨f, body⟩, -, hd⟩ := h
  cases hd
  rfl

/-- A post with a mark in its body shows the text in front of the first one, without the blanks around
it and with no mark in it, exactly if that text is more than blanks, or there is nothing to show of the
whole body either. Otherwise it shows the beginning of the body as plain text, mark and all. -/
theorem mark_honoured_iff (m : PostMaker) (source : Path) (modified : Moment) (text : String)
    (d : Document) (p : Post) (hparse : parse m source modified text = .ok (d, p))
    (hmark : d.frontMatter.separator.toList <:+: d.body) :
    ∃ lead rest,
      (d.body = lead ++ (d.frontMatter.separator.toList ++ rest) ∧
        ∀ b a, d.body = b ++ (d.frontMatter.separator.toList ++ a) → lead.length ≤ b.length) ∧
      ¬ d.frontMatter.separator.toList <:+: lead ∧
      (p.excerpt = (m.renderer.render (Text.trim lead)).html ↔
        Text.trim lead ≠ [] ∨ plainText d.body = []) ∧
      (Text.trim lead = [] →
        p.excerpt = autoExcerpt (String.ofList d.body) m.config.posts.excerptLength) := by
  obtain ⟨hdoc, rfl⟩ := eq_ofDocument_of_parse hparse
  cases hbreak : Text.breakOn? d.frontMatter.separator.toList d.body with
  | none => exact absurd hmark (Text.breakOn?_eq_none_iff.1 hbreak)
  | some parts =>
    obtain ⟨lead, rest⟩ := parts
    obtain ⟨hbody, hfirst⟩ := Text.breakOn?_eq_some_iff.1 hbreak
    have hshown : (ofDocument m source modified d).excerpt = _ :=
      excerptOf_of_mark m (excerpt_of_parse? hdoc) hbreak
    refine ⟨lead, rest, ⟨hbody, hfirst⟩, ?_, ?_, fun hlead => by rw [hshown, if_pos hlead]⟩
    · -- Another mark in front would be an earlier one.
      rintro ⟨b, a, hlead⟩
      have hle := hfirst b (a ++ (d.frontMatter.separator.toList ++ rest)) (by
        rw [hbody, ← hlead]
        simp only [List.append_assoc])
      have hpos := List.length_pos_iff.2 d.frontMatter.separator_ne_nil
      rw [← hlead] at hle
      simp only [List.length_append] at hle
      omega
    · rw [hshown]
      by_cases hlead : Text.trim lead = []
      · -- Of no text nothing is rendered.
        have hnothing : (m.renderer.render []).html = "" := rfl
        rw [if_pos hlead, hlead, hnothing, autoExcerpt_eq_empty_iff]
        simp
      · rw [if_neg hlead]
        simp [hlead]

/-- Two sources with a mark: the first one has text in front of it, which is shown, and the second one
has none, so its mark is shown. -/
theorem lead_shown_and_mark_shown :
    (∃ d p, parse plainMaker ⟨"a.md"⟩ default
        "---\nexcerpt_separator: \"<!--cut-->\"\n---\nLead <!--cut-->Tail <!-- more -->" = .ok (d, p) ∧
          d.frontMatter.separator.toList <:+: d.body ∧ p.excerpt = "<p>Lead</p>\n") ∧
      ∃ d p, parse plainMaker ⟨"a.md"⟩ default "<!-- more -->\n\nRest." = .ok (d, p) ∧
        d.frontMatter.separator.toList <:+: d.body ∧
          p.excerpt = "&lt;!-- more --&gt;  Rest." := by
  have hfirst : (Document.parse?
      "---\nexcerpt_separator: \"<!--cut-->\"\n---\nLead <!--cut-->Tail <!-- more -->").any (fun d =>
        Text.breakOn? d.frontMatter.separator.toList d.body =
          some ("Lead ".toList, "Tail <!-- more -->".toList)) = true := by
    decide +kernel
  have hsecond : (Document.parse? "<!-- more -->\n\nRest.").any (fun d =>
      Text.breakOn? d.frontMatter.separator.toList d.body = some ([], "\n\nRest.".toList) ∧
        autoExcerpt (String.ofList d.body) plainMaker.config.posts.excerptLength =
          "&lt;!-- more --&gt;  Rest.") = true := by
    decide +kernel
  constructor
  · obtain ⟨d, hd, hcut⟩ := (Option.any_eq_true _ _).1 hfirst
    have hcut := of_decide_eq_true hcut
    have hparse : parse plainMaker ⟨"a.md"⟩ default
        "---\nexcerpt_separator: \"<!--cut-->\"\n---\nLead <!--cut-->Tail <!-- more -->" =
          .ok (d, ofDocument plainMaker ⟨"a.md"⟩ default d) := by
      rw [parse, hd]
    have hmark := Text.infix_of_breakOn? hcut
    obtain ⟨lead, rest, hat, -, hhonoured, -⟩ := mark_honoured_iff _ _ _ _ d _ hparse hmark
    rw [Text.breakOn?_eq_some_iff.2 hat] at hcut
    obtain ⟨rfl, -⟩ := Prod.mk.inj (Option.some.inj hcut)
    refine ⟨d, _, hparse, hmark, (hhonoured.2 (Or.inl (by decide))).trans ?_⟩
    decide +kernel
  · obtain ⟨d, hd, hcut⟩ := (Option.any_eq_true _ _).1 hsecond
    obtain ⟨hcut, hplain⟩ := of_decide_eq_true hcut
    have hparse : parse plainMaker ⟨"a.md"⟩ default "<!-- more -->\n\nRest." =
        .ok (d, ofDocument plainMaker ⟨"a.md"⟩ default d) := by
      rw [parse, hd]
    have hmark := Text.infix_of_breakOn? hcut
    obtain ⟨lead, rest, hat, -, -, hplainly⟩ := mark_honoured_iff _ _ _ _ d _ hparse hmark
    rw [Text.breakOn?_eq_some_iff.2 hat] at hcut
    obtain ⟨rfl, -⟩ := Prod.mk.inj (Option.some.inj hcut)
    exact ⟨d, _, hparse, hmark, (hplainly rfl).trans hplain⟩

end Post
end StaticBlog
