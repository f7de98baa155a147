import StaticBlog.Proofs.Markdown.Highlighting
import StaticBlog.Proofs.Post.Shown
import StaticBlog.Proofs.Site.Navigation

/-!
# The table of contents of a post

The page of a post shows the headings of the post under two names. A custom field may have one of
these names too, and it is seen where the post has no headings.

- `Markdown.isSome_headings_render_iff` : which texts have headings for a table
- `Post.customValue?` : what templates see of a custom field
- `contents?` : what the headings of a post say under a name
- `PageMaker.resolve_page` : what stands on a page under a name
- `contentsNames` : the two names
- `ShowsContents` : whether a page shows headings, and shows nothing where there are none
- `PageMaker.contents_shown_iff` : which pages do so
-/

namespace StaticBlog

/-! ## Texts with headings -/

namespace Markdown

theorem headings_eq_nil_iff {es : List Event} : headings es = [] ↔ ∀ e ∈ es, e.listed? = none := by
  induction es with
  | nil => simp [headings]
  | cons e es ih => cases hlisted : e.listed? <;> simp [headings, hlisted, ih]

/-- The headings of a stream are outside of its code. -/
theorem Gapped.mem_iff {es : List Event} {bs : List CodeBlock} {gs : List (Option Event)}
    (h : Gapped es bs gs) {e : Event} (he : e.listed?.isSome = true) : some e ∈ gs ↔ e ∈ es := by
  induction h with
  | done => simp
  | block b rest ih =>
    have hblock : e ∉ b.events := by
      intro hmem
      simp only [CodeBlock.events, within, List.mem_cons, List.mem_append, List.mem_map,
        List.not_mem_nil, or_false] at hmem
      obtain (rfl | ⟨s, -, rfl⟩) | rfl := hmem <;> cases he
    simp [ih, hblock]
  | event _ rest ih => simp [ih]

/-- A text has a table if there is a heading of the second or third level in it. -/
theorem isSome_headings_render_iff (r : Renderer) (markdown : List Char) :
    (r.render markdown).headings.isSome = true ↔
      ∃ level anchor, .enter (.heading level anchor) ∈ events (Repair.repairChars markdown) ∧
        (level = 2 ∨ level = 3) := by
  -- The table is made from the stream that has its code taken out, which has the same headings.
  obtain ⟨bs, gs, hgapped⟩ := exists_gapped_events (Repair.repairChars markdown)
  have htable : (r.render markdown).headings =
      (TocBuilder.pushAll {} (headings gs.reduceOption)).finish := by
    rw [← headings_fill gs, ← showCode_eq_fill hgapped r, ← (prepare_eq (nested_events _) r).1]
    rfl
  have hempty : (TocBuilder.pushAll {} (headings gs.reduceOption)).entries = [] ↔
      headings gs.reduceOption = [] := by
    rw [← List.map_eq_nil_iff, TocBuilder.entries_pushAll]
    simp
  have hlisted : (r.render markdown).headings.isSome = true ↔
      ¬ ∀ e ∈ gs.reduceOption, e.listed? = none := by
    rw [← headings_eq_nil_iff, ← hempty, htable, TocBuilder.finish]
    simp
  rw [hlisted]
  constructor
  · intro h
    push Not at h
    obtain ⟨e, he, hne⟩ := h
    obtain ⟨⟨level, anchor⟩, heading⟩ := Option.ne_none_iff_exists'.1 hne
    obtain ⟨rfl, hlevel⟩ := Event.eq_enter_of_listed? heading
    have hmem := (hgapped.mem_iff (by simp [heading])).1 (List.reduceOption_mem_iff.1 he)
    exact ⟨level, anchor, hmem, by simpa using hlevel⟩
  · rintro ⟨level, anchor, hmem, hlevel⟩ hnone
    have heading : (Event.enter (.heading level anchor)).listed? = some (level, anchor) :=
      Event.listed?_heading (by simpa using hlevel) anchor
    have hgap := (hgapped.mem_iff (by simp [heading])).2 hmem
    rw [hnone _ (List.reduceOption_mem_iff.2 hgap)] at heading
    cases heading

end Markdown

/-! ## Custom fields -/

theorem Yaml.get?_of_fieldsToJson {fs : Dict Yaml} {js : Dict Json} (name : String) :
    fieldsToJson fs = .ok js →
      Dict.get? js name = (Dict.get? fs name).bind fun v => v.toJson.toOption := by
  intro h
  induction fs generalizing js with
  | nil =>
    cases h
    rfl
  | cons f fs ih =>
    obtain ⟨j, rest, hj, hrest, rfl⟩ := fieldsToJson_cons_eq_ok_iff.1 h
    obtain ⟨k, v⟩ := f
    by_cases hk : k = name
    · simp [Dict.get?, hk, hj, Except.toOption]
    · simpa [Dict.get?, hk] using ih hrest

namespace Post

/-- What a custom field of a post holds, as templates see it. -/
def customValue? (p : Post) (name : String) : Option Value :=
  (Dict.get? p.extra name).bind fun v => v.toJson.toOption.map Value.ofJson

theorem customValue?_eq_none_iff {p : Post} {name : String}
    (hall : ∀ f ∈ p.extra, f.2.Representable) :
    p.customValue? name = none ↔ name ∉ p.extra.keys := by
  rw [customValue?, ← Dict.get?_eq_none_iff]
  cases hget : Dict.get? p.extra name with
  | none => simp
  | some v =>
    obtain ⟨j, hj⟩ := (Yaml.exists_toJson_iff v).2 (hall _ (Dict.mem_of_get? hget))
    simp [hj, Except.toOption]

theorem nodup_keys_extra_of_parse {pm : PostMaker} {source : Path} {modified : Moment}
    {text : String} {d : Document} {p : Post} :
    Post.parse pm source modified text = .ok (d, p) → p.extra.keys.Nodup := by
  intro h
  obtain ⟨hdoc, rfl⟩ := eq_ofDocument_of_parse h
  have hnodup := Document.nodup_keys_extra_of_parse? hdoc
  exact hnodup.sublist (List.filter_sublist.map Prod.fst)

/-- Templates find a custom field of a post unless its name is taken. -/
theorem exists_value_eq_object {p : Post} {name : String} (categories tags : String)
    (hnodup : p.extra.keys.Nodup) (hall : ∀ f ∈ p.extra, f.2.Representable)
    (hname : name ∉ takenNames) :
    ∃ entries, p.value categories tags = .object entries ∧
      Dict.get? entries name = p.customValue? name := by
  obtain ⟨extra, hextra⟩ := (Yaml.exists_fieldsToJson_iff p.extra).2 hall
  refine ⟨_, value_of_fieldsToJson categories tags hextra, ?_⟩
  have hkeys : extra.keys.Nodup := by
    rw [Yaml.keys_of_fieldsToJson hextra]
    exact hnodup
  -- Neither a link nor an own field has this name.
  have hlinks : ∀ n ∈ (p.links categories tags).keys, n ∈ takenNames := by
    rw [keys_links]
    decide
  have howns : ∀ n ∈ p.ownFields.keys, n ∈ takenNames := by
    rw [keys_ownFields]
    decide
  have hlink : Dict.get? (p.links categories tags).reverse name = none := by
    rw [Dict.get?_reverse (by rw [keys_links]; decide), Dict.get?_eq_none_iff]
    exact fun hmem => hname (hlinks name hmem)
  have hown : Dict.get? p.ownFields.reverse name = none := by
    rw [Dict.get?_reverse (by rw [keys_ownFields]; decide), Dict.get?_eq_none_iff]
    exact fun hmem => hname (howns name hmem)
  rw [Dict.get?_foldl_insert, hlink, Option.none_or, Dict.get?_ofEntries_mapValues,
    Dict.get?_ofEntries_append, hown, Option.or_none, Dict.get?_reverse hkeys,
    Yaml.get?_of_fieldsToJson name hextra, customValue?]
  cases Dict.get? p.extra name <;> rfl

end Post

/-! ## On the page -/

/-- What the headings of a post say under a name: as a list of links, or nested. -/
def contents? (headings : Option (List TocEntry)) : (name : String) → Option Value
  | "toc_html" => headings.map fun entries => .string (TocNode.renderAll (TocNode.nest entries))
  | "toc" => headings.map fun entries => .array (TocNode.values (TocNode.nest entries))
  | _ => none

/-- The names under which a page shows the headings of its post. -/
def contentsNames : List String := ["toc_html", "toc"]

/-- No field with a meaning has one of these names, and so a custom field may have it. -/
theorem not_mem_takenNames_of_mem_contentsNames :
    ∀ name ∈ contentsNames, name ∉ Post.takenNames := by decide

/-- Whether a page shows these headings under both names, and shows nothing if there are none. -/
def ShowsContents (c : Context) (headings : Option (List TocEntry)) : Prop :=
  ∀ name ∈ contentsNames, c.resolve ["page", name] = contents? headings name

@[simp] theorem contents?_none (name : String) : contents? none name = none := by
  unfold contents?
  split <;> rfl

theorem contents?_of_ne (headings : Option (List TocEntry)) {name : String}
    (hhtml : name ≠ "toc_html") (htoc : name ≠ "toc") : contents? headings name = none := by
  unfold contents?
  split
  · exact absurd rfl hhtml
  · exact absurd rfl htoc
  · rfl

namespace Context

variable {c : Context} {path name key : String} {value : Value}

theorem get?_setNested_of_object {entries : Dict Value} (hpath : segments path = [name, key])
    (h : c.get? name = some (.object entries)) :
    (c.setNested path value).get? name = some (.object (Dict.insert entries key value)) := by
  simp [setNested, hpath, h, setBelow]

theorem setNested_of_null (hpath : segments path = [name, key]) (h : c.get? name = some .null) :
    c.setNested path value = c := by
  simp [setNested, hpath, h, setBelow]

theorem resolve_pair {v : Value} (h : c.get? name = some v) :
    c.resolve [name, key] = v.property? key := by
  simp [resolve, h, Value.lookup]

end Context

namespace PageMaker

variable {m : PageMaker} {p : Post} {newer older : Option Post} {c : Context} {name : String}

/-- Headings are put on top of what an object holds under their names. -/
theorem resolve_withHeadings {entries : Dict Value} (headings : Option (List TocEntry))
    (name : String) (hpage : c.get? "page" = some (.object entries)) :
    (withHeadings headings c).resolve ["page", name] =
      (contents? headings name).or (Dict.get? entries name) := by
  cases headings with
  | none =>
    rw [withHeadings, Context.resolve_pair hpage, contents?_none]
    rfl
  | some es =>
    rw [withHeadings, Context.resolve_pair (Context.get?_setNested_of_object segments_toc
      (Context.get?_setNested_of_object segments_toc_html hpage)), Value.property?]
    -- The nested form is set last, and the list of links before it.
    by_cases htoc : name = "toc"
    · subst htoc
      rw [Dict.get?_insert_self]
      rfl
    by_cases hhtml : name = "toc_html"
    · subst hhtml
      rw [Dict.get?_insert_of_ne _ _ (Ne.symm htoc), Dict.get?_insert_self]
      rfl
    · rw [Dict.get?_insert_of_ne _ _ (Ne.symm htoc), Dict.get?_insert_of_ne _ _ (Ne.symm hhtml),
        contents?_of_ne _ hhtml htoc, Option.none_or]

/-- Where a page has nothing instead of an object, headings find no place. -/
theorem resolve_withHeadings_of_null (headings : Option (List TocEntry)) (name : String)
    (hpage : c.get? "page" = some .null) :
    (withHeadings headings c).resolve ["page", name] = none := by
  have hsame : withHeadings headings c = c := by
    cases headings with
    | none => rfl
    | some es =>
      simp only [withHeadings, Context.setNested_of_null segments_toc_html hpage,
        Context.setNested_of_null segments_toc hpage]
  rw [hsame, Context.resolve_pair hpage]
  rfl

theorem resolve_page_postContext (m : PageMaker) (newer : Option Post) (p : Post)
    (older : Option Post) (path : List String) :
    (m.postContext newer p older).resolve ("page" :: path) =
      (withHeadings p.headings ((m.context .post).set "page" (m.postValue p))).resolve
        ("page" :: path) := by
  rw [Context.resolve, postContext, get?_withReference_of_ne _ _ (by decide),
    get?_withReference_of_ne _ _ (by decide)]
  rfl

/-- Under a name that is not taken, a page shows the headings of its post, or else a custom field.
-/
theorem resolve_page_of_representable (hnodup : p.extra.keys.Nodup)
    (hall : ∀ f ∈ p.extra, f.2.Representable) (hname : name ∉ Post.takenNames) :
    (m.postContext newer p older).resolve ["page", name] =
      (contents? p.headings name).or (p.customValue? name) := by
  obtain ⟨entries, hvalue, hentry⟩ := Post.exists_value_eq_object
    m.config.paths.categories m.config.paths.tags hnodup hall hname
  have hpage : ((m.context .post).set "page" (m.postValue p)).get? "page" =
      some (.object entries) := by
    rw [Context.get?_set_self, postValue, hvalue]
  rw [resolve_page_postContext, resolve_withHeadings _ _ hpage, hentry]

theorem resolve_page_of_not_representable (name : String)
    (hnot : ¬ ∀ f ∈ p.extra, f.2.Representable) :
    (m.postContext newer p older).resolve ["page", name] = none := by
  have hpage : ((m.context .post).set "page" (m.postValue p)).get? "page" = some .null := by
    rw [Context.get?_set_self, postValue, Post.value_of_not_representable _ _ hnot]
  rw [resolve_page_postContext, resolve_withHeadings_of_null _ _ hpage]

/-- The page of a post with headings shows them, whatever its custom fields are called, if each of
these has a form as JSON. -/
theorem showsContents_iff_of_isSome (hnodup : p.extra.keys.Nodup)
    (hheadings : p.headings.isSome = true) :
    ShowsContents (m.postContext newer p older) p.headings ↔
      ∀ f ∈ p.extra, f.2.Representable := by
  obtain ⟨es, hes⟩ := Option.isSome_iff_exists.1 hheadings
  have hsome : ∀ name ∈ contentsNames, ∃ v, contents? p.headings name = some v := by
    simp [contentsNames, hes, contents?]
  constructor
  · intro hshows
    -- Otherwise there is nothing on the page of the post, and so nothing under either name.
    refine Classical.byContradiction fun hnot => ?_
    obtain ⟨v, hv⟩ := hsome "toc" (by decide)
    have htoc := hshows "toc" (by decide)
    rw [resolve_page_of_not_representable _ hnot, hv] at htoc
    cases htoc
  · intro hall name hname
    obtain ⟨v, hv⟩ := hsome name hname
    have hfree := not_mem_takenNames_of_mem_contentsNames name hname
    rw [resolve_page_of_representable hnodup hall hfree, hv, Option.some_or]

/-- The page of a post without headings shows none, unless a custom field has the name of the table
and templates see the custom fields. -/
theorem showsContents_iff_of_none (hnodup : p.extra.keys.Nodup) (hheadings : p.headings = none) :
    ShowsContents (m.postContext newer p older) p.headings ↔
      (∀ name ∈ contentsNames, name ∉ p.extra.keys) ∨
        ¬ ∀ f ∈ p.extra, f.2.Representable := by
  by_cases hall : ∀ f ∈ p.extra, f.2.Representable
  · rw [or_iff_left (not_not_intro hall)]
    refine forall₂_congr fun name hname => ?_
    have hfree := not_mem_takenNames_of_mem_contentsNames name hname
    rw [resolve_page_of_representable hnodup hall hfree, hheadings, contents?_none,
      Option.none_or, Post.customValue?_eq_none_iff hall]
  · refine iff_of_true (fun name _ => ?_) (.inr hall)
    rw [resolve_page_of_not_representable _ hall, hheadings, contents?_none]

/-- The page of a post shows the headings of its text, of which there are some if there is one of the
second or third level, and nothing where there are none; but a custom field without a form as JSON
keeps it from showing them, and one with the name of the table is shown where there are none. -/
theorem contents_shown_iff (m : PageMaker) (pm : PostMaker) (source : Path) (modified : Moment)
    (text : String) (d : Document) (p : Post) (newer older : Option Post) :
    Post.parse pm source modified text = .ok (d, p) →
      (p.headings.isSome = true ↔ ∃ level anchor, .enter (.heading level anchor) ∈
        Markdown.events (Repair.repairChars d.body) ∧ (level = 2 ∨ level = 3)) ∧
      (p.headings.isSome = true →
        (ShowsContents (m.postContext newer p older) p.headings ↔
          ∀ f ∈ p.extra, f.2.Representable)) ∧
      (p.headings = none →
        (ShowsContents (m.postContext newer p older) p.headings ↔
          (∀ name ∈ contentsNames, name ∉ p.extra.keys) ∨
            ¬ ∀ f ∈ p.extra, f.2.Representable)) ∧
      ∀ name ∈ contentsNames,
        ((∀ f ∈ p.extra, f.2.Representable) →
          (m.postContext newer p older).resolve ["page", name] =
            (contents? p.headings name).or (p.customValue? name)) ∧
        ((¬ ∀ f ∈ p.extra, f.2.Representable) →
          (m.postContext newer p older).resolve ["page", name] = none) := by
  intro h
  have hnodup := Post.nodup_keys_extra_of_parse h
  have hheadings : p.headings = (pm.renderer.render d.body).headings := by
    rw [(Post.eq_ofDocument_of_parse h).2]
    rfl
  refine ⟨?_, showsContents_iff_of_isSome hnodup, showsContents_iff_of_none hnodup,
    fun name hname => ⟨fun hall => ?_, resolve_page_of_not_representable name⟩⟩
  · rw [hheadings]
    exact Markdown.isSome_headings_render_iff pm.renderer d.body
  · exact resolve_page_of_representable hnodup hall
      (not_mem_takenNames_of_mem_contentsNames name hname)

/-- Two sources with a custom field that has the name of the table: the first one has a heading,
which is shown, and the second one has none, and there the custom field is shown. -/
theorem contents_shown_and_custom_field_shown :
    (∃ d p, Post.parse Post.plainMaker ⟨"a.md"⟩ default "---\ntoc_html: mine\n---\n## A" =
        .ok (d, p) ∧ p.headings.isSome = true ∧
          ∀ (m : PageMaker) newer older, ShowsContents (m.postContext newer p older) p.headings) ∧
      ∃ d p, Post.parse Post.plainMaker ⟨"a.md"⟩ default "---\ntoc_html: mine\n---\nx" =
        .ok (d, p) ∧ p.headings = none ∧ ∀ (m : PageMaker) newer older,
          ¬ ShowsContents (m.postContext newer p older) p.headings ∧
            ((m.postContext newer p older).resolve ["page", "toc_html"]).map Value.text =
              some "mine" := by
  have hfirst : (Document.parse? "---\ntoc_html: mine\n---\n## A").any (fun d =>
      let p := Post.ofDocument Post.plainMaker ⟨"a.md"⟩ default d
      p.headings.isSome && (Yaml.fieldsToJson p.extra).isOk) = true := by
    decide +kernel
  have hsecond : (Document.parse? "---\ntoc_html: mine\n---\nx").any (fun d =>
      let p := Post.ofDocument Post.plainMaker ⟨"a.md"⟩ default d
      p.headings.isNone && (Yaml.fieldsToJson p.extra).isOk &&
        (p.customValue? "toc_html").map Value.text = some "mine") = true := by
    decide +kernel
  constructor
  · obtain ⟨d, hd, hpost⟩ := (Option.any_eq_true _ _).1 hfirst
    obtain ⟨hheadings, hall⟩ := Bool.and_eq_true_iff.1 hpost
    have hparse : Post.parse Post.plainMaker ⟨"a.md"⟩ default
        "---\ntoc_html: mine\n---\n## A" =
          .ok (d, Post.ofDocument Post.plainMaker ⟨"a.md"⟩ default d) := by
      rw [Post.parse, hd]
    refine ⟨d, _, hparse, hheadings, fun m newer older => ?_⟩
    have hshown := contents_shown_iff m _ _ _ _ _ _ newer older hparse
    exact (hshown.2.1 hheadings).2 ((Yaml.isOk_fieldsToJson_iff _).1 hall)
  · obtain ⟨d, hd, hpost⟩ := (Option.any_eq_true _ _).1 hsecond
    obtain ⟨hpost, htext⟩ := Bool.and_eq_true_iff.1 hpost
    obtain ⟨hheadings, hall⟩ := Bool.and_eq_true_iff.1 hpost
    have hnone := Option.isNone_iff_eq_none.1 hheadings
    have hparse : Post.parse Post.plainMaker ⟨"a.md"⟩ default "---\ntoc_html: mine\n---\nx" =
        .ok (d, Post.ofDocument Post.plainMaker ⟨"a.md"⟩ default d) := by
      rw [Post.parse, hd]
    refine ⟨d, _, hparse, hnone, fun m newer older => ?_⟩
    obtain ⟨-, -, hshows, hfound⟩ := contents_shown_iff m _ _ _ _ _ _ newer older hparse
    have hall := (Yaml.isOk_fieldsToJson_iff _).1 hall
    have hmine := of_decide_eq_true htext
    constructor
    · rw [hshows hnone, or_iff_left (not_not_intro hall)]
      intro hfree
      have hgone := (Post.customValue?_eq_none_iff hall).2 (hfree "toc_html" (by decide))
      rw [hgone] at hmine
      cases hmine
    · rw [(hfound "toc_html" (by decide)).1 hall, hnone, contents?_none, Option.none_or]
      exact hmine

end PageMaker
end StaticBlog
