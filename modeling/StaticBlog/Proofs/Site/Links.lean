import StaticBlog.Proofs.Disk.Walk
import StaticBlog.Proofs.Site.Files
import StaticBlog.Proofs.Site.Inventory
import StaticBlog.Proofs.Url.Segments

/-!
# Where links lead

- `resolveHtml?_of_isFile` : a request leads to the page in the directory that it names
- `exists_of_resolveHtml?` : where a request can lead
- `label_links_lead_to_pages` : the address of a label leads to the page of the label
- `post_links_lead_to_pages_iff` : when the address of a post leads to the page of the post
-/

namespace StaticBlog

variable {d : Disk} {root : Path} {uri : String} {names : List (List Char)}

/-! ## Requests -/

/-- The names that a request asks for are names of files or directories. -/
theorem isName_of_requestSegments? (h : requestSegments? uri = some names) :
    ∀ n ∈ names.map String.ofList, Path.IsName n := by
  intro n hn
  rcases List.mem_map.1 hn with ⟨w, hw, rfl⟩
  rcases Url.decode?_of_requestSegments? h with ⟨t, -, rfl, hsafe⟩
  rcases List.mem_filter.1 hw with ⟨hpiece, hplain⟩
  have hslash : '/' ∉ w := Text.not_mem_of_mem_splitWhere rfl hpiece
  have hne : w ≠ [] ∧ w ≠ ['.'] := by simpa using hplain
  exact Path.isName_ofList hslash hne.1 hne.2 (hsafe w hw).1

theorem foldl_join_ofList (root : Path) (names : List (List Char)) :
    names.foldl (fun p w => p.join (String.ofList w)) root =
      root.down (names.map String.ofList) := by
  rw [Path.down, List.foldl_map]

theorem isHtml_index (p : Path) : isHtml (p.join "index.html") = true := by
  have hsplit : Path.splitName "index.html" = ("index", some "html") := by decide
  have hname : (p.join "index.html").fileName? = some "index.html" := by
    rw [Path.fileName?, Path.components_join p (by decide)]
    simp
  rw [isHtml, Path.suffix?, hname, Option.bind_some, hsplit]
  rfl

/-- Paths below a directory are the same only if the same names lead to them. -/
theorem eq_of_down_eq {ms ns : List String} (hms : ∀ n ∈ ms, Path.IsName n)
    (hns : ∀ n ∈ ns, Path.IsName n) (h : root.down ms = root.down ns) : ms = ns := by
  have hcomponents : root.components ++ ms.map Path.Component.name =
      root.components ++ ns.map .name := by
    rw [← Path.components_down root hms, ← Path.components_down root hns, h]
  exact List.map_injective_iff.2 (fun _ _ heq => Path.Component.name.inj heq)
    (List.append_cancel_left hcomponents)

/-- A request leads to the page in the directory that it names. -/
theorem resolveHtml?_of_isFile (hnames : requestSegments? uri = some names)
    (hroot : names ≠ [] ∨ root.text ≠ "")
    (hfile : d.isFile (root.down (names.map String.ofList ++ ["index.html"])) = true) :
    resolveHtml? d root uri = some (root.down (names.map String.ofList ++ ["index.html"])) := by
  have hindex : root.down (names.map String.ofList ++ ["index.html"]) =
      (root.down (names.map String.ofList)).join "index.html" := Path.down_concat root _ _
  have hdir : d.isDirectory (root.down (names.map String.ofList)) = true := by
    -- A file below it is there, so the path of the names leads to a directory.
    rcases Disk.isFile_iff.1 hfile with ⟨m, content, modified, hentry⟩
    have htext : (root.down (names.map String.ofList)).text ≠ "" := by
      rcases List.eq_nil_or_concat (names.map String.ofList) with hnil | ⟨front, n, hlast⟩
      · rw [hnil]
        exact hroot.resolve_left fun hne => hne (List.map_eq_nil_iff.1 hnil)
      · rw [List.concat_eq_append] at hlast
        have hn := isName_of_requestSegments? hnames n (by simp [hlast])
        rw [hlast, Path.down_concat]
        intro hempty
        have hne := (Path.toList_join_ne (root.down front) hn).1
        simp [hempty] at hne
    rw [hindex] at hentry
    have hbelow : (root.down (names.map String.ofList)).join "index.html" =
        (root.down (names.map String.ofList)).down ["index.html"] := rfl
    rw [hbelow] at hentry
    exact Disk.isDirectory_iff.2
      (Disk.entry_of_entry_down htext (by decide) (by simp) hentry)
  rw [hindex] at hfile ⊢
  simp [resolveHtml?, hnames, foldl_join_ofList, hdir, isHtml_index, hfile]

/-- A request leads to what its names lead to, or to the page in that directory. -/
theorem exists_of_resolveHtml? {p : Path} :
    resolveHtml? d root uri = some p →
      ∃ names, requestSegments? uri = some names ∧
        (p = root.down (names.map String.ofList) ∨
          p = root.down (names.map String.ofList ++ ["index.html"])) := by
  intro h
  cases hnames : requestSegments? uri with
  | none =>
    rw [resolveHtml?, hnames] at h
    cases h
  | some names =>
    refine ⟨names, rfl, ?_⟩
    simp only [resolveHtml?, hnames, Option.bind_eq_bind, Option.bind_some, foldl_join_ofList] at h
    split at h
    · have heq := Option.some.inj (Option.ite_none_right_eq_some.1 h).2
      exact Or.inr (heq.symm.trans (Path.down_concat root _ _).symm)
    · have heq := Option.some.inj (Option.ite_none_right_eq_some.1 h).2
      exact Or.inl heq.symm

/-! ## Labels -/

namespace Site

open Url

/-- The address of a label asks for the names in the directory setting and then for the directory name
of the label. So it leads to the page of the label wherever that is, and the page is there once the
pages of the labels have been written. -/
theorem label_links_lead_to_pages (dir label : String) (hpercent : '%' ∉ dir.toList)
    (hback : '\\' ∉ dir.toList) (hup : ['.', '.'] ∉ Text.splitWhere Path.isSlash dir.toList) :
    requestSegments? (labelUrl dir label) =
        some (pathNames dir.toList ++ [labelSegmentChars label.toList]) ∧
      (∀ d output, d.isFile (indexFile output (labelPath dir label)) = true →
        resolveHtml? d output (labelUrl dir label) = some (indexFile output (labelPath dir label))) ∧
      ∀ (s : Site) (m : PageMaker) k name groups before after, label ∈ groups.map Prod.fst →
        Work.Runs (s.writePages (m.labelPages k name dir groups)) before () after →
          resolveHtml? after.disk s.output (labelUrl dir label) =
            some (indexFile s.output (labelPath dir label)) := by
  have hnames := requestSegments?_of_label label hpercent hback hup
  have hleads : ∀ d output, d.isFile (indexFile output (labelPath dir label)) = true →
      resolveHtml? d output (labelUrl dir label) =
        some (indexFile output (labelPath dir label)) := by
    intro d output hfile
    have hplace : indexFile output (labelPath dir label) = output.down
        ((pathNames dir.toList ++ [labelSegmentChars label.toList]).map String.ofList ++
          ["index.html"]) := by
      rw [indexFile_eq_down, pageNames, segments_labelPath_eq label hback hup]
    rw [hplace] at hfile ⊢
    exact resolveHtml?_of_isFile hnames (Or.inl (by simp)) hfile
  refine ⟨hnames, hleads, ?_⟩
  intro s m k name groups before after hlabel hrun
  rcases List.mem_map.1 hlabel with ⟨group, hgroup, rfl⟩
  have hpage : m.labelPage k name dir group ∈ m.labelPages k name dir groups :=
    List.mem_map_of_mem hgroup
  have hthere := (isFile_of_writePages hrun).2 _ hpage
  rw [fileOf, PageMaker.labelPage] at hthere
  exact hleads after.disk s.output hthere

/-- A label with slashes in it, below a directory that is spelled with more slashes than it needs. -/
theorem label_link_of_slashes :
    requestSegments? (labelUrl "/./tags/" " C/C++ ") = some ["tags".toList, "C-C++".toList] ∧
      ∃ after, Work.Runs (smallSite.writePages
          (PageMaker.standard.labelPages .tag "tag" "/./tags/" [(" C/C++ ", [])])) ⟨smallDisk, []⟩ ()
            after ∧
        resolveHtml? after.disk smallSite.output (labelUrl "/./tags/" " C/C++ ") =
          some ⟨"/s/o/tags/C-C++/index.html"⟩ := by
  have hlinks := label_links_lead_to_pages "/./tags/" " C/C++ " (by decide) (by decide) (by decide)
  have hok : ((smallSite.writePages (PageMaker.standard.labelPages .tag "tag" "/./tags/"
      [(" C/C++ ", [])])).runOn smallDisk).1.isOk = true := by decide +kernel
  refine ⟨hlinks.1, ?_⟩
  cases hrun : (smallSite.writePages (PageMaker.standard.labelPages .tag "tag" "/./tags/"
      [(" C/C++ ", [])])).runOn smallDisk with
  | mk result after =>
    rw [hrun] at hok
    cases result with
    | error e => cases hok
    | ok u =>
      have hleads := hlinks.2.2 smallSite .standard .tag "tag" [(" C/C++ ", [])] _ after
        (by decide) hrun
      refine ⟨after, hrun, hleads.trans ?_⟩
      decide +kernel

/-! ## Posts -/

/-- The site path of a post that a source tells is made of names with slashes between. -/
theorem exists_names_of_parse {m : PostMaker} {source : Path} {modified : Moment} {text : String}
    {d : Document} {p : Post} :
    Post.parse m source modified text = .ok (d, p) →
      ∃ ws, p.url.toList = Text.joinWith ['/'] ws ∧
        ∀ w ∈ ws, isPlainSegment w = true ∧ '/' ∉ w := by
  intro h
  obtain ⟨-, rfl⟩ := Post.eq_ofDocument_of_parse h
  exact exists_segments_expandPermalink _ _ _

/-- Where the file of a site path is, a request for the path leads to it exactly if the path holds
neither a backslash nor a complete escape. -/
theorem resolveHtml?_pageUrl_iff {path : String} {ws : List (List Char)}
    (hpath : path.toList = Text.joinWith ['/'] ws)
    (hws : ∀ w ∈ ws, isPlainSegment w = true ∧ '/' ∉ w) (hroot : root.text ≠ "")
    (hfile : d.isFile (indexFile root path) = true) :
    resolveHtml? d root (pageUrl path) = some (indexFile root path) ↔
      '\\' ∉ path.toList ∧ ¬ Percent.HasEscape path.toList := by
  -- Without backslashes the segments of the path are the names that it is made of.
  have hsegments : '\\' ∉ path.toList → pageNames path = ws.map String.ofList ++ ["index.html"] := by
    intro hback
    rw [pageNames, segments_of_joinWith hpath hws hback]
  have hname : ∀ path, ∀ n ∈ pageNames path, Path.IsName n := fun _ _ => isName_of_mem_pageNames
  constructor
  · intro h
    rcases exists_of_resolveHtml? h with ⟨names, hnames, hplace⟩
    rcases of_requestSegments?_pageUrl hpath hws hnames with ⟨hback, hshorter⟩
    refine ⟨hback, fun hescape => ?_⟩
    -- The names of the path are among those that are asked for, which are too short for that.
    have hasked := isName_of_requestSegments? hnames
    have hsub : ws.Sublist names := by
      rw [indexFile_eq_down] at hplace
      rcases hplace with hplace | hplace
      · have heq := eq_of_down_eq (hname path) hasked hplace
        have hmap : (ws ++ ["index.html".toList]).map String.ofList = names.map String.ofList := by
          rw [← heq, hsegments hback]
          simp
        rw [← List.map_injective_iff.2 (fun _ _ h => String.ofList_injective h) hmap]
        exact List.sublist_append_left ws _
      · have hasked' : ∀ n ∈ names.map String.ofList ++ ["index.html"], Path.IsName n := by
          intro n hn
          rcases List.mem_append.1 hn with hn | hn
          · exact hasked n hn
          · rw [List.mem_singleton.1 hn]
            decide
        have heq := eq_of_down_eq (hname path) hasked' hplace
        rw [hsegments hback] at heq
        have hmap := List.append_cancel_right heq
        rw [List.map_injective_iff.2 (fun _ _ h => String.ofList_injective h) hmap]
    have hlt := hshorter hescape
    have hjoin : (Text.joinWith ['/'] ws).Sublist (Text.joinWith ['/'] names) :=
      Text.joinWith_sublist hsub
    rw [← hpath] at hjoin
    have hle := Percent.length_bytes_le_of_sublist hjoin
    exact absurd hlt (Nat.not_lt.2 hle)
  · rintro ⟨hback, hescape⟩
    have hnames := requestSegments?_pageUrl hpath hws hback hescape
    rw [indexFile_eq_down, hsegments hback] at hfile ⊢
    exact resolveHtml?_of_isFile hnames (Or.inr hroot) hfile

/-- Once the pages of posts have been written, the address of a post leads to the page of the post
exactly if the site path of the post holds neither a backslash nor a complete escape. -/
theorem post_links_lead_to_pages_iff (s : Site) (m : PageMaker) (newer : Option Post)
    (posts : List Post) (before after : Session)
    (hparsed : ∀ p ∈ posts, ∃ maker source modified text d,
      Post.parse maker source modified text = .ok (d, p))
    (hclean : s.outputHoldsSources = false) :
    Work.Runs (s.writePages (m.postPages newer posts)) before () after →
      ∀ p ∈ posts,
        (resolveHtml? after.disk s.output (pageUrl p.url) = some (indexFile s.output p.url) ↔
          '\\' ∉ p.url.toList ∧ ¬ Percent.HasEscape p.url.toList) := by
  intro h p hp
  rcases hparsed p hp with ⟨maker, source, modified, text, d, hparse⟩
  rcases exists_names_of_parse hparse with ⟨ws, hpath, hws⟩
  have hpage : p.url ∈ (m.postPages newer posts).map (·.path) := by
    rw [m.paths_postPages posts newer]
    exact List.mem_map_of_mem hp
  rcases List.mem_map.1 hpage with ⟨page, hpage, hurl⟩
  have hthere := (isFile_of_writePages h).2 page hpage
  rw [fileOf, hurl] at hthere
  exact resolveHtml?_pageUrl_iff hpath hws (output_ne_empty hclean) hthere

/-- Makes posts that are found under their slugs. -/
def slugMaker : PostMaker := ⟨{ permalink := ":title" }, ⟨fun _ _ => none, false⟩⟩

/-- The site paths of two posts, of which the second holds a complete escape. The address of the first
one leads to its page, that of the second one does not. -/
theorem post_links_without_and_with_escape :
    ∃ (d d' : Document) (p p' : Post) (after : Session),
      Post.parse slugMaker ⟨"a.md"⟩ default "---\nslug: 100%\n---\n" = .ok (d, p) ∧
        Post.parse slugMaker ⟨"b.md"⟩ default "---\nslug: 100%41\n---\n" = .ok (d', p') ∧
          Work.Runs (smallSite.writePages (PageMaker.standard.postPages none [p, p'])) ⟨smallDisk, []⟩ ()
            after ∧
            resolveHtml? after.disk smallSite.output (pageUrl p.url) =
              some (indexFile smallSite.output p.url) ∧
            resolveHtml? after.disk smallSite.output (pageUrl p'.url) ≠
              some (indexFile smallSite.output p'.url) := by
  have hcheck : (Document.parse? "---\nslug: 100%\n---\n").any (fun d =>
      (Document.parse? "---\nslug: 100%41\n---\n").any fun d' =>
        let p := Post.ofDocument slugMaker ⟨"a.md"⟩ default d
        let p' := Post.ofDocument slugMaker ⟨"b.md"⟩ default d'
        p.url = "100%" && p'.url = "100%41" &&
          ((smallSite.writePages (PageMaker.standard.postPages none [p, p'])).runOn smallDisk).1.isOk) =
        true := by
    decide +kernel
  rcases (Option.any_eq_true _ _).1 hcheck with ⟨d, hd, hcheck'⟩
  rcases (Option.any_eq_true _ _).1 hcheck' with ⟨d', hd', hboth⟩
  simp only [Bool.and_eq_true, decide_eq_true_eq] at hboth
  rcases hboth with ⟨⟨hurl, hurl'⟩, hok⟩
  have hparse : Post.parse slugMaker ⟨"a.md"⟩ default "---\nslug: 100%\n---\n" =
      .ok (d, Post.ofDocument slugMaker ⟨"a.md"⟩ default d) := by
    rw [Post.parse, hd]
  have hparse' : Post.parse slugMaker ⟨"b.md"⟩ default "---\nslug: 100%41\n---\n" =
      .ok (d', Post.ofDocument slugMaker ⟨"b.md"⟩ default d') := by
    rw [Post.parse, hd']
  generalize Post.ofDocument slugMaker ⟨"a.md"⟩ default d = p at hurl hok hparse
  generalize Post.ofDocument slugMaker ⟨"b.md"⟩ default d' = p' at hurl' hok hparse'
  cases hrun : (smallSite.writePages (PageMaker.standard.postPages none [p, p'])).runOn smallDisk with
  | mk result after =>
    rw [hrun] at hok
    cases result with
    | error e => cases hok
    | ok u =>
      have hparsed : ∀ q ∈ [p, p'], ∃ maker source modified text d,
          Post.parse maker source modified text = .ok (d, q) := by
        intro q hq
        rcases List.mem_pair.1 hq with rfl | rfl
        · exact ⟨_, _, _, _, _, hparse⟩
        · exact ⟨_, _, _, _, _, hparse'⟩
      have hlinks := post_links_lead_to_pages_iff smallSite .standard none [p, p']
        ⟨smallDisk, []⟩ after hparsed (by decide +kernel) hrun
      refine ⟨d, d', p, p', after, hparse, hparse', hrun, ?_, ?_⟩
      · refine (hlinks p (by simp)).2 ⟨by rw [hurl]; decide, ?_⟩
        rw [hurl]
        exact Percent.decode?_eq_self_iff.1 (by decide +kernel)
      · intro hleads
        have hescape : Percent.HasEscape p'.url.toList := by
          rw [hurl']
          exact ⟨"100".toList, '4', '1', [], by decide, by decide, by decide⟩
        exact ((hlinks p' (by simp)).1 hleads).2 hescape
end Site
end StaticBlog
