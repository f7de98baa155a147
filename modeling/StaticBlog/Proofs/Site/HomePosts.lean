import StaticBlog.Proofs.Post.Permalinks
import StaticBlog.Proofs.Post.Shown
import StaticBlog.Proofs.Site.Files
import StaticBlog.Proofs.Site.HomePages

/-!
# Posts at the home page

A post has the file of the home page if its site path leads to no directory. The home page, which is
written later, takes its place.

- `Url.indexFile_eq_home_iff` : which paths have the file of the home page
- `leadsNowhere_expandPermalink_iff` : which templates and slugs make such a path
- `Site.readText_home` : what the file of the home page holds
- `Site.post_at_home_iff` : which posts have that file, and what becomes of their pages
-/

namespace StaticBlog

open Disk (Open)
open Url (LeadsNowhere indexFile)

/-! ## Paths -/

/-- A path has the file of the home page exactly if it leads to no directory. -/
theorem Url.indexFile_eq_home_iff {output : Path} {path : String} :
    indexFile output path = indexFile output "" ↔ LeadsNowhere path.toList := by
  rw [← segments_eq_nil_iff, indexFile_eq_down, indexFile_eq_down]
  have hhome : pageNames "" = ["index.html"] := rfl
  constructor
  · intro h
    have hnames := eq_of_down_eq (fun _ => isName_of_mem_pageNames)
      (fun _ => isName_of_mem_pageNames) h
    rw [hhome, pageNames] at hnames
    simpa using hnames
  · intro h
    rw [hhome, pageNames, h]
    rfl

/-- The site path of a post leads nowhere exactly if its template has no part of a date, and leads
nowhere with the slug filled in. -/
theorem leadsNowhere_expandPermalink_iff (template : String) (date : Moment) (slug : String) :
    LeadsNowhere (expandPermalink template date slug).toList ↔
      (∀ q ∈ datePlaceholders, ¬q.toList <:+: template.toList) ∧
        LeadsNowhere (Text.replace ":title".toList slug.toList template.toList) := by
  rw [expandPermalink, String.toList_ofList, expandPermalinkChars, ← Url.segments_eq_nil_iff,
    Url.segments_plainPath, Url.segments_eq_nil_iff]
  by_cases hdate : ∀ q ∈ datePlaceholders, ¬q.toList <:+: template.toList
  · rw [fillPermalink_of_undated hdate, and_iff_right hdate]
  · refine iff_of_false (fun hnowhere => ?_) fun h => hdate h.1
    push Not at hdate
    obtain ⟨q, hq, hmem⟩ := hdate
    -- A digit or a dash of the date is neither a slash nor a dot.
    obtain ⟨c, hc, hpart⟩ := exists_mem_fillPermalink hq hmem date slug.toList
    rcases hnowhere.eq_of_mem hc with rfl | rfl | rfl <;> revert hpart <;> decide

/-- A template of nothing but slashes leads nowhere, whatever the slug is. -/
theorem leadsNowhere_of_slashes {template : String} (h : ∀ c ∈ template.toList, c = '/')
    (date : Moment) (slug : String) :
    LeadsNowhere (expandPermalink template date slug).toList := by
  have hcolon : ':' ∉ template.toList := fun hmem => absurd (h ':' hmem) (by decide)
  refine (leadsNowhere_expandPermalink_iff template date slug).2 ⟨fun q hq hmem => ?_, ?_⟩
  · have hmark : ∀ q ∈ datePlaceholders, ':' ∈ q.toList := by decide
    exact hcolon (hmem.subset (hmark q hq))
  · have hkept : Text.replace ":title".toList slug.toList template.toList = template.toList :=
      Text.replaceFrom_of_not_mem hcolon
    rw [hkept]
    intro w hw
    refine .inl (List.eq_nil_iff_forall_not_mem.2 fun c hc => ?_)
    obtain ⟨hmem, hslash⟩ := Text.mem_and_eq_false_of_mem_splitWhere hw hc
    rw [h c hmem] at hslash
    cases hslash

/-! ## The home page -/

namespace Site

variable {s : Site} {m : PageMaker} {posts : List Post} {o : Place} {before after : Session}

/-- The home listing begins with the home page, and the others are in directories of their own. -/
theorem exists_homeListing_eq_cons (m : PageMaker) (posts : List Post) :
    ∃ home rest, m.homeListing posts = home :: rest ∧ home.number = 1 ∧
      ∀ page ∈ rest, 1 < page.number := by
  have hnumbers := (m.numbers_homeListing posts).1
  obtain ⟨k, hk⟩ : ∃ k, max 1 (pageCount m.config.pagination.postsPerPage posts.length) = k + 1 :=
    Nat.exists_eq_add_of_le' (Nat.le_max_left 1 _)
  rw [hk, List.range'_succ] at hnumbers
  obtain ⟨home, rest, hlisting, hhome, hrest⟩ := List.map_eq_cons_iff.1 hnumbers
  refine ⟨home, rest, hlisting, hhome, fun page hpage => ?_⟩
  have hmem : page.number ∈ rest.map (·.number) := List.mem_map_of_mem hpage
  rw [hrest, List.mem_range'_1] at hmem
  omega

/-- Once the pages of posts and of the home listing have been written, the file of the home page holds
the first page of the listing. -/
theorem readText_home (hopen : Open s.output o before.disk) :
    Work.Runs (s.writePages (m.postPages none posts ++
        m.indexPages (Collections.ofPosts m.config.pagination.postsPerPage posts).pages))
      before () after →
      ∃ home ∈ m.homeListing posts, home.number = 1 ∧
        after.disk.readText (indexFile s.output "") = .ok (m.indexPage home).html := by
  intro h
  obtain ⟨home, rest, hlisting, hhome, hrest⟩ := exists_homeListing_eq_cons m posts
  have hpages : m.indexPages (Collections.ofPosts m.config.pagination.postsPerPage posts).pages =
      m.indexPage home :: rest.map m.indexPage := by
    rw [← List.map_cons, ← hlisting]
    exact m.indexPages_eq posts
  have hpath : (m.indexPage home).path = "" := by
    rw [PageMaker.indexPage, hhome]
    rfl
  refine ⟨home, hlisting ▸ List.mem_cons_self, hhome, ?_⟩
  rw [hpages] at h
  rw [← hpath]
  refine readText_of_writePages hopen (fun other hother hsame => ?_) h
  obtain ⟨page, hpage, rfl⟩ := List.mem_map.1 hother
  -- No other page of the listing has the file of the first one.
  have hlater := hrest page hpage
  have heq := Url.eq_of_indexFile_listingPath hhome.ge hlater.le hsame
  omega

/-- A post has the file of the home page exactly if the template of its site has no part of a date, and
is nothing but slashes and dots when the slug is filled in. With the templates that a site refuses
every post would have it. The page of such a post is lost: once the home listing has been written, the
file holds the home page. -/
theorem post_at_home_iff (s : Site) (source : Path) (modified : Moment) (text : String) (d : Document)
    (p : Post) :
    Post.parse s.postMaker source modified text = .ok (d, p) →
      (indexFile s.output p.url = indexFile s.output "" ↔
        (∀ q ∈ datePlaceholders, ¬q.toList <:+: s.config.permalink.toList) ∧
          LeadsNowhere (Text.replace ":title".toList p.slug.toList s.config.permalink.toList)) ∧
      (s.config.fault? = some .emptyPermalink →
        indexFile s.output p.url = indexFile s.output "") ∧
      ∀ (m : PageMaker) (posts : List Post) (o : Place) (before after : Session),
        Open s.output o before.disk →
        Work.Runs (s.writePages (m.postPages none posts ++
            m.indexPages (Collections.ofPosts m.config.pagination.postsPerPage posts).pages))
          before () after →
        indexFile s.output p.url = indexFile s.output "" →
          ∃ home ∈ m.homeListing posts, home.number = 1 ∧
            after.disk.readText (indexFile s.output p.url) = .ok (m.indexPage home).html := by
  intro h
  obtain ⟨-, rfl⟩ := Post.eq_ofDocument_of_parse h
  refine ⟨?_, fun hfault => ?_, fun m posts o before after hopen hrun hhome => ?_⟩
  · rw [Url.indexFile_eq_home_iff]
    exact leadsNowhere_expandPermalink_iff _ _ _
  · refine Url.indexFile_eq_home_iff.2 (leadsNowhere_of_slashes ?_ _ _)
    unfold SiteConfig.fault? at hfault
    split at hfault
    · cases hfault
    · split at hfault
      · next hslashes =>
        intro c hc
        simpa using List.all_eq_true.1 hslashes c hc
      · cases hfault
  · rw [hhome]
    exact readText_home hopen hrun

/-- Makes pages that show nothing but the title of a post, and a home page without posts. -/
def titlePages : PageMaker :=
  ⟨{}, ⟨[(.post, Template.parse "[\x7b\x7bpage.title\x7d\x7d]"), (.index, Template.parse "[home]")], ""⟩,
    {}⟩

/-- A site with a dot for the template of its permalinks, which it does not refuse. -/
def dotSite : Site := { smallSite with config := { smallSite.config with permalink := "." } }

/-- The page of a post is written to the file of the home page, which holds the home page then. -/
theorem page_of_post_lost : dotSite.config.fault? = none ∧
    ∃ d p after, Post.parse dotSite.postMaker ⟨"a.md"⟩ default "---\ntitle: Dots\n---\nx" = .ok (d, p) ∧
      (titlePages.postPages none [p]).map (·.html) = ["[Dots]"] ∧
      Work.Runs (dotSite.writePages (titlePages.postPages none [p] ++
        titlePages.indexPages (Collections.ofPosts titlePages.config.pagination.postsPerPage
          [p]).pages)) ⟨smallDisk, []⟩ () after ∧
      indexFile dotSite.output p.url = indexFile dotSite.output "" ∧
      after.disk.readText (indexFile dotSite.output p.url) = .ok "[home]" := by
  refine ⟨rfl, ?_⟩
  have hpost : (Document.parse? "---\ntitle: Dots\n---\nx").any (fun d =>
      let p := Post.ofDocument dotSite.postMaker ⟨"a.md"⟩ default d
      let pages := titlePages.postPages none [p] ++ titlePages.indexPages
        (Collections.ofPosts titlePages.config.pagination.postsPerPage [p]).pages
      (titlePages.postPages none [p]).map (·.html) = ["[Dots]"] && p.slug = "a" &&
        (titlePages.homeListing [p]).all (fun home => (titlePages.indexPage home).html = "[home]") &&
        ((dotSite.writePages pages).runOn smallDisk).1.isOk) = true := by
    decide +kernel
  obtain ⟨d, hd, hpost⟩ := (Option.any_eq_true _ _).1 hpost
  obtain ⟨hpost, hok⟩ := Bool.and_eq_true_iff.1 hpost
  obtain ⟨hpost, hhomes⟩ := Bool.and_eq_true_iff.1 hpost
  obtain ⟨htitle, hslug⟩ := Bool.and_eq_true_iff.1 hpost
  have hparse : Post.parse dotSite.postMaker ⟨"a.md"⟩ default "---\ntitle: Dots\n---\nx" =
      .ok (d, Post.ofDocument dotSite.postMaker ⟨"a.md"⟩ default d) := by
    rw [Post.parse, hd]
  have hopen : Open dotSite.output ["s", "o"] smallDisk := by
    refine ⟨rfl, Disk.unlinked_of_forall ?_⟩
    simp [smallDisk]
  cases hrun : (dotSite.writePages (titlePages.postPages none
      [Post.ofDocument dotSite.postMaker ⟨"a.md"⟩ default d] ++ titlePages.indexPages
        (Collections.ofPosts titlePages.config.pagination.postsPerPage
          [Post.ofDocument dotSite.postMaker ⟨"a.md"⟩ default d]).pages)).runOn smallDisk with
  | mk result after =>
    rw [hrun] at hok
    cases result with
    | error e => cases hok
    | ok u =>
      obtain ⟨hiff, -, hlost⟩ := post_at_home_iff dotSite ⟨"a.md"⟩ default _ d _ hparse
      have hhome := hiff.2 (by rw [of_decide_eq_true hslug]; decide)
      obtain ⟨home, hmem, -, hread⟩ := hlost titlePages _ _ _ after hopen hrun hhome
      rw [of_decide_eq_true (List.all_eq_true.1 hhomes home hmem)] at hread
      exact ⟨d, _, after, hparse, of_decide_eq_true htitle, hrun, hhome, hread⟩

end Site
end StaticBlog
