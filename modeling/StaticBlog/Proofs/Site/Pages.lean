import StaticBlog.Proofs.Collection.Counts
import StaticBlog.Proofs.Path.Below
import StaticBlog.Site.Pages
import StaticBlog.Url

/-!
# Where the pages of a site are

- `IsPagePath` : the site paths of the pages of a site
- `PageMaker.exists_page_iff` : the pages that are made have these paths, and no others
- `PageMaker.length_pages` : how many there are
- `Url.indexFile_eq_down` : the file of a page is below the output directory
-/

namespace StaticBlog

/-! ## Site paths -/

/-- The site paths of the pages of a site with these posts. -/
inductive IsPagePath (c : SiteConfig) (posts : List Post) : String → Prop
  | post {p : Post} : p ∈ posts → IsPagePath c posts p.url
  | home : IsPagePath c posts ""
  | listing {k : Nat} : 2 ≤ k → k ≤ pageCount c.pagination.postsPerPage posts.length →
      IsPagePath c posts (listingPath c.pagination.path k)
  | category {p : Post} {label : String} : p ∈ posts → label ∈ p.categories →
      IsPagePath c posts (labelPath c.paths.categories label)
  | tag {p : Post} {label : String} : p ∈ posts → label ∈ p.tags →
      IsPagePath c posts (labelPath c.paths.tags label)
  | archives : IsPagePath c posts c.paths.archives
  | categories : IsPagePath c posts c.paths.categories
  | tags : IsPagePath c posts c.paths.tags

/-- The labels that posts have, each one once. -/
def distinct (labels : Post → List String) (posts : List Post) : List String :=
  (posts.flatMap labels).eraseDups

namespace PageMaker

variable (m : PageMaker) (posts : List Post)

theorem paths_postPages (newer : Option Post) :
    (m.postPages newer posts).map (·.path) = posts.map (·.url) := by
  induction posts generalizing newer with
  | nil => rfl
  | cons p older ih => simp [postPages, ih]

theorem paths_labelPages (k : PageKind) (name dir : String) (labels : Post → List String) :
    (m.labelPages k name dir (groupBy labels posts)).map (·.path) =
      (distinct labels posts).map (labelPath dir) := by
  have hkeys := keys_groupBy labels posts
  rw [distinct, ← hkeys, Groups.keys, labelPages, List.map_map, List.map_map]
  rfl

theorem length_labelPages (k : PageKind) (name dir : String) (labels : Post → List String) :
    (m.labelPages k name dir (groupBy labels posts)).length = (distinct labels posts).length := by
  have hpaths := congrArg List.length (m.paths_labelPages posts k name dir labels)
  simpa using hpaths

/-- The listing has a page without a number, and one for each number from two on. -/
theorem mem_indexPages_iff {perPage : Nat} {path : String} :
    path ∈ (m.indexPages (paginate perPage posts)).map (·.path) ↔
      path = "" ∨ ∃ k, 2 ≤ k ∧ k ≤ pageCount perPage posts.length ∧
        path = listingPath m.config.pagination.path k := by
  have hnumber : ∀ k, (∃ page ∈ paginate perPage posts, page.number = k) ↔
      1 ≤ k ∧ k ≤ pageCount perPage posts.length := fun k => exists_paginate_iff
  have hlength := length_paginate perPage posts
  cases hpages : paginate perPage posts with
  | nil =>
    -- Without posts the listing is one page, and there are no numbers.
    have hzero : pageCount perPage posts.length = 0 := by simpa [hpages] using hlength.symm
    have hnone : ¬ ∃ k, 2 ≤ k ∧ k ≤ pageCount perPage posts.length ∧
        path = listingPath m.config.pagination.path k := by
      rintro ⟨k, hlow, hhigh, -⟩
      omega
    rw [or_iff_left hnone]
    simp [indexPages, indexPage, listingPath]
  | cons first rest =>
    rw [hpages, List.length_cons] at hlength
    rw [← hpages]
    have hindex : m.indexPages (paginate perPage posts) =
        (paginate perPage posts).map m.indexPage := by
      simp [indexPages, hpages]
    rw [hindex, List.map_map, List.mem_map]
    constructor
    · rintro ⟨page, hpage, rfl⟩
      rcases (hnumber page.number).1 ⟨page, hpage, rfl⟩ with ⟨hlow, hhigh⟩
      -- The first page has the path of the home page, any other one that of its number.
      by_cases hone : page.number ≤ 1
      · exact Or.inl (by simp [indexPage, listingPath, hone])
      · exact Or.inr ⟨page.number, by omega, hhigh, rfl⟩
    · rintro (rfl | ⟨k, hlow, hhigh, rfl⟩)
      · rcases (hnumber 1).2 ⟨Nat.le_refl 1, by omega⟩ with ⟨page, hpage, hone⟩
        exact ⟨page, hpage, by simp [indexPage, listingPath, hone]⟩
      · rcases (hnumber k).2 ⟨by omega, hhigh⟩ with ⟨page, hpage, rfl⟩
        exact ⟨page, hpage, rfl⟩

theorem length_indexPages (perPage : Nat) :
    (m.indexPages (paginate perPage posts)).length = max 1 (pageCount perPage posts.length) := by
  have hlength := length_paginate perPage posts
  cases hpages : paginate perPage posts with
  | nil =>
    rw [hpages] at hlength
    simp [indexPages, ← hlength]
  | cons first rest =>
    rw [hpages, List.length_cons] at hlength
    have hpos : 1 ≤ pageCount perPage posts.length := by omega
    rw [Nat.max_eq_right hpos, ← hlength]
    simp [indexPages]

/-- The pages that are made have the site paths of pages, and no others. -/
theorem exists_page_iff {path : String} :
    (∃ page ∈ m.pages posts, page.path = path) ↔ IsPagePath m.config posts path := by
  have hmem : (∃ page ∈ m.pages posts, page.path = path) ↔ path ∈ (m.pages posts).map (·.path) :=
    List.mem_map.symm
  have hdistinct : ∀ labels : Post → List String, ∀ label,
      label ∈ distinct labels posts ↔ ∃ p ∈ posts, label ∈ labels p := by
    intro labels label
    rw [distinct, List.mem_eraseDups, List.mem_flatMap]
  rw [hmem, pages]
  simp only [List.map_append, List.mem_append, Collections.ofPosts, paths_postPages,
    mem_indexPages_iff, List.map_cons, List.map_nil, List.mem_cons, List.not_mem_nil, or_false]
  -- The labels with a page are those of any post.
  have hcategories := m.paths_labelPages posts .category "category" m.config.paths.categories
    Labelled.categories
  have htags := m.paths_labelPages posts .tag "tag" m.config.paths.tags Labelled.tags
  rw [hcategories, htags]
  simp only [List.mem_map, hdistinct]
  constructor
  · rintro ((((⟨p, hp, rfl⟩ | rfl | ⟨k, hlow, hhigh, rfl⟩) | ⟨label, ⟨p, hp, hlabel⟩, rfl⟩) |
        ⟨label, ⟨p, hp, hlabel⟩, rfl⟩) | rfl | rfl | rfl)
    · exact .post hp
    · exact .home
    · exact .listing hlow hhigh
    · exact .category hp hlabel
    · exact .tag hp hlabel
    · exact .archives
    · exact .categories
    · exact .tags
  · intro h
    cases h with
    | post hp => exact Or.inl (Or.inl (Or.inl (Or.inl ⟨_, hp, rfl⟩)))
    | home => exact Or.inl (Or.inl (Or.inl (Or.inr (Or.inl rfl))))
    | listing hlow hhigh =>
      exact Or.inl (Or.inl (Or.inl (Or.inr (Or.inr ⟨_, hlow, hhigh, rfl⟩))))
    | category hp hlabel => exact Or.inl (Or.inl (Or.inr ⟨_, ⟨_, hp, hlabel⟩, rfl⟩))
    | tag hp hlabel => exact Or.inl (Or.inr ⟨_, ⟨_, hp, hlabel⟩, rfl⟩)
    | archives => exact Or.inr (Or.inl rfl)
    | categories => exact Or.inr (Or.inr (Or.inl rfl))
    | tags => exact Or.inr (Or.inr (Or.inr rfl))

/-- The number of pages: one for each post, one for each page of the listing, one for each label, and
three overviews. -/
theorem length_pages :
    (m.pages posts).length =
      posts.length + max 1 (pageCount m.config.pagination.postsPerPage posts.length) +
        (distinct Post.categories posts).length + (distinct Post.tags posts).length + 3 := by
  have hposts : (m.postPages none posts).length = posts.length := by
    have hpaths := congrArg List.length (m.paths_postPages posts none)
    simpa using hpaths
  have hcategories := m.length_labelPages posts .category "category" m.config.paths.categories
    Post.categories
  have htags := m.length_labelPages posts .tag "tag" m.config.paths.tags Post.tags
  rw [← hcategories, ← htags, ← m.length_indexPages posts, ← hposts]
  simp only [pages, Collections.ofPosts, List.length_append]
  rfl

end PageMaker

/-! ## Files -/

namespace Url

/-- The names that lead from the output directory to the file of a page. -/
def pageNames (path : String) : List String :=
  (segments path.toList).map String.ofList ++ ["index.html"]

theorem isName_of_mem_pageNames {path n : String} (hn : n ∈ pageNames path) : Path.IsName n := by
  rcases List.mem_append.1 hn with hn | hn
  · rcases List.mem_map.1 hn with ⟨w, hw, rfl⟩
    rcases List.mem_filter.1 hw with ⟨hpiece, hplain⟩
    have hslash : '/' ∉ w := Text.not_mem_of_mem_splitWhere rfl hpiece
    have hne : (w ≠ [] ∧ w ≠ ['.']) ∧ w ≠ ['.', '.'] := by simpa [isPlainSegment] using hplain
    exact Path.isName_ofList hslash hne.1.1 hne.1.2 hne.2
  · have hindex : n = "index.html" := by simpa using hn
    subst hindex
    decide

/-- The file of a page is below the output directory. -/
theorem indexFile_eq_down (output : Path) (path : String) :
    indexFile output path = output.down (pageNames path) := by
  rw [pageNames, Path.down_concat, indexFile, Path.down, List.foldl_map]

end Url
end StaticBlog
