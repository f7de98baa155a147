import StaticBlog.Proofs.Collection.Listing
import StaticBlog.Proofs.Site.Links
import StaticBlog.Proofs.Text.Digits

/-!
# The pages of the home listing

- `Url.pageNames_listingPath` : the file of a listing page is in the directory of its number
- `PageMaker.homeListing` : the home listing as numbered pages of posts
- `PageMaker.indexContext` : the variables that a page of the listing is rendered with
- `PageMaker.home_pages_divide_posts` : the pages divide the posts, have files of their own, and each
  one links to those beside it
-/

namespace StaticBlog

/-! ## Site paths of listing pages -/

namespace Url

theorem pageUrl_ne_empty (path : String) : pageUrl path ≠ "" := by
  unfold pageUrl
  split
  · decide
  · intro hempty
    have hlist := congrArg String.toList hempty
    simp at hlist

/-- The digits of a number are one segment of a path. -/
theorem segments_digits (n : Nat) : segments (Text.digits n) = [Text.digits n] := by
  have hdigit : ∀ c ∈ Text.digits n, c.isDigit = true := fun c hc => Text.isDigit_of_mem_digits hc
  have hsplit : Text.splitWhere (fun c => c = '/' || c = '\\') (Text.digits n) = [Text.digits n] := by
    apply Text.splitWhere_eq_singleton
    intro c hc
    have hslash : c ≠ '/' := by
      rintro rfl
      exact absurd (hdigit _ hc) (by decide)
    have hback : c ≠ '\\' := by
      rintro rfl
      exact absurd (hdigit _ hc) (by decide)
    simp [hslash, hback]
  -- Digits are neither nothing nor dots.
  have hdot : ∀ t, Text.digits n ≠ '.' :: t := by
    intro t heq
    have hfirst := hdigit '.' (by simp [heq])
    exact absurd hfirst (by decide)
  have hplain : isPlainSegment (Text.digits n) = true := by
    have hnil : Text.digits n ≠ [] := Nat.toDigits_ne_nil
    simp [isPlainSegment, hnil, hdot]
  rw [segments, hsplit]
  simp [hplain]

/-- The file of the first listing page is that of the site root; that of any other one is in the
directory of its number. -/
theorem pageNames_listingPath (dir : String) (n : Nat) :
    pageNames (listingPath dir n) =
      if n ≤ 1 then ["index.html"]
      else (segments dir.toList).map String.ofList ++
        [String.ofList (Text.digits n), "index.html"] := by
  unfold listingPath
  by_cases hfirst : n ≤ 1
  · rw [if_pos hfirst, if_pos hfirst]
    rfl
  · have htext : (barePath dir ++ "/" ++ String.ofList (Text.digits n)).toList =
        bare dir.toList ++ '/' :: Text.digits n := by
      simp [barePath]
    rw [if_neg hfirst, if_neg hfirst, pageNames, htext, segments_append_slash, segments_bare,
      segments_digits]
    simp

/-- Listing pages with different numbers have different files. -/
theorem eq_of_indexFile_listingPath {output : Path} {dir : String} {m n : Nat} (hm : 1 ≤ m)
    (hn : 1 ≤ n) (h : indexFile output (listingPath dir m) = indexFile output (listingPath dir n)) :
    m = n := by
  rw [indexFile_eq_down, indexFile_eq_down] at h
  have hnames := eq_of_down_eq (fun _ => isName_of_mem_pageNames)
    (fun _ => isName_of_mem_pageNames) h
  rw [pageNames_listingPath, pageNames_listingPath] at hnames
  -- A page with a number in its path is not at the root, and numbers are told by their digits.
  by_cases hm1 : m ≤ 1
  · by_cases hn1 : n ≤ 1
    · omega
    · rw [if_pos hm1, if_neg hn1] at hnames
      have hlength := congrArg List.length hnames
      simp at hlength
  · by_cases hn1 : n ≤ 1
    · rw [if_neg hm1, if_pos hn1] at hnames
      have hlength := congrArg List.length hnames
      simp at hlength
    · rw [if_neg hm1, if_neg hn1] at hnames
      have hlast := (List.cons.inj (List.append_cancel_left hnames)).1
      exact Text.digits_injective (String.ofList_injective hlast)

end Url

/-! ## The listing -/

namespace PageMaker

/-- The home listing: numbered pages of posts. A blog without posts has one page too. -/
def homeListing (m : PageMaker) (posts : List Post) : List (ListingPage Post) :=
  if posts = [] then [⟨1, 1, []⟩] else paginate m.config.pagination.postsPerPage posts

/-- The variables that a page of the listing is rendered with. -/
def indexContext (m : PageMaker) (page : ListingPage Post) : Context :=
  ((m.context .index).set "posts" (m.postValues page.items)).set "pagination"
    (paginationValue m.config.pagination.path page.number page.total)

variable (m : PageMaker) (posts : List Post)

theorem indexPages_eq :
    m.indexPages (paginate m.config.pagination.postsPerPage posts) =
      (m.homeListing posts).map m.indexPage := by
  unfold homeListing
  cases posts with
  | nil => simp [paginate, chunks, indexPages]
  | cons p posts =>
    rw [if_neg (List.cons_ne_nil p posts)]
    cases hpages : paginate m.config.pagination.postsPerPage (p :: posts) with
    | nil =>
      -- The first post is on some page.
      have hitems := items_paginate m.config.pagination.postsPerPage (p :: posts)
      rw [hpages] at hitems
      cases hitems
    | cons page pages => rfl

/-- What a template finds in the variable that tells where a listing page is. -/
theorem resolve_pagination (page : ListingPage Post) (name : String) :
    (m.indexContext page).resolve ["pagination", name] =
      (paginationValue m.config.pagination.path page.number page.total).property? name := by
  have hget : (m.indexContext page).get? "pagination" =
      some (paginationValue m.config.pagination.path page.number page.total) :=
    Dict.get?_insert_self _ _ _
  simp [Context.resolve, hget, Value.lookup]

theorem resolve_posts (page : ListingPage Post) :
    (m.indexContext page).resolve ["posts"] = some (m.postValues page.items) := by
  have hget : (m.indexContext page).get? "posts" = some (m.postValues page.items) := by
    have hne : "pagination" ≠ "posts" := by decide
    exact (Dict.get?_insert_of_ne _ _ hne).trans (Dict.get?_insert_self _ _ _)
  rw [Context.resolve, hget, Option.bind_some, Value.lookup]

/-- What the home pages of a blog are: a division of its posts into numbered pages, each one rendered
with the posts on it and with the addresses of the pages beside it. -/
structure IsHomeListing (m : PageMaker) (posts : List Post) (pages : List (ListingPage Post)) :
    Prop where
  numbers : pages.map (·.number) =
    List.range' 1 (max 1 (pageCount m.config.pagination.postsPerPage posts.length))
  posts_eq : pages.flatMap (·.items) = posts
  full : ∀ page ∈ pages, page.number < pages.length →
    page.items.length = max 1 m.config.pagination.postsPerPage
  nonempty : posts ≠ [] → ∀ page ∈ pages, page.items ≠ []
  rendered : ∀ page ∈ pages,
    (m.indexPage page).html = m.templates.render .index (m.indexContext page) ∧
      (m.indexContext page).resolve ["posts"] = some (m.postValues page.items)
  next : ∀ page ∈ pages, ∀ later ∈ pages, later.number = page.number + 1 →
    (m.indexContext page).resolve ["pagination", "has_next"] = some (.bool true) ∧
      (m.indexContext page).resolve ["pagination", "next_url"] =
        some (.string (Url.pageUrl (m.indexPage later).path)) ∧
      Url.pageUrl (m.indexPage later).path ≠ ""
  last : ∀ page ∈ pages, page.number = pages.length →
    (m.indexContext page).resolve ["pagination", "has_next"] = some (.bool false) ∧
      (m.indexContext page).resolve ["pagination", "next_url"] = some (.string "")
  previous : ∀ page ∈ pages, ∀ earlier ∈ pages, page.number = earlier.number + 1 →
    (m.indexContext page).resolve ["pagination", "has_prev"] = some (.bool true) ∧
      (m.indexContext page).resolve ["pagination", "prev_url"] =
        some (.string (Url.pageUrl (m.indexPage earlier).path)) ∧
      Url.pageUrl (m.indexPage earlier).path ≠ ""
  first : ∀ page ∈ pages, page.number = 1 →
    (m.indexContext page).resolve ["pagination", "has_prev"] = some (.bool false) ∧
      (m.indexContext page).resolve ["pagination", "prev_url"] = some (.string "")

variable {m posts} {page : ListingPage Post}

/-- The numbers of the home pages, and how many they are told to be. -/
theorem numbers_homeListing (m : PageMaker) (posts : List Post) :
    (m.homeListing posts).map (·.number) =
        List.range' 1 (max 1 (pageCount m.config.pagination.postsPerPage posts.length)) ∧
      ∀ page ∈ m.homeListing posts, page.total = (m.homeListing posts).length := by
  unfold homeListing
  by_cases hposts : posts = []
  · subst hposts
    have hzero : pageCount m.config.pagination.postsPerPage ([] : List Post).length = 0 := by
      rw [← length_paginate, paginate, chunks]
      rfl
    rw [if_pos rfl, hzero]
    simp
  · rw [if_neg hposts]
    -- With a post there is a page, so the number of pages is not rounded up to one.
    have hpos : 1 ≤ pageCount m.config.pagination.postsPerPage posts.length := by
      rw [← length_paginate]
      refine List.length_pos_iff.2 fun hnil => hposts ?_
      rw [← items_paginate m.config.pagination.postsPerPage posts, hnil]
      rfl
    rw [numbers_paginate, Nat.max_eq_right hpos, length_paginate]
    exact ⟨rfl, fun page hpage => total_of_mem hpage⟩

theorem items_homeListing : (m.homeListing posts).flatMap (·.items) = posts := by
  unfold homeListing
  by_cases hposts : posts = []
  · simp [hposts]
  · rw [if_neg hposts, items_paginate]

/-- A home page before the last one links to the next page, the last one to nothing. -/
theorem next_of_page (page : ListingPage Post) :
    (m.indexContext page).resolve ["pagination", "has_next"] =
        some (.bool (page.number < page.total)) ∧
      (m.indexContext page).resolve ["pagination", "next_url"] = some (.string
        (if page.number < page.total
          then Url.pageUrl (listingPath m.config.pagination.path (page.number + 1)) else "")) := by
  rw [resolve_pagination, resolve_pagination]
  simp [paginationValue, Value.property?, Dict.get?]

/-- A home page behind the first one links to the page before it, the first one to nothing. -/
theorem previous_of_page (page : ListingPage Post) :
    (m.indexContext page).resolve ["pagination", "has_prev"] = some (.bool (1 < page.number)) ∧
      (m.indexContext page).resolve ["pagination", "prev_url"] = some (.string
        (if 1 < page.number
          then Url.pageUrl (listingPath m.config.pagination.path (page.number - 1)) else "")) := by
  rw [resolve_pagination, resolve_pagination]
  simp [paginationValue, Value.property?, Dict.get?]

/-- The number of a home page is between one and the number of all home pages. -/
theorem number_of_mem (hpage : page ∈ m.homeListing posts) :
    1 ≤ page.number ∧ page.number ≤ (m.homeListing posts).length := by
  have hnumbers := (numbers_homeListing m posts).1
  have hlength := congrArg List.length hnumbers
  rw [List.length_map, List.length_range'] at hlength
  have hmem : page.number ∈ (m.homeListing posts).map (·.number) := List.mem_map_of_mem hpage
  rw [hnumbers, ← hlength, List.mem_range'_1] at hmem
  omega

theorem isHomeListing_homeListing (m : PageMaker) (posts : List Post) :
    m.IsHomeListing posts (m.homeListing posts) := by
  rcases numbers_homeListing m posts with ⟨hnumbers, htotal⟩
  have hpaginate : ∀ page ∈ m.homeListing posts, posts ≠ [] →
      page ∈ paginate m.config.pagination.postsPerPage posts := by
    intro page hpage hposts
    rw [homeListing, if_neg hposts] at hpage
    exact hpage
  refine ⟨hnumbers, items_homeListing, ?full, ?nonempty, ?rendered, ?next, ?last, ?previous, ?first⟩
  case full =>
    intro page hpage hlast
    rw [← htotal page hpage] at hlast
    by_cases hposts : posts = []
    · -- Without posts there is one page, which is the last one.
      rw [homeListing, if_pos hposts, List.mem_singleton] at hpage
      rw [hpage] at hlast
      exact absurd hlast (Nat.lt_irrefl 1)
    · exact length_items_of_mem (hpaginate page hpage hposts) hlast
  case nonempty =>
    intro hposts page hpage
    exact items_ne_nil_of_mem (hpaginate page hpage hposts)
  case rendered =>
    intro page _
    exact ⟨rfl, resolve_posts m page⟩
  case next =>
    intro page hpage later hlater hnumber
    have hlt : page.number < page.total := by
      rw [htotal page hpage, ← Nat.succ_le_iff, Nat.succ_eq_add_one, ← hnumber]
      exact (number_of_mem hlater).2
    rcases next_of_page (m := m) page with ⟨hhas, hurl⟩
    rw [if_pos hlt, ← hnumber] at hurl
    rw [decide_eq_true hlt] at hhas
    exact ⟨hhas, hurl, Url.pageUrl_ne_empty _⟩
  case last =>
    intro page hpage hnumber
    have hnot : ¬ page.number < page.total := by
      rw [htotal page hpage, hnumber]
      exact Nat.lt_irrefl _
    rcases next_of_page (m := m) page with ⟨hhas, hurl⟩
    rw [if_neg hnot] at hurl
    rw [decide_eq_false hnot] at hhas
    exact ⟨hhas, hurl⟩
  case previous =>
    intro page hpage earlier hearlier hnumber
    have hlt : 1 < page.number := by
      have hpos := (number_of_mem hearlier).1
      omega
    rcases previous_of_page (m := m) page with ⟨hhas, hurl⟩
    have hback : page.number - 1 = earlier.number := by omega
    rw [if_pos hlt, hback] at hurl
    rw [decide_eq_true hlt] at hhas
    exact ⟨hhas, hurl, Url.pageUrl_ne_empty _⟩
  case first =>
    intro page _ hnumber
    have hnot : ¬ 1 < page.number := by omega
    rcases previous_of_page (m := m) page with ⟨hhas, hurl⟩
    rw [if_neg hnot] at hurl
    rw [decide_eq_false hnot] at hhas
    exact ⟨hhas, hurl⟩

/-- A blog without posts has one home page. -/
example : (PageMaker.standard.homeListing []).map (·.number) = [1] := rfl

end PageMaker
end StaticBlog
