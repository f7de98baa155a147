import StaticBlog.Collection.Collections
import StaticBlog.Config.Site
import StaticBlog.Post.Value
import StaticBlog.Theme.Templates

/-!
# The pages of a site

- `SitePage` : a page with the site path where it is found
- `PageMaker` : what pages are made with
- `PageMaker.postPages`, `indexPages`, `labelPages`, `archivePage`, `labelIndex` : the pages of a
  kind
- `PageMaker.pages` : all pages, in the order in which they are written
-/

namespace StaticBlog

/-- A page with the site path where it is found. -/
structure SitePage where
  path : String
  html : String
  /-- The source file, if the page shows a post. -/
  source : Option Path := none
  deriving DecidableEq, Repr

/-- What pages are made with. `base` holds the variables that all pages have. -/
structure PageMaker where
  config : SiteConfig
  templates : Templates
  base : Context

/-! ## Paths -/

/-- A site path without the slashes around it. -/
def barePath (path : String) : String := String.ofList (Url.bare path.toList)

/-- The site path of a page of the home listing, of which the first is the home page. -/
def listingPath (dir : String) (number : Nat) : String :=
  if number ≤ 1 then "" else barePath dir ++ "/" ++ String.ofList (Text.digits number)

/-- The site path of the page of a label. -/
def labelPath (dir label : String) : String := barePath dir ++ "/" ++ Url.labelSegment label

/-! ## Variables -/

/-- Where a listing page is among the others. -/
def paginationValue (dir : String) (current total : Nat) : Value :=
  let url (there : Bool) (number : Nat) : Value :=
    .string (if there then Url.pageUrl (listingPath dir number) else "")
  .object
    [ ("current", .ofNat current),
      ("total", .ofNat total),
      ("is_paginated", .bool (1 < total)),
      ("has_prev", .bool (1 < current)),
      ("has_next", .bool (current < total)),
      ("prev_url", url (1 < current) (current - 1)),
      ("next_url", url (current < total) (current + 1)) ]

/-- The addresses that the header of each page links to. -/
def navigationValue (paths : SitePaths) : Value :=
  .object
    [ ("home", .string "/"),
      ("archives", .string (Url.pageUrl paths.archives)),
      ("categories", .string (Url.pageUrl paths.categories)),
      ("tags", .string (Url.pageUrl paths.tags)) ]

/-- The configuration as templates see it. -/
def SiteConfig.value (c : SiteConfig) : Value :=
  match c.toJson with
  | .ok json => Value.ofJson json
  | .error _ => .null

/-- The variables that all pages have. -/
def baseContext (config : SiteConfig) (styles : String) : Context :=
  ((((({} : Context).set "site" (Value.ofJson config.site.toJson)).set "config" config.value).set
    "styles" (.string styles)).set "nav" (navigationValue config.paths))

namespace PageMaker

/-- A post as templates see it. -/
def postValue (m : PageMaker) (p : Post) : Value :=
  p.value m.config.paths.categories m.config.paths.tags

def postValues (m : PageMaker) (posts : List Post) : Value := .array (posts.map m.postValue)

/-- The variables that the pages of a kind have. -/
def context (m : PageMaker) (k : PageKind) : Context := m.base.set "body_class" (.string k.bodyClass)

/-! ## Posts -/

/-- The variables of a post's page with the headings of the post, if it has any. -/
def withHeadings (headings : Option (List TocEntry)) (c : Context) : Context :=
  match headings with
  | some entries =>
    let nodes := TocNode.nest entries
    (c.setNested "page.toc_html" (.string (TocNode.renderAll nodes))).setNested "page.toc"
      (.array (TocNode.values nodes))
  | none => c

/-- A variable that refers to a post, if there is one. -/
def withReference (name : String) (p : Option Post) (c : Context) : Context :=
  match p with
  | some p => c.set name p.reference
  | none => c

/-- The variables of the page of a post between its neighbours. -/
def postContext (m : PageMaker) (newer : Option Post) (p : Post) (older : Option Post) : Context :=
  withReference "next_post" newer <| withReference "prev_post" older <|
    withHeadings p.headings ((m.context .post).set "page" (m.postValue p))

/-- The pages of posts that come after a newer one. -/
def postPages (m : PageMaker) (newer : Option Post) : List Post → List SitePage
  | [] => []
  | p :: older =>
    ⟨p.url, m.templates.render .post (m.postContext newer p older.head?), some p.source⟩
      :: postPages m (some p) older

/-! ## Listings -/

/-- A page of the home listing. -/
def indexPage (m : PageMaker) (page : ListingPage Post) : SitePage :=
  let dir := m.config.pagination.path
  let c := ((m.context .index).set "posts" (m.postValues page.items)).set "pagination"
    (paginationValue dir page.number page.total)
  ⟨listingPath dir page.number, m.templates.render .index c, none⟩

/-- The pages of the home listing. A blog without posts has a home page too. -/
def indexPages (m : PageMaker) (pages : List (ListingPage Post)) : List SitePage :=
  match pages with
  | [] => [m.indexPage ⟨1, 1, []⟩]
  | pages => pages.map m.indexPage

/-- The page of a label. `name` is the variable that holds the label. -/
def labelPage (m : PageMaker) (k : PageKind) (name dir : String) (group : String × List Post) :
    SitePage :=
  let c := ((m.context k).set name (.string group.1)).set "posts" (m.postValues group.2)
  ⟨labelPath dir group.1, m.templates.render k c, none⟩

/-- The pages of all labels of a kind. -/
def labelPages (m : PageMaker) (k : PageKind) (name dir : String) (groups : Groups String Post) :
    List SitePage := groups.map (m.labelPage k name dir)

/-! ## Overviews -/

/-- A month of the archive. -/
def monthValue (m : PageMaker) (month : Nat) (posts : List Post) : Value :=
  .object [("month", .ofNat month), ("name", .string (Date.monthName month)),
    ("posts", m.postValues posts)]

/-- A year of the archive. -/
def yearValue (m : PageMaker) (year : Int) (months : Groups Nat Post) : Value :=
  .object [("year", .ofInt year),
    ("months", .array (months.map fun (month, posts) => m.monthValue month posts))]

/-- The page with all posts by year and month. -/
def archivePage (m : PageMaker) (c : Collections Post) : SitePage :=
  let years := c.archive.map fun (year, months) => m.yearValue year months
  let context := ((m.context .archive).set "archive" (.array years)).set "posts"
    (m.postValues c.posts)
  ⟨m.config.paths.archives, m.templates.render .archive context, none⟩

/-- A label with the address of its page and the number of its posts. -/
def labelValue (dir : String) (group : String × List Post) : Value :=
  .object [("name", .string group.1), ("url", .string (Url.labelUrl dir group.1)),
    ("count", .ofNat group.2.length)]

/-- The page with all labels of a kind. `name` is the variable that holds them. -/
def labelIndex (m : PageMaker) (k : PageKind) (name dir : String) (groups : Groups String Post) :
    SitePage :=
  let c := (m.context k).set name (.array (groups.map (labelValue dir)))
  ⟨dir, m.templates.render k c, none⟩

/-! ## All pages -/

/-- All pages of a site, in the order in which they are written. -/
def pages (m : PageMaker) (posts : List Post) : List SitePage :=
  let c := Collections.ofPosts m.config.pagination.postsPerPage posts
  let paths := m.config.paths
  m.postPages none c.posts ++ m.indexPages c.pages ++
    m.labelPages .category "category" paths.categories c.categories ++
    m.labelPages .tag "tag" paths.tags c.tags ++
    [ m.archivePage c,
      m.labelIndex .categories "categories" paths.categories c.categories,
      m.labelIndex .tags "tags" paths.tags c.tags ]

end PageMaker
end StaticBlog
