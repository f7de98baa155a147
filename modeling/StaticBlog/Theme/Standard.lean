/-!
# The standard theme

The templates of themes that have none of their own. They are put together from lines.

- `PageKind` : the kinds of pages, each of which has a template
- `PageKind.templateName`, `PageKind.bodyClass` : its names in files and in pages
- `shown`, `given`, `each` : what a template says in its own language
- `Layout.document` : the page around what differs
- `standardTemplate` : the template of a kind of page
-/

namespace StaticBlog

/-! ## Kinds of pages -/

/-- The kinds of pages. -/
inductive PageKind
  | post
  /-- A page of the home listing. -/
  | index
  | category
  | tag
  | archive
  /-- The list of all categories. -/
  | categories
  /-- The list of all tags. -/
  | tags
  deriving DecidableEq, Repr, Inhabited

namespace PageKind

/-- The kinds, in the order in which their templates are read. -/
def all : List PageKind := [post, index, category, tag, archive, categories, tags]

/-- The name of the template, which is also that of its file. -/
def templateName : PageKind → String
  | post => "post"
  | index => "index"
  | category => "category"
  | tag => "tag"
  | archive => "archive"
  | categories => "categories"
  | tags => "tags"

/-- The class of a page of this kind. -/
def bodyClass : PageKind → String
  | post => "post-page"
  | index => "home-page"
  | category => "category-page"
  | tag => "tag-page"
  | archive => "archive-page"
  | categories => "categories-page"
  | tags => "tags-page"

/-- The kind of a template name. -/
def ofName? (name : String) : Option PageKind := all.find? (·.templateName == name)

theorem mem_all (k : PageKind) : k ∈ all := by cases k <;> decide

theorem templateName_injective {j k : PageKind} (h : j.templateName = k.templateName) : j = k := by
  revert h
  cases j <;> cases k <;> decide

end PageKind

namespace Layout

/-! ## Lines -/

/-- A variable that is printed. -/
def shown (path : String) : String := "\x7b\x7b" ++ path ++ "\x7d\x7d"

/-- A tag that begins or ends a block. -/
def blockTag (words : String) : String := "\x7b% " ++ words ++ " %\x7d"

/-- Lines that are there if a variable says so. -/
def given (path : String) (lines : List String) : List String :=
  blockTag ("if " ++ path) :: lines ++ [blockTag "endif"]

/-- Lines that are there for each item of a list. -/
def each (name path : String) (lines : List String) : List String :=
  blockTag ("for " ++ name ++ " in " ++ path) :: lines ++ [blockTag "endfor"]

/-- Moves a line two columns to the right. A line without text stays empty. -/
def indentLine (line : String) : String := if line = "" then line else "  " ++ line

def indent (lines : List String) : List String := lines.map indentLine

/-- An element with its tags on lines of their own. -/
def element (name class_ : String) (lines : List String) : List String :=
  ("<" ++ name ++ " class=\"" ++ class_ ++ "\">") :: indent lines ++ ["</" ++ name ++ ">"]

/-- An element without a class. -/
def bare (name : String) (lines : List String) : List String :=
  ("<" ++ name ++ ">") :: indent lines ++ ["</" ++ name ++ ">"]

/-- Lines as text. -/
def text (lines : List String) : String := String.join (lines.map (· ++ "\n"))

/-! ## Pieces -/

/-- A link to where a variable says. -/
def link (path attributes label : String) : String :=
  "<a href=\"" ++ shown path ++ "\"" ++ attributes ++ ">" ++ label ++ "</a>"

/-- The date of a post. -/
def time (path attributes : String) : String :=
  "<time" ++ attributes ++ " datetime=\"" ++ shown path ++ "\">" ++ shown path ++ "</time>"

/-- What stands above the main part of each page. -/
def siteHeader (subtitled : Bool) : List String :=
  element "header" "site-header" <|
    ["<h1 class=\"site-title\">" ++ link "nav.home" "" (shown "site.title") ++ "</h1>"] ++
    (if subtitled then ["<p class=\"site-subtitle\">" ++ shown "site.subtitle" ++ "</p>"] else []) ++
    element "nav" "site-nav"
      [ link "nav.home" "" "Home",
        link "nav.archives" "" "Archives",
        link "nav.categories" "" "Categories",
        link "nav.tags" "" "Tags" ]

/-- What stands below the main part of each page. -/
def siteFooter : List String :=
  element "footer" "site-footer"
    ["<p>&copy; " ++ shown "site.author" ++ " - Powered by Shiori</p>"]

/-- A page: its description, its title, and its main part. -/
def document (description : List String) (title : String) (subtitled : Bool)
    (main : List String) : String :=
  text <|
    ["<!DOCTYPE html>", "<html lang=\"" ++ shown "site.language" ++ "\">"] ++
    bare "head"
      ([ "<meta charset=\"UTF-8\">",
          "<meta name=\"viewport\" content=\"width=device-width, initial-scale=1.0\">" ] ++
        description ++
        [ "<title>" ++ title ++ "</title>", "<style>" ++ shown "styles" ++ "</style>" ]) ++
    element "body" (shown "body_class")
      (element "div" "container"
        (siteHeader subtitled ++ [""] ++ element "main" "main-content" main ++ [""] ++ siteFooter)) ++
    ["</html>"]

/-- A description of a page, from a variable. -/
def description (name path : String) : List String :=
  ["<meta name=\"" ++ name ++ "\" content=\"" ++ shown path ++ "\">"]

/-- The title of a page with that of the site. -/
def titled (title : String) : String := title ++ " - " ++ shown "site.title"

/-! ## The main part of each page -/

/-- What is said about a post above its text. -/
def postHeader : List String :=
  element "header" "post-header" <|
    ["<h1 class=\"post-title\">" ++ shown "page.title" ++ "</h1>"] ++
    element "div" "post-meta"
      ([time "page.date" ""] ++
        given "page.author"
          ["<span class=\"post-author\">by " ++ shown "page.author" ++ "</span>"] ++
        given "config.posts.show_reading_time"
          ["<span class=\"post-reading-time\">" ++ shown "page.readingTime" ++ " min read</span>"]) ++
    given "page.category_links"
      (element "div" "post-categories"
        (each "category" "page.category_links"
          [link "category.url" " class=\"category-tag\"" (shown "category.name")]))

/-- The post itself. -/
def postArticle : List String :=
  element "article" "post" <|
    postHeader ++ [""] ++
    given "page.toc_html"
      (element "nav" "post-toc"
        ["<h2 class=\"post-toc-title\">Contents</h2>", shown "page.toc_html"]) ++ [""] ++
    element "div" "post-content" [shown "page.content"] ++ [""] ++
    given "page.tag_links"
      (element "footer" "post-footer"
        (element "div" "post-tags"
          (each "tag" "page.tag_links"
            [link "tag.url" " class=\"tag\"" ("#" ++ shown "tag.name")])))

/-- The links to the posts before and after. -/
def postLinks : List String :=
  element "nav" "post-nav" <|
    given "prev_post"
      [link "prev_post.permalink" " class=\"prev\"" ("&larr; " ++ shown "prev_post.title")] ++
    given "next_post"
      [link "next_post.permalink" " class=\"next\"" (shown "next_post.title" ++ " &rarr;")]

/-- A post in the home listing. -/
def listedPost : List String :=
  element "article" "post-item" <|
    element "header" "post-item-header"
      (element "h2" "post-item-title" [link "post.permalink" "" (shown "post.title")] ++
        [time "post.date" " class=\"post-item-date\""]) ++
    given "config.posts.show_excerpt"
      (given "post.excerpt" (element "div" "post-item-excerpt" [shown "post.excerpt"])) ++
    [link "post.permalink" " class=\"read-more\"" "Read more &rarr;"]

/-- The links to the listing pages before and after. -/
def pageLinks : List String :=
  given "pagination.is_paginated" <|
    element "nav" "pagination" <|
      given "pagination.has_prev"
        [link "pagination.prev_url" " class=\"prev\"" "&larr; Previous"] ++
      ["<span class=\"page-info\">Page " ++ shown "pagination.current" ++ " of "
        ++ shown "pagination.total" ++ "</span>"] ++
      given "pagination.has_next" [link "pagination.next_url" " class=\"next\"" "Next &rarr;"]

/-- The posts of a label. -/
def labelledPosts : List String :=
  element "div" "posts-list" <|
    each "post" "posts"
      (element "article" "post-item"
        [ "<h2>" ++ link "post.permalink" "" (shown "post.title") ++ "</h2>",
          time "post.date" "" ])

/-- The posts by year and month. -/
def archivedPosts : List String :=
  element "div" "archive" <|
    each "year" "archive" <|
      element "section" "archive-year" <|
        ["<h2>" ++ shown "year.year" ++ "</h2>"] ++
        each "month" "year.months"
          (element "div" "archive-month"
            (["<h3>" ++ shown "month.name" ++ "</h3>"] ++
              bare "ul"
                (each "post" "month.posts"
                  ["<li>" ++ time "post.date" "" ++ " - "
                    ++ link "post.permalink" "" (shown "post.title") ++ "</li>"])))

/-- All labels of a kind with the number of their posts. -/
def labelList (name path : String) : List String :=
  element "ul" (path ++ "-list") <|
    each name path
      ["<li>" ++ link (name ++ ".url") "" (shown (name ++ ".name")) ++ " <span class=\"count\">("
        ++ shown (name ++ ".count") ++ ")</span></li>"]

/-- A page of a label. -/
def labelPage (kind name : String) : String :=
  let title := kind ++ ": " ++ shown name
  document [] (titled title) false (("<h1>" ++ title ++ "</h1>") :: labelledPosts)

/-- A page that lists something under a heading. -/
def overview (title : String) (lines : List String) : String :=
  document [] (titled title) false (("<h1>" ++ title ++ "</h1>") :: lines)

end Layout

open Layout in
/-- The template of a kind of page in a theme that has none for it. -/
def standardTemplate : PageKind → String
  | .post =>
    document (description "author" "page.author") (titled (shown "page.title")) true
      (postArticle ++ [""] ++ postLinks)
  | .index =>
    document (description "description" "site.description") (shown "site.title") true
      (element "div" "posts-list" (each "post" "posts" listedPost) ++ [""] ++ pageLinks)
  | .category => labelPage "Category" "category"
  | .tag => labelPage "Tag" "tag"
  | .archive => overview "Archives" archivedPosts
  | .categories => overview "Categories" (labelList "category" "categories")
  | .tags => overview "Tags" (labelList "tag" "tags")

end StaticBlog
