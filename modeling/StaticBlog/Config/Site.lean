import StaticBlog.Config.Setting

/-!
# The configuration of a site

- `SiteConfig` : the configuration, whose fields have defaults
- `SiteConfig.read?` : the configuration that a tree holds
- `SiteConfig.fault?` : what is wrong with a configuration
- `SiteConfig.toJson` : the configuration as pages see it
-/

namespace StaticBlog

/-- The largest number of 64 bits. -/
def wordMax : Nat := Nat.pow 2 64 - 1

/-- What a site says about itself. -/
structure SiteInfo where
  title : String := "Shiori Blog"
  subtitle : String := ""
  description : String := ""
  author : String := ""
  language : String := "en"
  timezone : String := "UTC"
  avatar : String := ""
  bio : String := ""
  deriving DecidableEq, Repr

def SiteInfo.fields : List (ConfigField SiteInfo) :=
  [.text "title" (·.title) fun v i => { i with title := v },
    .text "subtitle" (·.subtitle) fun v i => { i with subtitle := v },
    .text "description" (·.description) fun v i => { i with description := v },
    .text "author" (·.author) fun v i => { i with author := v },
    .text "language" (·.language) fun v i => { i with language := v },
    .text "timezone" (·.timezone) fun v i => { i with timezone := v },
    .text "avatar" (·.avatar) fun v i => { i with avatar := v },
    .text "bio" (·.bio) fun v i => { i with bio := v }]

/-- What a site says about itself as pages see it. -/
def SiteInfo.toJson (i : SiteInfo) : Json :=
  .object (SiteInfo.fields.map fun f => (f.name, f.json i))

/-- Where things are: directories below the site, and for pages below the output. -/
structure SitePaths where
  source : String := "source"
  output : String := "dist"
  posts : String := "_posts"
  categories : String := "categories"
  tags : String := "tags"
  archives : String := "archives"
  assets : String := "assets"
  deriving DecidableEq, Repr

def SitePaths.fields : List (ConfigField SitePaths) :=
  [.text "source" (·.source) fun v p => { p with source := v },
    .text "output" (·.output) fun v p => { p with output := v },
    .text "posts" (·.posts) fun v p => { p with posts := v },
    .text "categories" (·.categories) fun v p => { p with categories := v },
    .text "tags" (·.tags) fun v p => { p with tags := v },
    .text "archives" (·.archives) fun v p => { p with archives := v },
    .text "assets" (·.assets) fun v p => { p with assets := v }]

/-- The theme of a site and the colours in it. -/
structure ThemeChoice where
  name : String := "minimalist"
  colors : Dict String :=
    [("background", "#FAFAF9"), ("surface", "#FFFFFF"), ("text_primary", "#1C1917"),
      ("text_secondary", "#57534E"), ("accent", "#292524"), ("border", "#E7E5E4"),
      ("code_bg", "#1C1917"), ("code_text", "#E7E5E4")]
  deriving DecidableEq, Repr

def ThemeChoice.fields : List (ConfigField ThemeChoice) :=
  [.text "name" (·.name) fun v t => { t with name := v },
    .texts "colors" (·.colors) fun v t => { t with colors := v }]

/-- How the posts are divided among listing pages. -/
structure Pagination where
  postsPerPage : Nat := 10
  path : String := "page"
  deriving DecidableEq, Repr

def Pagination.fields : List (ConfigField Pagination) :=
  [.natural wordMax "posts_per_page" (·.postsPerPage) fun v p => { p with postsPerPage := v },
    .text "path" (·.path) fun v p => { p with path := v }]

/-- What holds for all posts, and how they are shown. -/
structure PostSettings where
  defaultLayout : String := "post"
  excerptLength : Nat := 200
  showExcerpt : Bool := true
  dateFormat : String := "YYYY-MM-DD"
  showReadingTime : Bool := true
  deriving DecidableEq, Repr

def PostSettings.fields : List (ConfigField PostSettings) :=
  [.text "default_layout" (·.defaultLayout) fun v p => { p with defaultLayout := v },
    .natural wordMax "excerpt_length" (·.excerptLength) fun v p => { p with excerptLength := v },
    .flag "show_excerpt" (·.showExcerpt) fun v p => { p with showExcerpt := v },
    .text "date_format" (·.dateFormat) fun v p => { p with dateFormat := v },
    .flag "show_reading_time" (·.showReadingTime) fun v p => { p with showReadingTime := v }]

/-- How code is shown. -/
structure CodeSettings where
  theme : String := "base16-ocean.dark"
  lineNumbers : Bool := true
  deriving DecidableEq, Repr

def CodeSettings.fields : List (ConfigField CodeSettings) :=
  [.text "theme" (·.theme) fun v c => { c with theme := v },
    .flag "line_numbers" (·.lineNumbers) fun v c => { c with lineNumbers := v }]

/-- Where a site is shown while it is being written. -/
structure PreviewSettings where
  port : Nat := 4000
  liveReload : Bool := true
  deriving DecidableEq, Repr

def PreviewSettings.fields : List (ConfigField PreviewSettings) :=
  [.natural (Nat.pow 2 16 - 1) "port" (·.port) fun v p => { p with port := v },
    .flag "live_reload" (·.liveReload) fun v p => { p with liveReload := v }]

/-- The configuration of a site. -/
structure SiteConfig where
  site : SiteInfo := {}
  url : String := ""
  permalink : String := ":year/:month/:day/:title/"
  paths : SitePaths := {}
  theme : ThemeChoice := {}
  pagination : Pagination := {}
  posts : PostSettings := {}
  code : CodeSettings := {}
  preview : PreviewSettings := {}
  /-- The entries that are not among the others. -/
  extra : Dict Yaml := []
  deriving Repr

namespace SiteConfig

def fields : List (ConfigField SiteConfig) :=
  [.record SiteInfo.fields {} "site" (·.site) fun v c => { c with site := v },
    .text "url" (·.url) fun v c => { c with url := v },
    .text "permalink" (·.permalink) fun v c => { c with permalink := v },
    .record SitePaths.fields {} "paths" (·.paths) fun v c => { c with paths := v },
    .record ThemeChoice.fields {} "theme" (·.theme) fun v c => { c with theme := v },
    .record Pagination.fields {} "pagination" (·.pagination) fun v c => { c with pagination := v },
    .record PostSettings.fields {} "posts" (·.posts) fun v c => { c with posts := v },
    .record CodeSettings.fields {} "syntax" (·.code) fun v c => { c with code := v },
    .record PreviewSettings.fields {} "preview" (·.preview) fun v c => { c with preview := v }]

/-- Keeps an entry that has no meaning here. -/
def keep? {α : Type} [Setting α] (name : String) (a : α) (c : SiteConfig) : Option SiteConfig :=
  (Setting.value? a).map fun v => { c with extra := c.extra.insert name v }

/-- The configuration that a tree holds. -/
def read? {α : Type} [Setting α] (a : α) : Option SiteConfig :=
  (Setting.entries? a).bind (ConfigField.fill? fields keep? {})

/-! ## Faults -/

/-- What can be wrong with a configuration. -/
inductive Fault
  | noPostsPerPage
  | emptyPermalink
  deriving DecidableEq, Repr

def Fault.message : Fault → String
  | noPostsPerPage => "pagination.posts_per_page must be at least 1"
  | emptyPermalink => "permalink must not be empty"

/-- What is wrong with a configuration. A permalink of slashes alone would be the home page. -/
def fault? (c : SiteConfig) : Option Fault :=
  if c.pagination.postsPerPage = 0 then some .noPostsPerPage
  else if (c.permalink.toList.all (· = '/')) then some .emptyPermalink
  else none

/-! ## Pages -/

/-- The configuration as pages see it. There is none if a value of an extra entry has no such
form. -/
def toJson (c : SiteConfig) : Except Yaml.KeyFault Json := do
  let extra ← Yaml.fieldsToJson c.extra
  return .object (Dict.ofEntries (fields.map (fun f => (f.name, f.json c)) ++ extra))

end SiteConfig
end StaticBlog
