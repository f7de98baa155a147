import StaticBlog.Code.Styled
import StaticBlog.Config.Load
import StaticBlog.Post.Parse
import StaticBlog.Site.Work
import StaticBlog.Theme.Templates

/-!
# Sites

- `Site` : a directory with a configuration
- `Site.source`, `Site.posts`, `Site.output`, `Site.theme` : where the parts of a site are
- `Site.open` : the site in a directory
- `Site.loadPosts` : the posts of a site, the newest first
-/

namespace StaticBlog

/-- A directory with the configuration of the site in it. -/
structure Site where
  base : Path
  config : SiteConfig
  /-- The file that the configuration was read from. -/
  configFile : Option Path := none

namespace Site

/-! ## Places -/

/-- Where the author writes. -/
def source (s : Site) : Path := s.base.join s.config.paths.source

/-- Where the posts are. -/
def posts (s : Site) : Path := s.source.join s.config.paths.posts

/-- Where the assets of the site are. -/
def assets (s : Site) : Path := s.source.join s.config.paths.assets

/-- Where pages are written. -/
def output (s : Site) : Path := s.base.join s.config.paths.output

/-- Where the theme may be. -/
def themeDir (s : Site) : Path := (s.base.join "themes").join s.config.theme.name

def theme (s : Site) : Theme := ⟨s.themeDir, s.config.theme.colors⟩

/-! ## Opening -/

/-- The site in a directory. -/
def «open» (base : Path) : Work Site := do
  let config ← Work.reading (SiteConfig.discover · base)
  let file ← Work.asking (SiteConfig.file? · base)
  match file with
  | some p => Work.report (.configLoaded p)
  | none => Work.report .configMissing
  return ⟨base, config, file⟩

/-! ## Posts -/

/-- How the posts of a site are shown. -/
def renderer (s : Site) : Markdown.Renderer where
  highlighter := (Code.Palette.named s.config.code.theme).highlight
  lineNumbers := s.config.code.lineNumbers

def postMaker (s : Site) : PostMaker := ⟨s.config, s.renderer⟩

/-- What is told about a post that has been read. -/
def postNotices (d : Document) (p : Post) : List Notice :=
  (d.strangeDate?.map fun date => Notice.dateStrange date p.source).toList ++
    if p.published then [] else [.postSkipped p.source]

/-- The published posts of a site in the order in which they are met. The first file that cannot be
read is a failure. -/
def readPosts (s : Site) : Work (List Post) := do
  if ← Work.asking (·.present s.posts) then
    let (read, failure) := collected (← Work.asking (outcomes s.postMaker · s.posts))
    Work.reportAll (read.flatMap fun (d, p) => postNotices d p)
    match failure with
    | some e => throw e
    | none => return (read.map (·.2)).filter (·.published)
  else
    Work.report (.postsMissing s.posts)
    return []

/-- The published posts of a site, the newest first. -/
def loadPosts (s : Site) : Work (List Post) := do
  let theme := s.config.code.theme
  Work.reportIf (Code.Palette.ofName? theme).isNone
    (.codeThemeUnknown theme Code.Palette.standard.name)
  return newestFirst (← s.readPosts)

end Site
end StaticBlog
