import StaticBlog.Site.Basic
import StaticBlog.Site.Pages
import StaticBlog.Theme.Assets

/-!
# Building a site

- `Site.clean` : removes what has been built, unless the sources are in it
- `Site.pageMaker` : what the pages of a site are made with
- `Site.writePage` : writes a page below the output directory
- `Site.build` : removes what has been built and writes all pages
- `Site.rebuild`, `Site.present` : builds a site after changes, or to show it
-/

namespace StaticBlog
namespace Site

/-! ## Cleaning -/

/-- Whether the sources are in the output directory, so that it must not be removed. -/
def outputHoldsSources (s : Site) : Bool := s.output.sameAs s.base || s.source.isUnder s.output

/-- Removes the output directory, if it is there. -/
def clean (s : Site) : Work Unit := do
  if s.outputHoldsSources then throw (.outputHoldsSources s.output)
  if ← Work.asking (·.present s.output) then
    Work.changing (·.clear s.output) (.outputUndeleted s.output)
    Work.changing (·.removeCleared s.output) (.outputUndeleted s.output)
    Work.report (.outputDeleted s.output)

/-! ## Pages -/

/-- Tells why a value has no form that templates can show, if that is so. -/
def reportUnshown (json : Except Yaml.KeyFault Json) : Work Unit :=
  match json with
  | .ok _ => pure ()
  | .error fault => Work.report (.valueUnshown fault)

/-- What the pages of a site are made with. -/
def pageMaker (s : Site) : Work PageMaker := do
  let found ← Work.asking (·.isDirectory s.themeDir)
  Work.reportIf (!found) (.themeMissing s.themeDir)
  let templates ← s.theme.templates s.config.posts.dateFormat
  reportUnshown s.config.toJson
  let styles ← Work.reading s.theme.styles
  return ⟨s.config, templates, baseContext s.config styles⟩

/-- The file of a page. -/
def fileOf (s : Site) (page : SitePage) : Path := Url.indexFile s.output page.path

/-- Writes a page below the output directory. -/
def writePage (s : Site) (page : SitePage) : Work Unit := do
  let file := s.fileOf page
  match file.parent? with
  | some dir => Work.changing (·.createDirectories dir) (.pageDirectoryUnmade dir)
  | none => pure ()
  Work.changing (·.write file page.html) (.fileUnwritten file)
  Work.report (.pageWritten file)

/-- The failure to write a page. That of a post tells its source. -/
def pageFailure (page : SitePage) (e : SiteError) : SiteError :=
  match page.source with
  | some source => .pageUnmade source e
  | none => e

/-- Writes pages in order. -/
def writePages (s : Site) : List SitePage → Work Unit
  | [] => pure ()
  | page :: rest => do
    tryCatch (s.writePage page) fun e => throw (pageFailure page e)
    writePages s rest

/-! ## Building -/

/-- Writes the assets and the pages of a site, and tells the number of pages. -/
def generate (s : Site) (m : PageMaker) (posts : List Post) : Work Nat := do
  Work.changing (·.createDirectories s.output) (.directoryUnmade s.output)
  let _ ← s.theme.copyAssets s.assets s.output
  posts.forM fun p => reportUnshown p.toJson
  let pages := m.pages posts
  s.writePages pages
  return pages.length

/-- Removes what has been built, and writes all pages. The result is their number. -/
def build (s : Site) : Work Nat := do
  s.clean
  let posts ← s.loadPosts
  Work.report (.postsLoaded posts.length)
  let m ← s.pageMaker
  let count ← s.generate m posts
  Work.report (.pagesWritten count)
  return count

/-- Builds a site anew after changes: the configuration is read again. The result is the site as it
has been built. -/
def rebuild (s : Site) : Work Site := do
  let site ← Site.open s.base
  let _ ← site.build
  return site

/-- Builds a site to show it at its port. `refusal` tells why a port cannot be used. -/
def present (s : Site) (refusal : Nat → Option PortError) : Work Unit := do
  let _ ← s.build
  let port := s.config.preview.port
  match refusal port with
  | some e => throw (.portUnbound port e)
  | none => pure ()

end Site
end StaticBlog
