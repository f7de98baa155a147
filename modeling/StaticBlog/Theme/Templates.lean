import StaticBlog.Site.Work
import StaticBlog.Template.Render
import StaticBlog.Theme.Standard
import StaticBlog.Theme.Stylesheet

/-!
# Themes

A theme may have a file for the template of each kind of page, and one for the stylesheet. What it
lacks is taken from the standard theme.

- `Theme` : a directory with files, and colours
- `Theme.templateSource`, `Theme.styles` : what the theme says
- `Templates` : the templates of all kinds of pages
- `Templates.render` : a page
-/

namespace StaticBlog

/-! ## Templates -/

/-- The templates of pages, and how dates are printed in them. -/
structure Templates where
  byKind : List (PageKind × Template) := []
  dateFormat : String

namespace Templates

/-- The templates of the standard theme. -/
def standard (dateFormat : String) : Templates where
  byKind := PageKind.all.map fun k => (k, Template.parse (standardTemplate k))
  dateFormat := dateFormat

/-- The template of a kind of page. -/
def get (t : Templates) (k : PageKind) : Template :=
  match t.byKind.lookup k with
  | some template => template
  | none => Template.parse (standardTemplate k)

/-- Replaces the template of a kind of page. -/
def set (t : Templates) (k : PageKind) (source : String) : Templates :=
  { t with byKind := (k, Template.parse source) :: t.byKind }

/-- A page with its variables filled in. -/
def render (t : Templates) (k : PageKind) (c : Context) : String :=
  (t.get k).render c t.dateFormat

end Templates

/-! ## Themes -/

/-- A directory with the files of a theme, which may be missing, and the colours of the theme. -/
structure Theme where
  dir : Path
  colors : Dict String
  deriving DecidableEq, Repr

namespace Theme

def templateFile (t : Theme) (k : PageKind) : Path := t.dir.join (k.templateName ++ ".html")

/-- The template that the theme has for a kind of page, as text. -/
def ownTemplate? (t : Theme) (k : PageKind) (d : Disk) : Except SiteError (Option String) :=
  let file := t.templateFile k
  if d.isFile file then
    match d.readText file with
    | .ok text => .ok (some text)
    | .error e => .error (.templateUnread file e)
  else .ok none

/-- The template of a kind of page as text, that of the theme or the standard one. -/
def templateSource (t : Theme) (k : PageKind) : Work String := do
  match ← Work.reading (t.ownTemplate? k) with
  | some source =>
    Work.report (.templateUsed (t.templateFile k))
    return source
  | none => return standardTemplate k

/-- The templates of a theme. -/
def templates (t : Theme) (dateFormat : String) : Work Templates := do
  let byKind ← PageKind.all.mapM fun k => do
    let source ← t.templateSource k
    return (k, Template.parse source)
  return ⟨byKind, dateFormat⟩

def stylesheetFile (t : Theme) : Path := ((t.dir.join "assets").join "css").join "style.css"

/-- The stylesheet of the theme with its colours in front, as every page holds it. -/
def styles (t : Theme) (d : Disk) : Except SiteError String :=
  let file := t.stylesheetFile
  if d.isFile file then
    match d.readText file with
    | .ok sheet => .ok (withColors t.colors sheet)
    | .error e => .error (.stylesheetUnread file e)
  else .ok (withColors t.colors standardStylesheet)

/-- The styles, read once: `held` are those that have been read before. -/
def stylesOnce (t : Theme) (held : Option String) (d : Disk) : Except SiteError String :=
  match held with
  | some styles => .ok styles
  | none => t.styles d

end Theme
end StaticBlog
