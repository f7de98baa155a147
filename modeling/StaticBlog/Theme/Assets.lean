import StaticBlog.Disk.Walk
import StaticBlog.Theme.Templates

/-!
# Assets

The files of a theme that pages refer to, and those of the site in front of them.

- `isHiddenBelow` : whether a file below a directory is not to be shown
- `copyTree` : copies what is in a directory
- `Theme.copyAssets` : copies the assets of a theme, and then those of the site
-/

namespace StaticBlog

/-- The steps that lead from a directory to a path below it. -/
def Path.below (p dir : Path) : List Path.Component := p.components.drop dir.components.length

/-- A path with the steps of another one behind it. -/
def Path.extend (p : Path) (steps : List Path.Component) : Path :=
  steps.foldl (fun p c => p.join c.text) p

/-- Whether a step is the name of something hidden. -/
def isHiddenStep (c : Path.Component) : Bool := c.text.toList.head? = some '.'

/-- Whether a file below a directory is hidden, or in a directory that is. -/
def isHiddenBelow (dir p : Path) : Bool := (p.below dir).any isHiddenStep

/-- Copies a file to another place. The directories above it are made. -/
def copyFile (source target : Path) : Work Unit := do
  match target.parent? with
  | some dir => Work.changing (·.createDirectories dir) (.directoryUnmade dir)
  | none => pure ()
  Work.changing (·.copy source target) (.assetUncopied source target)

/-- Copies the files that a walk through a directory meets, and tells their number. -/
def copySteps (source target : Path) : List Disk.Step → Work Nat
  | [] => return 0
  | .failure _ _ :: _ => throw (.assetsUnwalked source)
  | .file p :: rest => do
    if isHiddenBelow source p then copySteps source target rest
    else
      copyFile p (target.extend (p.below source))
      return (← copySteps source target rest) + 1

/-- Copies what is in a directory, if there is one, and tells the number of files. -/
def copyTree (source target : Path) : Work Nat := do
  if ← Work.asking (·.isDirectory source) then
    copySteps source target (← Work.asking (·.walk source))
  else return 0

/-- Copies the assets of a theme and then those of the site, which replace others of the same name.
The result is the number of files. -/
def Theme.copyAssets (t : Theme) (siteAssets output : Path) : Work Nat := do
  let target := output.join "assets"
  let fromTheme ← copyTree (t.dir.join "assets") target
  Work.reportIf (0 < fromTheme) (.themeAssetsCopied fromTheme)
  let fromSite ← copyTree siteAssets target
  Work.reportIf (0 < fromSite) (.siteAssetsCopied fromSite)
  return fromTheme + fromSite

end StaticBlog
