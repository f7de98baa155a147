import StaticBlog.Path
import StaticBlog.Text.Search

/-!
# Changes that matter

- `isIgnored` : whether a change of a file does not call for a new build
-/

namespace StaticBlog

/-- The names of files and directories whose changes do not matter. -/
def ignoredNames : List String := [".git", ".DS_Store", "node_modules"]

/-- Whether a change of a file does not call for a new build. -/
def isIgnored (p : Path) : Bool :=
  p.components.any (fun c => ignoredNames.contains c.text) || p.text.toList.getLast? = some '~'

end StaticBlog
