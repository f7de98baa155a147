import StaticBlog.Disk.Access
import StaticBlog.Text.Percent

/-!
# Pages that requests ask for

- `requestSegments?` : the names in the path of a request
- `resolveHtml?` : the page that a request asks for
-/

namespace StaticBlog

/-- Whether a name may not be asked for: it leads upwards, or is more than one name elsewhere. -/
def isUnsafe (segment : List Char) : Bool := segment = ['.', '.'] || segment.contains '\\'

/-- The names in the path of a request, after its percent signs are decoded. There are none if one
of them may not be asked for. -/
def requestSegments? (uri : String) : Option (List (List Char)) := do
  let decoded ← Percent.decode? uri
  let segments := (Text.splitWhere Path.isSlash decoded.toList).filter fun w =>
    !(w = [] || w = ['.'])
  if segments.any isUnsafe then none else some segments

/-- Whether a path has the name of a page. -/
def isHtml (p : Path) : Bool := p.suffix? = some "html" || p.suffix? = some "htm"

/-- The page below a directory that a request asks for. A directory stands for the page in it. -/
def resolveHtml? (d : Disk) (root : Path) (uri : String) : Option Path := do
  let segments ← requestSegments? uri
  let p := segments.foldl (fun p w => p.join (String.ofList w)) root
  let p := if d.isDirectory p then p.join "index.html" else p
  if isHtml p && d.isFile p then some p else none

end StaticBlog
