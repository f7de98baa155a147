import StaticBlog.Path
import StaticBlog.Text.Percent

/-!
# Addresses of pages

Where the pages of a site are found: under which address, and in which file.

- `labelSegment` : the directory name of a category or tag
- `labelUrl` : the address of a label's page
- `pageUrl` : the address of any site path
- `indexFile` : the file that holds the page of a site path
-/

namespace StaticBlog
namespace Url

/-- A slash of either kind becomes a dash. -/
def dashSlash (c : Char) : Char := if c = '/' || c = '\\' then '-' else c

/-- The directory name of a label. Slashes become dashes, and so do the dots of a name made of
nothing else, because such a name would mean another directory. A blank label is a dash. -/
def labelSegmentChars (label : List Char) : List Char :=
  let s := (Text.trim label).map dashSlash
  if s.isEmpty then ['-']
  else if s.all (· = '.') then s.map fun _ => '-'
  else s

def labelSegment (label : String) : String := String.ofList (labelSegmentChars label.toList)

/-- A path without the slashes around it. -/
def bare (path : List Char) : List Char := Text.dropBoth Path.isSlash path

/-- The address of the page of a label, from the root of the site. -/
def labelUrl (dir label : String) : String :=
  String.ofList ('/' :: bare dir.toList ++ '/' ::
    Percent.encode (labelSegmentChars label.toList) ++ ['/'])

/-- The address of a site path, with a slash at both ends. -/
def pageUrl (path : String) : String :=
  match bare path.toList with
  | [] => "/"
  | s => String.ofList ('/' :: s ++ ['/'])

/-! ## Files -/

/-- Whether a piece of a path moves nowhere but down. -/
def isPlainSegment (w : List Char) : Bool := !(w = [] || w = ['.'] || w = ['.', '.'])

/-- The pieces of a site path that name a directory. -/
def segments (path : List Char) : List (List Char) :=
  (Text.splitWhere (fun c => c = '/' || c = '\\') path).filter isPlainSegment

/-- The file that holds the page of a site path: `index.html` in the directory that its segments
name below the output directory. -/
def indexFile (output : Path) (path : String) : Path :=
  ((segments path.toList).foldl (fun p w => p.join (String.ofList w)) output).join "index.html"

end Url
end StaticBlog
