import StaticBlog.Text.Blank
import StaticBlog.Text.Search

/-!
# Paths

A path is text cut into components at slashes. Two paths are the same place, as far as the text
tells, when their components agree; the spelling is kept because it is shown to the user.

- `Path.components` : what stands between the slashes, without empty and `.` parts
- `Path.join` : a path below another one
- `Path.isUnder` : whether the components of one path begin those of another
- `Path.fileName?`, `Path.stem?`, `Path.suffix?` : the parts of the last component
- `Path.parent?` : the path without its last component
- `Path.lastPiece`, `Path.endsInSlash` : how the text of a path ends
-/

namespace StaticBlog

/-- A path, as spelled. -/
structure Path where
  text : String
  deriving DecidableEq, Repr, Inhabited

namespace Path

/-! ## Components -/

/-- One step of a path. -/
inductive Component
  /-- The leading slash of an absolute path. -/
  | root
  /-- A dot that a relative path begins with. -/
  | here
  /-- Two dots: one directory up. -/
  | up
  /-- The name of a file or directory. -/
  | name (text : String)
  deriving DecidableEq, Repr, Inhabited

/-- The text of a component. -/
def Component.text : Component → String
  | .root => "/"
  | .here => "."
  | .up => ".."
  | .name s => s

def ofChars (s : List Char) : Path := ⟨String.ofList s⟩

def isSlash (c : Char) : Bool := c = '/'

/-- The steps that a piece between two slashes stands for. -/
def pieceSteps (w : List Char) : List Component :=
  if w = [] || w = ['.'] then []
  else if w = ['.', '.'] then [.up]
  else [.name (String.ofList w)]

/-- The components of a path's text. -/
def componentsOf (s : List Char) : List Component :=
  let pieces := Text.splitWhere isSlash s
  match pieces with
  | [] :: _ :: _ => .root :: pieces.flatMap pieceSteps
  | ['.'] :: rest => .here :: rest.flatMap pieceSteps
  | _ => pieces.flatMap pieceSteps

def components (p : Path) : List Component := componentsOf p.text.toList

/-- Whether two paths have the same components. -/
def sameAs (p q : Path) : Bool := p.components = q.components

/-- Whether `p` is `q` or lies below it. -/
def isUnder (p q : Path) : Bool := q.components.isPrefixOf p.components

/-! ## Building -/

/-- The text of a path below another one. A second part that begins with a slash stands alone. -/
def joinChars (p q : List Char) : List Char :=
  match q with
  | '/' :: _ => q
  | _ =>
    if p.isEmpty || p.getLast? = some '/' then p ++ q
    else p ++ '/' :: q

/-- The path `q` seen from `p`. -/
def join (p : Path) (q : String) : Path := ofChars (joinChars p.text.toList q.toList)

/-- The path of a text without its last component, before trailing separators are dropped. -/
def dropTrailing : List Char → List Char
  | s => go s.reverse
where
  /-- Works on the reversed text: drops slashes, and dots that stand alone behind a slash. -/
  go : List Char → List Char
    | '/' :: [] => ['/']
    | '/' :: r => go r
    | '.' :: '/' :: r => go ('/' :: r)
    | r => r.reverse

/-- The path without its last component. The root and the empty path have none. -/
def parent? (p : Path) : Option Path :=
  let s := dropTrailing p.text.toList
  if s.isEmpty || s = ['/'] then none
  else
    let front := (s.reverse.dropWhile (!isSlash ·)).reverse
    some (ofChars (dropTrailing front))

/-! ## Endings -/

/-- What stands behind the last slash, slashes at the end left out. -/
def lastPiece (p : Path) : List Char :=
  ((p.text.toList.reverse.dropWhile isSlash).takeWhile (!isSlash ·)).reverse

/-- Whether a slash ends a path, so that it can only mean a directory. -/
def endsInSlash (p : Path) : Bool := p.text.toList.getLast? = some '/'

/-- Whether a path ends in a dot, which means the directory before it. -/
def endsInDot (p : Path) : Bool := p.lastPiece = ['.']

/-! ## Names -/

/-- The name of the file or directory, if the path ends in one. -/
def fileName? (p : Path) : Option String :=
  match p.components.getLast? with
  | some (.name s) => some s
  | _ => none

/-- A file name cut at its last dot. A dot in front does not count, nor does a name without one. -/
def splitName (name : String) : String × Option String :=
  match Text.breakOnLast? ['.'] name.toList with
  | some ([], _) => (name, none)
  | some (stem, suffix) => (String.ofList stem, some (String.ofList suffix))
  | none => (name, none)

/-- The file name without what follows its last dot. -/
def stem? (p : Path) : Option String := p.fileName?.map fun n => (splitName n).1

/-- What follows the last dot of the file name. -/
def suffix? (p : Path) : Option String := p.fileName?.bind fun n => (splitName n).2

end Path
end StaticBlog
