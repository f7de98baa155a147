import StaticBlog.Dict
import StaticBlog.Text.Lines
import StaticBlog.Text.Search
import StaticBlog.Yaml.Value

/-!
# Front matter

The YAML block at the beginning of a source file.

- `Sections.ofChars` : a source file cut into its block and its body
- `FrontMatter` : what the block says about the post
- `FrontMatter.parse?` : the block and the body of a source file
-/

namespace StaticBlog

/-! ## Cutting a source file -/

/-- The two parts of a source file. -/
structure Sections where
  /-- The text between the fences, if it is there and holds anything but blanks. -/
  block : Option (List Char)
  body : List Char
  deriving DecidableEq, Repr

namespace Sections

/-- The line that opens a block and the line that ends it begin with this. -/
def fence : List Char := ['-', '-', '-']

/-- Drops the line breaks at the front. -/
def dropBreaks (s : List Char) : List Char := Text.dropFront Text.isLineBreak s

def isKeyChar (c : Char) : Bool := c.isAlphanum || c = '_' || c = '-'

/-- Whether what stands before a colon is the key of a field. An address is not. -/
def isKey (s : List Char) : Bool :=
  !s.isEmpty && s.all isKeyChar &&
    !(["http".toList, "https".toList, "ftp".toList].contains s)

/-- Whether a line looks like a key, a colon, and a value or nothing. -/
def isFieldLine (line : List Char) : Bool :=
  let s := Text.trim line
  let value := s.dropWhile (· ≠ ':')
  s.head? ≠ some '#' && !value.isEmpty && isKey (s.takeWhile (· ≠ ':')) &&
    (value = [':'] || value.take 2 = [':', ' '])

/-- Whether some line of a text looks like a field. -/
def hasField (s : List Char) : Bool := (Text.lines s).any isFieldLine

/-- What follows the line that opens a block, line breaks left out. -/
def afterOpening? (s : List Char) : Option (List Char) := do
  let rest ← Text.stripPrefix? fence (Text.trimStart s)
  if rest.head? = some '\n' || rest.take 2 = ['\r', '\n'] then some (dropBreaks rest) else none

/-- The text up to the closing fence and the text after it. -/
def breakAtClosing? (s : List Char) : Option (List Char × List Char) :=
  match Text.stripPrefix? fence s with
  | some rest => some ([], rest)
  | none => Text.breakOn? ('\n' :: fence) s

/-- The two parts of a source file. A text between fences that has no field in it is no block but
part of the body. -/
def ofChars (source : List Char) : Sections :=
  let content := Text.dropByteOrderMark source
  match (afterOpening? content).bind breakAtClosing? with
  | none => ⟨none, content⟩
  | some (block, rest) =>
    if (Text.trim block).isEmpty then ⟨none, dropBreaks rest⟩
    else if hasField block then ⟨some block, dropBreaks rest⟩
    else ⟨none, content⟩

end Sections

/-! ## Fields -/

/-- What an author says about a post. -/
structure FrontMatter where
  title : Option String := none
  date : Option String := none
  updated : Option String := none
  author : Option String := none
  categories : List String := []
  tags : List String := []
  slug : Option String := none
  layout : Option String := none
  published : Bool := true
  excerptSeparator : Option String := none
  /-- The fields that are not among the others. -/
  extra : Dict Yaml := []
  deriving Repr, Inhabited

namespace FrontMatter

/-- What is written between the excerpt of a post and the rest, unless the post says otherwise. -/
def defaultSeparator : String := "<!-- more -->"

/-- What is written between the excerpt of this post and the rest. -/
def separator (f : FrontMatter) : String :=
  match f.excerptSeparator with
  | some s => if (Text.trim s.toList).isEmpty then defaultSeparator else s
  | none => defaultSeparator

/-- The text of a field that may hold any value. Only a scalar has one. -/
def looseText? (n : Yaml.Node) : Option (Option String) := do
  return (← n.optional? Yaml.Node.value?).bind Yaml.scalarText?

/-- The texts of a field that holds a scalar or a list of scalars. -/
def looseTexts? (n : Yaml.Node) : Option (List String) := do
  match ← n.optional? Yaml.Node.value? with
  | some (.sequence items) => return items.filterMap Yaml.scalarText?
  | some v => return v.scalarText?.toList
  | none => return []

/-- Whether a text is the word that keeps a post from being published. -/
def isRefusal (s : String) : Bool :=
  (Text.trim s.toList).map Char.toLower = "false".toList

/-- Only an explicit refusal keeps a post from being published. -/
def publishes? (n : Yaml.Node) : Option Bool := do
  match ← looseText? n with
  | some s => return !isRefusal s
  | none => return true

/-- The text of a field that holds a scalar or nothing. -/
def strictText? (n : Yaml.Node) : Option (Option String) := n.optional? Yaml.Node.scalarText?

/-- The names of the fields that have a meaning. -/
def fieldNames : List String :=
  ["title", "date", "updated", "author", "categories", "tags", "slug", "layout", "published",
    "excerpt_separator"]

/-- A block with one field more. -/
def withField? (f : FrontMatter) (name : String) (n : Yaml.Node) : Option FrontMatter := do
  match name with
  | "title" => return { f with title := ← looseText? n }
  | "date" => return { f with date := ← looseText? n }
  | "updated" => return { f with updated := ← looseText? n }
  | "author" => return { f with author := ← looseText? n }
  | "categories" => return { f with categories := ← looseTexts? n }
  | "tags" => return { f with tags := ← looseTexts? n }
  | "slug" => return { f with slug := ← looseText? n }
  | "layout" => return { f with layout := ← strictText? n }
  | "published" => return { f with published := ← publishes? n }
  | "excerpt_separator" => return { f with excerptSeparator := ← strictText? n }
  | name => return { f with extra := f.extra.insert name (← n.untaggedValue?) }

/-- Whether no name that has a meaning occurs twice. -/
def areDistinct (names : List String) : Bool := fieldNames.all fun n => names.count n ≤ 1

/-- The fields of a block. -/
def ofNode? (n : Yaml.Node) : Option FrontMatter := do
  let members ← n.members?
  if areDistinct (members.map (·.1)) then
    members.foldlM (fun f (name, value) => f.withField? name value) {}
  else none

/-- The fields that a text between fences holds. -/
def ofBlock? (block : List Char) : Option FrontMatter :=
  (Yaml.Node.parse? (String.ofList block)).bind ofNode?

/-- The fields and the body of a source file. There are none if the block is not proper YAML. -/
def parse? (source : List Char) : Option (FrontMatter × List Char) :=
  let sections := Sections.ofChars source
  match sections.block with
  | none => some ({}, sections.body)
  | some block => (ofBlock? block).map (·, sections.body)

end FrontMatter

/-! ## Documents -/

/-- A source file cut into fields, body and excerpt. -/
structure Document where
  frontMatter : FrontMatter
  /-- The whole body, with the mark that ends the excerpt. -/
  body : List Char
  /-- What stands before that mark, if it is there. -/
  excerpt : Option (List Char)
  deriving Repr, Inhabited

namespace Document

/-- What stands before a mark, without the blanks around it. -/
def excerptBefore (mark body : List Char) : Option (List Char) :=
  ((Text.breakOn? mark body).map fun (before, _) => Text.trim before).filter (!·.isEmpty)

/-- A source file cut into fields, body and excerpt. -/
def parse? (source : String) : Option Document := do
  let (frontMatter, body) ← FrontMatter.parse? source.toList
  return ⟨frontMatter, body, excerptBefore frontMatter.separator.toList body⟩

end Document
end StaticBlog
