import StaticBlog.Config.Site
import StaticBlog.Date.Parse
import StaticBlog.Disk.Walk
import StaticBlog.Markdown.Page
import StaticBlog.Post.Basic
import StaticBlog.Post.FrontMatter
import StaticBlog.Post.Permalink
import StaticBlog.Post.Preview
import StaticBlog.Post.Slug
import StaticBlog.Site.Error

/-!
# Posts from source files

- `Document.strangeDate?` : a date that cannot be understood
- `Post.ofDocument` : the post that a source file tells
- `Post.parse` : the post in a text
- `Post.load` : the post in a file
- `outcomes`, `collected` : what becomes of the files below a directory
-/

namespace StaticBlog

/-! ## Dates -/

/-- The date of a source file that names one which is understood. -/
def Document.date? (d : Document) : Option Moment := d.frontMatter.date.bind Moment.parse?

/-- The date that a source file names if it is not understood. -/
def Document.strangeDate? (d : Document) : Option String :=
  d.frontMatter.date.filter fun s => (Moment.parse? s).isNone

/-! ## One post -/

/-- What posts are made with. -/
structure PostMaker where
  config : SiteConfig
  renderer : Markdown.Renderer

/-- The names that say something computed about a post. An author cannot use them otherwise. -/
def derivedNames : List String :=
  ["excerpt", "content", "tableOfContents", "readingTime", "url", "sourcePath", "permalink",
    "category_links", "tag_links"]

namespace Post

/-- The slug that a source file gives or that its name suggests. -/
def slugOf (d : Document) (stem : String) : String :=
  match d.frontMatter.slug.filter fun s => !(Text.trim s.toList).isEmpty with
  | some s => s
  | none => deriveSlug stem

/-- What a listing shows: what stands before the separator, or else the beginning as plain text. -/
def excerptOf (m : PostMaker) (d : Document) : String :=
  match d.excerpt with
  | some markdown => (m.renderer.render markdown).html
  | none => autoExcerpt (String.ofList d.body) m.config.posts.excerptLength

/-- The post that a source file tells. It is dated to the last change of the file if it names no
date. -/
def ofDocument (m : PostMaker) (source : Path) (modified : Moment) (d : Document) : Post :=
  let f := d.frontMatter
  let stem := source.stem?.getD "untitled"
  let date := d.date?.getD modified
  let slug := slugOf d stem
  let page := m.renderer.render d.body
  { title := f.title.getD stem
    date
    updated := (f.updated.bind Moment.parse?).getD date
    author := f.author.getD m.config.site.author
    categories := distinctLabels f.categories
    tags := distinctLabels f.tags
    excerpt := excerptOf m d
    content := page.html
    headings := page.headings
    readingTime := StaticBlog.readingTime (String.ofList d.body)
    layout := f.layout.getD m.config.posts.defaultLayout
    published := f.published
    slug
    url := expandPermalink m.config.permalink date slug
    source
    extra := f.extra.filter fun (name, _) => !derivedNames.contains name }

/-- The post in a text. -/
def parse (m : PostMaker) (source : Path) (modified : Moment) (text : String) :
    Except SiteError (Document × Post) :=
  match Document.parse? text with
  | none => .error (.postMalformed source)
  | some d => .ok (d, ofDocument m source modified d)

theorem eq_ofDocument_of_parse {m : PostMaker} {source : Path} {modified : Moment} {text : String}
    {d : Document} {p : Post} (h : parse m source modified text = .ok (d, p)) :
    Document.parse? text = some d ∧ p = ofDocument m source modified d := by
  cases hdoc : Document.parse? text with
  | none => simp [parse, hdoc] at h
  | some d' =>
    have hp : d' = d ∧ ofDocument m source modified d' = p := by simpa [parse, hdoc] using h
    exact ⟨congrArg some hp.1, hp.1 ▸ hp.2.symm⟩

/-- The post in a file. -/
def load (m : PostMaker) (d : Disk) (source : Path) : Except SiteError (Document × Post) :=
  match d.readFile source with
  | .ok (.text text, modified) => parse m source (Moment.ofUnix modified 0) text
  | .ok (.binary _, _) => .error (.postUnread source .notText)
  | .error e => .error (.postUnread source e)

end Post

/-! ## All posts -/

/-- Whether a file holds a post. -/
def isMarkdownFile (p : Path) : Bool := p.suffix? = some "md" || p.suffix? = some "markdown"

/-- What becomes of a step of a walk. Files that hold no post do not matter. -/
def outcome? (m : PostMaker) (d : Disk) : Disk.Step → Option (Except SiteError (Document × Post))
  | .failure p e => some (.error (.postUnread p e))
  | .file p => if isMarkdownFile p then some (Post.load m d p) else none

/-- What becomes of the posts below a directory, in the order in which they are met. -/
def outcomes (m : PostMaker) (d : Disk) (dir : Path) :
    List (Except SiteError (Document × Post)) :=
  (d.walk dir).filterMap (outcome? m d)

/-- The results before the first failure, and that failure. -/
def collected {ε : Type u} {α : Type v} : List (Except ε α) → List α × Option ε
  | [] => ([], none)
  | .error e :: _ => ([], some e)
  | .ok a :: rest => match collected rest with
    | (as, failure) => (a :: as, failure)

end StaticBlog
