import StaticBlog.Date.Format
import StaticBlog.Post.Basic
import StaticBlog.Template.Value
import StaticBlog.Toc.Nested
import StaticBlog.Url

/-!
# Posts in templates

- `Post.toJson` : all that is known of a post
- `Post.value` : that with the links that belong to it
- `Post.reference` : what a neighbour of a post needs to know
- `TocNode.values` : the headings of a post
-/

namespace StaticBlog

def textValues (texts : List String) : List Json := texts.map Json.string

def jsonCount (n : Nat) : Json := .number (.int n)

/-- A heading with its anchor. -/
def TocEntry.toJson (e : TocEntry) : Json :=
  .object [("level", jsonCount e.level), ("text", .string e.text), ("id", .string e.id)]

mutual

/-- A heading with those below it. -/
def TocNode.value : TocNode → Value
  | .node e children =>
    .object [("level", .ofNat e.level), ("text", .string e.text), ("id", .string e.id),
      ("children", .array (TocNode.values children))]

def TocNode.values : List TocNode → List Value
  | [] => []
  | n :: ns => n.value :: TocNode.values ns

end

namespace Post

/-- A date in the form that templates can print in other forms. -/
def dateJson (m : Moment) : Json := .string (String.ofList (m.exchange ['Z']))

/-- The fields of a post that have a meaning here. -/
def ownFields (p : Post) : Dict Json :=
  [ ("title", .string p.title),
    ("date", dateJson p.date),
    ("updated", dateJson p.updated),
    ("author", .string p.author),
    ("categories", .array (textValues p.categories)),
    ("tags", .array (textValues p.tags)),
    ("excerpt", .string p.excerpt),
    ("content", .string p.content),
    ("tableOfContents", match p.headings with
      | some entries => .array (entries.map TocEntry.toJson)
      | none => .null),
    ("readingTime", jsonCount p.readingTime),
    ("layout", .string p.layout),
    ("published", .bool p.published),
    ("slug", .string p.slug),
    ("url", .string p.url),
    ("sourcePath", .string p.source.text) ]

/-- All that is known of a post. There is nothing if a value that its author gave has no such
form. -/
def toJson (p : Post) : Except Yaml.KeyFault Json := do
  let extra ← Yaml.fieldsToJson p.extra
  return .object (Dict.ofEntries (p.ownFields ++ extra))

/-- The labels of a post, each with the address of its page. -/
def labelLinks (dir : String) (labels : List String) : Value :=
  .array (labels.map fun name =>
    .object [("name", .string name), ("url", .string (Url.labelUrl dir name))])

/-- A value with links added. Only an object can have them. -/
def withLinks (links : Dict Value) : Value → Value
  | .object entries => .object (links.foldl (fun d (k, v) => Dict.insert d k v) entries)
  | v => v

/-- A post as templates see it. `categories` and `tags` are the directories of the label pages. -/
def value (categories tags : String) (p : Post) : Value :=
  let links :=
    [ ("permalink", .string (Url.pageUrl p.url)),
      ("category_links", labelLinks categories p.categories),
      ("tag_links", labelLinks tags p.tags) ]
  match p.toJson with
  | .ok json => withLinks links (Value.ofJson json)
  | .error _ => .null

/-- What a neighbour of a post needs to know about it. -/
def reference (p : Post) : Value :=
  .object [("title", .string p.title), ("url", .string p.url),
    ("permalink", .string (Url.pageUrl p.url))]

end Post
end StaticBlog
