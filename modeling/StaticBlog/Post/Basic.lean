import StaticBlog.Collection.Collections
import StaticBlog.Dict
import StaticBlog.Path
import StaticBlog.Toc.Anchor
import StaticBlog.Yaml.Value

/-!
# Posts

- `Post` : a post, ready to be listed and shown
-/

namespace StaticBlog

/-- A post of a blog. -/
structure Post where
  title : String
  /-- When it was published. -/
  date : Moment
  /-- When it was changed last. -/
  updated : Moment
  author : String
  categories : List String
  tags : List String
  /-- What a listing shows, as a part of a page. -/
  excerpt : String
  /-- The text, as a part of a page. -/
  content : String
  /-- The headings, if there are any. -/
  headings : Option (List TocEntry)
  /-- The minutes that reading it takes. -/
  readingTime : Nat
  layout : String
  published : Bool
  slug : String
  /-- Where its page is, without slashes around it. -/
  url : String
  source : Path
  /-- What the author says about it that has no meaning here. -/
  extra : Dict Yaml
  deriving Repr

instance : Dated Post := ⟨Post.date⟩

instance : Labelled Post := ⟨Post.categories, Post.tags⟩

end StaticBlog
