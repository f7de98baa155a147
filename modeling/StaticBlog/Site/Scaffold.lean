import StaticBlog.Site.Basic
import StaticBlog.Text.Romanised

/-!
# New posts

- `scaffold` : the source file of a post that has only a title
- `Site.newPost` : writes such a file
-/

namespace StaticBlog

/-- The source file of a post that has only a title. The title is written as a JSON string, which is
a YAML scalar too. -/
def scaffold (title : String) (now : Moment) : String :=
  String.join
    [ "---\n",
      "title: ", String.ofList (Json.quote title.toList), "\n",
      "date: ", now.format "YYYY-MM-DD HH:mm:ss", "\n",
      "categories: []\n",
      "tags: []\n",
      "---\n",
      "\n" ]

namespace Site

/-- The file of a new post, whose name holds the day and the title. -/
def newPostFile (s : Site) (title : String) (now : Moment) : Path :=
  s.posts.join (now.format "YYYY-MM-DD" ++ "-" ++ Text.slugOfTitle title ++ ".md")

/-- Writes the source file of a new post, and tells where it is. -/
def newPost (s : Site) (title : String) : Work Path := do
  let title := String.ofList (Text.trim title.toList)
  if title = "" then throw .titleEmpty
  let now ← Work.asking fun d => Moment.ofUnix d.clock 0
  Work.changing (·.createDirectories s.posts) (.directoryUnmade s.posts)
  let file := s.newPostFile title now
  if ← Work.asking (·.present file) then throw (.postExists file)
  Work.changing (·.write file (scaffold title now)) (.fileUnwritten file)
  Work.report (.postCreated file)
  return file

end Site
end StaticBlog
