import StaticBlog.Date.Moment
import StaticBlog.Text.Blank
import StaticBlog.Text.Digits
import StaticBlog.Text.Search
import StaticBlog.Url

/-!
# Permalinks

- `expandPermalink` : the site path of a post, from the template of the site
-/

namespace StaticBlog

/-- Fills in the placeholders of a template one after the other; the slug comes last, so what it
holds is left alone. -/
def fillPermalink (template : List Char) (date : Moment) (slug : List Char) : List Char :=
  let s := Text.replace ":year".toList (Text.signed date.year) template
  let s := Text.replace ":month".toList (Text.fixed 2 date.month) s
  let s := Text.replace ":day".toList (Text.fixed 2 date.day) s
  Text.replace ":title".toList slug s

/-- Drops the parts of a path that are empty or lead elsewhere than down. -/
def plainPath (s : List Char) : List Char :=
  Text.joinWith ['/'] ((Text.splitWhere Path.isSlash s).filter Url.isPlainSegment)

def expandPermalinkChars (template : List Char) (date : Moment) (slug : List Char) : List Char :=
  plainPath (fillPermalink template date slug)

/-- The site path of a post with a date and a slug. -/
def expandPermalink (template : String) (date : Moment) (slug : String) : String :=
  String.ofList (expandPermalinkChars template.toList date slug.toList)

end StaticBlog
