import StaticBlog.Text.Search

/-!
# Page text

- `insertBeforeBodyEnd` : puts a snippet at the end of a page's body
-/

namespace StaticBlog
namespace Html

/-- The end tag of a page's body. -/
def bodyEnd : List Char := "</body>".toList

/-- Puts a snippet right before the last end tag of the body, or at the end of a page that has
none. -/
def insertBeforeBodyEnd (page snippet : String) : String :=
  match Text.breakOnLast? bodyEnd page.toList with
  | some (before, after) => String.ofList (before ++ snippet.toList ++ bodyEnd ++ after)
  | none => page ++ snippet

end Html
end StaticBlog
