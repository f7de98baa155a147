import StaticBlog.Html.Escape
import StaticBlog.Toc.Anchor

/-!
# Nested table of contents

- `TocNode` : a heading with the headings below it
- `TocNode.nest` : puts each heading of a deeper level under the second-level heading before it
- `TocNode.renderAll` : the nested headings as an ordered list of links
-/

namespace StaticBlog

/-- A heading and the headings below it. -/
inductive TocNode
  | node (entry : TocEntry) (children : List TocNode)
  deriving Repr, Inhabited

namespace TocNode

def entry : TocNode → TocEntry
  | node e _ => e

def children : TocNode → List TocNode
  | node _ cs => cs

/-- Whether a heading of the given level goes below this one. -/
def takes (n : TocNode) (level : Nat) : Bool := 2 < level && n.entry.level = 2

/-- Puts a heading below the last root that takes it, or makes it a root. -/
def attach (e : TocEntry) : List TocNode → List TocNode
  | [] => [node e []]
  | [n] => if n.takes e.level then [node n.entry (n.children ++ [node e []])] else [n, node e []]
  | n :: m :: rest => n :: attach e (m :: rest)

/-- Nests the headings of a page. -/
def nest (entries : List TocEntry) : List TocNode :=
  entries.foldl (fun roots e => attach e roots) []

/-! ## Links -/

/-- A link to a heading. -/
def link (e : TocEntry) : List Char :=
  "<li class=\"toc-item toc-level-".toList ++ Text.digits e.level
    ++ "\"><a class=\"toc-link\" href=\"#".toList ++ Html.escapeChars e.id.toList
    ++ "\">".toList ++ Html.escapeChars e.text.toList ++ "</a>".toList

mutual

/-- A heading as a list item, with a list of the headings below it. -/
def renderNode : TocNode → List Char
  | node e [] => link e ++ "</li>".toList
  | node e (c :: cs) =>
    link e ++ "<ol class=\"toc-child\">".toList ++ renderNode c ++ renderNodes cs
      ++ "</ol>".toList ++ "</li>".toList

def renderNodes : List TocNode → List Char
  | [] => []
  | n :: ns => renderNode n ++ renderNodes ns

end

/-- The table of contents as an ordered list; nothing when it has no entry. -/
def renderAll (roots : List TocNode) : String :=
  if roots.isEmpty then ""
  else String.ofList ("<ol class=\"toc\">".toList ++ renderNodes roots ++ "</ol>".toList)

end TocNode
end StaticBlog
