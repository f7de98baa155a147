import StaticBlog.Html.Escape
import StaticBlog.Text.Digits
import StaticBlog.Text.Lines
import StaticBlog.Text.Search

/-!
# Highlighted code

- `HighlightedCode` : the lines of a piece of code as markup, and its language
- `HighlightedCode.plain` : code without any styling
- `HighlightedCode.block` : the markup of a code block
- `Highlighter` : what turns code into highlighted code, or fails to
-/

namespace StaticBlog

/-- Code as markup, line by line. -/
structure HighlightedCode where
  language : String
  lines : List String
  deriving DecidableEq, Repr, Inhabited

/-- Highlights code that may have the name of a language. There is no result if that fails. -/
abbrev Highlighter := (code : String) → (language : Option String) → Option HighlightedCode

namespace HighlightedCode

/-- The name of the language of code that has none. -/
def plainLanguage : String := "plaintext"

/-- Code without styling. -/
def plain (code : String) (language : Option String) : HighlightedCode where
  language := language.getD plainLanguage
  lines := (Text.lines code.toList).map fun l => String.ofList (Html.escapeChars l)

/-- Lines with line feeds between them. -/
def joinLines (lines : List String) : List Char :=
  Text.joinWith ['\n'] (lines.map String.toList)

/-- The number of a line in the margin. -/
def marginNumber (n : Nat) : String :=
  String.ofList ("<span class=\"line-number\">".toList ++ Text.digits n ++ "</span>".toList)

/-- The numbers of so many lines. -/
def margin (count : Nat) : List String := (List.range count).map fun i => marginNumber (i + 1)

/-- The code itself, in an element that names the language. -/
def codeElement (language : List Char) (lines : List String) : List Char :=
  "<pre><code class=\"language-".toList ++ language ++ "\">".toList ++ joinLines lines
    ++ "</code></pre>".toList

/-- The markup of a code block, with or without a margin of line numbers. -/
def block (code : HighlightedCode) (lineNumbers : Bool) : List Char :=
  let language := Html.escapeChars code.language.toList
  if lineNumbers then
    "<figure class=\"highlight ".toList ++ language
      ++ "\"><table><tr><td class=\"gutter\"><pre>".toList ++ joinLines (margin code.lines.length)
      ++ "</pre></td><td class=\"code\">".toList ++ codeElement language code.lines
      ++ "</td></tr></table></figure>".toList
  else codeElement language code.lines

end HighlightedCode
end StaticBlog
