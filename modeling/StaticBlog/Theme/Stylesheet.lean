import StaticBlog.Dict
import StaticBlog.Text.Search

/-!
# Stylesheets

- `StyleRule` : what holds for some elements of a page
- `standardStylesheet` : the stylesheet of themes that have none
- `withColors` : a stylesheet with the colours of a theme in front
-/

namespace StaticBlog

/-! ## Rules -/

/-- What holds for the elements that a selector means. -/
structure StyleRule where
  selector : String
  declarations : List String
  /-- Whether each declaration has a line of its own. -/
  tall : Bool := false
  deriving DecidableEq, Repr

namespace StyleRule

/-- A rule as text. -/
def text (r : StyleRule) : String :=
  let inner := r.declarations.map fun d =>
    if r.tall then "\n  " ++ d ++ ";" else " " ++ d ++ ";"
  r.selector ++ " \x7b" ++ String.join inner ++ (if r.tall then "\n\x7d" else " \x7d")

/-- Groups of rules as text, with a blank line between two groups. -/
def sheet (groups : List (List StyleRule)) : String :=
  String.intercalate "\n" (groups.map fun g => String.join (g.map fun r => r.text ++ "\n"))

end StyleRule

/-! ## Colours -/

/-- The property that holds a colour. -/
def colorProperty (name : String) : String :=
  "--color-" ++ String.ofList (name.toList.map fun c => if c = '_' then '-' else c)

/-- The rule that gives the colours of a theme. -/
def colorRule (colors : Dict String) : StyleRule :=
  ⟨":root", colors.map fun (name, value) => colorProperty name ++ ": " ++ value, false⟩

/-- A stylesheet with the colours of a theme in front. -/
def withColors (colors : Dict String) (sheet : String) : String :=
  (colorRule colors).text ++ "\n" ++ sheet

/-- A colour of the theme, or the given one if it has none. -/
def themeColor (name fallback : String) : String :=
  "var(" ++ colorProperty name ++ ", " ++ fallback ++ ")"

/-! ## The standard stylesheet -/

def secondaryText : String := "color: " ++ themeColor "text_secondary" "#57534E"

def lineBelow : String := "border-bottom: 1px solid " ++ themeColor "border" "#E7E5E4"

def fontNames : String :=
  String.intercalate ", "
    [ "-apple-system", "BlinkMacSystemFont", "\"Segoe UI\"", "\"PingFang SC\"",
      "\"Hiragino Sans GB\"", "sans-serif" ]

/-- The rules for a page as a whole. -/
def pageRules : List (List StyleRule) :=
  [ [⟨"*, *::before, *::after", ["box-sizing: border-box"], false⟩],
    [⟨"body",
      [ "margin: 0",
        "background: " ++ themeColor "background" "#FAFAF9",
        "color: " ++ themeColor "text_primary" "#1C1917",
        "font-family: " ++ fontNames,
        "line-height: 1.7" ], true⟩],
    [⟨"a", ["color: " ++ themeColor "accent" "#292524"], false⟩],
    [⟨".container", ["max-width: 760px", "margin: 0 auto", "padding: 2rem 1.25rem"], false⟩],
    [⟨".site-header", [lineBelow, "margin-bottom: 2rem"], false⟩,
      ⟨".site-title", ["margin: 0", "font-size: 1.6rem"], false⟩,
      ⟨".site-title a", ["text-decoration: none"], false⟩,
      ⟨".site-subtitle", ["margin: 0.25rem 0 0", secondaryText], false⟩,
      ⟨".site-nav", ["display: flex", "gap: 1rem", "padding: 1rem 0"], false⟩] ]

/-- The rules for posts and lists of posts. -/
def postRules : List (List StyleRule) :=
  [ [⟨".post-meta, .post-item-date, time", [secondaryText, "font-size: 0.9rem"], false⟩,
      ⟨".post-meta > * + *", ["margin-left: 0.75rem"], false⟩],
    [⟨".post-item", ["padding: 1.25rem 0", lineBelow], false⟩,
      ⟨".post-item-title", ["margin: 0 0 0.25rem"], false⟩],
    [⟨".category-tag, .tag",
      [ "display: inline-block", "margin-right: 0.5rem", "font-size: 0.85rem",
        "text-decoration: none" ], true⟩],
    [⟨".post-toc",
      [ "background: " ++ themeColor "surface" "#FFFFFF",
        "border: 1px solid " ++ themeColor "border" "#E7E5E4",
        "padding: 0.75rem 1.25rem",
        "margin: 1.5rem 0" ], true⟩,
      ⟨".post-toc-title", ["font-size: 1rem", "margin: 0 0 0.5rem"], false⟩,
      ⟨".toc, .toc-child", ["margin: 0", "padding-left: 1.25rem"], false⟩] ]

/-- The rules for code, and for what stands below a page. -/
def codeRules : List (List StyleRule) :=
  [ [⟨"pre, figure.highlight",
      [ "background: " ++ themeColor "code_bg" "#1C1917",
        "color: " ++ themeColor "code_text" "#E7E5E4",
        "border-radius: 4px",
        "overflow-x: auto" ], true⟩,
      ⟨"pre", ["padding: 0.75rem 1rem"], false⟩,
      ⟨"figure.highlight", ["margin: 1rem 0"], false⟩,
      ⟨"figure.highlight pre", ["padding: 0", "margin: 0", "background: none"], false⟩,
      ⟨"figure.highlight table", ["border-collapse: collapse", "width: 100%"], false⟩,
      ⟨"figure.highlight td", ["padding: 0.75rem 1rem", "vertical-align: top"], false⟩,
      ⟨"figure.highlight .gutter",
        ["text-align: right", "opacity: 0.5", "user-select: none"], false⟩,
      ⟨".line-number", ["display: block"], false⟩],
    [⟨".post-nav, .pagination",
      ["display: flex", "justify-content: space-between", "gap: 1rem", "margin: 2rem 0"], true⟩],
    [⟨".site-footer",
      ["margin-top: 3rem", secondaryText, "font-size: 0.85rem", "text-align: center"], true⟩] ]

/-- The stylesheet of themes that have none. -/
def standardStylesheet : String := StyleRule.sheet (pageRules ++ postRules ++ codeRules)

end StaticBlog
