import StaticBlog.Code.FirstLine
import StaticBlog.Code.Grammars
import StaticBlog.Code.Highlighted

/-!
# Styled code

Each line of code is shown in the colour of a theme. The text of a language is told by the name that
it is given, or else by its first line.

- `Palette` : the colours of a theme
- `Palette.named` : the palette of a name, which may be unknown
- `languageName` : what code is taken for
- `Palette.highlight` : code in the colours of a theme
-/

namespace StaticBlog
namespace Code

/-! ## Palettes -/

/-- The colours that code is shown in. -/
structure Palette where
  name : String
  /-- The colour of plain text. -/
  foreground : String
  deriving DecidableEq, Repr, Inhabited

namespace Palette

/-- The palette that stands in for those that do not exist. -/
def standard : Palette := ⟨"base16-ocean.dark", "#c0c5ce"⟩

/-- The palettes there are. -/
def all : List Palette :=
  [ standard,
    ⟨"base16-ocean.light", "#4f5b66"⟩,
    ⟨"base16-mocha.dark", "#d0c8c6"⟩,
    ⟨"base16-eighties.dark", "#d3d0c8"⟩,
    ⟨"InspiredGitHub", "#323232"⟩,
    ⟨"Solarized (dark)", "#839496"⟩,
    ⟨"Solarized (light)", "#657b83"⟩ ]

/-- The palette of a name, if there is one. -/
def ofName? (name : String) : Option Palette := all.find? (·.name == name)

/-- The palette of a name, or the standard one. -/
def named (name : String) : Palette := (ofName? name).getD standard

end Palette

/-! ## Languages -/

/-- What code is taken for. A name that is known counts; otherwise the first line may tell, and what
cannot be told keeps its name. -/
def languageName (code : List Char) (language : Option String) : String :=
  match language.filter isKnownLanguage with
  | some name => name
  | none =>
    match (Text.lines code).head?.bind languageOfLine? with
    | some name => name
    | none => language.getD HighlightedCode.plainLanguage

/-! ## Lines -/

/-- A line in the colour of plain text. -/
def Palette.line (p : Palette) (line : List Char) : String :=
  "<span style=\"color:" ++ p.foreground ++ ";\">"
    ++ String.ofList (Html.escapeChars (Text.contentOf line)) ++ "</span>"

/-- Code in the colours of a theme. -/
def Palette.highlight (p : Palette) : Highlighter := fun code language =>
  some ⟨languageName code.toList language, (Text.linesKept code.toList).map p.line⟩

end Code
end StaticBlog
