import StaticBlog.Code.Highlighted
import StaticBlog.Markdown.Blocks
import StaticBlog.Markdown.Html
import StaticBlog.Markdown.Repair
import StaticBlog.Markdown.RunningText
import StaticBlog.Toc.Anchor

/-!
# The text of a post

Headings of the second and third level get anchors, and code is highlighted.

The highlighter may do more than tell how code is shown: it is asked in a monad.

- `blocks`, `events` : the blocks of a text, and its events
- `Preparation.stepM` : gets an event ready for the page
- `prepareM` : the events of a page with the table of its headings
- `renderM` : the page of a text
- `Renderer.render` : the same for a highlighter that does nothing else
-/

namespace StaticBlog
namespace Markdown

/-! ## Documents -/

/-- The blocks of a text. Links in them may refer to definitions anywhere in it. -/
def blocks (text : List Char) : List Node :=
  let o := Outline.ofText text
  Node.allResolved ⟨o.definitions.reverse, o.footnotes⟩ [] o.body.reverse

/-- The events of a text. -/
def events (text : List Char) : List Event := Node.allEvents (blocks text)

/-! ## Pages -/

/-- How code is shown. -/
structure Renderer where
  highlighter : Highlighter
  lineNumbers : Bool

/-- A text as a part of a page. -/
structure Rendered where
  html : String
  /-- The headings of the second and third level, if there are any. -/
  headings : Option (List TocEntry)

/-- The language that the text behind a fence names: its first word. -/
def languageOf (info : Option (List Char)) : Option String :=
  match (info.getD []).takeWhile fun c => !(Text.isBlank c || c = ',') with
  | [] => none
  | name => some (String.ofList name)

/-- Code as a part of a page. What cannot be highlighted is shown as it is. -/
def codeHtmlM {m : Type → Type} [Monad m]
    (highlight : (code : String) → (language : Option String) → m (Option HighlightedCode))
    (lineNumbers : Bool) (language : Option String) (code : List Char) : m (List Char) := do
  let code := String.ofList code
  let highlighted ← highlight code language
  return (highlighted.getD (.plain code language)).block lineNumbers

/-- Code as a part of a page, by a highlighter that does nothing but tell how it is shown. -/
def Renderer.codeHtml (r : Renderer) (language : Option String) (code : List Char) : List Char :=
  codeHtmlM (m := Id) r.highlighter r.lineNumbers language code

/-! ## Preparation -/

/-- A heading that has begun. -/
structure OpenHeading where
  level : Nat
  text : List Char := []
  /-- The events in it, the last one first. -/
  held : List Event := []

/-- What has been read of the events of a page. -/
structure Preparation where
  /-- The events that are ready, the last one first. -/
  ready : List Event := []
  toc : TocBuilder := {}
  heading : Option OpenHeading := none
  /-- The language and the lines of code that has begun, the last one first. -/
  code : Option (Option String × List (List Char)) := none

namespace Preparation

/-- Puts an event behind those that are ready or held. -/
def emit (p : Preparation) (e : Event) : Preparation :=
  match p.heading with
  | some h => { p with heading := some { h with held := e :: h.held } }
  | none => { p with ready := e :: p.ready }

/-- Notes a text that stands in a heading. -/
def note (p : Preparation) (s : List Char) : Preparation :=
  { p with heading := p.heading.map fun h => { h with text := h.text ++ s } }

/-- The beginning of a heading with what it holds, the last event being the first of the list. -/
def begun (h : OpenHeading) (anchor : Option String) : List Event :=
  h.held ++ [.enter (.heading h.level anchor)]

/-- Completes a heading, which gets its anchor. -/
def closeHeading (p : Preparation) (tag : Tag) : Preparation :=
  match p.heading with
  | some h =>
    let toc := p.toc.push h.level (String.ofList h.text)
    { p with
      toc
      heading := none
      ready := .leave tag :: begun h (some toc.lastId) ++ p.ready }
  | none => p.emit (.leave tag)

/-- Gets an event outside of code ready for the page. -/
def stepOutside (p : Preparation) : Event → Preparation
  | .enter (.code info) => { p with code := some (languageOf info, []) }
  | .enter (.heading level anchor) =>
    if level = 2 || level = 3 then
      { p with
        heading := some { level }
        ready := match p.heading with
          | some h => begun h none ++ p.ready
          | none => p.ready }
    else p.emit (.enter (.heading level anchor))
  | .leave (.heading level anchor) => p.closeHeading (.heading level anchor)
  | .text s => (p.note s).emit (.text s)
  | .code s => (p.note s).emit (.code s)
  | .softBreak | .hardBreak => (p.note [' ']).emit .hardBreak
  | e => p.emit e

/-- Gets an event ready for the page. Where code ends, it is asked how that is shown. -/
def stepM {m : Type → Type} [Monad m] (codeHtml : Option String → List Char → m (List Char))
    (p : Preparation) (e : Event) : m Preparation :=
  match p.code with
  | some (language, code) =>
    match e with
    | .text s => pure { p with code := some (language, s :: code) }
    | .leave (.code _) => do
      let html ← codeHtml language code.reverse.flatten
      return { p with code := none }.emit (.html html)
    | _ => pure p
  | none => pure (p.stepOutside e)

def step (r : Renderer) (p : Preparation) (e : Event) : Preparation :=
  stepM (m := Id) r.codeHtml p e

/-- The events that are ready in the end. -/
def finish (p : Preparation) : List Event :=
  match p.heading with
  | some h => (begun h none ++ p.ready).reverse
  | none => p.ready.reverse

end Preparation

/-- The events of a page, made from those of a text, with what is known of its headings. -/
def prepareM {m : Type → Type} [Monad m] (codeHtml : Option String → List Char → m (List Char))
    (events : List Event) : m Preparation :=
  events.foldlM (Preparation.stepM codeHtml) {}

def prepare (r : Renderer) (events : List Event) : Preparation :=
  prepareM (m := Id) r.codeHtml events

/-- The text up to the end of code. -/
def codeOf : List Event → List Char
  | .text s :: es => s ++ codeOf es
  | _ => []

/-- The code in a text, with its languages. -/
def codeBlocks : List Event → List (Option String × String)
  | [] => []
  | .enter (.code info) :: es => (languageOf info, String.ofList (codeOf es)) :: codeBlocks es
  | _ :: es => codeBlocks es

/-- The page of a text, which is repaired first. -/
def renderM {m : Type → Type} [Monad m]
    (highlight : (code : String) → (language : Option String) → m (Option HighlightedCode))
    (lineNumbers : Bool) (markdown : List Char) : m Rendered := do
  let p ← prepareM (codeHtmlM highlight lineNumbers) (events (Repair.repairChars markdown))
  return ⟨String.ofList (toHtml p.finish), p.toc.finish⟩

def Renderer.render (r : Renderer) (markdown : List Char) : Rendered :=
  renderM (m := Id) r.highlighter r.lineNumbers markdown

end Markdown
end StaticBlog
