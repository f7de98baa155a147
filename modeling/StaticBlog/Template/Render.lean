import StaticBlog.Date.Format
import StaticBlog.Date.Parse
import StaticBlog.Template.Context
import StaticBlog.Template.Tree

/-!
# Rendering templates

- `Template` : a template that has been read
- `Template.render` : the text of a template with the variables of a page
-/

namespace StaticBlog

/-- The name in a path that marks its value as a date. -/
def dateName : String := "date"

/-- A value as it is printed at a path. Below the name `date`, text that reads as a date is printed
in the format of the site. -/
def printed (dateFormat : String) (path : List String) (value : Value) : List Char :=
  match value with
  | .string s =>
    if dateName ∈ path then
      match Moment.parse? s with
      | some m => (m.format dateFormat).toList
      | none => s.toList
    else s.toList
  | v => v.textChars

namespace Node

mutual

/-- The text of a part of a template. A path that leads nowhere prints nothing, and a loop over
anything but an array repeats nothing. -/
def render (dateFormat : String) (scope : Scope) : Node → List Char
  | .text s => s
  | .print path _ =>
    match scope.resolve path with
    | some v => printed dateFormat path v
    | none => []
  | .loop item list _ body _ =>
    match scope.resolve list with
    | some (.array items) =>
      items.flatMap fun v => renderAll dateFormat (.item scope item v) body
    | _ => []
  | .test path _ body _ =>
    match scope.resolve path with
    | some v => if v.isTruthy then renderAll dateFormat scope body else []
    | none => []

/-- The texts of parts, one after the other. -/
def renderAll (dateFormat : String) (scope : Scope) : List Node → List Char
  | [] => []
  | n :: ns => render dateFormat scope n ++ renderAll dateFormat scope ns

end

end Node

/-- A template that has been read. -/
structure Template where
  nodes : List Node
  deriving Inhabited

namespace Template

/-- Reads a template. This never fails. -/
def parse (source : String) : Template := ⟨Node.parse source⟩

/-- The text of a template with the variables of a page. -/
def render (t : Template) (context : Context) (dateFormat : String) : String :=
  String.ofList (Node.renderAll dateFormat (.page context) t.nodes)

end Template
end StaticBlog
