import StaticBlog.Template.Value
import StaticBlog.Text.Blank

/-!
# Variables of a page

- `Context` : the variables that a page is rendered with
- `Context.setNested` : sets an entry of an object deep inside a variable
- `Scope` : a context with the variables of the loops around a place
- `Scope.resolve` : the value that a path leads to from its first name
-/

namespace StaticBlog

/-- The variables of a page. -/
structure Context where
  bindings : Dict Value := []
  deriving Inhabited, Repr

namespace Context

def get? (c : Context) (name : String) : Option Value := Dict.get? c.bindings name

def set (c : Context) (name : String) (value : Value) : Context :=
  ⟨Dict.insert c.bindings name value⟩

/-- The value that a path leads to. -/
def resolve (c : Context) : List String → Option Value
  | [] => none
  | name :: path => (c.get? name).bind fun v => v.lookup path

/-! ## Nested entries -/

/-- Sets the entry that a path leads to inside a value. Objects that are missing on the way are made;
there is no result when something else than an object is in the way. -/
def setBelow (value : Value) : List String → Option Value → Option Value
  | [], _ => some value
  | key :: path, none => (setBelow value path none).map fun v => .object [(key, v)]
  | key :: path, some (.object entries) =>
    (setBelow value path (Dict.get? entries key)).map fun v => .object (Dict.insert entries key v)
  | _ :: _, some _ => none

/-- The segments of a dotted path. -/
def segments (path : String) : List String :=
  (Text.splitWhere (· = '.') path.toList).map String.ofList

/-- Sets the entry at a dotted path, or changes nothing when something else than an object is in the
way. -/
def setNested (c : Context) (path : String) (value : Value) : Context :=
  match segments path with
  | [] => c
  | name :: rest =>
    match setBelow value rest (c.get? name) with
    | some v => c.set name v
    | none => c

/-! ## Look-up after a change -/

@[simp] theorem get?_set_self (c : Context) (name : String) (value : Value) :
    (c.set name value).get? name = some value := Dict.get?_insert_self c.bindings name value

theorem get?_set_of_ne (c : Context) {name name' : String} (value : Value) (h : name ≠ name') :
    (c.set name value).get? name' = c.get? name' := Dict.get?_insert_of_ne c.bindings value h

/-- Setting a nested entry changes no other variable than the first one on the way. -/
theorem get?_setNested_of_ne (c : Context) {path name name' : String} {rest : List String} (value : Value)
    (hpath : segments path = name :: rest) (h : name ≠ name') :
    (c.setNested path value).get? name' = c.get? name' := by
  simp only [setNested, hpath]
  cases setBelow value rest (c.get? name) with
  | none => rfl
  | some v => exact get?_set_of_ne c v h

end Context

/-! ## Scopes -/

/-- The variables seen from a place in a template: those of the page, and the items of the loops
around it, the inner ones first. -/
inductive Scope
  | page (context : Context)
  | item (parent : Scope) (name : String) (value : Value)
  deriving Inhabited, Repr

namespace Scope

/-- The value that a path leads to. The innermost loop over the first name of the path decides, even
if the rest of the path leads nowhere from its item. -/
def resolve : Scope → List String → Option Value
  | .page c, path => c.resolve path
  | .item _ _ _, [] => none
  | .item parent name value, key :: path =>
    if key = name then value.lookup path else parent.resolve (key :: path)

end Scope
end StaticBlog
