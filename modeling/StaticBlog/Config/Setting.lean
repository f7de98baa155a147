import StaticBlog.Toml.Value
import StaticBlog.Yaml.Value

/-!
# Settings

What a configuration is read from is a tree of one of three formats. They differ in what they take
for a text, a number or a record.

- `Setting` : the readings of a tree
- `ConfigField` : a field of a record
- `ConfigField.fill?` : a record whose fields have defaults
-/

namespace StaticBlog

/-- A format whose trees can be read as settings. -/
class Setting (α : Type) where
  text? : α → Option String
  flag? : α → Option Bool
  /-- A number that is not negative and fits into 64 bits. -/
  natural? : α → Option Nat
  /-- The entries of a tree that has names for them. -/
  entries? : α → Option (List (String × α))
  /-- The values of a record in order, where they may stand without their names. -/
  positions? : α → Option (List α)
  /-- Whether there may not be more such values than fields. -/
  limitsPositions : Bool
  /-- A tree that has no meaning here. -/
  value? : α → Option Yaml

/-! ## Records -/

/-- A field of a record: how it is set from a tree, and how it is written out. -/
structure ConfigField (β : Type) where
  name : String
  set? : {α : Type} → [Setting α] → α → β → Option β
  json : β → Json

namespace ConfigField

variable {α β : Type} [Setting α]

def text (name : String) (get : β → String) (set : String → β → β) : ConfigField β where
  name := name
  set? a b := (Setting.text? a).map (set · b)
  json b := .string (get b)

def flag (name : String) (get : β → Bool) (set : Bool → β → β) : ConfigField β where
  name := name
  set? a b := (Setting.flag? a).map (set · b)
  json b := .bool (get b)

/-- A field that holds a natural number up to a limit. -/
def natural (limit : Nat) (name : String) (get : β → Nat) (set : Nat → β → β) : ConfigField β where
  name := name
  set? a b := do
    let n ← Setting.natural? a
    if n ≤ limit then some (set n b) else none
  json b := .number (.int (get b))

/-- Whether no field is given twice. -/
def areDistinct (fields : List (ConfigField β)) (given : List String) : Bool :=
  fields.all fun f => given.count f.name ≤ 1

/-- Sets the field with a name; `other` is for the names of no field. -/
def setNamed? (fields : List (ConfigField β)) (other : String → α → β → Option β) (name : String) (a : α)
    (b : β) : Option β :=
  match fields.find? (·.name = name) with
  | some f => f.set? a b
  | none => other name a b

/-- A record: the default with the fields that are given. -/
def fill? (fields : List (ConfigField β)) (other : String → α → β → Option β) (default : β)
    (entries : List (String × α)) : Option β :=
  if areDistinct fields (entries.map (·.1)) then
    entries.foldlM (fun b (name, a) => setNamed? fields other name a b) default
  else none

/-- The entries that are meant for a record. They may stand without names if the format has it so. -/
def entries? (fields : List (ConfigField β)) (a : α) : Option (List (String × α)) :=
  match Setting.positions? a with
  | none => Setting.entries? a
  | some items =>
    if Setting.limitsPositions α && fields.length < items.length then none
    else some ((fields.map (·.name)).zip items)

/-- A field that holds a record; names that this has no field for do not count. -/
def record {γ : Type} (fields : List (ConfigField γ)) (default : γ) (name : String) (get : β → γ)
    (set : γ → β → β) : ConfigField β where
  name := name
  set? a b := do
    let c ← fill? fields (fun _ _ c => some c) default (← entries? fields a)
    some (set c b)
  json b := .object (fields.map fun f => (f.name, f.json (get b)))

/-- A field that holds texts by name. -/
def texts (name : String) (get : β → Dict String) (set : Dict String → β → β) : ConfigField β where
  name := name
  set? a b := do
    let entries ← (← Setting.entries? a).mapM fun (k, v) => (Setting.text? v).map (k, ·)
    some (set (Dict.ofEntries entries) b)
  json b := .object ((get b).mapValues .string)

end ConfigField

/-! ## Formats -/

namespace Yaml.Node

/-- The text of a scalar that may be a truth value or a number: one without quotes, or a block that
has the tag for it. -/
def literalText? (type : String) : Node → Option String
  | .scalar tag text style =>
    if style = .plain || (style = .literal && tag = some (typePrefix ++ type)) then some text
    else none
  | _ => none

/-- A scalar of any kind is a text. Records have names. -/
instance : Setting Node where
  text? := scalarText?
  flag? n := (n.literalText? "bool").bind Yaml.bool?
  natural? n := do
    let n ← Yaml.natural? (dropPlus (← n.literalText? "int").toList)
    if n < Nat.pow 2 64 then some n else none
  entries? := members?
  positions? _ := none
  limitsPositions := true
  value? := untaggedValue?
where
  dropPlus : List Char → List Char
    | '+' :: s => s
    | s => s

end Yaml.Node

namespace Json

/-- A number that is not negative and is written without fraction. -/
def natural? : Json → Option Nat
  | .number (.int n) => if 0 ≤ n then some n.toNat else none
  | _ => none

def members? : Json → Option (List (String × Json))
  | .object members => some members
  | _ => none

instance : Setting Json where
  text? := text?
  flag? := bool?
  natural? := natural?
  entries? := members?
  positions? := items?
  limitsPositions := true
  value? := Yaml.ofJson?

end Json

namespace Toml

def text? : Toml → Option String
  | .string s => some s
  | _ => none

def flag? : Toml → Option Bool
  | .boolean b => some b
  | _ => none

def natural? : Toml → Option Nat
  | .integer n => if 0 ≤ n then some n.toNat else none
  | _ => none

def items? : Toml → Option (List Toml)
  | .array items => some items
  | _ => none

instance : Setting Toml where
  text? := text?
  flag? := flag?
  natural? := natural?
  entries? := entries?
  positions? := items?
  limitsPositions := false
  value? v := some v.toYaml

end Toml
end StaticBlog
