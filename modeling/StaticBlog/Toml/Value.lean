import StaticBlog.Yaml.Value

/-!
# TOML values

- `Toml` : the values
- `Toml.entries?` : the entries of a value that has some
- `Toml.toYaml` : a value as a YAML value
- `Toml.Item` : what stands under a key while a text is being read
- `Toml.Item.put?` : puts a value under a dotted key
- `Toml.Item.descend?`, `Toml.Item.entriesAt?` : the table at the end of a path
-/

namespace StaticBlog

/-- A TOML value. -/
inductive Toml
  | string (text : String)
  | integer (value : Int)
  | float (value : Binary64)
  | boolean (value : Bool)
  /-- A date, a time, or both, in the form in which it is written out. -/
  | moment (text : String)
  | array (items : List Toml)
  | table (entries : List (String × Toml))
  deriving Repr, Inhabited

namespace Toml

/-- The name of the one entry that a date has where a table is expected. -/
def momentKey : String := "$__toml_private_datetime"

/-- The entries of a table or a date. -/
def entries? : Toml → Option (List (String × Toml))
  | .table es => some es
  | .moment text => some [(momentKey, .string text)]
  | _ => none

mutual

/-- A value as a YAML value. -/
def toYaml : Toml → Yaml
  | .string s => .string s
  | .integer n => .number (.int n)
  | .float x => .number (.float x)
  | .boolean b => .bool b
  | .moment text => .mapping [(.string momentKey, .string text)]
  | .array items => .sequence (itemsToYaml items)
  | .table es => .mapping (entriesToYaml es)

def itemsToYaml : List Toml → List Yaml
  | [] => []
  | v :: vs => toYaml v :: itemsToYaml vs

def entriesToYaml : List (String × Toml) → List (Yaml × Yaml)
  | [] => []
  | (k, v) :: es => (.string k, toYaml v) :: entriesToYaml es

end

end Toml

/-! ## Tables under construction -/

namespace Toml

/-- What stands under a key while a text is being read. -/
inductive Item
  | value (v : Toml)
  /-- A table. It is implied if only longer keys have named it yet, and dotted if those keys were
  keys of values. -/
  | table (implied dotted : Bool) (entries : List (String × Item))
  /-- The tables of an array, the last one first. -/
  | tables (all : List (List (String × Item)))
  deriving Inhabited

namespace Item

abbrev Entries := Dict Item

mutual

def toToml : Item → Toml
  | .value v => v
  | .table _ _ es => .table (entriesToToml es)
  | .tables all => .array (tablesToToml all).reverse

def entriesToToml : List (String × Item) → List (String × Toml)
  | [] => []
  | (k, i) :: es => (k, toToml i) :: entriesToToml es

def tablesToToml : List (List (String × Item)) → List Toml
  | [] => []
  | es :: all => .table (entriesToToml es) :: tablesToToml all

end

/-- Changes the table at the end of a path; the flag says whether it is dotted. Tables that are
missing are implied on the way, and of an array the last table is meant. The keys of a value may only
lead through tables that keys of values have made. -/
def descend? (dotted : Bool) (change : Bool → Entries → Option Entries) :
    (path : List String) → (isDotted : Bool) → Entries → Option Entries
  | [], isDotted, es => change isDotted es
  | key :: path, _, es =>
    match es.get? key with
    | none => do
      let inner ← descend? dotted change path dotted []
      some (es.insert key (.table true dotted inner))
    | some (.table implied isDotted inner) =>
      if dotted && !implied then none
      else do
        let inner ← descend? dotted change path isDotted inner
        some (es.insert key (.table implied isDotted inner))
    | some (.tables (last :: others)) => do
      let last ← descend? dotted change path false last
      some (es.insert key (.tables (last :: others)))
    | some _ => none

/-- The entries of the table at the end of a path, none of which need be there yet. There is no such
table if a value stands in the way. -/
def entriesAt? : (path : List String) → Entries → Option Entries
  | [], es => some es
  | key :: path, es =>
    match es.get? key with
    | none => some []
    | some (.table _ _ inner) => entriesAt? path inner
    | some (.tables (last :: _)) => entriesAt? path last
    | some _ => none

/-- Puts a value under a dotted key. -/
def put? (es : Entries) (path : List String) (key : String) (v : Toml) : Option Entries :=
  descend? true
    (fun isDotted inner =>
      if isDotted = path.isEmpty || inner.has key then none
      else some (inner.insert key (.value v)))
    path false es

end Item
end Toml

end StaticBlog
