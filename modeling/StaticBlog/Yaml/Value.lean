import StaticBlog.Json.Basic
import StaticBlog.Yaml.Node
import StaticBlog.Yaml.Plain

/-!
# YAML values

- `Yaml` : the values, in which tags are kept
- `Yaml.Node.value?` : the value of a node
- `Yaml.toJson` : a value as JSON, if it has such a form
- `Yaml.scalarText?` : the text of a value that is a scalar
- `Yaml.Node.members?` : the members of a mapping whose keys are scalars
- `Yaml.Node.isNothing?` : whether an optional field is left out
-/

namespace StaticBlog

/-- A YAML value. -/
inductive Yaml
  | null
  | bool (value : Bool)
  | number (value : Numeral)
  | string (text : String)
  | sequence (items : List Yaml)
  | mapping (pairs : List (Yaml × Yaml))
  | tagged (tag : String) (value : Yaml)
  deriving Repr, Inhabited

namespace Yaml

/-! ## Equality -/

/-- Whether two numerals are the same key. Zeros of either sign are, and numbers that are none. -/
def sameNumeral : Numeral → Numeral → Bool
  | .int a, .int b => a = b
  | .float (.finite _ 0 _), .float (.finite _ 0 _) => true
  | .float a, .float b => a = b
  | _, _ => false

mutual

/-- Whether two values are the same key. -/
def same : Yaml → Yaml → Bool
  | .null, .null => true
  | .bool a, .bool b => a == b
  | .number a, .number b => sameNumeral a b
  | .string a, .string b => a == b
  | .sequence a, .sequence b => sameItems a b
  | .mapping a, .mapping b => samePairs a b
  | .tagged t a, .tagged u b => t == u && same a b
  | _, _ => false

def sameItems : List Yaml → List Yaml → Bool
  | [], [] => true
  | a :: as, b :: bs => same a b && sameItems as bs
  | _, _ => false

def samePairs : List (Yaml × Yaml) → List (Yaml × Yaml) → Bool
  | [], [] => true
  | (k, v) :: as, (l, w) :: bs => same k l && same v w && samePairs as bs
  | _, _ => false

end

/-- Whether a key occurs twice. -/
def hasRepeatedKey : List (Yaml × Yaml) → Bool
  | [] => false
  | (k, _) :: ps => ps.any (fun p => same k p.1) || hasRepeatedKey ps

/-! ## Values of nodes -/

def ofMeaning? (text : String) : PlainMeaning → Option Yaml
  | .null => some .null
  | .bool b => some (.bool b)
  | .number n => some (.number n)
  | .text => some (.string text)
  | .tooWide => none

/-- The names of the types that a tag can ask for. -/
def typePrefix : String := "tag:yaml.org,2002:"

/-- The value of a scalar with a tag that is no tag of its own. -/
def typedScalar? (tag text : String) : Option Yaml :=
  if tag = typePrefix ++ "bool" then (bool? text).map .bool
  else if tag = typePrefix ++ "int" then
    match integerMeaning? text.toList with
    | some (.number n) => some (.number n)
    | _ => none
  else if tag = typePrefix ++ "float" then (float? text.toList).map fun x => .number (.float x)
  else if tag = typePrefix ++ "null" then if isNullWord text then some .null else none
  else some (.string text)

/-- The value of a scalar whose tag, if any, has been taken off. -/
def bareScalar? (text : String) (style : ScalarStyle) : Option Yaml :=
  if style = .plain then ofMeaning? text (plainMeaning text) else some (.string text)

/-- The name of a tag of its own, which begins with an exclamation mark. -/
def ownTag? (tag : Option String) : Option String :=
  match tag.map String.toList with
  | some ('!' :: name) => some (String.ofList name)
  | _ => none

/-- A value with the tag of its own that a node has. Such a tag must have a name. -/
def withTag? (tag : Option String) (value : Option Yaml) : Option Yaml :=
  match ownTag? tag with
  | some name => if name = "" then none else value.map fun v => .tagged name v
  | none => value

mutual

/-- The value of a node. There is none if a key is repeated, or a scalar is not what its tag says. -/
def Node.value? : Node → Option Yaml
  | .scalar tag text style =>
    match tag, ownTag? tag with
    | some t, none => typedScalar? t text
    | _, _ => withTag? tag (bareScalar? text style)
  | .sequence tag items => withTag? tag ((Node.values? items).map .sequence)
  | .mapping tag pairs =>
    withTag? tag do
      let ps ← Node.pairs? pairs
      if hasRepeatedKey ps then none else some (.mapping ps)

def Node.values? : List Node → Option (List Yaml)
  | [] => some []
  | n :: ns => do return (← Node.value? n) :: (← Node.values? ns)

def Node.pairs? : List (Node × Node) → Option (List (Yaml × Yaml))
  | [] => some []
  | (k, v) :: ps => do return (← Node.value? k, ← Node.value? v) :: (← Node.pairs? ps)

end

mutual

/-- Whether some part of a value has a tag. -/
def hasTag : Yaml → Bool
  | .tagged _ _ => true
  | .sequence items => anyHasTag items
  | .mapping pairs => anyPairHasTag pairs
  | _ => false

def anyHasTag : List Yaml → Bool
  | [] => false
  | v :: vs => hasTag v || anyHasTag vs

def anyPairHasTag : List (Yaml × Yaml) → Bool
  | [] => false
  | (k, v) :: ps => hasTag k || hasTag v || anyPairHasTag ps

end

/-- The value of a node in which no tags of its own are allowed. -/
def Node.untaggedValue? (n : Node) : Option Yaml :=
  n.value?.bind fun v => if hasTag v then none else some v

/-! ## Other forms -/

/-- The text of a scalar; tags do not count, and nothing has no text. -/
def scalarText? : Yaml → Option String
  | .string s => some s
  | .number n => some (String.ofList n.text)
  | .bool b => some (if b then "true" else "false")
  | .tagged _ v => scalarText? v
  | _ => none

/-- Why a value has no form as JSON. -/
inductive KeyFault
  | notText
  | notFinite
  deriving DecidableEq, Repr

def KeyFault.message : KeyFault → String
  | notText => "key must be a string"
  | notFinite => "float key must be finite"

/-- A key as the name of a member. -/
def memberName : Yaml → Except KeyFault String
  | .string s => .ok s
  | .bool b => .ok (if b then "true" else "false")
  | .number (.int n) => .ok (String.ofList (Numeral.int n).text)
  | .number (.float x) =>
    if x.isFinite then .ok (String.ofList x.scientific) else .error .notFinite
  | _ => .error .notText

mutual

/-- A value as JSON. There is no such form if a key is neither text, a truth value nor a finite
number. A number that is not finite becomes nothing, and a tagged value an object with one member. -/
def toJson : Yaml → Except KeyFault Json
  | .null => .ok .null
  | .bool b => .ok (.bool b)
  | .number (.int n) => .ok (.number (.int n))
  | .number (.float x) => .ok (if x.isFinite then .number (.float x) else .null)
  | .string s => .ok (.string s)
  | .sequence items => do return .array (← itemsToJson items)
  | .mapping pairs => do return .object (Dict.ofEntries (← pairsToJson pairs))
  | .tagged tag v => do return .object [("!" ++ tag, ← toJson v)]

def itemsToJson : List Yaml → Except KeyFault (List Json)
  | [] => .ok []
  | v :: vs => do
    let j ← toJson v
    return j :: (← itemsToJson vs)

def pairsToJson : List (Yaml × Yaml) → Except KeyFault (List (String × Json))
  | [] => .ok []
  | (k, v) :: ps => do
    let name ← memberName k
    let j ← toJson v
    return (name, j) :: (← pairsToJson ps)

end

/-- The members of fields by name, each as JSON. -/
def fieldsToJson : Dict Yaml → Except KeyFault (Dict Json)
  | [] => .ok []
  | (name, v) :: fs => do
    let j ← toJson v
    return (name, j) :: (← fieldsToJson fs)

mutual

/-- A JSON value as a YAML value. There is none if a member is repeated. -/
def ofJson? : Json → Option Yaml
  | .null => some .null
  | .bool b => some (.bool b)
  | .number n => some (.number n)
  | .string s => some (.string s)
  | .array items => (itemsOfJson? items).map .sequence
  | .object members => do
    let ps ← membersOfJson? members
    if hasRepeatedKey ps then none else some (.mapping ps)

def itemsOfJson? : List Json → Option (List Yaml)
  | [] => some []
  | v :: vs => do return (← ofJson? v) :: (← itemsOfJson? vs)

def membersOfJson? : List (String × Json) → Option (List (Yaml × Yaml))
  | [] => some []
  | (k, v) :: ms => do return (.string k, ← ofJson? v) :: (← membersOfJson? ms)

end

end Yaml

/-! ## Records -/

namespace Yaml
namespace Node

/-- The text of a scalar as it is written, whatever its tag and style. -/
def scalarText? : Node → Option String
  | .scalar _ text _ => some text
  | _ => none

/-- The members of a mapping. There are none if a key is not a scalar; nothing at all is a mapping
without members. -/
def members? : Node → Option (List (String × Node))
  | .mapping _ pairs => pairs.mapM fun (k, v) => k.scalarText?.map (·, v)
  | .scalar _ "" .plain => some []
  | _ => none

/-- Whether a node says that an optional field has no value. A node that is tagged as nothing must
be nothing. -/
def isNothing? : Node → Option Bool
  | .scalar (some tag) text .plain =>
    if tag = typePrefix ++ "null" then if isNullWord text then some true else none else some false
  | .scalar none text .plain => some (text = "" || isNullWord text)
  | _ => some false

/-- The optional value of a node, which is read with `read`. -/
def optional? {α : Type} (read : Node → Option α) (n : Node) : Option (Option α) := do
  if ← n.isNothing? then some none else some (some (← read n))

end Node
end Yaml

end StaticBlog
