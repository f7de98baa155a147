import StaticBlog.Json.Basic
import StaticBlog.Text.Search

/-!
# Template values

- `Value` : what a template can print, test or repeat over
- `Value.text` : a value as it is printed
- `Value.isTruthy` : whether a test on a value succeeds
- `Value.lookup` : the value that a path leads to from a value
- `Value.ofJson` : a JSON value as a template value
-/

namespace StaticBlog

/-- A value that a template can use. Every number is a floating-point number. -/
inductive Value
  | null
  | bool (value : Bool)
  | number (value : Binary64)
  | string (text : String)
  | array (items : List Value)
  | object (entries : List (String × Value))
  deriving Inhabited, Repr

namespace Value

instance : Coe String Value := ⟨.string⟩

def ofNat (n : Nat) : Value := .number (Binary64.ofInt n)

def ofInt (n : Int) : Value := .number (Binary64.ofInt n)

/-! ## Printing and testing -/

/-- The bound below which a whole number is printed as an integer. -/
def wholeLimit : Nat := Nat.pow 10 15

/-- A number as it is printed: without exponent, and without point if it is whole. -/
def numberText : Binary64 → List Char
  | .finite s m e =>
    let n := Binary64.floorNat m e
    if Binary64.isWholeOf m e && n < wholeLimit then
      Text.signed (if s then -(n : Int) else n)
    else (Binary64.finite s m e).positional
  | x => x.positional

mutual

/-- A value as it is printed. The items of an array have commas between them; an object has no
printed form. -/
def textChars : Value → List Char
  | .null => []
  | .bool true => "true".toList
  | .bool false => "false".toList
  | .number x => numberText x
  | .string s => s.toList
  | .array items => itemsText items
  | .object _ => []

def itemsText : List Value → List Char
  | [] => []
  | [v] => textChars v
  | v :: w :: rest => textChars v ++ ',' :: itemsText (w :: rest)

end

def text (v : Value) : String := String.ofList (textChars v)

/-- A test fails on nothing, false, zero, a value that is no number, and empty text and arrays. -/
def isTruthy : Value → Bool
  | .null => false
  | .bool b => b
  | .number .nan => false
  | .number (.infinite _) => true
  | .number (.finite _ m _) => m != 0
  | .string s => s != ""
  | .array items => !items.isEmpty
  | .object _ => true

/-! ## Paths -/

/-- The place in an array that a path segment names: digits, with or without a plus sign. -/
def index? (key : String) : Option Nat :=
  let ds := match key.toList with
    | '+' :: ds => ds
    | ds => ds
  if !ds.isEmpty && ds.all Char.isDigit then some (Text.valueOf ds) else none

/-- The entry of an object or the item of an array that a path segment names. -/
def property? (v : Value) (key : String) : Option Value :=
  match v with
  | .object entries => Dict.get? entries key
  | .array items => (index? key).bind fun i => items[i]?
  | _ => none

/-- The value that a path leads to. -/
def lookup : Value → List String → Option Value
  | v, [] => some v
  | v, key :: path => (v.property? key).bind fun w => lookup w path

/-! ## Values from JSON -/

mutual

/-- A JSON value as a template value. -/
def ofJson : Json → Value
  | .null => .null
  | .bool b => .bool b
  | .number n => .number n.toBinary64
  | .string s => .string s
  | .array items => .array (ofJsonItems items)
  | .object members => .object (Dict.ofEntries (ofJsonMembers members))

def ofJsonItems : List Json → List Value
  | [] => []
  | v :: vs => ofJson v :: ofJsonItems vs

def ofJsonMembers : List (String × Json) → List (String × Value)
  | [] => []
  | (k, v) :: ms => (k, ofJson v) :: ofJsonMembers ms

end

end Value
end StaticBlog
