import StaticBlog.Decimal.Numeral
import StaticBlog.Dict

/-!
# JSON values

- `Json` : the values; an object keeps the order of its members
- `Json.quote` : a text as a JSON string
- `Json.render` : a value without any blanks
-/

namespace StaticBlog

/-- A JSON value. -/
inductive Json
  | null
  | bool (value : Bool)
  | number (value : Numeral)
  | string (text : String)
  | array (items : List Json)
  | object (members : List (String × Json))
  deriving Inhabited, Repr

namespace Json

/-! ## Parts -/

def text? : Json → Option String
  | .string s => some s
  | _ => none

def int? : Json → Option Int
  | .number (.int n) => some n
  | _ => none

def bool? : Json → Option Bool
  | .bool b => some b
  | _ => none

def items? : Json → Option (List Json)
  | .array items => some items
  | _ => none

/-- The member of an object with a name. -/
def field? (v : Json) (name : String) : Option Json :=
  match v with
  | .object members => Dict.get? members name
  | _ => none

/-! ## Printing -/

/-- A hexadecimal digit in lower case. -/
def hexDigit (n : Nat) : Char :=
  if n < 10 then Char.ofNat (0x30 + n) else Char.ofNat (0x61 + n - 10)

/-- A character inside a JSON string. Quotes, backslashes and control characters are escaped. -/
def quoteChar (c : Char) : List Char :=
  if c = '"' then ['\\', '"']
  else if c = '\\' then ['\\', '\\']
  else if c = '\n' then ['\\', 'n']
  else if c = '\r' then ['\\', 'r']
  else if c = '\t' then ['\\', 't']
  else if c = '\x08' then ['\\', 'b']
  else if c = '\x0c' then ['\\', 'f']
  else if c.toNat < 32 then ['\\', 'u', '0', '0', hexDigit (c.toNat / 16), hexDigit (c.toNat % 16)]
  else [c]

/-- A text as a JSON string, quotes included. -/
def quote (s : List Char) : List Char := '"' :: s.flatMap quoteChar ++ ['"']

mutual

/-- A value as JSON text. -/
def render : Json → List Char
  | .null => "null".toList
  | .bool true => "true".toList
  | .bool false => "false".toList
  | .number n => n.text
  | .string s => quote s.toList
  | .array items => '[' :: renderItems items ++ [']']
  | .object members => '\x7b' :: renderMembers members ++ ['\x7d']

/-- The items of an array, with commas between them. -/
def renderItems : List Json → List Char
  | [] => []
  | [v] => render v
  | v :: w :: rest => render v ++ ',' :: renderItems (w :: rest)

/-- The members of an object, with commas between them. -/
def renderMembers : List (String × Json) → List Char
  | [] => []
  | [(k, v)] => quote k.toList ++ ':' :: render v
  | (k, v) :: m :: rest => quote k.toList ++ ':' :: render v ++ ',' :: renderMembers (m :: rest)

end

end Json
end StaticBlog
