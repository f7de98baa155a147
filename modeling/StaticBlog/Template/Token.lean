import StaticBlog.Text.Blank
import StaticBlog.Text.Classes
import StaticBlog.Text.Search

/-!
# Template tokens

A template is text with tags. `{{ path }}` prints a value, `{% for name in path %}` and
`{% if path %}` open a block, and `{% endfor %}` and `{% endif %}` close one. Whatever else looks
like a tag is text.

- `Token` : a character of the text, or a tag with the characters it was read from
- `Token.scan` : the tokens of a template
- `Token.source` : the characters of a token
-/

namespace StaticBlog

/-- A tag that opens or closes a block. -/
inductive BlockTag
  /-- Repeats the block for each item of an array. -/
  | loop (item : String) (list : List String)
  | endLoop
  /-- Keeps the block if a value is truthy. -/
  | test (path : List String)
  | endTest
  deriving DecidableEq, Repr, Inhabited

namespace BlockTag

def isOpener : BlockTag → Bool
  | .loop _ _ => true
  | .test _ => true
  | _ => false

/-- Whether an end tag closes the blocks that a tag opens. -/
def closes : (close opener : BlockTag) → Bool
  | .endLoop, .loop _ _ => true
  | .endTest, .test _ => true
  | _, _ => false

end BlockTag

/-- A piece of a template. -/
inductive Token
  | literal (char : Char)
  | print (path : List String) (source : List Char)
  | block (tag : BlockTag) (source : List Char)
  deriving DecidableEq, Repr, Inhabited

namespace Token

/-! ## Names and paths -/

def isNameChar (c : Char) : Bool := Text.isAlphanumeric c || c = '_' || c = '-' || c = '$'

def isName (s : List Char) : Bool := !s.isEmpty && s.all isNameChar

/-- The names of a path, which has points between them. -/
def path? (s : List Char) : Option (List String) :=
  let names := Text.splitWhere (· = '.') s
  if names.all isName then some (names.map String.ofList) else none

/-- The block tag made of the given words. -/
def blockTag? : List (List Char) → Option BlockTag
  | [keyword, item, preposition, list] =>
    if keyword = "for".toList && isName item && preposition = "in".toList then
      (path? list).map fun p => .loop (String.ofList item) p
    else none
  | [keyword, path] =>
    if keyword = "if".toList then (path? path).map .test else none
  | [keyword] =>
    if keyword = "endfor".toList then some .endLoop
    else if keyword = "endif".toList then some .endTest
    else none
  | _ => none

/-! ## Scanning -/

/-- Whether a tag may start here. -/
def isTagStart : List Char → Bool
  | '\x7b' :: c :: _ => c = '\x7b' || c = '%'
  | _ => false

/-- The tag at the start of a text. -/
def tag? : List Char → Option Token
  | '\x7b' :: '\x7b' :: s => do
    let (inner, _) ← Text.breakOn? ['\x7d', '\x7d'] s
    let path ← path? (Text.trim inner)
    some (.print path ('\x7b' :: '\x7b' :: inner ++ ['\x7d', '\x7d']))
  | '\x7b' :: '%' :: s => do
    let (inner, _) ← Text.breakOn? ['%', '\x7d'] s
    let tag ← blockTag? (Text.words inner)
    some (.block tag ('\x7b' :: '%' :: inner ++ ['%', '\x7d']))
  | _ => none

/-- The characters that a token was read from. -/
def source : Token → List Char
  | .literal c => [c]
  | .print _ s => s
  | .block _ s => s

/-- Reads tokens from left to right. `skip` counts the characters left of the tag being passed over.
The two characters that start no tag after all are text, and no tag starts at the second. -/
def scanFrom : (skip : Nat) → List Char → List Token
  | _, [] => []
  | skip + 1, _ :: s => scanFrom skip s
  | 0, c :: s =>
    match tag? (c :: s) with
    | some t => t :: scanFrom (t.source.length - 1) s
    | none =>
      if isTagStart (c :: s) then .literal c :: .literal (s.headD c) :: scanFrom 1 s
      else .literal c :: scanFrom 0 s

/-- The tokens of a template. -/
def scan (s : List Char) : List Token := scanFrom 0 s

end Token
end StaticBlog
