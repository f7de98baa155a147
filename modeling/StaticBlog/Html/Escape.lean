/-!
# Escaped text

Five characters have a meaning in markup and are written as entities in content and in attribute
values.

- `entity?` : the entity of a character that needs one
- `escape` : a text with each such character written as its entity
- `unescape?` : reads an escaped text back
-/

namespace StaticBlog
namespace Html

/-- The entity a character is written as, if it needs one. -/
def entity? : Char → Option (List Char)
  | '&' => some "&amp;".toList
  | '<' => some "&lt;".toList
  | '>' => some "&gt;".toList
  | '"' => some "&quot;".toList
  | '\'' => some "&#39;".toList
  | _ => none

def escapeChar (c : Char) : List Char := (entity? c).getD [c]

/-- A text as it is written in content and in attribute values. -/
def escapeChars (s : List Char) : List Char := s.flatMap escapeChar

def escape (s : String) : String := String.ofList (escapeChars s.toList)

/-- Reads back an escaped text. An ampersand that begins none of the five entities stands for
itself. -/
def unescapeChars : List Char → List Char
  | '&' :: 'a' :: 'm' :: 'p' :: ';' :: s => '&' :: unescapeChars s
  | '&' :: 'l' :: 't' :: ';' :: s => '<' :: unescapeChars s
  | '&' :: 'g' :: 't' :: ';' :: s => '>' :: unescapeChars s
  | '&' :: 'q' :: 'u' :: 'o' :: 't' :: ';' :: s => '"' :: unescapeChars s
  | '&' :: '#' :: '3' :: '9' :: ';' :: s => '\'' :: unescapeChars s
  | c :: s => c :: unescapeChars s
  | [] => []

@[simp] theorem escapeChars_nil : escapeChars [] = [] := rfl

@[simp] theorem escapeChars_cons (c : Char) (s : List Char) :
    escapeChars (c :: s) = escapeChar c ++ escapeChars s := rfl

@[simp] theorem escapeChars_append (s t : List Char) :
    escapeChars (s ++ t) = escapeChars s ++ escapeChars t := by
  simp [escapeChars]

end Html
end StaticBlog
