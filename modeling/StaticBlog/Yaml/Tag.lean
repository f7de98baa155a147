import StaticBlog.Yaml.Cursor

/-!
# Tags, anchors and directives in YAML text

- `TagText` : a tag as written, by a handle and a suffix
- `readTag?` : the tag at a place
- `readAnchorName?` : the name of an anchor or alias
- `readDirective?` : a line that concerns the whole document
-/

namespace StaticBlog
namespace Yaml

/-- A tag as written. The handle stands for what a tag begins with; without one the suffix is the
whole tag. -/
structure TagText where
  handle : List Char
  suffix : List Char
  deriving DecidableEq, Repr, Inhabited

/-! ## Tags -/

/-- The characters of a tag's suffix. Commas and brackets may stand only inside angle brackets. -/
def isTagChar (bracketed : Bool) (c : Char) : Bool :=
  isWordChar c || ";/?:@&=+$.%!~*'()".toList.contains c || (bracketed && ",[]".toList.contains c)

def hexByte? : List Char → Option UInt8
  | a :: b :: _ => do
    let a ← digit? a
    let b ← digit? b
    some (UInt8.ofNat (a * 16 + b))
  | _ => none
where
  digit? (c : Char) : Option Nat :=
    if c.isDigit then some (c.toNat - 0x30)
    else if 'a' ≤ c && c ≤ 'f' then some (c.toNat - 0x61 + 10)
    else if 'A' ≤ c && c ≤ 'F' then some (c.toNat - 0x41 + 10)
    else none

/-- Decodes the escaped bytes of a suffix. `skip` counts the characters left of an escape. -/
def suffixBytes? : (skip : Nat) → List Char → Option (List UInt8)
  | _, [] => some []
  | skip + 1, _ :: s => suffixBytes? skip s
  | 0, c :: s =>
    if c = '%' then do
      let b ← hexByte? s
      (suffixBytes? 2 s).map (b :: ·)
    else (suffixBytes? 0 s).map (String.utf8EncodeChar c ++ ·)

/-- Reads the suffix of a tag behind the given beginning. -/
def readSuffix? (bracketed : Bool) (start : List Char) (cur : Cursor) :
    Option (List Char × Cursor) := do
  let (s, cur) := cur.span (isTagChar bracketed)
  if start.isEmpty && s.isEmpty then none
  let text ← String.fromUTF8? ⟨(← suffixBytes? 0 s).toArray⟩
  some (start.drop 1 ++ text.toList, cur)

/-- Reads a handle: an exclamation mark, or a word between two of them. -/
def readHandle? (cur : Cursor) : Option (List Char × Cursor) :=
  match cur.rest with
  | '!' :: s =>
    let word := s.takeWhile isWordChar
    let cur := cur.skip (1 + word.length)
    if cur.rest.head? = some '!' then some ('!' :: word ++ ['!'], cur.skip 1)
    else some ('!' :: word, cur)
  | _ => none

/-- Whether a handle has a word or nothing between two exclamation marks. -/
def isLongHandle (handle : List Char) : Bool := 2 ≤ handle.length && handle.getLast? = some '!'

/-- Reads a tag. -/
def readTag? (inFlow : Bool) (cur : Cursor) : Option (TagText × Cursor) := do
  let (tag, cur) ← match cur.rest with
    | '!' :: '<' :: _ => do
      let (suffix, cur) ← readSuffix? true [] (cur.skip 2)
      if cur.rest.head? = some '>' then some (TagText.mk [] suffix, cur.skip 1) else none
    | _ => do
      let (handle, next) ← readHandle? cur
      if isLongHandle handle then
        let (suffix, next) ← readSuffix? false [] next
        some (TagText.mk handle suffix, next)
      else
        let (suffix, next) ← readSuffix? false handle next
        some (if suffix.isEmpty then TagText.mk [] ['!'] else TagText.mk ['!'] suffix, next)
  if endsWord cur.rest || (inFlow && cur.rest.head? = some ',') then some (tag, cur) else none

/-! ## Anchors -/

/-- Reads the name of an anchor or alias, with the cursor behind its mark. -/
def readAnchorName? (cur : Cursor) : Option (String × Cursor) :=
  let (name, cur) := cur.span isWordChar
  let ends := endsWord cur.rest || ((cur.rest.head?.map fun c => "?:,]\x7d%@`".toList.contains c).getD false)
  if name.isEmpty || !ends then none else some (String.ofList name, cur)

/-! ## Directives -/

/-- A directive. -/
inductive Directive
  | version (major minor : Nat)
  | tag (handle start : List Char)
  deriving DecidableEq, Repr, Inhabited

/-- Reads a number of at most nine digits. -/
def readVersionNumber? (cur : Cursor) : Option (Nat × Cursor) :=
  let (ds, cur) := cur.span Char.isDigit
  if ds.isEmpty || 9 < ds.length then none
  else some (ds.foldl (fun n c => 10 * n + (c.toNat - 0x30)) 0, cur)

/-- Reads a directive up to the end of its line, with the cursor behind its mark. -/
def readDirective? (cur : Cursor) : Option (Directive × Cursor) := do
  let (name, cur) := cur.span isWordChar
  if name.isEmpty || !endsWord cur.rest then none
  let (directive, cur) ←
    if name = "YAML".toList then do
      let (major, cur) ← readVersionNumber? (cur.skipWhile isBlank)
      if cur.rest.head? ≠ some '.' then none
      let (minor, cur) ← readVersionNumber? (cur.skip 1)
      some (Directive.version major minor, cur)
    else if name = "TAG".toList then do
      let (handle, cur) ← readHandle? (cur.skipWhile isBlank)
      if handle ≠ ['!'] && !isLongHandle handle then none
      if !((cur.rest.head?.map isBlank).getD false) then none
      let (start, cur) ← readSuffix? true [] (cur.skipWhile isBlank)
      if !endsWord cur.rest then none
      some (Directive.tag handle start, cur)
    else none
  let cur := cur.skipWhile isBlank
  let cur := if cur.rest.head? = some '#' then cur.skipWhile (!isBreak ·) else cur
  if endsLine cur.rest then some (directive, cur.skipBreak) else none

end Yaml
end StaticBlog
