import StaticBlog.Path

/-!
# Disks

A disk holds files, directories and symbolic links by their places.

- `Place` : the names that lead from the root to an entry
- `Disk` : the entries by place, with the directory that relative paths start from
- `Disk.get?`, `Disk.put`, `Disk.erase`, `Disk.eraseBelow` : the entry at a place
- `Disk.reach`, `Disk.locate` : the place that a path leads to
-/

namespace StaticBlog

/-- The names that lead from the root to an entry. -/
abbrev Place := List String

/-- What a file holds: text, or bytes that are none. -/
inductive Content
  | text (s : String)
  | binary (bytes : List UInt8)
  deriving DecidableEq, Repr, Inhabited

/-- What a file of some bytes holds. -/
def Content.ofBytes (bytes : List UInt8) : Content :=
  match String.fromUTF8? ⟨bytes.toArray⟩ with
  | some s => .text s
  | none => .binary bytes

/-- An entry of a directory. -/
inductive Entry
  /-- A file, with the time of its last change in seconds. -/
  | file (content : Content) (modified : Int)
  | directory
  /-- A symbolic link. -/
  | link (target : String)
  deriving DecidableEq, Repr, Inhabited

/-- What can go wrong with a file. -/
inductive DiskError
  | notFound
  | notADirectory
  | isADirectory
  | notEmpty
  | alreadyExists
  | notText
  | notAFile
  | longName
  | manyLinks
  /-- A directory is met again below itself. -/
  | loop
  deriving DecidableEq, Repr

/-- The name of the kind of an error. -/
def DiskError.kind : DiskError → String
  | notFound => "NotFound"
  | notADirectory => "NotADirectory"
  | isADirectory => "IsADirectory"
  | notEmpty => "DirectoryNotEmpty"
  | alreadyExists => "AlreadyExists"
  | notText => "InvalidData"
  | notAFile => "InvalidInput"
  | longName => "InvalidFilename"
  | manyLinks => "FilesystemLoop"
  | loop => "Other"

/-- Files, directories and links by their places. -/
structure Disk where
  entries : List (Place × Entry) := []
  /-- Where relative paths start. -/
  cwd : Place := []
  /-- The time that files get which are written, in seconds. -/
  clock : Int := 0
  deriving Repr, Inhabited

namespace Disk

/-! ## Entries -/

def find? (entries : List (Place × Entry)) (l : Place) : Option Entry :=
  match entries with
  | [] => none
  | (k, e) :: es => if k = l then some e else find? es l

/-- The entry at a place. The root is a directory. -/
def get? (d : Disk) (l : Place) : Option Entry :=
  if l = [] then some .directory else find? d.entries l

def putIn (entries : List (Place × Entry)) (l : Place) (e : Entry) : List (Place × Entry) :=
  match entries with
  | [] => [(l, e)]
  | (k, v) :: es => if k = l then (k, e) :: es else (k, v) :: putIn es l e

/-- Puts an entry at a place. -/
def put (d : Disk) (l : Place) (e : Entry) : Disk := { d with entries := putIn d.entries l e }

/-- Removes the entries at places that a condition holds of. -/
def eraseIf (d : Disk) (p : Place → Bool) : Disk :=
  { d with entries := d.entries.filter fun (k, _) => !p k }

/-- Removes the entry at a place. -/
def erase (d : Disk) (l : Place) : Disk := d.eraseIf (· = l)

/-- Removes what is below a place. -/
def eraseBelow (d : Disk) (l : Place) : Disk := d.eraseIf fun k => l.isPrefixOf k && k ≠ l

/-- Removes the entry at a place and all below it. -/
def eraseTree (d : Disk) (l : Place) : Disk := d.eraseIf l.isPrefixOf

/-- The names in a directory, in their order. -/
def names (d : Disk) (l : Place) : List String :=
  (d.entries.filterMap fun (k, _) =>
      match k.getLast? with
      | some n => if k.dropLast = l then some n else none
      | none => none).mergeSort
    fun a b => !b.toList.lex a.toList (· < ·)

theorem find?_putIn_self (entries : List (Place × Entry)) (l : Place) (e : Entry) :
    find? (putIn entries l e) l = some e := by
  induction entries with
  | nil => simp [putIn, find?]
  | cons x es ih =>
    obtain ⟨k, v⟩ := x
    by_cases h : k = l
    · simp [putIn, find?, h]
    · simp [putIn, find?, h, ih]

theorem find?_putIn_of_ne (entries : List (Place × Entry)) {l l' : Place} (e : Entry) (h : l ≠ l') :
    find? (putIn entries l e) l' = find? entries l' := by
  induction entries with
  | nil => simp [putIn, find?, h]
  | cons x es ih =>
    obtain ⟨k, v⟩ := x
    by_cases hk : k = l
    · subst hk
      simp [putIn, find?, h]
    · by_cases hk' : k = l'
      · subst hk'
        simp [putIn, find?, hk]
      · simp [putIn, find?, hk, hk', ih]

theorem get?_put_self (d : Disk) {l : Place} (e : Entry) (h : l ≠ []) :
    (d.put l e).get? l = some e := by
  simp [get?, put, h, find?_putIn_self]

theorem get?_put_of_ne (d : Disk) {l l' : Place} (e : Entry) (h : l ≠ l') :
    (d.put l e).get? l' = d.get? l' := by
  by_cases hl : l' = []
  · simp [get?, hl]
  · simp [get?, put, hl, find?_putIn_of_ne d.entries e h]

/-! ## Paths -/

/-- Where a path leads. -/
inductive Found
  | entry (place : Place) (e : Entry)
  /-- There is no such entry, but the directory that would hold it. -/
  | missing (place : Place)
  deriving DecidableEq, Repr

/-- The number of bytes that a name may have. -/
def nameLimit : Nat := 255

/-- The number of links that a path may lead through. -/
def linkLimit : Nat := 40

/-- Follows the components of a path from a directory, up to the first link that is followed. `ahead`
says whether a link at the end of the path is, and `jump` goes on behind one. Where nothing is left to
follow, there is a directory. -/
def followWith (d : Disk) (ahead : Bool) (jump : Place → List Path.Component → Except DiskError Found) :
    Place → List Path.Component → Except DiskError Found
  | l, [] => .ok (.entry l .directory)
  | _, .root :: rest => followWith d ahead jump [] rest
  | l, .here :: rest => followWith d ahead jump l rest
  | l, .up :: rest => followWith d ahead jump l.dropLast rest
  | l, .name n :: rest =>
    if nameLimit < n.utf8ByteSize then .error .longName
    else match d.get? (l ++ [n]) with
      | none => if rest = [] then .ok (.missing (l ++ [n])) else .error .notFound
      | some .directory => followWith d ahead jump (l ++ [n]) rest
      | some (.file content modified) =>
        if rest = [] then .ok (.entry (l ++ [n]) (.file content modified)) else .error .notADirectory
      | some (.link target) =>
        if rest = [] ∧ !ahead then .ok (.entry (l ++ [n]) (.link target))
        else jump l (Path.componentsOf target.toList ++ rest)

/-- Follows the components of a path from a directory. `links` is the number of links that still may
be followed. -/
def follow (d : Disk) (ahead : Bool) :
    (links : Nat) → Place → List Path.Component → Except DiskError Found
  | 0 => followWith d ahead fun _ _ => .error .manyLinks
  | links + 1 => followWith d ahead (follow d ahead links)

/-- The place that a path leads to, whether slashes end it or not. A dot at the end means the
directory before it, which must be there. -/
def reach (d : Disk) (ahead : Bool) (p : Path) : Except DiskError Found :=
  if p.text = "" then .error .notFound
  else if p.text.toList.contains '\x00' then .error .notAFile
  else match d.follow (ahead || p.endsInDot) linkLimit d.cwd p.components with
    | .ok (.entry l (.file content modified)) =>
      if p.endsInDot then .error .notADirectory else .ok (.entry l (.file content modified))
    | .ok (.missing l) => if p.endsInDot then .error .notFound else .ok (.missing l)
    | r => r

/-- The place that a path leads to. A link before a slash is followed, and no file is there. -/
def locate (d : Disk) (ahead : Bool) (p : Path) : Except DiskError Found :=
  match d.reach (ahead || p.endsInSlash) p with
  | .ok (.entry l (.file content modified)) =>
    if p.endsInSlash then .error .notADirectory else .ok (.entry l (.file content modified))
  | r => r

end Disk
end StaticBlog
