/-!
# Finding and replacing text

Searching is left to right, and what has been matched is not looked at again.

- `stripPrefix?` : a text without a given beginning
- `breakOn?` : the text around the first occurrence of a pattern
- `breakOnLast?` : the text around the last one
- `replace` : every occurrence exchanged
- `occurrences` : how many there are
-/

namespace StaticBlog
namespace Text

/-- The rest of a text that begins with the given one. -/
def stripPrefix? : (p s : List Char) → Option (List Char)
  | [], s => some s
  | _ :: _, [] => none
  | a :: p, c :: s => if a = c then stripPrefix? p s else none

/-- The text before and after the first occurrence of a pattern. -/
def breakOn? (p : List Char) : List Char → Option (List Char × List Char)
  | [] => if p.isEmpty then some ([], []) else none
  | c :: s =>
    match stripPrefix? p (c :: s) with
    | some rest => some ([], rest)
    | none => (breakOn? p s).map fun (before, after) => (c :: before, after)

/-- Whether a pattern occurs in a text. -/
def occurs (p s : List Char) : Bool := (breakOn? p s).isSome

/-- The text before and after the last occurrence of a pattern. -/
def breakOnLast? (p : List Char) : List Char → Option (List Char × List Char)
  | [] => if p.isEmpty then some ([], []) else none
  | c :: s =>
    match breakOnLast? p s with
    | some (before, after) => some (c :: before, after)
    | none => (stripPrefix? p (c :: s)).map fun rest => ([], rest)

/-- Replaces the occurrences of a pattern from left to right. `skip` counts the characters of the
occurrence being passed over; an empty pattern is never looked for. -/
def replaceFrom (p r : List Char) : Nat → List Char → List Char
  | _, [] => []
  | skip + 1, _ :: s => replaceFrom p r skip s
  | 0, c :: s =>
    if p.isPrefixOf (c :: s) then r ++ replaceFrom p r (p.length - 1) s
    else c :: replaceFrom p r 0 s

/-- The text with every occurrence of the pattern `p` exchanged for `r`. -/
def replace (p r s : List Char) : List Char :=
  if p.isEmpty then s else replaceFrom p r 0 s

/-- Counts occurrences that do not overlap, from left to right. -/
def occurrencesFrom (p : List Char) : Nat → List Char → Nat
  | _, [] => 0
  | skip + 1, _ :: s => occurrencesFrom p skip s
  | 0, c :: s =>
    if p.isPrefixOf (c :: s) then occurrencesFrom p (p.length - 1) s + 1
    else occurrencesFrom p 0 s

/-- The number of occurrences of a pattern that do not overlap. -/
def occurrences (p s : List Char) : Nat :=
  if p.isEmpty then 0 else occurrencesFrom p 0 s

/-- Joins pieces with a separator between each two. -/
def joinWith (sep : List Char) : List (List Char) → List Char
  | [] => []
  | [w] => w
  | w :: v :: ws => w ++ sep ++ joinWith sep (v :: ws)

theorem stripPrefix?_append (p s : List Char) : stripPrefix? p (p ++ s) = some s := by
  induction p with
  | nil => rfl
  | cons a p ih => simp [stripPrefix?, ih]

theorem eq_append_of_stripPrefix? {p s rest : List Char} (h : stripPrefix? p s = some rest) :
    s = p ++ rest := by
  induction p generalizing s with
  | nil => simpa [stripPrefix?] using h
  | cons a p ih =>
    cases s with
    | nil => simp [stripPrefix?] at h
    | cons c s =>
      by_cases hc : a = c
      · subst hc
        simp [stripPrefix?] at h
        simp [ih h]
      · simp [stripPrefix?, hc] at h

end Text
end StaticBlog
