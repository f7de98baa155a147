import StaticBlog.Proofs.Html.Markup

/-!
# Elements and links

- `Html.tagName` : the name of the element that a tag begins
- `Html.Balanced` : pieces of a page in which each element is closed, after the elements in it
- `Html.reference?` : what a tag refers to, if it begins a link
- `Html.links` : the links of a page, what they refer to and the text in them
-/

namespace StaticBlog
namespace Html

/-! ## Elements -/

/-- The name of the element that a tag begins, which a blank ends. -/
def tagName (inside : List Char) : List Char := inside.takeWhile (· ≠ ' ')

/-- Pieces in which each element is closed by a tag of its name, after the elements in it. -/
inductive Balanced : List Piece → Prop
  | nil : Balanced []
  | text (s : List Char) {rest : List Piece} : Balanced rest → Balanced (.text s :: rest)
  | element {opening : List Char} {inside rest : List Piece} :
      opening.head?.any Char.isAlpha = true → Balanced inside → Balanced rest →
        Balanced (.tag opening :: (inside ++ .tag ('/' :: tagName opening) :: rest))

namespace Balanced

variable {ps qs : List Piece}

theorem append (hp : Balanced ps) (hq : Balanced qs) : Balanced (ps ++ qs) := by
  induction hp with
  | nil => exact hq
  | text s _ ih => exact .text s ih
  | element hname hinside _ _ ih =>
    rw [List.cons_append, List.append_assoc, List.cons_append]
    exact .element hname hinside ih

theorem ofText (s : List Char) : Balanced (Piece.ofText s) := by
  unfold Piece.ofText
  split
  · exact .nil
  · exact .text s .nil

/-- An element around balanced pieces. -/
theorem enclose {opening closing : List Char} (hname : opening.head?.any Char.isAlpha = true)
    (hclosing : closing = '/' :: tagName opening) (hp : Balanced ps) :
    Balanced (.tag opening :: (ps ++ [.tag closing])) := by
  subst hclosing
  exact .element hname hp .nil

end Balanced

/-! ## Links -/

/-- What a tag refers to, if it begins a link. -/
def reference? (inside : List Char) : Option (List Char) :=
  if tagName inside = ['a'] then
    (Text.breakOn? " href=\"".toList inside).map fun (_, value) => value.takeWhile (· ≠ '"')
  else none

/-- The links in pieces of a page. `current` is the link that is being read: what it refers to, and
the text in it so far. -/
def linksFrom : (current : Option (List Char × List Char)) → List Piece → List (List Char × List Char)
  | _, [] => []
  | none, .text _ :: ps => linksFrom none ps
  | none, .tag inside :: ps => linksFrom ((reference? inside).map fun r => (r, [])) ps
  | some (r, s), .text t :: ps => linksFrom (some (r, s ++ t)) ps
  | some (r, s), .tag inside :: ps =>
    if inside = "/a".toList then (r, s) :: linksFrom none ps else linksFrom (some (r, s)) ps

/-- The links of a page in order: what each one refers to, and the text in it. -/
def links (ps : List Piece) : List (List Char × List Char) := linksFrom none ps

/-- Pieces that hold links of their own, which neither begin before them nor end behind them. -/
def HoldsLinks (ps : List Piece) (found : List (List Char × List Char)) : Prop :=
  ∀ rest, links (ps ++ rest) = found ++ links rest

namespace HoldsLinks

variable {ps qs : List Piece} {found found' : List (List Char × List Char)}

theorem nil : HoldsLinks [] [] := fun _ => rfl

theorem append (hp : HoldsLinks ps found) (hq : HoldsLinks qs found') :
    HoldsLinks (ps ++ qs) (found ++ found') := by
  intro rest
  rw [List.append_assoc, hp, hq, List.append_assoc]

/-- A tag that begins no link. -/
theorem tag {inside : List Char} (h : reference? inside = none) : HoldsLinks [.tag inside] [] := by
  intro rest
  rw [List.singleton_append, links, linksFrom, h]
  rfl

/-- A link with a text in it. -/
theorem link {inside r : List Char} (h : reference? inside = some r) (s : List Char) :
    HoldsLinks (.tag inside :: (Piece.ofText s ++ [.tag "/a".toList])) [(r, s)] := by
  intro rest
  rw [links, List.cons_append, linksFrom, h, Option.map_some]
  unfold Piece.ofText
  split
  · next hs =>
    subst hs
    rfl
  · rfl

theorem links_eq (h : HoldsLinks ps found) : links ps = found := by
  have hnil := h []
  rwa [List.append_nil, show links [] = [] from rfl, List.append_nil] at hnil

end HoldsLinks
end Html
end StaticBlog
