import StaticBlog.Date.Moment

/-!
# Collections of posts

- `groupBy` : the groups of the items by their keys, in the order in which keys first occur
- `ListingPage`, `paginate` : the pieces of a list as numbered pages
- `Dated`, `Labelled` : what a collection asks of its items
- `newestFirst` : items by date
- `archive` : items by year and month
- `Collections.ofPosts` : all ways in which posts are listed
-/

namespace StaticBlog

/-! ## Groups -/

section

/-- Items by key, in the order in which keys first occur. -/
abbrev Groups (κ : Type u) (α : Type v) := List (κ × List α)

variable {κ : Type u} {α : Type v} [DecidableEq κ]

/-- The group with a key. It is empty if there is none. -/
def Groups.get (g : Groups κ α) (key : κ) : List α :=
  match g with
  | [] => []
  | (k, items) :: g => if k = key then items else get g key

/-- Puts an item at the end of the group with a key. -/
def Groups.add (g : Groups κ α) (key : κ) (item : α) : Groups κ α :=
  match g with
  | [] => [(key, [item])]
  | (k, items) :: g => if k = key then (k, items ++ [item]) :: g else (k, items) :: add g key item

/-- The items by their keys. An item is in a group once for every time that it has the key. -/
def groupBy (keys : α → List κ) (items : List α) : Groups κ α :=
  items.foldl (fun g a => (keys a).foldl (fun g k => g.add k a) g) []

end

/-! ## Pages -/

/-- The pieces of a list, `size + 1` elements each, the last piece perhaps shorter. -/
def chunks {α : Type u} (size : Nat) (xs : List α) : List (List α) :=
  match xs with
  | [] => []
  | x :: xs => (x :: xs.take size) :: chunks size (xs.drop size)
termination_by xs.length
decreasing_by simp only [List.length_drop, List.length_cons]; omega

/-- A page of a listing. -/
structure ListingPage (α : Type u) where
  /-- Counted from one. -/
  number : Nat
  /-- The number of pages. -/
  total : Nat
  items : List α
  deriving Repr

/-- A list divided into pages. A page holds at least one item. -/
def paginate {α : Type u} (perPage : Nat) (xs : List α) : List (ListingPage α) :=
  let pieces := chunks (perPage - 1) xs
  pieces.zipIdx.map fun (piece, i) => ⟨i + 1, pieces.length, piece⟩

/-! ## Posts -/

/-- Items that have a date. -/
class Dated (α : Type u) where
  date : α → Moment

/-- Items that have labels of two kinds. -/
class Labelled (α : Type u) where
  categories : α → List String
  tags : α → List String

variable {α : Type u}

/-- The newest items first. Items of one date keep their order. -/
def newestFirst [Dated α] (xs : List α) : List α :=
  xs.mergeSort fun a b => decide ((Dated.date b).rank ≤ (Dated.date a).rank)

/-- The items of each month in each year. -/
abbrev Archive (α : Type u) := List (Int × Groups Nat α)

/-- The items by year, then by month. -/
def archive [Dated α] (xs : List α) : Archive α :=
  (groupBy (fun a => [(Dated.date a).year]) xs).map fun (year, items) =>
    (year, groupBy (fun a => [(Dated.date a).month]) items)

/-- All ways in which posts are listed. -/
structure Collections (α : Type u) where
  posts : List α
  pages : List (ListingPage α)
  categories : Groups String α
  tags : Groups String α
  archive : Archive α

/-- The collections of posts that are in their order. -/
def Collections.ofPosts [Dated α] [Labelled α] (perPage : Nat) (posts : List α) : Collections α where
  posts := posts
  pages := paginate perPage posts
  categories := groupBy Labelled.categories posts
  tags := groupBy Labelled.tags posts
  archive := StaticBlog.archive posts

end StaticBlog
