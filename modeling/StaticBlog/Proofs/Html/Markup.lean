import StaticBlog.Html.Escape
import StaticBlog.Proofs.Text.Pieces

/-!
# Markup and the text in it

A page is a sequence of tags with text between them. A tag begins with the first `<` outside of tags
and ends with the next `>`.

- `Html.unescapeChars_escapeChars` : an escaped text is read back as it was
- `Html.notMem_markupChars_of_mem_escapeChars` : it can neither begin nor end a tag or an attribute
- `Html.pieces` : the tags and the texts of a page
- `Html.chars_pieces` : they make up the page
- `Html.Reads` : parts of a page that are read on their own
-/

namespace StaticBlog
namespace Html

/-! ## Escaped text -/

/-- The characters that begin or end a tag or the value of an attribute. -/
def markupChars : List Char := ['<', '>', '"', '\'']

theorem entity?_eq_none {c : Char} (h : c ∉ '&' :: markupChars) : entity? c = none := by
  unfold entity?
  split <;> first | rfl | exact absurd (by decide) h

theorem unescapeChars_cons_of_ne {c : Char} (h : c ≠ '&') (s : List Char) :
    unescapeChars (c :: s) = c :: unescapeChars s := by
  rw [unescapeChars] <;> exact fun _ heq => absurd heq h

/-- A character is read back from its entity, or else from itself. -/
theorem unescapeChars_escapeChar_append (c : Char) (s : List Char) :
    unescapeChars (escapeChar c ++ s) = c :: unescapeChars s := by
  by_cases hc : c ∈ '&' :: markupChars
  · simp only [markupChars, List.mem_cons, List.not_mem_nil, or_false] at hc
    rcases hc with rfl | rfl | rfl | rfl | rfl <;> rfl
  · rw [escapeChar, entity?_eq_none hc]
    exact unescapeChars_cons_of_ne (fun h => hc (h ▸ List.mem_cons_self)) s

@[simp] theorem unescapeChars_escapeChars_append (s t : List Char) :
    unescapeChars (escapeChars s ++ t) = s ++ unescapeChars t := by
  induction s with
  | nil => rfl
  | cons c s ih =>
    rw [escapeChars_cons, List.append_assoc, unescapeChars_escapeChar_append, ih, List.cons_append]

theorem unescapeChars_escapeChars (s : List Char) : unescapeChars (escapeChars s) = s := by
  have h := unescapeChars_escapeChars_append s []
  rwa [List.append_nil, unescapeChars, List.append_nil] at h

/-- The characters of the five entities. -/
def entityChars : List Char := "&amp;&lt;&gt;&quot;&#39;".toList

/-- A character is written as itself or with the characters of the entities. -/
theorem eq_or_mem_entityChars {c d : Char} (h : d ∈ escapeChar c) :
    (d = c ∧ c ∉ markupChars) ∨ d ∈ entityChars := by
  by_cases hc : c ∈ '&' :: markupChars
  · have hentities : (('&' :: markupChars).all fun c =>
        (escapeChar c).all fun d => entityChars.contains d) = true := rfl
    have hwritten := List.all_eq_true.1 (List.all_eq_true.1 hentities c hc) d h
    exact .inr (List.contains_iff_mem.1 hwritten)
  · rw [escapeChar, entity?_eq_none hc, Option.getD_none, List.mem_singleton] at h
    exact .inl ⟨h, fun hmem => hc (List.mem_cons_of_mem _ hmem)⟩

theorem notMem_markupChars_of_mem_escapeChars {s : List Char} {d : Char}
    (h : d ∈ escapeChars s) : d ∉ markupChars := by
  obtain ⟨c, -, hd⟩ := List.mem_flatMap.1 h
  rcases eq_or_mem_entityChars hd with ⟨rfl, hc⟩ | hentity
  · exact hc
  · have hentities : (entityChars.all fun d => !markupChars.contains d) = true := rfl
    simpa using List.all_eq_true.1 hentities d hentity

/-- Escaping adds no line feeds. -/
theorem feed_mem_of_mem_escapeChars {s : List Char} (h : '\n' ∈ escapeChars s) : '\n' ∈ s := by
  obtain ⟨c, hc, hfeed⟩ := List.mem_flatMap.1 h
  rcases eq_or_mem_entityChars hfeed with ⟨rfl, -⟩ | hentity
  · exact hc
  · exact absurd hentity (by decide)

theorem escapeChars_joinWith (ls : List (List Char)) :
    escapeChars (Text.joinWith ['\n'] ls) = Text.joinWith ['\n'] (ls.map escapeChars) := by
  induction ls with
  | nil => rfl
  | cons l ls ih =>
    cases ls with
    | nil => rfl
    | cons k ks =>
      rw [Text.joinWith, escapeChars_append, escapeChars_append, ih]
      rfl

/-! ## Pieces -/

/-- A piece of a page: a tag, told by what stands between its brackets, or a text. -/
inductive Piece
  | tag (inside : List Char)
  | text (s : List Char)
  deriving DecidableEq, Repr

namespace Piece

/-- A piece as it is written. -/
def chars : Piece → List Char
  | .tag inside => '<' :: (inside ++ ['>'])
  | .text s => s

/-- A text as a piece, unless it is empty. -/
def ofText (s : List Char) : List Piece := if s = [] then [] else [.text s]

theorem flatMap_chars_ofText (s : List Char) : (ofText s).flatMap chars = s := by
  unfold ofText
  split
  · next h => exact h.symm
  · simp [chars]

theorem ofText_of_ne_nil {s : List Char} (h : s ≠ []) : ofText s = [.text s] := if_neg h

end Piece

/-- The pieces of what is left of a page, with what has been read of the piece at hand, a tag or a
text. A tag that is never closed is text. -/
def piecesFrom : (inTag : Bool) → (read : List Char) → List Char → List Piece
  | false, read, [] => Piece.ofText read
  | true, read, [] => Piece.ofText ('<' :: read)
  | false, read, c :: s =>
    if c = '<' then Piece.ofText read ++ piecesFrom true [] s else piecesFrom false (read ++ [c]) s
  | true, read, c :: s =>
    if c = '>' then .tag read :: piecesFrom false [] s else piecesFrom true (read ++ [c]) s

/-- The tags and the texts of a page. -/
def pieces (s : List Char) : List Piece := piecesFrom false [] s

theorem chars_piecesFrom (inTag : Bool) (read s : List Char) :
    (piecesFrom inTag read s).flatMap Piece.chars =
      (if inTag then '<' :: read else read) ++ s := by
  fun_induction piecesFrom inTag read s <;> simp_all [Piece.flatMap_chars_ofText, Piece.chars]

/-- Nothing of a page is lost when it is read. -/
theorem chars_pieces (s : List Char) : (pieces s).flatMap Piece.chars = s :=
  chars_piecesFrom false [] s

/-- Text goes on up to the next tag. -/
theorem piecesFrom_text {s : List Char} (h : '<' ∉ s) (read rest : List Char) :
    piecesFrom false read (s ++ rest) = piecesFrom false (read ++ s) rest := by
  induction s generalizing read with
  | nil => simp
  | cons c s ih =>
    rcases not_or.1 (fun hmem => h (List.mem_cons.2 hmem)) with ⟨hc, hs⟩
    rw [List.cons_append, piecesFrom, if_neg (Ne.symm hc), ih hs, List.append_assoc,
      List.singleton_append]

/-- A tag goes on up to its closing bracket. -/
theorem piecesFrom_tag {s : List Char} (h : '>' ∉ s) (read rest : List Char) :
    piecesFrom true read (s ++ rest) = piecesFrom true (read ++ s) rest := by
  induction s generalizing read with
  | nil => simp
  | cons c s ih =>
    rcases not_or.1 (fun hmem => h (List.mem_cons.2 hmem)) with ⟨hc, hs⟩
    rw [List.cons_append, piecesFrom, if_neg (Ne.symm hc), ih hs, List.append_assoc,
      List.singleton_append]

/-! ## Parts of a page -/

/-- Whether a part of a page has these pieces, whatever follows it. -/
def Reads (s : List Char) (ps : List Piece) : Prop :=
  ∀ rest, pieces (s ++ rest) = ps ++ pieces rest

namespace Reads

variable {s t : List Char} {ps qs : List Piece}

theorem append (hs : Reads s ps) (ht : Reads t qs) : Reads (s ++ t) (ps ++ qs) := by
  intro rest
  rw [List.append_assoc, hs, ht, List.append_assoc]

theorem flatMap {α : Type} {write : α → List Char} {read : α → List Piece}
    (h : ∀ a, Reads (write a) (read a)) (as : List α) :
    Reads (as.flatMap write) (as.flatMap read) := by
  induction as with
  | nil => exact fun _ => rfl
  | cons a as ih => exact (h a).append ih

/-- A text before tags is a piece of its own. -/
theorem text (ht : Reads t ps) (hs : '<' ∉ s) (hopen : t.head? = some '<') :
    Reads (s ++ t) (Piece.ofText s ++ ps) := by
  intro rest
  obtain ⟨u, rfl⟩ := List.head?_eq_some_iff.1 hopen
  have htext : pieces (s ++ '<' :: (u ++ rest)) =
      Piece.ofText s ++ piecesFrom true [] (u ++ rest) := by
    rw [pieces, piecesFrom_text hs, List.nil_append, piecesFrom, if_pos rfl]
  calc pieces (s ++ '<' :: u ++ rest)
      = pieces (s ++ '<' :: (u ++ rest)) := by rw [List.append_assoc, List.cons_append]
    _ = Piece.ofText s ++ pieces ('<' :: u ++ rest) := htext
    _ = Piece.ofText s ++ ps ++ pieces rest := by rw [ht rest, List.append_assoc]

/-- A value in a tag, with the text around it from the beginning of a tag to the end of one. -/
theorem value (ps qs : List Piece) {front lead back after : List Char} (hs : '>' ∉ s)
    (hfront : ∀ rest, pieces (front ++ rest) = ps ++ piecesFrom true lead rest)
    (hback : ∀ read rest, piecesFrom true read (back ++ rest) =
      .tag (read ++ after) :: qs ++ pieces rest) :
    Reads (front ++ s ++ back) (ps ++ .tag (lead ++ s ++ after) :: qs) := by
  intro rest
  rw [List.append_assoc, List.append_assoc, hfront, piecesFrom_tag hs, hback]
  exact (List.append_assoc _ _ _).symm

/-- A part is read on its own. -/
theorem pieces_eq (h : Reads s ps) : pieces s = ps := by
  have hs := h []
  rwa [List.append_nil, show pieces [] = [] from rfl, List.append_nil] at hs

end Reads
end Html
end StaticBlog
