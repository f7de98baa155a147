import Mathlib.Data.List.Forall2
import Mathlib.Data.List.Infix
import StaticBlog.Date.Format

/-!
# Formats cut into tokens

- `Field.atStart?_eq_some_iff` : the first token that fits in the order of the table is the longest one
- `IsCut` : a format cut into its longest tokens from left to right
- `isCut_iff` : there is exactly one such cut
- `format_written_piece_by_piece` : a moment in a chosen format is written for every format, piece by
  piece
-/

namespace StaticBlog

variable {s token : List Char} {field : Field} {pieces : List FormatPiece}

/-! ## Tokens -/

namespace Field

/-- No token begins a token that comes after it in the table. -/
theorem pairwise_tokens : tokens.Pairwise fun x y => ¬x.1 <+: y.1 := by decide

theorem ne_nil_of_mem_tokens (h : (token, field) ∈ tokens) : token ≠ [] := by
  have hall : ∀ x ∈ tokens, x.1 ≠ [] := by decide
  exact hall _ h

/-- A token stands once in the table. -/
theorem eq_of_mem_tokens {field' : Field} (h : (token, field) ∈ tokens)
    (h' : (token, field') ∈ tokens) : field = field' := by
  have hall : ∀ x ∈ tokens, ∀ y ∈ tokens, x.1 = y.1 → x.2 = y.2 := by decide
  exact hall _ h _ h' rfl

/-- A token that begins a text is its longest one. -/
def IsLongestAt (token s : List Char) : Prop :=
  token <+: s ∧ ∀ x ∈ tokens, x.1 <+: s → x.1.length ≤ token.length

theorem isLongestAt_of_atStart? (h : atStart? s = some (token, field)) :
    (token, field) ∈ tokens ∧ IsLongestAt token s := by
  obtain ⟨hfit, before, after, htokens, hbefore⟩ := List.find?_eq_some_iff_append.1 h
  refine ⟨List.mem_of_find?_eq_some h, List.isPrefixOf_iff_prefix.1 hfit, fun x hx hxs => ?_⟩
  have hordered := pairwise_tokens
  rw [htokens] at hx hordered
  rcases List.mem_append.1 hx with hx | hx
  · -- A token before the one that is found does not fit.
    have hnot : (!x.1.isPrefixOf s) = true := hbefore x hx
    rw [List.isPrefixOf_iff_prefix.2 hxs] at hnot
    cases hnot
  · rcases List.mem_cons.1 hx with rfl | hx
    · exact Nat.le_refl _
    · -- One behind it fits as well, so that one of them begins the other.
      have hlater := (List.pairwise_cons.1 (List.pairwise_append.1 hordered).2.1).1 x hx
      rcases List.prefix_or_prefix_of_prefix (List.isPrefixOf_iff_prefix.1 hfit) hxs with hp | hp
      · exact absurd hp hlater
      · exact hp.length_le

theorem atStart?_eq_none_iff : atStart? s = none ↔ ∀ x ∈ tokens, ¬x.1 <+: s := by
  rw [atStart?, List.find?_eq_none]
  simp only [List.isPrefixOf_iff_prefix]

/-- The first token that fits, in the order of the table, is the longest one. -/
theorem atStart?_eq_some_iff :
    atStart? s = some (token, field) ↔ (token, field) ∈ tokens ∧ IsLongestAt token s := by
  refine ⟨isLongestAt_of_atStart?, fun ⟨hmem, hfit, hlongest⟩ => ?_⟩
  cases hfound : atStart? s with
  | none => exact absurd hfit (atStart?_eq_none_iff.1 hfound _ hmem)
  | some found =>
    obtain ⟨token', field'⟩ := found
    obtain ⟨hmem', hfit', hlongest'⟩ := isLongestAt_of_atStart? hfound
    have hlength : token'.length = token.length :=
      Nat.le_antisymm (hlongest _ hmem' hfit') (hlongest' _ hmem hfit)
    obtain rfl := (List.prefix_of_prefix_length_le hfit' hfit hlength.le).eq_of_length hlength
    rw [eq_of_mem_tokens hmem hmem']

end Field

/-! ## Cuts -/

/-- A format cut from left to right: where tokens fit, the longest one of them is cut off, and
elsewhere a single character. -/
inductive IsCut : List Char → List FormatPiece → Prop
  | nil : IsCut [] []
  | token {token s : List Char} {field : Field} {pieces : List FormatPiece} :
      (token, field) ∈ Field.tokens → Field.IsLongestAt token (token ++ s) → IsCut s pieces →
        IsCut (token ++ s) (.field field :: pieces)
  | literal {c : Char} {s : List Char} {pieces : List FormatPiece} :
      (∀ x ∈ Field.tokens, ¬x.1 <+: c :: s) → IsCut s pieces →
        IsCut (c :: s) (.literal c :: pieces)

theorem cutFieldsFrom_length_append (u s : List Char) :
    cutFieldsFrom u.length (u ++ s) = cutFields s := by
  induction u with
  | nil => rfl
  | cons c u ih => exact ih

theorem cutFields_token (h : (token, field) ∈ Field.tokens)
    (hlongest : Field.IsLongestAt token (token ++ s)) :
    cutFields (token ++ s) = .field field :: cutFields s := by
  obtain ⟨c, u, rfl⟩ := List.exists_cons_of_ne_nil (Field.ne_nil_of_mem_tokens h)
  have hfound := Field.atStart?_eq_some_iff.2 ⟨h, hlongest⟩
  rw [List.cons_append] at hfound ⊢
  rw [cutFields, cutFieldsFrom, hfound]
  exact congrArg (FormatPiece.field field :: ·) (cutFieldsFrom_length_append u s)

theorem cutFields_literal {c : Char} (h : ∀ x ∈ Field.tokens, ¬x.1 <+: c :: s) :
    cutFields (c :: s) = .literal c :: cutFields s := by
  rw [cutFields, cutFieldsFrom, Field.atStart?_eq_none_iff.2 h, cutFields]

theorem isCut_cutFields (s : List Char) : IsCut s (cutFields s) := by
  -- A token is passed over at once, so the induction is on the length of what is left.
  induction hlength : s.length using Nat.strongRecOn generalizing s with
  | ind n ih =>
    subst hlength
    cases s with
    | nil => exact .nil
    | cons c s =>
      cases hfound : Field.atStart? (c :: s) with
      | none =>
        have hnone := Field.atStart?_eq_none_iff.1 hfound
        rw [cutFields_literal hnone]
        exact .literal hnone (ih _ (Nat.lt_succ_self _) s rfl)
      | some found =>
        obtain ⟨token, field⟩ := found
        obtain ⟨hmem, hlongest⟩ := Field.atStart?_eq_some_iff.1 hfound
        obtain ⟨rest, hrest⟩ := hlongest.1
        have hpos := List.length_pos_iff.2 (Field.ne_nil_of_mem_tokens hmem)
        have hshorter : rest.length < (c :: s).length := by
          rw [← hrest, List.length_append]
          omega
        rw [← hrest] at hlongest ⊢
        rw [cutFields_token hmem hlongest]
        exact .token hmem hlongest (ih _ hshorter rest rfl)

/-- There is exactly one cut. -/
theorem isCut_iff : IsCut s pieces ↔ pieces = cutFields s := by
  constructor
  · intro h
    induction h with
    | nil => rfl
    | token hmem hlongest _ ih => rw [cutFields_token hmem hlongest, ih]
    | literal hnone _ ih => rw [cutFields_literal hnone, ih]
  · rintro rfl
    exact isCut_cutFields s

/-! ## Written formats -/

/-- What is written for a piece: the text of the directive of its field, or the character itself. -/
def FormatPiece.IsWritten (m : Moment) (offset : Int) : FormatPiece → List Char → Prop
  | .field f, text => m.write? offset f.directive = some text
  | .literal c, text => text = [c]

theorem FormatPiece.isWritten_iff {m : Moment} {offset : Int} {piece : FormatPiece}
    {text : List Char} :
    piece.IsWritten m offset text ↔ text = piece.render offset (m.shift offset) := by
  cases piece with
  | literal c => exact Iff.rfl
  | field f =>
    have hread : readDirectives? f.directive = some [.field f] := by
      have happend := readDirectives?_append (.field f) []
      rw [List.append_nil] at happend
      exact happend
    rw [IsWritten, Moment.write?, hread, Option.map_some, List.flatMap_singleton, Option.some_inj]
    exact eq_comm

/-- Every moment is written in every format: the directives that the format is turned into are all
known, and what they write is what is written for the pieces of the format, one after the other, where
the format is cut into its longest tokens, which can be done in one way only. -/
theorem format_written_piece_by_piece (m : Moment) (offset : Int) (format : String) :
    m.write? offset (directives format.toList) = some (m.formatAt offset format).toList ∧
      ∃ pieces texts, (∀ cut, IsCut format.toList cut ↔ cut = pieces) ∧
        List.Forall₂ (FormatPiece.IsWritten m offset) pieces texts ∧
        (m.formatAt offset format).toList = texts.flatten := by
  refine ⟨?_, cutFields format.toList,
    (cutFields format.toList).map (FormatPiece.render offset (m.shift offset)), fun _ => isCut_iff,
    ?_, ?_⟩
  · rw [Moment.write?_directives, Moment.formatAt_eq, String.toList_ofList]
  · rw [List.forall₂_map_right_iff, List.forall₂_same]
    exact fun piece _ => FormatPiece.isWritten_iff.2 rfl
  · rw [Moment.formatAt_eq, String.toList_ofList, List.flatMap_def]

/-- Five letters are a token of four and one of a single letter, and a percent sign is no directive. -/
example : Moment.format default "MMMMM %Y YYYYY" = "January1 %Y 1970Y" := by decide

end StaticBlog
