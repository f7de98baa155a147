import StaticBlog.Proofs.Yaml.Lines
import StaticBlog.Yaml.Node

/-!
# The tree of fields on lines of their own

A text in which each line is a name, a colon and a value is a mapping with one pair for each line.

- `BareField.pair` : the pair of a field
- `blockPairs_fields` : the pairs of fields in turn
- `parse?_quotedLines` : the tree of a text whose first line has a value in quotes
-/

namespace StaticBlog
namespace Yaml

open Yaml.Node Yaml.Node.Compose

variable {name : List Char} {fs : List BareField} {rest : List Token} {st : ComposeState}
  {fuel : Nat}

/-! ## Pairs -/

/-- A scalar without properties. -/
def bareScalar (text : List Char) (style : ScalarStyle) : Composed :=
  { node := .scalar none (String.ofList text) style }

def BareValue.composed : BareValue → Composed
  | words w ws => bareScalar (List.intercalate [' '] (w :: ws)) .plain
  | emptyList => { node := .sequence none [], height := 1 }

/-- A field as a pair of nodes. -/
def BareField.composed (f : BareField) : Composed × Composed :=
  (bareScalar f.name .plain, f.value.composed)

/-- The number of parts that a field counts for. -/
def BareField.events (f : BareField) : Nat :=
  match f.value with
  | .words _ _ => 2
  | .emptyList => 3

/-- A state some tokens and parts later. -/
def passed (st : ComposeState) (rest : List Token) (events : Nat) : ComposeState :=
  { st with tokens := rest, events := st.events + events }

theorem blockPairs_field (f : BareField) (h : st.tokens = f.tokens ++ rest) :
    blockPairs (fuel + 3) st =
      (blockPairs (fuel + 2) (passed st rest f.events)).bind fun r =>
        some (f.composed :: r.1, r.2) := by
  obtain ⟨ts, anchors, handles, events⟩ := st
  obtain ⟨name, value⟩ := f
  cases h
  cases value <;> rfl

/-- The pair of a field whose value is a scalar of any style. -/
theorem blockPairs_scalar {text : List Char} {style : ScalarStyle}
    (h : st.tokens = .key :: .scalar name .plain :: .value :: .scalar text style :: rest) :
    blockPairs (fuel + 3) st =
      (blockPairs (fuel + 2) (passed st rest 2)).bind fun r =>
        some ((bareScalar name .plain, bareScalar text style) :: r.1, r.2) := by
  obtain ⟨ts, anchors, handles, events⟩ := st
  cases h
  rfl

/-- The pairs of fields in turn, up to the end of their mapping. -/
theorem blockPairs_fields (fuel : Nat) (fs : List BareField) (rest : List Token)
    (st : ComposeState) (h : st.tokens = fs.flatMap BareField.tokens ++ .blockEnd :: rest) :
    ∃ events, blockPairs (fuel + fs.length + 2) st =
      some (fs.map BareField.composed, passed st rest events) := by
  induction fs generalizing st with
  | nil =>
    obtain ⟨ts, anchors, handles, events⟩ := st
    cases h
    exact ⟨0, rfl⟩
  | cons f fs ih =>
    rw [List.flatMap_cons, List.append_assoc] at h
    obtain ⟨events, hrest⟩ := ih (passed st _ f.events) rfl
    refine ⟨f.events + events, ?_⟩
    rw [show fuel + (f :: fs).length + 2 = fuel + fs.length + 3 by simp; omega,
      blockPairs_field f h, hrest]
    simp [passed, Nat.add_assoc]

/-! ## Trees -/

/-- The pairs of a text whose first line has a value in quotes, which is read as `u`. -/
def quotedPairs (name u : List Char) (fs : List BareField) : List (Composed × Composed) :=
  (bareScalar name .plain, bareScalar u .quoted) :: fs.map BareField.composed

/-- A mapping of some pairs. -/
def pairsNode (pairs : List (Composed × Composed)) : Composed :=
  let parts := pairs.flatMap fun (k, v) => [k, v]
  { node := .mapping none (pairs.map fun (k, v) => (k.node, v.node))
    height := 1 + (parts.map (·.height)).foldl max 0
    jumps := (parts.map (·.jumps)).foldl (· + ·) 0 }

/-- A document that is an indented mapping. -/
theorem document_mapping (h : st.tokens = .blockMappingStart :: rest) :
    document (fuel + 1) st =
      (blockPairs fuel (passed st rest 2)).bind fun r => some (pairsNode r.1, r.2) := by
  obtain ⟨ts, anchors, handles, events⟩ := st
  cases h
  rfl

theorem document_quotedTokens (name u : List Char) (h : fs.length + 4 ≤ fuel) :
    ∃ st, document fuel { tokens := quotedTokens name u fs } =
        some (pairsNode (quotedPairs name u fs), st) ∧ st.tokens = [.streamEnd] := by
  obtain ⟨fuel, rfl⟩ : ∃ n, fuel = n + fs.length + 3 + 1 := ⟨fuel - fs.length - 4, by omega⟩
  have hmapping : quotedTokens name u fs = .blockMappingStart :: .key :: .scalar name .plain ::
      .value :: .scalar u .quoted :: (fs.flatMap BareField.tokens ++ [.blockEnd, .streamEnd]) := by
    simp [quotedTokens, nameTokens]
  rw [document_mapping hmapping, blockPairs_scalar rfl]
  obtain ⟨events, hfields⟩ := blockPairs_fields fuel fs [.streamEnd]
    (passed (passed { tokens := quotedTokens name u fs } _ 2) _ 2) rfl
  rw [hfields]
  exact ⟨_, rfl, rfl⟩

/-! ## Limits -/

theorem foldl_max_le {α : Type} {f : α → Nat} {bound : Nat} (xs : List α)
    (h : ∀ x ∈ xs, f x ≤ bound) {m : Nat} (hm : m ≤ bound) : (xs.map f).foldl max m ≤ bound := by
  induction xs generalizing m with
  | nil => exact hm
  | cons x xs ih =>
    obtain ⟨hx, hxs⟩ := List.forall_mem_cons.1 h
    exact ih hxs (Nat.max_le.2 ⟨hm, hx⟩)

theorem foldl_add_eq_zero {α : Type} {f : α → Nat} (xs : List α) (h : ∀ x ∈ xs, f x = 0) :
    (xs.map f).foldl (· + ·) 0 = 0 := by
  induction xs with
  | nil => rfl
  | cons x xs ih =>
    obtain ⟨hx, hxs⟩ := List.forall_mem_cons.1 h
    rw [List.map_cons, List.foldl_cons, hx]
    exact ih hxs

theorem length_le_flatMap_tokens (fs : List BareField) :
    fs.length ≤ (fs.flatMap BareField.tokens).length := by
  induction fs with
  | nil => exact Nat.le_refl 0
  | cons f fs ih =>
    have hpos : 1 ≤ f.tokens.length := Nat.succ_le_succ (Nat.zero_le _)
    rw [List.flatMap_cons, List.length_append, List.length_cons]
    omega

/-- The values of fields are not nested and no copies. -/
theorem flat_of_mem_quotedPairs {u : List Char} {c : Composed}
    (h : c ∈ (quotedPairs name u fs).flatMap fun (k, v) => [k, v]) :
    c.height ≤ 1 ∧ c.jumps = 0 := by
  have hvalue : ∀ v : BareValue, v.composed.height ≤ 1 ∧ v.composed.jumps = 0 := by
    intro v
    cases v with
    | words w ws => exact ⟨Nat.zero_le 1, rfl⟩
    | emptyList => exact ⟨Nat.le_refl 1, rfl⟩
  have hscalar : ∀ text style, (bareScalar text style).height ≤ 1 ∧
      (bareScalar text style).jumps = 0 := fun _ _ => ⟨Nat.zero_le 1, rfl⟩
  simp only [quotedPairs, List.mem_flatMap, List.mem_cons, List.mem_map, List.not_mem_nil,
    or_false] at h
  obtain ⟨pair, rfl | ⟨f, -, rfl⟩, hc⟩ := h
  · rcases hc with rfl | rfl <;> exact hscalar _ _
  · rcases hc with rfl | rfl
    · exact hscalar _ _
    · exact hvalue _

/-- The tree of a text whose first line has a value in quotes. -/
theorem parse?_quotedLines (hname : IsName name) (hfs : ∀ f ∈ fs, f.IsProper)
    (hallowed : (name ++ linesAfter fs).all isAllowed = true) (t : List Char) :
    ∃ read : Option (List Char), (read = some t ↔ t.all isWritable = true ∧ Unfolded t) ∧
      Node.parse? (String.ofList (quotedLines name t fs)) =
        read.map fun u => (pairsNode (quotedPairs name u fs)).node := by
  obtain ⟨read, hsame, hscan⟩ := scan?_quotedLines hname hfs hallowed t
  refine ⟨read, hsame, ?_⟩
  rw [Node.parse?, String.toList_ofList, hscan]
  cases read with
  | none => rfl
  | some u =>
    -- The tree is flat, and so within the limits of the reader.
    have hheight : (pairsNode (quotedPairs name u fs)).height ≤ maxHeight :=
      Nat.le_trans (Nat.add_le_add_left
        (foldl_max_le _ (fun c hc => (flat_of_mem_quotedPairs hc).1) (Nat.zero_le 1)) 1) (by decide)
    have hjumps : (pairsNode (quotedPairs name u fs)).jumps = 0 :=
      foldl_add_eq_zero _ fun c hc => (flat_of_mem_quotedPairs hc).2
    have hlength : fs.length + 4 ≤ 2 * (quotedTokens name u fs).length + 2 := by
      have hfields := length_le_flatMap_tokens fs
      simp only [quotedTokens, nameTokens, List.length_append, List.length_cons]
      omega
    obtain ⟨st, hdocument, hst⟩ := document_quotedTokens name u hlength
    have hends : isFinished st.tokens = true := by
      rw [hst]
      rfl
    simp only [Option.map_some, Option.bind_eq_bind, Option.bind_some, StateT.run, hdocument, hends,
      hheight, hjumps, Nat.zero_le, decide_true, Bool.and_true, if_true]

end Yaml
end StaticBlog
