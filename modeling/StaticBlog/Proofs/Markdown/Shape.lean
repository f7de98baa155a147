import StaticBlog.Markdown.Verbatim
import StaticBlog.Proofs.Markdown.Resolution

/-!
# The shape of a document

Code holds nothing but text, and headings hold nothing but running text.

- `Node.IsText`, `Node.Inline` : what code and headings may hold
- `Node.WellShaped` : nodes in which they hold nothing else
- `Node.WellShaped.resolved` : reading running text keeps the shape
- `all_keptLine` : lines of code are cut into text
- `wellShaped_tightItem` : the items of a tight list keep the shape
-/

namespace StaticBlog
namespace Markdown

/-! ## Nodes -/

/-- Whether a node is nothing but text whose meaning is settled. -/
def Node.IsText : Node → Prop
  | .leaf _ .text | .leaf _ (.literal _) => True
  | _ => False

/-- A node of running text. -/
inductive Node.Inline : Node → Prop
  | leaf (span : Span) (token : Token) : Inline (.leaf span token)
  | part {span : Span} {kind : Part} {body : List Node} (hkind : kind.isInline = true)
      (hbody : ∀ n ∈ body, Inline n) : Inline (.part span kind body)

/-- Whether a part is neither code nor a heading. -/
def Part.isFree : Part → Bool
  | .code _ | .heading _ => false
  | _ => true

/-- A node in which code holds only text and headings hold only running text. -/
inductive Node.WellShaped : Node → Prop
  | leaf (span : Span) (token : Token) : WellShaped (.leaf span token)
  | code {span : Span} {info : Option (List Char)} {body : List Node}
      (hbody : ∀ n ∈ body, n.IsText) : WellShaped (.part span (.code info) body)
  | heading {span : Span} {level : Nat} {body : List Node} (hbody : ∀ n ∈ body, n.Inline) :
      WellShaped (.part span (.heading level) body)
  | free {span : Span} {kind : Part} {body : List Node} (hkind : kind.isFree = true)
      (hbody : ∀ n ∈ body, WellShaped n) : WellShaped (.part span kind body)

theorem Part.isFree_of_isInline {kind : Part} (h : kind.isInline = true) : kind.isFree = true := by
  cases kind with
  | code info => cases h
  | heading level => cases h
  | _ => rfl

theorem isClosed_inline : IsClosed Node.Inline where
  leaf := .leaf
  inline := .part
  withSpan h span := by
    cases h with
    | leaf _ token => exact .leaf span token
    | part hkind hbody => exact .part hkind hbody

theorem isClosed_wellShaped : IsClosed Node.WellShaped where
  leaf := .leaf
  inline hkind hbody := .free (Part.isFree_of_isInline hkind) hbody
  withSpan h span := by
    cases h with
    | leaf _ token => exact .leaf span token
    | code hbody => exact .code hbody
    | heading hbody => exact .heading hbody
    | free hkind hbody => exact .free hkind hbody

namespace Node

variable {l : Links} {n : Node}

theorem IsText.isLeaf (h : n.IsText) : n.IsLeaf := by
  cases n with
  | leaf span token => trivial
  | part => exact absurd h id

theorem IsText.isOpen_eq_false (h : n.IsText) : n.isOpen = false := by
  unfold IsText at h
  split at h
  · rfl
  · rfl
  · exact absurd h id

theorem resolved_of_isLeaf (h : n.IsLeaf) (around : List Part) : n.resolved l around = n := by
  cases n with
  | leaf span token => rw [Node.resolved]
  | part => exact absurd h id

/-- Reading running text leaves code as it is. -/
theorem resolve_allResolved_of_isText {t : Setting} {ns : List Node} (h : All IsText ns)
    (around : List Part) : t.resolve (allResolved l around ns) = ns := by
  have hsame : allResolved l around ns = ns := by
    rw [allResolved_eq_map]
    calc ns.map (Node.resolved l around)
        = ns.map id := List.map_congr_left fun n hn => resolved_of_isLeaf (h n hn).isLeaf around
      _ = ns := List.map_id ns
  have hsettled : ns.any isOpen = false :=
    List.any_eq_false.2 fun n hn => by simp [(h n hn).isOpen_eq_false]
  rw [hsame, Setting.resolve, hsettled]
  rfl

theorem Inline.resolved (h : n.Inline) (around : List Part) : (n.resolved l around).Inline := by
  induction h generalizing around with
  | leaf span token =>
    rw [Node.resolved]
    exact .leaf span token
  | part hkind hbody ih =>
    rw [Node.resolved]
    exact .part hkind (isClosed_inline.resolve_allResolved fun n hn => ih n hn _)

/-- Reading running text keeps the shape of a node. -/
theorem WellShaped.resolved (h : n.WellShaped) (around : List Part) :
    (n.resolved l around).WellShaped := by
  -- Code is left as it is, and each other body is read into the class it belongs to.
  induction h generalizing around with
  | leaf span token =>
    rw [Node.resolved]
    exact .leaf span token
  | code hbody =>
    rw [Node.resolved, resolve_allResolved_of_isText hbody]
    exact .code hbody
  | heading hbody =>
    rw [Node.resolved]
    exact .heading (isClosed_inline.resolve_allResolved fun n hn => (hbody n hn).resolved _)
  | free hkind hbody ih =>
    rw [Node.resolved]
    exact .free hkind (isClosed_wellShaped.resolve_allResolved fun n hn => ih n hn _)

end Node

/-! ## Lines -/

theorem Node.IsLeaf.endingAt {n : Node} (h : n.IsLeaf) (stop : Nat) : (n.endingAt stop).IsLeaf := by
  cases n with
  | leaf => trivial
  | part => exact absurd h id

/-- The number signs at the end of a heading are cut off its last node. -/
theorem all_isLeaf_endingAt {ns : List Node} (h : All Node.IsLeaf ns) (stop : Nat) :
    All Node.IsLeaf (ns.dropLast ++ (ns.getLast?.map (·.endingAt stop)).toList) := by
  refine .append (h.sublist (List.dropLast_sublist ns)) fun n hn => ?_
  obtain ⟨last, hlast, rfl⟩ := Option.map_eq_some_iff.1 (Option.mem_toList.1 hn)
  exact (h last (List.mem_of_getLast? hlast)).endingAt stop

theorem all_keptLine {Q : Node → Prop} {token : Token} (htoken : ∀ span, Q (.leaf span token))
    (hliteral : ∀ span s, Q (.leaf span (.literal s))) (blanks : Nat) (p next : Place) :
    All Q (keptLine blanks p next token) := by
  have hlead : All Q (if 0 < blanks then
      [.leaf ⟨p, p.offset⟩ (.literal (List.replicate blanks ' '))] else []) := by
    split
    · exact .cons (hliteral _ _) .nil
    · exact .nil
  have hspan : ∀ (q : Place) (stop : Nat),
      All Q (if q.offset < stop then [.leaf ⟨q, stop⟩ token] else []) := by
    intro q stop
    split
    · exact .cons (htoken _) .nil
    · exact .nil
  unfold keptLine
  dsimp only
  split
  · split
    · exact (hlead.append (hspan _ _)).append (hspan _ _)
    · exact hlead.append (hspan _ _)
  · exact hlead.append (hspan _ _)

theorem all_isText_keptLine (blanks : Nat) (p next : Place) :
    All Node.IsText (keptLine blanks p next .text) :=
  all_keptLine (fun _ => trivial) (fun _ _ => trivial) blanks p next

/-! ## Tight lists -/

theorem all_bareParagraphs {Q : Node → Prop}
    (hQ : ∀ span body, Q (.part span .paragraph body) → All Q body) {ns : List Node}
    (h : All Q ns) : All Q (bareParagraphs ns) := by
  fun_induction bareParagraphs ns with
  | case1 => exact .nil
  | case2 span ns ih =>
    rcases List.forall_mem_cons.1 h with ⟨hn, hns⟩
    exact .cons hn (ih hns)
  | case3 span body ns _ ih =>
    rcases List.forall_mem_cons.1 h with ⟨hn, hns⟩
    exact .append (hQ span body hn) (ih hns)
  | case4 n ns _ _ ih =>
    rcases List.forall_mem_cons.1 h with ⟨hn, hns⟩
    exact .cons hn (ih hns)

theorem wellShaped_tightItem {n : Node} (h : n.WellShaped) : (tightItem n).WellShaped := by
  cases h with
  | leaf span token => exact .leaf span token
  | code hbody =>
    unfold tightItem
    dsimp only
    split
    · exact .code fun n hn => absurd hn List.not_mem_nil
    · exact .code (all_bareParagraphs (fun _ _ h => absurd h id) hbody)
  | heading hbody =>
    unfold tightItem
    dsimp only
    split
    · exact .heading fun n hn => absurd hn List.not_mem_nil
    · refine .heading (all_bareParagraphs (fun _ _ h => ?_) hbody)
      cases h with
      | part hkind => cases hkind
  | free hkind hbody =>
    unfold tightItem
    dsimp only
    split
    · exact .free hkind fun n hn => absurd hn List.not_mem_nil
    · refine .free hkind (all_bareParagraphs (fun _ _ h => ?_) hbody)
      cases h with
      | free _ hbody => exact hbody

end Markdown
end StaticBlog
