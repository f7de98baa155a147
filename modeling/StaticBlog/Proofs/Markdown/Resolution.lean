import Mathlib.Data.List.TakeDrop
import StaticBlog.Markdown.RunningText
import StaticBlog.Proofs.Markdown.Lines

/-!
# What running text is read into

Reading running text puts leaves, styled text, links and images in the place of nodes, and nothing
else. A class of nodes that has room for these is not left.

- `IsClosed` : the classes of nodes that have room for what is read
- `IsClosed.resolveMarks` : emphasis is read into such a class
- `IsClosed.resolve` : so are tags, code, links and images
- `IsClosed.resolve_allResolved` : so is the body of a part
- `Node.Unfenced` : the nodes without fenced code in them, which are such a class
-/

namespace StaticBlog
namespace Markdown

/-- Whether a part stands in running text. -/
def Part.isInline : Part → Bool
  | .styled _ | .link _ _ _ | .image _ _ => true
  | _ => false

/-- The classes of nodes that have room for what running text is read into. -/
structure IsClosed (Q : Node → Prop) : Prop where
  leaf : ∀ span token, Q (.leaf span token)
  inline : ∀ {span kind body}, kind.isInline = true → All Q body → Q (.part span kind body)
  withSpan : ∀ {n}, Q n → ∀ span, Q (n.withSpan span)

/-- A slot whose node belongs to a class. -/
def Slot.In (Q : Node → Prop) : Slot → Prop
  | .node n => Q n
  | .opener _ => True

def Pairing.In (Q : Node → Prop) (g : Pairing) : Prop := ∀ s ∈ g.slots, s.In Q

/-- What follows what a closing bracket completes. -/
def Completion.rest : Completion → List Node
  | .link _ _ _ rest => rest
  | .note _ => []
  | .nothing rest => rest

/-! ## What is found in nodes -/

theorem mem_of_splitSlots {q : MarkRun → Bool} {slots above below : List Slot} {o : Opener}
    (h : splitSlots q slots = some (above, o, below)) :
    (∀ s ∈ above, s ∈ slots) ∧ ∀ s ∈ below, s ∈ slots := by
  induction slots generalizing above with
  | nil => cases h
  | cons slot slots ih =>
    -- A slot that is passed stays in front of the opener that is found.
    have hlater : ∀ found, splitSlots q slots = some found → (slot :: found.1, found.2) =
        (above, o, below) → (∀ s ∈ above, s ∈ slot :: slots) ∧ ∀ s ∈ below, s ∈ slot :: slots := by
      rintro ⟨front, found⟩ hfound heq
      cases heq
      rcases ih hfound with ⟨hfront, hbelow⟩
      refine ⟨fun s hs => ?_, fun s hs => List.mem_cons_of_mem _ (hbelow s hs)⟩
      rcases List.mem_cons.1 hs with rfl | hs
      · exact List.mem_cons_self
      · exact List.mem_cons_of_mem _ (hfront s hs)
    cases slot with
    | node n =>
      rcases Option.map_eq_some_iff.1 h with ⟨found, hfound, heq⟩
      exact hlater found hfound heq
    | opener o' =>
      rw [splitSlots] at h
      split at h
      · cases h
        exact ⟨fun s hs => absurd hs List.not_mem_nil, fun s hs => List.mem_cons_of_mem _ hs⟩
      · rcases Option.map_eq_some_iff.1 h with ⟨found, hfound, heq⟩
        exact hlater found hfound heq

theorem sublist_of_splitTicks? {count : Nat} {ns rest : List Node} {span : Span}
    (h : splitTicks? count ns = some (span, rest)) : rest.Sublist ns := by
  induction ns with
  | nil => cases h
  | cons n ns ih =>
    unfold splitTicks? at h
    split at h
    · next heq => cases heq
    · next heq =>
      cases heq
      split at h
      · cases h
        exact List.sublist_cons_self _ _
      · exact (ih h).cons _
    · next heq =>
      cases heq
      exact (ih h).cons _

theorem mem_of_splitBracket {ns inner below : List Node} {image active : Bool} {span : Span}
    (h : splitBracket ns = some (inner, image, active, span, below)) :
    (∀ n ∈ inner, n ∈ ns) ∧ ∀ n ∈ below, n ∈ ns := by
  induction ns generalizing inner with
  | nil => cases h
  | cons n ns ih =>
    unfold splitBracket at h
    split at h
    · next heq => cases heq
    · next heq =>
      cases heq
      cases h
      exact ⟨fun m hm => absurd hm List.not_mem_nil, fun m hm => List.mem_cons_of_mem _ hm⟩
    · next heq =>
      cases heq
      rcases Option.map_eq_some_iff.1 h with ⟨⟨front, found⟩, hfound, heq⟩
      cases heq
      rcases ih hfound with ⟨hfront, hbelow⟩
      refine ⟨fun m hm => ?_, fun m hm => List.mem_cons_of_mem _ (hbelow m hm)⟩
      rcases List.mem_cons.1 hm with rfl | hm
      · exact List.mem_cons_self
      · exact List.mem_cons_of_mem _ (hfront m hm)

namespace IsClosed

variable {Q : Node → Prop}

theorem isLeaf (hQ : IsClosed Q) {n : Node} (h : n.IsLeaf) : Q n := by
  cases n with
  | leaf span token => exact hQ.leaf span token
  | part => exact absurd h id

/-! ## Emphasis -/

section Emphasis

variable {g : Pairing}

theorem toNode (hQ : IsClosed Q) {s : Slot} (h : s.In Q) : Q s.toNode := by
  cases s with
  | node n => exact h
  | opener o => exact hQ.leaf _ _

theorem wrap (hQ : IsClosed Q) {span : Span} {mark : Char} {body : List Node} (h : All Q body)
    (count : Nat) : All Q (wrap span mark body count) := by
  induction count using Nat.twoStepInduction generalizing body with
  | zero => exact h
  | one => exact .cons (hQ.inline rfl h) .nil
  | more count ih _ =>
    rw [Markdown.wrap]
    split
    · exact .cons (hQ.inline rfl h) .nil
    · exact ih (.cons (hQ.inline rfl h) .nil)

theorem addRun (hQ : IsClosed Q) (h : g.In Q) (r : MarkRun) (count : Nat) :
    (g.addRun r count).In Q := by
  unfold Pairing.addRun
  split
  · exact h
  · split
    · exact List.forall_mem_cons.2 ⟨trivial, h⟩
    · exact List.forall_mem_cons.2 ⟨hQ.leaf _ _, h⟩

theorem enclose (hQ : IsClosed Q) {r : MarkRun} {above below : List Slot} (used : Nat) (o : Opener)
    (habove : ∀ s ∈ above, s.In Q) (hbelow : ∀ s ∈ below, s.In Q) :
    (g.enclose r used above o below).In Q := by
  have hinner : All Q (above.reverse.map Slot.toNode) := by
    intro n hn
    rcases List.mem_map.1 hn with ⟨s, hs, rfl⟩
    exact hQ.toNode (habove s (List.mem_reverse.1 hs))
  refine List.forall_mem_append.2 ⟨fun s hs => ?_, ?_⟩
  · rcases List.mem_map.1 (List.mem_reverse.1 hs) with ⟨n, hn, rfl⟩
    exact hQ.wrap hinner used n hn
  · split
    · exact List.forall_mem_cons.2 ⟨trivial, hbelow⟩
    · exact hbelow

theorem pairMarks (hQ : IsClosed Q) {r : MarkRun} {fuel count : Nat} (h : g.In Q) :
    (pairMarks r fuel count g).In Q := by
  induction fuel generalizing count g with
  | zero => exact h
  | succ fuel ih =>
    rw [Markdown.pairMarks]
    split
    · exact hQ.addRun h r count
    · split
      · next above o below hfound =>
        rw [Pairing.find?, Option.filter_eq_some_iff] at hfound
        rcases mem_of_splitSlots hfound.1 with ⟨habove, hbelow⟩
        exact ih (hQ.enclose _ o (fun s hs => h s (habove s hs)) fun s hs => h s (hbelow s hs))
      · split
        · exact hQ.addRun (g := { g with settled := g.openers }) h r count
        · exact hQ.addRun h r count

theorem addNode (hQ : IsClosed Q) {n : Node} (h : g.In Q) (hn : Q n) : (addNode g n).In Q := by
  unfold Markdown.addNode
  split
  · exact hQ.pairMarks h
  · exact List.forall_mem_cons.2 ⟨hn, h⟩

/-- The slots that are built node by node hold nodes of the class only. -/
theorem foldl_addNode (hQ : IsClosed Q) {ns : List Node} (h : All Q ns) {g : Pairing}
    (hg : g.In Q) : (ns.foldl Markdown.addNode g).In Q := by
  induction ns generalizing g with
  | nil => exact hg
  | cons n ns ih =>
    rcases List.forall_mem_cons.1 h with ⟨hn, hrest⟩
    exact ih hrest (hQ.addNode hg hn)

/-- Emphasis is read into every class that has room for it. -/
theorem resolveMarks (hQ : IsClosed Q) {ns : List Node} (h : All Q ns) :
    All Q (resolveMarks ns) := by
  have hlast : All Q (plainLastBreak ns) := by
    unfold plainLastBreak
    split
    · exact .append (h.sublist (List.dropLast_sublist ns)) (.cons (hQ.leaf _ _) .nil)
    · exact h
  have hslots := hQ.foldl_addNode hlast (g := {}) fun s hs => absurd hs List.not_mem_nil
  intro n hn
  rcases List.mem_map.1 (List.mem_reverse.1 hn) with ⟨s, hs, rfl⟩
  exact hQ.toNode (hslots s hs)

end Emphasis

/-! ## Tags, code and brackets -/

section Brackets

variable {ns todo : List Node} {t : Setting}

theorem textTo (hQ : IsClosed Q) (p : Place) (stop : Nat) : All Q (Node.textTo p stop) :=
  fun n hn => hQ.isLeaf (isLeaf_textTo p stop n hn)

theorem nodesBehind (hQ : IsClosed Q) (h : All Q ns) (offset : Nat) :
    All Q (nodesBehind offset ns) := by
  have hdrop := h.sublist (List.dropWhile_sublist fun n => decide (n.stop ≤ offset))
  unfold Markdown.nodesBehind
  split
  · next heq =>
    rw [heq] at hdrop
    rcases List.forall_mem_cons.1 hdrop with ⟨hn, hrest⟩
    exact .cons (hQ.withSpan hn _) hrest
  · exact .nil

theorem deactivate (hQ : IsClosed Q) (h : All Q ns) : All Q (deactivate ns) := by
  intro n hn
  rcases List.mem_map.1 hn with ⟨m, hm, rfl⟩
  split
  · exact hQ.leaf _ _
  · exact h m hm

theorem dropBrackets (hQ : IsClosed Q) (h : All Q ns) : All Q (dropBrackets ns) := by
  intro n hn
  rcases List.mem_map.1 hn with ⟨m, hm, rfl⟩
  split
  · exact hQ.leaf _ _
  · exact h m hm

theorem linkBody (hQ : IsClosed Q) (h : All Q ns) : All Q (linkBody ns) := by
  simp only [Markdown.linkBody]
  split
  · exact hQ.resolveMarks h.reverse
  · exact h.reverse

theorem exhaust? (hQ : IsClosed Q) {offset : Nat} {tried below : List Node} (h : All Q ns)
    (hsome : exhaust? offset ns = some (tried, below)) : All Q tried ∧ All Q below := by
  have hspan : ∀ n, n ∈ (ns.span fun n => decide (n.stop ≤ offset)).1 ∨
      n ∈ (ns.span fun n => decide (n.stop ≤ offset)).2 → n ∈ ns := by
    intro n hn
    rw [List.span_eq_takeWhile_dropWhile] at hn
    rcases hn with hn | hn
    · exact (List.takeWhile_sublist _).subset hn
    · exact (List.dropWhile_sublist _).subset hn
  unfold Markdown.exhaust? at hsome
  split at hsome
  · next above n rest heq =>
    cases hsome
    rw [heq] at hspan
    have habove : All Q above := fun m hm => h m (hspan m (Or.inl hm))
    have hbelow : All Q below :=
      fun m hm => h m (hspan m (Or.inr (List.mem_cons_of_mem n hm)))
    exact ⟨habove.append (.cons (hQ.leaf _ _) hbelow), hbelow⟩
  · cases hsome

theorem readAngle? (hQ : IsClosed Q) {span : Span} {n : Node} {rest : List Node} (h : All Q todo)
    (hsome : t.readAngle? span todo = some (n, rest)) : Q n ∧ All Q rest := by
  simp only [Setting.readAngle?, Option.bind_eq_bind, Option.bind_eq_some_iff] at hsome
  rcases hsome with ⟨first, -, hsome⟩
  split at hsome
  · cases hsome
    exact ⟨hQ.inline rfl (.cons (hQ.leaf _ _) .nil), hQ.nodesBehind h _⟩
  · simp only [Option.bind_eq_some_iff] at hsome
    rcases hsome with ⟨html, -, hsome⟩
    cases hsome
    exact ⟨hQ.leaf _ _, hQ.nodesBehind h _⟩

theorem readCode? (hQ : IsClosed Q) {span : Span} {count : Nat} {escaped : Bool}
    {ns rest : List Node} (h : All Q todo)
    (hsome : t.readCode? span count escaped todo = some (ns, rest)) : All Q ns ∧ All Q rest := by
  unfold Setting.readCode? at hsome
  simp only at hsome
  generalize (if escaped then count - 1 else count) = wanted at hsome
  split at hsome
  · cases hsome
  · rcases Option.map_eq_some_iff.1 hsome with ⟨⟨closer, after⟩, hsplit, heq⟩
    cases heq
    have hrest := h.sublist (sublist_of_splitTicks? hsplit)
    exact ⟨.append (hQ.textTo _ _) (.cons (hQ.leaf _ _) .nil), hrest⟩

theorem followup {rest : List Node} (h : All Q todo) (heq : t.followup todo = .empty rest) :
    All Q rest := by
  cases todo with
  | nil => cases heq
  | cons n ns =>
    unfold Setting.followup at heq
    simp only at heq
    split at heq
    · cases heq
      exact h.sublist ((List.drop_sublist 1 ns).cons n)
    · split at heq <;> cases heq

theorem completion (hQ : IsClosed Q) (opening closing : Span) (fresh : Bool) (h : All Q todo) :
    All Q (t.completion opening closing fresh todo).rest := by
  unfold Setting.completion
  extract_lets p target start own
  -- The label of the link may be its own text.
  have hown : ∀ rest, All Q rest → All Q (own rest).rest := by
    intro rest hrest
    unfold own
    split
    · exact h
    · split
      · split
        · exact .nil
        · exact h
      · split
        · exact hrest
        · exact h
      · exact h
  clear_value target own
  split
  · exact hQ.nodesBehind h _
  · split
    · split
      · exact h
      · next hexhaust =>
        rcases hQ.exhaust? h hexhaust with ⟨htried, hbelow⟩
        split
        · exact hbelow
        · exact htried
    · next rest heq => exact hown rest (followup h heq)
    · exact hown todo h

theorem closeBracket (hQ : IsClosed Q) {closing : Span} {fresh : Bool} {done : List Node}
    (hdone : All Q done) (h : All Q todo) :
    All Q (t.closeBracket closing fresh done todo).1 ∧
      All Q (t.closeBracket closing fresh done todo).2 := by
  unfold Setting.closeBracket
  split
  · exact ⟨.cons (hQ.leaf _ _) hdone, h⟩
  · next inner image active opening below hsplit =>
    rcases mem_of_splitBracket hsplit with ⟨hin, hlow⟩
    have hinner : All Q inner := fun n hn => hdone n (hin n hn)
    have hbelow : All Q below := fun n hn => hdone n (hlow n hn)
    -- Brackets that enclose nothing become text, and what stands between them stays.
    have hfailed : All Q (.leaf closing .text :: inner ++ .leaf opening .text :: below) :=
      .append (.cons (hQ.leaf _ _) hinner) (.cons (hQ.leaf _ _) hbelow)
    have hrest := hQ.completion (t := t) opening closing fresh h
    simp only
    split
    · exact ⟨hfailed, h⟩
    · split
      · next heq =>
        rw [heq] at hrest
        split
        · exact ⟨.cons (hQ.inline rfl (hQ.linkBody hinner)) hbelow, hrest⟩
        · exact ⟨.cons (hQ.inline rfl (hQ.linkBody hinner)) (hQ.deactivate hbelow), hrest⟩
      · refine ⟨.cons (hQ.leaf _ _) (.append ?_ (hQ.dropBrackets hbelow)), h⟩
        split
        · exact .cons (hQ.leaf _ _) .nil
        · exact .nil
      · next heq =>
        rw [heq] at hrest
        exact ⟨hfailed, hrest⟩

theorem read (hQ : IsClosed Q) {fuel : Nat} {done : List Node} (hdone : All Q done)
    (h : All Q todo) : All Q (t.read fuel done todo) := by
  -- What is done and what is still to do both stay in the class.
  induction fuel generalizing done todo with
  | zero => exact h.reverse.append hdone
  | succ fuel ih =>
    cases todo with
    | nil => exact hdone
    | cons n todo =>
      rcases List.forall_mem_cons.1 h with ⟨hn, htodo⟩
      cases n with
      | part span kind body => exact ih (.cons hn hdone) htodo
      | leaf span token =>
        have hplain : ∀ token, All Q (t.read fuel (.leaf span token :: done) todo) :=
          fun token => ih (.cons (hQ.leaf span token) hdone) htodo
        unfold Setting.read
        simp only
        split
        · split
          · next hangle =>
            rcases hQ.readAngle? htodo hangle with ⟨hn, hrest⟩
            exact ih (.cons hn hdone) hrest
          · exact hplain .text
        · split
          · next hcode =>
            rcases hQ.readCode? htodo hcode with ⟨hns, hrest⟩
            exact ih (hns.reverse.append hdone) hrest
          · exact hplain .text
        · rcases hQ.closeBracket hdone htodo with ⟨hdone', hrest⟩
          exact ih hdone' hrest
        · exact hplain token

/-- Running text is read into every class that has room for it. -/
theorem resolve (hQ : IsClosed Q) (h : All Q ns) : All Q (t.resolve ns) := by
  unfold Setting.resolve
  split
  · exact hQ.resolveMarks (hQ.dropBrackets (hQ.read .nil h).reverse)
  · exact h

end Brackets

end IsClosed

/-! ## Parts of documents -/

theorem allResolved_eq_map (l : Links) (around : List Part) (ns : List Node) :
    Node.allResolved l around ns = ns.map (Node.resolved l around) := by
  induction ns with
  | nil => rfl
  | cons n ns ih => rw [Node.allResolved, ih, List.map_cons]

/-- The body of a part is read into a class if each of its nodes is. -/
theorem IsClosed.resolve_allResolved {Q : Node → Prop} (hQ : IsClosed Q) {t : Setting} {l : Links}
    {around : List Part} {ns : List Node} (h : ∀ n ∈ ns, Q (n.resolved l around)) :
    All Q (t.resolve (Node.allResolved l around ns)) := by
  refine hQ.resolve fun n hn => ?_
  rw [allResolved_eq_map] at hn
  obtain ⟨m, hm, rfl⟩ := List.mem_map.1 hn
  exact h m hm

/-! ## Parts without fenced code -/

/-- Whether a part is code between fences. -/
def Part.isFenced : Part → Bool
  | .code (some _) => true
  | _ => false

/-- A node without fenced code in it. -/
inductive Node.Unfenced : Node → Prop
  | leaf (span : Span) (token : Token) : Unfenced (.leaf span token)
  | part {span : Span} {kind : Part} {body : List Node} (hkind : kind.isFenced = false)
      (hbody : ∀ n ∈ body, Unfenced n) : Unfenced (.part span kind body)

theorem isClosed_unfenced : IsClosed Node.Unfenced where
  leaf := .leaf
  inline hkind hbody := by
    refine .part ?_ hbody
    unfold Part.isInline at hkind
    split at hkind
    · rfl
    · rfl
    · rfl
    · cases hkind
  withSpan h span := by
    cases h with
    | leaf _ token => exact .leaf span token
    | part hkind hbody => exact .part hkind hbody

theorem Node.IsLeaf.unfenced {n : Node} (h : n.IsLeaf) : n.Unfenced := isClosed_unfenced.isLeaf h

/-- Reading running text makes no fenced code. -/
theorem Node.resolved_unfenced {l : Links} {n : Node} (h : n.Unfenced) (around : List Part) :
    (n.resolved l around).Unfenced := by
  induction h generalizing around with
  | leaf span token =>
    rw [Node.resolved]
    exact .leaf span token
  | @part span kind body hkind hbody ih =>
    rw [Node.resolved]
    exact .part hkind (isClosed_unfenced.resolve_allResolved fun n hn => ih n hn _)

end Markdown
end StaticBlog
