import StaticBlog.Proofs.Template.Pairing

/-!
# Parts of token lists

- `Node.Parsed` : the parts that a token list stands for, given which of its tags are paired
- `Node.Parsed.build_eq` : the parts that are built are those
- `Node.Parsed.move` : the parts do not depend on where a token list stands
- `Node.Agrees` : what is known of the pairs where a token list is reached
- `Node.parsed_ofTokens` : every token list stands for some parts
-/

namespace StaticBlog
namespace Node

/-- The parts that a token list at a position stands for. A tag without partner is text, and the
tokens between two partners are the parts of a block. -/
inductive Parsed (blocks : Blocks) : (position : Nat) → List Token → List Node → Prop
  | nil (i : Nat) : Parsed blocks i [] []
  | literal {i : Nat} {c : Char} {ts : List Token} {ns : List Node} :
      Parsed blocks (i + 1) ts ns → Parsed blocks i (.literal c :: ts) (.text [c] :: ns)
  | print {i : Nat} {path : List String} {source : List Char} {ts : List Token} {ns : List Node} :
      Parsed blocks (i + 1) ts ns →
        Parsed blocks i (.print path source :: ts) (.print path source :: ns)
  | loose {i : Nat} {tag : BlockTag} {source : List Char} {ts : List Token} {ns : List Node} :
      blocks.partner? i = none → Parsed blocks (i + 1) ts ns →
        Parsed blocks i (.block tag source :: ts) (.text source :: ns)
  | block {i j : Nat} {tag close : BlockTag} {source closeSource : List Char}
      {inner ts : List Token} {body ns : List Node} :
      blocks.partner? i = some j → blocks.partner? j = some i → j = i + 1 + inner.length →
        close.closes tag = true → Parsed blocks (i + 1) inner body → Parsed blocks (j + 1) ts ns →
        Parsed blocks i (.block tag source :: (inner ++ .block close closeSource :: ts))
          (Frame.complete ⟨tag, source, []⟩ body closeSource :: ns)

/-- A block is completed the same way whatever stands before it. -/
theorem complete_congr (tag : BlockTag) (source : List Char) (before body : List Node)
    (close : List Char) :
    Frame.complete ⟨tag, source, before⟩ body close = Frame.complete ⟨tag, source, []⟩ body close :=
  rfl

namespace Parsed

variable {blocks : Blocks}

/-- The parts that are built of a token list are those that it stands for, behind the parts before
it. -/
theorem build_append {i : Nat} {ts : List Token} {ns : List Node} (h : Parsed blocks i ts ns) :
    ∀ (frames : List Frame) (before : List Node) (rest : List Token),
      build blocks i frames before (ts ++ rest) =
        build blocks (i + ts.length) frames (ns.reverse ++ before) rest := by
  induction h with
  | nil i =>
    intro frames before rest
    simp
  | @literal i c ts ns _ ih =>
    intro frames before rest
    rw [Blocks.add_length_cons]
    simp [build, ih]
  | @print i path source ts ns _ ih =>
    intro frames before rest
    rw [Blocks.add_length_cons]
    simp [build, ih]
  | @loose i tag source ts ns hnone _ ih =>
    intro frames before rest
    rw [Blocks.add_length_cons]
    simp [build, hnone, ih]
  | @block i j tag close source closeSource inner ts body ns hi hj hij _ _ _ ihInner ihRest =>
    intro frames before rest
    have hlt : i < j := by omega
    have hpos : j + 1 + ts.length =
        i + (Token.block tag source :: (inner ++ .block close closeSource :: ts)).length := by
      simp only [List.length_cons, List.length_append]
      omega
    -- The opener puts a frame on the stack, and its end tag takes it off again.
    have hopen : build blocks i frames before
        (.block tag source :: (inner ++ .block close closeSource :: (ts ++ rest))) =
        build blocks (i + 1) (⟨tag, source, before⟩ :: frames) []
          (inner ++ .block close closeSource :: (ts ++ rest)) := by
      simp [build, hi, hlt]
    have hclose : build blocks j (⟨tag, source, before⟩ :: frames) body.reverse
        (.block close closeSource :: (ts ++ rest)) =
        build blocks (j + 1) frames
          (Frame.complete ⟨tag, source, []⟩ body closeSource :: before) (ts ++ rest) := by
      have hnot : ¬ j < i := by omega
      simp [build, hj, hnot, complete_congr tag source before]
    calc
      build blocks i frames before
          ((.block tag source :: (inner ++ .block close closeSource :: ts)) ++ rest)
          = build blocks (i + 1) (⟨tag, source, before⟩ :: frames) []
              (inner ++ .block close closeSource :: (ts ++ rest)) := by simpa using hopen
      _ = build blocks j (⟨tag, source, before⟩ :: frames) body.reverse
            (.block close closeSource :: (ts ++ rest)) := by rw [ihInner, ← hij]; simp
      _ = build blocks (j + 1) frames
            (Frame.complete ⟨tag, source, []⟩ body closeSource :: before) (ts ++ rest) := hclose
      _ = _ := by rw [ihRest, hpos]; simp

/-- The parts that are built of a whole token list. -/
theorem build_eq {ts : List Token} {ns : List Node} (h : Parsed blocks 0 ts ns) :
    build blocks 0 [] [] ts = ns := by
  have := h.build_append [] [] []
  simpa [build] using this

theorem append {i : Nat} {a b : List Token} {ms ns : List Node} (ha : Parsed blocks i a ms)
    (hb : Parsed blocks (i + a.length) b ns) : Parsed blocks i (a ++ b) (ms ++ ns) := by
  -- On the parts of the first list; the second one stands behind its last part.
  induction ha with
  | nil i => simpa using hb
  | @literal i c ts ns _ ih =>
    exact .literal (ih (Blocks.add_length_cons i _ ts ▸ hb))
  | @print i path source ts ns _ ih =>
    exact .print (ih (Blocks.add_length_cons i _ ts ▸ hb))
  | @loose i tag source ts ns hnone _ ih =>
    exact .loose hnone (ih (Blocks.add_length_cons i _ ts ▸ hb))
  | @block i j tag close source closeSource inner ts body ms hi hj hij hcloses hInner _ _ ihRest =>
    have hpos : i + (Token.block tag source :: (inner ++ .block close closeSource :: ts)).length =
        j + 1 + ts.length := by
      simp only [List.length_cons, List.length_append]
      omega
    have hblock : Parsed blocks i
        (.block tag source :: (inner ++ .block close closeSource :: (ts ++ b)))
        (Frame.complete ⟨tag, source, []⟩ body closeSource :: (ms ++ ns)) :=
      .block hi hj hij hcloses hInner (ihRest (hpos ▸ hb))
    simpa using hblock

/-- The parts do not depend on where a token list stands, as long as its tags are paired in the same
way. -/
theorem move {blocks' : Blocks} (n : Nat) {i : Nat} {ts : List Token} {ns : List Node}
    (h : Parsed blocks i ts ns)
    (hpartner : ∀ k, i ≤ k → k < i + ts.length →
      blocks'.partner? (k + n) = (blocks.partner? k).map (· + n)) :
    Parsed blocks' (i + n) ts ns := by
  induction h with
  | nil i => exact .nil _
  | @literal i c ts ns _ ih =>
    have hrest := ih fun k hk hlt => hpartner k (by omega) (by simp only [List.length_cons]; omega)
    exact .literal (by simpa [Nat.add_right_comm] using hrest)
  | @print i path source ts ns _ ih =>
    have hrest := ih fun k hk hlt => hpartner k (by omega) (by simp only [List.length_cons]; omega)
    exact .print (by simpa [Nat.add_right_comm] using hrest)
  | @loose i tag source ts ns hnone _ ih =>
    have hrest := ih fun k hk hlt => hpartner k (by omega) (by simp only [List.length_cons]; omega)
    have hnone' : blocks'.partner? (i + n) = none := by
      simpa [hnone] using hpartner i (Nat.le_refl i) (by simp)
    exact .loose hnone' (by simpa [Nat.add_right_comm] using hrest)
  | @block i j tag close source closeSource inner ts body ns hi hj hij hcloses _ _ ihInner ihRest =>
    have hlength : (Token.block tag source :: (inner ++ .block close closeSource :: ts)).length =
        inner.length + ts.length + 2 := by
      simp only [List.length_cons, List.length_append]
      omega
    -- Both tags are moved by as much as the tokens between them.
    have hInner := ihInner fun k hk hlt => hpartner k (by omega) (by omega)
    have hRest := ihRest fun k hk hlt => hpartner k (by omega) (by omega)
    have hi' : blocks'.partner? (i + n) = some (j + n) := by
      simpa [hi] using hpartner i (Nat.le_refl i) (by omega)
    have hj' : blocks'.partner? (j + n) = some (i + n) := by
      simpa [hj] using hpartner j (by omega) (by omega)
    exact .block hi' hj' (by omega) hcloses (by simpa [Nat.add_right_comm] using hInner)
      (by simpa [Nat.add_right_comm] using hRest)

end Parsed

/-! ## Every token list -/

/-- A token list inside open blocks: parts up to the end tag of one of them, and so on outwards. The
blocks that are left out on the way are never closed. -/
inductive Inside (blocks : Blocks) : List Blocks.Opened → (position : Nat) → List Token → Prop
  | last {opened : List Blocks.Opened} {i : Nat} {ts : List Token} {ns : List Node} :
      (∀ e ∈ opened, blocks.partner? e.1 = none) → Parsed blocks i ts ns → Inside blocks opened i ts
  | next {skipped outer : List Blocks.Opened} {opener close : BlockTag} {i j k : Nat}
      {inner ts : List Token} {ns : List Node} {source : List Char} :
      (∀ e ∈ skipped, blocks.partner? e.1 = none) → blocks.partner? k = some j →
        blocks.partner? j = some k → j = i + inner.length → close.closes opener = true →
        Parsed blocks i inner ns → Inside blocks outer (j + 1) ts →
        Inside blocks (skipped ++ (k, opener) :: outer) i (inner ++ .block close source :: ts)

namespace Inside

variable {blocks : Blocks} {opened : List Blocks.Opened}

/-- Parts in front of a token list belong to the innermost block. -/
theorem prepend {i n : Nat} {front ts : List Token} {ms : List Node}
    (hfront : Parsed blocks i front ms) (hn : n = i + front.length) (h : Inside blocks opened n ts) :
    Inside blocks opened i (front ++ ts) := by
  subst hn
  cases h with
  | last hnone hts => exact .last hnone (hfront.append hts)
  | next hskipped hk hj hij hcloses hinner hrest =>
    rw [← List.append_assoc]
    refine .next hskipped hk hj ?_ hcloses (hfront.append hinner) hrest
    simp only [List.length_append]
    omega

/-- Behind an opener, the block that it opens is either closed or not. -/
theorem opener {i : Nat} {tag : BlockTag} {source : List Char} {ts : List Token}
    (h : Inside blocks ((i, tag) :: opened) (i + 1) ts) :
    Inside blocks opened i (.block tag source :: ts) := by
  generalize hall : (i, tag) :: opened = all at h
  cases h with
  | last hnone hts =>
    subst hall
    -- The block is never closed, so its opener is text.
    have hi : blocks.partner? i = none := hnone (i, tag) (by simp)
    exact .last (fun e he => hnone e (List.mem_cons_of_mem _ he)) (.loose hi hts)
  | @next skipped outer opener close _ j k inner ts ns closeSource hskipped hk hj hij hcloses hinner
      hrest =>
    cases skipped with
    | nil =>
      -- This block is the first to be closed: with its parts it stands in front of the rest.
      rcases List.cons.inj hall with ⟨heq, rfl⟩
      rcases Prod.mk.inj heq with ⟨rfl, rfl⟩
      have hblock : Parsed blocks i
          (.block tag source :: (inner ++ [.block close closeSource]))
          [Frame.complete ⟨tag, source, []⟩ ns closeSource] :=
        .block hk hj hij hcloses hinner (.nil _)
      have := hrest.prepend hblock (by simp only [List.length_cons, List.length_append]; simp; omega)
      simpa using this
    | cons e skipped =>
      -- A block around it is closed first, so the opener is text among the parts of that one.
      rcases List.cons.inj hall with ⟨rfl, rfl⟩
      have hi : blocks.partner? i = none := hskipped (i, tag) (by simp)
      have hskipped' : ∀ e ∈ skipped, blocks.partner? e.1 = none := fun e he =>
        hskipped e (List.mem_cons_of_mem _ he)
      have hloose : Parsed blocks i (.block tag source :: inner) (.text source :: ns) :=
        .loose hi hinner
      have hlength : j = i + (Token.block tag source :: inner).length := by
        simp only [List.length_cons]
        omega
      exact .next hskipped' hk hj hlength hcloses hloose hrest

end Inside

/-- What is known of all pairs where a token list is reached, inside open blocks: those that are found
from there on are among them, and what is not paired from there on is in none of them. -/
structure Agrees (blocks : Blocks) (i : Nat) (opened : List Blocks.Opened) (ts : List Token) :
    Prop where
  nodup : blocks.positions.Nodup
  before : Blocks.Before i opened
  found : ∀ p ∈ Blocks.pair i opened ts, p ∈ blocks
  alone : ∀ k, k ∈ opened.map (·.1) ∨ i ≤ k ∧ k < i + ts.length →
    k ∉ (Blocks.pair i opened ts).positions → blocks.partner? k = none

namespace Agrees

variable {blocks paired : Blocks} {i k : Nat} {t : Token} {ts : List Token}
  {opened opened' : List Blocks.Opened}

/-- The pairs of a whole token list. -/
theorem ofTokens (ts : List Token) : Agrees (Blocks.ofTokens ts) 0 [] ts where
  nodup := Blocks.nodup_positions_pair (Blocks.Before.nil 0)
  before := Blocks.Before.nil 0
  found _ hp := hp
  alone _ _ hnot := Blocks.partner?_eq_none_iff.2 hnot

theorem step (h : Agrees blocks i opened (t :: ts))
    (hstep : Blocks.Step i opened t opened' paired) : Agrees blocks (i + 1) opened' ts where
  nodup := h.nodup
  before := hstep.before h.before
  found p hp := by
    refine h.found p ?_
    rw [hstep.pair_cons]
    exact List.mem_append_right _ hp
  alone k hk hnot := by
    refine h.alone k ?_ fun hmem => ?_
    -- A position behind the token, or of a block open there, was open or is behind it now.
    · rw [Blocks.add_length_cons]
      rcases hk with hopen | hrange
      · rcases hstep.mem_positions_opened hopen with hold | rfl
        · exact Or.inl hold
        · exact Or.inr ⟨Nat.le_refl k, by omega⟩
      · exact Or.inr ⟨by omega, hrange.2⟩
    · rw [hstep.pair_cons, Blocks.positions_append] at hmem
      rcases List.mem_append.1 hmem with hfirst | hlater
      · rcases hk with hopen | hrange
        · exact hstep.not_mem_opened h.before hfirst hopen
        · have hle := hstep.le_of_mem_positions h.before hfirst
          omega
      · exact hnot hlater

/-- A tag that is kept is in no pair. -/
theorem partner?_kept (h : Agrees blocks i opened (t :: ts))
    (hstep : Blocks.Step i opened t opened []) : blocks.partner? i = none := by
  have hnot : i ∉ opened.map (·.1) := fun hi => Nat.lt_irrefl i (h.before.lt i hi)
  refine h.alone i (Or.inr ⟨Nat.le_refl i, by simp⟩) ?_
  exact hstep.not_mem_positions (Nat.le_refl i) List.not_mem_nil hnot

/-- The blocks inside a block that is closed are in no pair. -/
theorem partner?_skipped {skipped outer : List Blocks.Opened} {p : Nat} {opener : BlockTag}
    (h : Agrees blocks i (skipped ++ (p, opener) :: outer) (t :: ts))
    (hstep : Blocks.Step i (skipped ++ (p, opener) :: outer) t outer [(p, i)]) :
    ∀ e ∈ skipped, blocks.partner? e.1 = none := by
  intro e he
  have hopened : e.1 ∈ (skipped ++ (p, opener) :: outer).map (·.1) :=
    List.mem_map_of_mem (List.mem_append_left _ he)
  have hlt : e.1 < i := h.before.lt e.1 hopened
  have hdistinct := h.before.nodup
  rw [List.map_append, List.nodup_append, List.map_cons] at hdistinct
  have hother := hdistinct.2.2 e.1 (List.mem_map_of_mem he)
  refine h.alone e.1 (Or.inl hopened) ?_
  refine hstep.not_mem_positions (Nat.le_of_lt hlt) (fun hpair => ?_) fun houter => ?_
  · have hcases : e.1 = p ∨ e.1 = i := by simpa using hpair
    rcases hcases with hp | hi
    · exact hother p List.mem_cons_self hp
    · omega
  · exact hother e.1 (List.mem_cons_of_mem _ houter) rfl

/-- Every token list stands for some parts, inside the blocks that are open before it. -/
theorem inside (h : Agrees blocks i opened ts) : Inside blocks opened i ts := by
  induction ts generalizing i opened with
  | nil =>
    refine .last (fun e he => h.alone e.1 (Or.inl (List.mem_map_of_mem he)) ?_) (.nil i)
    simp [Blocks.pair]
  | cons t ts ih =>
    rcases Blocks.exists_step i opened t with ⟨opened', paired, hstep⟩
    have hrest : Inside blocks opened' (i + 1) ts := ih (h.step hstep)
    have hpair := hstep.pair_cons ts
    cases hstep with
    | keeps hkeeps =>
      -- The token is a part of its own, and as a tag it is text.
      cases t with
      | literal c => exact hrest.prepend (.literal (.nil (i + 1))) rfl
      | print path source => exact hrest.prepend (.print (.nil (i + 1))) rfl
      | block tag source =>
        exact hrest.prepend (.loose (h.partner?_kept (.keeps hkeeps)) (.nil (i + 1))) rfl
    | opens source hopen => exact hrest.opener
    | @closes _ _ p _ _ source hopen hclose hcloses =>
      have hskipped := h.partner?_skipped (.closes source hopen hclose hcloses)
      have hpi := Blocks.partner?_of_mem h.nodup (h.found (p, i) (by simp [hpair]))
      exact .next hskipped hpi.1 hpi.2 rfl hcloses (.nil i) hrest

end Agrees

/-- Every token list stands for some parts. -/
theorem parsed_ofTokens (ts : List Token) : ∃ ns, Parsed (Blocks.ofTokens ts) 0 ts ns := by
  have hinside : Inside (Blocks.ofTokens ts) [] 0 ts := (Agrees.ofTokens ts).inside
  generalize hopened : ([] : List Blocks.Opened) = opened at hinside
  cases hinside with
  | last _ hparsed => exact ⟨_, hparsed⟩
  | next => simp at hopened

end Node
end StaticBlog
