import StaticBlog.Proofs.Template.WellPaired

/-!
# Parts built by ranges

- `Node.buildRange` : the parts of a range of tokens, by recursion into the blocks
- `Node.Visit.IsInside` : a token that is passed, with its partner in the range that is being built
- `Node.AreBuilt` : tokens that are built into parts, in whatever range they stand
- `Node.Parsed.areBuilt` : building by ranges gives the parts that tokens stand for
- `Template.pairing_is_well_formed` : the tags of every token list are well paired, and building by
  ranges passes each token once
-/

namespace StaticBlog
namespace Node

/-! ## Building by ranges -/

/-- A token that is passed while parts are built: its position, and the range being built. -/
structure Visit where
  position : Nat
  start : Nat
  stop : Nat
  deriving DecidableEq, Repr

/-- The part that a token is when it opens no block. -/
def alone : Token → Node
  | .literal c => .text [c]
  | .print path source => .print path source
  | .block _ source => .text source

/-- The block that a tag opens. -/
def enclose (body : List Node) (close : List Char) : Token → Node
  | .block tag source => Frame.complete ⟨tag, source, []⟩ body close
  | t => alone t

/-- The end tag of the block that a token opens. -/
def closing? (blocks : Blocks) (i : Nat) : Token → Option Nat
  | .block tag _ => if tag.isOpener then (blocks.partner? i).filter (i < ·) else none
  | _ => none

variable {blocks : Blocks} {i j : Nat} {t : Token} {all ts rest : List Token}

theorem lt_of_closing? (h : closing? blocks i t = some j) : i < j := by
  cases t with
  | literal c => cases h
  | print path source => cases h
  | block tag source =>
    rw [closing?] at h
    split at h
    · exact of_decide_eq_true (Option.filter_eq_some_iff.1 h).2
    · cases h

theorem lt_length_of_getElem? (h : ts[i]? = some t) : i < ts.length :=
  (List.getElem?_eq_some_iff.1 h).1

/-- Builds the parts of a range of tokens from a position on, and those of a block by a run for the
range between its tags. The parts come with the tokens that are passed, in their order. There is
no result if a position is looked at where no token stands. -/
def buildRange (blocks : Blocks) (ts : List Token) (start i stop : Nat) :
    Option (List Visit × List Node) :=
  if i < stop then
    match _ : ts[i]? with
    | none => none
    | some t =>
      match hj : closing? blocks i t with
      | none =>
        (buildRange blocks ts start (i + 1) stop).map fun (visits, parts) =>
          (⟨i, start, stop⟩ :: visits, alone t :: parts)
      | some j =>
        (buildRange blocks ts (i + 1) (i + 1) j).bind fun (inner, body) =>
          (buildRange blocks ts start (j + 1) stop).map fun (visits, parts) =>
            (⟨i, start, stop⟩ :: inner ++ ⟨j, start, stop⟩ :: visits,
              enclose body (ts[j]?.elim [] Token.source) t :: parts)
  else some ([], [])
-- Each run starts further on than the one that calls it: an end tag stands behind its opener.
termination_by ts.length - i
decreasing_by
  · have hlt := lt_length_of_getElem? ‹ts[i]? = some _›
    omega
  · have hlt := lt_length_of_getElem? ‹ts[i]? = some _›
    omega
  · have hlt := lt_length_of_getElem? ‹ts[i]? = some _›
    have hij := lt_of_closing? hj
    omega

section

variable {start stop : Nat}

theorem buildRange_end (h : stop ≤ i) : buildRange blocks all start i stop = some ([], []) := by
  rw [buildRange, if_neg (Nat.not_lt.2 h)]

theorem buildRange_alone (hi : i < stop) (ht : all[i]? = some t)
    (hclosing : closing? blocks i t = none) :
    buildRange blocks all start i stop =
      (buildRange blocks all start (i + 1) stop).map fun (visits, parts) =>
        (⟨i, start, stop⟩ :: visits, alone t :: parts) := by
  rw [buildRange, if_pos hi]
  split
  · next hnone => rw [ht] at hnone; cases hnone
  · next t' ht' =>
    cases ht.symm.trans ht'
    split
    · rfl
    · next j hj => rw [hclosing] at hj; cases hj

theorem buildRange_block {inner visits : List Visit} {body parts : List Node} (hi : i < stop)
    (ht : all[i]? = some t) (hclosing : closing? blocks i t = some j)
    (hbody : buildRange blocks all (i + 1) (i + 1) j = some (inner, body))
    (hrest : buildRange blocks all start (j + 1) stop = some (visits, parts)) :
    buildRange blocks all start i stop =
      some (⟨i, start, stop⟩ :: inner ++ ⟨j, start, stop⟩ :: visits,
        enclose body (all[j]?.elim [] Token.source) t :: parts) := by
  rw [buildRange, if_pos hi]
  split
  · next hnone => rw [ht] at hnone; cases hnone
  · next t' ht' =>
    cases ht.symm.trans ht'
    split
    · next hnone => rw [hclosing] at hnone; cases hnone
    · next j' hj =>
      cases hclosing.symm.trans hj
      rw [hbody, Option.bind_some]
      simp only [hrest, Option.map_some]

end

/-- A visit within a range that keeps the partner of its token within the range being built. -/
structure Visit.IsInside (blocks : Blocks) (start stop : Nat) (v : Visit) : Prop where
  start_le : start ≤ v.start
  le_position : v.start ≤ v.position
  position_lt : v.position < v.stop
  stop_le : v.stop ≤ stop
  partner : ∀ j, blocks.partner? v.position = some j → v.start ≤ j ∧ j < v.stop

theorem Visit.IsInside.mono {v : Visit} {start stop start' stop' : Nat}
    (h : v.IsInside blocks start stop) (hstart : start' ≤ start) (hstop : stop ≤ stop') :
    v.IsInside blocks start' stop' :=
  ⟨Nat.le_trans hstart h.start_le, h.le_position, h.position_lt, Nat.le_trans h.stop_le hstop,
    h.partner⟩

/-- A run that passes each token of a range once, in order. -/
structure Builds (blocks : Blocks) (all : List Token) (start i stop : Nat) (ns : List Node)
    (visits : List Visit) : Prop where
  result : buildRange blocks all start i stop = some (visits, ns)
  positions : visits.map (·.position) = List.range' i (stop - i)
  inside : ∀ v ∈ visits, v.IsInside blocks start stop

theorem Builds.alone {start stop : Nat} {ns : List Node} {visits : List Visit}
    (h : Builds blocks all start (i + 1) stop ns visits) (hstart : start ≤ i) (hi : i < stop)
    (ht : all[i]? = some t) (hnone : blocks.partner? i = none) :
    Builds blocks all start i stop (alone t :: ns) (⟨i, start, stop⟩ :: visits) where
  result := by
    have hclosing : closing? blocks i t = none := by
      cases t <;> simp [closing?, hnone]
    rw [buildRange_alone hi ht hclosing, h.result]
    rfl
  positions := by
    have hlength : stop - i = stop - (i + 1) + 1 := by omega
    rw [List.map_cons, h.positions, hlength, List.range'_succ]
  inside := by
    have hown : Visit.IsInside blocks start stop ⟨i, start, stop⟩ :=
      ⟨Nat.le_refl _, hstart, hi, Nat.le_refl _, fun j hj => by cases hnone.symm.trans hj⟩
    exact List.forall_mem_cons.2 ⟨hown, h.inside⟩

theorem Builds.block {start stop : Nat} {body ns : List Node} {inner visits : List Visit}
    {tag : BlockTag} {source : List Char}
    (hbody : Builds blocks all (i + 1) (i + 1) j body inner)
    (hrest : Builds blocks all start (j + 1) stop ns visits) (hstart : start ≤ i) (hij : i < j)
    (hjs : j < stop) (ht : all[i]? = some (.block tag source)) (htag : tag.isOpener = true)
    (hi : blocks.partner? i = some j) (hj : blocks.partner? j = some i) :
    Builds blocks all start i stop
      (Frame.complete ⟨tag, source, []⟩ body (all[j]?.elim [] Token.source) :: ns)
      (⟨i, start, stop⟩ :: inner ++ ⟨j, start, stop⟩ :: visits) where
  result := by
    have hclosing : closing? blocks i (.block tag source) = some j := by
      simp [closing?, htag, hi, hij]
    exact buildRange_block (Nat.lt_trans hij hjs) ht hclosing hbody.result hrest.result
  positions := by
    have hsplit : stop - i = (j - (i + 1) + 1) + (stop - (j + 1) + 1) := by omega
    have hend : i + (j - (i + 1) + 1) = j := by omega
    rw [List.map_append, List.map_cons, List.map_cons, hbody.positions, hrest.positions, hsplit,
      ← List.range'_append_1, hend, List.range'_succ, List.range'_succ]
  inside := by
    have hown : Visit.IsInside blocks start stop ⟨i, start, stop⟩ := by
      refine ⟨Nat.le_refl _, hstart, Nat.lt_trans hij hjs, Nat.le_refl _, fun k hk => ?_⟩
      cases hi.symm.trans hk
      exact ⟨Nat.le_trans hstart (Nat.le_of_lt hij), hjs⟩
    have hend : Visit.IsInside blocks start stop ⟨j, start, stop⟩ := by
      have hle : start ≤ j := Nat.le_trans hstart (Nat.le_of_lt hij)
      refine ⟨Nat.le_refl _, hle, hjs, Nat.le_refl _, fun k hk => ?_⟩
      cases hj.symm.trans hk
      exact ⟨hstart, Nat.lt_trans hij hjs⟩
    refine List.forall_mem_append.2 ⟨List.forall_mem_cons.2 ⟨hown, fun v hv => ?_⟩,
      List.forall_mem_cons.2 ⟨hend, hrest.inside⟩⟩
    exact (hbody.inside v hv).mono (by omega) (by omega)

/-- Tokens of a list that are built into parts, in whatever range they stand. -/
def AreBuilt (blocks : Blocks) (all : List Token) (i : Nat) (ts : List Token) (ns : List Node) :
    Prop :=
  ∀ (start : Nat) (rest : List Token), all.drop i = ts ++ rest → start ≤ i →
    ∃ visits, Builds blocks all start i (i + ts.length) ns visits

theorem getElem?_of_drop_eq_cons (h : all.drop i = t :: rest) : all[i]? = some t := by
  rw [← List.head?_drop, h, List.head?_cons]

theorem drop_succ_of_drop_eq_cons (h : all.drop i = t :: rest) : all.drop (i + 1) = rest := by
  rw [← List.tail_drop, h, List.tail_cons]

theorem areBuilt_nil (i : Nat) : AreBuilt blocks all i [] [] :=
  fun _ _ _ _ => ⟨[], buildRange_end (Nat.le_refl i), by simp, by simp⟩

theorem AreBuilt.alone {ns : List Node} (h : AreBuilt blocks all (i + 1) ts ns)
    (hnone : all[i]? = some t → blocks.partner? i = none) :
    AreBuilt blocks all i (t :: ts) (alone t :: ns) := by
  intro start rest hdrop hstart
  have ht := getElem?_of_drop_eq_cons hdrop
  obtain ⟨visits, hrest⟩ :=
    h start rest (drop_succ_of_drop_eq_cons hdrop) (Nat.le_succ_of_le hstart)
  rw [← Blocks.add_length_cons i t ts] at hrest
  exact ⟨_, hrest.alone hstart (by simp) ht (hnone ht)⟩

theorem AreBuilt.block {inner : List Token} {body ns : List Node} {tag close : BlockTag}
    {source closeSource : List Char} (hinner : AreBuilt blocks all (i + 1) inner body)
    (h : AreBuilt blocks all (j + 1) ts ns) (hi : blocks.partner? i = some j)
    (hj : blocks.partner? j = some i) (hij : j = i + 1 + inner.length)
    (htag : tag.isOpener = true) :
    AreBuilt blocks all i (.block tag source :: (inner ++ .block close closeSource :: ts))
      (Frame.complete ⟨tag, source, []⟩ body closeSource :: ns) := by
  intro start rest hdrop hstart
  have hstop : i + (Token.block tag source :: (inner ++ .block close closeSource :: ts)).length =
      j + 1 + ts.length := by
    simp only [List.length_cons, List.length_append]
    omega
  rw [List.cons_append, List.append_assoc, List.cons_append] at hdrop
  have hbehind := drop_succ_of_drop_eq_cons hdrop
  have hclose : all.drop j = .block close closeSource :: (ts ++ rest) := by
    rw [hij, ← List.drop_drop, hbehind, List.drop_left]
  -- The body is a range of its own, and what is behind the block belongs to the range around it.
  obtain ⟨innerVisits, hbody⟩ := hinner (i + 1) _ hbehind (Nat.le_refl _)
  obtain ⟨visits, hrest⟩ := h start rest (drop_succ_of_drop_eq_cons hclose) (by omega)
  rw [← hij] at hbody
  have hbuilds := hbody.block hrest hstart (by omega) (by omega) (getElem?_of_drop_eq_cons hdrop)
    htag hi hj
  rw [getElem?_of_drop_eq_cons hclose] at hbuilds
  rw [hstop]
  exact ⟨_, hbuilds⟩

/-- Building by ranges gives the parts that tokens stand for. -/
theorem Parsed.areBuilt {ns : List Node} (h : Parsed blocks i ts ns)
    (htags : ∀ k j, blocks.partner? k = some j → ∃ tag source, all[k]? = some (.block tag source)) :
    AreBuilt blocks all i ts ns := by
  -- A token that is no tag has no partner.
  have hnone : ∀ {k t}, (∀ tag source, t ≠ .block tag source) → all[k]? = some t →
      blocks.partner? k = none := by
    intro k t hplain ht
    rw [Option.eq_none_iff_forall_ne_some]
    intro j hk
    obtain ⟨tag, source, hblock⟩ := htags k j hk
    rw [ht, Option.some_inj] at hblock
    exact hplain tag source hblock
  induction h with
  | nil i => exact areBuilt_nil i
  | literal _ ih => exact ih.alone (hnone fun _ _ => Token.noConfusion)
  | print _ ih => exact ih.alone (hnone fun _ _ => Token.noConfusion)
  | loose hloose _ ih => exact ih.alone fun _ => hloose
  | block hi hj hij hcloses _ _ ihInner ihRest =>
    exact ihInner.block ihRest hi hj hij (Blocks.isOpener_of_closes hcloses).1

end Node

namespace Template

open Blocks (partner?)

/-- The tags of every token list are well paired: the table of partners is an involution without
fixed points that pairs openers with later end tags of their kind, no two pairs cross, and each end
tag is paired with the nearest opener of its kind in front of it that is still open, if there is
one. So building the parts by ranges, with a run of its own for each block, ends with a result. It
passes each token once, in order, and meets no partner outside of the range that it is building. -/
theorem pairing_is_well_formed (tokens : List Token) :
    let blocks := Blocks.ofTokens tokens
    Blocks.WellPaired tokens blocks ∧
      ∃ visits, Node.buildRange blocks tokens 0 0 tokens.length =
          some (visits, Node.ofTokens tokens) ∧
        visits.map (·.position) = List.range tokens.length ∧
        ∀ v ∈ visits, v.start ≤ v.position ∧ v.position < v.stop ∧ v.stop ≤ tokens.length ∧
          ∀ j, partner? blocks v.position = some j → v.start ≤ j ∧ j < v.stop := by
  intro blocks
  have hpaired : Blocks.WellPaired tokens blocks := Blocks.wellPaired_ofTokens tokens
  have htags : ∀ k j, partner? blocks k = some j →
      ∃ tag source, tokens[k]? = some (.block tag source) := by
    intro k j hkj
    rcases Nat.lt_or_gt_of_ne fun heq : k = j => hpaired.irreflexive k (heq ▸ hkj) with hlt | hlt
    · obtain ⟨opener, -, source, -, hstands, -⟩ := hpaired.tags k j hkj hlt
      exact ⟨opener, source, hstands⟩
    · have hjk := hpaired.symmetric k j hkj
      obtain ⟨-, close, -, source, -, hstands, -⟩ := hpaired.tags j k hjk hlt
      exact ⟨close, source, hstands⟩
  have hbuilt : Node.AreBuilt blocks tokens 0 tokens (Node.ofTokens tokens) :=
    (Node.parsed_self tokens).areBuilt htags
  obtain ⟨visits, hbuilds⟩ := hbuilt 0 [] (by simp) (Nat.le_refl 0)
  rw [Nat.zero_add] at hbuilds
  refine ⟨hpaired, visits, hbuilds.result, ?_, fun v hv => ?_⟩
  · rw [hbuilds.positions, Nat.sub_zero, List.range_eq_range']
  · have hinside := hbuilds.inside v hv
    exact ⟨hinside.le_position, hinside.position_lt, hinside.stop_le, hinside.partner⟩

/-- A test inside another one inside a loop. The end of the loop leaves the outer test unclosed, so
the last end tag closes nothing. -/
def mixedTags : List Token :=
  [.block (.loop "i" ["items"]) [], .block (.test ["i"]) [], .block (.test ["i"]) [], .literal 'x',
    .block .endTest [], .block .endLoop [], .block .endTest []]

theorem mixed_tags_are_paired :
    let blocks := Blocks.ofTokens mixedTags
    partner? blocks 0 = some 5 ∧ partner? blocks 2 = some 4 ∧ (0 < 4 ∧ 4 < 5) ∧
      Blocks.IsNearest mixedTags blocks .endTest 4 2 ∧ partner? blocks 6 = none ∧
      (∀ k opener, Blocks.IsOpenAt mixedTags blocks 6 k opener →
        BlockTag.endTest.closes opener = false) ∧
      ∃ visits, Node.buildRange blocks mixedTags 0 0 7 = some (visits, Node.ofTokens mixedTags) ∧
        visits.map (·.position) = [0, 1, 2, 3, 4, 5, 6] := by
  intro blocks
  obtain ⟨hpaired, visits, hresult, hpositions, -⟩ := pairing_is_well_formed mixedTags
  have houter : partner? blocks 0 = some 5 := by decide
  have hinner : partner? blocks 2 = some 4 := by decide
  have hlast : partner? blocks 6 = none := by decide
  exact ⟨houter, hinner, hpaired.nested 0 5 2 4 houter hinner (by decide) (by decide),
    (hpaired.paired 4 .endTest [] rfl rfl 2).1 (hpaired.symmetric 2 4 hinner), hlast,
    (hpaired.unpaired 6 .endTest [] rfl rfl).1 hlast, visits, hresult, hpositions⟩

end Template
end StaticBlog
