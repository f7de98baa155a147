import StaticBlog.Proofs.Template.Composition

/-!
# Well-formed pairs

- `Blocks.mem_openedAfter_iff` : the blocks that are open behind tokens are those of the openers
  that no pair spans
- `Blocks.partner?_endTag` : the partner of an end tag, told by the blocks that are open before it
- `Blocks.WellPaired` : what holds of the pairs of a token list
- `Blocks.wellPaired_ofTokens` : the tags of every token list are well paired
-/

namespace StaticBlog
namespace Blocks

variable {ts : List Token} {t : Token} {i k : Nat} {opened opened' : List Opened} {paired : Blocks}
  {e : Opened}

/-! ## Open blocks in order -/

/-- The open blocks where a position is reached, each opened behind those around it. -/
def Descends (i : Nat) (opened : List Opened) : Prop := (i :: opened.map (·.1)).Pairwise (· > ·)

theorem descends_nil (i : Nat) : Descends i [] := List.pairwise_singleton _ _

theorem descends_cons : Descends i (e :: opened) ↔ e.1 < i ∧ Descends e.1 opened := by
  rw [Descends, Descends, List.map_cons, List.pairwise_cons]
  constructor
  · rintro ⟨hlt, hrest⟩
    exact ⟨hlt e.1 List.mem_cons_self, hrest⟩
  · rintro ⟨hlt, hrest⟩
    refine ⟨fun k hk => ?_, hrest⟩
    rcases List.mem_cons.1 hk with rfl | hk
    · exact hlt
    · exact Nat.lt_trans ((List.pairwise_cons.1 hrest).1 k hk) hlt

theorem Descends.lt (h : Descends i opened) (he : e ∈ opened) : e.1 < i :=
  (List.pairwise_cons.1 h).1 e.1 (List.mem_map_of_mem he)

theorem Descends.mono (h : Descends i opened) (hk : i ≤ k) : Descends k opened :=
  List.pairwise_cons.2 ⟨fun p hp => Nat.lt_of_lt_of_le ((List.pairwise_cons.1 h).1 p hp) hk,
    (List.pairwise_cons.1 h).2⟩

/-- The blocks inside an open block were opened behind it, and those around it in front. -/
theorem Descends.split {skipped outer : List Opened} (h : Descends i (skipped ++ e :: outer)) :
    (∀ d ∈ skipped, e.1 < d.1 ∧ d.1 < i) ∧ Descends e.1 outer := by
  induction skipped generalizing i with
  | nil => exact ⟨fun d hd => absurd hd List.not_mem_nil, (descends_cons.1 h).2⟩
  | cons d skipped ih =>
    rw [List.cons_append, descends_cons] at h
    obtain ⟨hskipped, houter⟩ := ih h.2
    refine ⟨fun d' hd' => ?_, houter⟩
    rcases List.mem_cons.1 hd' with rfl | hd'
    · exact ⟨h.2.lt (List.mem_append_right _ List.mem_cons_self), h.1⟩
    · exact ⟨(hskipped d' hd').1, Nat.lt_trans (hskipped d' hd').2 h.1⟩

theorem Step.descends (h : Step i opened t opened' paired) (hopened : Descends i opened) :
    Descends (i + 1) opened' := by
  cases h with
  | keeps _ => exact hopened.mono (Nat.le_succ i)
  | opens _ _ => exact descends_cons.2 ⟨Nat.lt_succ_self i, hopened⟩
  | @closes skipped _ p opener _ _ _ _ _ =>
    have hp : p < i := hopened.lt (e := (p, opener)) (by simp)
    exact hopened.split.2.mono (by omega)

theorem descends_openedAfter (hopened : Descends i opened) :
    Descends (i + ts.length) (openedAfter i opened ts) := by
  induction ts generalizing i opened with
  | nil => exact hopened
  | cons t ts ih =>
    rcases exists_step i opened t with ⟨opened', paired, hstep⟩
    rw [hstep.openedAfter_cons, add_length_cons]
    exact ih (hstep.descends hopened)

theorem descends_opened (ts : List Token) : Descends ts.length (openedAfter 0 [] ts) := by
  simpa using descends_openedAfter (descends_nil 0)

/-! ## Which blocks are open -/

theorem isOpener_of_closes {tag opener : BlockTag} (h : tag.closes opener = true) :
    opener.isOpener = true ∧ tag.isOpener = false := by
  cases tag <;> cases opener <;> first | exact ⟨rfl, rfl⟩ | cases h

/-- A token list at a position has the opener of a block. -/
def OpensIn (i : Nat) (ts : List Token) (e : Opened) : Prop :=
  e.2.isOpener = true ∧ ∃ k source, e.1 = i + k ∧ ts[k]? = some (.block e.2 source)

theorem opensIn_cons : OpensIn i (t :: ts) e ↔
    (e.1 = i ∧ e.2.isOpener = true ∧ ∃ source, t = .block e.2 source) ∨ OpensIn (i + 1) ts e := by
  constructor
  · rintro ⟨hopener, k, source, hk, htoken⟩
    cases k with
    | zero => exact Or.inl ⟨hk, hopener, source, Option.some.inj htoken⟩
    | succ k => exact Or.inr ⟨hopener, k, source, by omega, htoken⟩
  · rintro (⟨hi, hopener, source, rfl⟩ | ⟨hopener, k, source, hk, htoken⟩)
    · exact ⟨hopener, 0, source, hi, rfl⟩
    · exact ⟨hopener, k + 1, source, by omega, htoken⟩

theorem OpensIn.le (h : OpensIn i ts e) : i ≤ e.1 := by
  obtain ⟨-, k, -, hk, -⟩ := h
  omega

/-- A pair closes its own opener, and with it each opener between its tags. -/
def Spans (pair : Nat × Nat) (k : Nat) : Prop := pair.1 ≤ k ∧ k < pair.2

/-- A token takes away the blocks that the pair it completes spans. -/
theorem Step.opened_iff (h : Step i opened t opened' paired) (hopened : Descends i opened) :
    e ∈ opened' ∨ OpensIn (i + 1) ts e ↔
      (e ∈ opened ∨ OpensIn i (t :: ts) e) ∧ ∀ q ∈ paired, ¬Spans q e.1 := by
  rw [opensIn_cons]
  cases h with
  | keeps hkeeps =>
    have hnone : ¬(e.1 = i ∧ e.2.isOpener = true ∧ ∃ source, t = .block e.2 source) := by
      rintro ⟨-, hopener, source, rfl⟩
      rw [(hkeeps e.2 source rfl).1] at hopener
      cases hopener
    simp [hnone]
  | @opens _ tag source hopen =>
    have hself : (e.1 = i ∧ e.2.isOpener = true ∧
        ∃ source', Token.block tag source = .block e.2 source') ↔ e = (i, tag) := by
      constructor
      · rintro ⟨hi, -, source', htoken⟩
        cases htoken
        exact Prod.ext hi rfl
      · rintro rfl
        exact ⟨rfl, hopen, source, rfl⟩
    simp only [hself, List.mem_cons, List.not_mem_nil, false_implies, implies_true, and_true]
    tauto
  | @closes skipped _ p opener tag source hopen _ _ =>
    have hself : ¬(e.1 = i ∧ e.2.isOpener = true ∧
        ∃ source', Token.block tag source = .block e.2 source') := by
      rintro ⟨-, hopener, source', htoken⟩
      cases htoken
      rw [hopen] at hopener
      cases hopener
    -- The openers that are skipped stand within the pair, and the outer ones in front of it.
    obtain ⟨hskipped, houter⟩ := hopened.split
    rw [List.forall_mem_singleton]
    simp only [hself, false_or, Spans, List.mem_append, List.mem_cons]
    constructor
    · rintro (he | he)
      · have hlt := houter.lt he
        exact ⟨Or.inl (Or.inr (Or.inr he)), by omega⟩
      · have hle := he.le
        exact ⟨Or.inr he, by omega⟩
    · rintro ⟨((he | rfl | he) | he), hspans⟩
      · have hbounds := hskipped e he
        omega
      · have hp : p < i := hopened.lt (e := (p, opener)) (by simp)
        omega
      · exact Or.inl he
      · exact Or.inr he

/-- The blocks that are open behind tokens are those of the openers that no pair spans. -/
theorem mem_openedAfter_iff (hopened : Descends i opened) :
    e ∈ openedAfter i opened ts ↔
      (e ∈ opened ∨ OpensIn i ts e) ∧ ∀ q ∈ pair i opened ts, ¬Spans q e.1 := by
  induction ts generalizing i opened with
  | nil => simp [openedAfter, pair, OpensIn]
  | cons t ts ih =>
    rcases exists_step i opened t with ⟨opened', paired, hstep⟩
    rw [hstep.openedAfter_cons, hstep.pair_cons, List.forall_mem_append,
      ih (hstep.descends hopened), hstep.opened_iff hopened, and_assoc]

/-! ## Tags of a pair -/

/-- A pair is an opener, which stands in the token list or is open before it, with a later end tag
of its kind. -/
theorem tags_of_mem_pair {a b : Nat} (hopened : Descends i opened) (h : (a, b) ∈ pair i opened ts) :
    a < b ∧ ∃ opener, ((a, opener) ∈ opened ∨ OpensIn i ts (a, opener)) ∧
      ∃ k close source, b = i + k ∧ ts[k]? = some (.block close source) ∧
        close.closes opener = true := by
  induction ts generalizing i opened with
  | nil => cases h
  | cons t ts ih =>
    rcases exists_step i opened t with ⟨opened', paired, hstep⟩
    rw [hstep.pair_cons] at h
    rcases List.mem_append.1 h with hfirst | hlater
    · cases hstep with
      | keeps _ => cases hfirst
      | opens _ _ => cases hfirst
      | @closes skipped _ p opener tag source _ _ hcloses =>
        rcases Prod.mk.inj (List.mem_singleton.1 hfirst) with ⟨rfl, rfl⟩
        have hmem : (a, opener) ∈ skipped ++ (a, opener) :: opened' := by simp
        exact ⟨hopened.lt hmem, opener, Or.inl hmem, 0, tag, source, rfl, rfl, hcloses⟩
    · obtain ⟨hlt, opener, hopener, k, close, source, hb, htoken, hcloses⟩ :=
        ih (hstep.descends hopened) hlater
      exact ⟨hlt, opener, ((hstep.opened_iff hopened).1 hopener).1, k + 1, close, source, by omega,
        htoken, hcloses⟩

/-- The end tag of a pair stands in the token list. -/
theorem bounds_of_mem_pair {a b : Nat} (hopened : Descends i opened)
    (h : (a, b) ∈ pair i opened ts) : i ≤ b ∧ b < i + ts.length := by
  obtain ⟨-, -, -, k, close, source, hb, htoken, -⟩ := tags_of_mem_pair hopened h
  have hk := (List.getElem?_eq_some_iff.1 htoken).1
  omega

theorem mem_or_mem_of_partner? {blocks : Blocks} {j : Nat} (h : partner? blocks i = some j) :
    (i, j) ∈ blocks ∨ (j, i) ∈ blocks := by
  induction blocks with
  | nil => simp [partner?] at h
  | cons q blocks ih =>
    rcases q with ⟨a, b⟩
    rw [partner?_cons] at h
    split at h
    · next ha =>
      cases h
      exact Or.inl (ha ▸ List.mem_cons_self)
    · split at h
      · next hb =>
        cases h
        exact Or.inr (hb ▸ List.mem_cons_self)
      · exact (ih h).imp (List.mem_cons_of_mem _) (List.mem_cons_of_mem _)

/-- A tag of a pair is its opener or its end tag. -/
theorem partner?_ofTokens_iff {j : Nat} : partner? (ofTokens ts) i = some j ↔
    (i, j) ∈ ofTokens ts ∨ (j, i) ∈ ofTokens ts := by
  have hnodup : (positions (ofTokens ts)).Nodup := nodup_positions_pair (Before.nil 0)
  constructor
  · exact mem_or_mem_of_partner?
  · rintro (hmem | hmem)
    · exact (partner?_of_mem hnodup hmem).1
    · exact (partner?_of_mem hnodup hmem).2

/-- The earlier tag of a pair is its opener. -/
theorem mem_ofTokens_of_lt {j : Nat} (h : partner? (ofTokens ts) i = some j) (hlt : i < j) :
    (i, j) ∈ ofTokens ts := by
  rcases partner?_ofTokens_iff.1 h with hmem | hmem
  · exact hmem
  · have hback := (tags_of_mem_pair (descends_nil 0) hmem).1
    omega

/-! ## The partner of an end tag -/

theorem close?_eq_none_iff {tag : BlockTag} :
    close? tag opened = none ↔ ∀ e ∈ opened, tag.closes e.2 = false := by
  induction opened with
  | nil => simp [close?]
  | cons e opened ih =>
    cases hc : tag.closes e.2 with
    | true => simp [close?, hc]
    | false => simp [close?, hc, ih]

/-- An end tag closes the last opened one of the blocks that it can close. -/
theorem close?_eq_some_iff {tag : BlockTag} (hopened : Descends i opened) :
    (close? tag opened).map (·.1) = some k ↔
      ∃ opener, (k, opener) ∈ opened ∧ tag.closes opener = true ∧
        ∀ e ∈ opened, k < e.1 → tag.closes e.2 = false := by
  induction opened generalizing i with
  | nil => simp [close?]
  | cons e opened ih =>
    rcases e with ⟨p, opener⟩
    rw [descends_cons] at hopened
    cases hc : tag.closes opener with
    | true =>
      simp only [close?, hc, if_true, Option.map_some, Option.some_inj]
      constructor
      · rintro rfl
        refine ⟨opener, List.mem_cons_self, hc, fun e he hlt => ?_⟩
        rcases List.mem_cons.1 he with rfl | he
        · exact absurd hlt (Nat.lt_irrefl _)
        · exact absurd (hopened.2.lt he) (Nat.lt_asymm hlt)
      · rintro ⟨opener', hmem, hcloses, hlast⟩
        rcases List.mem_cons.1 hmem with heq | hmem
        · exact (Prod.mk.inj heq).1.symm
        -- A block around the first one would not be the last opened.
        · have hfirst := hlast (p, opener) List.mem_cons_self (hopened.2.lt hmem)
          rw [hc] at hfirst
          cases hfirst
    | false =>
      have hskip : close? tag ((p, opener) :: opened) = close? tag opened := by simp [close?, hc]
      rw [hskip, ih hopened.2]
      constructor
      · rintro ⟨opener', hmem, hcloses, hlast⟩
        exact ⟨opener', List.mem_cons_of_mem _ hmem, hcloses,
          List.forall_mem_cons.2 ⟨fun _ => hc, hlast⟩⟩
      · rintro ⟨opener', hmem, hcloses, hlast⟩
        refine ⟨opener', ?_, hcloses, (List.forall_mem_cons.1 hlast).2⟩
        rcases List.mem_cons.1 hmem with heq | hmem
        · rw [(Prod.mk.inj heq).2, hc] at hcloses
          cases hcloses
        · exact hmem

end Blocks

namespace Node

open Blocks (Opened openedAfter)

/-- What is known of all pairs is still known behind some tokens. -/
theorem Agrees.skip {blocks : Blocks} {i : Nat} {opened : List Opened} {after : List Token} :
    ∀ {before : List Token}, Agrees blocks i opened (before ++ after) →
      Agrees blocks (i + before.length) (openedAfter i opened before) after := by
  intro before h
  induction before generalizing i opened with
  | nil => exact h
  | cons t before ih =>
    rcases Blocks.exists_step i opened t with ⟨opened', paired, hstep⟩
    rw [hstep.openedAfter_cons, Blocks.add_length_cons]
    exact ih (h.step hstep)

end Node

namespace Blocks

variable {before after : List Token} {tag : BlockTag} {source : List Char}

/-- The partner of an end tag is told by the blocks that are open before it. -/
theorem partner?_endTag (htag : tag.isOpener = false) :
    partner? (ofTokens (before ++ .block tag source :: after)) before.length =
      (close? tag (openedAfter 0 [] before)).map (·.1) := by
  have hagrees := (Node.Agrees.ofTokens (before ++ .block tag source :: after)).skip
  rw [Nat.zero_add] at hagrees
  cases hclose : close? tag (openedAfter 0 [] before) with
  | none =>
    refine hagrees.partner?_kept (.keeps fun tag' source' heq => ?_)
    cases heq
    exact ⟨htag, hclose⟩
  | some found =>
    rcases found with ⟨p, outer⟩
    rcases eq_append_of_close? hclose with ⟨skipped, opener, hopened, hcloses⟩
    rw [hopened] at hclose hagrees
    have hstep : Step before.length _ (.block tag source) outer [(p, before.length)] :=
      .closes source htag hclose hcloses
    have hfound := hagrees.found (p, before.length) (by simp [hstep.pair_cons])
    exact (partner?_of_mem hagrees.nodup hfound).2

/-! ## Well-formed pairs -/

/-- An opener in front of a position, whose block is open there: it has not been closed before, and
no block around it has. -/
structure IsOpenAt (ts : List Token) (blocks : Blocks) (p k : Nat) (opener : BlockTag) : Prop where
  stands : ∃ source, ts[k]? = some (.block opener source)
  isOpener : opener.isOpener = true
  before : k < p
  notClosed : ∀ close, partner? blocks k = some close → p ≤ close
  notDiscarded : ∀ outer close, partner? blocks outer = some close →
    outer < k → k < close → p ≤ close

/-- The nearest opener of its kind in front of an end tag whose block is still open. -/
def IsNearest (ts : List Token) (blocks : Blocks) (tag : BlockTag) (p k : Nat) : Prop :=
  ∃ opener, IsOpenAt ts blocks p k opener ∧ tag.closes opener = true ∧
    ∀ k' opener', IsOpenAt ts blocks p k' opener' → k < k' → tag.closes opener' = false

/-- What holds of the pairs of a token list. -/
structure WellPaired (ts : List Token) (blocks : Blocks) : Prop where
  symmetric : ∀ i j, partner? blocks i = some j → partner? blocks j = some i
  irreflexive : ∀ i, partner? blocks i ≠ some i
  /-- A pair is an opener with a later end tag of its kind. -/
  tags : ∀ i j, partner? blocks i = some j → i < j → ∃ opener close source closeSource,
    ts[i]? = some (.block opener source) ∧ ts[j]? = some (.block close closeSource) ∧
      opener.isOpener = true ∧ close.isOpener = false ∧ close.closes opener = true
  /-- No two pairs cross: a pair with a tag inside another one is inside with both tags. -/
  nested : ∀ i j k l, partner? blocks i = some j → partner? blocks k = some l → i < k → k < j →
    i < l ∧ l < j
  paired : ∀ p tag source, ts[p]? = some (.block tag source) → tag.isOpener = false →
    ∀ k, partner? blocks p = some k ↔ IsNearest ts blocks tag p k
  unpaired : ∀ p tag source, ts[p]? = some (.block tag source) → tag.isOpener = false →
    (partner? blocks p = none ↔
      ∀ k opener, IsOpenAt ts blocks p k opener → tag.closes opener = false)

theorem exists_tags {a b : Nat} (h : (a, b) ∈ ofTokens ts) :
    a < b ∧ ∃ opener close source closeSource,
      ts[a]? = some (.block opener source) ∧ ts[b]? = some (.block close closeSource) ∧
        opener.isOpener = true ∧ close.isOpener = false ∧ close.closes opener = true := by
  obtain ⟨hlt, opener, hopener, j, close, closeSource, hb, hclose, hcloses⟩ :=
    tags_of_mem_pair (descends_nil 0) h
  obtain ⟨hkind, k, source, ha, hopen⟩ := hopener.resolve_left List.not_mem_nil
  rw [Nat.zero_add] at ha hb
  subst ha hb
  exact ⟨hlt, opener, close, source, closeSource, hopen, hclose, hkind,
    (isOpener_of_closes hcloses).2, hcloses⟩

/-- The pairs of the front of a token list are those of the whole list that are completed there. -/
theorem mem_ofTokens_front_iff (after : List Token) {a b : Nat} :
    (a, b) ∈ ofTokens before ↔ (a, b) ∈ ofTokens (before ++ after) ∧ b < before.length := by
  rw [ofTokens, ofTokens, pair_append, Nat.zero_add, List.mem_append]
  constructor
  · intro hmem
    have hb := (bounds_of_mem_pair (descends_nil 0) hmem).2
    exact ⟨Or.inl hmem, by omega⟩
  · rintro ⟨hfront | hback, hb⟩
    · exact hfront
    · have hle := (bounds_of_mem_pair (descends_opened before) hback).1
      omega

/-- The blocks that are open at a position, told by the pairs of all tokens. -/
theorem isOpenAt_iff {opener : BlockTag} :
    IsOpenAt (before ++ after) (ofTokens (before ++ after)) before.length k opener ↔
      (k, opener) ∈ openedAfter 0 [] before := by
  rw [mem_openedAfter_iff (descends_nil 0), or_iff_right List.not_mem_nil]
  constructor
  · rintro ⟨⟨source, hstands⟩, hkind, hlt, hclosed, hdiscarded⟩
    rw [List.getElem?_append_left hlt] at hstands
    refine ⟨⟨hkind, k, source, (Nat.zero_add k).symm, hstands⟩, ?_⟩
    rintro ⟨a, b⟩ hmem ⟨hle, hkb⟩
    obtain ⟨hall, hb⟩ := (mem_ofTokens_front_iff after).1 hmem
    have hpartner := partner?_ofTokens_iff.2 (Or.inl hall)
    -- The pair is the one of the opener itself, or closes a block around it.
    rcases Nat.eq_or_lt_of_le (show a ≤ k from hle) with rfl | hlt'
    · exact Nat.not_lt.2 (hclosed b hpartner) hb
    · exact Nat.not_lt.2 (hdiscarded a b hpartner hlt' hkb) hb
  · rintro ⟨⟨hkind, j, source, hj, hstands⟩, hspans⟩
    have hkj : k = j := by simpa using hj
    subst hkj
    have hlt := (List.getElem?_eq_some_iff.1 hstands).1
    have hstands' : (before ++ after)[k]? = some (.block opener source) := by
      rw [List.getElem?_append_left hlt]
      exact hstands
    have hbehind : ∀ a b, (a, b) ∈ ofTokens (before ++ after) → a ≤ k → k < b →
        before.length ≤ b := fun a b hmem hle hkb =>
      Nat.not_lt.1 fun hb => hspans (a, b) ((mem_ofTokens_front_iff after).2 ⟨hmem, hb⟩) ⟨hle, hkb⟩
    refine ⟨⟨source, hstands'⟩, hkind, hlt, fun close hclose => ?_,
      fun outer close hclose ho hk => ?_⟩
    · rcases partner?_ofTokens_iff.1 hclose with hmem | hmem
      · exact hbehind k close hmem (Nat.le_refl k) (exists_tags hmem).1
      -- An opener is not the end tag of a pair.
      · obtain ⟨-, -, last, -, lastSource, -, hlast, -, hnot, -⟩ := exists_tags hmem
        rw [hstands'] at hlast
        cases hlast
        rw [hkind] at hnot
        cases hnot
    · exact hbehind outer close (mem_ofTokens_of_lt hclose (by omega)) (by omega) hk

theorem eq_append_of_getElem? {p : Nat} (h : ts[p]? = some t) :
    ∃ before after, ts = before ++ t :: after ∧ before.length = p := by
  obtain ⟨hlt, rfl⟩ := List.getElem?_eq_some_iff.1 h
  exact ⟨ts.take p, ts.drop (p + 1), by simp, by simp; omega⟩

theorem partner?_eq_some_iff_isNearest {p : Nat} (hp : ts[p]? = some (.block tag source))
    (htag : tag.isOpener = false) :
    partner? (ofTokens ts) p = some k ↔ IsNearest ts (ofTokens ts) tag p k := by
  obtain ⟨before, after, rfl, rfl⟩ := eq_append_of_getElem? hp
  rw [partner?_endTag htag, close?_eq_some_iff (descends_opened before)]
  simp only [IsNearest, isOpenAt_iff, Prod.forall]

theorem partner?_eq_none_iff_forall {p : Nat} (hp : ts[p]? = some (.block tag source))
    (htag : tag.isOpener = false) : partner? (ofTokens ts) p = none ↔
      ∀ k opener, IsOpenAt ts (ofTokens ts) p k opener → tag.closes opener = false := by
  obtain ⟨before, after, rfl, rfl⟩ := eq_append_of_getElem? hp
  rw [partner?_endTag htag, Option.map_eq_none_iff, close?_eq_none_iff]
  simp only [isOpenAt_iff, Prod.forall]

/-- The opener of a pair is open until its end tag. -/
theorem isOpenAt_of_mem {l : Nat} (h : (k, l) ∈ ofTokens ts) :
    ∃ opener, IsOpenAt ts (ofTokens ts) l k opener := by
  obtain ⟨-, -, close, -, closeSource, -, hclose, -, htag, -⟩ := exists_tags h
  have hpartner := partner?_ofTokens_iff.2 (Or.inr h)
  obtain ⟨opener, hopen, -⟩ := (partner?_eq_some_iff_isNearest hclose htag).1 hpartner
  exact ⟨opener, hopen⟩

theorem wellPaired_ofTokens (ts : List Token) : WellPaired ts (ofTokens ts) where
  symmetric i j h := partner?_ofTokens_iff.2 (partner?_ofTokens_iff.1 h).symm
  irreflexive i h := by
    have hmem := (partner?_ofTokens_iff.1 h).elim id id
    exact Nat.lt_irrefl i (exists_tags hmem).1
  tags i j h hlt := (exists_tags (mem_ofTokens_of_lt h hlt)).2
  nested i j k l hij hkl hik hkj := by
    have hji := partner?_ofTokens_iff.2 (partner?_ofTokens_iff.1 hij).symm
    have hlk := partner?_ofTokens_iff.2 (partner?_ofTokens_iff.1 hkl).symm
    have hli : l ≠ i := by
      rintro rfl
      rw [hij, Option.some_inj] at hlk
      omega
    have hlj : l ≠ j := by
      rintro rfl
      rw [hji, Option.some_inj] at hlk
      omega
    rcases partner?_ofTokens_iff.1 hkl with hmem | hmem
    -- The inner opener is open at its end tag, so the outer block is not closed before.
    · obtain ⟨opener, hopen⟩ := isOpenAt_of_mem hmem
      have hlj' := hopen.notDiscarded i j hij hik hkj
      have hkl' := hopen.before
      omega
    · obtain ⟨opener, hopen⟩ := isOpenAt_of_mem (mem_ofTokens_of_lt hij (by omega))
      have hlk' := (exists_tags hmem).1
      by_contra hcross
      have hjk := hopen.notDiscarded l k hlk (by omega) hik
      omega
  paired _ _ _ hp htag _ := partner?_eq_some_iff_isNearest hp htag
  unpaired _ _ _ hp htag := partner?_eq_none_iff_forall hp htag

end Blocks
end StaticBlog
