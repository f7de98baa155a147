import StaticBlog.Template.Tree

/-!
# Paired block tags

- `Blocks.Step` : what a token does to the open blocks
- `Blocks.openedAfter` : the blocks that are open behind a token list
- `Blocks.pair_append` : the pairs of joined token lists
- `Blocks.nodup_positions_pair` : no position belongs to two pairs
- `Blocks.pair_append_opened` : tokens whose tags are all paired do not look at the blocks around them
- `Blocks.pair_add` : pairs do not depend on where a token list stands
-/

namespace StaticBlog
namespace Blocks

variable {ts : List Token} {t : Token} {i k : Nat} {opened opened' : List Opened} {paired : Blocks}

/-! ## Open blocks -/

/-- The blocks that are open behind a token list, given those that are open before it. -/
def openedAfter : (position : Nat) → (opened : List Opened) → List Token → List Opened
  | _, opened, [] => opened
  | i, opened, .block tag _ :: rest =>
    if tag.isOpener then openedAfter (i + 1) ((i, tag) :: opened) rest
    else match close? tag opened with
      | some (_, outer) => openedAfter (i + 1) outer rest
      | none => openedAfter (i + 1) opened rest
  | i, opened, _ :: rest => openedAfter (i + 1) opened rest

theorem close?_cons_eq_some_iff {tag : BlockTag} {e : Opened} {opened outer : List Opened}
    {k : Nat} : close? tag (e :: opened) = some (k, outer) ↔
      tag.closes e.2 = true ∧ e.1 = k ∧ opened = outer ∨
        tag.closes e.2 = false ∧ close? tag opened = some (k, outer) := by
  cases hc : tag.closes e.2 <;> simp [close?, hc]

/-- An end tag closes one of the open blocks, and leaves those around it open. -/
theorem eq_append_of_close? {tag : BlockTag} {opened outer : List Opened} {k : Nat} :
    close? tag opened = some (k, outer) →
      ∃ skipped opener, opened = skipped ++ (k, opener) :: outer ∧ tag.closes opener = true := by
  intro h
  induction opened with
  | nil => simp [close?] at h
  | cons e opened ih =>
    rcases close?_cons_eq_some_iff.1 h with ⟨hc, rfl, rfl⟩ | ⟨-, h⟩
    · exact ⟨[], e.2, rfl, hc⟩
    · rcases ih h with ⟨skipped, opener, rfl, hcloses⟩
      exact ⟨e :: skipped, opener, rfl, hcloses⟩

theorem close?_append {tag : BlockTag} {opened outer : List Opened} {k : Nat} (base : List Opened) :
    close? tag opened = some (k, outer) →
      close? tag (opened ++ base) = some (k, outer ++ base) := by
  intro h
  induction opened with
  | nil => simp [close?] at h
  | cons e opened ih =>
    rw [List.cons_append, close?_cons_eq_some_iff]
    rcases close?_cons_eq_some_iff.1 h with ⟨hc, rfl, rfl⟩ | ⟨hc, h⟩
    · exact Or.inl ⟨hc, rfl, rfl⟩
    · exact Or.inr ⟨hc, ih h⟩

/-! ## Steps -/

/-- What a token at a position does to the open blocks, the innermost first: it keeps them, opens a
block inside them, or closes one, with which a pair is found. The blocks inside a closed one are
skipped. -/
inductive Step (i : Nat) : List Opened → Token → List Opened → (paired : Blocks) → Prop
  | keeps {opened : List Opened} {t : Token} :
      (∀ tag source, t = .block tag source → tag.isOpener = false ∧ close? tag opened = none) →
        Step i opened t opened []
  | opens {opened : List Opened} {tag : BlockTag} (source : List Char) :
      tag.isOpener = true → Step i opened (.block tag source) ((i, tag) :: opened) []
  | closes {skipped outer : List Opened} {p : Nat} {opener tag : BlockTag} (source : List Char) :
      tag.isOpener = false → close? tag (skipped ++ (p, opener) :: outer) = some (p, outer) →
        tag.closes opener = true →
        Step i (skipped ++ (p, opener) :: outer) (.block tag source) outer [(p, i)]

theorem exists_step (i : Nat) (opened : List Opened) (t : Token) :
    ∃ opened' paired, Step i opened t opened' paired := by
  cases t with
  | literal c => exact ⟨_, _, .keeps fun _ _ heq => by cases heq⟩
  | print path source => exact ⟨_, _, .keeps fun _ _ heq => by cases heq⟩
  | block tag source =>
    cases hopen : tag.isOpener with
    | true => exact ⟨_, _, .opens source hopen⟩
    | false =>
      cases hclose : close? tag opened with
      | none =>
        refine ⟨_, _, .keeps fun tag' source' heq => ?_⟩
        cases heq
        exact ⟨hopen, hclose⟩
      | some found =>
        rcases found with ⟨p, outer⟩
        rcases eq_append_of_close? hclose with ⟨skipped, opener, rfl, hcloses⟩
        exact ⟨_, _, .closes source hopen hclose hcloses⟩

/-! ## Positions -/

/-- The positions of paired tags. -/
def positions (blocks : Blocks) : List Nat := blocks.flatMap fun (opener, close) => [opener, close]

@[simp] theorem positions_nil : positions [] = [] := rfl

@[simp] theorem positions_cons (a b : Nat) (blocks : Blocks) :
    positions ((a, b) :: blocks) = a :: b :: positions blocks := rfl

@[simp] theorem positions_append (a b : Blocks) :
    positions (a ++ b) = positions a ++ positions b := by
  simp [positions]

/-- What is known of the open blocks where a position is reached: each stands at a position of its
own, before that one. -/
structure Before (i : Nat) (opened : List Opened) : Prop where
  nodup : (opened.map (·.1)).Nodup
  lt : ∀ k ∈ opened.map (·.1), k < i

namespace Before

theorem nil (i : Nat) : Before i [] := ⟨by simp, by simp⟩

theorem succ {i : Nat} {opened : List Opened} (h : Before i opened) : Before (i + 1) opened :=
  ⟨h.nodup, fun k hk => Nat.lt_succ_of_lt (h.lt k hk)⟩

theorem push {i : Nat} {opened : List Opened} (tag : BlockTag) (h : Before i opened) :
    Before (i + 1) ((i, tag) :: opened) := by
  refine ⟨?_, ?_⟩
  · have hi : i ∉ opened.map (·.1) := fun hk => Nat.lt_irrefl i (h.lt i hk)
    simpa [hi] using h.nodup
  · intro k hk
    rcases List.mem_cons.1 hk with rfl | hk
    · exact Nat.lt_succ_self _
    · exact Nat.lt_succ_of_lt (h.lt k hk)

theorem outer {i p : Nat} {opener : BlockTag} {skipped outer : List Opened}
    (h : Before i (skipped ++ (p, opener) :: outer)) : Before i outer := by
  refine ⟨?_, fun k hk => h.lt k ?_⟩
  · have hsub : (outer.map (·.1)).Sublist ((skipped ++ (p, opener) :: outer).map (·.1)) := by
      simp
    exact h.nodup.sublist hsub
  · simp only [List.map_append, List.map_cons]
    simp [hk]

end Before

namespace Step

theorem pair_cons (h : Step i opened t opened' paired) (ts : List Token) :
    pair i opened (t :: ts) = paired ++ pair (i + 1) opened' ts := by
  cases h with
  | keeps hkeeps =>
    cases t with
    | literal c => rfl
    | print path source => rfl
    | block tag source =>
      rcases hkeeps tag source rfl with ⟨hopen, hclose⟩
      simp [pair, hopen, hclose]
  | opens source hopen => simp [pair, hopen]
  | closes source hopen hclose _ => simp [pair, hopen, hclose]

theorem openedAfter_cons (h : Step i opened t opened' paired) (ts : List Token) :
    openedAfter i opened (t :: ts) = openedAfter (i + 1) opened' ts := by
  cases h with
  | keeps hkeeps =>
    cases t with
    | literal c => rfl
    | print path source => rfl
    | block tag source =>
      rcases hkeeps tag source rfl with ⟨hopen, hclose⟩
      simp [openedAfter, hopen, hclose]
  | opens source hopen => simp [openedAfter, hopen]
  | closes source hopen hclose _ => simp [openedAfter, hopen, hclose]

theorem before (h : Step i opened t opened' paired) (hbefore : Before i opened) :
    Before (i + 1) opened' := by
  cases h with
  | keeps _ => exact hbefore.succ
  | @opens _ tag _ _ => exact hbefore.push tag
  | closes _ _ _ _ => exact hbefore.outer.succ

/-- A block that is open behind a token was open before it, or the token opens it. -/
theorem mem_opened (h : Step i opened t opened' paired) {e : Opened} (he : e ∈ opened') :
    e ∈ opened ∨ e.1 = i ∧ ∃ source, t = .block e.2 source := by
  cases h with
  | keeps _ => exact Or.inl he
  | opens source _ =>
    rcases List.mem_cons.1 he with rfl | he
    · exact Or.inr ⟨rfl, source, rfl⟩
    · exact Or.inl he
  | closes _ _ _ _ => exact Or.inl (List.mem_append_right _ (List.mem_cons_of_mem _ he))

theorem mem_positions_opened (h : Step i opened t opened' paired) (hk : k ∈ opened'.map (·.1)) :
    k ∈ opened.map (·.1) ∨ k = i := by
  rcases List.mem_map.1 hk with ⟨e, he, rfl⟩
  rcases h.mem_opened he with hold | ⟨hnew, -⟩
  · exact Or.inl (List.mem_map_of_mem hold)
  · exact Or.inr hnew

/-- A token pairs itself with a block that is open before it. -/
theorem mem_positions_paired (h : Step i opened t opened' paired) (hk : k ∈ positions paired) :
    k ∈ opened.map (·.1) ∨ k = i := by
  cases h with
  | keeps _ => cases hk
  | opens _ _ => cases hk
  | @closes skipped _ p opener _ _ _ _ _ =>
    have hcases : k = p ∨ k = i := by simpa using hk
    rcases hcases with rfl | rfl
    · exact Or.inl (by simp)
    · exact Or.inr rfl

theorem le_of_mem_positions (h : Step i opened t opened' paired) (hbefore : Before i opened)
    (hk : k ∈ positions paired) : k ≤ i := by
  rcases h.mem_positions_paired hk with hmem | rfl
  · exact Nat.le_of_lt (hbefore.lt k hmem)
  · exact Nat.le_refl k

/-- What a token pairs is not open any more. -/
theorem not_mem_opened (h : Step i opened t opened' paired) (hbefore : Before i opened)
    (hk : k ∈ positions paired) : k ∉ opened'.map (·.1) := by
  cases h with
  | keeps _ => cases hk
  | opens _ _ => cases hk
  | @closes skipped _ p opener _ _ _ _ _ =>
    have hcases : k = p ∨ k = i := by simpa using hk
    rcases hcases with rfl | rfl
    · have hnodup := hbefore.nodup
      simp only [List.map_append, List.map_cons, List.nodup_append, List.nodup_cons] at hnodup
      exact hnodup.2.1.1
    · exact fun hmem => Nat.lt_irrefl k (hbefore.outer.lt k hmem)

theorem nodup_positions (h : Step i opened t opened' paired) (hbefore : Before i opened) :
    (positions paired).Nodup := by
  cases h with
  | keeps _ => exact List.nodup_nil
  | opens _ _ => exact List.nodup_nil
  | @closes skipped _ p opener _ _ _ _ _ =>
    have hp : p < i := hbefore.lt p (by simp)
    simpa using Nat.ne_of_lt hp

end Step

/-! ## Runs -/

theorem add_length_cons (i : Nat) (t : Token) (ts : List Token) :
    i + (t :: ts).length = i + 1 + ts.length := by
  simp only [List.length_cons]
  omega

theorem pair_append (a b : List Token) (i : Nat) (opened : List Opened) :
    pair i opened (a ++ b) =
      pair i opened a ++ pair (i + a.length) (openedAfter i opened a) b := by
  induction a generalizing i opened with
  | nil => simp [pair, openedAfter]
  | cons t a ih =>
    rcases exists_step i opened t with ⟨opened', paired, hstep⟩
    rw [List.cons_append, hstep.pair_cons, hstep.pair_cons, hstep.openedAfter_cons, ih,
      add_length_cons, List.append_assoc]

/-- Only tags of the token list, and blocks that were open before it, are paired. -/
theorem mem_positions_pair :
    k ∈ positions (pair i opened ts) → k ∈ opened.map (·.1) ∨ i ≤ k ∧ k < i + ts.length := by
  intro h
  induction ts generalizing i opened with
  | nil => simp [pair] at h
  | cons t ts ih =>
    rcases exists_step i opened t with ⟨opened', paired, hstep⟩
    -- Paired with the first token, or later: then it was open before, or is a position behind.
    have hcases : (k ∈ opened.map (·.1) ∨ k = i) ∨ i + 1 ≤ k ∧ k < i + 1 + ts.length := by
      rw [hstep.pair_cons, positions_append] at h
      rcases List.mem_append.1 h with hfirst | hlater
      · exact Or.inl (hstep.mem_positions_paired hfirst)
      · exact (ih hlater).imp hstep.mem_positions_opened id
    rw [add_length_cons]
    rcases hcases with (hmem | rfl) | hrange
    · exact Or.inl hmem
    · exact Or.inr ⟨Nat.le_refl k, by omega⟩
    · exact Or.inr ⟨by omega, by omega⟩

/-- No position is paired twice. -/
theorem nodup_positions_pair : Before i opened → (positions (pair i opened ts)).Nodup := by
  intro hbefore
  induction ts generalizing i opened with
  | nil => simp [pair]
  | cons t ts ih =>
    rcases exists_step i opened t with ⟨opened', paired, hstep⟩
    rw [hstep.pair_cons, positions_append, List.nodup_append]
    refine ⟨hstep.nodup_positions hbefore, ih (hstep.before hbefore), ?_⟩
    -- What the first token pairs is neither open behind it nor a later position.
    rintro k hfirst _ hlater rfl
    rcases mem_positions_pair hlater with hmem | hrange
    · exact hstep.not_mem_opened hbefore hfirst hmem
    · have hle := hstep.le_of_mem_positions hbefore hfirst
      omega

/-- A position that is reached is not paired later unless its block is still open. -/
theorem Step.not_mem_positions (h : Step i opened t opened' paired) (hk : k ≤ i)
    (hfirst : k ∉ positions paired) (hopened : k ∉ opened'.map (·.1)) :
    k ∉ positions (pair i opened (t :: ts)) := by
  intro hmem
  rw [h.pair_cons, positions_append] at hmem
  rcases List.mem_append.1 hmem with hpaired | hlater
  · exact hfirst hpaired
  · rcases mem_positions_pair hlater with hopen | hrange
    · exact hopened hopen
    · omega

/-! ## Partners -/

theorem partner?_cons (a b : Nat) (blocks : Blocks) (k : Nat) :
    partner? ((a, b) :: blocks) k =
      if a = k then some b else if b = k then some a else partner? blocks k := by
  by_cases ha : a = k
  · simp [partner?, ha]
  · by_cases hb : b = k
    · simp [partner?, ha, hb]
    · simp [partner?, ha, hb]

theorem partner?_eq_none_iff {blocks : Blocks} {k : Nat} :
    partner? blocks k = none ↔ k ∉ positions blocks := by
  induction blocks with
  | nil => simp [partner?]
  | cons e blocks ih =>
    rcases e with ⟨a, b⟩
    rw [partner?_cons]
    by_cases ha : a = k
    · simp [ha]
    · by_cases hb : b = k
      · simp [ha, hb]
      · have ha' : k ≠ a := fun h => ha h.symm
        have hb' : k ≠ b := fun h => hb h.symm
        simp [ha, hb, ha', hb', ih]

/-- Where no position belongs to two pairs, the tags of a pair are each other's partner. -/
theorem partner?_of_mem {blocks : Blocks} {a b : Nat} (hnodup : (positions blocks).Nodup)
    (hmem : (a, b) ∈ blocks) : partner? blocks a = some b ∧ partner? blocks b = some a := by
  induction blocks with
  | nil => simp at hmem
  | cons e blocks ih =>
    rcases e with ⟨c, d⟩
    have hparts : c ≠ d ∧ c ∉ positions blocks ∧ d ∉ positions blocks ∧
        (positions blocks).Nodup := by
      simpa [not_or, and_assoc] using hnodup
    rcases hparts with ⟨hcd, hc, hd, hrest⟩
    rcases List.mem_cons.1 hmem with heq | hmem
    · rcases Prod.mk.inj heq with ⟨rfl, rfl⟩
      simp [partner?_cons, hcd]
    -- The pair is a later one, which shares no position with the first.
    · have hab : a ∈ positions blocks ∧ b ∈ positions blocks := by
        constructor <;> exact List.mem_flatMap.2 ⟨(a, b), hmem, by simp⟩
      have hca : c ≠ a := fun h => hc (h ▸ hab.1)
      have hda : d ≠ a := fun h => hd (h ▸ hab.1)
      have hcb : c ≠ b := fun h => hc (h ▸ hab.2)
      have hdb : d ≠ b := fun h => hd (h ▸ hab.2)
      simpa [partner?_cons, hca, hda, hcb, hdb] using ih hrest hmem

/-! ## Tokens whose tags are all paired -/

/-- Whether every block tag of a token list belongs to a pair. -/
def AllPaired (i : Nat) (opened : List Opened) (ts : List Token) : Prop :=
  ∀ k tag source, ts[k]? = some (.block tag source) → i + k ∈ positions (pair i opened ts)

/-- Tokens behind a tag are paired among the blocks that the tag leaves open. -/
theorem AllPaired.tail (h : AllPaired i opened (t :: ts)) (hstep : Step i opened t opened' paired)
    (hbefore : Before i opened) : AllPaired (i + 1) opened' ts := by
  intro k tag source hk
  have hmem := h (k + 1) tag source (by simpa using hk)
  have hpos : i + (k + 1) = i + 1 + k := by omega
  rw [hpos, hstep.pair_cons, positions_append] at hmem
  rcases List.mem_append.1 hmem with hfirst | hlater
  · have hle := hstep.le_of_mem_positions hbefore hfirst
    omega
  · exact hlater

/-- A token that is paired, if it is a tag, does the same inside other blocks. -/
theorem Step.append (h : Step i opened t opened' paired) (base : List Opened)
    (hbefore : Before i opened) (hpaired : AllPaired i opened (t :: ts)) :
    Step i (opened ++ base) t (opened' ++ base) paired := by
  have hpair := h.pair_cons ts
  cases h with
  | keeps hkeeps =>
    refine .keeps fun tag source heq => ?_
    -- An end tag that closes nothing would have no partner.
    have hself := hpaired 0 tag source (by rw [heq]; rfl)
    rw [hpair] at hself
    rcases mem_positions_pair hself with hmem | hrange
    · exact absurd (hbefore.lt i hmem) (Nat.lt_irrefl i)
    · omega
  | opens source hopen => exact .opens source hopen
  | closes source hopen hclose hcloses =>
    have hclose' := close?_append base hclose
    rw [List.append_assoc, List.cons_append] at hclose' ⊢
    exact .closes source hopen hclose' hcloses

/-- Tokens whose tags are all paired do not look at the blocks around them, and leave them open. -/
theorem pair_append_opened (base : List Opened) :
    Before i opened → AllPaired i opened ts →
      pair i (opened ++ base) ts = pair i opened ts ∧
        openedAfter i (opened ++ base) ts = openedAfter i opened ts ++ base := by
  intro hbefore hpaired
  induction ts generalizing i opened with
  | nil => simp [pair, openedAfter]
  | cons t ts ih =>
    rcases exists_step i opened t with ⟨opened', paired, hstep⟩
    have hinside := hstep.append base hbefore hpaired
    rcases ih (hstep.before hbefore) (hpaired.tail hstep hbefore) with ⟨hpair, hopened⟩
    -- The first token does the same in both places, and so do the others.
    rw [hinside.pair_cons, hstep.pair_cons, hinside.openedAfter_cons, hstep.openedAfter_cons]
    exact ⟨by rw [hpair], hopened⟩

/-- A block that is still open behind a token list has no partner. -/
theorem not_mem_positions_of_mem_openedAfter {e : Opened} (hbefore : Before i opened)
    (he : e ∈ openedAfter i opened ts) :
    e.1 ∉ positions (pair i opened ts) ∧
      (e ∈ opened ∨ ∃ k source, ts[k]? = some (.block e.2 source) ∧ e.1 = i + k) := by
  induction ts generalizing i opened with
  | nil => exact ⟨by simp [pair], Or.inl (by simpa [openedAfter] using he)⟩
  | cons t ts ih =>
    rcases exists_step i opened t with ⟨opened', paired, hstep⟩
    rw [hstep.openedAfter_cons] at he
    rcases ih (hstep.before hbefore) he with ⟨hlater, horigin⟩
    -- What the first token pairs is not open behind it, and a block opened later is further on.
    have hfirst : e.1 ∉ positions paired := by
      intro hmem
      rcases horigin with hopen | ⟨k, -, -, hek⟩
      · exact hstep.not_mem_opened hbefore hmem (List.mem_map_of_mem hopen)
      · have hle := hstep.le_of_mem_positions hbefore hmem
        omega
    refine ⟨?_, ?_⟩
    · rw [hstep.pair_cons, positions_append]
      exact fun hmem => (List.mem_append.1 hmem).elim hfirst hlater
    · rcases horigin with hopen | ⟨k, source, hk, hek⟩
      · rcases hstep.mem_opened hopen with hold | ⟨hei, source, rfl⟩
        · exact Or.inl hold
        · exact Or.inr ⟨0, source, rfl, hei⟩
      · exact Or.inr ⟨k + 1, source, by simpa using hk, by omega⟩

/-- Tokens whose tags are all paired leave no block open. -/
theorem openedAfter_eq_nil {ts : List Token} {i : Nat} :
    AllPaired i [] ts → openedAfter i [] ts = [] := by
  intro hpaired
  refine List.eq_nil_iff_forall_not_mem.2 fun e he => ?_
  have hopen := not_mem_positions_of_mem_openedAfter (Before.nil i) he
  rcases hopen.2 with hmem | ⟨k, source, hk, hek⟩
  · simp at hmem
  · exact hopen.1 (hek ▸ hpaired k e.2 source hk)

/-! ## Moving a token list -/

theorem close?_map_add (tag : BlockTag) (opened : List Opened) (n : Nat) :
    close? tag (opened.map fun (k, opener) => (k + n, opener)) =
      (close? tag opened).map fun (k, outer) =>
        (k + n, outer.map fun (k, opener) => (k + n, opener)) := by
  induction opened with
  | nil => rfl
  | cons e opened ih =>
    rcases e with ⟨p, opener⟩
    by_cases hc : tag.closes opener = true
    · simp [close?, hc]
    · simpa [close?, hc] using ih

theorem Step.move (h : Step i opened t opened' paired) (n : Nat) :
    Step (i + n) (opened.map fun (k, opener) => (k + n, opener)) t
      (opened'.map fun (k, opener) => (k + n, opener)) (paired.map fun (a, b) => (a + n, b + n)) := by
  cases h with
  | keeps hkeeps =>
    refine .keeps fun tag source heq => ?_
    rcases hkeeps tag source heq with ⟨hopen, hclose⟩
    exact ⟨hopen, by rw [close?_map_add, hclose]; rfl⟩
  | opens source hopen => exact .opens source hopen
  | @closes skipped _ p opener tag source hopen hclose hcloses =>
    have hclose' := close?_map_add tag (skipped ++ (p, opener) :: opened') n
    rw [hclose, List.map_append, List.map_cons] at hclose'
    rw [List.map_append, List.map_cons]
    exact .closes source hopen hclose' hcloses

/-- Pairs do not depend on where a token list stands. -/
theorem pair_add (ts : List Token) (i n : Nat) (opened : List Opened) :
    pair (i + n) (opened.map fun (k, opener) => (k + n, opener)) ts =
      (pair i opened ts).map fun (a, b) => (a + n, b + n) := by
  induction ts generalizing i opened with
  | nil => rfl
  | cons t ts ih =>
    rcases exists_step i opened t with ⟨opened', paired, hstep⟩
    rw [(hstep.move n).pair_cons, hstep.pair_cons, List.map_append, ← ih (i + 1) opened',
      Nat.add_right_comm]

theorem partner?_map_add (blocks : Blocks) (n k : Nat) :
    partner? (blocks.map fun (a, b) => (a + n, b + n)) (k + n) =
      (partner? blocks k).map (· + n) := by
  induction blocks with
  | nil => rfl
  | cons e blocks ih =>
    rcases e with ⟨a, b⟩
    simp only [List.map_cons, partner?_cons, ih, Nat.add_right_cancel_iff]
    by_cases ha : a = k
    · simp [ha]
    · by_cases hb : b = k <;> simp [ha, hb]

end Blocks
end StaticBlog
