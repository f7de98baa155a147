import StaticBlog.Proofs.Template.Composition

/-!
# The source in a template

- `Token.scanFrom_zero_cases` : what a step of the scanner takes
- `Token.flatMap_source_scan` : the tokens of a source concatenate to it
- `Token.tag?_of_scan_eq` : a tag is read where it stands
- `Node.allTokens` : the tokens that parts are made of, in the order of the source
- `Token.settled` : tokens whose unpaired block tags are taken as text
- `Template.parse_loses_nothing` : the parts of a source are made of its own tokens, and write it
  back
-/

namespace StaticBlog

variable {blocks : Blocks} {i : Nat} {s : List Char} {ts before after : List Token} {t : Token}
  {ns : List Node}

/-! ## Tokens of a source -/

namespace Token

theorem length_source_of_tag? {c : Char} : tag? (c :: s) = some t →
    t.source.length - 1 ≤ s.length ∧ t.source ++ s.drop (t.source.length - 1) = c :: s := by
  intro h
  rcases source_isPrefix_of_tag? h with ⟨rest, hrest⟩
  have hne : t.source ≠ [] := by
    rcases cases_of_tag? h with
      ⟨inner, after, path, -, -, -, rfl⟩ | ⟨inner, after, tag, -, -, -, rfl⟩
    · simp [source]
    · simp [source]
  cases hsource : t.source with
  | nil => exact absurd hsource hne
  | cons a source =>
    rw [hsource] at hrest
    rcases List.cons.inj hrest with ⟨rfl, rfl⟩
    simp

/-- A step of the scanner takes a tag, two characters that start no tag, or one character. -/
theorem scanFrom_zero_cases (c : Char) (s : List Char) :
    (∃ t, tag? (c :: s) = some t ∧ scanFrom 0 (c :: s) = t :: scanFrom (t.source.length - 1) s) ∨
      (∃ d u, s = d :: u ∧ scanFrom 0 (c :: s) = .literal c :: .literal d :: scanFrom 1 s) ∨
      scanFrom 0 (c :: s) = .literal c :: scanFrom 0 s := by
  cases ht : tag? (c :: s) with
  | some t => exact Or.inl ⟨t, rfl, by simp [scanFrom, ht]⟩
  | none =>
    cases hstart : isTagStart (c :: s) with
    | false => exact Or.inr (Or.inr (by simp [scanFrom, ht, hstart]))
    | true =>
      cases s with
      | nil => simp [isTagStart] at hstart
      | cons d u => exact Or.inr (Or.inl ⟨d, u, rfl, by simp [scanFrom, ht, hstart]⟩)

/-- What is read from a place on concatenates to what stands there. -/
theorem flatMap_source_scanFrom : ∀ (s : List Char) (skip : Nat), skip ≤ s.length →
    (scanFrom skip s).flatMap source = s.drop skip := by
  intro s
  induction s with
  | nil =>
    intro skip _
    simp [scanFrom]
  | cons c s ih =>
    intro skip hskip
    cases skip with
    | succ skip =>
      rw [scanFrom, List.drop_succ_cons]
      exact ih skip (by simpa using hskip)
    | zero =>
      -- A tag, the two characters that would begin one, or any other character.
      rcases scanFrom_zero_cases c s with ⟨t, ht, hscan⟩ | ⟨d, u, rfl, hscan⟩ | hscan
      · obtain ⟨hlength, hsource⟩ := length_source_of_tag? ht
        rw [hscan, List.flatMap_cons, ih _ hlength, hsource, List.drop_zero]
      · rw [hscan, List.flatMap_cons, List.flatMap_cons, ih 1 (by simp)]
        rfl
      · rw [hscan, List.flatMap_cons, ih 0 (Nat.zero_le _)]
        rfl

theorem flatMap_source_scan (s : List Char) : (scan s).flatMap source = s :=
  flatMap_source_scanFrom s 0 (Nat.zero_le _)

/-- A tag among the tokens is the tag that is read at its place, in front of all that follows it. -/
theorem tag?_of_scanFrom_eq : ∀ (s : List Char) (skip : Nat) (before : List Token),
    skip ≤ s.length → scanFrom skip s = before ++ t :: after →
      (∃ c, t = .literal c) ∨ tag? ((t :: after).flatMap source) = some t := by
  intro s
  induction s with
  | nil =>
    intro skip before _ h
    simp [scanFrom] at h
  | cons c s ih =>
    intro skip before hskip h
    cases skip with
    | succ skip => exact ih skip before (by simpa using hskip) (by simpa [scanFrom] using h)
    | zero =>
      have hall := flatMap_source_scanFrom (c :: s) 0 (Nat.zero_le _)
      rw [h, List.drop_zero] at hall
      rcases scanFrom_zero_cases c s with ⟨t', ht, hscan⟩ | ⟨d, u, rfl, hscan⟩ | hscan
      · rw [hscan] at h
        cases before with
        | nil =>
          obtain ⟨rfl, -⟩ := List.cons.inj h
          exact Or.inr (hall.symm ▸ ht)
        | cons _ before => exact ih _ before (length_source_of_tag? ht).1 (List.cons.inj h).2
      · rw [hscan] at h
        cases before with
        | nil => exact Or.inl ⟨c, (List.cons.inj h).1.symm⟩
        | cons _ before =>
          have hrest := (List.cons.inj h).2
          cases before with
          | nil => exact Or.inl ⟨d, (List.cons.inj hrest).1.symm⟩
          | cons _ before => exact ih 1 before (by simp) (List.cons.inj hrest).2
      · rw [hscan] at h
        cases before with
        | nil => exact Or.inl ⟨c, (List.cons.inj h).1.symm⟩
        | cons _ before => exact ih 0 before (Nat.zero_le _) (List.cons.inj h).2

theorem tag?_of_scan_eq (h : scan s = before ++ t :: after) :
    (∃ c, t = .literal c) ∨ tag? ((t :: after).flatMap source) = some t :=
  tag?_of_scanFrom_eq s 0 before (Nat.zero_le _) h

/-! ## Tags that are text -/

/-- A token list at a position in which a block tag without partner is its characters. -/
def settled (blocks : Blocks) : (position : Nat) → List Token → List Token
  | _, [] => []
  | i, .block tag source :: ts =>
    (if (blocks.partner? i).isSome then [.block tag source] else source.map .literal) ++
      settled blocks (i + 1) ts
  | i, t :: ts => t :: settled blocks (i + 1) ts

theorem flatMap_source_literal (s : List Char) : (s.map Token.literal).flatMap source = s := by
  induction s with
  | nil => rfl
  | cons c s ih => simp [source, ih]

theorem flatMap_source_settled (blocks : Blocks) (i : Nat) (ts : List Token) :
    (settled blocks i ts).flatMap source = ts.flatMap source := by
  induction ts generalizing i with
  | nil => rfl
  | cons t ts ih =>
    cases t with
    | literal c => simp [settled, ih]
    | print path chars => simp [settled, ih]
    | block tag chars =>
      cases hpartner : (blocks.partner? i).isSome with
      | true => simp [settled, hpartner, ih]
      | false =>
        have hchars := flatMap_source_literal chars
        simp [settled, hpartner, ih, source, hchars]

theorem settled_append (a b : List Token) :
    settled blocks i (a ++ b) = settled blocks i a ++ settled blocks (i + a.length) b := by
  induction a generalizing i with
  | nil => rfl
  | cons t a ih =>
    rw [Blocks.add_length_cons]
    cases t <;> simp [settled, ih]

end Token

/-! ## Tokens of a tree -/

namespace Node

mutual

/-- The tokens that a part is made of, in the order of the source. -/
def tokens : Node → List Token
  | .text s => s.map .literal
  | .print path source => [.print path source]
  | .loop item list opener body close =>
    .block (.loop item list) opener :: allTokens body ++ [.block .endLoop close]
  | .test path opener body close =>
    .block (.test path) opener :: allTokens body ++ [.block .endTest close]

def allTokens : List Node → List Token
  | [] => []
  | n :: ns => tokens n ++ allTokens ns

end

mutual

theorem flatMap_source_tokens : ∀ n : Node, n.tokens.flatMap Token.source = n.source
  | .text s => by rw [tokens, source, Token.flatMap_source_literal]
  | .print path s => by simp [tokens, source, Token.source]
  | .loop item list opener body close => by
    simp [tokens, source, Token.source, flatMap_source_allTokens body]
  | .test path opener body close => by
    simp [tokens, source, Token.source, flatMap_source_allTokens body]

theorem flatMap_source_allTokens :
    ∀ ns : List Node, (allTokens ns).flatMap Token.source = sources ns
  | [] => by simp [allTokens, sources]
  | n :: ns => by
    simp [allTokens, sources, flatMap_source_tokens n, flatMap_source_allTokens ns]

end

/-- A block is made of its opener, its body and its end tag. -/
theorem tokens_complete {tag close : BlockTag} (hcloses : close.closes tag = true)
    (source : List Char) (body : List Node) (closeSource : List Char) :
    tokens (Frame.complete ⟨tag, source, []⟩ body closeSource) =
      .block tag source :: allTokens body ++ [.block close closeSource] := by
  cases tag <;> cases close <;> simp_all [BlockTag.closes, Frame.complete, tokens]

namespace Parsed

/-- The parts that a token list stands for are made of its tokens, in their order. -/
theorem allTokens_eq (h : Parsed blocks i ts ns) : allTokens ns = Token.settled blocks i ts := by
  induction h with
  | nil i => simp [allTokens, Token.settled]
  | literal _ ih => simp [allTokens, tokens, Token.settled, ih]
  | print _ ih => simp [allTokens, tokens, Token.settled, ih]
  | loose hnone _ ih => simp [allTokens, tokens, Token.settled, hnone, ih]
  | @block i j tag close source closeSource inner ts body ns hi hj hij hcloses _ _ ihInner ihRest =>
    have hclose : i + 1 + inner.length = j := hij.symm
    simp [allTokens, tokens_complete hcloses, Token.settled, Token.settled_append, hi, hclose, hj,
      ihInner, ihRest]

/-- Without a printed value and without a block, the text of the parts is the source. -/
theorem renderAll_eq (h : Parsed [] i ts ns) (hprint : ∀ path source, .print path source ∉ ts)
    (dateFormat : String) (scope : Scope) :
    renderAll dateFormat scope ns = ts.flatMap Token.source := by
  have hrest : ∀ {t : Token} {ts : List Token}, (∀ path source, .print path source ∉ t :: ts) →
      ∀ path source, .print path source ∉ ts :=
    fun h path source hmem => h path source (List.mem_cons_of_mem _ hmem)
  induction h with
  | nil i => simp [renderAll]
  | literal _ ih => simp [renderAll, render, Token.source, ih (hrest hprint)]
  | @print _ path source _ _ _ _ => exact absurd List.mem_cons_self (hprint path source)
  | loose _ _ ih => simp [renderAll, render, Token.source, ih (hrest hprint)]
  | block hi => simp [Blocks.partner?] at hi

end Parsed
end Node

/-! ## Sources written back -/

namespace Template

/-- Reading a template loses nothing. Written back, the parts are the source. They are made of the
tokens of the source, each once and in its place: a printed value and the two tags of a block are
read where they stand, and all else, block tags without partner among it, is text. A source without
printed values and blocks is its own text. -/
theorem parse_loses_nothing (source : String) :
    let tokens := Token.scan source.toList
    let blocks := Blocks.ofTokens tokens
    Node.sources (Node.parse source) = source.toList ∧
    Node.allTokens (Node.parse source) = Token.settled blocks 0 tokens ∧
    tokens.flatMap Token.source = source.toList ∧
    (∀ before t after, tokens = before ++ t :: after →
      (∃ c, t = .literal c) ∨ Token.tag? ((t :: after).flatMap Token.source) = some t) ∧
    ((∀ path chars, .print path chars ∉ tokens) → blocks = [] →
      ∀ c dateFormat, textOf source c dateFormat = source) := by
  intro tokens blocks
  have hparsed : Node.Parsed blocks 0 tokens (Node.parse source) := Node.parsed_self tokens
  have hscan : tokens.flatMap Token.source = source.toList :=
    Token.flatMap_source_scan source.toList
  refine ⟨?_, hparsed.allTokens_eq, hscan, fun _ _ _ => Token.tag?_of_scan_eq, ?_⟩
  · calc
      Node.sources (Node.parse source)
          = (Node.allTokens (Node.parse source)).flatMap Token.source :=
            (Node.flatMap_source_allTokens _).symm
      _ = (Token.settled blocks 0 tokens).flatMap Token.source := by rw [hparsed.allTokens_eq]
      _ = source.toList := by rw [Token.flatMap_source_settled, hscan]
  · intro hprint hblocks c dateFormat
    rw [hblocks] at hparsed
    have htext := hparsed.renderAll_eq hprint dateFormat (.page c)
    rw [hscan] at htext
    rw [textOf, render, parse, htext, String.ofList_toList]

/-- A source of things that are no tags after all, and of block tags without partners. -/
def scraps : String := "\x7b\x7b x + 1 \x7d\x7d\x7b% endfor %\x7d\x7b% if x %\x7d\x7b\x7b"

/-- Such a source is its own text on every page, also where its variable has a value. -/
theorem scraps_shown_as_they_are :
    (∀ path chars, .print path chars ∉ Token.scan scraps.toList) ∧
      Blocks.ofTokens (Token.scan scraps.toList) = [] ∧
        ∀ c dateFormat, textOf scraps c dateFormat = scraps := by
  have hkinds : (Token.scan scraps.toList).all (fun t => !t matches .print _ _) = true := by decide
  have hprint : ∀ path chars, .print path chars ∉ Token.scan scraps.toList := by
    intro path chars hmem
    simpa using List.all_eq_true.1 hkinds _ hmem
  have hblocks : Blocks.ofTokens (Token.scan scraps.toList) = [] := by decide
  exact ⟨hprint, hblocks, (parse_loses_nothing scraps).2.2.2.2 hprint hblocks⟩

end Template
end StaticBlog
