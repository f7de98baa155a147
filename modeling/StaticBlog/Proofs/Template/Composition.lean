import StaticBlog.Proofs.Template.FreeNames
import StaticBlog.Proofs.Template.Parsing
import StaticBlog.Proofs.Template.Scanning

/-!
# Templates made of templates

- `Template.Balanced` : a source that can be put anywhere without changing what it means
- `Node.ofTokens_append`, `Node.ofTokens_block` : the parts of joined and of enclosed token lists
- `Node.renderAll_congr` : only the values that paths lead to matter to a text
- `Template.render_of_balanced` : the text of a source in front of another one, in a test and in a
  loop
-/

namespace StaticBlog

/-! ## Pairs of joined token lists -/

namespace Blocks

theorem partner?_append (a b : Blocks) (k : Nat) :
    partner? (a ++ b) k = (partner? a k).or (partner? b k) := by
  simp [partner?, List.findSome?_append]

theorem positions_map_add (blocks : Blocks) (n : Nat) :
    positions (blocks.map fun (a, b) => (a + n, b + n)) = (positions blocks).map (· + n) := by
  induction blocks with
  | nil => rfl
  | cons e blocks ih =>
    rcases e with ⟨a, b⟩
    simp [ih]

theorem pair_add_nil (ts : List Token) (n : Nat) :
    pair n [] ts = (ofTokens ts).map fun (a, b) => (a + n, b + n) := by
  simpa [ofTokens] using pair_add ts 0 n []

/-- No tag before or behind a token list belongs to one of its pairs. -/
theorem partner?_pair_eq_none {ts : List Token} {i k : Nat} (hk : k < i ∨ i + ts.length ≤ k) :
    partner? (pair i [] ts) k = none := by
  refine partner?_eq_none_iff.2 fun hmem => ?_
  rcases mem_positions_pair hmem with hopened | hrange
  · simp at hopened
  · omega

theorem AllPaired.move {ts : List Token} (n : Nat) (h : AllPaired 0 [] ts) : AllPaired n [] ts := by
  intro k tag source hk
  have hmem : k ∈ positions (ofTokens ts) := by simpa [ofTokens] using h k tag source hk
  rw [pair_add_nil, positions_map_add, Nat.add_comm n k]
  exact List.mem_map_of_mem hmem

/-- The pairs of joined token lists, if the first has no tag left to pair. -/
theorem ofTokens_append {a : List Token} (b : List Token) (ha : AllPaired 0 [] a) :
    ofTokens (a ++ b) = ofTokens a ++ pair a.length [] b := by
  have happend := pair_append a b 0 []
  rw [openedAfter_eq_nil ha] at happend
  simpa [ofTokens] using happend

/-- The pairs of an enclosed token list, if it has no tag left to pair: its own ones, and the tags
that enclose it. -/
theorem ofTokens_block {tag close : BlockTag} {ts : List Token} (source closeSource : List Char)
    (hopener : tag.isOpener = true) (hcloses : close.closes tag = true) (hts : AllPaired 0 [] ts) :
    ofTokens (.block tag source :: (ts ++ [.block close closeSource])) =
      pair 1 [] ts ++ [(0, ts.length + 1)] := by
  have hclose : close.isOpener = false := by
    cases close <;> simp_all [BlockTag.closes, BlockTag.isOpener]
  have hpaired : AllPaired 1 [] ts := hts.move 1
  -- Nothing inside looks at the block around it, so the end tag finds that one still open.
  have hframe := pair_append_opened [(0, tag)] (Before.nil 1) hpaired
  have hopened : openedAfter 1 [(0, tag)] ts = [(0, tag)] := by
    simpa [openedAfter_eq_nil hpaired] using hframe.2
  have hlast : pair (1 + ts.length) [(0, tag)] [.block close closeSource] =
      [(0, ts.length + 1)] := by
    simp [pair, hclose, close?, hcloses, Nat.add_comm]
  calc
    ofTokens (.block tag source :: (ts ++ [.block close closeSource]))
        = pair 1 [(0, tag)] (ts ++ [.block close closeSource]) := by
          simp [ofTokens, pair, hopener]
    _ = pair 1 [(0, tag)] ts ++ pair (1 + ts.length) [(0, tag)] [.block close closeSource] := by
          rw [pair_append, hopened]
    _ = pair 1 [] ts ++ [(0, ts.length + 1)] := by
          rw [hlast]
          simpa using hframe.1

end Blocks

/-! ## Parts of joined token lists -/

namespace Node

theorem parsed_self (ts : List Token) : Parsed (Blocks.ofTokens ts) 0 ts (ofTokens ts) := by
  rcases parsed_ofTokens ts with ⟨ns, hns⟩
  have hbuild : ofTokens ts = ns := hns.build_eq
  exact hbuild ▸ hns

/-- The parts of joined token lists, if the first has no tag left to pair. -/
theorem ofTokens_append {a : List Token} (b : List Token) (ha : Blocks.AllPaired 0 [] a) :
    ofTokens (a ++ b) = ofTokens a ++ ofTokens b := by
  have hblocks := Blocks.ofTokens_append b ha
  -- A tag has its partner in its own list, so both lists are read as they are read alone.
  have hfirst : Parsed (Blocks.ofTokens (a ++ b)) 0 a (ofTokens a) := by
    refine (parsed_self a).move 0 fun k _ hk => ?_
    have hnone : Blocks.partner? (Blocks.pair a.length [] b) k = none :=
      Blocks.partner?_pair_eq_none (by omega)
    simp [hblocks, Blocks.partner?_append, hnone]
  have hsecond : Parsed (Blocks.ofTokens (a ++ b)) (0 + a.length) b (ofTokens b) := by
    refine (parsed_self b).move a.length fun k _ _ => ?_
    have hnone : Blocks.partner? (Blocks.ofTokens a) (k + a.length) = none :=
      Blocks.partner?_pair_eq_none (by omega)
    rw [hblocks, Blocks.partner?_append, hnone, Blocks.pair_add_nil, Blocks.partner?_map_add,
      Option.none_or]
  exact (hfirst.append hsecond).build_eq

/-- The parts of an enclosed token list, if it has no tag left to pair: one block around its own
parts. -/
theorem ofTokens_block {tag close : BlockTag} {ts : List Token} (source closeSource : List Char)
    (hopener : tag.isOpener = true) (hcloses : close.closes tag = true)
    (hts : Blocks.AllPaired 0 [] ts) :
    ofTokens (.block tag source :: (ts ++ [.block close closeSource])) =
      [Frame.complete ⟨tag, source, []⟩ (ofTokens ts) closeSource] := by
  let all := Token.block tag source :: (ts ++ [Token.block close closeSource])
  have hblocks : Blocks.ofTokens all = Blocks.pair 1 [] ts ++ [(0, ts.length + 1)] :=
    Blocks.ofTokens_block source closeSource hopener hcloses hts
  have hnodup : (Blocks.ofTokens all).positions.Nodup :=
    Blocks.nodup_positions_pair (Blocks.Before.nil 0)
  have hpartner := Blocks.partner?_of_mem hnodup
    (show (0, ts.length + 1) ∈ Blocks.ofTokens all by simp [hblocks])
  -- The tokens inside keep their own partners, moved by the opener.
  have hinner : Parsed (Blocks.ofTokens all) (0 + 1) ts (ofTokens ts) := by
    refine (parsed_self ts).move 1 fun k _ hk => ?_
    have hother : Blocks.partner? [(0, ts.length + 1)] (k + 1) = none := by
      have hne : ts.length ≠ k := by omega
      simp [Blocks.partner?, hne]
    rw [hblocks, Blocks.partner?_append, hother, Blocks.pair_add_nil, Blocks.partner?_map_add,
      Option.or_none]
  have hall : Parsed (Blocks.ofTokens all) 0 all
      [Frame.complete ⟨tag, source, []⟩ (ofTokens ts) closeSource] :=
    .block hpartner.1 hpartner.2 (by omega) hcloses hinner (.nil _)
  exact hall.build_eq

/-! ## Texts of parts -/

theorem renderAll_append (dateFormat : String) (scope : Scope) (a b : List Node) :
    renderAll dateFormat scope (a ++ b) =
      renderAll dateFormat scope a ++ renderAll dateFormat scope b := by
  induction a with
  | nil => rfl
  | cons n a ih => simp [renderAll, ih]

/-- Scopes from which every path leads to the same value. -/
def SameValues (s s' : Scope) : Prop := ∀ path, s.resolve path = s'.resolve path

/-- Only the values that paths lead to matter to the text of parts. -/
theorem renderAll_congr (dateFormat : String) {s s' : Scope} (h : SameValues s s')
    (ns : List Node) : renderAll dateFormat s ns = renderAll dateFormat s' ns :=
  renderAll_eq_of_agree Value.isBisimulation_eq dateFormat ns fun name _ path =>
    optionRel_eq_iff.2 (h (name :: path))

/-- The item of a loop hides a variable of the page in the way in which setting the variable would. -/
theorem sameValues_set (c : Context) (name : String) (v : Value) :
    SameValues (.item (.page c) name v) (.page (c.set name v)) := by
  intro path
  cases path with
  | nil => rfl
  | cons key path =>
    by_cases hkey : key = name
    · subst hkey
      simp [Scope.resolve, Context.resolve, Context.get?, Context.set]
    -- Any other name is looked up behind the item.
    · have hget : Dict.get? (Dict.insert c.bindings name v) key = Dict.get? c.bindings key :=
        Dict.get?_insert_of_ne c.bindings v (Ne.symm hkey)
      simp [Scope.resolve, Context.resolve, Context.get?, Context.set, hkey, hget]

end Node

/-! ## Balanced sources -/

namespace Template

/-- A source that means the same wherever it stands: each place where a tag may start is read as a
tag, each block tag belongs to a pair, and the last character starts no tag together with what
follows. -/
structure Balanced (source : String) : Prop where
  tags : Token.allRead 0 source.toList = true
  paired : ∀ i tag chars, (Token.scan source.toList)[i]? = some (.block tag chars) →
    ((Blocks.ofTokens (Token.scan source.toList)).partner? i).isSome = true
  ending : source.toList.getLast? ≠ some '\x7b'

/-- The source of a test around a body. -/
def testSource (path body : String) : String :=
  "\x7b% if " ++ path ++ " %\x7d" ++ body ++ "\x7b% endif %\x7d"

/-- The source of a loop around a body. -/
def loopSource (item list body : String) : String :=
  "\x7b% for " ++ item ++ " in " ++ list ++ " %\x7d" ++ body ++ "\x7b% endfor %\x7d"

theorem toList_testSource (path body : String) :
    (testSource path body).toList =
      Token.blockSource ["if".toList, path.toList] ++
        (body.toList ++ Token.blockSource ["endif".toList]) := by
  simp [testSource, Token.blockSource, Text.spaced]

theorem toList_loopSource (item list body : String) :
    (loopSource item list body).toList =
      Token.blockSource ["for".toList, item.toList, "in".toList, list.toList] ++
        (body.toList ++ Token.blockSource ["endfor".toList]) := by
  simp [loopSource, Token.blockSource, Text.spaced]

/-- The text of a source. -/
def textOf (source : String) (c : Context) (dateFormat : String) : String :=
  (parse source).render c dateFormat

namespace Balanced

variable {source : String}

theorem scan_append (h : Balanced source) (u : List Char) :
    Token.scan (source.toList ++ u) = Token.scan source.toList ++ Token.scan u :=
  Token.scan_append u h.tags h.ending

theorem allPaired (h : Balanced source) : Blocks.AllPaired 0 [] (Token.scan source.toList) := by
  intro k tag chars hk
  have hsome := h.paired k tag chars hk
  rw [Nat.zero_add]
  refine Classical.byContradiction fun hnot => ?_
  have hnone : (Blocks.ofTokens (Token.scan source.toList)).partner? k = none :=
    Blocks.partner?_eq_none_iff.2 hnot
  simp [hnone] at hsome

theorem parse_append (h : Balanced source) (other : String) :
    Node.parse (source ++ other) = Node.parse source ++ Node.parse other := by
  simp only [Node.parse, String.toList_append, h.scan_append]
  exact Node.ofTokens_append _ h.allPaired

theorem parse_testSource (h : Balanced source) {name : String} {path : List String}
    (hpath : Token.path? name.toList = some path) :
    Node.parse (testSource name source) =
      [.test path (Token.blockSource ["if".toList, name.toList]) (Node.parse source)
        (Token.blockSource ["endif".toList])] := by
  simp only [Node.parse, toList_testSource, Token.scan_test _ hpath, h.scan_append,
    Token.scan_endTest]
  exact Node.ofTokens_block _ _ rfl rfl h.allPaired

theorem parse_loopSource (h : Balanced source) {item name : String} {path : List String}
    (hitem : Token.isName item.toList = true) (hpath : Token.path? name.toList = some path) :
    Node.parse (loopSource item name source) =
      [.loop item path
        (Token.blockSource ["for".toList, item.toList, "in".toList, name.toList])
        (Node.parse source) (Token.blockSource ["endfor".toList])] := by
  simp only [Node.parse, toList_loopSource, Token.scan_loop _ hitem hpath, h.scan_append,
    Token.scan_endLoop]
  rw [Node.ofTokens_block _ _ rfl rfl h.allPaired]
  simp [Node.Frame.complete]

theorem textOf_append (h : Balanced source) (other : String) (c : Context) (dateFormat : String) :
    textOf (source ++ other) c dateFormat =
      textOf source c dateFormat ++ textOf other c dateFormat := by
  simp [textOf, parse, render, h.parse_append, Node.renderAll_append]

theorem textOf_testSource (h : Balanced source) {name : String} {path : List String}
    (hpath : Token.path? name.toList = some path) (c : Context) (dateFormat : String) :
    textOf (testSource name source) c dateFormat =
      if (c.resolve path).any Value.isTruthy then textOf source c dateFormat else "" := by
  simp only [textOf, parse, render, h.parse_testSource hpath, Node.renderAll, Node.render,
    Scope.resolve, List.append_nil]
  cases c.resolve path with
  | none => simp
  | some v => cases htruthy : v.isTruthy <;> simp [htruthy]

/-- The text of the body for one item of a loop. -/
theorem renderAll_item (c : Context) (item : String) (v : Value) (dateFormat : String) :
    Node.renderAll dateFormat (.item (.page c) item v) (Node.parse source) =
      (textOf source (c.set item v) dateFormat).toList := by
  simp [textOf, parse, render,
    Node.renderAll_congr dateFormat (Node.sameValues_set c item v) (Node.parse source)]

theorem textOf_loopSource (h : Balanced source) {item name : String} {path : List String}
    (hitem : Token.isName item.toList = true) (hpath : Token.path? name.toList = some path)
    (c : Context) (dateFormat : String) :
    textOf (loopSource item name source) c dateFormat =
      match c.resolve path with
      | some (.array items) =>
        String.join (items.map fun v => textOf source (c.set item v) dateFormat)
      | _ => "" := by
  have hparse := h.parse_loopSource hitem hpath
  have htext : textOf (loopSource item name source) c dateFormat =
      String.ofList (match c.resolve path with
        | some (.array items) =>
          items.flatMap fun v => (textOf source (c.set item v) dateFormat).toList
        | _ => []) := by
    simp only [textOf, parse, render, hparse, Node.renderAll, Node.render, Scope.resolve,
      List.append_nil]
    -- The item of the loop is seen like a variable of the page.
    simp only [renderAll_item]
    rfl
  rw [htext]
  cases c.resolve path with
  | none => rfl
  | some v =>
    cases v with
    | array items =>
      apply String.toList_injective
      simp [String.toList_join, List.flatMap_map]
    | _ => rfl

end Balanced

/-- A balanced source composes: in front of any source it keeps its text, a test around it keeps or
drops its text, and a loop around it repeats its text with the variable set to each item. -/
theorem render_of_balanced (source : String) (c : Context) (dateFormat : String) :
    Balanced source →
      (∀ other, textOf (source ++ other) c dateFormat =
        textOf source c dateFormat ++ textOf other c dateFormat) ∧
      (∀ name path, Token.path? name.toList = some path →
        textOf (testSource name source) c dateFormat =
          if (c.resolve path).any Value.isTruthy then textOf source c dateFormat else "") ∧
      (∀ item name path, Token.isName item.toList = true → Token.path? name.toList = some path →
        textOf (loopSource item name source) c dateFormat =
          match c.resolve path with
          | some (.array items) =>
            String.join (items.map fun v => textOf source (c.set item v) dateFormat)
          | _ => "") := by
  intro h
  refine ⟨?_, ?_, ?_⟩
  · intro other
    exact h.textOf_append other c dateFormat
  · intro name path hpath
    exact h.textOf_testSource hpath c dateFormat
  · intro item name path hitem hpath
    exact h.textOf_loopSource hitem hpath c dateFormat

/-- A source with a test and a printed value. -/
def greeting : String := "\x7b% if name %\x7dHi \x7b\x7b name \x7d\x7d\x7b% endif %\x7d"

theorem balanced_greeting : Balanced greeting := by
  have hscan : Token.scan greeting.toList =
      [.block (.test ["name"]) "\x7b% if name %\x7d".toList, .literal 'H', .literal 'i',
        .literal ' ', .print ["name"] "\x7b\x7b name \x7d\x7d".toList,
        .block .endTest "\x7b% endif %\x7d".toList] := by decide
  refine ⟨by decide, ?_, by decide⟩
  rw [hscan]
  intro i tag chars hi
  match i with
  | 0 => rfl
  | 5 => rfl
  | 1 | 2 | 3 | 4 => simp at hi
  | _ + 6 => simp at hi

/-- The greetings of a page with two names. -/
theorem greeting_composes :
    let c : Context := ⟨[("names", .array [.string "Ada", .string "Bob"]), ("name", .string "Eve")]⟩
    Balanced greeting ∧ textOf (greeting ++ "!") c "" = "Hi Eve!" ∧
      textOf (testSource "name" greeting) c "" = "Hi Eve" ∧
      textOf (loopSource "name" "names" greeting) c "" = "Hi AdaHi Bob" := by
  intro c
  have h := render_of_balanced greeting c "" balanced_greeting
  refine ⟨balanced_greeting, (h.1 "!").trans ?_, (h.2.1 "name" ["name"] (by decide)).trans ?_,
    (h.2.2 "name" "names" ["names"] (by decide) (by decide)).trans ?_⟩
  · decide +kernel
  · decide +kernel
  · decide +kernel

end Template
end StaticBlog
