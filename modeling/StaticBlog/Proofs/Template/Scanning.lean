import StaticBlog.Proofs.Text.Pieces
import StaticBlog.Proofs.Text.Search
import StaticBlog.Template.Token

/-!
# Tokens of joined sources

- `Token.allRead` : whether each place where a tag may start is read as a tag
- `Token.scan_append` : such a source keeps its tokens in front of any other source, unless an opening
  brace ends it
- `Token.scan_test`, `Token.scan_loop` : the tokens of a source that begins with an opener
-/

namespace StaticBlog

/-! ## Words -/

namespace Text

/-- Words with a blank in front of each, and one at the end. -/
def spaced : List (List Char) → List Char
  | [] => [' ']
  | w :: ws => ' ' :: (w ++ spaced ws)

theorem spaced_eq_cons (ws : List (List Char)) : ∃ t, spaced ws = ' ' :: t := by
  cases ws with
  | nil => exact ⟨[], rfl⟩
  | cons w ws => exact ⟨w ++ spaced ws, rfl⟩

theorem mem_spaced {ws : List (List Char)} {c : Char} :
    c ∈ spaced ws → c = ' ' ∨ ∃ w ∈ ws, c ∈ w := by
  intro h
  induction ws with
  | nil => simpa [spaced] using h
  | cons w ws ih =>
    have hparts : c = ' ' ∨ c ∈ w ∨ c ∈ spaced ws := by simpa [spaced] using h
    rcases hparts with hc | hc | hc
    · exact Or.inl hc
    · exact Or.inr ⟨w, by simp, hc⟩
    · rcases ih hc with hblank | ⟨v, hv, hcv⟩
      · exact Or.inl hblank
      · exact Or.inr ⟨v, List.mem_cons_of_mem w hv, hcv⟩

/-- Words are read as they have been written with blanks between them. -/
theorem words_spaced {ws : List (List Char)}
    (h : ∀ w ∈ ws, w ≠ [] ∧ ∀ c ∈ w, isBlank c = false) : words (spaced ws) = ws := by
  induction ws with
  | nil => decide
  | cons w ws ih =>
    have hw := h w (by simp)
    have hrest := ih fun v hv => h v (List.mem_cons_of_mem w hv)
    rcases spaced_eq_cons ws with ⟨t, ht⟩
    -- The blank in front of the next word ends this one.
    have hsplit : splitWhere isBlank (spaced (w :: ws)) = [] :: w :: splitWhere isBlank t := by
      simp only [spaced, ht, splitWhere, show isBlank ' ' = true by decide, if_true]
      rw [splitWhere_append w t (by decide), splitWhere_eq_singleton hw.2]
      rfl
    have ht' : words (spaced ws) = (splitWhere isBlank t).filter (!·.isEmpty) := by
      simp [words, ht, splitWhere, show isBlank ' ' = true by decide]
    rw [hrest] at ht'
    have hne : w.isEmpty = false := by simpa using hw.1
    simp [words, hsplit, hne, ← ht']

end Text

namespace Token

/-! ## Tags that are read -/

/-- Whether each place where a tag may start is read as a tag. `skip` counts the characters left of
the tag being passed over. -/
def allRead : (skip : Nat) → List Char → Bool
  | _, [] => true
  | skip + 1, _ :: s => allRead skip s
  | 0, c :: s =>
    match tag? (c :: s) with
    | some t => allRead (t.source.length - 1) s
    | none => !isTagStart (c :: s) && allRead 0 s

theorem tag?_eq_none {s : List Char} : isTagStart s = false → tag? s = none := by
  intro h
  unfold tag?
  split
  · simp [isTagStart] at h
  · simp [isTagStart] at h
  · rfl

/-- What a tag is read from: its mark, the characters inside, and the mark that ends it. -/
theorem cases_of_tag? {s : List Char} {t : Token} : tag? s = some t →
    (∃ inner after path, Text.breakOn? ['\x7d', '\x7d'] (s.drop 2) = some (inner, after) ∧
      path? (Text.trim inner) = some path ∧ s = '\x7b' :: '\x7b' :: s.drop 2 ∧
        t = .print path ('\x7b' :: '\x7b' :: inner ++ ['\x7d', '\x7d'])) ∨
    ∃ inner after tag, Text.breakOn? ['%', '\x7d'] (s.drop 2) = some (inner, after) ∧
      blockTag? (Text.words inner) = some tag ∧ s = '\x7b' :: '%' :: s.drop 2 ∧
        t = .block tag ('\x7b' :: '%' :: inner ++ ['%', '\x7d']) := by
  intro h
  unfold tag? at h
  split at h
  · simp only [Option.bind_eq_bind, Option.bind_eq_some_iff] at h
    rcases h with ⟨⟨inner, after⟩, hbreak, path, hpath, ht⟩
    exact Or.inl ⟨inner, after, path, hbreak, hpath, rfl, (Option.some.inj ht).symm⟩
  · simp only [Option.bind_eq_bind, Option.bind_eq_some_iff] at h
    rcases h with ⟨⟨inner, after⟩, hbreak, tag, htag, ht⟩
    exact Or.inr ⟨inner, after, tag, hbreak, htag, rfl, (Option.some.inj ht).symm⟩
  · cases h

/-- A tag is read from the characters in front of it, and no others. -/
theorem tag?_append {s : List Char} {t : Token} (u : List Char) :
    tag? s = some t → tag? (s ++ u) = some t := by
  intro h
  rcases cases_of_tag? h with ⟨inner, after, path, hbreak, hpath, hs, rfl⟩ |
    ⟨inner, after, tag, hbreak, htag, hs, rfl⟩
  · have hbreak' := Text.breakOn?_append u hbreak
    rw [hs]
    simp [tag?, hbreak', hpath]
  · have hbreak' := Text.breakOn?_append u hbreak
    rw [hs]
    simp [tag?, hbreak', htag]

/-- A text begins with the characters that its tag was read from. -/
theorem source_isPrefix_of_tag? {s : List Char} {t : Token} : tag? s = some t → t.source <+: s := by
  intro h
  rcases cases_of_tag? h with ⟨inner, after, path, hbreak, -, hs, rfl⟩ |
    ⟨inner, after, tag, hbreak, -, hs, rfl⟩
  · refine ⟨after, ?_⟩
    rw [hs, Text.eq_append_of_breakOn? hbreak]
    simp [source]
  · refine ⟨after, ?_⟩
    rw [hs, Text.eq_append_of_breakOn? hbreak]
    simp [source]

/-! ## Joined sources -/

/-- A source that no opening brace ends starts its tags without help from what follows. -/
theorem isTagStart_append {c : Char} {s : List Char} (u : List Char)
    (hlast : (c :: s).getLast? ≠ some '\x7b') :
    isTagStart (c :: s ++ u) = isTagStart (c :: s) := by
  cases s with
  | nil =>
    have hc : c ≠ '\x7b' := by simpa using hlast
    cases u <;> simp [isTagStart, hc]
  | cons c' s =>
    by_cases hc : c = '\x7b'
    · simp [isTagStart, hc]
    · have hnone : ∀ t : List Char, isTagStart (c :: t) = false := by
        intro t
        unfold isTagStart
        split
        · rename_i heq
          exact absurd (List.cons.inj heq).1 hc
        · rfl
      rw [List.cons_append, hnone, hnone]

theorem scanFrom_append (u : List Char) : ∀ (s : List Char) (skip : Nat),
    skip ≤ s.length → allRead skip s = true → s.getLast? ≠ some '\x7b' →
      scanFrom skip (s ++ u) = scanFrom skip s ++ scanFrom 0 u := by
  intro s
  induction s with
  | nil =>
    intro skip hskip _ _
    have hzero : skip = 0 := by simpa using hskip
    subst hzero
    cases u <;> simp [scanFrom]
  | cons c s ih =>
    intro skip hskip hread hlast
    have hlast' : s.getLast? ≠ some '\x7b' := by
      cases s with
      | nil => simp
      | cons c' s => simpa using hlast
    cases skip with
    | succ skip =>
      have hskip' : skip ≤ s.length := by simpa using hskip
      exact ih skip hskip' hread hlast'
    | zero =>
      cases ht : tag? (c :: s) with
      | some t =>
        have ht' := tag?_append u ht
        simp only [List.cons_append] at ht'
        -- The tag lies within the source, so passing over it ends within the source too.
        have hlen : t.source.length - 1 ≤ s.length := by
          have := (source_isPrefix_of_tag? ht).length_le
          simp only [List.length_cons] at this
          omega
        have hread' : allRead (t.source.length - 1) s = true := by simpa [allRead, ht] using hread
        have hrest := ih _ hlen hread' hlast'
        simp [scanFrom, ht, ht', hrest]
      | none =>
        have hparts : isTagStart (c :: s) = false ∧ allRead 0 s = true := by
          simpa [allRead, ht] using hread
        -- No tag starts here, and what follows the source does not make one start.
        have hstart' : isTagStart (c :: (s ++ u)) = false := by
          have := isTagStart_append u hlast
          rw [hparts.1] at this
          simpa using this
        have ht' := tag?_eq_none hstart'
        have hrest := ih 0 (Nat.zero_le _) hparts.2 hlast'
        simp [scanFrom, ht, ht', hparts.1, hstart', hrest]

/-- A source whose tags are all read, and which no opening brace ends, keeps its tokens in front of
another one. -/
theorem scan_append {s : List Char} (u : List Char) (hread : allRead 0 s = true)
    (hlast : s.getLast? ≠ some '\x7b') : scan (s ++ u) = scan s ++ scan u :=
  scanFrom_append u s 0 (Nat.zero_le _) hread hlast

/-- Passing over characters goes on with the tokens of what follows them. -/
theorem scanFrom_length_append (s u : List Char) : scanFrom s.length (s ++ u) = scanFrom 0 u := by
  induction s with
  | nil => rfl
  | cons c s ih => simpa [scanFrom] using ih

/-- A tag in front of a text is its first token, and the others are those of the text. -/
theorem scan_cons_of_tag? {tagSource u : List Char} {t : Token} (hne : tagSource ≠ [])
    (ht : tag? (tagSource ++ u) = some t) (hsource : t.source = tagSource) :
    scan (tagSource ++ u) = t :: scan u := by
  cases tagSource with
  | nil => exact absurd rfl hne
  | cons c s =>
    have hlen : t.source.length - 1 = s.length := by simp [hsource]
    simp only [List.cons_append] at ht
    simp [scan, scanFrom, ht, hlen, scanFrom_length_append]

/-! ## Names in tags -/

/-- The characters of names are none of those that cut a tag into its parts. -/
theorem isBlank_eq_false_of_isNameChar {c : Char} :
    isNameChar c = true → Text.isBlank c = false := by
  intro h
  cases hblank : Text.isBlank c with
  | false => rfl
  | true =>
    have hcode : c.toNat ∈ Text.blankCodes := Text.toNat_mem_blankCodes hblank
    -- The blank characters are few enough to look at each of them.
    have hnone : ∀ n ∈ Text.blankCodes, isNameChar (Char.ofNat n) = false := by decide +kernel
    have hc := hnone c.toNat hcode
    rw [Char.ofNat_toNat, h] at hc
    exact Bool.noConfusion hc

theorem not_cutting_of_isNameChar {c : Char} :
    isNameChar c = true → Text.isBlank c = false ∧ c ≠ '%' := by
  intro h
  refine ⟨isBlank_eq_false_of_isNameChar h, ?_⟩
  rintro rfl
  exact absurd h (by decide)

theorem isNameChar_of_isName {s : List Char} :
    isName s = true → ∀ c ∈ s, isNameChar c = true := by
  intro h
  have hall : s.all isNameChar = true := by
    simp only [isName, Bool.and_eq_true] at h
    exact h.2
  simpa using hall

/-- The characters of a path are points and those of names. -/
theorem isNameChar_of_path? {s : List Char} {path : List String} :
    path? s = some path → ∀ c ∈ s, c = '.' ∨ isNameChar c = true := by
  intro h c hc
  have hnames : (Text.splitWhere (· = '.') s).all isName = true := by
    cases hn : (Text.splitWhere (· = '.') s).all isName with
    | true => rfl
    | false => simp [path?, hn] at h
  rcases Text.mem_of_mem_splitWhere (fun c => decide (c = '.')) hc with hpoint | ⟨w, hw, hcw⟩
  · exact Or.inl (by simpa using hpoint)
  · exact Or.inr (isNameChar_of_isName (List.all_eq_true.1 hnames w hw) c hcw)

theorem not_cutting_of_path? {s : List Char} {path : List String} (h : path? s = some path) :
    ∀ c ∈ s, Text.isBlank c = false ∧ c ≠ '%' := by
  intro c hc
  rcases isNameChar_of_path? h c hc with rfl | hname
  · exact ⟨by decide, by decide⟩
  · exact not_cutting_of_isNameChar hname

theorem ne_nil_of_path? {s : List Char} {path : List String} (h : path? s = some path) : s ≠ [] := by
  rintro rfl
  simp [path?, Text.splitWhere, isName] at h

/-! ## Block tags -/

/-- The block tag that is written with the given words. -/
def blockSource (ws : List (List Char)) : List Char :=
  '\x7b' :: '%' :: (Text.spaced ws ++ ['%', '\x7d'])

theorem tag?_blockSource {ws : List (List Char)} {tag : BlockTag} (u : List Char)
    (hwords : ∀ w ∈ ws, w ≠ [] ∧ ∀ c ∈ w, Text.isBlank c = false ∧ c ≠ '%')
    (htag : blockTag? ws = some tag) :
    tag? (blockSource ws ++ u) = some (.block tag (blockSource ws)) := by
  have hpercent : '%' ∉ Text.spaced ws := by
    intro hmem
    rcases Text.mem_spaced hmem with hblank | ⟨w, hw, hc⟩
    · exact absurd hblank (by decide)
    · exact ((hwords w hw).2 _ hc).2 rfl
  -- No word has a percent sign, so the mark behind the words is the first one that ends a tag.
  have hbreak := Text.breakOn?_of_not_mem (b := '\x7d') u hpercent
  have hsplit : Text.words (Text.spaced ws) = ws :=
    Text.words_spaced fun w hw => ⟨(hwords w hw).1, fun c hc => ((hwords w hw).2 c hc).1⟩
  have hsource : blockSource ws ++ u =
      '\x7b' :: '%' :: (Text.spaced ws ++ '%' :: '\x7d' :: u) := by
    simp [blockSource]
  rw [hsource]
  simp only [tag?, hbreak, Option.bind_eq_bind, Option.bind_some, hsplit, htag]
  simp [blockSource]

/-- A block tag in front of a source is its first token. -/
theorem scan_blockSource {ws : List (List Char)} {tag : BlockTag} (u : List Char)
    (hwords : ∀ w ∈ ws, w ≠ [] ∧ ∀ c ∈ w, Text.isBlank c = false ∧ c ≠ '%')
    (htag : blockTag? ws = some tag) :
    scan (blockSource ws ++ u) = .block tag (blockSource ws) :: scan u :=
  scan_cons_of_tag? (by simp [blockSource]) (tag?_blockSource u hwords htag) rfl

/-- A name can be a word of a tag. -/
theorem word_of_isName {w : List Char} (h : isName w = true) :
    w ≠ [] ∧ ∀ c ∈ w, Text.isBlank c = false ∧ c ≠ '%' := by
  refine ⟨?_, fun c hc => not_cutting_of_isNameChar (isNameChar_of_isName h c hc)⟩
  rintro rfl
  simp [isName] at h

/-- A source behind a test has the opener as its first token. -/
theorem scan_test {s : List Char} {path : List String} (u : List Char)
    (hpath : path? s = some path) :
    scan (blockSource ["if".toList, s] ++ u) =
      .block (.test path) (blockSource ["if".toList, s]) :: scan u := by
  refine scan_blockSource u ?_ (by simp [blockTag?, hpath])
  intro w hw
  rcases List.mem_cons.1 hw with rfl | hw
  · exact word_of_isName (by decide)
  · rw [List.mem_singleton.1 hw]
    exact ⟨ne_nil_of_path? hpath, not_cutting_of_path? hpath⟩

/-- A source behind a loop has the opener as its first token. -/
theorem scan_loop {item s : List Char} {path : List String} (u : List Char)
    (hitem : isName item = true) (hpath : path? s = some path) :
    scan (blockSource ["for".toList, item, "in".toList, s] ++ u) =
      .block (.loop (String.ofList item) path) (blockSource ["for".toList, item, "in".toList, s]) ::
        scan u := by
  refine scan_blockSource u ?_ (by simp [blockTag?, hitem, hpath])
  intro w hw
  rcases List.mem_cons.1 hw with rfl | hw
  · exact word_of_isName (by decide)
  rcases List.mem_cons.1 hw with rfl | hw
  · exact word_of_isName hitem
  rcases List.mem_cons.1 hw with rfl | hw
  · exact word_of_isName (by decide)
  · rw [List.mem_singleton.1 hw]
    exact ⟨ne_nil_of_path? hpath, not_cutting_of_path? hpath⟩

/-- The end tags alone are one token each. -/
theorem scan_endTest : scan (blockSource ["endif".toList]) =
    [.block .endTest (blockSource ["endif".toList])] := by
  decide

theorem scan_endLoop : scan (blockSource ["endfor".toList]) =
    [.block .endLoop (blockSource ["endfor".toList])] := by
  decide

end Token
end StaticBlog
