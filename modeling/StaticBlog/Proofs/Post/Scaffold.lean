import StaticBlog.Proofs.Date.Meaning
import StaticBlog.Proofs.Post.Sections
import StaticBlog.Proofs.Yaml.LineTree
import StaticBlog.Proofs.Yaml.PlainText
import StaticBlog.Site.Scaffold

/-!
# New source files read back

The source file of a new post has a block of four fields and no body.

- `Text.lines_linesAfter` : the lines of a block of fields
- `Sections.ofChars_fields` : such a block between fences, with nothing behind it
- `FrontMatter.ofNode?_scaffold` : the front matter that the four fields make
- `FrontMatter.parse?_scaffold` : what the source file of a new post is read as
-/

namespace StaticBlog

/-! ## Lines -/

namespace Text

variable {s t : List Char}

theorem feed_not_mem (hs : ∀ c ∈ s, isLineBreak c = false) : '\n' ∉ s := fun h => by
  cases hs _ h

theorem withoutEnding_of_unbroken (hs : ∀ c ∈ s, isLineBreak c = false) :
    withoutEnding s = s ∧ withoutEnding (s ++ ['\n']) = s := by
  have hlast : s.getLast? ≠ some '\r' := fun h => by cases hs '\r' (List.mem_of_getLast? h)
  exact ⟨withoutEnding_of_not_mem (feed_not_mem hs),
    (withoutEnding_append_feed s).trans (if_neg hlast)⟩

theorem lines_of_unbroken (hs : ∀ c ∈ s, isLineBreak c = false) (hne : s ≠ []) :
    lines s = [s] := by
  simp [lines, linesKept_of_not_mem hne (feed_not_mem hs), (withoutEnding_of_unbroken hs).1]

theorem lines_append_feed (hs : ∀ c ∈ s, isLineBreak c = false) (t : List Char) :
    lines (s ++ '\n' :: t) = s :: lines t := by
  simp [lines, linesKept_append_feed (feed_not_mem hs), (withoutEnding_of_unbroken hs).2]

/-- The lines of fields that stand behind another line. -/
theorem lines_linesAfter {fs : List Yaml.BareField} (hs : ∀ c ∈ s, isLineBreak c = false)
    (hne : s ≠ []) (hfs : ∀ f ∈ fs, f.chars ≠ [] ∧ ∀ c ∈ f.chars, isLineBreak c = false) :
    lines (s ++ Yaml.linesAfter fs) = s :: fs.map Yaml.BareField.chars := by
  induction fs generalizing s with
  | nil => simpa [Yaml.linesAfter] using lines_of_unbroken hs hne
  | cons f fs ih =>
    obtain ⟨⟨hf, hunbroken⟩, hfs'⟩ := List.forall_mem_cons.1 hfs
    have hsplit : s ++ Yaml.linesAfter (f :: fs) =
        s ++ '\n' :: (f.chars ++ Yaml.linesAfter fs) := by
      simp [Yaml.linesAfter]
    rw [hsplit, lines_append_feed hs, ih hunbroken hf hfs', List.map_cons]

end Text

/-! ## Blocks of fields -/

namespace Yaml

variable {c : Char} {name t : List Char} {f : BareField} {fs : List BareField}

theorem isLineBreak_of_isBreak (h : isBreak c = false) : Text.isLineBreak c = false := by
  simp only [isBreak, Bool.or_eq_false_iff] at h
  simp [Text.isLineBreak, decide_eq_false_iff_not.1 h.1.1.1.1, decide_eq_false_iff_not.1 h.1.1.1.2]

theorem isLineBreak_of_isAlphanum (h : c.isAlphanum = true) : Text.isLineBreak c = false := by
  simp [Text.isLineBreak, ne_of_isAlphanum h]

theorem IsWord.isLineBreak {w : List Char} (hw : IsWord w) (h : c ∈ w) :
    Text.isLineBreak c = false :=
  isLineBreak_of_isBreak (Bool.or_eq_false_iff.1 (hw.unbroken c h)).2

theorem isLineBreak_of_mem_intercalate {w : List Char} {ws : List (List Char)} (hw : IsWord w)
    (hws : ∀ v ∈ ws, IsWord v) (h : c ∈ List.intercalate [' '] (w :: ws)) :
    Text.isLineBreak c = false := by
  induction ws generalizing w with
  | nil =>
    rw [List.intercalate_singleton] at h
    exact hw.isLineBreak h
  | cons v ws ih =>
    obtain ⟨hv, hws'⟩ := List.forall_mem_cons.1 hws
    rw [List.intercalate_cons_cons, List.mem_append, List.mem_append, List.mem_singleton] at h
    rcases h with (h | rfl) | h
    · exact hw.isLineBreak h
    · rfl
    · exact ih hv hws' h

/-- A field takes one line. -/
theorem BareField.IsProper.unbroken (hf : f.IsProper) :
    f.chars ≠ [] ∧ ∀ c ∈ f.chars, Text.isLineBreak c = false := by
  obtain ⟨name, value⟩ := f
  refine ⟨by simp [chars], fun c hc => ?_⟩
  simp only [chars, List.mem_append, List.mem_cons] at hc
  rcases hc with hc | rfl | rfl | hc
  · exact isLineBreak_of_isAlphanum (hf.name.letters c hc)
  · rfl
  · rfl
  · cases value with
    | words w ws => exact isLineBreak_of_mem_intercalate hf.value.1.toIsWord hf.value.2 hc
    | emptyList =>
      simp only [BareValue.chars, List.mem_cons, List.not_mem_nil, or_false] at hc
      rcases hc with rfl | rfl <;> rfl

/-- A JSON string takes one line. -/
theorem isLineBreak_of_mem_quote (h : c ∈ Json.quote t) : Text.isLineBreak c = false := by
  have hcontrol : 32 ≤ c.toNat := by
    simp only [Json.quote, List.mem_append, List.mem_cons, List.mem_flatMap, List.not_mem_nil,
      or_false] at h
    rcases h with (rfl | ⟨d, -, hc⟩) | rfl
    · decide
    · cases hd : isEscaped d with
      | true => exact (printable_of_mem_quoteChar hd hc).1
      | false =>
        rw [quoteChar_eq_self hd, List.mem_singleton] at hc
        simp only [isEscaped, Bool.or_eq_false_iff, decide_eq_false_iff_not, Nat.not_lt] at hd
        exact hc ▸ hd.2
    · decide
  have hne : ∀ d : Char, d.toNat < 32 → c ≠ d := by
    rintro d hd rfl
    exact absurd hcontrol (Nat.not_le.2 hd)
  simp [Text.isLineBreak, hne '\n' (by decide), hne '\r' (by decide)]

/-- The first line of a block of fields. -/
def firstLine (name t : List Char) : List Char := name ++ ':' :: ' ' :: Json.quote t

theorem lines_quotedLines (hname : IsName name) (hfs : ∀ f ∈ fs, f.IsProper) (t : List Char) :
    Text.lines (quotedLines name t fs) = firstLine name t :: fs.map BareField.chars := by
  have hfirst : ∀ c ∈ firstLine name t, Text.isLineBreak c = false := by
    intro c hc
    simp only [firstLine, List.mem_append, List.mem_cons] at hc
    rcases hc with hc | rfl | rfl | hc
    · exact isLineBreak_of_isAlphanum (hname.letters c hc)
    · rfl
    · rfl
    · exact isLineBreak_of_mem_quote hc
  have hsplit : quotedLines name t fs = firstLine name t ++ linesAfter fs := by
    simp [quotedLines, firstLine]
  rw [hsplit, Text.lines_linesAfter hfirst (by simp [firstLine]) fun f hf => (hfs f hf).unbroken]

/-- No line of a block of fields begins with a fence. -/
theorem not_fence_prefix_of_mem_linesKept (hname : IsName name) (hfs : ∀ f ∈ fs, f.IsProper)
    {line : List Char} (h : line ∈ Text.linesKept (quotedLines name t fs)) :
    ¬ Sections.fence <+: line := by
  have hmem : Text.withoutEnding line ∈ firstLine name t :: fs.map BareField.chars := by
    rw [← lines_quotedLines hname hfs]
    exact List.mem_map_of_mem h
  -- Each line begins with the name of its field.
  obtain ⟨first, rest, hfirst, hline⟩ : ∃ first rest, IsName first ∧
      Text.withoutEnding line = first ++ rest := by
    rcases List.mem_cons.1 hmem with hline | hline
    · exact ⟨name, _, hname, hline⟩
    · obtain ⟨f, hf, hline⟩ := List.mem_map.1 hline
      exact ⟨f.name, _, (hfs f hf).name, hline.symm⟩
  obtain ⟨tail, htail⟩ := Text.withoutEnding_prefix_self line
  obtain ⟨c, first, rfl⟩ := List.exists_cons_of_ne_nil hfirst.ne_nil
  rw [← htail, hline]
  rintro ⟨behind, hfence⟩
  have hc : '-' = c := (List.cons.inj hfence).1
  exact ne_of_isAlphanum (hfirst.letters c List.mem_cons_self) rfl hc.symm

end Yaml

namespace Sections

/-- A block of fields between fences, with nothing behind it. -/
theorem ofChars_fields {name t : List Char} {fs : List Yaml.BareField} (hname : Yaml.IsName name)
    (hfs : ∀ f ∈ fs, f.IsProper) (hfield : ∃ f ∈ fs, isFieldLine f.chars = true) :
    ofChars ("---\n".toList ++ (Yaml.quotedLines name t fs ++ "\n---\n\n".toList)) =
      ⟨some (Yaml.quotedLines name t fs), []⟩ := by
  have hhas : hasField (Yaml.quotedLines name t fs) = true := by
    obtain ⟨f, hf, hline⟩ := hfield
    rw [hasField, Yaml.lines_quotedLines hname hfs, List.any_eq_true]
    exact ⟨f.chars, List.mem_cons_of_mem _ (List.mem_map_of_mem hf), hline⟩
  have htrim := trim_ne_nil_of_hasField hhas
  have hne : Yaml.quotedLines name t fs ≠ [] := by
    intro h
    rw [h] at htrim
    exact htrim rfl
  -- The block begins with a name, and so with no line break.
  have hunbroken : BeginsUnbroken (Yaml.quotedLines name t fs) := by
    intro c hc
    obtain ⟨d, w, rfl⟩ := List.exists_cons_of_ne_nil hname.ne_nil
    obtain rfl : d = c := Option.some.inj hc
    exact Yaml.isLineBreak_of_isAlphanum (hname.letters d List.mem_cons_self)
  have hbreaks : ∀ c ∈ ['\n', '\n'], Text.isLineBreak c = true := by simp [Text.isLineBreak]
  have hfenced : IsFenced ([] ++ (([] ++ fence ++ ['\n']) ++ (Yaml.quotedLines name t fs ++
      (((if Yaml.quotedLines name t fs = [] then [] else ['\n']) ++ fence ++ ['\n', '\n']) ++ []))))
      (Yaml.quotedLines name t fs) [] :=
    .intro (Or.inl rfl) (.intro (by simp) (by simp [Text.isLineBreak]) (Or.inl rfl))
      (.intro hbreaks) hunbroken (by simp [BeginsUnbroken])
      fun line => Yaml.not_fence_prefix_of_mem_linesKept hname hfs
  have hsections := ofChars_of_isFenced hfenced
  rw [if_neg htrim, if_pos hhas, if_neg hne] at hsections
  simpa [fence] using hsections

end Sections

/-! ## The source file of a new post -/

/-- The fields behind the title of a new post. -/
def scaffoldFields (now : Moment) : List Yaml.BareField :=
  [⟨"date".toList, .words now.dayChars [now.clockChars]⟩, ⟨"categories".toList, .emptyList⟩,
    ⟨"tags".toList, .emptyList⟩]

theorem scaffold_eq (title : String) (now : Moment) :
    (scaffold title now).toList = "---\n".toList ++
      (Yaml.quotedLines "title".toList title.toList (scaffoldFields now) ++
        "\n---\n\n".toList) := by
  rw [scaffold, Moment.format_toSecond]
  simp [Yaml.quotedLines, Yaml.linesAfter, scaffoldFields, Yaml.BareField.chars,
    Yaml.BareValue.chars, List.intercalate_cons_cons, List.intercalate_singleton]

/-- The characters of dates and times are those of a plain scalar. -/
theorem isPlain_of_mem_date {c : Char} (h : c.isDigit = true ∨ c = '-' ∨ c = '+' ∨ c = ':') :
    (Yaml.isBlank c || Yaml.isBreak c) = false ∧ c ≠ '#' ∧ c ≠ '\ufeff' ∧
      Yaml.isAllowed c = true := by
  rcases h with h | rfl | rfl | rfl
  · have halpha : c.isAlphanum = true := by simp [Char.isAlphanum, h]
    have hrange : 0x30 ≤ c.toNat ∧ c.toNat ≤ 0x39 := by
      simpa [Char.isDigit, UInt32.le_iff_toNat_le] using h
    refine ⟨?_, Yaml.ne_of_isAlphanum halpha rfl, Yaml.ne_of_isAlphanum halpha rfl,
      Yaml.isAllowed_of_printable (by omega)⟩
    simp [Yaml.isBlank, Yaml.isBreak, Yaml.ne_of_isAlphanum halpha]
  · decide
  · decide
  · decide

namespace Moment

theorem isPlain_of_mem_dayChars {m : Moment} {c : Char} (h : c ∈ m.dayChars) :
    (Yaml.isBlank c || Yaml.isBreak c) = false ∧ c ≠ '#' ∧ c ≠ '\ufeff' ∧
      Yaml.isAllowed c = true :=
  isPlain_of_mem_date ((mem_dayChars h).imp_right fun h => h.imp_right Or.inl)

theorem isPlain_of_mem_clockChars {m : Moment} {c : Char} (h : c ∈ m.clockChars) :
    (Yaml.isBlank c || Yaml.isBreak c) = false ∧ c ≠ '#' ∧ c ≠ '\ufeff' ∧
      Yaml.isAllowed c = true :=
  isPlain_of_mem_date ((mem_clockChars h).imp_right fun h => Or.inr (Or.inr h))

theorem isFirstWord_dayChars (m : Moment) : Yaml.IsFirstWord m.dayChars where
  ne_nil := m.dayChars_ne_nil
  unbroken := fun c hc => (isPlain_of_mem_dayChars hc).1
  head := fun h => (isPlain_of_mem_dayChars (List.mem_of_head? h)).2.1 rfl
  last := fun h => by simpa using mem_dayChars (List.mem_of_getLast? h)
  mark := fun h => (isPlain_of_mem_dayChars (List.mem_of_head? h)).2.2.1 rfl
  starts := by
    obtain ⟨c, v, hday⟩ := List.exists_cons_of_ne_nil m.dayChars_ne_nil
    rcases mem_dayChars (hday ▸ List.mem_cons_self) with h | rfl | rfl
    · have halpha : c.isAlphanum = true := by simp [Char.isAlphanum, h]
      exact Or.inl ⟨c, v, hday, by simp [Yaml.ScanState.isIndicator, Yaml.ne_of_isAlphanum halpha]⟩
    · -- A year before the first one: the digits follow its sign.
      refine Or.inr ⟨v, ?_, hday⟩
      rintro rfl
      have hlength := congrArg List.length hday
      simp [dayChars] at hlength
    · exact Or.inl ⟨'+', v, hday, by decide⟩

theorem isWord_clockChars (m : Moment) : Yaml.IsWord m.clockChars where
  ne_nil := m.clockChars_ne_nil
  unbroken := fun c hc => (isPlain_of_mem_clockChars hc).1
  head := fun h => (isPlain_of_mem_clockChars (List.mem_of_head? h)).2.1 rfl
  last := by
    have hne : Text.fixed 2 m.time.second ≠ [] := Text.fixed_ne_nil (by decide)
    rw [clockChars, List.append_cons, List.getLast?_append, List.getLast?_eq_some_getLast hne,
      Option.some_or]
    intro h
    have hdigit := Text.isDigit_of_mem_fixed (List.getLast_mem hne)
    rw [Option.some.inj h] at hdigit
    cases hdigit

end Moment

/-- The names of the fields of a new post. -/
theorem isName_of_mem {name : List Char}
    (h : name ∈ ["title".toList, "date".toList, "categories".toList, "tags".toList]) :
    Yaml.IsName name := by
  simp only [List.mem_cons, List.not_mem_nil, or_false] at h
  rcases h with rfl | rfl | rfl | rfl <;>
    exact ⟨by simp, List.all_eq_true.1 (by decide), by decide⟩

theorem isProper_of_mem_scaffoldFields {now : Moment} {f : Yaml.BareField}
    (hf : f ∈ scaffoldFields now) : f.IsProper := by
  have hdate : (Yaml.BareValue.words now.dayChars [now.clockChars]).IsPlain :=
    ⟨now.isFirstWord_dayChars, by simpa using now.isWord_clockChars⟩
  simp only [scaffoldFields, List.mem_cons, List.not_mem_nil, or_false] at hf
  rcases hf with rfl | rfl | rfl
  · exact ⟨isName_of_mem (by simp), hdate⟩
  · exact ⟨isName_of_mem (by simp), trivial⟩
  · exact ⟨isName_of_mem (by simp), trivial⟩

theorem isAllowed_scaffoldFields (now : Moment) :
    ("title".toList ++ Yaml.linesAfter (scaffoldFields now)).all Yaml.isAllowed = true := by
  have hday : now.dayChars.all Yaml.isAllowed = true :=
    List.all_eq_true.2 fun c hc => (Moment.isPlain_of_mem_dayChars hc).2.2.2
  have hclock : now.clockChars.all Yaml.isAllowed = true :=
    List.all_eq_true.2 fun c hc => (Moment.isPlain_of_mem_clockChars hc).2.2.2
  have htext : "title".toList ++ Yaml.linesAfter (scaffoldFields now) =
      "title\ndate: ".toList ++ (now.dayChars ++ (" ".toList ++ (now.clockChars ++
        "\ncategories: []\ntags: []".toList))) := by
    simp [Yaml.linesAfter, scaffoldFields, Yaml.BareField.chars, Yaml.BareValue.chars,
      List.intercalate_cons_cons, List.intercalate_singleton]
  rw [htext]
  simp only [List.all_append, hday, hclock, Bool.true_and, Bool.and_eq_true]
  decide

namespace FrontMatter

theorem looseText?_quoted (text : String) :
    looseText? (.scalar none text .quoted) = some (some text) := by
  simp [looseText?, Yaml.Node.optional?, Yaml.Node.isNothing?, Yaml.Node.value?, Yaml.withTag?,
    Yaml.ownTag?, Yaml.bareScalar?, Yaml.scalarText?]

theorem looseText?_plain {s : List Char} (h : ' ' ∈ s) :
    looseText? (.scalar none (String.ofList s) .plain) = some (some (String.ofList s)) := by
  have hempty : String.ofList s ≠ "" := Yaml.ofList_ne_of_mem_space h (by simp)
  simp [looseText?, Yaml.Node.optional?, Yaml.Node.isNothing?, Yaml.Node.value?, Yaml.withTag?,
    Yaml.ownTag?, Yaml.bareScalar?, Yaml.ofMeaning?, Yaml.scalarText?, hempty,
    Yaml.isNullWord_of_mem_space h, Yaml.plainMeaning_of_mem_space h]

theorem looseTexts?_nil : looseTexts? (.sequence none []) = some [] := by
  simp [looseTexts?, Yaml.Node.optional?, Yaml.Node.isNothing?, Yaml.Node.value?,
    Yaml.Node.values?, Yaml.withTag?, Yaml.ownTag?]

/-- The front matter of a new post: a title, a date, and two lists of nothing. -/
def ofScaffold (title : String) (now : Moment) : FrontMatter :=
  { title := some title, date := some (now.format "YYYY-MM-DD HH:mm:ss") }

theorem ofNode?_scaffoldFields (u : List Char) (now : Moment) :
    ofNode? (Yaml.pairsNode (Yaml.quotedPairs "title".toList u (scaffoldFields now))).node =
      some (ofScaffold (String.ofList u) now) := by
  rw [ofScaffold, Moment.format_toSecond]
  have hspace : ' ' ∈ now.dayChars ++ ' ' :: now.clockChars := by simp
  have hdate := looseText?_plain hspace
  have hmembers : (Yaml.pairsNode
      (Yaml.quotedPairs "title".toList u (scaffoldFields now))).node.members? =
      some [("title", .scalar none (String.ofList u) .quoted),
        ("date", .scalar none (String.ofList (now.dayChars ++ ' ' :: now.clockChars)) .plain),
        ("categories", .sequence none []), ("tags", .sequence none [])] := by
    simp [Yaml.Node.members?, Yaml.pairsNode, Yaml.quotedPairs, scaffoldFields, Yaml.bareScalar,
      Yaml.BareField.composed, Yaml.BareValue.composed, Yaml.Node.scalarText?,
      List.intercalate_cons_cons, List.intercalate_singleton]
  have hdistinct : areDistinct ["title", "date", "categories", "tags"] = true := by decide
  rw [ofNode?, hmembers]
  generalize String.ofList (now.dayChars ++ ' ' :: now.clockChars) = date at hdate ⊢
  simp [hdistinct, withField?, looseText?_quoted, hdate, looseTexts?_nil]

/-- The source file of a new post has front matter and no body, if its title can be read. -/
theorem parse?_scaffold (title : String) (now : Moment) :
    ∃ read : Option (List Char),
      (read = some title.toList ↔
        title.toList.all Yaml.isWritable = true ∧ Yaml.Unfolded title.toList) ∧
      parse? (scaffold title now).toList =
        read.map fun u => (ofScaffold (String.ofList u) now, []) := by
  have hname : Yaml.IsName "title".toList := isName_of_mem (by simp)
  have hfs : ∀ f ∈ scaffoldFields now, f.IsProper := fun f => isProper_of_mem_scaffoldFields
  have hfield : ∃ f ∈ scaffoldFields now, Sections.isFieldLine f.chars = true :=
    ⟨⟨"tags".toList, .emptyList⟩, by simp [scaffoldFields], by decide⟩
  obtain ⟨read, hsame, hparse⟩ :=
    Yaml.parse?_quotedLines hname hfs (isAllowed_scaffoldFields now) title.toList
  refine ⟨read, hsame, ?_⟩
  rw [parse?, scaffold_eq, Sections.ofChars_fields hname hfs hfield]
  simp only [ofBlock?, hparse]
  cases read with
  | none => rfl
  | some u => simp only [Option.map_some, Option.bind_some, ofNode?_scaffoldFields]

/-- What a new post with a title is read as: a date that can be read, lists of nothing, no body. -/
def IsNewPost (text title : String) : Prop :=
  ∃ f date m, parse? text.toList = some (f, []) ∧ f.title = some title ∧ f.categories = [] ∧
    f.tags = [] ∧ f.date = some date ∧ Moment.parse? date = some m

/-- Whether a title can be read as it is written: YAML allows its characters, and folds none. -/
def KeepsTitle (title : String) : Prop :=
  title.toList.all Yaml.isWritable = true ∧ Yaml.Unfolded title.toList

/-- The source file of a new post is read as one with its title if the title can be read. -/
theorem isNewPost_scaffold_iff {now : Moment} (hyear : isYear now.date.year = true)
    (title : String) : IsNewPost (scaffold title now) title ↔ KeepsTitle title := by
  obtain ⟨read, hsame, hparse⟩ := parse?_scaffold title now
  obtain ⟨m, hdate⟩ := Option.isSome_iff_exists.1 (now.isSome_parse?_format hyear)
  rw [KeepsTitle, ← hsame]
  constructor
  · rintro ⟨f, -, -, hfile, htitle, -⟩
    rw [hparse] at hfile
    obtain ⟨u, rfl, heq⟩ := Option.map_eq_some_iff.1 hfile
    obtain ⟨rfl, -⟩ := Prod.mk.inj heq
    have hu : String.ofList u = title := Option.some.inj htitle
    rw [← hu, String.toList_ofList]
  · intro hread
    rw [hread, Option.map_some, String.ofList_toList] at hparse
    exact ⟨ofScaffold title now, _, m, hparse, rfl, rfl, rfl, rfl, hdate⟩

end FrontMatter
end StaticBlog
