import StaticBlog.Proofs.Markdown.RepairedLines

/-!
# Escaped asterisks in a repaired text

Escaped asterisks are written as entities first, and an open emphasis is closed afterwards. Since an
entity ends in a semicolon, one with a blank or nothing behind it looks like the end of a sentence,
and the closing mark is then put into the entity.

- `Glyph`, `glyphs` : a line as characters and escaped asterisks
- `escapeStars_eq` : escaping writes each escaped asterisk as an entity
- `KeepsEntities` : a line after repair with all its entities intact
- `SplitsEntity` : the lines in which the closing mark goes into an entity
- `keepsEntities_repairLine_iff`, `keepsEntities_repairChars_iff` : those are the only ones
-/

namespace StaticBlog
namespace Repair

/-! ## Escaped asterisks -/

/-- A character of a line, or an asterisk that is escaped in it. -/
inductive Glyph
  | char (c : Char)
  | star
  deriving DecidableEq, Repr

def Glyph.written : Glyph → List Char
  | .char c => [c]
  | .star => starEntity

/-- Characters as they are, and escaped asterisks as entities. -/
def written (gs : List Glyph) : List Char := gs.flatMap Glyph.written

/-- The characters and escaped asterisks of a line. Behind a backslash up to two asterisks are
escaped. -/
def glyphs : List Char → List Glyph
  | '\\' :: '*' :: '*' :: s => .star :: .star :: glyphs s
  | '\\' :: '*' :: s => .star :: glyphs s
  | c :: s => .char c :: glyphs s
  | [] => []

variable {gs front back : List Glyph} {s : List Char}

@[simp] theorem written_nil : written [] = [] := rfl

@[simp] theorem written_cons (g : Glyph) (gs : List Glyph) :
    written (g :: gs) = g.written ++ written gs := List.flatMap_cons

@[simp] theorem written_append (front back : List Glyph) :
    written (front ++ back) = written front ++ written back := List.flatMap_append

/-! ### Two passes as one -/

/-- The text after the first pass, in which two asterisks behind a backslash are escaped. -/
def escapePairs (s : List Char) : List Char :=
  Text.replaceFrom ['\\', '*', '*'] (starEntity ++ starEntity) 0 s

theorem escapeStars_eq_replaceFrom (s : List Char) :
    escapeStars s = Text.replaceFrom ['\\', '*'] starEntity 0 (escapePairs s) := rfl

theorem escapeStars_pair (s : List Char) :
    escapeStars ('\\' :: '*' :: '*' :: s) = starEntity ++ (starEntity ++ escapeStars s) := by
  have hfirst : escapePairs ('\\' :: '*' :: '*' :: s) = starEntity ++ starEntity ++ escapePairs s :=
    Text.replaceFrom_pattern_append (List.cons_ne_nil _ _) s
  rw [escapeStars_eq_replaceFrom, hfirst, Text.replaceFrom_append_of_not_mem (by decide),
    ← escapeStars_eq_replaceFrom, List.append_assoc]

theorem escapePairs_cons {c : Char} (h : ¬['\\', '*', '*'] <+: c :: s) :
    escapePairs (c :: s) = c :: escapePairs s := by
  have hprefix : ¬['\\', '*', '*'].isPrefixOf (c :: s) = true :=
    fun hfound => h (List.isPrefixOf_iff_prefix.1 hfound)
  rw [escapePairs, Text.replaceFrom, if_neg hprefix]
  rfl

theorem escapeStars_single (h : s.head? ≠ some '*') :
    escapeStars ('\\' :: '*' :: s) = starEntity ++ escapeStars s := by
  have hpair : ¬['\\', '*', '*'] <+: '\\' :: '*' :: s := by
    rintro ⟨rest, hrest⟩
    cases hrest
    exact h rfl
  have hfirst : escapePairs ('\\' :: '*' :: s) = ['\\', '*'] ++ escapePairs s := by
    rw [escapePairs_cons hpair, escapePairs_cons (by simp)]
    rfl
  rw [escapeStars_eq_replaceFrom, hfirst, Text.replaceFrom_pattern_append (List.cons_ne_nil _ _),
    ← escapeStars_eq_replaceFrom]

theorem escapeStars_cons {c : Char} (h : ¬['\\', '*'] <+: c :: s) :
    escapeStars (c :: s) = c :: escapeStars s := by
  have hpair : ¬['\\', '*', '*'] <+: c :: s := by
    rintro ⟨rest, hrest⟩
    exact h ⟨'*' :: rest, hrest⟩
  -- The first pass puts no asterisk behind the character.
  have hprefix : ¬['\\', '*'].isPrefixOf (c :: escapePairs s) = true := by
    intro hfound
    rcases List.isPrefixOf_iff_prefix.1 hfound with ⟨rest, hrest⟩
    rcases List.cons.inj hrest with ⟨rfl, htail⟩
    have hhead : (escapePairs s).head? = some '*' := by
      rw [← htail]
      rfl
    rcases Text.head?_replaceFrom (p := ['\\', '*', '*']) (s := s)
      (show starEntity ++ starEntity ≠ [] by decide) with hsame | hput
    · rcases List.head?_eq_some_iff.1 (hsame.symm.trans hhead) with ⟨tail, rfl⟩
      exact h ⟨tail, rfl⟩
    · cases hput.symm.trans hhead
  rw [escapeStars_eq_replaceFrom, escapePairs_cons hpair, Text.replaceFrom, if_neg hprefix]
  rfl

/-- Escaping writes each escaped asterisk as an entity. -/
theorem escapeStars_eq (line : List Char) : escapeStars line = written (glyphs line) := by
  fun_induction glyphs line with
  | case1 s ih => rw [escapeStars_pair, ih, written_cons, written_cons, Glyph.written]
  | case2 s hpair ih =>
    have hhead : s.head? ≠ some '*' := by
      intro h
      rcases List.head?_eq_some_iff.1 h with ⟨tail, rfl⟩
      exact hpair tail rfl
    rw [escapeStars_single hhead, ih, written_cons, Glyph.written]
  | case3 c s hpair hsingle ih =>
    have hstar : ¬['\\', '*'] <+: c :: s := by
      rintro ⟨tail, htail⟩
      rcases List.cons.inj htail with ⟨rfl, rfl⟩
      exact hsingle tail rfl rfl
    rw [escapeStars_cons hstar, ih, written_cons, Glyph.written, List.singleton_append]
  | case4 => rfl

/-! ## Cuts through a written line -/

/-- A written line is cut between two glyphs, or within an entity. -/
theorem exists_cut {u v : List Char} (h : written gs = u ++ v) :
    (∃ front back, gs = front ++ back ∧ u = written front ∧ v = written back) ∨
      ∃ front back x y, gs = front ++ .star :: back ∧ starEntity = x ++ y ∧ x ≠ [] ∧ y ≠ [] ∧
        u = written front ++ x ∧ v = y ++ written back := by
  induction gs generalizing u with
  | nil =>
    rcases List.append_eq_nil_iff.1 h.symm with ⟨rfl, rfl⟩
    exact Or.inl ⟨[], [], rfl, rfl, rfl⟩
  | cons g gs ih =>
    rw [written_cons] at h
    rcases List.append_eq_append_iff.1 h with ⟨z, rfl, hz⟩ | ⟨z, hg, rfl⟩
    · rcases ih hz with ⟨front, back, rfl, rfl, rfl⟩ |
        ⟨front, back, x, y, rfl, hxy, hx, hy, rfl, rfl⟩
      · exact Or.inl ⟨g :: front, back, rfl, by simp, rfl⟩
      · exact Or.inr ⟨g :: front, back, x, y, rfl, hxy, hx, hy, by simp, rfl⟩
    · by_cases hu : u = []
      · subst hu
        exact Or.inl ⟨[], g :: gs, rfl, rfl, by simp [hg]⟩
      · by_cases hz : z = []
        · subst hz
          exact Or.inl ⟨[g], gs, rfl, by simp [hg], rfl⟩
        · cases g with
          | star => exact Or.inr ⟨[], gs, u, z, rfl, hg, hu, hz, rfl, rfl⟩
          -- A character has no two parts.
          | char c =>
            have hlength := congrArg List.length hg
            have hupos := List.length_pos_iff.2 hu
            have hzpos := List.length_pos_iff.2 hz
            rw [List.length_append, Glyph.written, List.length_singleton] at hlength
            omega

/-! ## Entities after repair -/

/-- Whether a line after repair has its entities intact: it is as it was written, or a mark has been
put between two glyphs. -/
def KeepsEntities (gs : List Glyph) (out : List Char) : Prop :=
  out = written gs ∨
    ∃ front back, gs = front ++ back ∧ out = written front ++ (strongMark ++ written back)

/-- An entity that is taken for the end of a sentence: the marks are odd in number, the last one is
followed by no asterisk or sentence break up to the entity, and the entity by a blank or nothing. -/
structure SplitsAt (front text back : List Glyph) : Prop where
  odd : Text.occurrences strongMark (written (front ++ (text ++ .star :: back))) % 2 = 1
  mark : strongMark <:+ written front
  last : ¬strongMark <:+: '*' :: written (text ++ .star :: back)
  runsOn : RunsOn (written text) (written (.star :: back))
  blank : ∀ c ∈ (written back).head?, Text.isBlank c = true

/-- Whether repair puts the closing mark of a line into an entity. -/
def SplitsEntity (gs : List Glyph) : Prop :=
  ∃ front text back, gs = front ++ (text ++ .star :: back) ∧ SplitsAt front text back

/-! ### Closing points in entities -/

/-- The entity of an asterisk without its semicolon. -/
def entityFront : List Char := ['&', '#', '4', '2']

theorem written_star_cons (back : List Glyph) :
    written (.star :: back) = entityFront ++ ';' :: written back := rfl

theorem isSentenceBreak_eq_false {c : Char} (hwide : isWidePunctuation c = false)
    (hmark : isSentencePunctuation c = false) (s : List Char) : isSentenceBreak c s = false := by
  simp only [isSentenceBreak, hwide, hmark, Bool.false_and, Bool.or_self]

theorem isSentenceBreak_semicolon :
    isSentenceBreak ';' s = true ↔ ∀ c ∈ s.head?, Text.isBlank c = true := by
  cases s <;> simp [isSentenceBreak, isWidePunctuation, isSentencePunctuation]

/-- Up to its semicolon an entity is neither the end of a sentence nor a mark. -/
theorem runsOn_entityFront (after : List Char) : RunsOn entityFront after := by
  intro x c y hsplit
  have hc : c ∈ entityFront := hsplit ▸ List.mem_append_right x List.mem_cons_self
  have hplain : ∀ d ∈ entityFront, d ≠ '*' ∧ isWidePunctuation d = false ∧
      isSentencePunctuation d = false := by
    simp [entityFront, isWidePunctuation, isSentencePunctuation]
  rcases hplain c hc with ⟨hne, hwide, hmark⟩
  exact ⟨hne, isSentenceBreak_eq_false hwide hmark _⟩

/-- The closing point of a line with such an entity is in front of its semicolon. -/
theorem SplitsAt.closingPoint {text : List Glyph} (h : SplitsAt front text back) :
    ∃ before, written front = before ++ strongMark ∧
      ClosingPoint (written (front ++ (text ++ .star :: back))) before
        (written text ++ entityFront) (';' :: written back) := by
  rcases h.mark with ⟨before, hbefore⟩
  have hlast := h.last
  rw [written_append, written_star_cons, ← List.append_assoc] at hlast
  refine ⟨before, hbefore.symm, ?_, hlast, by simp [entityFront],
    runsOn_append.2 ⟨h.runsOn, runsOn_entityFront _⟩,
    Or.inl ⟨';', _, rfl, isSentenceBreak_semicolon.2 h.blank⟩⟩
  rw [written_append, written_append, written_star_cons, ← hbefore]
  simp only [List.append_assoc]

/-- Of the characters behind the first one of an entity only the semicolon can be at a closing
point. -/
theorem ClosingPoint.eq_of_starEntity_eq {before text x y rest : List Char} {d : Char}
    (h : ClosingPoint s before text (d :: rest)) (hxy : starEntity = x ++ d :: y) (hx : x ≠ []) :
    x = entityFront ∧ d = ';' ∧ y = [] ∧ isSentenceBreak ';' rest = true := by
  have hcases : (d = '#' ∨ d = '4' ∨ d = '2') ∨ x = ['&', '#', '4', '2'] ∧ d = ';' ∧ y = [] := by
    rw [starEntity_eq] at hxy
    simp only [List.cons_eq_append_iff, List.nil_eq_append_iff, List.cons.injEq] at hxy
    grind
  have hblank : Text.isBlank d = false := by
    rcases hcases with (rfl | rfl | rfl) | ⟨-, rfl, -⟩ <;> decide
  rcases h.stop with ⟨c, s, hc, hbreak⟩ | ⟨-, htrim⟩
  · cases hc
    rcases hcases with hplain | ⟨rfl, rfl, rfl⟩
    · have hnone : isSentenceBreak d rest = false := by
        rcases hplain with rfl | rfl | rfl <;>
          exact isSentenceBreak_eq_false (by decide) (by decide) rest
      rw [hnone] at hbreak
      cases hbreak
    · exact ⟨rfl, rfl, rfl, hbreak⟩
  · rw [h.blank_of_trimEnd_eq htrim d List.mem_cons_self] at hblank
    cases hblank

theorem mem_of_append_strongMark {s t u : List Char} (h : s ++ strongMark = t ++ u)
    (hu : u ≠ []) : '*' ∈ u := by
  have hlast : u.getLast? = some '*' := by
    rw [← List.getLast?_append_of_ne_nil t hu, ← h]
    simp [strongMark]
  exact List.mem_of_getLast? hlast

/-- A text that begins behind a mark does not begin within an entity. -/
theorem exists_text_of_append {before text w : List Char}
    (h : (before ++ strongMark) ++ text = w ++ entityFront) :
    ∃ z, w = (before ++ strongMark) ++ z ∧ text = z ++ entityFront := by
  rcases List.append_eq_append_iff.1 h with ⟨z, hz, htext⟩ | ⟨z, hz, hfront⟩
  · exact ⟨z, hz, htext⟩
  · by_cases hnil : z = []
    · subst hnil
      exact ⟨[], by simpa using hz.symm, by simpa using hfront.symm⟩
    · have hmem : '*' ∈ entityFront :=
        hfront ▸ List.mem_append_left text (mem_of_append_strongMark hz hnil)
      exact absurd hmem (by decide)

/-- Behind a mark a written line is cut between two glyphs. -/
theorem exists_glyphs_of_append {before z : List Char}
    (h : written gs = (before ++ strongMark) ++ z) :
    ∃ front text, gs = front ++ text ∧ before ++ strongMark = written front ∧ z = written text := by
  rcases exists_cut h with hcut | ⟨_, _, x, y, _, hxy, hx, _, hmark, _⟩
  · exact hcut
  · have hmem : '*' ∈ starEntity :=
      hxy ▸ List.mem_append_left y (mem_of_append_strongMark hmark hx)
    exact absurd hmem (by decide)

/-- A closing point within an entity makes it one that is taken for the end of a sentence. -/
theorem splitsEntity_of_closingPoint {before text after x y : List Char}
    (hodd : Text.occurrences strongMark (written (front ++ .star :: back)) % 2 = 1)
    (h : ClosingPoint (written (front ++ .star :: back)) before text after)
    (hxy : starEntity = x ++ y) (hx : x ≠ []) (hy : y ≠ [])
    (hbefore : (before ++ strongMark) ++ text = written front ++ x)
    (hafter : after = y ++ written back) : SplitsEntity (front ++ .star :: back) := by
  subst hafter
  cases y with
  | nil => exact absurd rfl hy
  | cons d y =>
    rcases h.eq_of_starEntity_eq hxy hx with ⟨rfl, rfl, rfl, hbreak⟩
    rcases exists_text_of_append hbefore with ⟨z, hfront, rfl⟩
    rcases exists_glyphs_of_append hfront with ⟨front, text, rfl, hmark, rfl⟩
    have hlast := h.last
    rw [List.append_assoc] at hlast
    refine ⟨front, text, back, List.append_assoc _ _ _, ?_, ⟨before, hmark⟩, ?_,
      (runsOn_append.1 h.runsOn).1, isSentenceBreak_semicolon.1 hbreak⟩
    · rwa [← List.append_assoc]
    · rw [written_append]
      exact hlast

/-- A line is closed between two glyphs, or within an entity that is taken for the end of a
sentence. -/
theorem keepsEntities_or_splitsEntity {before text after : List Char}
    (hodd : Text.occurrences strongMark (written gs) % 2 = 1)
    (h : ClosingPoint (written gs) before text after) :
    KeepsEntities gs (before ++ (strongMark ++ (text ++ (strongMark ++ after)))) ∨
      SplitsEntity gs := by
  have hsplit : written gs = (before ++ strongMark ++ text) ++ after := by
    rw [h.split]
    simp
  rcases exists_cut hsplit with ⟨front, back, rfl, hfront, hback⟩ |
    ⟨front, back, x, y, rfl, hxy, hx, hy, hfront, hback⟩
  · refine Or.inl (Or.inr ⟨front, back, rfl, ?_⟩)
    rw [← hfront, ← hback]
    simp
  · exact Or.inr (splitsEntity_of_closingPoint hodd h hxy hx hy hfront hback)

/-! ### An entity with a mark in it -/

theorem eq_star_of_strongMark_append (h : strongMark ++ s = s ++ strongMark) :
    ∀ c ∈ s, c = '*' := by
  induction s with
  | nil => exact List.forall_mem_nil _
  | cons c s ih =>
    rcases List.cons.inj h with ⟨rfl, hrest⟩
    exact List.forall_mem_cons.2 ⟨rfl, ih hrest⟩

/-- A mark put into a text at two places makes the same text only if asterisks are between them. -/
theorem eq_of_insert_strongMark {u v u' v' : List Char} (h : u ++ v = u' ++ v')
    (hmark : u ++ (strongMark ++ v) = u' ++ (strongMark ++ v'))
    (hu : u.getLast? ≠ some '*') (hv : v.head? ≠ some '*') : u = u' := by
  rcases List.append_eq_append_iff.1 h with ⟨z, rfl, rfl⟩ | ⟨z, rfl, rfl⟩
  · rw [List.append_assoc, List.append_cancel_left_eq, ← List.append_assoc, ← List.append_assoc,
      List.append_cancel_right_eq] at hmark
    cases z with
    | nil => rw [List.append_nil]
    | cons c z =>
      have hc := eq_star_of_strongMark_append hmark c List.mem_cons_self
      exact absurd (congrArg some hc) hv
  · rw [List.append_assoc, List.append_cancel_left_eq, ← List.append_assoc, ← List.append_assoc,
      List.append_cancel_right_eq] at hmark
    by_cases hz : z = []
    · rw [hz, List.append_nil]
    · have hlast := eq_star_of_strongMark_append hmark.symm _ (List.getLast_mem hz)
      rw [List.getLast?_append_of_ne_nil u' hz, List.getLast?_eq_getLast_of_ne_nil hz, hlast] at hu
      exact absurd rfl hu

/-- With a mark in front of its semicolon an entity is no more. -/
theorem not_keepsEntities (front back : List Glyph) : ¬KeepsEntities (front ++ .star :: back)
    ((written front ++ entityFront) ++ (strongMark ++ ';' :: written back)) := by
  rintro (hsame | ⟨f, b, hgs, hout⟩)
  · have hlength := congrArg List.length hsame
    rw [written_append, written_star_cons] at hlength
    simp [strongMark] at hlength
    omega
  · have htext : (written front ++ entityFront) ++ ';' :: written back =
        written f ++ written b := by
      rw [← written_append, ← hgs, written_append, written_star_cons, List.append_assoc]
    have hcut := eq_of_insert_strongMark htext hout (by simp [entityFront]) (by simp)
    -- No row of glyphs is written as the front of an entity.
    rcases List.append_eq_append_iff.1 hgs with ⟨z, rfl, hz⟩ | ⟨z, rfl, -⟩
    · rw [written_append, List.append_cancel_left_eq] at hcut
      cases z with
      | nil => cases hcut
      | cons g z =>
        cases hz
        rw [written_star_cons] at hcut
        simp at hcut
    · simp [entityFront] at hcut

/-! ## Repaired lines and texts -/

theorem keepsEntities_repairLine_iff (line : List Char) :
    KeepsEntities (glyphs line) (repairLine line) ↔ ¬SplitsEntity (glyphs line) := by
  rw [repairLine, closeEmphasis_eq, escapeStars_eq]
  generalize glyphs line = gs
  constructor
  · rintro hkeeps ⟨front, text, back, rfl, hsplits⟩
    rcases hsplits.closingPoint with ⟨before, hbefore, hpoint⟩
    rw [hpoint.closeContent_eq hsplits.odd] at hkeeps
    refine not_keepsEntities (front ++ text) back ?_
    rw [List.append_assoc, written_append, hbefore]
    simpa using hkeeps
  · intro hsplits
    rcases closeContent_cases (written gs) with heq | ⟨hodd, before, text, after, hpoint, heq⟩
    · exact Or.inl heq
    · rw [heq]
      exact (keepsEntities_or_splitsEntity hodd hpoint).resolve_right hsplits

/-- Of the lines outside of fences repair leaves all entities intact that it has written for escaped
asterisks, except where one of them is taken for the end of a sentence. -/
theorem keepsEntities_repairChars_iff (markdown line : List Char) (i : Nat)
    (hline : (Text.linesKept markdown)[i]? = some line)
    (hkind : (lineKinds none (Text.linesKept markdown))[i]? = some .ordinary) :
    ∃ out, (Text.linesKept (repairChars markdown))[i]? = some out ∧
      escapeStars line = written (glyphs line) ∧
        (KeepsEntities (glyphs line) out ↔ ¬SplitsEntity (glyphs line)) :=
  ⟨repairLine line, getElem?_linesKept_repairChars hline hkind, escapeStars_eq line,
    keepsEntities_repairLine_iff line⟩

/-- The mark that closes an emphasis is put into the entity at the end of the line. -/
theorem entity_split_at_line_end :
    let markdown := "**a \\*".toList
    let out := "**a &#42**;".toList
    (Text.linesKept markdown)[0]? = some markdown ∧
      (lineKinds none (Text.linesKept markdown))[0]? = some .ordinary ∧
        (Text.linesKept (repairChars markdown))[0]? = some out ∧
          ¬KeepsEntities (glyphs markdown) out := by
  intro markdown out
  have hline : (Text.linesKept markdown)[0]? = some markdown := by decide +kernel
  have hkind : (lineKinds none (Text.linesKept markdown))[0]? = some .ordinary := by decide +kernel
  have hout : (Text.linesKept (repairChars markdown))[0]? = some out := by decide +kernel
  have hstop : findStop "a &#42;".toList = .sentence "a &#42".toList [';'] := by decide +kernel
  have hrun : RunsOn (['a', ' '] ++ entityFront) [';'] :=
    (findStop_eq_sentence_iff.1 hstop).2.1
  have hsplits : SplitsEntity (glyphs markdown) := by
    refine ⟨[.char '*', .char '*'], [.char 'a', .char ' '], [], by decide, by decide +kernel,
      List.suffix_rfl, by decide +kernel, (runsOn_append.1 hrun).1, fun c hc => by cases hc⟩
  rcases keepsEntities_repairChars_iff markdown markdown 0 hline hkind with ⟨out', hout', -, hkeeps⟩
  cases hout.symm.trans hout'
  exact ⟨hline, hkind, hout, fun h => hkeeps.1 h hsplits⟩

end Repair
end StaticBlog
