import StaticBlog.Proofs.Markdown.Closing
import StaticBlog.Proofs.Markdown.Fenced

/-!
# Mended lines

Where a mended line first differs from the line it was made of, it has the start of an entity in
place of a backslash, or an asterisk behind another one. It then plays the same part in the text as
before.

- `Mended` : how a mended line differs
- `Repair.mended_of_ne` : a line is as it was, or mended in this way
-/

namespace StaticBlog

namespace Repair

/-! ## Mended lines -/

/-- How a mended line differs: there is an entity in place of a backslash, or another asterisk
behind one. -/
structure Mended (s t : List Char) : Prop where
  split : ∃ w u v d, s = w ++ u ∧ t = w ++ d :: v ∧ u.head? ≠ some d ∧
    ((d = '&' ∧ u.head? = some '\\') ∨ (d = '*' ∧ '*' ∈ w))

namespace Mended

variable {s t u : List Char}

theorem trans (h : Mended s t) (h' : Mended t u) : Mended s u := by
  rcases h with ⟨w, x, y, d, rfl, rfl, hx, hd⟩
  rcases h' with ⟨w', x', y', d', hs, rfl, hx', hd'⟩
  -- Both differences stand at one place: the second character there is an asterisk.
  have hsame : w' = w → x' = d :: y → Mended (w ++ x) (w' ++ d' :: y') := by
    rintro rfl rfl
    have hne : d ≠ d' := fun heq => hx' (congrArg some heq)
    rcases hd' with ⟨-, hslash⟩ | ⟨rfl, hw⟩
    · cases hslash
      rcases hd with ⟨hd, -⟩ | ⟨hd, -⟩ <;> cases hd
    · rcases hd with ⟨-, hslash⟩ | ⟨rfl, -⟩
      · exact ⟨_, x, y', '*', rfl, rfl, by simp [hslash], Or.inr ⟨rfl, hw⟩⟩
      · exact absurd rfl hne
  rcases List.append_eq_append_iff.1 hs with ⟨z, hz, hy⟩ | ⟨z, hz, hy⟩
  · cases z with
    | nil => exact hsame (hz.trans (List.append_nil w)) hy.symm
    | cons c z =>
      cases hy
      subst hz
      exact ⟨w, x, z ++ d' :: y', d, rfl, by simp, hx, hd⟩
  · cases z with
    | nil => exact hsame (hz.trans (List.append_nil w')).symm hy
    | cons c z =>
      subst hz hy
      exact ⟨w', c :: z ++ x, y', d', by simp, rfl, hx', hd'⟩

/-- Both lines may go on in the same way, unless the asterisk stands there as well. -/
theorem append (h : Mended s t) {e : List Char} (he : e.head? ≠ some '*') :
    Mended (s ++ e) (t ++ e) := by
  rcases h with ⟨w, x, y, d, rfl, rfl, hx, hd⟩
  refine ⟨w, x ++ e, y ++ e, d, List.append_assoc _ _ _, List.append_assoc _ _ _, ?_, ?_⟩
  · cases x with
    | cons c x => exact hx
    | nil =>
      rcases hd with ⟨-, hslash⟩ | ⟨rfl, -⟩
      · cases hslash
      · exact he
  · cases x with
    | cons c x => exact hd
    | nil =>
      rcases hd with ⟨-, hslash⟩ | hstar
      · cases hslash
      · exact Or.inr hstar

/-- Two lines differ whatever follows them, unless the asterisk follows the line itself. -/
theorem append_ne (h : Mended s t) {e : List Char} (he : e.head? ≠ some '*') (e' : List Char) :
    t ++ e' ≠ s ++ e := by
  rcases h with ⟨w, x, y, d, rfl, rfl, hx, hd⟩
  intro heq
  rw [List.append_assoc, List.append_assoc] at heq
  have hhead := congrArg List.head? (List.append_cancel_left heq)
  cases x with
  | cons c x => exact hx hhead.symm
  | nil =>
    rcases hd with ⟨-, hslash⟩ | ⟨rfl, -⟩
    · cases hslash
    · exact he hhead.symm

theorem prepend (h : Mended s t) (front : List Char) : Mended (front ++ s) (front ++ t) := by
  rcases h with ⟨w, x, y, d, rfl, rfl, hx, hd⟩
  refine ⟨front ++ w, x, y, d, by simp, by simp, hx, hd.imp_right fun hstar => ?_⟩
  exact ⟨hstar.1, List.mem_append_right front hstar.2⟩

theorem ne (h : Mended s t) : t ≠ s := by
  have hne := h.append_ne (e := []) (by simp) []
  rwa [List.append_nil, List.append_nil] at hne

/-- A mended line has a character of the marks of emphasis or of an entity. -/
theorem exists_mem (h : Mended s t) :
    (∃ c ∈ s, c = '\\' ∨ c = '*') ∧ ∃ c ∈ t, c = '&' ∨ c = '*' := by
  rcases h with ⟨w, x, y, d, rfl, rfl, -, hd⟩
  have hmem : d ∈ w ++ d :: y := List.mem_append_right w List.mem_cons_self
  rcases hd with ⟨rfl, hx⟩ | ⟨rfl, hw⟩
  · exact ⟨⟨_, List.mem_append_right w (List.mem_of_mem_head? hx), Or.inl rfl⟩, _, hmem, Or.inl rfl⟩
  · exact ⟨⟨_, List.mem_append_left x hw, Or.inr rfl⟩, _, hmem, Or.inr rfl⟩

end Mended

/-! ## Repair of one line -/

theorem starEntity_eq : starEntity = ['&', '#', '4', '2', ';'] := by decide

theorem mended_of_replace {p r : List Char} (s : List Char) :
    Text.replace ('\\' :: p) ('&' :: r) s = s ∨
      Mended s (Text.replace ('\\' :: p) ('&' :: r) s) := by
  rcases Text.replaceFrom_cases (p := '\\' :: p) (r := '&' :: r) s with h | ⟨w, u, v, hs, hr⟩
  · exact Or.inl h
  · exact Or.inr ⟨w, _, r ++ v, '&', hs, hr, by simp, Or.inl ⟨rfl, rfl⟩⟩

theorem Mended.trans_or {s t u : List Char} (h : t = s ∨ Mended s t) (h' : u = t ∨ Mended t u) :
    u = s ∨ Mended s u := by
  rcases h with rfl | h
  · exact h'
  · rcases h' with rfl | h'
    · exact Or.inr h
    · exact Or.inr (h.trans h')

theorem mended_of_escapeStars (s : List Char) : escapeStars s = s ∨ Mended s (escapeStars s) := by
  unfold escapeStars
  rw [starEntity_eq]
  exact Mended.trans_or (mended_of_replace s) (mended_of_replace _)

theorem mended_of_closeContent (s : List Char) :
    closeContent s = s ∨ Mended s (closeContent s) := by
  rcases closeContent_cases s with h | ⟨-, before, text, after, hpoint, hclosed⟩
  · exact Or.inl h
  · refine Or.inr ⟨before ++ (strongMark ++ text), after, '*' :: after, '*', ?_, ?_,
      hpoint.head?_ne, ?_⟩
    · rw [hpoint.split]
      simp
    · rw [hclosed]
      simp [strongMark]
    · exact Or.inr ⟨rfl, by simp [strongMark]⟩

/-- A line without its ending, mended. -/
def mend (body : List Char) : List Char := closeContent (escapeStars body)

theorem mended_of_mend (body : List Char) : mend body = body ∨ Mended body (mend body) :=
  Mended.trans_or (mended_of_escapeStars body) (mended_of_closeContent _)

/-! ### Endings -/

section

variable {body ending more : List Char}

theorem mem_closeContent {s : List Char} {c : Char} (h : c ∈ closeContent s) : c ∈ s ∨ c = '*' := by
  rcases closeContent_cases s with hs | ⟨-, before, text, after, hpoint, hclosed⟩
  · exact Or.inl (hs ▸ h)
  · rw [hclosed] at h
    rw [hpoint.split]
    simp only [strongMark, List.mem_append, List.mem_cons, List.not_mem_nil, or_false] at h ⊢
    tauto

theorem mem_escapeStars {s : List Char} {c : Char} (h : c ∈ escapeStars s) :
    c ∈ s ∨ c ∈ starEntity := by
  rcases Text.mem_replaceFrom h with h | h
  · rcases Text.mem_replaceFrom h with h | h
    · exact Or.inl h
    · exact Or.inr ((List.mem_append.1 h).elim id id)
  · exact Or.inr h

theorem escapeStars_unbroken (unbroken : ∀ c ∈ body, Markdown.isBreak c = false) :
    ∀ c ∈ escapeStars body, Markdown.isBreak c = false := by
  have hentity : ∀ c ∈ starEntity, Markdown.isBreak c = false := by
    rw [starEntity_eq]
    simp [Markdown.isBreak]
  exact fun c hc => (mem_escapeStars hc).elim (unbroken c) (hentity c)

theorem mend_unbroken (unbroken : ∀ c ∈ body, Markdown.isBreak c = false) :
    ∀ c ∈ mend body, Markdown.isBreak c = false := by
  intro c hc
  rcases mem_closeContent hc with hc | rfl
  · exact escapeStars_unbroken unbroken c hc
  · rfl

/-- Line breaks behind a line stay as they are. -/
theorem escapeStars_append {e : List Char} (he : ∀ c ∈ e, Text.isLineBreak c = true)
    (s : List Char) : escapeStars (s ++ e) = escapeStars s ++ e := by
  have hreplace : ∀ (a : Char) (p r s : List Char), (∀ c ∈ a :: p, Text.isLineBreak c = false) →
      Text.replace (a :: p) r (s ++ e) = Text.replace (a :: p) r s ++ e := by
    intro a p r s hp
    refine Text.replaceFrom_append (fun c hc hmem => ?_) (Nat.zero_le _)
    have hbreak := he c hc
    rw [hp c hmem] at hbreak
    cases hbreak
  unfold escapeStars
  rw [hreplace _ _ _ _ (by simp [Text.isLineBreak]), hreplace _ _ _ _ (by simp [Text.isLineBreak])]

theorem repairLine_append {e : List Char} (he : ∀ c ∈ e, Text.isLineBreak c = true)
    (s : List Char) : repairLine (s ++ e) = repairLine s ++ e := by
  simp only [repairLine, escapeStars_append he, closeEmphasis_eq, closeContent_append he]

/-- What ends a line is kept when the line is mended. -/
theorem repairLine_append_ending (ends : Markdown.IsEnding ending more) (body : List Char) :
    repairLine (body ++ ending) = mend body ++ ending := by
  have hbreaks : ∀ c ∈ ending, Text.isLineBreak c = true := by
    cases ends <;> simp [Text.isLineBreak]
  rw [repairLine_append hbreaks, repairLine, closeEmphasis_eq, mend]

end

/-! ### Rules -/

theorem closeContent_of_rule {s : List Char} (h : ∀ c ∈ s, c = '*' ∨ c = ' ' ∨ c = '\t') :
    closeContent s = s := by
  rcases closeContent_cases s with hs | ⟨-, before, text, after, hpoint, -⟩
  · exact hs
  · have hblank : ∀ c ∈ text ++ after, c ≠ '*' → Text.isBlank c = true := by
      intro c hc hne
      have hmem : c ∈ s := by
        rw [hpoint.split]
        exact List.mem_append_right before (List.mem_append_right strongMark hc)
      rcases (h c hmem).resolve_left hne with rfl | rfl <;> rfl
    rcases hpoint.stop with ⟨c, rest, rfl, hbreak⟩ | ⟨hrun, -⟩
    -- What breaks a sentence is neither an asterisk nor blank.
    · have hne : c ≠ '*' := by
        rintro rfl
        rw [isSentenceBreak_star] at hbreak
        cases hbreak
      have hmark := isBlank_eq_false_of_isSentenceBreak hbreak
      rw [hblank c (List.mem_append_right text List.mem_cons_self) hne] at hmark
      cases hmark
    · refine absurd (Text.trim_eq_nil_iff.2 fun c hc => hblank c hc fun heq => ?_)
        hpoint.trim_ne_nil
      exact hrun.not_mem (heq ▸ hc)

/-- Rules stay as they are. -/
theorem mend_of_rule {s : List Char} {mark : Char} (hmark : mark = '*' ∨ mark = '-' ∨ mark = '_')
    (h : ∀ c ∈ s, c = mark ∨ c = ' ' ∨ c = '\t') : mend s = s := by
  have hslash : '\\' ∉ s := by
    intro hmem
    rcases h _ hmem with heq | heq | heq
    · rcases hmark with rfl | rfl | rfl <;> cases heq
    · cases heq
    · cases heq
  -- A rule holds no backslash, and so nothing is escaped.
  have hescape : escapeStars s = s := by
    unfold escapeStars
    rw [show Text.replace ['\\', '*', '*'] (starEntity ++ starEntity) s = s from
      Text.replaceFrom_of_not_mem hslash]
    exact Text.replaceFrom_of_not_mem hslash
  rw [mend, hescape]
  rcases hmark with rfl | hother
  · exact closeContent_of_rule h
  · rcases closeContent_cases s with heq | ⟨-, before, text, after, hpoint, -⟩
    · exact heq
    · have hstar : '*' ∈ s := by
        rw [hpoint.split]
        simp [strongMark]
      rcases h _ hstar with heq | heq | heq
      · rcases hother with rfl | rfl <;> cases heq
      · cases heq
      · cases heq

/-! ## What a mended line is in the text -/

open Markdown (atStart Cursor fenceLine? FenceLine isPlain bullet? IsEnding)

namespace Mended

variable {s t : List Char}

/-- Both lines begin with the same blanks. -/
theorem blanks (h : Mended s t) : ∃ front x y, s = front ++ x ∧ t = front ++ y ∧
    Cursor.Stops x ∧ Cursor.Stops y ∧ ∀ u, Mended (u ++ x) (u ++ y) := by
  rcases h with ⟨w, x, y, d, rfl, rfl, hx, ⟨rfl, hslash⟩ | ⟨rfl, hw⟩⟩
  · refine ⟨w, x, '&' :: y, rfl, rfl, fun c hc => ?_, fun c hc => ?_, fun u => ?_⟩
    · rw [hslash] at hc
      cases hc
      decide
    · cases hc
      decide
    · exact ⟨u, x, y, '&', rfl, rfl, hx, Or.inl ⟨rfl, hslash⟩⟩
  · rcases List.append_of_mem hw with ⟨front, back, rfl⟩
    have hstops : ∀ u : List Char, Cursor.Stops ('*' :: u) := by
      intro u c hc
      cases hc
      decide
    refine ⟨front, '*' :: back ++ x, '*' :: back ++ '*' :: y, by simp, by simp, hstops _, hstops _,
      fun u => ?_⟩
    exact ⟨u ++ '*' :: back, x, y, '*', by simp, by simp, hx, Or.inr ⟨rfl, by simp⟩⟩

/-- The same blanks are passed in both lines. -/
theorem skip (h : Mended s t) (n : Nat) :
    ((atStart t).skip n).1 = ((atStart s).skip n).1 ∧
      ((atStart t).skip n).2.owed = ((atStart s).skip n).2.owed ∧
        Mended ((atStart s).skip n).2.place.rest ((atStart t).skip n).2.place.rest := by
  rcases h.blanks with ⟨front, x, y, rfl, rfl, hx, hy, hmended⟩
  have hskip : ∀ z, Cursor.Stops z → (atStart (front ++ z)).skip n =
      (((atStart front).skip n).1, ((atStart front).skip n).2.shift 0 z) := by
    intro z hz
    rw [← Cursor.skip_shift hz]
    rfl
  rw [hskip x hx, hskip y hy]
  exact ⟨rfl, rfl, hmended _⟩

/-- What a mended line begins with, blanks aside, begins the line as well, unless it holds a mark of
emphasis or of an entity. -/
theorem isPrefixOf_trimStart (h : Mended s t) {p : List Char} (hne : p ≠ [])
    (hp : ∀ c ∈ p, c ≠ '&' ∧ c ≠ '*') (ht : p.isPrefixOf (Text.trimStart t) = true) :
    p.isPrefixOf (Text.trimStart s) = true := by
  rcases h with ⟨w, x, y, d, rfl, rfl, -, hd⟩
  have hmark : d = '&' ∨ d = '*' := hd.imp And.left And.left
  have hnot : d ∉ p := fun hmem => hmark.elim (hp d hmem).1 (hp d hmem).2
  have hblank : Text.isBlank d = false := by rcases hmark with rfl | rfl <;> rfl
  -- The mark where the lines part is not blank, so trimming stops before it.
  have htrim : Text.trimStart (w ++ d :: y) = w.dropWhile Text.isBlank ++ d :: y := by
    rw [Text.trimStart, Text.dropFront, List.dropWhile_append]
    split
    · next hempty =>
      rw [List.isEmpty_iff.1 hempty, List.dropWhile_cons_of_neg (by simp [hblank])]
      rfl
    · rfl
  rw [htrim, Text.isPrefixOf_append fun c hc => by cases hc; exact hnot] at ht
  have hstart : w.dropWhile Text.isBlank ≠ [] := by
    intro hempty
    rw [hempty] at ht
    cases p with
    | nil => exact hne rfl
    | cons => cases ht
  have hfront : Text.trimStart (w ++ x) = w.dropWhile Text.isBlank ++ x := by
    rw [Text.trimStart, Text.dropFront, List.dropWhile_append, if_neg (by simpa using hstart)]
  rw [hfront, List.isPrefixOf_iff_prefix]
  exact (List.isPrefixOf_iff_prefix.1 ht).trans (List.prefix_append _ _)

end Mended

theorem fenceOf?_eq_none_iff {s : List Char} :
    fenceOf? s = none ↔ ∀ f : Fence, ¬f.mark.isPrefixOf (Text.trimStart s) = true := by
  rw [fenceOf?, List.find?_eq_none]
  constructor
  · intro h f
    cases f
    · exact h _ List.mem_cons_self
    · exact h _ (List.mem_cons_of_mem _ List.mem_cons_self)
  · exact fun h f _ => h f

/-- A mended line begins with no fence if the line did not. -/
theorem Mended.fenceOf? {s t : List Char} (h : Mended s t) (hs : fenceOf? s = none) :
    fenceOf? t = none := by
  rw [fenceOf?_eq_none_iff] at hs ⊢
  intro f hf
  refine hs f (h.isPrefixOf_trimStart ?_ ?_ hf)
  · cases f <;> simp [Fence.mark]
  · cases f <;> simp [Fence.mark]

end Repair

/-! ## Fences of a text and of its repair -/

namespace Markdown

open Repair (fenceOf? Mended)

/-- A fence has at least three marks, and fewer than four columns of blanks before them. -/
structure FenceLine.Valid (f : FenceLine) : Prop where
  mark : f.mark = '\x60' ∨ f.mark = '~'
  length : 3 ≤ f.length

theorem valid_of_fenceLine? {body : List Char} {f : FenceLine} (h : fenceLine? body = some f) :
    f.Valid ∧ ∃ front, body = front ++ ((atStart body).skip 4).2.place.rest ∧
      (∀ c ∈ front, c = ' ' ∨ c = '\t') ∧
        3 ≤ run f.mark ((atStart body).skip 4).2.place.rest := by
  rcases Cursor.skip_rest (atStart body) 4 with ⟨front, hfront, -, hblank⟩
  rcases (opens_of_fenceLine? h).2.eq_run with ⟨-, -, hmark, hrun, hlong⟩
  exact ⟨⟨hmark, hlong⟩, front, hfront, hblank, hrun ▸ hlong⟩

theorem eq_of_three_le_run {s : List Char} {mark : Char} (h : 3 ≤ run mark s) :
    ∃ tail, s = mark :: mark :: mark :: tail := by
  have hall : s.takeWhile (· = mark) = List.replicate (run mark s) mark :=
    List.eq_replicate_of_mem fun c hc => by simpa using List.mem_takeWhile_imp hc
  rcases Nat.exists_eq_add_of_le' h with ⟨n, hn⟩
  rw [hn] at hall
  refine ⟨List.replicate n mark ++ s.dropWhile (· = mark), ?_⟩
  calc s = s.takeWhile (· = mark) ++ s.dropWhile (· = mark) := List.takeWhile_append_dropWhile.symm
    _ = List.replicate (n + 3) mark ++ s.dropWhile (· = mark) := by rw [hall]

theorem trimStart_of_run {front s : List Char} {mark : Char}
    (hmark : mark = '\x60' ∨ mark = '~') (hblank : ∀ c ∈ front, c = ' ' ∨ c = '\t')
    (hrun : 3 ≤ run mark s) (tail : List Char) :
    ∃ rest, Text.trimStart (front ++ s ++ tail) = mark :: mark :: mark :: rest := by
  rcases eq_of_three_le_run hrun with ⟨rest, rfl⟩
  have hfront : ∀ c ∈ front, Text.isBlank c = true := by
    intro c hc
    rcases hblank c hc with rfl | rfl <;> rfl
  have htext : ¬Text.isBlank mark = true := by
    rcases hmark with rfl | rfl <;> decide
  refine ⟨rest ++ tail, ?_⟩
  rw [Text.trimStart, Text.dropFront, List.append_assoc, List.dropWhile_append_of_pos hfront,
    List.cons_append, List.dropWhile_cons_of_neg htext]
  rfl

/-- A run of marks is a fence for the repair, whatever blanks stand before it. -/
theorem fenceOf?_ne_none {front s : List Char} {mark : Char}
    (hmark : mark = '\x60' ∨ mark = '~') (hblank : ∀ c ∈ front, c = ' ' ∨ c = '\t')
    (hrun : 3 ≤ run mark s) (tail : List Char) : fenceOf? (front ++ s ++ tail) ≠ none := by
  rcases trimStart_of_run hmark hblank hrun tail with ⟨rest, htrim⟩
  intro hnone
  rw [Repair.fenceOf?_eq_none_iff, htrim] at hnone
  rcases hmark with rfl | rfl
  · exact hnone .backticks rfl
  · exact hnone .tildes rfl

/-- A line that begins fenced code is a fence for the repair, too. -/
theorem fenceOf?_of_fenceLine? {body ending : List Char} {f : FenceLine}
    (h : fenceLine? body = some f) : fenceOf? (body ++ ending) ≠ none := by
  rcases valid_of_fenceLine? h with ⟨hvalid, front, hbody, hblank, hrun⟩
  rw [hbody]
  exact fenceOf?_ne_none hvalid.mark hblank hrun ending

/-- A line that ends fenced code is a fence for the repair, too, unless it is the blank end of the
text. -/
theorem fenceOf?_of_closes {body ending more : List Char} {f : FenceLine} (hf : f.Valid)
    (unbroken : ∀ c ∈ body, isBreak c = false) (ends : IsEnding ending more)
    (h : f.closes (body ++ ending) = true) :
    fenceOf? (body ++ ending) ≠ none ∨ (ending = [] ∧ ∀ c ∈ body, c = ' ' ∨ c = '\t') := by
  rcases Cursor.skip_rest (atStart body) f.indent with ⟨front, hfront, -, hblank⟩
  rcases Cursor.skip_rest (f.start body) (4 - f.indent) with ⟨back, hback, -, hblank'⟩
  -- In front of the run only blanks have been skipped.
  have hbody : body = (front ++ back) ++ ((f.start body).skip (4 - f.indent)).2.place.rest := by
    rw [List.append_assoc, ← hback]
    exact hfront
  have hblanks : ∀ c ∈ front ++ back, c = ' ' ∨ c = '\t' :=
    List.forall_mem_append.2 ⟨hblank, hblank'⟩
  unfold FenceLine.closes at h
  simp only [lineOf_append unbroken ends, Bool.and_eq_true, Bool.or_eq_true, decide_eq_true_eq,
    List.isEmpty_iff] at h
  rcases h.2 with ⟨hempty, hlast⟩ | hcloses
  · rw [hempty, List.append_nil] at hbody
    exact Or.inr ⟨List.append_cancel_left (hlast.symm.trans (List.append_nil body).symm),
      hbody ▸ hblanks⟩
  · rw [closesFence, Bool.and_eq_true, decide_eq_true_eq] at hcloses
    have hrun := hf.length.trans hcloses.1
    refine Or.inl ?_
    rw [hbody]
    exact fenceOf?_ne_none hf.mark hblanks hrun ending

/-! ### Plain lines -/

/-- What the mark of a list item is made of: digits, one character, and a blank behind it. -/
structure IsBullet (ds : List Char) (mark : Char) (rest : List Char) : Prop where
  digits : ∀ c ∈ ds, c.isDigit = true
  length : ds.length ≤ 9
  mark : ds = [] ∧ (mark = '-' ∨ mark = '+' ∨ mark = '*') ∨ ds ≠ [] ∧ (mark = '.' ∨ mark = ')')
  rest : ∀ c ∈ rest.head?, c = ' ' ∨ c = '\t'

theorem IsBullet.isDigit {ds rest : List Char} {mark : Char} (h : IsBullet ds mark rest) :
    mark.isDigit = false := by
  rcases h.mark with ⟨-, rfl | rfl | rfl⟩ | ⟨-, rfl | rfl⟩ <;> rfl

theorem isBullet_of_bullet? {s : List Char} {b : Bullet} (h : bullet? s = some b) :
    ∃ ds mark rest, s = ds ++ mark :: rest ∧ IsBullet ds mark rest := by
  have hprefix : (s.take 9).takeWhile Char.isDigit <+: s :=
    (List.takeWhile_prefix _).trans (List.take_prefix 9 s)
  have hdigits : ∀ c ∈ (s.take 9).takeWhile Char.isDigit, c.isDigit = true :=
    fun c hc => List.mem_takeWhile_imp hc
  have hlength : ((s.take 9).takeWhile Char.isDigit).length ≤ 9 :=
    (List.takeWhile_prefix _).length_le.trans (List.length_take_le 9 s)
  have hs := List.prefix_iff_eq_append.1 hprefix
  unfold bullet? at h
  simp only at h
  generalize (s.take 9).takeWhile Char.isDigit = ds at *
  cases hdrop : s.drop ds.length with
  | nil =>
    rw [hdrop] at h
    cases h
  | cons mark rest =>
    rw [hdrop] at h hs
    simp only at h
    generalize hfound : (if (ds.isEmpty && _) = true then _ else _) = found at h
    -- A mark of its own, or one behind a number.
    have hmark : ∀ b t, found = some (b, t) → t = rest ∧
        (ds = [] ∧ (mark = '-' ∨ mark = '+' ∨ mark = '*') ∨
          ds ≠ [] ∧ (mark = '.' ∨ mark = ')')) := by
      rintro b t rfl
      split at hfound
      · next hbare =>
        simp only [Bool.and_eq_true, List.isEmpty_iff, Bool.or_eq_true, decide_eq_true_eq,
          or_assoc] at hbare
        cases hfound
        exact ⟨rfl, Or.inl hbare⟩
      · split at hfound
        · next hnumber =>
          simp only [Bool.and_eq_true, Bool.not_eq_true', List.isEmpty_eq_false_iff,
            Bool.or_eq_true, decide_eq_true_eq] at hnumber
          cases hfound
          exact ⟨rfl, Or.inr hnumber⟩
        · cases hfound
    split at h
    · rcases hmark _ _ rfl with ⟨rfl, hkind⟩
      exact ⟨ds, mark, [], hs.symm, hdigits, hlength, hkind, fun c hc => by cases hc⟩
    · next d t =>
      rcases hmark _ _ rfl with ⟨rfl, hkind⟩
      split at h
      · next hblank =>
        refine ⟨ds, mark, d :: t, hs.symm, hdigits, hlength, hkind, fun c hc => ?_⟩
        cases hc
        simpa using hblank
      · cases h
    · cases h

theorem IsBullet.bullet? {ds rest : List Char} {mark : Char} (h : IsBullet ds mark rest) :
    bullet? (ds ++ mark :: rest) ≠ none := by
  -- The mark ends the digits, of which nine are looked at.
  have htake : ((ds ++ mark :: rest).take 9).takeWhile Char.isDigit = ds := by
    rw [List.take_append, List.take_of_length_le h.length, List.takeWhile_append_of_pos h.digits]
    cases 9 - ds.length with
    | zero => exact List.append_nil ds
    | succ n => simp [h.isDigit]
  unfold Markdown.bullet?
  simp only [htake, List.drop_left]
  have hfound : ∃ b, (if (ds.isEmpty && (mark = '-' || mark = '+' || mark = '*')) = true then
      some ((⟨mark, none, 1⟩ : Bullet), rest)
    else if (!ds.isEmpty && (mark = '.' || mark = ')')) = true then
      some (⟨mark, some (Text.valueOf ds), ds.length + 1⟩, rest)
    else none) = some (b, rest) := by
    rcases h.mark with ⟨rfl, hmark⟩ | ⟨hne, hmark⟩
    · exact ⟨_, if_pos (by simpa [or_assoc] using hmark)⟩
    · refine ⟨_, (if_neg (by simp [hne])).trans (if_pos (by simp [hne, hmark]))⟩
  rcases hfound with ⟨b, hfound⟩
  rw [hfound]
  cases hrest : rest with
  | nil => exact Option.some_ne_none b
  | cons c t =>
    have hblank := h.rest c (by rw [hrest]; rfl)
    have hcond : (c = ' ' || c = '\t') = true := by simpa using hblank
    simp only [hcond, if_true]
    exact Option.some_ne_none b

/-- A mended line begins with no mark of a list item if the line did not. -/
theorem bullet?_of_mended {s t : List Char} (h : Mended s t) (hs : bullet? s = none) :
    bullet? t = none := by
  cases ht : bullet? t with
  | none => rfl
  | some b =>
    rcases isBullet_of_bullet? ht with ⟨ds, mark, rest, heq, hbullet⟩
    rcases h with ⟨w, x, y, d, rfl, rfl, -, hd⟩
    have hmark : d = '&' ∨ d = '*' := hd.imp And.left And.left
    have hblank : d ≠ ' ' ∧ d ≠ '\t' := by rcases hmark with rfl | rfl <;> decide
    -- The mark itself is no character that has been written.
    have hfirst : w = ds → d = mark → False := by
      rintro rfl rfl
      rcases hd with ⟨rfl, -⟩ | ⟨rfl, hw⟩
      · rcases hbullet.mark with ⟨-, hc | hc | hc⟩ | ⟨-, hc | hc⟩ <;> cases hc
      · rcases hbullet.mark with ⟨rfl, -⟩ | ⟨-, hc | hc⟩
        · cases hw
        · cases hc
        · cases hc
    rcases List.append_eq_append_iff.1 heq with ⟨z, hz, hrest⟩ | ⟨z, hz, hrest⟩
    · cases z with
      | nil =>
        cases hrest
        exact (hfirst (hz.trans (List.append_nil w)).symm rfl).elim
      | cons c z =>
        cases hrest
        have hdigit := hbullet.digits d (by rw [hz]; simp)
        rcases hmark with rfl | rfl <;> cases hdigit
    · cases z with
      | nil =>
        cases hrest
        exact (hfirst (hz.trans (List.append_nil ds)) rfl).elim
      | cons c z =>
        cases hrest
        subst hz
        refine absurd hs ?_
        rw [List.append_assoc]
        refine IsBullet.bullet? ⟨hbullet.digits, hbullet.length, hbullet.mark, fun c hc => ?_⟩
        cases z with
        | nil => exact ((hbullet.rest d rfl).elim hblank.1 hblank.2).elim
        | cons e z => exact hbullet.rest c hc

/-- A mended line that was no rule is plain if the line was. -/
theorem isPlain_of_mended {s t : List Char} (h : Mended s t)
    (hrule : isRule ((atStart s).skip 4).2.place.rest = false) (hs : isPlain s = true) :
    isPlain t = true := by
  rcases h.skip 4 with ⟨hcount, -, hrest⟩
  unfold isPlain at hs ⊢
  simp only [hcount, hrule, Bool.false_or] at hs ⊢
  generalize ((atStart s).skip 4).2.place.rest = x at hs hrest
  generalize ((atStart t).skip 4).2.place.rest = y at hrest ⊢
  simp only [Bool.or_eq_true, Bool.and_eq_true, Option.isNone_iff_eq_none,
    decide_eq_true_eq] at hs ⊢
  refine hs.imp_right fun hplain => ⟨?_, Or.inr (bullet?_of_mended hrest hplain.2)⟩
  rcases hrest with ⟨w, u, v, d, rfl, rfl, -, hd⟩
  cases w with
  | cons c w => exact hplain.1
  | nil =>
    rcases hd with ⟨rfl, -⟩ | ⟨-, hw⟩
    · rfl
    · cases hw

end Markdown
end StaticBlog
