import Mathlib.Data.List.Infix
import Mathlib.Data.List.TakeWhile
import StaticBlog.Post.FrontMatter
import StaticBlog.Proofs.Template.Scanning
import StaticBlog.Proofs.Text.Lines
import StaticBlog.Proofs.Text.Search

/-!
# The parts of a source file

- `Text.breakOn?_feed_eq_some_iff` : the first line that begins with a given text
- `Text.beginsNoLine_iff` : where a text does not stand when no line begins with it
- `Sections.IsFenced` : a source file with a block between fences
- `Sections.isFenced_iff` : how such a file is cut
- `Sections.body_ofChars` : a body is always the end of its source file
- `FrontMatter.block_and_body_recovered` : a block and a body are found again
-/

namespace StaticBlog

/-! ## Searching -/

namespace Text

variable {p q s t before after : List Char} {a : Char}

/-- A pattern does not reach over a character that it does not have. -/
theorem prefix_append_cons_iff (ha : a ∉ p) : p <+: s ++ a :: t ↔ p <+: s := by
  refine ⟨fun h => ?_, fun h => h.trans (List.prefix_append s (a :: t))⟩
  rcases List.prefix_or_prefix_of_prefix h (List.prefix_append s (a :: t)) with hp | ⟨u, rfl⟩
  · exact hp
  · have hu : u <+: a :: t := (List.prefix_append_right_inj s).1 h
    cases u with
    | nil => simp
    | cons b u =>
      obtain ⟨rfl, -⟩ := List.cons_prefix_cons.1 hu
      simp at ha

/-- A text is cut at the first line feed with the pattern behind it. -/
theorem breakOn?_feed_eq_some_iff (hq : '\n' ∉ q) :
    breakOn? ('\n' :: q) s = some (before, after) ↔
      s = before ++ ('\n' :: q) ++ after ∧ ¬ '\n' :: q <:+: before := by
  rw [breakOn?_eq_some_iff]
  constructor
  · rintro ⟨rfl, hfirst⟩
    refine ⟨(List.append_assoc _ _ _).symm, ?_⟩
    rintro ⟨u, v, rfl⟩
    have hle := hfirst u (v ++ ('\n' :: q ++ after)) (by simp)
    simp only [List.length_append, List.length_cons] at hle
    omega
  · rintro ⟨rfl, hnot⟩
    refine ⟨List.append_assoc _ _ _, fun b a hb => Nat.le_of_not_lt fun hlt => hnot ?_⟩
    rw [List.append_assoc] at hb
    obtain ⟨t, rfl⟩ : b <+: before :=
      List.prefix_of_prefix_length_le ⟨_, hb.symm⟩ (List.prefix_append _ _) hlt.le
    cases t with
    | nil => simp at hlt
    | cons c t =>
      -- The pattern has no second line feed with which to reach into the later occurrence.
      rw [List.append_assoc, List.append_cancel_left_eq] at hb
      obtain ⟨rfl, hrest⟩ := List.cons.inj hb
      have hreach : q <+: t ++ '\n' :: (q ++ after) := ⟨a, hrest.symm⟩
      have hpre : '\n' :: q <+: '\n' :: t :=
        List.cons_prefix_cons.2 ⟨rfl, (prefix_append_cons_iff hq).1 hreach⟩
      exact hpre.isInfix.trans (List.suffix_append b _).isInfix

/-! ## Beginnings of lines -/

/-- The first line of a text begins as the text does. -/
theorem prefix_headD_linesKept_iff (hq : '\n' ∉ q) : q <+: (linesKept s).headD [] ↔ q <+: s := by
  induction s generalizing q with
  | nil => rfl
  | cons c s ih =>
    cases q with
    | nil => simp
    | cons a q =>
      obtain ⟨ha, hq'⟩ : '\n' ≠ a ∧ '\n' ∉ q := by simpa using hq
      by_cases hc : c = '\n'
      · simp [linesKept, hc, List.cons_prefix_cons, ha.symm]
      · rw [linesKept_cons_of_ne hc, List.headD_cons, List.cons_prefix_cons, List.cons_prefix_cons,
          ih hq']

theorem forall_linesKept_iff {P : List Char → Prop} (hnil : P []) :
    (∀ line ∈ linesKept s, P line) ↔
      P ((linesKept s).headD []) ∧ ∀ line ∈ (linesKept s).tail, P line := by
  cases linesKept s with
  | nil => simp [hnil]
  | cons l ls => simp

/-- A later line that begins with a text is a line feed with the text behind it. -/
theorem forall_tail_linesKept_iff (hne : q ≠ []) (hq : '\n' ∉ q) :
    (∀ line ∈ (linesKept s).tail, ¬ q <+: line) ↔ ¬ '\n' :: q <:+: s := by
  induction s with
  | nil => simp [linesKept]
  | cons c s ih =>
    rw [List.infix_cons_iff, List.cons_prefix_cons, not_or, ← ih]
    by_cases hc : c = '\n'
    · rw [linesKept, if_pos hc, List.tail_cons, forall_linesKept_iff (by simpa using hne),
        prefix_headD_linesKept_iff hq]
      simp [hc]
    · rw [linesKept_cons_of_ne hc, List.tail_cons]
      simp [Ne.symm hc]

/-- A text that no line begins with stands neither in front nor behind a line feed. -/
theorem beginsNoLine_iff (hne : q ≠ []) (hq : '\n' ∉ q) :
    (∀ line ∈ linesKept s, ¬ q <+: line) ↔ ¬ q <+: s ∧ ¬ '\n' :: q <:+: s := by
  rw [forall_linesKept_iff (by simpa using hne), prefix_headD_linesKept_iff hq,
    forall_tail_linesKept_iff hne hq]

theorem mem_of_mem_lines {line : List Char} (hline : line ∈ lines s) (ha : a ∈ line) : a ∈ s := by
  obtain ⟨kept, hkept, rfl⟩ := List.mem_map.1 hline
  rw [← flatten_linesKept s]
  exact List.mem_flatten.2 ⟨kept, hkept, (withoutEnding_prefix_self kept).mem ha⟩

/-! ## Fronts -/

theorem mem_of_mem_trim (ha : a ∈ trim s) : a ∈ s := mem_of_mem_dropBoth ha

/-- What is no blank is not trimmed. -/
theorem mem_trim (ha : a ∈ s) (hblank : isBlank a = false) : a ∈ trim s := by
  have hfront : ∀ t : List Char, a ∈ t → a ∈ t.dropWhile isBlank := by
    intro t hat
    rw [← List.takeWhile_append_dropWhile (p := isBlank) (l := t)] at hat
    refine (List.mem_append.1 hat).resolve_left fun htake => ?_
    rw [List.mem_takeWhile_imp htake] at hblank
    cases hblank
  have hback := hfront (s.dropWhile isBlank).reverse (List.mem_reverse.2 (hfront s ha))
  exact List.mem_reverse.2 hback

theorem dropFront_eq_iff {f : Char → Bool} :
    dropFront f s = t ↔ ∃ front, s = front ++ t ∧ (∀ c ∈ front, f c = true) ∧
      ∀ c, t.head? = some c → f c = false := by
  constructor
  · rintro rfl
    exact ⟨s.takeWhile f, List.takeWhile_append_dropWhile.symm,
      fun c hc => List.mem_takeWhile_imp hc, fun c hc => eq_false_of_head?_dropFront hc⟩
  · rintro ⟨front, rfl, hfront, hhead⟩
    rw [dropFront, List.dropWhile_append_of_pos hfront]
    exact dropFront_eq_self_iff.2 hhead

/-- What may tell at the front of a text how it is encoded. -/
def IsMark (mark : List Char) : Prop := mark = [] ∨ mark = ['\uFEFF']

theorem exists_mark (s : List Char) : ∃ mark, IsMark mark ∧ s = mark ++ dropByteOrderMark s := by
  unfold dropByteOrderMark
  split
  · exact ⟨['\uFEFF'], Or.inr rfl, rfl⟩
  · exact ⟨[], Or.inl rfl, rfl⟩

theorem dropByteOrderMark_append {mark : List Char} (hmark : IsMark mark)
    (hs : s.head? ≠ some '\uFEFF') : dropByteOrderMark (mark ++ s) = s := by
  rcases hmark with rfl | rfl
  · rw [List.nil_append]
    unfold dropByteOrderMark
    split
    · simp at hs
    · rfl
  · rfl

theorem dropByteOrderMark_suffix (s : List Char) : dropByteOrderMark s <:+ s := by
  obtain ⟨mark, -, hs⟩ := exists_mark s
  exact ⟨mark, hs.symm⟩

end Text

/-! ## Cutting a source file -/

namespace Sections

variable {source content block rest body s : List Char}

/-- Whether a line ends at the front of a text. -/
def EndsLine (s : List Char) : Prop := s.head? = some '\n' ∨ s.take 2 = ['\r', '\n']

/-- Whether a text does not begin with a line break. -/
def BeginsUnbroken (s : List Char) : Prop := ∀ c, s.head? = some c → Text.isLineBreak c = false

/-- What stands in front of a block: blanks, and a fence that ends its line. -/
inductive IsOpening : List Char → Prop
  | intro {blanks breaks : List Char} (hblanks : ∀ c ∈ blanks, Text.isBlank c = true)
      (hbreaks : ∀ c ∈ breaks, Text.isLineBreak c = true)
      (hends : EndsLine breaks) : IsOpening (blanks ++ fence ++ breaks)

/-- What stands behind a block: a fence at the start of a line, and line breaks. -/
inductive IsClosing (block : List Char) : List Char → Prop
  | intro {breaks : List Char} (hbreaks : ∀ c ∈ breaks, Text.isLineBreak c = true) :
      IsClosing block ((if block = [] then [] else ['\n']) ++ fence ++ breaks)

/-- A source file with a block between fences. -/
inductive IsFenced : (source block body : List Char) → Prop
  | intro {mark opening block closing body : List Char} (hmark : Text.IsMark mark)
      (hopening : IsOpening opening) (hclosing : IsClosing block closing)
      (hblock : BeginsUnbroken block) (hbody : BeginsUnbroken body)
      (hlines : ∀ line ∈ Text.linesKept block, ¬ fence <+: line) :
      IsFenced (mark ++ (opening ++ (block ++ (closing ++ body)))) block body

theorem dropBreaks_eq_iff :
    dropBreaks s = body ↔ ∃ breaks, s = breaks ++ body ∧
      (∀ c ∈ breaks, Text.isLineBreak c = true) ∧ BeginsUnbroken body :=
  Text.dropFront_eq_iff

theorem IsOpening.head?_append_ne (h : IsOpening s) (t : List Char) :
    (s ++ t).head? ≠ some '\uFEFF' := by
  obtain @⟨blanks, breaks, hblanks, -, -⟩ := h
  cases blanks with
  | nil => simp [fence]
  | cons c blanks =>
    have hblank : Text.isBlank c = true := hblanks c List.mem_cons_self
    rintro ⟨⟩
    cases hblank

/-- What follows an opening does not begin with a line break, be it a block or a fence. -/
theorem beginsUnbroken_closing (hblock : BeginsUnbroken block) (t : List Char) :
    BeginsUnbroken (block ++ ((if block = [] then [] else ['\n']) ++ fence ++ t)) := by
  cases block with
  | nil =>
    rintro c ⟨⟩
    rfl
  | cons c block => exact fun d hd => hblock d (by simpa using hd)

/-- A line break is not made of two parts of which the second begins unbroken. -/
theorem endsLine_append_iff {breaks : List Char} (hrest : BeginsUnbroken rest) :
    EndsLine (breaks ++ rest) ↔ EndsLine breaks := by
  have hfeed : rest.head? ≠ some '\n' := fun h => by simpa [Text.isLineBreak] using hrest '\n' h
  have hreturn : rest.head? ≠ some '\r' := fun h => by simpa [Text.isLineBreak] using hrest '\r' h
  match breaks with
  | [] =>
    cases rest with
    | nil => rfl
    | cons c rest =>
      have hc : c ≠ '\n' ∧ c ≠ '\r' := by simpa using And.intro hfeed hreturn
      simp [EndsLine, hc]
  | [c] =>
    cases rest with
    | nil => rfl
    | cons d rest =>
      have hd : d ≠ '\n' := by simpa using hfeed
      simp [EndsLine, hd]
  | c :: d :: breaks => rfl

theorem afterOpening?_eq_some_iff :
    afterOpening? content = some rest ↔
      (∃ opening, IsOpening opening ∧ content = opening ++ rest) ∧ BeginsUnbroken rest := by
  have hopens : afterOpening? content = some rest ↔ ∃ line, Text.trimStart content = fence ++ line ∧
      EndsLine line ∧ dropBreaks line = rest := by
    simp [afterOpening?, Option.bind_eq_some_iff, Text.stripPrefix?_eq_some_iff, EndsLine]
  rw [hopens]
  constructor
  · rintro ⟨line, hline, hends, hdrop⟩
    obtain ⟨breaks, rfl, hbreaks, hrest⟩ := dropBreaks_eq_iff.1 hdrop
    obtain ⟨blanks, hblanks, hall, -⟩ := Text.dropFront_eq_iff.1 hline
    refine ⟨⟨_, .intro hall hbreaks ((endsLine_append_iff hrest).1 hends), ?_⟩, hrest⟩
    simp [hblanks]
  · rintro ⟨⟨_, @⟨blanks, breaks, hall, hbreaks, hends⟩, rfl⟩, hrest⟩
    refine ⟨breaks ++ rest, ?_, (endsLine_append_iff hrest).2 hends,
      dropBreaks_eq_iff.2 ⟨breaks, rfl, hbreaks, hrest⟩⟩
    refine Text.dropFront_eq_iff.2 ⟨blanks, by simp, hall, ?_⟩
    rintro c ⟨⟩
    rfl

theorem breakAtClosing?_eq_some_iff (hs : BeginsUnbroken s) :
    breakAtClosing? s = some (block, rest) ↔
      s = block ++ ((if block = [] then [] else ['\n']) ++ fence ++ rest) ∧ BeginsUnbroken block ∧
        ∀ line ∈ Text.linesKept block, ¬ fence <+: line := by
  have hfeed : '\n' ∉ fence := by simp [fence]
  rw [Text.beginsNoLine_iff (by simp [fence]) hfeed, breakAtClosing?]
  constructor
  · intro h
    -- A fence in front ends an empty block, and any other fence stands behind a line feed.
    cases hstrip : Text.stripPrefix? fence s with
    | some after =>
      obtain ⟨rfl, rfl⟩ : [] = block ∧ after = rest := by simpa [hstrip] using h
      simp [Text.stripPrefix?_eq_some_iff.1 hstrip, BeginsUnbroken, fence]
    | none =>
      rw [hstrip] at h
      obtain ⟨rfl, hinfix⟩ := (Text.breakOn?_feed_eq_some_iff hfeed).1 h
      cases block with
      | nil => simpa [Text.isLineBreak] using hs '\n' rfl
      | cons c block =>
        have hprefix : ¬ fence <+: c :: block := fun hpre =>
          Text.stripPrefix?_eq_none_iff.1 hstrip (hpre.trans ⟨('\n' :: fence) ++ rest, by simp⟩)
        exact ⟨by simp, fun d hd => hs d (by simpa using hd), hprefix, hinfix⟩
  · rintro ⟨rfl, -, hprefix, hinfix⟩
    by_cases hblock : block = []
    · simp [hblock, Text.stripPrefix?_append]
    · have hnone : Text.stripPrefix? fence (block ++ '\n' :: (fence ++ rest)) = none := by
        rwa [Text.stripPrefix?_eq_none_iff, Text.prefix_append_cons_iff hfeed]
      have hfound : Text.breakOn? ('\n' :: fence) (block ++ '\n' :: (fence ++ rest)) =
          some (block, rest) :=
        (Text.breakOn?_feed_eq_some_iff hfeed).2 ⟨by simp, hinfix⟩
      simp only [if_neg hblock, List.cons_append, List.nil_append, hnone, hfound]

/-- A source file is cut into the block between its fences and the body behind them. -/
theorem isFenced_iff :
    IsFenced source block body ↔ ∃ rest, (afterOpening? (Text.dropByteOrderMark source)).bind
      breakAtClosing? = some (block, rest) ∧ dropBreaks rest = body := by
  constructor
  · rintro @⟨mark, opening, _, _, _, hmark, hopening, @⟨breaks, hbreaks⟩, hblock, hbody, hlines⟩
    refine ⟨breaks ++ body, ?_, dropBreaks_eq_iff.2 ⟨breaks, rfl, hbreaks, hbody⟩⟩
    have hs := beginsUnbroken_closing hblock (breaks ++ body)
    have hclose := (breakAtClosing?_eq_some_iff hs).2 ⟨rfl, hblock, hlines⟩
    have hafter := afterOpening?_eq_some_iff.2 ⟨⟨opening, hopening, rfl⟩, hs⟩
    rw [Text.dropByteOrderMark_append hmark (hopening.head?_append_ne _),
      List.append_assoc _ breaks body]
    exact Option.bind_eq_some_iff.2 ⟨_, hafter, hclose⟩
  · rintro ⟨rest, hcut, hdrop⟩
    obtain ⟨s, hafter, hclose⟩ := Option.bind_eq_some_iff.1 hcut
    obtain ⟨⟨opening, hopening, hcontent⟩, hs⟩ := afterOpening?_eq_some_iff.1 hafter
    obtain ⟨rfl, hblock, hlines⟩ := (breakAtClosing?_eq_some_iff hs).1 hclose
    obtain ⟨breaks, rfl, hbreaks, hbody⟩ := dropBreaks_eq_iff.1 hdrop
    obtain ⟨mark, hmark, hsource⟩ := Text.exists_mark source
    rw [hsource, hcontent]
    have h := IsFenced.intro hmark hopening (.intro hbreaks) hblock hbody hlines
    simpa using h

/-- What stands between fences counts as a block when it is blank or has a field. -/
def IsBlock (block : List Char) : Prop := Text.trim block = [] ∨ hasField block = true

theorem trim_ne_nil_of_hasField (h : hasField block = true) : Text.trim block ≠ [] := by
  obtain ⟨line, hline, hfield⟩ := List.any_eq_true.1 h
  -- The colon of the field is no blank.
  have hcolon : ':' ∈ Text.trim line := by
    simp only [isFieldLine, Bool.and_eq_true, Bool.not_eq_true',
      List.isEmpty_eq_false_iff] at hfield
    simpa using hfield.1.1.2
  exact List.ne_nil_of_mem
    (Text.mem_trim (Text.mem_of_mem_lines hline (Text.mem_of_mem_trim hcolon)) rfl)

theorem ofChars_of_isFenced (h : IsFenced source block body) :
    ofChars source =
      if Text.trim block = [] then ⟨none, body⟩
      else if hasField block then ⟨some block, body⟩
      else ⟨none, Text.dropByteOrderMark source⟩ := by
  obtain ⟨rest, hcut, rfl⟩ := isFenced_iff.1 h
  simp [ofChars, hcut]

theorem ofChars_of_not_isFenced (h : ∀ block body, ¬ IsFenced source block body) :
    ofChars source = ⟨none, Text.dropByteOrderMark source⟩ := by
  have hcut : (afterOpening? (Text.dropByteOrderMark source)).bind breakAtClosing? = none := by
    rw [Option.eq_none_iff_forall_ne_some]
    rintro ⟨block, rest⟩ hcut
    exact h block (dropBreaks rest) (isFenced_iff.2 ⟨rest, hcut, rfl⟩)
  simp [ofChars, hcut]

/-- The body is the end of the source file, and all of it if there is no block. -/
theorem body_ofChars (source : List Char) :
    (ofChars source).body <:+ source ∧
      ((∀ block body, IsFenced source block body → ¬ IsBlock block) →
        ofChars source = ⟨none, Text.dropByteOrderMark source⟩) := by
  by_cases hfenced : ∃ block body, IsFenced source block body
  · obtain ⟨block, body, h⟩ := hfenced
    have hbody : body <:+ source := by
      cases h
      simp only [← List.append_assoc]
      exact List.suffix_append _ _
    rw [ofChars_of_isFenced h]
    constructor
    · split
      · exact hbody
      · split
        · exact hbody
        · exact Text.dropByteOrderMark_suffix source
    · intro hnone
      obtain ⟨htrim, hfield⟩ := not_or.1 (hnone block body h)
      rw [if_neg htrim, if_neg hfield]
  · have hnone : ∀ block body, ¬ IsFenced source block body := fun block body h =>
      hfenced ⟨block, body, h⟩
    rw [ofChars_of_not_isFenced hnone]
    exact ⟨Text.dropByteOrderMark_suffix source, fun _ => rfl⟩

end Sections

/-! ## Fields -/

namespace FrontMatter
open Sections

/-- A block with a field, put between fences, is read as it is, and what follows the fences is the
body. The body of a source file is its end in any case, and all of it if there is no block. -/
theorem block_and_body_recovered :
    (∀ mark blanks block body, Text.IsMark mark → (∀ c ∈ blanks, Text.isBlank c = true) →
      BeginsUnbroken block → (∀ line ∈ Text.linesKept block, ¬ fence <+: line) →
      hasField block = true → BeginsUnbroken body →
      parse? (mark ++ blanks ++ "---\n".toList ++ block ++ "\n---\n".toList ++ body) =
        (ofBlock? block).map (·, body)) ∧
    ∀ source f body, parse? source = some (f, body) →
      body <:+ source ∧
        ((∀ block rest, IsFenced source block rest → ¬ IsBlock block) →
          f = {} ∧ body = Text.dropByteOrderMark source) := by
  constructor
  · intro mark blanks block body hmark hblanks hblock hlines hfield hbody
    have htrim := trim_ne_nil_of_hasField hfield
    have hne : block ≠ [] := by
      rintro rfl
      exact htrim rfl
    have hfeed : ∀ c ∈ ['\n'], Text.isLineBreak c = true := by simp [Text.isLineBreak]
    have hfenced := IsFenced.intro hmark (.intro hblanks hfeed (Or.inl rfl)) (.intro hfeed) hblock
      hbody hlines
    have hsections := ofChars_of_isFenced hfenced
    rw [if_neg htrim, if_pos hfield, if_neg hne] at hsections
    have hsource : mark ++ blanks ++ "---\n".toList ++ block ++ "\n---\n".toList ++ body =
        mark ++ (blanks ++ fence ++ ['\n'] ++
          (block ++ (['\n'] ++ fence ++ ['\n'] ++ body))) := by
      simp [fence]
    rw [parse?, hsource, hsections]
  · intro source f body h
    obtain ⟨hsuffix, hnone⟩ := body_ofChars source
    have hbody : (ofChars source).body = body := by
      rw [parse?] at h
      split at h
      · cases h
        rfl
      · obtain ⟨fields, -, heq⟩ := Option.map_eq_some_iff.1 h
        cases heq
        rfl
    refine ⟨hbody ▸ hsuffix, fun hunfenced => ?_⟩
    rw [parse?, hnone hunfenced] at h
    cases h
    exact ⟨rfl, rfl⟩

/-- Rules in a body are kept. A rule on the first line of a source file does not open a block when
no field follows. -/
theorem rules_in_body_kept :
    (hasField "title: a: b".toList = true ∧
      parse? "\uFEFF\n---\ntitle: a: b\n---\n# x\n---\n\n---\n".toList =
        (ofBlock? "title: a: b".toList).map (·, "# x\n---\n\n---\n".toList)) ∧
    ((∀ block rest, IsFenced "---\na dream\n---\nb\n".toList block rest → ¬ IsBlock block) ∧
      ∀ f body, parse? "---\na dream\n---\nb\n".toList = some (f, body) →
        f = {} ∧ body = "---\na dream\n---\nb\n".toList) := by
  have hunfenced : ∀ block rest, IsFenced "---\na dream\n---\nb\n".toList block rest →
      ¬ IsBlock block := by
    intro block rest h
    obtain ⟨_, hcut, -⟩ := isFenced_iff.1 h
    obtain ⟨rfl, -⟩ : "a dream".toList = block ∧ _ := Prod.mk.inj (Option.some.inj hcut)
    rintro (htrim | hfield)
    · exact absurd htrim (by decide)
    · exact absurd hfield (by decide)
  refine ⟨⟨by decide, ?_⟩, hunfenced, fun f body h => ?_⟩
  · exact block_and_body_recovered.1 ['\uFEFF'] ['\n'] "title: a: b".toList
      "# x\n---\n\n---\n".toList (Or.inr rfl) (by simp [Text.isBlank]) (by rintro c ⟨⟩; rfl)
      (by decide) (by decide) (by rintro c ⟨⟩; rfl)
  · exact (block_and_body_recovered.2 _ f body h).2 hunfenced

end FrontMatter
end StaticBlog
