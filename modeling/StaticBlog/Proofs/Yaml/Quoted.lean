import Mathlib.Data.List.TakeWhile
import StaticBlog.Json.Basic
import StaticBlog.Yaml.Scalar

/-!
# JSON strings as YAML scalars

A JSON string is read as a scalar in double quotes. Such a scalar is folded where its line ends, and
JSON does not escape all the characters that end a line of YAML.

- `written` : what stands behind the opening quote of a JSON string
- `gapRead`, `folded_gapOf` : a run of blanks and line breaks, and when folding keeps it
- `isFolded` : whether a text is changed, or cannot be read, at its first character
- `readQuoted?_quote` : reading a JSON string stops behind it, and when that gives its text
-/

namespace StaticBlog
namespace Yaml

variable {c : Char} {t rest s z : List Char} {cur : Cursor}

/-! ## Characters -/

/-- Whether a JSON string escapes a character. -/
def isEscaped (c : Char) : Bool := c = '"' || c = '\\' || decide (c.toNat < 32)

/-- Whether a character separates lines or paragraphs. -/
def isSeparator (c : Char) : Bool := c = '\u2028' || c = '\u2029'

/-- Whether a character of a JSON string is a blank or a line break in YAML. -/
def isGapChar (c : Char) : Bool := c = ' ' || c = '\u0085' || isSeparator c

theorem quoteChar_eq_self (h : isEscaped c = false) : Json.quoteChar c = [c] := by
  simp only [isEscaped, Bool.or_eq_false_iff, decide_eq_false_iff_not] at h
  obtain ⟨⟨hquote, hslash⟩, hcontrol⟩ := h
  have hne : ∀ d : Char, d.toNat < 32 → c ≠ d := fun d hd heq => hcontrol (heq ▸ hd)
  simp only [Json.quoteChar, if_neg hquote, if_neg hslash, if_neg hcontrol,
    if_neg (hne '\n' (by decide)), if_neg (hne '\r' (by decide)), if_neg (hne '\t' (by decide)),
    if_neg (hne '\x08' (by decide)), if_neg (hne '\x0c' (by decide))]

theorem isGapChar_eq (h : isEscaped c = false) : (isBlank c || isBreak c) = isGapChar c := by
  simp only [isEscaped, Bool.or_eq_false_iff, decide_eq_false_iff_not] at h
  have hne : ∀ d : Char, d.toNat < 32 → c ≠ d := fun d hd heq => h.2 (heq ▸ hd)
  simp [isBlank, isBreak, isGapChar, isSeparator, hne '\n' (by decide), hne '\r' (by decide),
    hne '\t' (by decide), Bool.or_assoc]

theorem isEscaped_of_isGapChar (h : isGapChar c = true) : isEscaped c = false := by
  simp only [isGapChar, isSeparator, Bool.or_eq_true, decide_eq_true_eq] at h
  rcases h with (rfl | rfl) | rfl | rfl <;> decide

theorem isGapChar_eq_false (h : isEscaped c = true) : isGapChar c = false := by
  cases hgap : isGapChar c with
  | false => rfl
  | true =>
    rw [isEscaped_of_isGapChar hgap] at h
    cases h

/-- An escape of one character. -/
theorem readEscape?_char {e : Char} (he : escapeOf? e = some (.char c))
    (hcur : cur.rest = e :: s) : readEscape? cur = some (c, cur.skip 1) := by
  simp [readEscape?, hcur, he]

/-- A control character that is written by its number. -/
theorem readEscape?_code {n : Nat} (hn : n < 32)
    (hcur : cur.rest = 'u' :: '0' :: '0' :: Json.hexDigit (n / 16) :: Json.hexDigit (n % 16) :: s) :
    readEscape? cur = some (Char.ofNat n, cur.skip 5) := by
  have hvalue : ∀ n < 32,
      Text.hexNumber? ['0', '0', Json.hexDigit (n / 16), Json.hexDigit (n % 16)] =
      some n ∧ Text.charOf? n = some (Char.ofNat n) := by decide
  obtain ⟨hnumber, hchar⟩ := hvalue n hn
  simp [readEscape?, hcur, escapeOf?, hnumber, hchar]

/-- What follows the backslash of an escaped character is read as that character. -/
theorem readEscape?_quoteChar (h : isEscaped c = true) :
    ∃ e w, Json.quoteChar c = '\\' :: e :: w ∧ isBreak e = false ∧
      ∀ cur : Cursor, cur.rest = e :: (w ++ z) →
        readEscape? cur = some (c, cur.skip (w.length + 1)) := by
  unfold Json.quoteChar
  split
  · next hc => exact ⟨'"', [], rfl, rfl, fun cur => readEscape?_char (by rw [hc]; rfl)⟩
  split
  · next hc => exact ⟨'\\', [], rfl, rfl, fun cur => readEscape?_char (by rw [hc]; rfl)⟩
  split
  · next hc => exact ⟨'n', [], rfl, rfl, fun cur => readEscape?_char (hc ▸ rfl)⟩
  split
  · next hc => exact ⟨'r', [], rfl, rfl, fun cur => readEscape?_char (hc ▸ rfl)⟩
  split
  · next hc => exact ⟨'t', [], rfl, rfl, fun cur => readEscape?_char (hc ▸ rfl)⟩
  split
  · next hc => exact ⟨'b', [], rfl, rfl, fun cur => readEscape?_char (hc ▸ rfl)⟩
  split
  · next hc => exact ⟨'f', [], rfl, rfl, fun cur => readEscape?_char (hc ▸ rfl)⟩
  split
  · next hc =>
    refine ⟨'u', _, rfl, rfl, fun cur hcur => ?_⟩
    have hread := readEscape?_code hc hcur
    rwa [Char.ofNat_toNat] at hread
  · next hquote hslash _ _ _ _ _ hcontrol => simp [isEscaped, hquote, hslash, hcontrol] at h

/-! ## Written texts -/

/-- What stands behind the opening quote of a JSON string, with more text behind the closing one. -/
def written (t rest : List Char) : List Char := t.flatMap Json.quoteChar ++ '"' :: rest

@[simp] theorem written_nil (rest : List Char) : written [] rest = '"' :: rest := rfl

theorem written_cons (c : Char) (t rest : List Char) :
    written (c :: t) rest = Json.quoteChar c ++ written t rest := by
  simp [written]

theorem written_cons_of_unescaped (h : isEscaped c = false) (t rest : List Char) :
    written (c :: t) rest = c :: written t rest := by
  rw [written_cons, quoteChar_eq_self h]
  rfl

theorem written_append_of_unescaped (h : ∀ c ∈ s, isEscaped c = false) (t rest : List Char) :
    written (s ++ t) rest = s ++ written t rest := by
  induction s with
  | nil => rfl
  | cons c s ih =>
    obtain ⟨hc, hs⟩ := List.forall_mem_cons.1 h
    rw [List.cons_append, written_cons_of_unescaped hc, ih hs]
    rfl

/-- What is not escaped stands at the front of a text when it stands at the front as it is
written. -/
theorem eq_append_of_written_eq_append (h : ∀ c ∈ s, isEscaped c = false)
    (heq : written t rest = s ++ z) : ∃ u, t = s ++ u ∧ z = written u rest := by
  induction s generalizing t with
  | nil => exact ⟨t, rfl, heq.symm⟩
  | cons c s ih =>
    obtain ⟨hc, hs⟩ := List.forall_mem_cons.1 h
    cases t with
    | nil =>
      obtain ⟨rfl, -⟩ := List.cons.inj heq
      cases hc
    | cons d t =>
      cases hd : isEscaped d with
      | true =>
        -- An escape begins with a backslash, which is escaped itself.
        obtain ⟨e, w, hquote, -⟩ := readEscape?_quoteChar (z := []) hd
        rw [written_cons, hquote] at heq
        obtain ⟨rfl, -⟩ := List.cons.inj heq
        cases hc
      | false =>
        rw [written_cons_of_unescaped hd] at heq
        obtain ⟨rfl, htail⟩ := List.cons.inj heq
        obtain ⟨u, rfl, hz⟩ := ih hs htail
        exact ⟨u, rfl, hz⟩

theorem endsWord_written (t rest : List Char) :
    endsWord (written t rest) = t.head?.any isGapChar := by
  cases t with
  | nil => rfl
  | cons c t =>
    cases hc : isEscaped c with
    | false => simp [written_cons_of_unescaped hc, endsWord, isGapChar_eq hc]
    | true =>
      obtain ⟨e, w, hquote, -⟩ := readEscape?_quoteChar (z := []) hc
      simp [written_cons, hquote, endsWord, isBlank, isBreak, isGapChar_eq_false hc]

/-- Whether a document would start or end at a text if it stood at the start of a line. -/
def isMarked (t : List Char) : Bool :=
  (t.take 3 = "---".toList || t.take 3 = "...".toList) && (t.drop 3).head?.any isGapChar

theorem isMarkerLine_iff {mark : Char} :
    isMarkerLine mark s = true ↔ ∃ z, s = [mark, mark, mark] ++ z ∧ endsWord z = true := by
  unfold isMarkerLine
  split
  · simp only [Bool.and_eq_true, decide_eq_true_eq]
    constructor
    · rintro ⟨⟨⟨rfl, rfl⟩, rfl⟩, hends⟩
      exact ⟨_, rfl, hends⟩
    · rintro ⟨z, heq, hends⟩
      cases heq
      exact ⟨⟨⟨rfl, rfl⟩, rfl⟩, hends⟩
  · next h =>
    simp only [Bool.false_eq_true, false_iff]
    rintro ⟨z, heq, -⟩
    exact h _ _ _ _ heq

theorem isMarkerLine_written {mark : Char} (hmark : isEscaped mark = false)
    (t rest : List Char) : isMarkerLine mark (written t rest) =
      (t.take 3 = [mark, mark, mark] && (t.drop 3).head?.any isGapChar) := by
  have hmarks : ∀ c ∈ [mark, mark, mark], isEscaped c = false := by simp [hmark]
  rw [Bool.eq_iff_iff, isMarkerLine_iff, Bool.and_eq_true, decide_eq_true_eq]
  constructor
  · rintro ⟨z, heq, hends⟩
    obtain ⟨u, rfl, rfl⟩ := eq_append_of_written_eq_append hmarks heq
    rw [endsWord_written] at hends
    exact ⟨rfl, hends⟩
  · rintro ⟨htake, hends⟩
    refine ⟨written (t.drop 3) rest, ?_, (endsWord_written _ _).trans hends⟩
    rw [← written_append_of_unescaped hmarks, ← htake, List.take_append_drop]

theorem isDocumentMarker_written (t rest : List Char) :
    isDocumentMarker (written t rest) = isMarked t := by
  rw [isDocumentMarker, isMarkerLine_written rfl, isMarkerLine_written rfl, isMarked,
    Bool.and_or_distrib_right]
  rfl

/-! ## Gaps -/

/-- What a line break is in the content of a scalar. -/
def breakChar (c : Char) : Char := if isSeparator c then c else '\n'

theorem breakText_of_isBreak (hcur : cur.rest = c :: s) (hc : isBreak c = true) :
    cur.breakText = [breakChar c] := by
  simp only [Cursor.breakText, hcur, breakChar, isSeparator, hc]
  split <;> simp_all

theorem isGapChar_cases (h : isGapChar c = true) :
    c = ' ' ∨ (isBlank c = false ∧ isBreak c = true) := by
  simp only [isGapChar, isSeparator, Bool.or_eq_true, decide_eq_true_eq] at h
  rcases h with (rfl | rfl) | rfl | rfl
  · exact Or.inl rfl
  · exact Or.inr (by decide)
  · exact Or.inr (by decide)
  · exact Or.inr (by decide)

theorem skipBreak_of_isGapChar (h : isGapChar c = true) (hcur : cur.rest = c :: s) :
    cur.skipBreak.rest = s ∧ cur.skipBreak.column = 0 := by
  have hreturn : c ≠ '\r' := by
    rintro rfl
    cases h
  unfold Cursor.skipBreak
  rw [hcur]
  split
  · next heq => exact absurd (List.cons.inj heq).1 hreturn
  · next heq =>
    cases heq
    exact ⟨rfl, rfl⟩
  · next heq => cases heq

/-- Whether a line starts behind a run of blanks and line breaks. -/
def startsLine (before : Bool) (s : List Char) : Bool := s.foldl (fun _ c => isBreak c) before

/-- What a run of blanks and line breaks is read as. -/
def gapOf (newLine : Bool) (s : List Char) : Gap :=
  ⟨if newLine then [] else s.takeWhile (· = ' '), (s.filter isBreak).map fun c => [breakChar c]⟩

/-- A gap goes as far as its run of blanks and line breaks does. -/
theorem gapRead (hs : ∀ c ∈ s, isGapChar c = true) (hz : endsWord z = false)
    (hcur : cur.rest = s ++ z) {fuel : Nat} (hfuel : s.length < fuel) (newLine : Bool) :
    ∃ next, Gap.read 0 fuel newLine cur = some (gapOf newLine s, next) ∧ next.rest = z ∧
      decide (next.column = 0) = startsLine (cur.column = 0) s := by
  induction s generalizing cur fuel newLine with
  | nil =>
    obtain ⟨fuel, rfl⟩ : ∃ n, fuel = n + 1 := Nat.exists_eq_add_one.2 hfuel
    refine ⟨cur, ?_, hcur, rfl⟩
    rw [Gap.read, hcur]
    cases z with
    | nil => cases newLine <;> rfl
    | cons c z =>
      obtain ⟨hblank, hbreak⟩ := Bool.or_eq_false_iff.1 hz
      simp only [List.nil_append, hblank, hbreak, Bool.false_eq_true, if_false]
      cases newLine <;> rfl
  | cons c s ih =>
    obtain ⟨fuel, rfl⟩ : ∃ n, fuel = n + 1 := Nat.exists_eq_add_one.2 (Nat.zero_lt_of_lt hfuel)
    obtain ⟨hc, hs'⟩ := List.forall_mem_cons.1 hs
    have hfuel' : s.length < fuel := Nat.lt_of_succ_lt_succ hfuel
    -- A blank stays in its line, and a line break begins another one.
    rcases isGapChar_cases hc with rfl | ⟨hblank, hbreak⟩
    · have hskip : (cur.skip 1).rest = s ++ z := by simp [Cursor.skip, hcur]
      obtain ⟨next, hread, hrest, hcolumn⟩ := ih hs' hskip hfuel' newLine
      refine ⟨next, ?_, hrest, hcolumn⟩
      rw [Gap.read, hcur]
      cases newLine <;> simp [isBlank, hread, gapOf, isBreak]
    · obtain ⟨hskip, hcolumn⟩ := skipBreak_of_isGapChar hc hcur
      obtain ⟨next, hread, hrest, hnext⟩ := ih hs' hskip hfuel' true
      refine ⟨next, ?_, hrest, ?_⟩
      · have hne : c ≠ ' ' := by
          rintro rfl
          cases hbreak
        rw [Gap.read, hcur]
        cases newLine <;>
          simp [hblank, hbreak, hread, gapOf, breakText_of_isBreak hcur hbreak, hne]
      · rw [hnext, hcolumn]
        simp [startsLine, hbreak]

/-- Whether a run of blanks and line breaks is made of one kind that folding keeps. -/
def IsEven (s : List Char) : Prop := (∀ c ∈ s, c = ' ') ∨ ∀ c ∈ s, isSeparator c = true

theorem isBreak_of_isSeparator (h : isSeparator c = true) : isBreak c = true := by
  simp only [isSeparator, Bool.or_eq_true, decide_eq_true_eq] at h
  rcases h with rfl | rfl <;> decide

theorem breakChar_eq_self_iff (h : isGapChar c = true) :
    breakChar c = c ↔ isSeparator c = true := by
  unfold breakChar
  split
  · next hc => simp [hc]
  · next hc =>
    have hfeed : '\n' ≠ c := by
      rintro rfl
      cases h
    simp [hc, hfeed]

theorem flatten_breakChars (s : List Char) :
    (s.map fun c => [breakChar c]).flatten = s.map breakChar := by
  rw [← List.flatMap_def, ← List.map_eq_flatMap]

theorem folded_gapOf_of_blanks (h : ∀ c ∈ s, c = ' ') : (gapOf false s).folded = s := by
  have hbreaks : s.filter isBreak = [] := by
    rw [List.filter_eq_nil_iff]
    rintro c hc hbreak
    rw [h c hc] at hbreak
    cases hbreak
  simp only [gapOf, hbreaks, Gap.folded, List.map_nil]
  exact List.takeWhile_eq_self_iff.2 fun c hc => by simpa using h c hc

/-- A next line character is lost, or becomes a blank when it is the only break. -/
theorem folded_gapOf_of_nextLine {b : Char} {bs : List Char} (hbreaks : s.filter isBreak = b :: bs)
    (hsep : isSeparator b = false) :
    (gapOf false s).folded = if bs = [] then [' '] else bs.map breakChar := by
  have hfeed : breakChar b = '\n' := by
    rw [breakChar, hsep]
    rfl
  simp only [gapOf, hbreaks, Gap.folded, List.map_cons, hfeed, flatten_breakChars,
    List.isEmpty_iff, List.map_eq_nil_iff, if_true]

theorem folded_gapOf_of_separator {b : Char} {bs : List Char} (hbreaks : s.filter isBreak = b :: bs)
    (hsep : isSeparator b = true) :
    (gapOf false s).folded = (s.filter isBreak).map breakChar := by
  have hkept : breakChar b = b := by rw [breakChar, if_pos hsep]
  have hfeed : [b] ≠ ['\n'] := by
    rintro ⟨⟩
    cases hsep
  simp only [gapOf, hbreaks, Gap.folded, List.map_cons, hkept, flatten_breakChars, if_neg hfeed,
    List.singleton_append]

/-- The breaks of a run are the run if all of it are separators. -/
theorem map_breakChar_filter_eq_iff (hs : ∀ c ∈ s, isGapChar c = true) :
    (s.filter isBreak).map breakChar = s ↔ ∀ c ∈ s, isSeparator c = true := by
  constructor
  · intro h
    have hall : s.filter isBreak = s := by
      apply List.filter_sublist.eq_of_length
      rw [← List.length_map breakChar, h]
    rw [hall] at h
    have hkept := List.map_inj_left.1 (h.trans (List.map_id s).symm)
    exact fun c hc => (breakChar_eq_self_iff (hs c hc)).1 (hkept c hc)
  · intro h
    have hall : s.filter isBreak = s :=
      List.filter_eq_self.2 fun c hc => isBreak_of_isSeparator (h c hc)
    have hid : s.map breakChar = s.map id :=
      List.map_inj_left.2 fun c hc => (breakChar_eq_self_iff (hs c hc)).2 (h c hc)
    rw [hall, hid, List.map_id]

/-- Folding keeps the runs of one kind, and makes no run longer. -/
theorem folded_gapOf (hs : ∀ c ∈ s, isGapChar c = true) :
    (gapOf false s).folded.length ≤ s.length ∧ ((gapOf false s).folded = s ↔ IsEven s) := by
  have hlength : (s.filter isBreak).length ≤ s.length := List.length_filter_le _ _
  cases hbreaks : s.filter isBreak with
  | nil =>
    have hblanks : ∀ c ∈ s, c = ' ' := by
      intro c hc
      rcases isGapChar_cases (hs c hc) with h | ⟨-, hbreak⟩
      · exact h
      · simpa [hbreaks] using List.mem_filter.2 ⟨hc, hbreak⟩
    rw [folded_gapOf_of_blanks hblanks]
    exact ⟨Nat.le_refl _, iff_of_true rfl (Or.inl hblanks)⟩
  | cons b bs =>
    obtain ⟨hb, hbreak⟩ : b ∈ s ∧ isBreak b = true :=
      List.mem_filter.1 (hbreaks ▸ List.mem_cons_self)
    have hnotBlanks : ¬ ∀ c ∈ s, c = ' ' := by
      intro h
      rw [h b hb] at hbreak
      cases hbreak
    cases hsep : isSeparator b with
    | true =>
      rw [folded_gapOf_of_separator hbreaks hsep, List.length_map, map_breakChar_filter_eq_iff hs]
      exact ⟨hlength, ⟨Or.inr, fun h => h.resolve_left hnotBlanks⟩⟩
    | false =>
      have huneven : ¬ IsEven s := by
        rintro (h | h)
        · exact hnotBlanks h
        · rw [h b hb] at hsep
          cases hsep
      rw [hbreaks, List.length_cons] at hlength
      rw [folded_gapOf_of_nextLine hbreaks hsep]
      by_cases hbs : bs = []
      · rw [if_pos hbs]
        refine ⟨Nat.le_trans (Nat.le_add_left 1 bs.length) hlength, iff_of_false ?_ huneven⟩
        rintro rfl
        exact hnotBlanks (by simp)
      · rw [if_neg hbs]
        have hshorter : (bs.map breakChar).length < s.length := by
          rw [List.length_map]
          exact hlength
        exact ⟨Nat.le_of_lt hshorter, iff_of_false (fun h => by simp [h] at hshorter) huneven⟩

/-! ## Folding -/

/-- Whether a text is changed or cannot be read from its first character on: a next line character
becomes a blank or a line feed, blanks beside a separator are lost, and what follows a separator may
be taken for the end of the document. -/
def isFolded : List Char → Bool
  | [] => false
  | c :: t =>
    c = '\u0085' || (c = ' ' && t.head?.any isSeparator) ||
      (isSeparator c && (t.head? = some ' ' || isMarked t))

/-- Whether no part of a text is changed. -/
def Unfolded (t : List Char) : Prop := ∀ u, u <:+ t → isFolded u = false

theorem unfolded_nil : Unfolded [] := by
  intro u hu
  rw [List.suffix_nil.1 hu]
  rfl

theorem unfolded_cons_iff : Unfolded (c :: t) ↔ isFolded (c :: t) = false ∧ Unfolded t := by
  simp [Unfolded, List.suffix_cons_iff]

/-- A text with none of the line breaks of YAML that JSON leaves as they are. -/
theorem unfolded_of_forall (h : ∀ c ∈ t, c ≠ '\u0085' ∧ isSeparator c = false) : Unfolded t := by
  intro u hu
  cases u with
  | nil => rfl
  | cons c u =>
    obtain ⟨hc, hu'⟩ := List.forall_mem_cons.1 fun d hd => h d (hu.subset hd)
    have hhead : u.head?.any isSeparator = false := by
      cases u with
      | nil => rfl
      | cons d u => exact (hu' d List.mem_cons_self).2
    simp [isFolded, hc.1, hc.2, hhead]

theorem unfolded_cons_of_ne (hc : isGapChar c = false) : Unfolded (c :: t) ↔ Unfolded t := by
  simp only [isGapChar, Bool.or_eq_false_iff, decide_eq_false_iff_not] at hc
  simp [unfolded_cons_iff, isFolded, hc]

theorem isMarked_of_isGapChar (hc : isGapChar c = true) (t : List Char) :
    isMarked (c :: t) = false := by
  have hdash : c ≠ '-' := by
    rintro rfl
    cases hc
  have hdot : c ≠ '.' := by
    rintro rfl
    cases hc
  simp [isMarked, hdash, hdot]

/-- A blank or line break in front of another one is kept if both are of one kind. -/
theorem isFolded_pair {d : Char} (hc : isGapChar c = true) (hd : isGapChar d = true)
    (t : List Char) : isFolded (c :: d :: t) = false ↔
      (c = ' ' ∧ isSeparator d = false) ∨ (isSeparator c = true ∧ d ≠ ' ') := by
  have hmark := isMarked_of_isGapChar hd t
  simp only [isFolded, hmark, List.head?_cons, Option.any_some, Option.some.injEq]
  simp only [isGapChar, isSeparator, Bool.or_eq_true, decide_eq_true_eq] at hc
  rcases hc with (rfl | rfl) | rfl | rfl <;> simp [isSeparator]

theorem isEven_cons_cons_iff {d : Char} (hc : isGapChar c = true) (hd : isGapChar d = true) :
    IsEven (c :: d :: s) ↔
      ((c = ' ' ∧ isSeparator d = false) ∨ (isSeparator c = true ∧ d ≠ ' ')) ∧ IsEven (d :: s) := by
  have hblank : isSeparator ' ' = false := by decide
  unfold IsEven
  simp only [List.forall_mem_cons]
  constructor
  · rintro (⟨rfl, rfl, h⟩ | ⟨hc, hd, h⟩)
    · exact ⟨Or.inl ⟨rfl, hblank⟩, Or.inl ⟨rfl, h⟩⟩
    · refine ⟨Or.inr ⟨hc, ?_⟩, Or.inr ⟨hd, h⟩⟩
      rintro rfl
      cases hd
  · rintro ⟨⟨rfl, hd'⟩ | ⟨hc, hd'⟩, ⟨rfl, h⟩ | ⟨hd, h⟩⟩
    · exact Or.inl ⟨rfl, rfl, h⟩
    · rw [hd] at hd'
      cases hd'
    · exact absurd rfl hd'
    · exact Or.inr ⟨hc, hd, h⟩

/-- A run of blanks and line breaks is kept if it is of one kind, and no marker follows a
separator. -/
theorem unfolded_append_iff (hs : ∀ c ∈ s, isGapChar c = true) (hne : s ≠ [])
    (hz : z.head?.any isGapChar = false) (before : Bool) :
    Unfolded (s ++ z) ↔ IsEven s ∧ (startsLine before s && isMarked z) = false ∧ Unfolded z := by
  induction s with
  | nil => exact absurd rfl hne
  | cons c s ih =>
    obtain ⟨hc, hs'⟩ := List.forall_mem_cons.1 hs
    rw [List.cons_append, unfolded_cons_iff]
    -- The last character is told by what follows the run, and any other by the next one.
    cases s with
    | nil =>
      have hblank : z.head? ≠ some ' ' := fun h => by simp [h, isGapChar] at hz
      have hsep : z.head?.any isSeparator = false := by
        cases hhead : z.head? with
        | none => rfl
        | some d =>
          rw [hhead] at hz
          exact (Bool.or_eq_false_iff.1 hz).2
      simp only [List.nil_append, ← and_assoc]
      refine and_congr_left fun _ => ?_
      simp only [isGapChar, isSeparator, Bool.or_eq_true, decide_eq_true_eq] at hc
      rcases hc with (rfl | rfl) | rfl | rfl <;>
        simp [isFolded, hsep, hblank, IsEven, startsLine, isBreak, isSeparator]
    | cons d s =>
      have hd : isGapChar d = true := hs' d List.mem_cons_self
      have hrest := ih hs' (by simp)
      rw [hrest, List.cons_append, isFolded_pair hc hd, isEven_cons_cons_iff hc hd, and_assoc]
      rfl

/-! ## Reading -/

section Reading

variable {fuel : Nat} {next : Cursor} {g : Gap}

theorem isMarkerLine_cons_of_ne {mark : Char} (h : c ≠ mark) (s : List Char) :
    isMarkerLine mark (c :: s) = false := by
  rw [Bool.eq_false_iff]
  intro hline
  obtain ⟨z, heq, -⟩ := isMarkerLine_iff.1 hline
  exact h (List.cons.inj heq).1

theorem isDocumentMarker_cons_of_ne (hdash : c ≠ '-') (hdot : c ≠ '.') (s : List Char) :
    isDocumentMarker (c :: s) = false := by
  simp [isDocumentMarker, isMarkerLine_cons_of_ne hdash, isMarkerLine_cons_of_ne hdot]

theorem readQuotedTail?_close (hcur : cur.rest = '"' :: s) :
    readQuotedTail? false (fuel + 1) cur = some ([], cur.skip 1) := by
  have hmark := isDocumentMarker_cons_of_ne (show '"' ≠ '-' by decide) (by decide) s
  simp [readQuotedTail?, hcur, hmark]

theorem readQuotedTail?_char (hcur : cur.rest = c :: s) (hesc : isEscaped c = false)
    (hgap : isGapChar c = false)
    (hmark : (decide (cur.column = 0) && isDocumentMarker cur.rest) = false) :
    readQuotedTail? false (fuel + 1) cur =
      (readQuotedTail? false fuel (cur.skip 1)).map fun r => (c :: r.1, r.2) := by
  have hplain := isGapChar_eq hesc
  simp only [isEscaped, Bool.or_eq_false_iff, decide_eq_false_iff_not] at hesc
  obtain ⟨⟨hquote, hslash⟩, -⟩ := hesc
  rw [readQuotedTail?, hmark, hcur]
  simp only [hplain, hgap, hquote, hslash, Bool.false_eq_true, if_false, Bool.false_and,
    Bool.not_false, Bool.true_and, decide_false]
  cases readQuotedTail? false fuel (cur.skip 1) <;> rfl

theorem readQuotedTail?_gap (hcur : cur.rest = c :: s) (hgap : isGapChar c = true)
    (hread : Gap.read 0 (s.length + 1) false cur = some (g, next)) :
    readQuotedTail? false (fuel + 1) cur =
      (readQuotedTail? false fuel next).map fun r => (g.folded ++ r.1, r.2) := by
  have hne : ∀ d, isGapChar d = false → c ≠ d := by
    rintro d hd rfl
    rw [hgap] at hd
    cases hd
  have hmark := isDocumentMarker_cons_of_ne (hne '-' rfl) (hne '.' rfl) s
  have hplain := (isGapChar_eq (isEscaped_of_isGapChar hgap)).trans hgap
  rw [readQuotedTail?, hcur, hmark, Bool.and_false]
  simp only [hplain, hne '"' rfl, hread, Bool.false_eq_true, if_false, if_true, Bool.false_and,
    Bool.not_false, Bool.true_and, decide_false]
  cases h : readQuotedTail? false fuel next <;> simp [h]

theorem readQuotedTail?_escape {e : Char} (hcur : cur.rest = '\\' :: e :: s)
    (he : isBreak e = false) (hread : readEscape? (cur.skip 1) = some (c, next)) :
    readQuotedTail? false (fuel + 1) cur =
      (readQuotedTail? false fuel next).map fun r => (c :: r.1, r.2) := by
  have hmark := isDocumentMarker_cons_of_ne (show '\\' ≠ '-' by decide) (by decide) (e :: s)
  have hplain : (isBlank '\\' || isBreak '\\') = false := by decide
  rw [readQuotedTail?, hcur, hmark, Bool.and_false]
  simp only [hplain, hread, endsLine, he, Bool.false_eq_true, if_false, if_true, Bool.not_false,
    Bool.true_and, Bool.and_false, decide_true, Char.reduceEq, decide_false]
  cases h : readQuotedTail? false fuel next <;> simp [h]

end Reading

/-- What is read as a written text: never more than it, and just the text if no part of it is folded
and no marker stands at its front where a line starts. -/
def IsReading (t rest : List Char) (fresh : Bool) (result : Option (List Char × Cursor)) : Prop :=
  ∃ (read : Option (List Char)) (next : Cursor), next.rest = rest ∧
    result = read.map (·, next) ∧ (∀ u, read = some u → u.length ≤ t.length) ∧
    (read = some t ↔ (fresh && isMarked t) = false ∧ Unfolded t)

/-- A piece at the front that is read as at most as many characters. -/
theorem IsReading.append {fresh before : Bool} {result : Option (List Char × Cursor)}
    (h : IsReading t rest fresh result) {piece : List Char} (hlength : piece.length ≤ s.length)
    (hkept : (before && isMarked (s ++ t)) = false ∧ Unfolded (s ++ t) ↔
      piece = s ∧ (fresh && isMarked t) = false ∧ Unfolded t) :
    IsReading (s ++ t) rest before (result.map fun r => (piece ++ r.1, r.2)) := by
  obtain ⟨read, next, hnext, rfl, hread, hsame⟩ := h
  refine ⟨read.map (piece ++ ·), next, hnext, ?_, ?_, ?_⟩
  · cases read <;> rfl
  · intro u hu
    obtain ⟨v, hv, rfl⟩ := Option.map_eq_some_iff.1 hu
    rw [List.length_append, List.length_append]
    exact Nat.add_le_add hlength (hread v hv)
  · rw [hkept, ← hsame, Option.map_eq_some_iff]
    constructor
    · rintro ⟨v, hv, heq⟩
      -- Neither part is longer than what it is read from, so both have its length.
      have hsum := congrArg List.length heq
      have hlater := hread v hv
      rw [List.length_append, List.length_append] at hsum
      obtain ⟨rfl, rfl⟩ := List.append_inj heq (by omega)
      exact ⟨rfl, hv⟩
    · rintro ⟨rfl, hv⟩
      exact ⟨t, hv, rfl⟩

/-- A text is a run of blanks and line breaks, and what follows it. -/
theorem exists_run (t : List Char) :
    ∃ s z, s ++ z = t ∧ (∀ c ∈ s, isGapChar c = true) ∧ z.head?.any isGapChar = false := by
  refine ⟨t.takeWhile isGapChar, t.dropWhile isGapChar, List.takeWhile_append_dropWhile,
    fun c hc => List.mem_takeWhile_imp hc, ?_⟩
  have hhead := List.head?_dropWhile_not isGapChar t
  cases h : (t.dropWhile isGapChar).head? with
  | none => rfl
  | some d =>
    rw [h] at hhead
    exact hhead

theorem IsReading.cons {before : Bool} {result : Option (List Char × Cursor)}
    (h : IsReading t rest false result) (hgap : isGapChar c = false)
    (hmark : (before && isMarked (c :: t)) = false) :
    IsReading (c :: t) rest before (result.map fun r => (c :: r.1, r.2)) := by
  refine h.append (show [c].length ≤ [c].length from Nat.le_refl 1) ?_
  simp [hmark, unfolded_cons_of_ne hgap]

theorem IsReading.run {before : Bool} {result : Option (List Char × Cursor)}
    (hs : ∀ c ∈ s, isGapChar c = true) (hne : s ≠ []) (hz : z.head?.any isGapChar = false)
    (h : IsReading z rest (startsLine before s) result)
    (hmark : (before && isMarked (s ++ z)) = false) :
    IsReading (s ++ z) rest before (result.map fun r => ((gapOf false s).folded ++ r.1, r.2)) := by
  obtain ⟨hlength, hsame⟩ := folded_gapOf hs
  refine h.append hlength ?_
  rw [hsame, hmark, unfolded_append_iff hs hne hz before]
  simp

/-! ### Steps of reading

Each takes one piece of a written text, where all that is behind it is read as it should be. -/

section Steps

variable {fuel : Nat}
  (hlater : ∀ (u : List Char) (next : Cursor), u.length ≤ t.length → next.rest = written u rest →
    next.rest.length < fuel → IsReading u rest (next.column = 0) (readQuotedTail? false fuel next))
  (hcur : cur.rest = written (c :: t) rest) (hfuel : cur.rest.length < fuel + 1)
  (hmark : (decide (cur.column = 0) && isMarked (c :: t)) = false)

include hlater hcur hfuel hmark

theorem isReading_of_escaped (hesc : isEscaped c = true) :
    IsReading (c :: t) rest (cur.column = 0) (readQuotedTail? false (fuel + 1) cur) := by
  obtain ⟨e, w, hquote, he, hread⟩ := readEscape?_quoteChar (z := written t rest) hesc
  have hwhole : cur.rest = '\\' :: e :: (w ++ written t rest) := by
    rw [hcur, written_cons, hquote]
    rfl
  have hnext : ((cur.skip 1).skip (w.length + 1)).rest = written t rest := by
    simp [Cursor.skip, hwhole]
  have hlength : (written t rest).length < fuel := by
    simp only [hwhole, List.length_cons, List.length_append] at hfuel
    omega
  have hrest := hlater t _ (Nat.le_refl _) hnext (hnext ▸ hlength)
  rw [readQuotedTail?_escape hwhole he (hread (cur.skip 1) (by simp [Cursor.skip, hwhole]))]
  exact IsReading.cons hrest (isGapChar_eq_false hesc) hmark

theorem isReading_of_unescaped (hesc : isEscaped c = false) (hgap : isGapChar c = false) :
    IsReading (c :: t) rest (cur.column = 0) (readQuotedTail? false (fuel + 1) cur) := by
  have hmarker := (congrArg isDocumentMarker hcur).trans (isDocumentMarker_written _ _)
  rw [written_cons_of_unescaped hesc] at hcur
  rw [hcur, List.length_cons] at hfuel
  have hnext : (cur.skip 1).rest = written t rest := by simp [Cursor.skip, hcur]
  have hrest := hlater t _ (Nat.le_refl _) hnext (hnext ▸ Nat.lt_of_succ_lt_succ hfuel)
  rw [readQuotedTail?_char hcur hesc hgap (hmarker ▸ hmark)]
  exact IsReading.cons hrest hgap hmark

theorem isReading_of_isGapChar (hgap : isGapChar c = true) :
    IsReading (c :: t) rest (cur.column = 0) (readQuotedTail? false (fuel + 1) cur) := by
  have hesc := isEscaped_of_isGapChar hgap
  rw [written_cons_of_unescaped hesc] at hcur
  rw [hcur, List.length_cons] at hfuel
  -- The whole run is read at once.
  obtain ⟨s, z, heq, hs, hz⟩ := exists_run (c :: t)
  have hne : s ≠ [] := by
    rintro rfl
    obtain rfl : z = c :: t := heq
    simp [hgap] at hz
  have hspan : c :: written t rest = s ++ written z rest := by
    rw [← written_cons_of_unescaped hesc, ← heq, written_append_of_unescaped
      fun d hd => isEscaped_of_isGapChar (hs d hd)]
  have hspos := List.length_pos_iff.2 hne
  have hzpos : 0 < (written z rest).length := List.length_pos_iff.2 (by simp [written])
  have hlength := congrArg List.length hspan
  rw [List.length_cons, List.length_append] at hlength
  obtain ⟨next, hread, hnext, hcolumn⟩ := gapRead hs ((endsWord_written z rest).trans hz)
    (hcur.trans hspan) (show s.length < (written t rest).length + 1 by omega) false
  have hzlength : z.length ≤ t.length := by
    have hwhole := congrArg List.length heq
    rw [List.length_append, List.length_cons] at hwhole
    omega
  have hzfuel : next.rest.length < fuel := by
    rw [hnext]
    omega
  have hrest := hlater z next hzlength hnext hzfuel
  rw [hcolumn] at hrest
  rw [readQuotedTail?_gap hcur hgap hread, ← heq]
  exact IsReading.run hs hne hz hrest (heq ▸ hmark)

end Steps

/-- What a JSON string is read as in YAML. -/
theorem readQuotedTail?_written (t : List Char) {cur : Cursor} {fuel : Nat}
    (hcur : cur.rest = written t rest) (hfuel : cur.rest.length < fuel) :
    IsReading t rest (cur.column = 0) (readQuotedTail? false fuel cur) := by
  -- A run is read at once, so the induction is on the length of what is left.
  induction hn : t.length using Nat.strong_induction_on generalizing t cur fuel with
  | _ n ih =>
    obtain ⟨fuel, rfl⟩ : ∃ n, fuel = n + 1 := Nat.exists_eq_add_one.2 (Nat.zero_lt_of_lt hfuel)
    cases hmark : decide (cur.column = 0) && isMarked t with
    | true =>
      refine ⟨none, { rest := rest }, rfl, ?_, by simp, by simp [hmark]⟩
      rw [readQuotedTail?, hcur, isDocumentMarker_written, hmark]
      rfl
    | false =>
      cases t with
      | nil =>
        refine
          ⟨some [], cur.skip 1, by simp [Cursor.skip, hcur], readQuotedTail?_close hcur, ?_, ?_⟩
        · simp
        · simp [hmark, unfolded_nil]
      | cons c t =>
        have hlater : ∀ (u : List Char) (next : Cursor), u.length ≤ t.length →
            next.rest = written u rest → next.rest.length < fuel →
            IsReading u rest (next.column = 0) (readQuotedTail? false fuel next) := by
          intro u next hlength hnext hroom
          exact ih u.length (hn ▸ Nat.lt_succ_of_le hlength) u hnext hroom rfl
        cases hgap : isGapChar c with
        | true => exact isReading_of_isGapChar hlater hcur hfuel hmark hgap
        | false =>
          cases hesc : isEscaped c with
          | true => exact isReading_of_escaped hlater hcur hfuel hmark hesc
          | false => exact isReading_of_unescaped hlater hcur hfuel hmark hesc hgap

/-- Reading a JSON string stops behind it. It is read as its text if no part of that is folded. -/
theorem readQuoted?_quote (t : List Char) (hcur : cur.rest = Json.quote t ++ rest) :
    ∃ (read : Option (List Char)) (next : Cursor), next.rest = rest ∧
      readQuoted? false cur = read.map (·, next) ∧ (read = some t ↔ Unfolded t) := by
  have hbehind : (cur.skip 1).rest = written t rest := by
    simp [Cursor.skip, hcur, Json.quote, written]
  have hfuel : (cur.skip 1).rest.length < cur.rest.length + 1 := by
    simp only [Cursor.skip, List.length_drop]
    omega
  obtain ⟨read, next, hnext, hread, -, hsame⟩ := readQuotedTail?_written t hbehind hfuel
  refine ⟨read, next, hnext, hread, hsame.trans ?_⟩
  simp [Cursor.skip]

end Yaml
end StaticBlog
