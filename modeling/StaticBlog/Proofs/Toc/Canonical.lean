import StaticBlog.Proofs.Toc.Anchors

/-!
# Canonical anchors

- `IsLowered` : a text in lower case, with either small letter for a capital sigma
- `filter_headingAnchorChars` : an anchor without its dashes is what the lower case holds of
  letters, digits, low lines and ideographs, in order
- `IsCanonicalAnchor` : parts of an anchor with one dash between them
- `headingAnchorChars_of_isCanonicalAnchor` : a canonical anchor suggests itself
- `heading_anchors_are_canonical` : every text suggests a canonical anchor
-/

namespace StaticBlog

variable {c : Char} {s t : List Char} {inRun : Bool}

/-! ## Characters of an anchor -/

theorem toNat_of_isAnchorSafe (h : IsAnchorSafe c) :
    (48 ≤ c.toNat ∧ c.toNat ≤ 57) ∨ c.toNat = 95 ∨ c.toNat = 45 ∨
      (97 ≤ c.toNat ∧ c.toNat ≤ 122) ∨ (0x4E00 ≤ c.toNat ∧ c.toNat ≤ 0x9FFF) := by
  rcases h with hletter | hdigit | rfl | rfl | hideograph
  · exact Or.inr (Or.inr (Or.inr (Or.inl hletter)))
  · exact Or.inl hdigit
  · exact Or.inr (Or.inl rfl)
  · exact Or.inr (Or.inr (Or.inl rfl))
  · exact Or.inr (Or.inr (Or.inr (Or.inr hideograph)))

theorem isAnchorChar_iff : isAnchorChar c = true ↔ IsAnchorSafe c ∧ c ≠ '-' := by
  constructor
  · intro h
    refine ⟨isAnchorSafe_of_isAnchorChar h, ?_⟩
    rintro rfl
    exact absurd h (by decide)
  · rintro ⟨hsafe, hdash⟩
    simp only [isAnchorChar, isIdeograph, Bool.or_eq_true, Bool.and_eq_true, decide_eq_true_eq]
    rcases hsafe with hletter | hdigit | hline | hdash' | hideograph
    · exact Or.inl (Or.inl (Or.inl hletter))
    · exact Or.inl (Or.inl (Or.inr hdigit))
    · exact Or.inl (Or.inr hline)
    · exact absurd hdash' hdash
    · exact Or.inr hideograph

theorem isBlank_of_isAnchorSafe (h : IsAnchorSafe c) : Text.isBlank c = false := by
  have hrange := toNat_of_isAnchorSafe h
  rw [Bool.eq_false_iff]
  intro hblank
  have hmem := Text.toNat_mem_blankCodes hblank
  simp only [Text.blankCodes, List.mem_cons, List.not_mem_nil, or_false] at hmem
  omega

/-- Of the characters that an anchor is made of only the dash separates its parts. -/
theorem isAnchorBreak_iff_of_isAnchorSafe (h : IsAnchorSafe c) :
    isAnchorBreak c = true ↔ c = '-' := by
  rw [isAnchorBreak, isBlank_of_isAnchorSafe h, Bool.false_or, decide_eq_true_eq]

/-! ## Lower case -/

/-- A text in lower case. A capital sigma has two small letters, of which one only ends words; here
it may become either. -/
inductive IsLowered : (text lowered : List Char) → Prop
  | nil : IsLowered [] []
  | sigma {small : Char} {s t : List Char} :
      small = 'σ' ∨ small = 'ς' → IsLowered s t → IsLowered ('Σ' :: s) (small :: t)
  | other {c : Char} {s t : List Char} :
      c ≠ 'Σ' → IsLowered s t → IsLowered (c :: s) (Text.lowerChar c ++ t)

theorem lowerChar_sigma : Text.lowerChar 'Σ' = ['σ'] := by decide +kernel

theorem isLowered_lower (s : List Char) : IsLowered s (Text.lower s) := by
  induction s with
  | nil => exact .nil
  | cons c s ih =>
    rw [Text.lower, List.flatMap_cons]
    by_cases hc : c = 'Σ'
    · rw [hc, lowerChar_sigma]
      exact .sigma (Or.inl rfl) ih
    · exact .other hc ih

/-- Neither small sigma is kept in an anchor, so it does not matter which one is written. -/
theorem IsLowered.filter_isAnchorChar (h : IsLowered s t) :
    t.filter isAnchorChar = (Text.lower s).filter isAnchorChar := by
  induction h with
  | nil => rfl
  | @sigma small s t hsmall _ ih =>
    have hdropped : ∀ d, d = 'σ' ∨ d = 'ς' → ¬isAnchorChar d = true := by
      rintro d (rfl | rfl) <;> decide
    rw [Text.lower, List.flatMap_cons, lowerChar_sigma, List.singleton_append,
      List.filter_cons_of_neg (hdropped small hsmall),
      List.filter_cons_of_neg (hdropped 'σ' (Or.inl rfl)), ih, Text.lower]
  | other _ _ ih =>
    rw [Text.lower, List.flatMap_cons, List.filter_append, List.filter_append, ih, Text.lower]

/-- What an anchor is made of is in lower case. -/
theorem lowerChar_of_isAnchorSafe (h : IsAnchorSafe c) : Text.lowerChar c = [c] := by
  have hrange := toNat_of_isAnchorSafe h
  by_cases hascii : c.toNat < 128
  · have hsmall : ¬(c.val ≥ 'A'.val ∧ c.val ≤ 'Z'.val) := by
      intro hcapital
      have hlow : 65 ≤ c.toNat := hcapital.1
      have hhigh : c.toNat ≤ 90 := hcapital.2
      omega
    have hlower : c.toLower = c := dif_neg hsmall
    rw [Text.lowerChar, if_pos hascii, hlower]
  -- Beyond ASCII only ideographs are kept, and no capital letter is near them.
  · have hcaseless : ∀ r ∈ Text.caseRanges, r.last < 0x4E00 ∨ 0x9FFF < r.first := by decide +kernel
    have hnone : Text.caseRanges.find? (·.covers c.toNat) = none := by
      rw [List.find?_eq_none]
      intro r hr hcovers
      simp only [Text.CaseRange.covers, Bool.and_eq_true, decide_eq_true_eq] at hcovers
      have hfar := hcaseless r hr
      omega
    have hdotted : c ≠ '\u0130' := by
      rintro rfl
      exact absurd hrange (by decide)
    rw [Text.lowerChar, if_neg hascii, if_neg hdotted, hnone]

theorem lower_of_forall_isAnchorSafe (h : ∀ c ∈ s, IsAnchorSafe c) : Text.lower s = s := by
  induction s with
  | nil => rfl
  | cons c s ih =>
    have hc := lowerChar_of_isAnchorSafe (h c List.mem_cons_self)
    have hs := ih fun d hd => h d (List.mem_cons_of_mem c hd)
    rw [Text.lower] at hs
    rw [Text.lower, List.flatMap_cons, hc, hs, List.singleton_append]

/-! ## Dashes -/

/-- Two dashes side by side. -/
def doubleDash : List Char := ['-', '-']

theorem doubleDash_infix_cons :
    doubleDash <:+: c :: s ↔ c = '-' ∧ s.head? = some '-' ∨ doubleDash <:+: s := by
  rw [List.infix_cons_iff, doubleDash, List.cons_prefix_cons,
    List.singleton_prefix_iff_head?_eq_some]
  constructor <;> rintro (⟨hc, hs⟩ | hs)
  · exact Or.inl ⟨hc.symm, hs⟩
  · exact Or.inr hs
  · exact Or.inl ⟨hc.symm, hs⟩
  · exact Or.inr hs

/-- Behind a separator no dash is written before the next part. -/
theorem head?_dashRuns_true (s : List Char) : (dashRuns true s).head? ≠ some '-' := by
  induction s with
  | nil => simp [dashRuns]
  | cons c s ih =>
    rw [dashRuns, if_pos rfl]
    split
    · exact ih
    · next hbreak =>
      intro hhead
      cases hhead
      exact hbreak (by decide)

theorem not_doubleDash_infix_dashRuns (inRun : Bool) (s : List Char) :
    ¬doubleDash <:+: dashRuns inRun s := by
  induction s generalizing inRun with
  | nil => simp [dashRuns, doubleDash]
  | cons c s ih =>
    rw [dashRuns]
    split
    · split
      · exact ih true
      · rw [doubleDash_infix_cons]
        rintro (⟨-, hhead⟩ | hdashes)
        · exact head?_dashRuns_true s hhead
        · exact ih true hdashes
    · next hbreak =>
      rw [doubleDash_infix_cons]
      rintro (⟨rfl, -⟩ | hdashes)
      · exact hbreak (by decide)
      · exact ih false hdashes

/-- Separated by single dashes, the parts stay as they are. -/
theorem dashRuns_eq_self (hbreaks : ∀ c ∈ s, isAnchorBreak c = true → c = '-')
    (hapart : ¬doubleDash <:+: s) (hstart : inRun = true → s.head? ≠ some '-') :
    dashRuns inRun s = s := by
  induction s generalizing inRun with
  | nil => rfl
  | cons c s ih =>
    rw [doubleDash_infix_cons, not_or] at hapart
    have hrest : ∀ {inRun}, (inRun = true → s.head? ≠ some '-') → dashRuns inRun s = s :=
      ih (fun d hd => hbreaks d (List.mem_cons_of_mem c hd)) hapart.2
    rw [dashRuns]
    split
    · next hbreak =>
      have hdash : c = '-' := hbreaks c List.mem_cons_self hbreak
      subst hdash
      rw [if_neg fun hrun => hstart hrun rfl, hrest fun _ hhead => hapart.1 ⟨rfl, hhead⟩]
    · rw [hrest fun hrun => absurd hrun Bool.false_ne_true]

/-- Only separators are lost when dashes are written for them. -/
theorem filter_dashRuns (inRun : Bool) (s : List Char) :
    (dashRuns inRun s).filter (!isAnchorBreak ·) = s.filter (!isAnchorBreak ·) := by
  induction s generalizing inRun with
  | nil => rfl
  | cons c s ih =>
    rw [dashRuns]
    split
    · next hbreak =>
      have hdrop : (c :: s).filter (!isAnchorBreak ·) = s.filter (!isAnchorBreak ·) :=
        List.filter_cons_of_neg (by simp [hbreak])
      have hdash : ('-' :: dashRuns true s).filter (!isAnchorBreak ·) =
          (dashRuns true s).filter (!isAnchorBreak ·) := List.filter_cons_of_neg (by decide)
      rw [hdrop]
      split
      · exact ih true
      · rw [hdash, ih true]
    · rw [List.filter_cons, List.filter_cons, ih false]

/-- What is dropped at the ends of a text is missing nowhere else. -/
theorem filter_dropBoth {p q : Char → Bool} (hpq : ∀ c, p c = true → q c = false) (s : List Char) :
    (Text.dropBoth p s).filter q = s.filter q := by
  obtain ⟨before, after, hs, hbefore, hafter⟩ := Text.exists_dropBoth_append p s
  have hnone : ∀ {bs : List Char}, (∀ c ∈ bs, p c = true) → bs.filter q = [] := by
    intro bs hbs
    rw [List.filter_eq_nil_iff]
    intro c hc
    rw [hpq c (hbs c hc)]
    exact Bool.false_ne_true
  conv => rhs; rw [hs]
  rw [List.filter_append, List.filter_append, hnone hbefore, hnone hafter, List.nil_append,
    List.append_nil]

/-! ## Anchors from text -/

/-- An anchor without its dashes is what the lower case of the text holds of letters, digits, low
lines and ideographs, in order. -/
theorem filter_headingAnchorChars (s : List Char) :
    (headingAnchorChars s).filter (!isAnchorBreak ·) = (Text.lower s).filter isAnchorChar := by
  -- Only characters that break an anchor are trimmed or joined.
  have hblank : ∀ c, Text.isBlank c = true → (!isAnchorBreak c) = false := by
    intro c hc
    rw [isAnchorBreak, hc]
    rfl
  have hdash : ∀ c, decide (c = '-') = true → (!isAnchorBreak c) = false := by
    intro c hc
    rw [of_decide_eq_true hc]
    decide
  have hkept : ∀ c,
      ((!isAnchorBreak c) && (isAnchorChar c || isAnchorBreak c)) = isAnchorChar c := by
    intro c
    cases hchar : isAnchorChar c with
    | false => cases isAnchorBreak c <;> rfl
    | true =>
      have hsafe := isAnchorChar_iff.1 hchar
      have hbreak : isAnchorBreak c = false := by
        rw [Bool.eq_false_iff, ne_eq, isAnchorBreak_iff_of_isAnchorSafe hsafe.1]
        exact hsafe.2
      rw [hbreak]
      rfl
  calc (headingAnchorChars s).filter (!isAnchorBreak ·)
      = (((Text.lower s).filter fun c => isAnchorChar c || isAnchorBreak c).filter
          (!isAnchorBreak ·)) := by
        rw [headingAnchorChars, filter_dropBoth hdash, filter_dashRuns, Text.trim,
          filter_dropBoth hblank]
    _ = (Text.lower s).filter isAnchorChar := by
        rw [List.filter_filter]
        exact List.filter_congr fun c _ => hkept c

/-- Parts of an anchor with one dash between them. -/
structure IsCanonicalAnchor (s : List Char) : Prop where
  safe : ∀ c ∈ s, IsAnchorSafe c
  head : s.head? ≠ some '-'
  last : s.getLast? ≠ some '-'
  apart : ¬doubleDash <:+: s

theorem isCanonicalAnchor_headingAnchorChars (s : List Char) :
    IsCanonicalAnchor (headingAnchorChars s) := by
  obtain ⟨kept, hkept⟩ : ∃ kept,
      headingAnchorChars s = Text.dropBoth (· = '-') (dashRuns false kept) := ⟨_, rfl⟩
  obtain ⟨before, after, hruns, -, -⟩ := Text.exists_dropBoth_append (· = '-') (dashRuns false kept)
  have hends := Text.dropBoth_eq_self_iff.1 (Text.dropBoth_dropBoth (p := (· = '-'))
    (dashRuns false kept))
  rw [← hkept] at hruns hends
  refine ⟨fun c hc => isAnchorSafe_of_mem_headingAnchorChars hc, fun hhead => ?_, fun hlast => ?_,
    fun hdashes => ?_⟩
  · exact absurd (hends.1 '-' hhead) (by decide)
  · exact absurd (hends.2 '-' hlast) (by decide)
  · refine not_doubleDash_infix_dashRuns false kept (hdashes.trans ⟨before, after, ?_⟩)
    rw [List.append_assoc]
    exact hruns.symm

/-- A canonical anchor suggests itself. -/
theorem headingAnchorChars_of_isCanonicalAnchor (h : IsCanonicalAnchor s) :
    headingAnchorChars s = s := by
  have hkept : (s.filter fun c => isAnchorChar c || isAnchorBreak c) = s := by
    rw [List.filter_eq_self]
    intro c hc
    rw [Bool.or_eq_true, isAnchorChar_iff, isAnchorBreak_iff_of_isAnchorSafe (h.safe c hc)]
    by_cases hdash : c = '-'
    · exact Or.inr hdash
    · exact Or.inl ⟨h.safe c hc, hdash⟩
  have htrim : Text.trim s = s := by
    rw [Text.trim, Text.dropBoth_eq_self_iff]
    exact ⟨fun c hc => isBlank_of_isAnchorSafe (h.safe c (List.mem_of_mem_head? hc)),
      fun c hc => isBlank_of_isAnchorSafe (h.safe c (List.mem_of_mem_getLast? hc))⟩
  have hruns : dashRuns false s = s := by
    refine dashRuns_eq_self (fun c hc hbreak => ?_) h.apart (absurd · Bool.false_ne_true)
    rwa [isAnchorBreak_iff_of_isAnchorSafe (h.safe c hc)] at hbreak
  rw [headingAnchorChars, lower_of_forall_isAnchorSafe h.safe, hkept, htrim, hruns,
    Text.dropBoth_eq_self_iff]
  refine ⟨fun c hc => ?_, fun c hc => ?_⟩
  · exact decide_eq_false fun hdash => h.head (hdash ▸ hc)
  · exact decide_eq_false fun hdash => h.last (hdash ▸ hc)

/-- A canonical anchor without parts is empty. -/
theorem IsCanonicalAnchor.eq_nil_iff (h : IsCanonicalAnchor s) :
    s = [] ↔ s.filter (!isAnchorBreak ·) = [] := by
  constructor
  · rintro rfl
    rfl
  · intro hnone
    cases s with
    | nil => rfl
    | cons c s =>
      have hc : c ≠ '-' := fun hdash => h.head (congrArg some hdash)
      have hbreak := List.filter_eq_nil_iff.1 hnone c List.mem_cons_self
      rw [Bool.not_eq_true', Bool.not_eq_false,
        isAnchorBreak_iff_of_isAnchorSafe (h.safe c List.mem_cons_self)] at hbreak
      exact absurd hbreak hc

/-- Every text suggests a canonical anchor, which suggests itself. It is empty only for a text whose
lower case holds nothing that an anchor keeps. -/
theorem heading_anchors_are_canonical (text : String) :
    let id := headingAnchor text
    IsCanonicalAnchor id.toList ∧
      (∀ lowered, IsLowered text.toList lowered →
        (id = "" ↔ ∀ c ∈ lowered, ¬(IsAnchorSafe c ∧ c ≠ '-'))) ∧
      headingAnchor id = id := by
  intro id
  have hchars : id.toList = headingAnchorChars text.toList := String.toList_ofList
  have hcanonical : IsCanonicalAnchor id.toList :=
    hchars ▸ isCanonicalAnchor_headingAnchorChars text.toList
  refine ⟨hcanonical, fun lowered hlowered => ?_, ?_⟩
  · rw [← String.toList_eq_nil_iff, hcanonical.eq_nil_iff, hchars, filter_headingAnchorChars,
      ← hlowered.filter_isAnchorChar, List.filter_eq_nil_iff]
    exact forall₂_congr fun c _ => not_congr isAnchorChar_iff
  · rw [headingAnchor, headingAnchorChars_of_isCanonicalAnchor hcanonical, String.ofList_toList]

/-- The last sigma of a word leaves nothing, and no dash stays in front of it. -/
theorem anchor_before_final_sigma :
    let text := "2 Σ"
    let lowered := "2 ς".toList
    IsLowered text.toList lowered ∧ headingAnchor text = "2" ∧
      (headingAnchor text = "" ↔ ∀ c ∈ lowered, ¬(IsAnchorSafe c ∧ c ≠ '-')) ∧
      IsCanonicalAnchor "2".toList ∧ headingAnchor "2" = "2" := by
  intro text lowered
  have htext : text.toList = ['2', ' ', 'Σ'] := by decide
  have hchars : lowered = Text.lowerChar '2' ++ (Text.lowerChar ' ' ++ ['ς']) := by decide
  have hlowered : IsLowered text.toList lowered := by
    rw [htext, hchars]
    exact .other (by decide) (.other (by decide) (.sigma (Or.inr rfl) .nil))
  have hid : headingAnchor text = "2" := by decide +kernel
  obtain ⟨hcanonical, hempty, hagain⟩ := heading_anchors_are_canonical text
  rw [hid] at hcanonical hagain
  exact ⟨hlowered, hid, hempty lowered hlowered, hcanonical, hagain⟩

end StaticBlog
