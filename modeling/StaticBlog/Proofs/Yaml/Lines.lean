import StaticBlog.Proofs.Yaml.Quoted
import StaticBlog.Yaml.Token

/-!
# Fields on lines of their own

How the scanner reads a text in which each line is a name, a colon and a value.

- `IsWord`, `IsName` : what a plain scalar may be made of, and the names of fields
- `readPlainFrom?_words` : a plain scalar of some words, up to the end of its line
- `scan_token` : one step of the scanner
- `scan_name`, `scan_quoted`, `scan_plain`, `scan_emptyList` : the steps for the parts of a line
- `scan_fields` : a run of the scanner over lines whose values are not in quotes
- `scan?_quotedLines` : all tokens of a text whose first line holds a JSON string
-/

namespace StaticBlog
namespace Yaml

variable {c : Char} {w name z rest tail : List Char} {ws : List (List Char)} {cur next : Cursor}
  {s : ScanState} {ts : List Token} {n fuel : Nat}

/-! ## Moving on -/

namespace Cursor

@[simp] theorem skip_zero (cur : Cursor) : cur.skip 0 = cur := rfl

@[simp] theorem column_skip (cur : Cursor) (n : Nat) : (cur.skip n).column = cur.column + n := rfl

@[simp] theorem index_skip (cur : Cursor) (n : Nat) : (cur.skip n).index = cur.index + n := rfl

@[simp] theorem line_skip (cur : Cursor) (n : Nat) : (cur.skip n).line = cur.line := rfl

@[simp] theorem skip_skip (cur : Cursor) (m n : Nat) : (cur.skip m).skip n = cur.skip (m + n) := by
  simp [skip, Nat.add_assoc]

theorem rest_skip (h : cur.rest = w ++ rest) : (cur.skip w.length).rest = rest := by
  simp [skip, h]

theorem rest_skip_one (h : cur.rest = c :: rest) : (cur.skip 1).rest = rest := by
  simp [skip, h]

theorem skipBreak_of_lineFeed (h : cur.rest = '\n' :: rest) :
    cur.skipBreak.rest = rest ∧ cur.skipBreak.column = 0 :=  by
  rw [skipBreak, h]
  exact ⟨rfl, rfl⟩

end Cursor

/-! ## Ends of lines -/

/-- Whether the scanner passes nothing over in front of a text. -/
def isSettled (s : List Char) : Bool :=
  !endsWord s && s.head? ≠ some '#' && s.head? ≠ some '\ufeff'

theorem isSettled_iff :
    isSettled (c :: rest) = true ↔
      isBlank c = false ∧ isBreak c = false ∧ c ≠ '#' ∧ c ≠ '\ufeff' := by
  simp [isSettled, endsWord, and_assoc]

theorem endsWord_of_isSettled (h : isSettled z = true) : endsWord z = false := by
  simp only [isSettled, Bool.and_eq_true, Bool.not_eq_true'] at h
  exact h.1.1

/-- What follows a value: nothing, or the next line. -/
def IsTail (tail : List Char) : Prop := tail = [] ∨ ∃ z, tail = '\n' :: z ∧ isSettled z = true

/-! ## Plain scalars -/

/-- A part of a plain scalar without blanks, which is no comment and leaves no key behind it. -/
structure IsWord (w : List Char) : Prop where
  ne_nil : w ≠ []
  unbroken : ∀ c ∈ w, (isBlank c || isBreak c) = false
  head : w.head? ≠ some '#'
  last : w.getLast? ≠ some ':'

theorem IsWord.endsWord_append (hw : IsWord w) (z : List Char) : endsWord (w ++ z) = false := by
  obtain ⟨c, w, rfl⟩ := List.exists_cons_of_ne_nil hw.ne_nil
  exact hw.unbroken c List.mem_cons_self

theorem exists_intercalate_append (w : List Char) (ws : List (List Char)) (tail : List Char) :
    ∃ z, List.intercalate [' '] (w :: ws) ++ tail = w ++ z := by
  cases ws with
  | nil => exact ⟨tail, by rw [List.intercalate_singleton]⟩
  | cons v ws => exact ⟨_, by rw [List.intercalate_cons_cons, List.append_assoc, List.append_assoc]⟩

theorem length_le_intercalate (w : List Char) (ws : List (List Char)) :
    ws.length ≤ (List.intercalate [' '] (w :: ws)).length := by
  induction ws generalizing w with
  | nil => exact Nat.zero_le _
  | cons v ws ih =>
    have hlater := ih v
    rw [List.intercalate_cons_cons, List.length_append, List.length_append, List.length_cons,
      List.length_singleton]
    omega

theorem isStrayColon_block (s : List Char) : isStrayColon false s = false := by
  unfold isStrayColon
  split <;> rfl

theorem readPlainRun?_word (hunbroken : ∀ c ∈ w, (isBlank c || isBreak c) = false)
    (hlast : w.getLast? ≠ some ':') (hz : endsPlain false z = true) (hcur : cur.rest = w ++ z)
    (hfuel : w.length < fuel) :
    readPlainRun? false fuel cur = some (w, cur.skip w.length) := by
  induction w generalizing cur fuel with
  | nil =>
    obtain ⟨fuel, rfl⟩ : ∃ n, fuel = n + 1 := Nat.exists_eq_add_one.2 hfuel
    simp [readPlainRun?, isStrayColon_block, hcur, hz]
  | cons c w ih =>
    obtain ⟨fuel, rfl⟩ : ∃ n, fuel = n + 1 := Nat.exists_eq_add_one.2 (Nat.zero_lt_of_lt hfuel)
    obtain ⟨hc, hw⟩ := List.forall_mem_cons.1 hunbroken
    -- A colon inside a word is followed by another character of the word.
    have hgoes : endsPlain false (c :: (w ++ z)) = false := by
      cases w with
      | nil =>
        have hcolon : c ≠ ':' := by simpa using hlast
        simp [endsPlain, endsWord, hc, hcolon]
      | cons d w =>
        have hd := hw d List.mem_cons_self
        simp [endsPlain, endsWord, hc, hd]
    have hlast' : w.getLast? ≠ some ':' := by
      intro h
      exact hlast (by simp [List.getLast?_cons, h])
    have hread := ih hw hlast' (Cursor.rest_skip_one hcur) (Nat.lt_of_succ_lt_succ hfuel)
    rw [readPlainRun?, isStrayColon_block, hcur]
    simp [hgoes, hread, Nat.add_comm]

section Plain

variable {before g : Gap} {column : Nat}

theorem gapRead_blank (hcur : cur.rest = ' ' :: rest) (hrest : endsWord rest = false) :
    Gap.read column (fuel + 2) false cur = some (⟨[' '], []⟩, cur.skip 1) := by
  cases rest with
  | nil => cases hrest
  | cons c rest =>
    obtain ⟨hblank, hbreak⟩ := Bool.or_eq_false_iff.1 hrest
    have hnext := Cursor.rest_skip_one hcur
    have hspace : isBlank ' ' = true := by decide
    simp [Gap.read, hcur, hnext, hblank, hbreak, hspace]

theorem gapRead_lineFeed (hcur : cur.rest = '\n' :: rest) (hrest : endsWord rest = false) :
    Gap.read column (fuel + 2) false cur = some (⟨[], [['\n']]⟩, cur.skipBreak) := by
  cases rest with
  | nil => cases hrest
  | cons c rest =>
    obtain ⟨hblank, hbreak⟩ := Bool.or_eq_false_iff.1 hrest
    have hnext := (Cursor.skipBreak_of_lineFeed hcur).1
    have hfeed : isBlank '\n' = false := by decide
    have hends : isBreak '\n' = true := by decide
    have htext : cur.breakText = ['\n'] := by simp [Cursor.breakText, hcur, isBreak]
    simp [Gap.read, hcur, hnext, hblank, hbreak, hfeed, hends, htext]

/-- Where the first word of a plain scalar is read. -/
theorem readPlainFrom?_word (hw : IsWord w) (hcur : cur.rest = w ++ z)
    (hmark : (decide (cur.column = 0) && isDocumentMarker cur.rest) = false)
    (hz : endsPlain false z = true) :
    readPlainFrom? false column (fuel + 1) before cur =
      match z with
      | [] => some (before.folded ++ w, false, cur.skip w.length)
      | c :: rest =>
        if isBlank c || isBreak c then
          (Gap.read column (rest.length + 2) false (cur.skip w.length)).bind fun (g, after) =>
            if after.column < column then some (before.folded ++ w, g.isMultiline, after)
            else (readPlainFrom? false column fuel g after).map fun r =>
              (before.folded ++ w ++ r.1, r.2)
        else some (before.folded ++ w, false, cur.skip w.length) := by
  have hhead : cur.rest.head? ≠ some '#' := by
    obtain ⟨c, w, rfl⟩ := List.exists_cons_of_ne_nil hw.ne_nil
    rw [hcur]
    exact hw.head
  have hread := readPlainRun?_word hw.unbroken hw.last hz hcur
    (show w.length < cur.rest.length + 1 by rw [hcur, List.length_append]; omega)
  have hempty : w.isEmpty = false := List.isEmpty_eq_false_iff.2 hw.ne_nil
  rw [readPlainFrom?]
  simp only [hmark, hhead, hread, Cursor.rest_skip hcur, hempty, decide_false, Bool.or_false,
    Bool.false_eq_true, if_false, Option.bind_eq_bind, Option.bind_some, Gap.isMultiline,
    List.isEmpty_nil, Bool.not_true, Bool.not_false, Bool.true_and, decide_eq_true_eq]
  cases z with
  | nil => rfl
  | cons c rest =>
    simp only [List.length_cons]
    split
    · congr 1
      funext ⟨g, after⟩
      split
      · rfl
      · cases readPlainFrom? false column fuel g after <;> rfl
    · rfl

/-- The words of a plain scalar are read up to the end of its line. -/
theorem readPlainFrom?_words (before : Gap) (hw : IsWord w) (hws : ∀ v ∈ ws, IsWord v)
    (htail : IsTail tail) (hcur : cur.rest = List.intercalate [' '] (w :: ws) ++ tail)
    (hcolumn : cur.column ≠ 0) (hfuel : ws.length < fuel) :
    ∃ next, readPlainFrom? false 1 fuel before cur =
        some (before.folded ++ List.intercalate [' '] (w :: ws), !tail.isEmpty, next) ∧
      next.rest = tail.drop 1 ∧ (tail ≠ [] → next.column = 0) := by
  -- Word by word: behind a blank the scalar goes on, and at the end of the line it ends.
  induction ws generalizing w cur before fuel with
  | nil =>
    obtain ⟨fuel, rfl⟩ : ∃ n, fuel = n + 1 := Nat.exists_eq_add_one.2 hfuel
    rw [List.intercalate_singleton] at hcur ⊢
    have hrest := Cursor.rest_skip hcur
    rcases htail with rfl | ⟨z, rfl, hz⟩
    · refine ⟨cur.skip w.length, ?_, hrest, fun h => absurd rfl h⟩
      rw [readPlainFrom?_word hw hcur (by simp [hcolumn]) rfl]
      rfl
    · obtain ⟨hnext, hfirst⟩ := Cursor.skipBreak_of_lineFeed hrest
      refine ⟨(cur.skip w.length).skipBreak, ?_, hnext, fun _ => hfirst⟩
      rw [readPlainFrom?_word hw hcur (by simp [hcolumn]) rfl]
      have hfeed : (isBlank '\n' || isBreak '\n') = true := by decide
      simp [gapRead_lineFeed hrest (endsWord_of_isSettled hz), hfeed, hfirst, Gap.isMultiline]
  | cons v ws ih =>
    obtain ⟨fuel, rfl⟩ : ∃ n, fuel = n + 1 := Nat.exists_eq_add_one.2 (Nat.zero_lt_of_lt hfuel)
    obtain ⟨hv, hws'⟩ := List.forall_mem_cons.1 hws
    rw [List.intercalate_cons_cons, List.append_assoc, List.append_assoc, List.singleton_append]
      at hcur
    have hrest := Cursor.rest_skip hcur
    have hnext := Cursor.rest_skip_one hrest
    have hstarts : endsWord (List.intercalate [' '] (v :: ws) ++ tail) = false := by
      obtain ⟨z, hz⟩ := exists_intercalate_append v ws tail
      rw [hz]
      exact hv.endsWord_append z
    obtain ⟨next, hread, hafter, hfirst⟩ := ih ⟨[' '], []⟩ hv hws' hnext (by simp)
      (Nat.lt_of_succ_lt_succ hfuel)
    have hspace : (isBlank ' ' || isBreak ' ') = true := by decide
    refine ⟨next, ?_, hafter, hfirst⟩
    rw [Cursor.skip_skip] at hread
    rw [readPlainFrom?_word hw hcur (by simp [hcolumn]) rfl]
    simp [gapRead_blank hrest hstarts, hspace, hread, Gap.folded, List.intercalate_cons_cons]

end Plain

/-! ## Steps of the scanner -/

namespace ScanState

/-- The state in which a token is read, past the blanks in front of it. -/
def settled (s : ScanState) : ScanState := s.skipBlanks (s.cursor.rest.length + 1)

/-- One step of the scanner, in a state in which no key has become stale and no collection ends. -/
theorem scan_token {s₁ : ScanState} (hsettled : s.settled = s₁) (hkeys : s₁.dropStaleKeys = some s₁)
    (hunroll : s₁.unroll s₁.cursor.column = s₁) (hrest : s₁.cursor.rest = c :: rest) :
    scan (n + 1) s = (s₁.token c rest).bind (scan n) := by
  rw [scan]
  simp only [settled] at hsettled
  simp [hsettled, hkeys, hunroll, hrest]

/-- Passing over blanks ends at a text in front of which nothing is passed over. -/
theorem skipBlanks_of_isSettled (h : isSettled s.cursor.rest = true) :
    s.skipBlanks (n + 1) = s := by
  cases hrest : s.cursor.rest with
  | nil =>
    rw [hrest] at h
    cases h
  | cons c rest =>
    rw [hrest] at h
    obtain ⟨hblank, hbreak, hhash, hmark⟩ := isSettled_iff.1 h
    simp only [isBlank, Bool.or_eq_false_iff, decide_eq_false_iff_not] at hblank
    simp [skipBlanks, hrest, Cursor.skipWhile, hblank, hbreak, hhash, hmark, endsLine, moveTo]

theorem skipBlanks_space (hcur : s.cursor.rest = ' ' :: rest) (h : isSettled rest = true) :
    s.skipBlanks (n + 1) = s.moveTo (s.cursor.skip 1) := by
  cases rest with
  | nil => cases h
  | cons c rest =>
    obtain ⟨hblank, hbreak, hhash, hmark⟩ := isSettled_iff.1 h
    simp only [isBlank, Bool.or_eq_false_iff, decide_eq_false_iff_not] at hblank
    have hnext := Cursor.rest_skip_one hcur
    simp [skipBlanks, hcur, Cursor.skipWhile, hnext, hblank, hbreak, hhash, endsLine]

theorem skipBlanks_lineFeed (hcur : s.cursor.rest = '\n' :: rest) (h : isSettled rest = true)
    (hflow : s.inFlow = false) :
    s.skipBlanks (n + 2) = { s with cursor := s.cursor.skipBreak, keyAllowed := true } := by
  have hnext := (Cursor.skipBreak_of_lineFeed hcur).1
  have hbreak : isBreak '\n' = true := by decide
  have hrest := skipBlanks_of_isSettled (n := n)
    (s := { s with cursor := s.cursor.skipBreak, keyAllowed := true }) (by rwa [hnext])
  rw [skipBlanks]
  simpa [Cursor.skipWhile, endsLine, hcur, hbreak, hflow] using hrest

theorem skipBlanks_end (hcur : s.cursor.rest = []) : s.skipBlanks (n + 1) = s := by
  simp [skipBlanks, hcur, Cursor.skipWhile, moveTo]

/-- A plain scalar is read where one starts. -/
theorem token_plain (hflow : s.inFlow = false) (hplain : startsPlain false (c :: rest) = true)
    (hmark : (decide (s.cursor.column = 0) && isDocumentMarker (c :: rest)) = false)
    (hdash : c = '-' → endsWord rest = false) : s.token c rest = s.plainScalar := by
  -- No mark begins a plain scalar but three, and these only in front of something.
  have hne : ∀ d ∈ "%[]\x7b\x7d,*&!|>'\"".toList, c ≠ d := by
    rintro d hd rfl
    have hmarks : ("%[]\x7b\x7d,*&!|>'\"".toList.all fun d =>
        isIndicator d && !"-?:".toList.contains d) = true := by decide
    have hc := List.all_eq_true.1 hmarks c hd
    simp at hc
    simp [startsPlain, hc] at hplain
  have hquestion : c = '?' → endsWord rest = false := by
    rintro rfl
    simpa [startsPlain, isIndicator, endsWord] using hplain
  have hcolon : c = ':' → endsWord rest = false := by
    rintro rfl
    simpa [startsPlain, isIndicator, endsWord] using hplain
  have hends : ∀ d, (c = d → endsWord rest = false) →
      (decide (c = d) && endsWord rest) = false := by
    intro d hd
    by_cases hc : c = d
    · simp [hd hc]
    · simp [hc]
  simp only [isDocumentMarker, Bool.and_or_distrib_left, Bool.or_eq_false_iff] at hmark
  simp at hne
  simp [token, hflow, hmark, hne, hends _ hdash, hends _ hquestion, hends _ hcolon, hplain]

end ScanState

/-! ## Lines -/

/-- A name of a field. -/
structure IsName (name : List Char) : Prop where
  ne_nil : name ≠ []
  letters : ∀ c ∈ name, c.isAlphanum = true
  length_le : name.length ≤ ScanState.maxKeyLength

theorem ne_of_isAlphanum {d : Char} (hc : c.isAlphanum = true) (hd : d.isAlphanum = false) :
    c ≠ d := by
  rintro rfl
  rw [hd] at hc
  cases hc

namespace IsName

variable (h : IsName name)

include h

theorem isWord : IsWord name where
  ne_nil := h.ne_nil
  unbroken := fun c hc => by simp [isBlank, isBreak, ne_of_isAlphanum (h.letters c hc)]
  head := fun hhead => by simpa using h.letters _ (List.mem_of_head? hhead)
  last := fun hlast => by simpa using h.letters _ (List.mem_of_getLast? hlast)

theorem isSettled_append (z : List Char) : isSettled (name ++ z) = true := by
  obtain ⟨c, w, rfl⟩ := List.exists_cons_of_ne_nil h.ne_nil
  have hc := h.letters c List.mem_cons_self
  simp [isSettled, endsWord, isBlank, isBreak, ne_of_isAlphanum hc]

theorem startsPlain_append (z : List Char) : ScanState.startsPlain false (name ++ z) = true := by
  obtain ⟨c, w, rfl⟩ := List.exists_cons_of_ne_nil h.ne_nil
  have hc := h.letters c List.mem_cons_self
  simp [ScanState.startsPlain, ScanState.isIndicator, endsWord, isBlank, isBreak,
    ne_of_isAlphanum hc]

theorem isDocumentMarker_append (z : List Char) : isDocumentMarker (name ++ z) = false := by
  obtain ⟨c, w, rfl⟩ := List.exists_cons_of_ne_nil h.ne_nil
  have hc := h.letters c List.mem_cons_self
  exact isDocumentMarker_cons_of_ne (ne_of_isAlphanum hc rfl) (ne_of_isAlphanum hc rfl) _

end IsName

/-- A state inside a mapping at the first column. -/
def mappingState (cur : Cursor) (ts : List Token) (keyAllowed : Bool) : ScanState :=
  { cursor := cur, tokens := ts, indent := 0, outer := [-1], keyAllowed }

/-- A state at the start of a line, inside such a mapping if one is open. -/
def lineState (opened : Bool) (cur : Cursor) (ts : List Token) : ScanState :=
  if opened then mappingState cur ts true else { cursor := cur, tokens := ts }

/-- The tokens of a name and the colon behind it. The first name opens the mapping. -/
def nameTokens (opened : Bool) (name : List Char) : List Token :=
  (if opened then [] else [.blockMappingStart]) ++ [.key, .scalar name .plain, .value]

/-- A state behind a name on a line. -/
def nameState (opened : Bool) (cur : Cursor) (ts : List Token) (name : List Char) : ScanState :=
  { lineState opened cur ts with
    cursor := cur.skip name.length
    tokens := ts ++ [.scalar name .plain]
    keyAllowed := false
    keyStart := some
      { required := opened, number := ts.length, index := cur.index, line := cur.line,
        column := 0 } }

theorem readPlain?_name (h : IsName name) (hz : endsWord z = true)
    (hcur : cur.rest = name ++ ':' :: z) (indent : Int) :
    readPlain? false indent cur = some (name, false, cur.skip name.length) := by
  have hmark : (decide (cur.column = 0) && isDocumentMarker cur.rest) = false := by
    rw [hcur, h.isDocumentMarker_append, Bool.and_false]
  have hends : endsPlain false (':' :: z) = true := by simp [endsPlain, hz]
  rw [readPlain?, readPlainFrom?_word h.isWord hcur hmark hends]
  rfl

theorem plainScalar_lineState (h : IsName name) (hz : endsWord z = true)
    (hcur : cur.rest = name ++ ':' :: z) (hcolumn : cur.column = 0) (opened : Bool) :
    (lineState opened cur ts).plainScalar = some (nameState opened cur ts name) := by
  have hread := readPlain?_name h hz hcur
  cases opened <;>
    simp [ScanState.plainScalar, ScanState.saveKey, ScanState.removeKey, ScanState.inFlow,
      ScanState.moveTo, ScanState.push, lineState, mappingState, nameState, hread, hcolumn]

theorem value_nameState (opened : Bool) :
    (nameState opened cur ts name).value =
      some (mappingState (cur.skip (name.length + 1)) (ts ++ nameTokens opened name) false) := by
  cases opened <;>
    simp [ScanState.value, ScanState.insertAt, ScanState.roll, ScanState.inFlow, ScanState.moveTo,
      ScanState.push, lineState, mappingState, nameState, nameTokens]

theorem dropStaleKeys_of_none (hkey : s.keyStart = none) (hkeys : s.outerKeys = []) :
    s.dropStaleKeys = some s := by
  cases s
  cases hkey
  cases hkeys
  rfl

theorem dropStaleKeys_nameState (h : IsName name) (opened : Bool) :
    (nameState opened cur ts name).dropStaleKeys = some (nameState opened cur ts name) := by
  have hlength := h.length_le
  cases opened <;>
    simp [ScanState.dropStaleKeys, ScanState.dropStale, nameState, lineState, mappingState,
      Nat.not_lt.2 hlength]

theorem unroll_of_le {column : Int} (h : s.indent ≤ column) : s.unroll column = s := by
  obtain ⟨cur, ts, indent, outer, keyAllowed, keyStart, outerKeys⟩ := s
  cases outer <;> simp [ScanState.unroll, ScanState.unrollFrom, Int.not_lt.2 h]

theorem indent_lineState_le (opened : Bool) (cur : Cursor) (ts : List Token) :
    (lineState opened cur ts).indent ≤ 0 := by
  cases opened
  · exact show (-1 : Int) ≤ 0 by decide
  · exact Int.le_refl 0

theorem token_lineState {opened : Bool} (h : IsName name) (hz : endsWord z = true)
    (hcur : cur.rest = name ++ ':' :: z) (hcolumn : cur.column = 0) (hname : name = c :: w) :
    (lineState opened cur ts).token c (w ++ ':' :: z) = some (nameState opened cur ts name) := by
  have hplain := h.startsPlain_append (':' :: z)
  have hmarker := h.isDocumentMarker_append (':' :: z)
  have hc := h.letters c (hname ▸ List.mem_cons_self)
  rw [hname, List.cons_append] at hplain hmarker
  rw [← plainScalar_lineState h hz hcur hcolumn]
  refine ScanState.token_plain (by cases opened <;> rfl) hplain ?_ fun hdash => ?_
  · rw [hmarker, Bool.and_false]
  · exact absurd hdash (ne_of_isAlphanum hc rfl)

theorem token_nameState {opened : Bool} (hz : endsWord z = true) :
    (nameState opened cur ts name).token ':' z =
      some (mappingState (cur.skip (name.length + 1)) (ts ++ nameTokens opened name) false) := by
  rw [← value_nameState]
  have hmark : ∀ mark, ':' ≠ mark → isMarkerLine mark (':' :: z) = false :=
    fun mark hne => isMarkerLine_cons_of_ne hne z
  simp [ScanState.token, hmark, hz]

/-- A name and its colon at the start of a line. -/
theorem scan_name {opened : Bool} (h : IsName name) (hz : endsWord z = true)
    (hsettled : s.settled = lineState opened cur ts) (hcur : cur.rest = name ++ ':' :: z)
    (hcolumn : cur.column = 0) :
    ScanState.scan (n + 2) s = ScanState.scan n
      (mappingState (cur.skip (name.length + 1)) (ts ++ nameTokens opened name) false) := by
  have hline : (lineState opened cur ts).cursor = cur := by cases opened <;> rfl
  have hindent := indent_lineState_le opened cur ts
  have hrest : (nameState opened cur ts name).cursor.rest = ':' :: z := Cursor.rest_skip hcur
  have hnamed : (nameState opened cur ts name).settled = nameState opened cur ts name :=
    ScanState.skipBlanks_of_isSettled (by rw [hrest]; rfl)
  obtain ⟨c, w, hname⟩ := List.exists_cons_of_ne_nil h.ne_nil
  have hfirst : (lineState opened cur ts).cursor.rest = c :: (w ++ ':' :: z) := by
    rw [hline, hcur, hname]
    rfl
  calc ScanState.scan (n + 2) s
    _ = ((lineState opened cur ts).token c (w ++ ':' :: z)).bind (ScanState.scan (n + 1)) := by
      refine ScanState.scan_token hsettled ?_ (unroll_of_le ?_) hfirst
      · cases opened <;> exact dropStaleKeys_of_none rfl rfl
      · rw [hline, hcolumn]
        exact hindent
    _ = ScanState.scan (n + 1) (nameState opened cur ts name) := by
      rw [token_lineState h hz hcur hcolumn hname]
      rfl
    _ = ((nameState opened cur ts name).token ':' z).bind (ScanState.scan n) := by
      refine ScanState.scan_token hnamed (dropStaleKeys_nameState h opened) (unroll_of_le ?_) hrest
      exact Int.le_trans hindent (Int.natCast_nonneg _)
    _ = _ := by
      rw [token_nameState hz]
      rfl

/-! ### Values -/

/-- The first word of a plain scalar. -/
structure IsFirstWord (w : List Char) : Prop extends IsWord w where
  mark : w.head? ≠ some '\ufeff'
  starts : (∃ c v, w = c :: v ∧ ScanState.isIndicator c = false) ∨ ∃ v, v ≠ [] ∧ w = '-' :: v

namespace IsFirstWord

variable (h : IsFirstWord (c :: w))

include h

theorem isSettled_append (z : List Char) : isSettled (c :: (w ++ z)) = true := by
  have hgap := Bool.or_eq_false_iff.1 (h.unbroken c List.mem_cons_self)
  have hhash : c ≠ '#' := by simpa using h.head
  have hmark : c ≠ '\ufeff' := by simpa using h.mark
  exact isSettled_iff.2 ⟨hgap.1, hgap.2, hhash, hmark⟩

/-- A hyphen in front of a word is no mark of an item. -/
theorem endsWord_of_hyphen (hc : c = '-') (z : List Char) : endsWord (w ++ z) = false := by
  rcases h.starts with ⟨_, _, ⟨rfl, rfl⟩, hc'⟩ | ⟨v, hv, hw⟩
  · rw [hc] at hc'
    cases hc'
  · obtain ⟨-, rfl⟩ := List.cons.inj hw
    obtain ⟨d, v, rfl⟩ := List.exists_cons_of_ne_nil hv
    exact h.unbroken d (by simp)

theorem startsPlain_append (z : List Char) :
    ScanState.startsPlain false (c :: (w ++ z)) = true := by
  have hgap := h.unbroken c List.mem_cons_self
  rcases h.starts with ⟨_, _, ⟨rfl, rfl⟩, hc⟩ | ⟨v, -, hw⟩
  · simp [ScanState.startsPlain, endsWord, hgap, hc]
  · have hc := (List.cons.inj hw).1
    have hnext := h.endsWord_of_hyphen hc z
    cases hrest : w ++ z with
    | nil => simp [ScanState.startsPlain, hc]
    | cons d rest =>
      rw [hrest] at hnext
      simp [ScanState.startsPlain, hc, (Bool.or_eq_false_iff.1 hnext).1]

end IsFirstWord

/-- The scanner at the start of a line inside a mapping, or at the end of the text. -/
def AtLine (s : ScanState) (z : List Char) (ts : List Token) : Prop :=
  ∃ cur keyAllowed, cur.rest = z ∧ s.settled = mappingState cur ts keyAllowed ∧
    (z ≠ [] → cur.column = 0 ∧ keyAllowed = true)

theorem atLine_of_isTail (htail : IsTail tail) (hrest : cur.rest = tail) :
    AtLine (mappingState cur ts false) (tail.drop 1) ts := by
  rcases htail with rfl | ⟨z, rfl, hz⟩
  · exact ⟨cur, false, hrest, ScanState.skipBlanks_end hrest, fun h => absurd rfl h⟩
  · obtain ⟨hnext, hcolumn⟩ := Cursor.skipBreak_of_lineFeed hrest
    refine ⟨cur.skipBreak, true, hnext, ?_, fun _ => ⟨hcolumn, rfl⟩⟩
    rw [ScanState.settled]
    simp only [mappingState, hrest, List.length_cons]
    rw [ScanState.skipBlanks_lineFeed hrest hz rfl]

/-- The first token of a value. -/
theorem scan_value (hcur : cur.rest = ' ' :: c :: rest) (hsettled : isSettled (c :: rest) = true) :
    ScanState.scan (n + 1) (mappingState cur ts false) =
      ((mappingState (cur.skip 1) ts false).token c rest).bind (ScanState.scan n) :=
  ScanState.scan_token (ScanState.skipBlanks_space hcur hsettled) (dropStaleKeys_of_none rfl rfl)
    (unroll_of_le (Int.natCast_nonneg _)) (Cursor.rest_skip_one hcur)

/-- A JSON string behind a name, read as its text if no part of that is folded. -/
theorem scan_quoted (t : List Char) (ts : List Token)
    (hcur : cur.rest = ' ' :: (Json.quote t ++ tail)) :
    ∃ (read : Option (List Char)) (next : Cursor), next.rest = tail ∧
      (read = some t ↔ Unfolded t) ∧
      ScanState.scan (n + 1) (mappingState cur ts false) = read.bind fun u =>
        ScanState.scan n (mappingState next (ts ++ [.scalar u .quoted]) false) := by
  obtain ⟨read, next, hnext, hread, hsame⟩ := readQuoted?_quote t (Cursor.rest_skip_one hcur)
  refine ⟨read, next, hnext, hsame, ?_⟩
  have hquote : Json.quote t ++ tail = '"' :: written t tail := by simp [Json.quote, written]
  have hmark : ∀ mark, '"' ≠ mark → isMarkerLine mark ('"' :: written t tail) = false :=
    fun mark hne => isMarkerLine_cons_of_ne hne _
  rw [hquote] at hcur
  rw [scan_value hcur rfl]
  have htoken : (mappingState (cur.skip 1) ts false).token '"' (written t tail) =
      read.map fun u => mappingState next (ts ++ [.scalar u .quoted]) false := by
    cases read <;>
      simp [ScanState.token, hmark, ScanState.keyToken, ScanState.saveKey, ScanState.moveTo,
        ScanState.push, mappingState, hread]
  rw [htoken]
  cases read <;> rfl

/-- A list of nothing behind a name. -/
theorem scan_emptyList (hcur : cur.rest = ' ' :: '[' :: ']' :: tail) :
    ScanState.scan (n + 2) (mappingState cur ts false) = ScanState.scan n
      (mappingState (cur.skip 3) (ts ++ [.flowSequenceStart, .flowSequenceEnd]) false) := by
  let inside : ScanState :=
    { mappingState (cur.skip 2) (ts ++ [.flowSequenceStart]) true with outerKeys := [none] }
  have hrest : (cur.skip 2).rest = ']' :: tail := by simp [Cursor.skip, hcur]
  -- A bracket begins no line that parts documents.
  have hmark : ∀ c ∈ ['[', ']'], ∀ mark ∈ ['-', '.'], ∀ z, isMarkerLine mark (c :: z) = false := by
    intro c hc mark hmark z
    refine isMarkerLine_cons_of_ne ?_ z
    simp at hc hmark
    rcases hc with rfl | rfl <;> rcases hmark with rfl | rfl <;> decide
  calc ScanState.scan (n + 2) (mappingState cur ts false)
    _ = ((mappingState (cur.skip 1) ts false).token '[' (']' :: tail)).bind
          (ScanState.scan (n + 1)) := scan_value hcur rfl
    _ = ScanState.scan (n + 1) inside := by
      simp [ScanState.token, hmark, ScanState.openFlow, ScanState.saveKey, ScanState.moveTo,
        ScanState.push, mappingState, inside]
    _ = (inside.token ']' tail).bind (ScanState.scan n) := by
      refine ScanState.scan_token (ScanState.skipBlanks_of_isSettled ?_) rfl rfl hrest
      rw [show inside.cursor.rest = ']' :: tail from hrest]
      rfl
    _ = _ := by
      simp [ScanState.token, hmark, ScanState.closeFlow, ScanState.removeKey, ScanState.moveTo,
        ScanState.push, mappingState, inside]

/-- Words behind a name. -/
theorem scan_plain (ts : List Token) (hw : IsFirstWord w) (hws : ∀ v ∈ ws, IsWord v)
    (htail : IsTail tail)
    (hcur : cur.rest = ' ' :: (List.intercalate [' '] (w :: ws) ++ tail)) :
    ∃ s', AtLine s' (tail.drop 1) (ts ++ [.scalar (List.intercalate [' '] (w :: ws)) .plain]) ∧
      ∀ n, ScanState.scan (n + 1) (mappingState cur ts false) = ScanState.scan n s' := by
  have hbehind := Cursor.rest_skip_one hcur
  have hlength := length_le_intercalate w ws
  have hfuel : ws.length < (cur.skip 1).rest.length + 1 := by
    rw [hbehind, List.length_append]
    omega
  obtain ⟨next, hread, hnext, hcolumn⟩ := readPlainFrom?_words {} hw.toIsWord hws htail
    hbehind (by simp) hfuel
  obtain ⟨z, hz⟩ := exists_intercalate_append w ws tail
  obtain ⟨c, v, rfl⟩ := List.exists_cons_of_ne_nil hw.ne_nil
  rw [hz, List.cons_append] at hcur
  refine ⟨mappingState next (ts ++ [.scalar (List.intercalate [' '] ((c :: v) :: ws)) .plain])
    (!tail.isEmpty), ?_, fun n => ?_⟩
  · refine ⟨next, !tail.isEmpty, hnext, ?_, fun hne => ?_⟩
    · rcases htail with rfl | ⟨y, rfl, hy⟩
      · exact ScanState.skipBlanks_end hnext
      · exact ScanState.skipBlanks_of_isSettled (show isSettled next.rest = true from hnext ▸ hy)
    · have htail : tail ≠ [] := by
        rintro rfl
        exact hne rfl
      exact ⟨hcolumn htail, by simpa using htail⟩
  · have hplain := ScanState.token_plain (s := mappingState (cur.skip 1) ts false) rfl
      (hw.startsPlain_append z) (by simp [mappingState]) fun hc => hw.endsWord_of_hyphen hc z
    rw [scan_value hcur (hw.isSettled_append z), hplain]
    simp [ScanState.plainScalar, ScanState.saveKey, ScanState.moveTo, ScanState.push,
      ScanState.inFlow, readPlain?, mappingState, hread, Gap.folded]

/-! ## Runs of lines -/

/-- A value that is not in quotes. -/
inductive BareValue
  | words (first : List Char) (more : List (List Char))
  | emptyList

namespace BareValue

def chars : BareValue → List Char
  | words w ws => List.intercalate [' '] (w :: ws)
  | emptyList => ['[', ']']

def tokens : BareValue → List Token
  | words w ws => [.scalar (List.intercalate [' '] (w :: ws)) .plain]
  | emptyList => [.flowSequenceStart, .flowSequenceEnd]

/-- Whether the words of a value may be the words of a plain scalar. -/
def IsPlain : BareValue → Prop
  | words w ws => IsFirstWord w ∧ ∀ v ∈ ws, IsWord v
  | emptyList => True

end BareValue

/-- A field whose value is not in quotes. -/
structure BareField where
  name : List Char
  value : BareValue

namespace BareField

def chars (f : BareField) : List Char := f.name ++ ':' :: ' ' :: f.value.chars

def tokens (f : BareField) : List Token := nameTokens true f.name ++ f.value.tokens

/-- Whether a field can be read off a line. -/
structure IsProper (f : BareField) : Prop where
  name : IsName f.name
  value : f.value.IsPlain

end BareField

/-- Fields on lines of their own, behind another line. -/
def linesAfter (fs : List BareField) : List Char := fs.flatMap fun f => '\n' :: f.chars

theorem linesAfter_cons (f : BareField) (fs : List BareField) :
    linesAfter (f :: fs) = '\n' :: (f.name ++ ':' :: ' ' :: (f.value.chars ++ linesAfter fs)) := by
  simp [linesAfter, BareField.chars]

theorem isTail_linesAfter {fs : List BareField} (h : ∀ f ∈ fs, f.IsProper) :
    IsTail (linesAfter fs) := by
  cases fs with
  | nil => exact Or.inl rfl
  | cons f fs =>
    rw [linesAfter_cons]
    exact Or.inr ⟨_, rfl, (h f List.mem_cons_self).name.isSettled_append _⟩

/-- A value that is not in quotes takes at most as many steps as it has characters. -/
theorem scan_bareValue (ts : List Token) {v : BareValue} (hv : v.IsPlain) (htail : IsTail tail)
    (hcur : cur.rest = ' ' :: (v.chars ++ tail)) :
    ∃ s' k, AtLine s' (tail.drop 1) (ts ++ v.tokens) ∧ k ≤ v.chars.length ∧
      ∀ n, ScanState.scan (n + k) (mappingState cur ts false) = ScanState.scan n s' := by
  cases v with
  | words w ws =>
    obtain ⟨s', hline, hscan⟩ := scan_plain ts hv.1 hv.2 htail hcur
    obtain ⟨z, hz⟩ := exists_intercalate_append w ws []
    have hlength := congrArg List.length hz
    rw [List.append_nil, List.length_append] at hlength
    have hpos := List.length_pos_iff.2 hv.1.ne_nil
    exact ⟨s', 1, hline, by rw [BareValue.chars]; omega, hscan⟩
  | emptyList =>
    have hrest : (cur.skip 3).rest = tail := by simp [Cursor.skip, hcur, BareValue.chars]
    exact ⟨_, 2, atLine_of_isTail htail hrest, Nat.le_refl 2, fun n => scan_emptyList hcur⟩

/-- At the end of the text the mapping ends. -/
theorem scan_end (hs : AtLine s [] ts) :
    ScanState.scan (n + 1) s = some (ts ++ [.blockEnd, .streamEnd]) := by
  obtain ⟨cur, keyAllowed, hrest, hsettled, -⟩ := hs
  have hunroll := unroll_of_le (s := mappingState cur ts keyAllowed) (Int.natCast_nonneg cur.column)
  have hkeys := dropStaleKeys_of_none (s := mappingState cur ts keyAllowed) rfl rfl
  have hcursor : (mappingState cur ts keyAllowed).cursor = cur := rfl
  rw [ScanState.scan]
  simp only [ScanState.settled] at hsettled
  simp only [hsettled, hkeys, hcursor, hunroll, hrest, Option.bind_eq_bind, Option.bind_some]
  simp [ScanState.endStream, ScanState.unroll, ScanState.unrollFrom, ScanState.inFlow,
    ScanState.removeKey, ScanState.push, mappingState]

/-- The scanner goes through lines of fields and finds the tokens of each. -/
theorem scan_fields {fs : List BareField} (hfs : ∀ f ∈ fs, f.IsProper)
    (hs : AtLine s ((linesAfter fs).drop 1) ts) (hfuel : (linesAfter fs).length < fuel) :
    ScanState.scan fuel s =
      some (ts ++ fs.flatMap BareField.tokens ++ [.blockEnd, .streamEnd]) := by
  -- Line by line: the fuel exceeds what is left of the text.
  induction fs generalizing s ts fuel with
  | nil =>
    obtain ⟨fuel, rfl⟩ : ∃ n, fuel = n + 1 := Nat.exists_eq_add_one.2 hfuel
    rw [scan_end hs]
    simp
  | cons f fs ih =>
    obtain ⟨hf, hfs'⟩ := List.forall_mem_cons.1 hfs
    rw [linesAfter_cons, List.drop_one, List.tail_cons] at hs
    obtain ⟨cur, keyAllowed, hrest, hsettled, hfirst⟩ := hs
    obtain ⟨hcolumn, rfl⟩ := hfirst (by simp)
    have hopened : s.settled = lineState true cur ts := hsettled
    have hvalue : (cur.skip (f.name.length + 1)).rest =
        ' ' :: (f.value.chars ++ linesAfter fs) := by
      simp [Cursor.skip, hrest]
    obtain ⟨s', k, hline, hk, hscan⟩ := scan_bareValue (ts ++ nameTokens true f.name) hf.value
      (isTail_linesAfter hfs') hvalue
    have hlength : (linesAfter fs).length + k + 2 < fuel := by
      simp only [linesAfter_cons, List.length_cons, List.length_append] at hfuel
      omega
    obtain ⟨m, rfl⟩ : ∃ m, fuel = m + k + 2 := ⟨fuel - k - 2, by omega⟩
    have hm : (linesAfter fs).length < m := by omega
    rw [scan_name hf.name rfl hopened hrest hcolumn, hscan, ih hfs' hline hm]
    simp [BareField.tokens]

/-! ## Whole texts -/

/-- A character that a JSON string may hold in a YAML text: it is allowed there, or is written by
an escape. -/
def isWritable (c : Char) : Bool := decide (c.toNat < 32) || isAllowed c

/-- An escape is made of printable characters. -/
theorem printable_of_mem_quoteChar {d : Char} (hc : isEscaped c = true)
    (hd : d ∈ Json.quoteChar c) : 32 ≤ d.toNat ∧ d.toNat ≤ 126 := by
  have hshort : ∀ e : Char, 32 ≤ e.toNat ∧ e.toNat ≤ 126 → d ∈ ['\\', e] →
      32 ≤ d.toNat ∧ d.toNat ≤ 126 := by
    intro e he hmem
    rcases List.mem_cons.1 hmem with rfl | hmem
    · decide
    · rwa [List.mem_singleton.1 hmem]
  unfold Json.quoteChar at hd
  split at hd
  · exact hshort _ (by decide) hd
  split at hd
  · exact hshort _ (by decide) hd
  split at hd
  · exact hshort _ (by decide) hd
  split at hd
  · exact hshort _ (by decide) hd
  split at hd
  · exact hshort _ (by decide) hd
  split at hd
  · exact hshort _ (by decide) hd
  split at hd
  · exact hshort _ (by decide) hd
  split at hd
  · next hcontrol =>
    -- A control character is written by its code.
    have hcode : ∀ n < 32, (['\\', 'u', '0', '0', Json.hexDigit (n / 16),
        Json.hexDigit (n % 16)].all fun d => 32 ≤ d.toNat && d.toNat ≤ 126) = true := by decide
    simpa using List.all_eq_true.1 (hcode _ hcontrol) d hd
  · next hquote hslash _ _ _ _ _ hcontrol => simp [isEscaped, hquote, hslash, hcontrol] at hc

theorem isAllowed_of_printable {d : Char} (h : 32 ≤ d.toNat ∧ d.toNat ≤ 126) :
    isAllowed d = true := by
  simp [isAllowed, h]

theorem all_isAllowed_quoteChar (c : Char) :
    (Json.quoteChar c).all isAllowed = isWritable c := by
  cases hc : isEscaped c with
  | true =>
    have hwritable : isWritable c = true := by
      simp only [isEscaped, Bool.or_eq_true, decide_eq_true_eq] at hc
      rcases hc with (rfl | rfl) | hc
      · decide
      · decide
      · simp [isWritable, hc]
    rw [hwritable, List.all_eq_true]
    exact fun d hd => isAllowed_of_printable (printable_of_mem_quoteChar hc hd)
  | false =>
    have hcontrol : ¬ c.toNat < 32 := by
      simp only [isEscaped, Bool.or_eq_false_iff, decide_eq_false_iff_not] at hc
      exact hc.2
    simp [quoteChar_eq_self hc, isWritable, hcontrol]

theorem all_isAllowed_quote (t : List Char) :
    (Json.quote t).all isAllowed = t.all isWritable := by
  have hquote : isAllowed '"' = true := by decide
  simp [Json.quote, List.all_flatMap, all_isAllowed_quoteChar, hquote]

theorem scan?_of_isSettled (h : isSettled z = true) :
    Token.scan? z =
      if z.all isAllowed then ScanState.scan (z.length + 1) { cursor := { rest := z } }
      else none := by
  unfold Token.scan?
  split
  · cases h
  · rfl

/-- A text whose first line has a value in quotes. -/
def quotedLines (name t : List Char) (fs : List BareField) : List Char :=
  name ++ ':' :: ' ' :: (Json.quote t ++ linesAfter fs)

/-- The tokens of such a text whose value in quotes is read as `u`. -/
def quotedTokens (name u : List Char) (fs : List BareField) : List Token :=
  nameTokens false name ++ .scalar u .quoted :: fs.flatMap BareField.tokens ++
    [.blockEnd, .streamEnd]

theorem all_isAllowed_quotedLines {fs : List BareField}
    (h : (name ++ linesAfter fs).all isAllowed = true) (t : List Char) :
    (quotedLines name t fs).all isAllowed = t.all isWritable := by
  have hcolon : isAllowed ':' = true ∧ isAllowed ' ' = true := by decide
  rw [List.all_append, Bool.and_eq_true] at h
  simp [quotedLines, h, hcolon, all_isAllowed_quote]

/-- The scanner goes through such a text to its end, if it gets through the value in quotes. -/
theorem scan_quotedLines {fs : List BareField} (hname : IsName name)
    (hfs : ∀ f ∈ fs, f.IsProper) (t : List Char) :
    ∃ read : Option (List Char), (read = some t ↔ Unfolded t) ∧
      ScanState.scan ((quotedLines name t fs).length + 1)
          { cursor := { rest := quotedLines name t fs } } =
        read.map (quotedTokens name · fs) := by
  obtain ⟨n, hlength, hn⟩ : ∃ n, (quotedLines name t fs).length + 1 = n + 3 ∧
      (linesAfter fs).length < n := by
    refine ⟨(quotedLines name t fs).length - 2, ?_, ?_⟩ <;>
      simp [quotedLines, Json.quote] <;> omega
  have hsettled : ScanState.settled { cursor := { rest := quotedLines name t fs } } =
      lineState false { rest := quotedLines name t fs } [] :=
    ScanState.skipBlanks_of_isSettled (hname.isSettled_append _)
  have hvalue : (Cursor.skip { rest := quotedLines name t fs } (name.length + 1)).rest =
      ' ' :: (Json.quote t ++ linesAfter fs) := by
    simp [Cursor.skip, quotedLines]
  obtain ⟨read, next, hnext, hsame, hscan⟩ :=
    scan_quoted t (nameTokens false name) (n := n) hvalue
  refine ⟨read, hsame, ?_⟩
  rw [hlength, scan_name hname rfl hsettled rfl rfl, List.nil_append, hscan]
  cases read with
  | none => rfl
  | some u =>
    rw [Option.bind_some, scan_fields hfs (atLine_of_isTail (isTail_linesAfter hfs) hnext) hn]
    simp [quotedTokens]

/-- The tokens of a text whose first line has a value in quotes. -/
theorem scan?_quotedLines {fs : List BareField} (hname : IsName name)
    (hfs : ∀ f ∈ fs, f.IsProper) (hallowed : (name ++ linesAfter fs).all isAllowed = true)
    (t : List Char) :
    ∃ read : Option (List Char), (read = some t ↔ t.all isWritable = true ∧ Unfolded t) ∧
      Token.scan? (quotedLines name t fs) = read.map (quotedTokens name · fs) := by
  obtain ⟨read, hsame, hscan⟩ := scan_quotedLines hname hfs t
  have hsettled : isSettled (quotedLines name t fs) = true := hname.isSettled_append _
  rw [scan?_of_isSettled hsettled, all_isAllowed_quotedLines hallowed, hscan]
  cases hwritable : t.all isWritable with
  | true => exact ⟨read, by simp [hsame], rfl⟩
  | false => exact ⟨none, by simp, rfl⟩

end Yaml
end StaticBlog
