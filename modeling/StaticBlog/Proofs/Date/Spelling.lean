import Mathlib.Data.List.Chain
import Mathlib.Data.List.DropRight
import StaticBlog.Proofs.Date.Exchange
import StaticBlog.Proofs.Text.Pieces

/-!
# Spellings of dates

A plain format has many spellings of one date: numbers are padded or not, and any blanks part a date
from a time.

- `Pattern.Spells` : the spellings of a date in a plain format
- `readPattern?_of_spells` : they are read by the format, the parts that it does not name being zero
- `Pattern.Spells.trim_eq` : a spelling has no blanks around it
- `Pattern.spells_write` : what is written is a spelling
-/

namespace StaticBlog

open Text

variable {c : Char} {ds w text rest : List Char} {parts got : DateParts} {m : Moment}
  {item next : PatternItem} {pattern : Pattern}

/-! ## Spellings -/

/-- The digits of a year: up to four of them, or any number behind a sign. -/
inductive IsYearText : Int → List Char → Prop
  | bare {n : Nat} {ds : List Char} (h : IsNumeral 1 4 n ds) : IsYearText n ds
  | ahead {n : Nat} {ds : List Char} (h : IsNumeral 1 ds.length n ds) : IsYearText n ('+' :: ds)
  | behind {n : Nat} {ds : List Char} (h : IsNumeral 1 ds.length n ds) :
      IsYearText (-n) ('-' :: ds)

namespace PatternItem

/-- A text that an item stands for in a date with these parts. -/
def Spells (parts : DateParts) (text : List Char) : PatternItem → Prop
  | .year => IsYearText parts.year text
  | .month => IsNumeral 1 2 parts.month text
  | .day => IsNumeral 1 2 parts.day text
  | .hour => IsNumeral 1 2 parts.hour text
  | .minute => IsNumeral 1 2 parts.minute text
  | .second => IsNumeral 1 2 parts.second text
  | .subsecond => IsSubsecond parts.nanos text
  | .literal c => text = [c]
  | .blanks => text ≠ [] ∧ ∀ c ∈ text, isBlank c = true

/-- The part that an item names, copied. -/
def copy (parts got : DateParts) : PatternItem → DateParts
  | .year => { got with year := parts.year }
  | .month => { got with month := parts.month }
  | .day => { got with day := parts.day }
  | .hour => { got with hour := parts.hour }
  | .minute => { got with minute := parts.minute }
  | .second => { got with second := parts.second }
  | .subsecond => { got with nanos := parts.nanos }
  | .literal _ => got
  | .blanks => got

end PatternItem

/-- A text that a plain format stands for in a date with these parts. -/
inductive Pattern.Spells (parts : DateParts) : Pattern → List Char → Prop
  | nil : Pattern.Spells parts [] []
  | cons {item : PatternItem} {pattern : Pattern} {w text : List Char} (hitem : item.Spells parts w)
      (h : Pattern.Spells parts pattern text) : Pattern.Spells parts (item :: pattern) (w ++ text)

/-- The parts that a plain format names. The others are zero. -/
def DateParts.given (parts : DateParts) (pattern : Pattern) : DateParts :=
  pattern.foldl (fun got item => item.copy parts got) {}

/-! ## Reading a spelling -/

theorem trimStart_append_of_isDigit (hds : ∀ c ∈ ds, c.isDigit = true) (hne : ds ≠ [])
    (rest : List Char) : trimStart (ds ++ rest) = ds ++ rest := by
  obtain ⟨c, ds, rfl⟩ := List.exists_cons_of_ne_nil hne
  have hc := isBlank_of_isDigit (hds c List.mem_cons_self)
  simp [trimStart, dropFront, hc]

theorem exists_cons_of_isNumeral {high n : Nat} (h : IsNumeral 1 high n ds) :
    ∃ c v, ds = c :: v ∧ isBlank c = false := by
  obtain ⟨c, v, rfl⟩ := List.exists_cons_of_ne_nil (h.ne_nil (by decide))
  exact ⟨c, v, rfl, isBlank_of_isDigit (h.isDigit c List.mem_cons_self)⟩

theorem IsYearText.exists_cons {year : Int} (h : IsYearText year text) :
    ∃ c v, text = c :: v ∧ isBlank c = false := by
  cases h with
  | bare h => exact exists_cons_of_isNumeral h
  | ahead h => exact ⟨_, _, rfl, rfl⟩
  | behind h => exact ⟨_, _, rfl, rfl⟩

theorem IsYearText.isBlank_of_mem {year : Int} (h : IsYearText year text) (hc : c ∈ text) :
    isBlank c = false := by
  cases h with
  | bare h => exact isBlank_of_isDigit (h.isDigit c hc)
  | ahead h =>
    rcases List.mem_cons.1 hc with rfl | hc
    · rfl
    · exact isBlank_of_isDigit (h.isDigit c hc)
  | behind h =>
    rcases List.mem_cons.1 hc with rfl | hc
    · rfl
    · exact isBlank_of_isDigit (h.isDigit c hc)

theorem readTwo?_append {n : Nat} (h : IsNumeral 1 2 n ds)
    (hrest : rest.head?.any Char.isDigit = false) : readTwo? (ds ++ rest) = some (n, rest) := by
  rw [readTwo?, trimStart_append_of_isDigit h.isDigit (h.ne_nil (by decide)),
    h.leading_append (Or.inr hrest)]

theorem readYear?_append {year : Int} (h : IsYearText year text)
    (hrest : rest.head?.any Char.isDigit = false) :
    readYear? (text ++ rest) = some (year, rest) := by
  -- A sign is no blank, so that it comes first when blanks are passed.
  have hsign : ∀ {c : Char}, isBlank c = false → ∀ s, trimStart (c :: s) = c :: s := by
    intro c hc s
    simp [trimStart, dropFront, hc]
  have hread : ∀ {n : Nat} {ds : List Char}, IsNumeral 1 ds.length n ds →
      leading 1 (ds ++ rest).length (ds ++ rest) = some (n, rest) := by
    intro n ds h
    rw [leading_append h.isDigit h.low_le (by simp) (Or.inr hrest), h.value]
  cases h with
  | bare h =>
    have hfirst : ∀ c s, text ++ rest = c :: s → c.isDigit = true := by
      intro c s hs
      obtain ⟨d, ds, rfl⟩ := List.exists_cons_of_ne_nil (h.ne_nil (by decide))
      rw [← (List.cons.inj hs).1]
      exact h.isDigit d List.mem_cons_self
    -- A digit stands first, and so no sign is read.
    unfold readYear?
    rw [trimStart_append_of_isDigit h.isDigit (h.ne_nil (by decide))]
    split
    · next heq =>
      have hdigit := hfirst _ _ heq
      cases hdigit
    · next heq =>
      have hdigit := hfirst _ _ heq
      cases hdigit
    · rw [h.leading_append (Or.inr hrest)]
      rfl
  | ahead h =>
    rw [List.cons_append, readYear?, hsign rfl]
    simp only [hread h, Option.map_some]
  | behind h =>
    rw [List.cons_append, readYear?, hsign rfl]
    simp only [hread h, Option.map_some]

namespace PatternItem

/-- An item that has been read ends where the rest begins. -/
def StopsAt (rest : List Char) : PatternItem → Prop
  | .literal _ => True
  | .blanks => rest.head?.any isBlank = false
  | .subsecond => rest = []
  | _ => rest.head?.any Char.isDigit = false

theorem stopsAt_nil (item : PatternItem) : item.StopsAt [] := by
  cases item with
  | literal => trivial
  | _ => rfl

/-- An item of a format is read off the front of a text, if it ends there. -/
theorem read?_of_spells (h : item.Spells parts w) (hrest : item.StopsAt rest) :
    item.read? got (w ++ rest) = some (item.copy parts got, rest) := by
  cases item with
  | year => simp only [read?, readYear?_append h hrest, Option.map_some, copy]
  | subsecond =>
    obtain rfl : rest = [] := hrest
    have hread : readFraction? (w ++ []) = some (parts.nanos, []) :=
      IsSubsecond.readFraction? h rfl (by simp)
    simp only [read?, hread, Option.map_some, copy]
  | literal c =>
    obtain rfl : w = [c] := h
    simp [read?, readChar?, copy]
  | blanks =>
    -- All blanks are passed, and so none may stand behind the item.
    have hhead : rest.head?.any isBlank = false := hrest
    have hstop : trimStart rest = rest := by
      rw [trimStart, dropFront_eq_self_iff]
      intro c hc
      simpa [hc] using hhead
    have htrim : trimStart (w ++ rest) = rest := by
      rw [trimStart, dropFront, List.dropWhile_append_of_pos h.2]
      exact hstop
    simp only [read?, htrim, copy]
  | _ => simp only [read?, readTwo?_append h hrest, Option.map_some, copy]

/-- The items that begin with a digit or, for a year, with a sign. -/
def isNumber : PatternItem → Bool
  | .year | .month | .day | .hour | .minute | .second => true
  | _ => false

/-- The items that can follow a number. -/
def endsNumber : PatternItem → Bool
  | .literal c => !c.isDigit
  | .blanks | .subsecond => true
  | _ => false

/-- Whether an item can stand before another, so that each reads what belongs to it. -/
def precedes (item next : PatternItem) : Bool :=
  match item with
  | .literal _ => true
  | .blanks => next.isNumber
  | .subsecond => false
  | _ => next.endsNumber

/-- A number begins with a character that is no blank. -/
theorem exists_cons_of_isNumber (hnumber : item.isNumber = true) (h : item.Spells parts w) :
    ∃ c v, w = c :: v ∧ isBlank c = false := by
  cases item with
  | year => exact IsYearText.exists_cons h
  | subsecond => cases hnumber
  | literal => cases hnumber
  | blanks => cases hnumber
  | _ => exact exists_cons_of_isNumeral h

theorem stopsAt_append (hprecedes : item.precedes next = true) (h : next.Spells parts w)
    (hlast : next = .subsecond → rest = []) : item.StopsAt (w ++ rest) := by
  -- What may follow a number does not begin with a digit.
  have hends : next.endsNumber = true → (w ++ rest).head?.any Char.isDigit = false := by
    intro hends
    cases next with
    | literal c =>
      obtain rfl : w = [c] := h
      have hdigit : (!c.isDigit) = true := hends
      simpa using hdigit
    | blanks =>
      obtain ⟨c, v, rfl⟩ := List.exists_cons_of_ne_nil h.1
      have hblank := h.2 c List.mem_cons_self
      by_contra hdigit
      rw [Bool.not_eq_false] at hdigit
      exact absurd (isBlank_of_isDigit hdigit) (by simp [hblank])
    | subsecond =>
      rw [hlast rfl, List.append_nil]
      exact IsSubsecond.head?_any_isDigit h
    | _ => cases hends
  cases item with
  | literal => trivial
  | blanks =>
    obtain ⟨c, v, rfl, hc⟩ := exists_cons_of_isNumber hprecedes h
    exact hc
  | subsecond => cases hprecedes
  | _ => exact hends hprecedes

end PatternItem

theorem readItems?_of_spells (hchain : pattern.IsChain fun item next => item.precedes next = true)
    (h : pattern.Spells parts text) (got : DateParts) :
    readItems? pattern got text =
      some (pattern.foldl (fun got item => item.copy parts got) got, []) := by
  induction h generalizing got with
  | nil => rfl
  | @cons item pattern w text hitem h ih =>
    -- The item ends where the next one begins, which is at hand only as the text of the others.
    have hstop : item.StopsAt text := by
      cases h with
      | nil => exact item.stopsAt_nil
      | @cons next pattern v text hnext h =>
        refine PatternItem.stopsAt_append (List.isChain_cons_cons.1 hchain).1 hnext ?_
        -- Nothing can follow a part of a second.
        rintro rfl
        cases h with
        | nil => rfl
        | cons => cases (List.isChain_cons_cons.1 hchain.tail).1
    rw [readItems?, PatternItem.read?_of_spells hitem hstop]
    exact ih hchain.tail _

theorem isChain_precedes : ∀ pattern ∈ plainPatterns,
    pattern.IsChain fun item next => item.precedes next = true := by decide

/-- A spelling is read by its format. -/
theorem readPattern?_of_spells (hpattern : pattern ∈ plainPatterns)
    (h : pattern.Spells parts text) : readPattern? pattern text = (parts.given pattern).moment? := by
  rw [readPattern?, readItems?_of_spells (isChain_precedes pattern hpattern) h {}]
  rfl

/-! ## Blanks around a spelling -/

namespace PatternItem

/-- The items that hold no blank. -/
def isSolid : PatternItem → Bool
  | .literal c => !isBlank c
  | .blanks => false
  | _ => true

theorem isBlank_of_isSolid (hsolid : item.isSolid = true) (h : item.Spells parts w) (hc : c ∈ w) :
    isBlank c = false := by
  cases item with
  | year => exact IsYearText.isBlank_of_mem h hc
  | subsecond => exact IsSubsecond.isBlank_of_mem h hc
  | literal d =>
    obtain rfl : w = [d] := h
    have hblank : (!isBlank d) = true := hsolid
    rw [List.mem_singleton.1 hc]
    simpa using hblank
  | blanks => cases hsolid
  | _ => exact isBlank_of_isDigit (IsNumeral.isDigit h c hc)

end PatternItem

namespace Pattern.Spells

theorem isBlank_of_mem (h : Spells parts pattern text)
    (hsolid : ∀ item ∈ pattern, item.isSolid = true) (hc : c ∈ text) : isBlank c = false := by
  induction h with
  | nil => cases hc
  | cons hitem _ ih =>
    rw [List.forall_mem_cons] at hsolid
    rcases List.mem_append.1 hc with hc | hc
    · exact PatternItem.isBlank_of_isSolid hsolid.1 hitem hc
    · exact ih hsolid.2 hc

theorem ne_nil (h : Spells parts pattern text)
    (hnumber : pattern.head?.any PatternItem.isNumber = true) : text ≠ [] := by
  cases h with
  | nil => cases hnumber
  | cons hitem _ =>
    obtain ⟨c, v, rfl, _⟩ := PatternItem.exists_cons_of_isNumber hnumber hitem
    exact List.cons_ne_nil _ _

/-- The end of a format spells the end of the text. -/
theorem exists_suffix {front : Pattern} (h : Spells parts (front ++ pattern) text) :
    ∃ t, t <:+ text ∧ Spells parts pattern t := by
  induction front generalizing text with
  | nil => exact ⟨text, List.suffix_refl text, h⟩
  | cons item front ih =>
    cases h with
    | @cons _ _ w rest hitem h =>
      obtain ⟨t, ht, hpattern⟩ := ih h
      exact ⟨t, ht.trans (List.suffix_append w rest), hpattern⟩

/-- A date in a plain format begins and ends with a number. -/
theorem trim_eq (hpattern : pattern ∈ plainPatterns) (h : Spells parts pattern text) :
    trim text = text := by
  -- Behind the last blanks of a format stands a number, and then nothing that holds a blank.
  have hends : ∀ pattern ∈ plainPatterns, pattern.head? = some .year ∧
      (pattern.rtakeWhile PatternItem.isSolid).head?.any PatternItem.isNumber = true := by decide
  obtain ⟨hyear, hnumber⟩ := hends pattern hpattern
  obtain ⟨front, hfront⟩ := List.rtakeWhile_suffix PatternItem.isSolid pattern
  obtain ⟨back, hback, hspells⟩ := exists_suffix (hfront.symm ▸ h)
  cases h with
  | nil => cases hyear
  | @cons item pattern w text hitem h =>
    obtain rfl : item = .year := Option.some.inj hyear
    obtain ⟨c, v, hw, hc⟩ := IsYearText.exists_cons hitem
    refine dropBoth_eq_self_of_ends (List.prefix_append w text) hback (by simp [hw])
      (hspells.ne_nil hnumber) (fun c => IsYearText.isBlank_of_mem hitem) fun c => ?_
    exact hspells.isBlank_of_mem fun item => List.mem_rtakeWhile_imp

end Pattern.Spells

/-! ## The moment of a spelling -/

namespace DateParts

theorem moment?_eq_some_iff :
    parts.moment? = some m ↔ isYear parts.year = true ∧
      Date.ofParts? parts.year parts.month parts.day = some m.date ∧
      TimeOfDay.ofParts? parts.hour parts.minute parts.second parts.nanos = some m.time := by
  obtain ⟨date, time⟩ := m
  simp only [moment?, Option.ite_none_right_eq_some, Option.bind_eq_bind, Option.bind_eq_some_iff,
    Option.some.injEq, Moment.mk.injEq]
  constructor
  · rintro ⟨hyear, _, hdate, _, htime, rfl, rfl⟩
    exact ⟨hyear, hdate, htime⟩
  · rintro ⟨hyear, hdate, htime⟩
    exact ⟨hyear, date, hdate, time, htime, rfl, rfl⟩

/-- A plain format names the day and some of the time. -/
theorem given_spec (hpattern : pattern ∈ plainPatterns) (parts : DateParts) :
    (parts.given pattern).year = parts.year ∧ (parts.given pattern).month = parts.month ∧
      (parts.given pattern).day = parts.day ∧ (parts.given pattern).hour ≤ parts.hour ∧
      (parts.given pattern).minute ≤ parts.minute ∧ (parts.given pattern).second ≤ parts.second ∧
      (parts.given pattern).nanos ≤ parts.nanos := by
  simp only [plainPatterns, List.mem_cons, List.not_mem_nil, or_false] at hpattern
  rcases hpattern with rfl | rfl | rfl | rfl | rfl | rfl | rfl | rfl <;>
    simp [given, datePattern, timePattern, fullTimePattern, PatternItem.copy]

/-- Without some of its time the day still has such a moment. -/
theorem exists_moment?_given (hpattern : pattern ∈ plainPatterns) (h : parts.moment? = some m) :
    ∃ m', (parts.given pattern).moment? = some m' ∧ m'.date = m.date := by
  obtain ⟨hyear, hdate, htime⟩ := moment?_eq_some_iff.1 h
  obtain ⟨hyear', hmonth', hday', hhour', hminute', hsecond', hnanos'⟩ := given_spec hpattern parts
  have hbounds := TimeOfDay.isSome_ofParts?_iff.1 (Option.isSome_of_eq_some htime)
  obtain ⟨time, hgiven⟩ := Option.isSome_iff_exists.1
    (TimeOfDay.isSome_ofParts?_iff.2 (show (parts.given pattern).hour < 24 ∧
      (parts.given pattern).minute < 60 ∧ (parts.given pattern).second ≤ 60 ∧
        (parts.given pattern).nanos < 1000000000 by omega))
  refine ⟨⟨m.date, time⟩, moment?_eq_some_iff.2 ⟨?_, ?_, hgiven⟩, rfl⟩
  · rwa [hyear']
  · rwa [hyear', hmonth', hday']

end DateParts

/-! ## What is written -/

theorem isYearText_yearChars (year : Int) : IsYearText year (yearChars year) := by
  unfold yearChars
  split
  · next h =>
    have hnumeral : IsNumeral 1 4 year.natAbs (fixed 4 year.natAbs) :=
      isNumeral_fixed (by decide) (by decide) (show year.natAbs < 10000 by omega)
    have htext := IsYearText.bare hnumeral
    rwa [Int.natAbs_of_nonneg h.1] at htext
  · have hnumeral : IsNumeral 1 (atLeast 4 year.natAbs).length year.natAbs (atLeast 4 year.natAbs) :=
      ⟨fun c hc => isDigit_of_mem_atLeast hc, List.length_pos_iff.2 (atLeast_ne_nil (by decide)),
        Nat.le_refl _, valueOf_atLeast 4 _⟩
    split
    · next hneg =>
      have htext := IsYearText.behind hnumeral
      rwa [show -(year.natAbs : Int) = year by omega] at htext
    · next hpos =>
      have htext := IsYearText.ahead hnumeral
      rwa [show (year.natAbs : Int) = year by omega] at htext

/-- An item as it is written: numbers padded, one blank. -/
def PatternItem.write (parts : DateParts) : PatternItem → List Char
  | .year => yearChars parts.year
  | .month => fixed 2 parts.month
  | .day => fixed 2 parts.day
  | .hour => fixed 2 parts.hour
  | .minute => fixed 2 parts.minute
  | .second => fixed 2 parts.second
  | .subsecond => subsecondChars parts.nanos
  | .literal c => [c]
  | .blanks => [' ']

/-- A date as it is written in a plain format. -/
def Pattern.write (parts : DateParts) (pattern : Pattern) : List Char :=
  pattern.flatMap (PatternItem.write parts)

/-- What is written is a spelling. -/
theorem Pattern.spells_write (h : parts.moment? = some m) (pattern : Pattern) :
    pattern.Spells parts (pattern.write parts) := by
  obtain ⟨_, hdate, htime⟩ := DateParts.moment?_eq_some_iff.1 h
  obtain ⟨-, hmonth, hday⟩ := Date.ofParts?_eq_some_iff.1 hdate
  have hbounds := TimeOfDay.isSome_ofParts?_iff.1 (Option.isSome_of_eq_some htime)
  have hmonth_le := m.date.month_le
  have hday_le := m.date.day_le_31
  have htwo : ∀ {n}, n < 100 → IsNumeral 1 2 n (fixed 2 n) := fun hn =>
    isNumeral_fixed (by decide) (by decide) hn
  induction pattern with
  | nil => exact .nil
  | cons item pattern ih =>
    refine .cons ?_ ih
    cases item with
    | year => exact isYearText_yearChars parts.year
    | subsecond => exact isSubsecond_subsecondChars hbounds.2.2.2
    | literal c => rfl
    | blanks => simp [PatternItem.Spells, PatternItem.write, isBlank]
    | _ => exact htwo (by omega)

end StaticBlog
