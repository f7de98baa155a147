import StaticBlog.Proofs.Date.Spelling

/-!
# The meaning of dates

No text has two meanings as a date: its colons, slashes and letters tell the format. So each spelling
is read as what it spells, in whatever order the formats are tried.

- `marks_of_readPattern?` : the colons, slashes and letters of a text are those of the format
- `eq_of_readPattern?` : formats that read the same text read the same moment
- `readExchange?_of_readPattern?` : no text in a plain format is in the exchange format
- `Moment.parse?_of_isExchange`, `Moment.parse?_of_spells` : spellings are read as their moments
- `Moment.dayChars`, `Moment.clockChars`, `Moment.format_toSecond` : what is written for a moment
- `Moment.isSome_parse?_format` : every moment of a year that there are dates for is read
-/

namespace StaticBlog

open Text

variable {c : Char} {s ds text rest : List Char} {parts got got' : DateParts} {m m' : Moment}
  {item : PatternItem} {pattern other : Pattern}

/-! ## Marks -/

/-- The characters that tell the formats apart. No number and no blank holds one. -/
def markChars : List Char := [':', '/', 'T', 'Z', 'z']

def isMark (c : Char) : Bool := markChars.contains c

/-- The marks of a text in their order. -/
def marks (s : List Char) : List Char := s.filter isMark

theorem marks_append (s t : List Char) : marks (s ++ t) = marks s ++ marks t :=
  List.filter_append s t

theorem isMark_eq_false (h : c.isDigit = true ∨ isBlank c = true) : isMark c = false := by
  have hmarks : ∀ d ∈ markChars, d.isDigit = false ∧ isBlank d = false := by
    simp [markChars, isBlank, Char.isDigit]
  by_contra hmark
  rw [Bool.not_eq_false, isMark, List.contains_iff_mem] at hmark
  simp [hmarks c hmark] at h

theorem marks_of_isDigit (h : ∀ c ∈ ds, c.isDigit = true) : marks ds = [] :=
  List.filter_eq_nil_iff.2 fun c hc => by simp [isMark_eq_false (Or.inl (h c hc))]

theorem marks_trimStart (s : List Char) : marks (trimStart s) = marks s := by
  have hcut : s.takeWhile isBlank ++ trimStart s = s := List.takeWhile_append_dropWhile
  have hblank : marks (s.takeWhile isBlank) = [] :=
    List.filter_eq_nil_iff.2 fun c hc => by
      simp [isMark_eq_false (Or.inr (List.mem_takeWhile_imp hc))]
  calc marks (trimStart s) = marks (s.takeWhile isBlank ++ trimStart s) := by
        rw [marks_append, hblank, List.nil_append]
    _ = marks s := by rw [hcut]

theorem marks_of_leading {low high n : Nat} (h : leading low high s = some (n, rest)) :
    marks s = marks rest := by
  obtain ⟨ds, hds, rfl⟩ := exists_isNumeral_of_leading h
  rw [marks_append, marks_of_isDigit hds.isDigit, List.nil_append]

theorem marks_of_readTwo? {n : Nat} (h : readTwo? s = some (n, rest)) : marks s = marks rest := by
  rw [← marks_trimStart s]
  exact marks_of_leading h

theorem marks_of_readYear? {year : Int} (h : readYear? s = some (year, rest)) :
    marks s = marks rest := by
  rw [← marks_trimStart s]
  unfold readYear? at h
  split at h
  · next t heq =>
    obtain ⟨⟨n, t'⟩, hread, hresult⟩ := Option.map_eq_some_iff.1 h
    cases hresult
    rw [heq, ← marks_of_leading hread]
    rfl
  · next t heq =>
    obtain ⟨⟨n, t'⟩, hread, hresult⟩ := Option.map_eq_some_iff.1 h
    cases hresult
    rw [heq, ← marks_of_leading hread]
    rfl
  · obtain ⟨⟨n, t'⟩, hread, hresult⟩ := Option.map_eq_some_iff.1 h
    cases hresult
    exact marks_of_leading hread

theorem marks_of_readFraction? {n : Nat} (h : readFraction? s = some (n, rest)) :
    marks s = marks rest := by
  obtain ⟨text, htext, rfl⟩ := exists_isSubsecond_of_readFraction? h
  cases htext with
  | nothing => rfl
  | fraction hds =>
    rw [marks_append, ← List.singleton_append, marks_append, marks_of_isDigit hds.isDigit]
    rfl

/-- The marks that an item takes from a text. -/
def PatternItem.marks : PatternItem → List Char
  | .literal c => StaticBlog.marks [c]
  | _ => []

theorem marks_of_read? (h : item.read? got s = some (got', rest)) :
    marks s = item.marks ++ marks rest := by
  cases item with
  | year =>
    obtain ⟨⟨n, t⟩, hread, hresult⟩ := Option.map_eq_some_iff.1 h
    cases hresult
    exact marks_of_readYear? hread
  | subsecond =>
    obtain ⟨⟨n, t⟩, hread, hresult⟩ := Option.map_eq_some_iff.1 h
    cases hresult
    exact marks_of_readFraction? hread
  | literal c =>
    obtain ⟨t, hread, hresult⟩ := Option.map_eq_some_iff.1 h
    cases hresult
    rw [readChar?_eq_some_iff.1 hread, ← List.singleton_append, marks_append, PatternItem.marks]
  | blanks =>
    cases h
    exact (marks_trimStart s).symm
  -- All other items are numbers of two digits.
  | _ =>
    obtain ⟨⟨n, t⟩, hread, hresult⟩ := Option.map_eq_some_iff.1 h
    cases hresult
    exact marks_of_readTwo? hread

theorem marks_of_readItems? (h : readItems? pattern got s = some (got', rest)) :
    marks s = pattern.flatMap PatternItem.marks ++ marks rest := by
  induction pattern generalizing got s with
  | nil =>
    cases h
    rfl
  | cons item pattern ih =>
    obtain ⟨⟨got₁, s₁⟩, hitem, h⟩ := Option.bind_eq_some_iff.1 h
    rw [marks_of_read? hitem, ih h, List.flatMap_cons, List.append_assoc]

/-- The marks of a text are those of the format that reads it. -/
theorem marks_of_readPattern? (h : readPattern? pattern s = some m) :
    marks s = pattern.flatMap PatternItem.marks := by
  obtain ⟨⟨got, rest⟩, hread, h⟩ := Option.bind_eq_some_iff.1 h
  simp only [Option.ite_none_right_eq_some, List.isEmpty_iff] at h
  rw [marks_of_readItems? hread, h.1]
  exact List.append_nil _

/-! ## One meaning -/

/-- The formats differ in their marks, but for a part of a second at the end. -/
theorem eq_or_eq_append_of_marks_eq : ∀ pattern ∈ plainPatterns, ∀ other ∈ plainPatterns,
    pattern.flatMap PatternItem.marks = other.flatMap PatternItem.marks →
      pattern = other ∨ pattern = other ++ [.subsecond] ∨ other = pattern ++ [.subsecond] := by
  decide

theorem readItems?_append (pattern other : Pattern) (got : DateParts) (s : List Char) :
    readItems? (pattern ++ other) got s =
      (readItems? pattern got s).bind fun (got, s) => readItems? other got s := by
  induction pattern generalizing got s with
  | nil => rfl
  | cons item pattern ih => simp [readItems?, ih, Option.bind_assoc]

theorem nanos_of_readItems? (hpattern : .subsecond ∉ pattern)
    (h : readItems? pattern got s = some (got', rest)) : got'.nanos = got.nanos := by
  induction pattern generalizing got s with
  | nil =>
    cases h
    rfl
  | cons item pattern ih =>
    obtain ⟨⟨got₁, s₁⟩, hitem, h⟩ := Option.bind_eq_some_iff.1 h
    rw [List.mem_cons, not_or] at hpattern
    rw [ih hpattern.2 h]
    cases item with
    | subsecond => exact absurd rfl hpattern.1
    | blanks =>
      cases hitem
      rfl
    | _ =>
      obtain ⟨_, _, hresult⟩ := Option.map_eq_some_iff.1 hitem
      cases hresult
      rfl

/-- A text without a part of a second is read the same where there might be one. -/
theorem readPattern?_subsecond (hpattern : .subsecond ∉ pattern)
    (h : readPattern? pattern s = some m) : readPattern? (pattern ++ [.subsecond]) s = some m := by
  obtain ⟨⟨got, rest⟩, hread, h⟩ := Option.bind_eq_some_iff.1 h
  simp only [Option.ite_none_right_eq_some, List.isEmpty_iff] at h
  obtain ⟨rfl, h⟩ := h
  have hnanos : got.nanos = 0 := nanos_of_readItems? hpattern hread
  have hgot : { got with nanos := 0 } = got := by rw [← hnanos]
  simp [readPattern?, readItems?_append, hread, readItems?, PatternItem.read?, readFraction?, hgot, h]

/-- Formats that read the same text read the same moment. -/
theorem eq_of_readPattern? (hpattern : pattern ∈ plainPatterns) (hother : other ∈ plainPatterns)
    (h : readPattern? pattern s = some m) (h' : readPattern? other s = some m') : m = m' := by
  have honce : ∀ pattern ∈ plainPatterns, ∀ other ∈ plainPatterns,
      pattern = other ++ [.subsecond] → .subsecond ∉ other := by decide
  -- Both have the marks of the text, so they are one format, or one with a part of a second.
  have hmarks := (marks_of_readPattern? h).symm.trans (marks_of_readPattern? h')
  rcases eq_or_eq_append_of_marks_eq pattern hpattern other hother hmarks with heq | heq | heq
  · rw [heq, h'] at h
    exact (Option.some.inj h).symm
  · rw [heq, readPattern?_subsecond (honce pattern hpattern other hother heq) h'] at h
    exact (Option.some.inj h).symm
  · rw [heq, readPattern?_subsecond (honce other hother pattern hpattern heq) h] at h'
    exact Option.some.inj h'

/-- No text in a plain format is in the exchange format. -/
theorem readExchange?_of_readPattern? (hpattern : pattern ∈ plainPatterns)
    (h : readPattern? pattern s = some m) : readExchange? s = none := by
  have hplain : ∀ pattern ∈ plainPatterns, 'Z' ∉ pattern.flatMap PatternItem.marks ∧
      'z' ∉ pattern.flatMap PatternItem.marks ∧
        (pattern.flatMap PatternItem.marks).count ':' < 3 := by decide
  have hmarks := hplain pattern hpattern
  rw [← marks_of_readPattern? h, marks] at hmarks
  rw [Option.eq_none_iff_forall_ne_some]
  intro m' hexchange
  obtain ⟨offset, htext⟩ := readExchange?_eq_some_iff.1 hexchange
  rcases htext.letter_or_colons_mem with hletter | hletter | hcolons
  · exact hmarks.1 (List.mem_filter.2 ⟨hletter, rfl⟩)
  · exact hmarks.2.1 (List.mem_filter.2 ⟨hletter, rfl⟩)
  · have hcount : (s.filter isMark).count ':' = s.count ':' := List.count_filter rfl
    omega

/-- A text that a plain format reads is read as that moment. -/
theorem parseMomentChars?_of_readPattern? (hpattern : pattern ∈ plainPatterns)
    (h : readPattern? pattern (trim s) = some m) : parseMomentChars? s = some m := by
  simp only [parseMomentChars?, readExchange?_of_readPattern? hpattern h]
  -- An earlier format may read the text as well, but only as the same moment.
  cases hfind : plainPatterns.findSome? fun pattern => readPattern? pattern (trim s) with
  | none =>
    rw [List.findSome?_eq_none_iff.1 hfind pattern hpattern] at h
    cases h
  | some m' =>
    obtain ⟨other, hother, hread⟩ := List.exists_of_findSome?_eq_some hfind
    rw [eq_of_readPattern? hother hpattern hread h]

/-! ## Reading dates -/

namespace Moment

variable {before after : List Char}

/-- Every spelling in the exchange format is read as its moment, with any blanks around it. -/
theorem parse?_of_isExchange {offset : Int} (h : IsExchange (m.shift offset) offset text)
    (hbefore : ∀ c ∈ before, isBlank c = true) (hafter : ∀ c ∈ after, isBlank c = true) :
    parse? (String.ofList (before ++ (text ++ after))) = some m := by
  have htrim : trim (before ++ (text ++ after)) = text :=
    (dropBoth_append_of_forall hbefore hafter text).trans h.trim_eq
  simp only [parse?, String.toList_ofList, parseMomentChars?, htrim,
    readExchange?_eq_some_iff.2 ⟨offset, h⟩]

/-- Every spelling in a plain format is read as its moment, with any blanks around it. -/
theorem parse?_of_spells (hpattern : pattern ∈ plainPatterns) (h : pattern.Spells parts text)
    (hm : (parts.given pattern).moment? = some m) (hbefore : ∀ c ∈ before, isBlank c = true)
    (hafter : ∀ c ∈ after, isBlank c = true) :
    parse? (String.ofList (before ++ (text ++ after))) = some m := by
  have htrim : trim (before ++ (text ++ after)) = text :=
    (dropBoth_append_of_forall hbefore hafter text).trans (h.trim_eq hpattern)
  rw [parse?, String.toList_ofList]
  apply parseMomentChars?_of_readPattern? hpattern
  rw [htrim, readPattern?_of_spells hpattern h, hm]

/-- Whatever is read is a moment that a clock can show. -/
theorem isClockTime_of_parse? {s : String} (h : parse? s = some m) : m.time.IsClockTime := by
  simp only [parse?, parseMomentChars?] at h
  split at h
  · next m' hexchange =>
    cases h
    obtain ⟨offset, htext⟩ := readExchange?_eq_some_iff.1 hexchange
    exact htext.isClockTime
  · obtain ⟨pattern, -, hread⟩ := List.exists_of_findSome?_eq_some h
    obtain ⟨⟨got, rest⟩, -, hmoment⟩ := Option.bind_eq_some_iff.1 hread
    simp only [Option.ite_none_right_eq_some] at hmoment
    obtain ⟨-, -, htime⟩ := DateParts.moment?_eq_some_iff.1 hmoment.2
    exact (TimeOfDay.ofParts?_eq_some_iff.1 htime).1

end Moment

end StaticBlog

/-! ## Dates that are written -/

namespace StaticBlog

open Text

namespace Moment

variable {c : Char}

/-- A day, the year first. -/
def dayChars (m : Moment) : List Char :=
  yearChars m.date.year ++ '-' :: fixed 2 m.date.month ++ '-' :: fixed 2 m.date.day

/-- A time of day to the second. -/
def clockChars (m : Moment) : List Char :=
  fixed 2 m.time.hour ++ ':' :: fixed 2 m.time.minute ++ ':' :: fixed 2 m.time.second

theorem format_toSecond (m : Moment) :
    m.format "YYYY-MM-DD HH:mm:ss" = String.ofList (m.dayChars ++ ' ' :: m.clockChars) := by
  have hpieces : cutFields "YYYY-MM-DD HH:mm:ss".toList =
      [.field .year, .literal '-', .field .monthPadded, .literal '-', .field .dayPadded,
        .literal ' ', .field .hour, .literal ':', .field .minute, .literal ':', .field .second] := by
    decide
  rw [format, formatAt_eq, shift_zero, hpieces]
  congr 1
  simp [FormatPiece.render, Field.render, dayChars, clockChars]

theorem mem_dayChars {m : Moment} (h : c ∈ m.dayChars) : c.isDigit = true ∨ c = '-' ∨ c = '+' := by
  have hyear : ∀ y, c ∈ yearChars y → c.isDigit = true ∨ c = '-' ∨ c = '+' := by
    intro y hc
    unfold yearChars at hc
    split at hc
    · exact Or.inl (isDigit_of_mem_fixed hc)
    · rcases List.mem_cons.1 hc with rfl | hc
      · split
        · exact Or.inr (Or.inl rfl)
        · exact Or.inr (Or.inr rfl)
      · exact Or.inl (isDigit_of_mem_atLeast hc)
  simp only [dayChars, List.append_assoc, List.cons_append, List.mem_append, List.mem_cons] at h
  rcases h with h | h | h | h | h
  · exact hyear _ h
  · exact Or.inr (Or.inl h)
  · exact Or.inl (isDigit_of_mem_fixed h)
  · exact Or.inr (Or.inl h)
  · exact Or.inl (isDigit_of_mem_fixed h)

theorem mem_clockChars {m : Moment} (h : c ∈ m.clockChars) : c.isDigit = true ∨ c = ':' := by
  simp only [clockChars, List.append_assoc, List.cons_append, List.mem_append, List.mem_cons] at h
  rcases h with h | h | h | h | h
  · exact Or.inl (isDigit_of_mem_fixed h)
  · exact Or.inr h
  · exact Or.inl (isDigit_of_mem_fixed h)
  · exact Or.inr h
  · exact Or.inl (isDigit_of_mem_fixed h)

theorem dayChars_ne_nil (m : Moment) : m.dayChars ≠ [] := by simp [dayChars]

theorem clockChars_ne_nil (m : Moment) : m.clockChars ≠ [] := by simp [clockChars]

/-- The parts of a moment to the second. -/
def parts (m : Moment) : DateParts :=
  { year := m.date.year, month := m.date.month, day := m.date.day, hour := m.time.hour,
    minute := m.time.minute, second := m.time.second }

theorem write_parts (m : Moment) :
    Pattern.write m.parts (datePattern '-' ++ .blanks :: fullTimePattern) =
      m.dayChars ++ ' ' :: m.clockChars := by
  simp [Pattern.write, PatternItem.write, datePattern, fullTimePattern, timePattern, Moment.parts,
    dayChars, clockChars]

/-- A moment that is written to the second, in the order of year, month and day, is read as a date. -/
theorem isSome_parse?_format (m : Moment) (hyear : isYear m.date.year = true) :
    (parse? (m.format "YYYY-MM-DD HH:mm:ss")).isSome = true := by
  obtain ⟨time, htime⟩ := Option.isSome_iff_exists.1 (TimeOfDay.isSome_ofParts?_iff.2
    ⟨m.time.hour_lt, m.time.minute_lt, m.time.second_le, show 0 < 1000000000 by decide⟩)
  have hmoment : m.parts.moment? = some ⟨m.date, time⟩ :=
    DateParts.moment?_eq_some_iff.2 ⟨hyear, m.date.ofParts?_self, htime⟩
  have hspells := Pattern.spells_write hmoment (datePattern '-' ++ .blanks :: fullTimePattern)
  rw [write_parts] at hspells
  have hread : parse? (String.ofList ([] ++ (m.dayChars ++ ' ' :: m.clockChars ++ []))) =
      some ⟨m.date, time⟩ :=
    parse?_of_spells List.mem_cons_self hspells hmoment (by simp) (by simp)
  rw [List.nil_append, List.append_nil, ← format_toSecond] at hread
  rw [hread]
  rfl

end Moment

end StaticBlog
