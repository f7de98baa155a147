import StaticBlog.Post.Value
import StaticBlog.Proofs.Date.Meaning
import StaticBlog.Template.Render

/-!
# Dates in templates

A post hands its date to a template as text. The text is read as the date again, to the last part of
a second, so a template prints the date itself, in the format of the site.

- `Moment.IsTimestamp` : the spellings of a moment with a zone
- `Node.render_print_of_parse?` : how text that reads as a date is printed
- `dates_survive_templates` : timestamps are printed as their moments, and plain dates are read as
  what they spell
-/

namespace StaticBlog

open Text

/-- A spelling of a moment in the exchange format, in any zone. -/
def Moment.IsTimestamp (m : Moment) (text : List Char) : Prop :=
  ∃ offset, IsExchange (m.shift offset) offset text

namespace Moment

variable {m : Moment} {text : List Char}

/-- In universal time a moment is written as a timestamp, with a letter or with digits for the
zone. -/
theorem isTimestamp_exchange {zone : List Char} (hclock : m.time.IsClockTime)
    (hlow : 0 ≤ m.date.year) (hhigh : m.date.year ≤ 9999) (hzone : IsZone 0 zone) :
    m.IsTimestamp (m.exchange zone) := by
  refine ⟨0, ?_⟩
  rw [shift_zero]
  exact isExchange_exchange hclock hlow hhigh hzone

theorem IsTimestamp.parse? (h : m.IsTimestamp text) : parse? (String.ofList text) = some m := by
  obtain ⟨offset, hoffset⟩ := h
  have hread : Moment.parse? (String.ofList ([] ++ (text ++ []))) = some m :=
    parse?_of_isExchange hoffset (by simp) (by simp)
  rwa [List.nil_append, List.append_nil] at hread

end Moment

theorem isZone_letter : IsZone 0 ['Z'] := .universal (Or.inl rfl)

theorem isZone_digits : IsZone 0 "+00:00".toList := by
  have hzero : IsNumeral 2 2 0 ['0', '0'] := by decide
  have hoffset : IsOffset (0 * 3600 + 0 * 60) (['0', '0'] ++ ':' :: ['0', '0']) :=
    .intro (by decide) (by decide) hzero hzero
  exact .ahead hoffset

/-- Below the name `date`, text that reads as a date is printed in the format of the site. -/
theorem Node.render_print_of_parse? {s : String} {m : Moment} {path : List String} {scope : Scope}
    (hread : Moment.parse? s = some m) (hpath : dateName ∈ path)
    (hvalue : scope.resolve path = some (.string s)) (dateFormat : String) (source : List Char) :
    Node.render dateFormat scope (.print path source) = (m.format dateFormat).toList := by
  simp only [Node.render, hvalue, printed, if_pos hpath, hread]

/-- Timestamps are read as their moments, so that templates print those in the format of the site.
Plain dates are read as the parts that they spell, the others being zero, whatever blanks stand
around them. The moments that are read, and those of a system clock, have leap seconds only where a
clock has them. -/
theorem dates_survive_templates :
    (∀ m : Moment, m.time.IsClockTime → 0 ≤ m.date.year → m.date.year ≤ 9999 →
      Value.ofJson (Post.dateJson m) = .string (String.ofList (m.exchange ['Z'])) ∧
        m.IsTimestamp (m.exchange ['Z']) ∧ m.IsTimestamp (m.exchange "+00:00".toList)) ∧
    (∀ (m : Moment) (text : List Char), m.IsTimestamp text →
      Moment.parse? (String.ofList text) = some m ∧
        ∀ (dateFormat : String) (scope : Scope) (path : List String) (source : List Char),
          dateName ∈ path → scope.resolve path = some (.string (String.ofList text)) →
            Node.render dateFormat scope (.print path source) = (m.format dateFormat).toList) ∧
    (∀ (parts : DateParts) (m : Moment), parts.moment? = some m → ∀ pattern ∈ plainPatterns,
      pattern.Spells parts (pattern.write parts) ∧
        ∃ m', (parts.given pattern).moment? = some m' ∧ m'.date = m.date ∧
          ∀ text before after, pattern.Spells parts text → (∀ c ∈ before, isBlank c = true) →
            (∀ c ∈ after, isBlank c = true) →
              Moment.parse? (String.ofList (before ++ (text ++ after))) = some m') ∧
    (∀ s m, Moment.parse? s = some m → m.time.IsClockTime) ∧
    ∀ secs nanos, nanos < 1000000000 → (Moment.ofUnix secs nanos).time.IsClockTime := by
  refine ⟨fun m hclock hlow hhigh => ?_, fun m text htext => ?_,
    fun parts m hparts pattern hpattern => ?_,
    fun s m => Moment.isClockTime_of_parse?, fun secs nanos => TimeOfDay.isClockTime_ofUnix⟩
  · exact ⟨rfl, Moment.isTimestamp_exchange hclock hlow hhigh isZone_letter,
      Moment.isTimestamp_exchange hclock hlow hhigh isZone_digits⟩
  · exact ⟨htext.parse?, fun dateFormat scope path source hpath hvalue =>
      Node.render_print_of_parse? htext.parse? hpath hvalue dateFormat source⟩
  · obtain ⟨m', hm', hdate⟩ := DateParts.exists_moment?_given hpattern hparts
    exact ⟨Pattern.spells_write hparts pattern, m', hm', hdate,
      fun text before after htext hbefore hafter =>
        Moment.parse?_of_spells hpattern htext hm' hbefore hafter⟩

/-- Half a second into a leap second, and a day and a time that are not padded, with blanks around
them. -/
theorem leap_second_in_template :
    let m : Moment := ⟨⟨2016, 12, 31, by decide, by decide, by decide, by decide⟩,
      ⟨86399, 1500000000, by decide, by decide⟩⟩
    let post : Value := .object [("date", Value.ofJson (Post.dateJson m))]
    m.exchange ['Z'] = "2016-12-31T23:59:60.500Z".toList ∧
      Moment.parse? "2016-12-31T23:59:60.500Z" = some m ∧
      Node.render "DD.MM.YYYY HH:mm:ss" (.page ⟨[("post", post)]⟩) (.print ["post", "date"] []) =
        "31.12.2016 23:59:60".toList ∧
      Moment.parse? " 2016/2/9  7:05\n" = some (Moment.ofUnix 1455001500 0) := by
  intro m post
  obtain ⟨hwritten, hread, hplain, -, -⟩ := dates_survive_templates
  obtain ⟨-, hstamp, -⟩ := hwritten m (by decide) (by decide) (by decide)
  obtain ⟨hparse, hprint⟩ := hread m (m.exchange ['Z']) hstamp
  have htext : m.exchange ['Z'] = "2016-12-31T23:59:60.500Z".toList := by decide
  refine ⟨htext, ?_, ?_, ?_⟩
  · rw [htext] at hparse
    exact hparse
  · have hvalue : Scope.resolve (.page ⟨[("post", post)]⟩) ["post", "date"] =
        some (.string (String.ofList (m.exchange ['Z']))) := rfl
    rw [hprint "DD.MM.YYYY HH:mm:ss" _ ["post", "date"] [] (by decide) hvalue]
    decide
  · let parts : DateParts :=
      { year := 2016, month := 2, day := 9, hour := 7, minute := 5, second := 41 }
    let pattern : Pattern := datePattern '/' ++ .blanks :: timePattern
    obtain ⟨-, m', hm', -, hread⟩ := hplain parts (Moment.ofUnix 1455001541 0) (by decide) pattern
      (by decide)
    let text : List Char := "2016".toList ++ (['/'] ++ (['2'] ++ (['/'] ++ (['9'] ++ ([' ', ' '] ++
      (['7'] ++ ([':'] ++ ("05".toList ++ []))))))))
    have htext : pattern.Spells parts text :=
      .cons (.bare (show IsNumeral 1 4 2016 "2016".toList by decide)) <| .cons rfl <|
      .cons (show IsNumeral 1 2 2 ['2'] by decide) <| .cons rfl <|
      .cons (show IsNumeral 1 2 9 ['9'] by decide) <| .cons ⟨by simp, by simp [isBlank]⟩ <|
      .cons (show IsNumeral 1 2 7 ['7'] by decide) <| .cons rfl <|
      .cons (show IsNumeral 1 2 5 "05".toList by decide) .nil
    have hgiven : (parts.given pattern).moment? = some (Moment.ofUnix 1455001500 0) := by decide
    rw [hgiven] at hm'
    obtain rfl := Option.some.inj hm'
    have hblanks : " 2016/2/9  7:05\n" = String.ofList ([' '] ++ (text ++ ['\n'])) := by decide
    rw [hblanks]
    exact hread text [' '] ['\n'] htext (by simp [isBlank]) (by simp [isBlank])

end StaticBlog
