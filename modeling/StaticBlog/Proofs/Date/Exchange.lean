import StaticBlog.Date.Format
import StaticBlog.Proofs.Date.Clock
import StaticBlog.Proofs.Text.Digits
import StaticBlog.Proofs.Text.Pieces

/-!
# The exchange format

- `IsSubsecond`, `IsZone`, `IsExchange` : the spellings in the exchange format
- `readExchange?_eq_some_iff` : they are read, and nothing else is
- `Moment.isExchange_exchange` : what is written is such a spelling
-/

namespace StaticBlog

open Text

variable {c : Char} {s ds rest : List Char} {nanos : Nat} {offset : Int}

theorem readChar?_eq_some_iff : readChar? c s = some rest ↔ s = c :: rest := by
  cases s with
  | nil => simp [readChar?]
  | cons d s => simp [readChar?]

/-! ## Parts of a second -/

/-- Digits behind a point, for so many billionths. Those after the ninth do not count. -/
structure IsFraction (nanos : Nat) (ds : List Char) : Prop where
  isDigit : ∀ c ∈ ds, c.isDigit = true
  ne_nil : ds ≠ []
  value : valueOf (ds.take 9) * Nat.pow 10 (9 - ds.length) = nanos

/-- A part of a second. Nothing stands for zero. -/
inductive IsSubsecond : Nat → List Char → Prop
  | nothing : IsSubsecond 0 []
  | fraction {nanos : Nat} {ds : List Char} (h : IsFraction nanos ds) :
      IsSubsecond nanos ('.' :: ds)

theorem readSubsecond?_append (hds : ∀ c ∈ ds, c.isDigit = true)
    (hrest : rest.head?.any Char.isDigit = false) :
    readSubsecond? (ds ++ rest) =
      if ds = [] then none
      else some (valueOf (ds.take 9) * Nat.pow 10 (9 - ds.length), rest) := by
  have hstop : rest.takeWhile Char.isDigit = [] ∧ rest.dropWhile Char.isDigit = rest := by
    cases rest with
    | nil => exact ⟨rfl, rfl⟩
    | cons c rest =>
      have hc : c.isDigit = false := hrest
      simp [hc]
  have hfront : ((ds ++ rest).take 9).takeWhile Char.isDigit = ds.take 9 := by
    rw [← List.take_takeWhile, List.takeWhile_append_of_pos hds, hstop.1, List.append_nil]
  -- Digits behind the ninth are passed, but do not count.
  have hback : ((ds ++ rest).drop (ds.take 9).length).dropWhile Char.isDigit = rest := by
    rw [List.drop_append_of_le_length (List.length_take_le' 9 ds),
      List.dropWhile_append_of_pos fun c hc => hds c (List.mem_of_mem_drop hc), hstop.2]
  have hlength : 9 - (ds.take 9).length = 9 - ds.length := by
    rw [List.length_take]
    omega
  simp only [readSubsecond?, hfront, hback, hlength]
  cases ds with
  | nil => rfl
  | cons c ds => rfl

theorem IsFraction.readSubsecond? (h : IsFraction nanos ds)
    (hrest : rest.head?.any Char.isDigit = false) :
    readSubsecond? (ds ++ rest) = some (nanos, rest) := by
  rw [readSubsecond?_append h.isDigit hrest, if_neg h.ne_nil, h.value]

theorem exists_isFraction_of_readSubsecond? (h : readSubsecond? s = some (nanos, rest)) :
    ∃ ds, IsFraction nanos ds ∧ s = ds ++ rest := by
  have hcut : s.takeWhile Char.isDigit ++ s.dropWhile Char.isDigit = s :=
    List.takeWhile_append_dropWhile
  have hds : ∀ c ∈ s.takeWhile Char.isDigit, c.isDigit = true := fun c => List.mem_takeWhile_imp
  have hstop : (s.dropWhile Char.isDigit).head?.any Char.isDigit = false := by
    have hhead := List.head?_dropWhile_not Char.isDigit s
    cases hrest : (s.dropWhile Char.isDigit).head? with
    | none => rfl
    | some c =>
      rw [hrest] at hhead
      exact hhead
  rw [← hcut, readSubsecond?_append hds hstop] at h
  split at h
  · cases h
  · next hne =>
    cases h
    exact ⟨s.takeWhile Char.isDigit, ⟨hds, hne, rfl⟩, hcut.symm⟩

theorem IsSubsecond.readFraction? {text : List Char} (h : IsSubsecond nanos text)
    (hdigit : rest.head?.any Char.isDigit = false) (hpoint : rest.head? ≠ some '.') :
    readFraction? (text ++ rest) = some (nanos, rest) := by
  cases h with
  | nothing =>
    cases rest with
    | nil => rfl
    | cons c rest =>
      have hc : c ≠ '.' := fun hc => hpoint (congrArg some hc)
      simp [StaticBlog.readFraction?, hc]
  | fraction h => exact h.readSubsecond? hdigit

theorem exists_isSubsecond_of_readFraction? (h : readFraction? s = some (nanos, rest)) :
    ∃ text, IsSubsecond nanos text ∧ s = text ++ rest := by
  unfold readFraction? at h
  split at h
  · next s =>
    obtain ⟨ds, hds, rfl⟩ := exists_isFraction_of_readSubsecond? h
    exact ⟨'.' :: ds, .fraction hds, rfl⟩
  · cases h
    exact ⟨[], .nothing, rfl⟩

theorem IsSubsecond.head?_any_isDigit {text : List Char} (h : IsSubsecond nanos text) :
    text.head?.any Char.isDigit = false := by
  cases h <;> rfl

theorem IsSubsecond.isBlank_of_mem {text : List Char} (h : IsSubsecond nanos text) (hc : c ∈ text) :
    isBlank c = false := by
  cases h with
  | nothing => cases hc
  | fraction h =>
    rcases List.mem_cons.1 hc with rfl | hc
    · rfl
    · exact isBlank_of_isDigit (h.isDigit c hc)

/-- A part of a second that is exact with `w` digits is spelled by them. -/
theorem isFraction_fixed {w k : Nat} (hw : w ≠ 0) (hk : w + k = 9) (hlt : nanos < 1000000000)
    (hexact : nanos % Nat.pow 10 k = 0) : IsFraction nanos (fixed w (nanos / Nat.pow 10 k)) where
  isDigit _ hc := isDigit_of_mem_fixed hc
  ne_nil := fixed_ne_nil hw
  value := by
    have hpow : Nat.pow 10 k * Nat.pow 10 w = 1000000000 := by
      calc Nat.pow 10 k * Nat.pow 10 w = Nat.pow 10 (k + w) := (Nat.pow_add 10 k w).symm
        _ = 1000000000 := by rw [Nat.add_comm, hk]
    have hsmall : nanos / Nat.pow 10 k < Nat.pow 10 w := Nat.div_lt_of_lt_mul (hpow ▸ hlt)
    have hle : (fixed w (nanos / Nat.pow 10 k)).length ≤ 9 := by
      rw [length_fixed]
      omega
    have hrest : 9 - w = k := by omega
    rw [List.take_of_length_le hle, length_fixed, valueOf_fixed, Nat.mod_eq_of_lt hsmall, hrest]
    exact Nat.div_mul_cancel (Nat.dvd_of_mod_eq_zero hexact)

theorem isSubsecond_subsecondChars (hlt : nanos < 1000000000) :
    IsSubsecond nanos (subsecondChars nanos) := by
  unfold subsecondChars
  split
  · next hzero =>
    rw [hzero]
    exact .nothing
  split
  · next hexact => exact .fraction (isFraction_fixed (w := 3) (k := 6) (by decide) rfl hlt hexact)
  split
  · next hexact => exact .fraction (isFraction_fixed (w := 6) (k := 3) (by decide) rfl hlt hexact)
  · have hvalue := isFraction_fixed (w := 9) (k := 0) (by decide) rfl hlt (Nat.mod_one nanos)
    rw [show nanos / Nat.pow 10 0 = nanos from Nat.div_one nanos] at hvalue
    exact .fraction hvalue

/-! ## Zones -/

/-- Hours and minutes, less than a day. -/
inductive IsOffset : Nat → List Char → Prop
  | intro {hours minutes : Nat} {hs ms : List Char} (hhours : hours < 24) (hminutes : minutes < 60)
      (hhs : IsNumeral 2 2 hours hs) (hms : IsNumeral 2 2 minutes ms) :
      IsOffset (hours * 3600 + minutes * 60) (hs ++ ':' :: ms)

/-- A zone whose clocks are `offset` seconds ahead. A minus sign counts as a hyphen. -/
inductive IsZone : Int → List Char → Prop
  | universal {c : Char} (hc : c = 'Z' ∨ c = 'z') : IsZone 0 [c]
  | ahead {n : Nat} {text : List Char} (h : IsOffset n text) : IsZone n ('+' :: text)
  | behind {n : Nat} {text : List Char} {c : Char} (hc : c = '-' ∨ c = '\u2212')
      (h : IsOffset n text) : IsZone (-n) (c :: text)

theorem IsOffset.dvd {n : Nat} {text : List Char} (h : IsOffset n text) : 60 ∣ n := by
  cases h with
  | intro => omega

theorem IsZone.dvd {zone : List Char} (h : IsZone offset zone) : 60 ∣ offset := by
  cases h with
  | universal => exact Int.dvd_zero 60
  | ahead h => exact Int.natCast_dvd_natCast.2 h.dvd
  | behind _ h => exact (Int.dvd_neg).2 (Int.natCast_dvd_natCast.2 h.dvd)

theorem readOffset?_eq_some_iff {n : Nat} :
    readOffset? s = some (n, rest) ↔ ∃ text, IsOffset n text ∧ s = text ++ rest := by
  simp only [readOffset?, Option.bind_eq_bind, Option.bind_eq_some_iff]
  constructor
  · rintro ⟨⟨hours, s₁⟩, hhours, s₂, hcolon, ⟨minutes, s₃⟩, hminutes, h⟩
    obtain ⟨hs, hhs, rfl⟩ := leading_fixed_iff.1 hhours
    obtain rfl := readChar?_eq_some_iff.1 hcolon
    obtain ⟨ms, hms, rfl⟩ := leading_fixed_iff.1 hminutes
    simp only [Option.ite_none_right_eq_some, Bool.and_eq_true, decide_eq_true_eq,
      Option.some.injEq, Prod.mk.injEq] at h
    obtain ⟨⟨hhour, hminute⟩, rfl, rfl⟩ := h
    exact ⟨hs ++ ':' :: ms, .intro hhour hminute hhs hms, by simp⟩
  · rintro ⟨_, ⟨hhours, hminutes, hhs, hms⟩, rfl⟩
    rename_i hours minutes hs ms
    refine ⟨(hours, ':' :: (ms ++ rest)), leading_fixed_iff.2 ⟨hs, hhs, by simp⟩, ms ++ rest,
      readChar?_eq_some_iff.2 rfl, (minutes, rest), leading_fixed_iff.2 ⟨ms, hms, rfl⟩, ?_⟩
    simp [hhours, hminutes]

/-- Behind a sign, hours and minutes are read, which the sign makes an offset. -/
theorem exists_isOffset_of_map (f : Nat → Int)
    (h : (readOffset? s).map (fun r => (f r.1, r.2)) = some (offset, rest)) :
    ∃ n text, IsOffset n text ∧ f n = offset ∧ s = text ++ rest := by
  obtain ⟨⟨n, left⟩, hread, hresult⟩ := Option.map_eq_some_iff.1 h
  obtain ⟨text, htext, rfl⟩ := readOffset?_eq_some_iff.1 hread
  cases hresult
  exact ⟨n, text, htext, rfl, rfl⟩

theorem readZone?_eq_some_iff :
    readZone? s = some (offset, rest) ↔ ∃ zone, IsZone offset zone ∧ s = zone ++ rest := by
  constructor
  · intro h
    cases s with
    | nil => cases h
    | cons c s =>
      simp only [readZone?, Bool.or_eq_true, decide_eq_true_eq] at h
      split at h
      · next hc =>
        cases h
        exact ⟨[c], .universal hc, rfl⟩
      split at h
      · next hc =>
        obtain ⟨n, text, htext, rfl, rfl⟩ := exists_isOffset_of_map (fun n => n) h
        exact ⟨'+' :: text, .ahead htext, congrArg (· :: (text ++ rest)) hc⟩
      split at h
      · next hc =>
        obtain ⟨n, text, htext, rfl, rfl⟩ := exists_isOffset_of_map (fun n => -n) h
        exact ⟨c :: text, .behind hc htext, rfl⟩
      · cases h
  · rintro ⟨zone, hzone, rfl⟩
    have hread : ∀ {n text}, IsOffset n text → readOffset? (text ++ rest) = some (n, rest) :=
      fun h => readOffset?_eq_some_iff.2 ⟨_, h, rfl⟩
    cases hzone with
    | universal hc => simp [readZone?, hc]
    | ahead h => simp [readZone?, hread h]
    | behind hc h =>
      -- Two characters stand for a minus.
      rcases hc with rfl | rfl
      · simp [readZone?, hread h]
      · simp [readZone?, hread h]

/-- A zone is told by a letter or by hours and minutes, which a colon parts. -/
theorem IsZone.letter_or_colon_mem {zone : List Char} (h : IsZone offset zone) :
    'Z' ∈ zone ∨ 'z' ∈ zone ∨ ':' ∈ zone := by
  cases h with
  | universal hc => rcases hc with rfl | rfl <;> simp
  | ahead h =>
    cases h with
    | intro => simp
  | behind _ h =>
    cases h with
    | intro => simp

theorem IsOffset.isBlank_of_mem {n : Nat} {text : List Char} (h : IsOffset n text)
    (hc : c ∈ text) : isBlank c = false := by
  cases h with
  | intro _ _ hhs hms =>
    simp only [List.mem_append, List.mem_cons] at hc
    rcases hc with hc | rfl | hc
    · exact isBlank_of_isDigit (hhs.isDigit c hc)
    · rfl
    · exact isBlank_of_isDigit (hms.isDigit c hc)

theorem IsZone.isBlank_of_mem {zone : List Char} (h : IsZone offset zone) (hc : c ∈ zone) :
    isBlank c = false := by
  cases h with
  | universal hletter =>
    rw [List.mem_singleton.1 hc]
    rcases hletter with rfl | rfl <;> rfl
  | ahead h =>
    rcases List.mem_cons.1 hc with rfl | hc
    · rfl
    · exact h.isBlank_of_mem hc
  | behind hsign h =>
    rcases List.mem_cons.1 hc with rfl | hc
    · rcases hsign with rfl | rfl <;> rfl
    · exact h.isBlank_of_mem hc

theorem IsZone.ne_nil {zone : List Char} (h : IsZone offset zone) : zone ≠ [] := by
  cases h <;> simp

/-- A zone can stand behind a part of a second. -/
theorem IsZone.head? {zone : List Char} (h : IsZone offset zone) :
    zone.head?.any Char.isDigit = false ∧ zone.head? ≠ some '.' := by
  cases h with
  | universal hc => rcases hc with rfl | rfl <;> decide
  | ahead h => simp
  | behind hc h => rcases hc with rfl | rfl <;> simp

/-! ## Days and times -/

/-- A day, the year with four digits. -/
inductive IsDayText (d : Date) : List Char → Prop
  | intro {n : Nat} {year month day : List Char} (hn : d.year = n) (hyear : IsNumeral 4 4 n year)
      (hmonth : IsNumeral 2 2 d.month month) (hday : IsNumeral 2 2 d.day day) :
      IsDayText d (year ++ '-' :: (month ++ '-' :: day))

/-- A time of day as a clock shows it. -/
inductive IsClockText (t : TimeOfDay) : List Char → Prop
  | intro {hour minute second subsecond : List Char} (hclock : t.IsClockTime)
      (hhour : IsNumeral 2 2 t.hour hour) (hminute : IsNumeral 2 2 t.minute minute)
      (hsecond : IsNumeral 2 2 t.second second) (hsubsecond : IsSubsecond t.subsecond subsecond) :
      IsClockText t (hour ++ ':' :: (minute ++ ':' :: (second ++ subsecond)))

theorem readDay?_eq_some_iff {d : Date} :
    readDay? s = some (d, rest) ↔ ∃ text, IsDayText d text ∧ s = text ++ rest := by
  simp only [readDay?, Option.bind_eq_bind, Option.bind_eq_some_iff]
  constructor
  · rintro ⟨⟨n, s₁⟩, ryear, s₂, rdash, ⟨_, s₃⟩, rmonth, s₄, rdash', ⟨_, s₅⟩, rday, date, hdate, h⟩
    -- What each step has read stands in front of what it has left.
    obtain ⟨year, hyear, rfl⟩ := leading_fixed_iff.1 ryear
    obtain rfl := readChar?_eq_some_iff.1 rdash
    obtain ⟨month, hmonth, rfl⟩ := leading_fixed_iff.1 rmonth
    obtain rfl := readChar?_eq_some_iff.1 rdash'
    obtain ⟨day, hday, rfl⟩ := leading_fixed_iff.1 rday
    obtain ⟨hn, rfl, rfl⟩ := Date.ofParts?_eq_some_iff.1 hdate
    cases h
    exact ⟨_, .intro hn hyear hmonth hday, by simp⟩
  · rintro ⟨text, h, rfl⟩
    cases h with
    | intro hn hyear hmonth hday =>
      exact ⟨(_, _), leading_fixed_iff.2 ⟨_, hyear, List.append_assoc _ _ _⟩,
        _, readChar?_eq_some_iff.2 rfl,
        (_, _), leading_fixed_iff.2 ⟨_, hmonth, List.append_assoc _ _ _⟩,
        _, readChar?_eq_some_iff.2 rfl,
        (_, _), leading_fixed_iff.2 ⟨_, hday, rfl⟩,
        d, Date.ofParts?_eq_some_iff.2 ⟨hn, rfl, rfl⟩, rfl⟩

theorem exists_isClockText_of_readClock? {t : TimeOfDay} (h : readClock? s = some (t, rest)) :
    ∃ text, IsClockText t text ∧ s = text ++ rest := by
  simp only [readClock?, Option.bind_eq_bind, Option.bind_eq_some_iff] at h
  obtain ⟨⟨_, s₁⟩, rhour, s₂, rcolon, ⟨_, s₃⟩, rminute, s₄, rcolon', ⟨_, s₅⟩, rsecond, ⟨_, s₆⟩,
    rsubsecond, time, htime, h⟩ := h
  obtain ⟨hour, hhour, rfl⟩ := leading_fixed_iff.1 rhour
  obtain rfl := readChar?_eq_some_iff.1 rcolon
  obtain ⟨minute, hminute, rfl⟩ := leading_fixed_iff.1 rminute
  obtain rfl := readChar?_eq_some_iff.1 rcolon'
  obtain ⟨second, hsecond, rfl⟩ := leading_fixed_iff.1 rsecond
  obtain ⟨subsecond, hsubsecond, rfl⟩ := exists_isSubsecond_of_readFraction? rsubsecond
  obtain ⟨hclock, rfl, rfl, rfl, rfl⟩ := TimeOfDay.ofParts?_eq_some_iff.1 htime
  cases h
  exact ⟨_, .intro hclock hhour hminute hsecond hsubsecond, by simp⟩

theorem IsClockText.readClock? {t : TimeOfDay} {text : List Char} (h : IsClockText t text)
    (hdigit : rest.head?.any Char.isDigit = false) (hpoint : rest.head? ≠ some '.') :
    readClock? (text ++ rest) = some (t, rest) := by
  simp only [StaticBlog.readClock?, Option.bind_eq_bind, Option.bind_eq_some_iff]
  cases h with
  | intro hclock hhour hminute hsecond hsubsecond =>
    exact ⟨(_, _), leading_fixed_iff.2 ⟨_, hhour, List.append_assoc _ _ _⟩,
      _, readChar?_eq_some_iff.2 rfl,
      (_, _), leading_fixed_iff.2 ⟨_, hminute, List.append_assoc _ _ _⟩,
      _, readChar?_eq_some_iff.2 rfl,
      (_, _), leading_fixed_iff.2 ⟨_, hsecond, List.append_assoc _ _ _⟩,
      (_, _), hsubsecond.readFraction? hdigit hpoint,
      t, TimeOfDay.ofParts?_eq_some_iff.2 ⟨hclock, rfl, rfl, rfl, rfl⟩, rfl⟩

theorem IsClockText.two_le_count {t : TimeOfDay} {text : List Char} (h : IsClockText t text) :
    2 ≤ text.count ':' := by
  cases h with
  | intro =>
    simp only [List.count_append, List.count_cons, beq_self_eq_true, if_true]
    omega

/-! ## Moments -/

theorem readSeparator?_eq_some_iff :
    readSeparator? s = some rest ↔ ∃ c, (c = 'T' ∨ c = 't' ∨ c = ' ') ∧ s = c :: rest := by
  cases s with
  | nil => simp [readSeparator?]
  | cons c s =>
    simp only [readSeparator?, Option.ite_none_right_eq_some, Bool.or_eq_true, decide_eq_true_eq,
      or_assoc, Option.some.injEq, List.cons.injEq]
    constructor
    · rintro ⟨hc, rfl⟩
      exact ⟨c, hc, rfl, rfl⟩
    · rintro ⟨_, hc, rfl, rfl⟩
      exact ⟨hc, rfl⟩

/-- A spelling in the exchange format of a moment, by the clock `m` of a zone that is `offset`
seconds ahead. -/
inductive IsExchange (m : Moment) (offset : Int) : List Char → Prop
  | intro {day clock zone : List Char} {sep : Char} (hday : IsDayText m.date day)
      (hsep : sep = 'T' ∨ sep = 't' ∨ sep = ' ') (hclock : IsClockText m.time clock)
      (hzone : IsZone offset zone) : IsExchange m offset (day ++ sep :: (clock ++ zone))

/-- The exchange format is read in all its spellings, and nothing else is. -/
theorem readExchange?_eq_some_iff {m : Moment} :
    readExchange? s = some m ↔ ∃ offset, IsExchange (m.shift offset) offset s := by
  simp only [readExchange?, Option.bind_eq_bind, Option.bind_eq_some_iff]
  constructor
  · rintro ⟨⟨date, s₁⟩, rday, s₂, rsep, ⟨time, s₃⟩, rclock, ⟨offset, s₄⟩, rzone, h⟩
    obtain ⟨day, hday, rfl⟩ := readDay?_eq_some_iff.1 rday
    obtain ⟨sep, hsep, rfl⟩ := readSeparator?_eq_some_iff.1 rsep
    obtain ⟨clock, hclock, rfl⟩ := exists_isClockText_of_readClock? rclock
    obtain ⟨zone, hzone, rfl⟩ := readZone?_eq_some_iff.1 rzone
    simp only [Option.ite_none_right_eq_some, List.isEmpty_iff, Option.some.injEq] at h
    obtain ⟨rfl, rfl⟩ := h
    -- What is written is the time of the zone, which is the moment shifted by the offset.
    have hshift : (Moment.shift ⟨date, time⟩ (-offset)).shift offset = ⟨date, time⟩ := by
      have hback := Moment.shift_shift_neg ⟨date, time⟩ (-offset)
      rwa [Int.neg_neg] at hback
    refine ⟨offset, ?_⟩
    rw [hshift, List.append_nil]
    exact .intro hday hsep hclock hzone
  · rintro ⟨offset, h⟩
    cases h with
    | intro hday hsep hclock hzone =>
      refine ⟨(_, _), readDay?_eq_some_iff.2 ⟨_, hday, rfl⟩,
        _, readSeparator?_eq_some_iff.2 ⟨_, hsep, rfl⟩,
        (_, _), hclock.readClock? hzone.head?.1 hzone.head?.2,
        (_, _), readZone?_eq_some_iff.2 ⟨_, hzone, (List.append_nil _).symm⟩, ?_⟩
      exact congrArg some (Moment.shift_shift_neg m offset)

namespace IsExchange

variable {m : Moment} {text : List Char}

theorem isClockTime (h : IsExchange (m.shift offset) offset text) : m.time.IsClockTime := by
  cases h with
  | intro _ _ htime hzone =>
    cases htime with
    | intro hclock => exact (TimeOfDay.isClockTime_shift_iff hzone.dvd).1 hclock

/-- Two colons stand in the time, so the text has a letter or three colons. -/
theorem letter_or_colons_mem (h : IsExchange m offset text) :
    'Z' ∈ text ∨ 'z' ∈ text ∨ 3 ≤ text.count ':' := by
  cases h with
  | intro hday hsep hclock hzone =>
    rcases hzone.letter_or_colon_mem with hletter | hletter | hcolon
    · exact Or.inl (by simp [hletter])
    · exact Or.inr (Or.inl (by simp [hletter]))
    · have hpos := List.count_pos_iff.2 hcolon
      have htwo := hclock.two_le_count
      refine Or.inr (Or.inr ?_)
      simp only [List.count_append, List.count_cons]
      omega

/-- A year stands at the front and a zone at the back. -/
theorem trim_eq (h : IsExchange m offset text) : trim text = text := by
  cases h with
  | @intro day clock zone sep hday _ _ hzone =>
    cases hday with
    | @intro _ year month day _ hyear =>
      rw [List.append_assoc]
      refine dropBoth_eq_self_of_ends (List.prefix_append year _) (?_ : zone <:+ _)
        (hyear.ne_nil (by decide)) hzone.ne_nil (fun c hc => isBlank_of_isDigit (hyear.isDigit c hc))
        fun c => hzone.isBlank_of_mem
      simp only [← List.cons_append, ← List.append_assoc]
      exact List.suffix_append _ zone

end IsExchange

namespace Moment

variable {m : Moment}

/-- What is written is a spelling, in every zone and for every year of four digits. -/
theorem isExchange_exchange {zone : List Char} (hclock : m.time.IsClockTime)
    (hlow : 0 ≤ m.date.year) (hhigh : m.date.year ≤ 9999) (hzone : IsZone offset zone) :
    IsExchange m offset (m.exchange zone) := by
  have htwo : ∀ {n}, n < 100 → IsNumeral 2 2 n (fixed 2 n) :=
    isNumeral_fixed (Nat.le_refl 2) (Nat.le_refl 2)
  have hmonth := m.date.month_le
  have hday := m.date.day_le_31
  have hhour := m.time.hour_lt
  have hminute := m.time.minute_lt
  have hsecond := m.time.second_le
  have hdayText : IsDayText m.date (fixed 4 m.date.year.natAbs ++ '-' :: (fixed 2 m.date.month ++
      '-' :: fixed 2 m.date.day)) :=
    .intro (Int.eq_natAbs_of_nonneg hlow)
      (isNumeral_fixed (Nat.le_refl 4) (Nat.le_refl 4) (show m.date.year.natAbs < 10000 by omega))
      (htwo (by omega)) (htwo (by omega))
  have hclockText : IsClockText m.time (fixed 2 m.time.hour ++ ':' :: (fixed 2 m.time.minute ++
      ':' :: (fixed 2 m.time.second ++ subsecondChars m.time.subsecond))) :=
    .intro hclock (htwo (by omega)) (htwo (by omega)) (htwo (by omega))
      (isSubsecond_subsecondChars (Nat.mod_lt _ (by decide)))
  have htext := IsExchange.intro hdayText (Or.inl rfl) hclockText hzone
  have hyear : yearChars m.date.year = fixed 4 m.date.year.natAbs := if_pos ⟨hlow, hhigh⟩
  simpa [exchange, hyear] using htext

end Moment

end StaticBlog
