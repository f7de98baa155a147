import StaticBlog.Proofs.Text.Digits
import StaticBlog.Proofs.Text.Substitution
import StaticBlog.Proofs.Url.Segments

/-!
# Permalinks in one pass

- `placeholders` : what the placeholders of a permalink stand for
- `fillPermalink_eq_substitute` : they are filled in as if in one pass
- `exists_mem_fillPermalink` : a template with a placeholder of a date has a part of the date
- `plainPath_joinWith` : paths of plain segments keep all of them
- `permalink_filled_in_one_pass` : the site path of a post
-/

namespace StaticBlog

open Text

/-! ## Placeholders -/

/-- What the placeholders of a permalink stand for; month and day have two digits. -/
def placeholders (date : Moment) (slug : List Char) : List (List Char × List Char) :=
  [(":year".toList, signed date.year), (":month".toList, fixed 2 date.month),
    (":day".toList, fixed 2 date.day), (":title".toList, slug)]

/-- A colon begins each placeholder, and letters follow. -/
structure ArePlaceholders (table : List (List Char × List Char)) : Prop where
  marked : IsMarked ':' table
  letters : ∀ q ∈ table, ∀ c ∈ q.1, c.isDigit = false ∧ c ≠ '-'

theorem ArePlaceholders.tail {q : List Char × List Char} {table : List (List Char × List Char)}
    (h : ArePlaceholders (q :: table)) : ArePlaceholders table :=
  ⟨h.marked.tail, fun x hx => h.letters x (List.mem_cons_of_mem q hx)⟩

theorem arePlaceholders (date : Moment) (slug : List Char) :
    ArePlaceholders (placeholders date slug) := by
  constructor
  · simp [IsMarked, placeholders]
  · have hnames : ((placeholders date slug).all fun q =>
        q.1.all fun c => !c.isDigit && c != '-') = true := rfl
    intro q hq c hc
    simpa using List.all_eq_true.1 (List.all_eq_true.1 hnames q hq) c hc

/-- A year, a month or a day as it is written. -/
def IsDatePart (s : List Char) : Prop := s ≠ [] ∧ ∀ c ∈ s, c.isDigit = true ∨ c = '-'

theorem isDatePart_signed (n : Int) : IsDatePart (signed n) := by
  have hne : digits n.natAbs ≠ [] := Nat.toDigits_ne_nil
  unfold signed
  split
  · refine ⟨List.cons_ne_nil _ _, fun c hc => ?_⟩
    rcases List.mem_cons.1 hc with rfl | hc
    · exact Or.inr rfl
    · exact Or.inl (isDigit_of_mem_digits hc)
  · exact ⟨hne, fun c hc => Or.inl (isDigit_of_mem_digits hc)⟩

theorem isDatePart_fixed (w n : Nat) : IsDatePart (fixed (w + 1) n) :=
  ⟨by simp [fixed], fun _ hc => Or.inl (isDigit_of_mem_fixed hc)⟩

/-- A part of a date filled in first changes nothing for the placeholders behind it. -/
theorem substitute_replace_datePart {p value : List Char} {table : List (List Char × List Char)}
    (htable : ArePlaceholders ((p, value) :: table)) (hvalue : IsDatePart value) (s : List Char) :
    substitute table (replace p value s) = substitute ((p, value) :: table) s := by
  obtain ⟨name, hp, -⟩ := htable.marked (p, value) List.mem_cons_self
  have hcolon : ':' ∉ value := by
    intro hmem
    rcases hvalue.2 ':' hmem with h | h
    · cases h
    · exact absurd h (by decide)
  have hhead : ∀ q ∈ table, ∀ c ∈ value.head?, c ∉ q.1 := by
    intro q hq c hc hmem
    obtain ⟨hdigit, hdash⟩ := htable.tail.letters q hq c hmem
    rcases hvalue.2 c (List.mem_of_mem_head? hc) with hd | hd
    · rw [hdigit] at hd
      cases hd
    · exact hdash hd
  rw [show p = ':' :: name from hp]
  exact substitute_replaceFrom htable.marked.tail hvalue.1 hcolon hhead s

/-- Filling in the placeholders one after the other is one pass with all of them. -/
theorem fillPermalink_eq_substitute (template : List Char) (date : Moment) (slug : List Char) :
    fillPermalink template date slug = substitute (placeholders date slug) template := by
  have h := arePlaceholders date slug
  let year := signed date.year
  let month := fixed 2 date.month
  let day := fixed 2 date.day
  calc fillPermalink template date slug
      = substitute [(":title".toList, slug)] (replace ":day".toList day
          (replace ":month".toList month (replace ":year".toList year template))) :=
        (substitute_singleton _ _ _).symm
    _ = substitute [(":day".toList, day), (":title".toList, slug)]
          (replace ":month".toList month (replace ":year".toList year template)) :=
        substitute_replace_datePart h.tail.tail (isDatePart_fixed 1 date.day) _
    _ = substitute [(":month".toList, month), (":day".toList, day), (":title".toList, slug)]
          (replace ":year".toList year template) :=
        substitute_replace_datePart h.tail (isDatePart_fixed 1 date.month) _
    _ = substitute (placeholders date slug) template :=
        substitute_replace_datePart h (isDatePart_signed date.year) _

/-! ## Dates -/

/-- The placeholders of a date. -/
def datePlaceholders : List String := [":year", ":month", ":day"]

/-- No placeholder is the beginning of another one. -/
theorem patternAt?_placeholders {date : Moment} {slug : List Char} {q : List Char × List Char}
    (hq : q ∈ placeholders date slug) (u : List Char) :
    patternAt? (placeholders date slug) (q.1 ++ u) = some q := by
  simp only [placeholders, List.mem_cons, List.not_mem_nil, or_false] at hq
  rcases hq with rfl | rfl | rfl | rfl <;> rfl

/-- What a placeholder of a date stands for is a part of the date. -/
theorem exists_datePart {q : String} (hq : q ∈ datePlaceholders) (date : Moment)
    (slug : List Char) :
    ∃ value, (q.toList, value) ∈ placeholders date slug ∧ IsDatePart value := by
  simp only [datePlaceholders, List.mem_cons, List.not_mem_nil, or_false] at hq
  rcases hq with rfl | rfl | rfl
  · exact ⟨_, List.mem_cons_self, isDatePart_signed date.year⟩
  · exact ⟨_, .tail _ List.mem_cons_self, isDatePart_fixed 1 date.month⟩
  · exact ⟨_, .tail _ (.tail _ List.mem_cons_self), isDatePart_fixed 1 date.day⟩

/-- A template with such a placeholder has a digit or a dash in its place. -/
theorem exists_mem_fillPermalink {template : List Char} {q : String} (hq : q ∈ datePlaceholders)
    (hmem : q.toList <:+: template) (date : Moment) (slug : List Char) :
    ∃ c ∈ fillPermalink template date slug, c.isDigit = true ∨ c = '-' := by
  obtain ⟨value, hvalue, hne, hpart⟩ := exists_datePart hq date slug
  obtain ⟨s, t, rfl⟩ := hmem
  obtain ⟨c, hc⟩ := List.exists_mem_of_ne_nil value hne
  refine ⟨c, ?_, hpart c hc⟩
  rw [fillPermalink_eq_substitute, List.append_assoc,
    (arePlaceholders date slug).marked.substitute_append_pattern hvalue
      (patternAt?_placeholders hvalue)]
  exact List.mem_append_right _ (List.mem_append_left _ hc)

/-- In a template without such placeholders only the title is filled in. -/
theorem fillPermalink_of_undated {template : List Char}
    (h : ∀ q ∈ datePlaceholders, ¬q.toList <:+: template) (date : Moment) (slug : List Char) :
    fillPermalink template date slug = replace ":title".toList slug template := by
  have hkept : ∀ q ∈ datePlaceholders, ∀ value,
      replace q.toList value template = template := by
    intro q hq value
    rw [replace]
    split
    · rfl
    · rw [← substitute_singleton]
      exact substitute_of_not_infix (by simpa using h q hq)
  rw [fillPermalink, hkept ":year" (by decide), hkept ":month" (by decide), hkept ":day" (by decide)]

/-! ## Plain paths -/

section

variable {ws : List (List Char)}

/-- Segments with slashes between are cut apart again. -/
theorem splitWhere_isSlash_joinWith (hws : ∀ w ∈ ws, Url.isPlainSegment w = true ∧ '/' ∉ w)
    (hne : ws ≠ []) : splitWhere Path.isSlash (joinWith ['/'] ws) = ws := by
  refine splitWhere_joinWith rfl (fun w hw c hc => ?_) hne
  have hslash : c ≠ '/' := fun heq => (hws w hw).2 (heq ▸ hc)
  simpa [Path.isSlash] using hslash

/-- A path of plain segments keeps all of them. -/
theorem plainPath_joinWith (hws : ∀ w ∈ ws, Url.isPlainSegment w = true ∧ '/' ∉ w) :
    plainPath (joinWith ['/'] ws) = joinWith ['/'] ws := by
  by_cases hne : ws = []
  · rw [hne]
    rfl
  · rw [plainPath, splitWhere_isSlash_joinWith hws hne,
      List.filter_eq_self.2 fun w hw => (hws w hw).1]

end

/-- The site path of a post is its template with year, month, day and title filled in, all in one
pass, so that a slug is never filled in again, and then without the segments that are empty or dots.
No slash begins or ends it, and every segment of it is plain, if it has any. Without placeholders in
it, it is a template that gives itself, for every date and slug. -/
theorem permalink_filled_in_one_pass (template : String) (date : Moment) (slug : String) :
    (expandPermalink template date slug).toList =
        joinWith ['/'] ((splitWhere Path.isSlash
          (substitute (placeholders date slug.toList) template.toList)).filter Url.isPlainSegment) ∧
      (expandPermalink template date slug).toList.head? ≠ some '/' ∧
      (expandPermalink template date slug).toList.getLast? ≠ some '/' ∧
      (expandPermalink template date slug ≠ "" →
        ∀ w ∈ splitWhere Path.isSlash (expandPermalink template date slug).toList,
          w ≠ [] ∧ w ≠ ['.'] ∧ w ≠ ['.', '.']) ∧
      ((∀ p ∈ [":year", ":month", ":day", ":title"],
          ¬p.toList <:+: (expandPermalink template date slug).toList) →
        ∀ date' slug', expandPermalink (expandPermalink template date slug) date' slug' =
          expandPermalink template date slug) := by
  obtain ⟨ws, hws, hplain⟩ := Url.exists_segments_expandPermalink template date slug
  have hbare := dropBoth_eq_self_iff.1 (Url.bare_joinWith hplain)
  rw [← hws] at hbare
  refine ⟨?_, fun h => ?_, fun h => ?_, fun hne w hw => ?_, fun hfree date' slug' => ?_⟩
  · rw [expandPermalink, String.toList_ofList, expandPermalinkChars, plainPath,
      fillPermalink_eq_substitute]
  · exact absurd (hbare.1 '/' h) (by decide)
  · exact absurd (hbare.2 '/' h) (by decide)
  · have hsome : ws ≠ [] := by
      rintro rfl
      exact hne (String.toList_eq_nil_iff.1 hws)
    rw [hws, splitWhere_isSlash_joinWith hplain hsome] at hw
    exact Url.ne_of_isPlainSegment (hplain w hw).1
  · have hkept : substitute (placeholders date' slug'.toList)
        (expandPermalink template date slug).toList = (expandPermalink template date slug).toList := by
      refine substitute_of_not_infix ?_
      simpa [placeholders] using hfree
    calc expandPermalink (expandPermalink template date slug) date' slug'
        = String.ofList (plainPath (expandPermalink template date slug).toList) := by
          rw [expandPermalink, expandPermalinkChars, fillPermalink_eq_substitute, hkept]
      _ = expandPermalink template date slug := by
          rw [hws, plainPath_joinWith hplain, ← hws, String.ofList_toList]

/-- A slug cannot lead out of the directory of its year, and the path it gives is a template of that
same path. -/
theorem permalink_of_dotted_slug :
    let date : Moment := ⟨⟨2024, 3, 5, by decide, by decide, by decide, by decide⟩, .midnight⟩
    let url := expandPermalink ":year/:title/" date "../x"
    url ≠ "" ∧ (∀ p ∈ [":year", ":month", ":day", ":title"], ¬p.toList <:+: url.toList) ∧
      url = "2024/x" ∧ expandPermalink url default "y" = url ∧
      ∀ w ∈ splitWhere Path.isSlash url.toList, w ≠ [] ∧ w ≠ ['.'] ∧ w ≠ ['.', '.'] := by
  intro date url
  have hurl : url = "2024/x" := by decide
  have hne : url ≠ "" := by rw [hurl]; decide
  have hfree : ∀ p ∈ [":year", ":month", ":day", ":title"], ¬p.toList <:+: url.toList := by
    rw [hurl]
    decide
  obtain ⟨-, -, -, hplain, hself⟩ := permalink_filled_in_one_pass ":year/:title/" date "../x"
  exact ⟨hne, hfree, hurl, hself hfree default "y", hplain hne⟩

example : expandPermalink ":title" default ":year" = ":year" := by decide

end StaticBlog
