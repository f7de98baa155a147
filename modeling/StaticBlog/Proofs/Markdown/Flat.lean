import StaticBlog.Markdown.Page
import StaticBlog.Proofs.Markdown.Resolution
import StaticBlog.Proofs.Text.Lines

/-!
# Lines outside of fences

In a text without quotations, lists, footnotes and the like no block holds another one. Its blocks
then begin and end with whole lines.

- `AreRecords` : the lines of a text, each with its ending
- `FenceLine`, `fenceLine?`, `FenceLine.Opens` : a line that begins fenced code
- `isPlain` : a line that begins no block which holds blocks, no HTML and no definition
- `Passed` : lines that begin no fenced code
- `Outline.Gains` : what an outline without open blocks becomes by more blocks
-/

namespace StaticBlog
namespace Markdown

/-! ## Lines with their endings -/

/-- The lines of a text, each with its ending. -/
inductive AreRecords : List (List Char) → Prop
  | nil : AreRecords []
  | cons {body ending : List Char} {rs : List (List Char)}
      (unbroken : ∀ c ∈ body, isBreak c = false) (ends : IsEnding ending rs.flatten)
      (text : body ++ ending ≠ []) (rest : AreRecords rs) : AreRecords ((body ++ ending) :: rs)

section

variable {p : Place} {body ending more : List Char} {rs : List (List Char)}

theorem lineOf_append (unbroken : ∀ c ∈ body, isBreak c = false) (ends : IsEnding ending more) :
    lineOf (body ++ ending) = body := by
  have hbody : ∀ c ∈ body, (!isBreak c) = true := fun c hc => by simp [unbroken c hc]
  rw [lineOf, List.takeWhile_append_of_pos hbody]
  cases ends <;> simp [isBreak]

/-- A place before the first of some lines is in this line. -/
theorem inLine_of_flatten (unbroken : ∀ c ∈ body, isBreak c = false)
    (ends : IsEnding ending rs.flatten) (hp : p.rest = ((body ++ ending) :: rs).flatten) :
    InLine p body ending rs.flatten := by
  refine ⟨?_, unbroken, ends⟩
  rw [hp, List.flatten_cons, List.append_assoc]

/-- A place before some lines is at the end of the text or in the first of them. -/
theorem AreRecords.inLine (h : AreRecords rs) (hp : p.rest = rs.flatten) :
    (rs = [] ∧ InLine p [] [] []) ∨
      ∃ body ending rest, rs = (body ++ ending) :: rest ∧ InLine p body ending rest.flatten ∧
        lineOf (body ++ ending) = body ∧ AreRecords rest := by
  cases h with
  | nil => exact Or.inl ⟨rfl, hp, fun c hc => absurd hc List.not_mem_nil, .last⟩
  | cons unbroken ends text hrest =>
    have hline := inLine_of_flatten unbroken ends hp
    exact Or.inr ⟨_, _, _, rfl, hline, lineOf_append unbroken ends, hrest⟩

theorem withoutEnding_append (unbroken : ∀ c ∈ body, isBreak c = false)
    (ends : IsEnding ending more) : Text.withoutEnding (body ++ ending) = body := by
  have hfeed : '\n' ∉ body := fun h => by cases unbroken '\n' h
  have hlast : body.getLast? ≠ some '\r' := fun h => by
    cases unbroken '\r' (List.mem_of_getLast? h)
  cases ends with
  | returnFeed => exact Text.withoutEnding_append_returnFeed body
  | feed => rw [Text.withoutEnding_append_feed, if_neg hlast]
  | last => rw [List.append_nil, Text.withoutEnding_of_not_mem hfeed]

theorem AreRecords.length_le (h : AreRecords rs) : rs.length ≤ rs.flatten.length := by
  induction h with
  | nil => exact Nat.le_refl 0
  | cons _ _ text _ ih =>
    have hpos := List.length_pos_iff.2 text
    rw [List.flatten_cons, List.length_append, List.length_cons]
    omega

theorem AreRecords.eq_nil (h : AreRecords rs) (htext : rs.flatten = []) : rs = [] := by
  have hle := h.length_le
  rw [htext] at hle
  exact List.eq_nil_of_length_eq_zero (Nat.le_zero.1 hle)

end

/-- Lines as they are kept: a line feed ends each of them, except maybe the last one. -/
inductive AreKept : List (List Char) → Prop
  | nil : AreKept []
  | last {r : List Char} (text : r ≠ []) (unbroken : '\n' ∉ r) : AreKept [r]
  | cons {w : List Char} {rs : List (List Char)} (unbroken : '\n' ∉ w) (rest : AreKept rs) :
      AreKept ((w ++ ['\n']) :: rs)

theorem areKept_linesKept (s : List Char) : AreKept (Text.linesKept s) := by
  induction s with
  | nil => exact .nil
  | cons c s ih =>
    unfold Text.linesKept
    split
    · next hc =>
      subst hc
      exact .cons (w := []) List.not_mem_nil ih
    · next hc =>
      have hfront : ∀ w : List Char, '\n' ∉ w → '\n' ∉ c :: w := fun w hw hmem =>
        (List.mem_cons.1 hmem).elim (fun heq => hc heq.symm) hw
      -- The character joins the first line of what follows, if there is one.
      revert ih
      cases Text.linesKept s with
      | nil => exact fun _ => .last (List.cons_ne_nil c []) (hfront [] List.not_mem_nil)
      | cons r rs =>
        intro ih
        cases ih with
        | last text unbroken => exact .last (List.cons_ne_nil c r) (hfront r unbroken)
        | cons unbroken rest => exact .cons (hfront _ unbroken) rest

/-- The lines of a text in which a carriage return stands only before a line feed. -/
theorem AreKept.areRecords {rs : List (List Char)} (h : AreKept rs)
    (hreturn : ∀ r ∈ rs, lineOf r = Text.withoutEnding r) : AreRecords rs := by
  have hunbroken : ∀ (r : List Char), ∀ c ∈ lineOf r, isBreak c = false := fun r c hc => by
    simpa using List.mem_takeWhile_imp hc
  induction h with
  | nil => exact .nil
  | @last r text unbroken =>
    have hr := hunbroken r
    rw [hreturn r List.mem_cons_self, Text.withoutEnding_of_not_mem unbroken] at hr
    have hrecords : AreRecords [r ++ []] := .cons hr .last (by rwa [List.append_nil]) .nil
    rwa [List.append_nil] at hrecords
  | @cons w rs unbroken rest ih =>
    have hrest := ih fun r hr => hreturn r (List.mem_cons_of_mem _ hr)
    have hr := hunbroken (w ++ ['\n'])
    rw [hreturn _ List.mem_cons_self] at hr
    by_cases hlast : w.getLast? = some '\r'
    · -- A carriage return in front of the line feed belongs to the ending.
      obtain ⟨v, rfl⟩ := List.getLast?_eq_some_iff.1 hlast
      rw [List.append_assoc, List.singleton_append] at hr ⊢
      rw [Text.withoutEnding_append_returnFeed] at hr
      exact .cons hr (.returnFeed _) (by simp) hrest
    · rw [Text.withoutEnding_append_feed, if_neg hlast] at hr
      exact .cons hr (.feed _) (by simp) hrest

/-! ## Fences -/

/-- A line that begins fenced code. -/
structure FenceLine where
  mark : Char
  length : Nat
  /-- The columns before the fence. -/
  indent : Nat
  language : Option String
  deriving DecidableEq, Repr

/-- The fence that a line without its ending begins fenced code with. -/
def fenceLine? (body : List Char) : Option FenceLine :=
  let (n, c) := (atStart body).skip 4
  let s := c.place.rest
  if n = 4 then none
  else (openFence? s).map fun (mark, length) =>
    let info := Text.dropBack (fun c => isSpace c || isBreak c) (skipSpaces (s.drop length))
    ⟨mark, length, n, languageOf (some (unescape false info))⟩

/-- Whether a line without its ending begins no block that holds blocks, no HTML and no definition.
-/
def isPlain (body : List Char) : Bool :=
  let (n, c) := (atStart body).skip 4
  let s := c.place.rest
  n = 4 || (!(s.head?.any fun d => d = '>' || d = '<' || d = '[') &&
    (isRule s || (bullet? s).isNone))

/-- What remains of lines behind some that begin no fenced code. -/
inductive Passed : List (List Char) → List (List Char) → Prop
  | refl (rs : List (List Char)) : Passed rs rs
  | step {r : List Char} {rs rest : List (List Char)} (h : fenceLine? (lineOf r) = none)
      (hrest : Passed rs rest) : Passed (r :: rs) rest

theorem Passed.trans {rs rest left : List (List Char)} (h : Passed rs rest)
    (h' : Passed rest left) : Passed rs left := by
  induction h with
  | refl => exact h'
  | step hr _ ih => exact .step hr (ih h')

/-- What ends a line is no part of a fence. -/
theorem openFence?_append {s ending more : List Char} (ends : IsEnding ending more) :
    openFence? (s ++ ending) = openFence? s := by
  cases s with
  | nil => cases ends <;> rfl
  | cons c s =>
    by_cases hc : c = '\x60' ∨ c = '~'
    · -- No ending holds a mark of a fence, so that a run of marks stops before it.
      have hending : ending.takeWhile (· = c) = [] := by
        rcases hc with rfl | rfl <;> cases ends <;> rfl
      have htake : (c :: s ++ ending).takeWhile (· = c) = (c :: s).takeWhile (· = c) := by
        rw [List.takeWhile_append]
        split
        · next hall =>
          rw [hending, List.append_nil]
          exact ((List.takeWhile_prefix _).eq_of_length hall).symm
        · rfl
      have hle : ((c :: s).takeWhile (· = c)).length ≤ (c :: s).length :=
        (List.takeWhile_sublist _).length_le
      have hticks : ending.contains '\x60' = false := by cases ends <;> rfl
      have hrest : ((c :: s ++ ending).drop (run c (c :: s))).contains '\x60' =
          ((c :: s).drop (run c (c :: s))).contains '\x60' := by
        rw [run, List.drop_append_of_le_length hle, List.contains_append, hticks, Bool.or_false]
      have hrun : run c (c :: (s ++ ending)) = run c (c :: s) := congrArg List.length htake
      rw [List.cons_append] at hrest ⊢
      simp only [openFence?, hrun, hrest]
    · rcases not_or.1 hc with ⟨htick, htilde⟩
      simp [openFence?, htick, htilde]

theorem openFence?_eq_some {s : List Char} {mark : Char} {length : Nat}
    (h : openFence? s = some (mark, length)) :
    ∃ rest, s = mark :: rest ∧ (mark = '\x60' ∨ mark = '~') ∧ length = run mark s ∧ 3 ≤ length := by
  unfold openFence? at h
  split at h
  · cases h
  · next c s =>
    simp only at h
    split at h
    · next hcond =>
      cases h
      simp only [Bool.and_eq_true, Bool.or_eq_true, decide_eq_true_eq] at hcond
      exact ⟨s, rfl, hcond.1.1, rfl, hcond.1.2⟩
    · cases h

/-- What stands behind the blanks of a line that begins fenced code. -/
structure FenceLine.Opens (f : FenceLine) (s : List Char) : Prop where
  shallow : f.indent < 4
  opens : openFence? s = some (f.mark, f.length)
  language : f.language = languageOf (some (unescape false
    (Text.dropBack (fun c => isSpace c || isBreak c) (skipSpaces (s.drop f.length)))))

theorem opens_of_fenceLine? {body : List Char} {f : FenceLine} (h : fenceLine? body = some f) :
    f.indent = ((atStart body).skip 4).1 ∧ f.Opens ((atStart body).skip 4).2.place.rest := by
  have hle := (Cursor.skip_le (atStart body) 4).1
  unfold fenceLine? at h
  simp only at h
  split at h
  · cases h
  · next hdeep =>
    rcases Option.map_eq_some_iff.1 h with ⟨⟨mark, length⟩, hopen, rfl⟩
    exact ⟨rfl, Nat.lt_of_le_of_ne hle hdeep, hopen, rfl⟩

/-- A fence is a run of one mark. -/
theorem FenceLine.Opens.eq_run {f : FenceLine} {s : List Char} (h : f.Opens s) :
    ∃ tail, s = f.mark :: tail ∧ (f.mark = '\x60' ∨ f.mark = '~') ∧ f.length = run f.mark s ∧
      3 ≤ f.length :=
  openFence?_eq_some h.opens

/-- What ends the line of a fence says nothing of the language. -/
theorem dropBack_ending {ending more s : List Char} (ends : IsEnding ending more) :
    Text.dropBack (fun c => isSpace c || isBreak c) (s ++ ending) =
      Text.dropBack (fun c => isSpace c || isBreak c) s := by
  refine Text.dropBack_append_of_forall s fun c hc => ?_
  cases ends <;> simp at hc
  · rw [hc]
    rfl
  · rcases hc with rfl | rfl <;> rfl

/-! ## Outlines without open blocks -/

/-- No block is open, and no task waits for its text. -/
structure Outline.Flat (o : Outline) : Prop where
  frames : o.frames = []
  task : o.task = none

/-- What an outline becomes by more blocks. -/
structure Outline.Gains (o : Outline) (ns : List Node) (o' : Outline) : Prop where
  flat : o'.Flat
  body : o'.body = ns.reverse ++ o.body
  size : o'.size = o.size

namespace Outline

variable {o : Outline}

theorem within_flat (ho : o.Flat) (p : Place) : o.within p = (true, { place := p }) := by
  simp [within, spine, ho.frames, goOn]

theorem popTo_flat (ho : o.Flat) (stop : Nat) : o.popTo 0 stop = o := by
  simp [popTo, ho.frames]

theorem Gains.none (ho : o.Flat) : o.Gains [] o := ⟨ho, rfl, rfl⟩

theorem Gains.trans {o₁ o₂ : Outline} {ns ms : List Node} (h : o.Gains ns o₁)
    (h' : o₁.Gains ms o₂) : o.Gains (ns ++ ms) o₂ := by
  refine ⟨h'.flat, ?_, h'.size.trans h.size⟩
  rw [h'.body, h.body, List.reverse_append, List.append_assoc]

theorem gains_add (ho : o.Flat) (n : Node) : o.Gains [n] (o.add n) := by
  unfold add
  rw [ho.frames]
  exact ⟨⟨rfl, ho.task⟩, rfl, rfl⟩

theorem gains_finishList (ho : o.Flat) (stop : Nat) : o.Gains [] (o.finishList stop) := by
  have hempty : o.finishEmptyItem stop = { o with emptyItem := false } := by
    simp [finishEmptyItem, ho.frames, isItem]
  unfold finishList
  simp only [hempty, ho.frames]
  split <;> exact ⟨⟨rfl, ho.task⟩, rfl, rfl⟩

end Outline

/-! ## The start of a line -/

section

variable {p : Place} {body ending more : List Char}

/-- Passing blanks at the start of a line stays in it. -/
theorem InLine.afterSkip (h : InLine p body ending more) (n : Nat) :
    InLine (Cursor.skip { place := p } n).2.place ((atStart body).skip n).2.place.rest ending
      more := by
  rcases Cursor.skip_rest (atStart body) n with ⟨front, hfront, -, -⟩
  rw [h.skip]
  exact h.shift p.offset hfront

theorem InLine.skip_fst (h : InLine p body ending more) (n : Nat) :
    (Cursor.skip { place := p } n).1 = ((atStart body).skip n).1 := by
  rw [h.skip]

theorem InLine.skip_line (h : InLine p body ending more) (n : Nat) :
    (Cursor.skip { place := p } n).2.line = ((atStart body).skip n).2.place.rest :=
  (h.afterSkip n).line

theorem InLine.isAtEnd_iff (h : InLine p body ending more) (n : Nat) :
    (Cursor.skip { place := p } n).2.isAtEnd = true ↔
      ((atStart body).skip n).2.place.rest = [] :=
  (h.afterSkip n).breakLength?_isSome_iff

/-- A fence stands behind fewer than four columns of blanks, and something follows them. -/
theorem fenceLine?_eq_none (h : ((atStart body).skip 4).1 = 4 ∨
    ((atStart body).skip 4).2.place.rest = []) : fenceLine? body = none := by
  unfold fenceLine?
  simp only
  rcases h with h | h
  · rw [if_pos h]
  · rw [h]
    split <;> rfl

end

theorem InLine.afterBreak? {p q : Place} {body ending more : List Char}
    (h : InLine p body ending more) (hq : p.afterBreak? = some q) : q.rest = more := by
  rcases Option.map_eq_some_iff.1 hq with ⟨n, hn, rfl⟩
  have hnil := h.breakLength?_isSome_iff.1 (by rw [hn]; rfl)
  subst hnil
  rw [h.rest, List.nil_append, h.ends.breakLength?] at hn
  cases hn
  rw [Place.advance, h.rest, List.nil_append]
  exact List.drop_left

end Markdown
end StaticBlog
